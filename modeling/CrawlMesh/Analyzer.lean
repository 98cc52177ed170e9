/-
# Analyzers

An analyzer runs all its parsers over a response and puts what they yield together in their
order. A request found on a page lies one deeper than the page and belongs to the same spider,
unless the parser named another one. No request lies deeper than the last depth that a page can
have: an analysis that finds a request on such a page breaks off.
-/
import CrawlMesh.Meter
import CrawlMesh.Rule.Reader

namespace CrawlMesh

set_option autoImplicit false

/-- A parser of responses. -/
abbrev PageParser := Response → Yield

/-- An analyzer: parsers in the order in which they run. -/
structure Analyzer where
  parsers : List PageParser

namespace Analyzer

/-- An analyzer of at least one parser. -/
def of (parsers : List PageParser) : Outcome Analyzer :=
  if parsers.isEmpty then .error (.argument "analyzer needs at least one response parser")
  else .ok ⟨parsers⟩

/-- A datum as a find on a page. There is none for a request on a page at the last depth that can
be counted. -/
def onPage (page : Response) : Datum → Option Datum
  | .request r =>
    if page.depth + 1 = 0 then none
    else some (.request { r with
      depth := page.depth + 1
      spiderName := if r.spiderName.isEmpty then page.request.spiderName else r.spiderName })
  | .item i => some (.item i)

/-- What one parser yields, as a find on the page. -/
def runParser (response : Response) (parser : PageParser) : Option Yield := do
  let found := parser response
  return ⟨← found.data.mapM (onPage response), found.errors.map (.inStage .analyze response.url.text)⟩

/-- What all parsers yield. -/
def runAll (a : Analyzer) (response : Response) : Option Yield := do
  return .concat (← a.parsers.mapM (runParser response))

/-- What a response yields; one whose request is not valid is refused. An analysis breaks off, and
yields nothing at all, at a find that lies too deep to be counted. -/
def analyze (a : Analyzer) (response : Response) : Option Yield :=
  match response.request.validate with
  | .ok _ => a.runAll response
  | .error e => some ⟨[], [.stage .analyze e.text response.url.text]⟩

/-- A call of an analyzer with a meter. One that breaks off is not completed. -/
def call (a : Analyzer) (m : Meter) (response : Response) : Option Yield × Meter :=
  let found := a.analyze response
  (found, m.count response.request.validate.isOk (found.any (·.errors.isEmpty)))

end Analyzer

end CrawlMesh
