/-
# What an analyzer makes of a response

The rule that an analyzer is held to speaks of what its parsers find on the page alone.  An item is handed
on as it is, and a request as it is but for its place: it lies one deeper than the page, and it gets the
spider of the page if it names none (`Analyzer.Placed`).  An error that a stage has its name on is handed on
as it is, and every other one as an error of analysing this page (`CrawlError.Attributed`).

* Of every find of every parser one is handed on, in the order of the parsers (`runAll_eq`).  A parser that
  fails takes nothing away from the others.
* What is handed on by the first ones of some parsers and by the others, one behind the other, is what is
  handed on by all (`analyze_append`).
* Nothing is handed on at all if there is a request among the finds on a page at the last depth: the
  analysis breaks off (`analyze_eq_none_iff`).

A response whose request is not valid is refused before a parser sees it: whatever the parsers are, one
error is all that comes of it (`Analyzer.finds_are_merged`).
-/
import CrawlMesh.Proofs.Crawl.Policy
import Mathlib.Data.List.Forall2

namespace CrawlMesh

set_option autoImplicit false

/-! ## Errors of a stage -/

namespace CrawlError

/-- What is handed on of an error that arises in a stage: an error of a stage is handed on as it is, and
every other one as an error of this stage. -/
inductive Attributed (s : Stage) (context : String) : CrawlError → CrawlError → Prop
  | kept (t : Stage) (message c : String) : Attributed s context (.stage t message c) (.stage t message c)
  | wrapped (e : CrawlError) (other : ∀ t message c, e ≠ .stage t message c) :
      Attributed s context e (.stage s e.text context)

theorem attributed_inStage (s : Stage) (context : String) (e : CrawlError) :
    Attributed s context e (e.inStage s context) := by
  cases e with
  | stage t message c => exact .kept t message c
  | _ => exact .wrapped _ (by simp)

end CrawlError

namespace Analyzer

variable {response : Response}

/-! ## Finds on a page -/

/-- What is handed on of a datum that is found on the page of a request. -/
inductive Placed (page : Request) : Datum → Datum → Prop
  | item (i : Item) : Placed page (.item i) (.item i)
  | request (r : Request) (depth : UInt32) (spider : String)
      (deeper : depth.toNat = page.depth.toNat + 1)
      (named : r.spiderName ≠ "" → spider = r.spiderName)
      (unnamed : r.spiderName = "" → spider = page.spiderName) :
      Placed page (.request r) (.request { r with depth := depth, spiderName := spider })

/-- A find on a page, if there is a depth behind the one of the page. -/
def handedOn (page : Response) : Datum → Datum
  | .request r => .request { r with
      depth := page.depth + 1
      spiderName := if r.spiderName.isEmpty then page.request.spiderName else r.spiderName }
  | .item i => .item i

/-- No depth is behind the last one. -/
theorem succ_depth_eq_zero_iff {depth : UInt32} : depth + 1 = 0 ↔ depth.toNat + 1 = 2 ^ 32 := by
  rw [← UInt32.toNat_inj, UInt32.toNat_add]
  change (depth.toNat + 1) % 2 ^ 32 = 0 ↔ _
  have := depth.toNat_lt
  omega

theorem toNat_succ_depth {depth : UInt32} (more : depth + 1 ≠ 0) :
    (depth + 1).toNat = depth.toNat + 1 := by
  have := depth.toNat_lt
  have inner := mt succ_depth_eq_zero_iff.mpr more
  rw [UInt32.toNat_add]
  exact Nat.mod_eq_of_lt (by change depth.toNat + 1 < 2 ^ 32; omega)

theorem placed_handedOn {page : Response} (room : page.depth.toNat + 1 < 2 ^ 32) (d : Datum) :
    Placed page.request d (handedOn page d) := by
  cases d with
  | item i => exact .item i
  | request r =>
      refine .request r _ _ ?_ (fun named => ?_) fun unnamed => ?_
      · rw [← page.depth_eq]
        exact toNat_succ_depth fun last => Nat.ne_of_lt room (succ_depth_eq_zero_iff.mp last)
      · rw [if_neg (by simpa using named)]
      · rw [if_pos (by simpa using unnamed)]

/-- An analysis of a page breaks off at a find if that is a request and the page at the last depth. -/
def Breaks (page : Response) (d : Datum) : Prop := page.depth + 1 = 0 ∧ ∃ r, d = .request r

open Classical in
theorem onPage_eq (page : Response) (d : Datum) :
    onPage page d = if Breaks page d then none else some (handedOn page d) := by
  cases d with
  | item i => rw [if_neg (by simp [Breaks]), onPage, handedOn]
  | request r =>
      by_cases last : page.depth + 1 = 0
      · rw [if_pos ⟨last, r, rfl⟩, onPage, if_pos last]
      · rw [if_neg fun breaks => last breaks.1, onPage, if_neg last, handedOn]

/-! ## Several parsers -/

open Classical in
/-- A list is mapped member by member, unless there is one that cannot be. -/
theorem mapM_eq_ite {α β : Type} {f : α → Option β} {p : α → Prop} {g : α → β}
    (each : ∀ x, f x = if p x then none else some (g x)) (l : List α) :
    l.mapM f = if ∃ x ∈ l, p x then none else some (l.map g) := by
  induction l with
  | nil => simp
  | cons x rest ih =>
      rw [List.mapM_cons, each, ih]
      by_cases here : p x
      · simp [here]
      · by_cases later : ∃ y ∈ rest, p y
        · simp [here, later]
        · simp [here, later]

/-- The analysis of a page breaks off at a find of a parser. -/
def Broken (page : Response) (parser : PageParser) : Prop := ∃ d ∈ (parser page).data, Breaks page d

open Classical in
theorem runParser_eq (response : Response) (parser : PageParser) :
    runParser response parser = if Broken response parser then none
      else some ⟨(parser response).data.map (handedOn response),
        (parser response).errors.map (.inStage .analyze response.url.text)⟩ := by
  have data : (parser response).data.mapM (onPage response) = if Broken response parser then none
      else some ((parser response).data.map (handedOn response)) :=
    (mapM_eq_ite (onPage_eq response) _).trans (if_congr Iff.rfl rfl rfl)
  rw [runParser, data]
  split <;> rfl

open Classical in
/-- What all parsers find is handed on, one behind the other, unless the analysis breaks off. -/
theorem runAll_eq (parsers : List PageParser) (response : Response) :
    runAll ⟨parsers⟩ response = if ∃ parser ∈ parsers, Broken response parser then none
      else some ⟨(parsers.flatMap fun parser => (parser response).data).map (handedOn response),
        (parsers.flatMap fun parser => (parser response).errors).map
          (.inStage .analyze response.url.text)⟩ := by
  rw [runAll, mapM_eq_ite (runParser_eq response)]
  split
  · rfl
  · simp [Yield.concat, List.flatMap_map, List.map_flatMap]

/-- An analysis breaks off just if a request is found on a page at the last depth. -/
theorem analyze_eq_none_iff {a : Analyzer} {response : Response} :
    a.analyze response = none ↔ response.request.validate = .ok () ∧
      response.depth.toNat + 1 = 2 ^ 32 ∧
      ∃ parser ∈ a.parsers, ∃ r, .request r ∈ (parser response).data := by
  cases valid : response.request.validate with
  | error e => simp [analyze, valid]
  | ok _ =>
      have broken : (∃ parser ∈ a.parsers, Broken response parser) ↔ response.depth.toNat + 1 = 2 ^ 32 ∧
          ∃ parser ∈ a.parsers, ∃ r, .request r ∈ (parser response).data := by
        rw [← succ_depth_eq_zero_iff]
        constructor
        · rintro ⟨parser, member, _, found, last, r, rfl⟩
          exact ⟨last, parser, member, r, found⟩
        · rintro ⟨last, parser, member, r, found⟩
          exact ⟨parser, member, _, found, last, r, rfl⟩
      rw [analyze_of_valid a valid, runAll_eq, ← broken]
      split <;> simp_all

/-- What is handed on of a valid response, if the analysis does not break off. -/
theorem analyze_eq_some {a : Analyzer} {found : Yield} (valid : response.request.validate = .ok ())
    (done : a.analyze response = some found) :
    found = ⟨(a.parsers.flatMap fun parser => (parser response).data).map (handedOn response),
      (a.parsers.flatMap fun parser => (parser response).errors).map
        (.inStage .analyze response.url.text)⟩ := by
  rw [analyze_of_valid a valid, runAll_eq] at done
  split at done
  · cases done
  · exact (Option.some.inj done).symm

/-- A request that is handed on comes from a parser, and lies one deeper than the page. -/
theorem request_of_analyze {a : Analyzer} {found : Yield} {r : Request}
    (done : a.analyze response = some found) (among : .request r ∈ found.data) :
    response.request.validate = .ok () ∧ r.depth.toNat = response.depth.toNat + 1 ∧
      ∃ parser ∈ a.parsers, ∃ q, .request q ∈ (parser response).data ∧
        handedOn response (.request q) = .request r := by
  cases valid : response.request.validate with
  | error e =>
      rw [analyze, valid] at done
      cases done
      cases among
  | ok _ =>
      rw [analyze_eq_some valid done, List.mem_map] at among
      obtain ⟨d, among, same⟩ := among
      obtain ⟨parser, member, find⟩ := List.mem_flatMap.mp among
      cases d with
      | item i => cases same
      | request q =>
          have more : response.depth + 1 ≠ 0 := fun last => by
            have breaks := analyze_eq_none_iff.mpr
              ⟨valid, succ_depth_eq_zero_iff.mp last, parser, member, q, find⟩
            cases breaks.symm.trans done
          have depth : r.depth = response.depth + 1 := by
            cases same
            rfl
          exact ⟨rfl, depth ▸ toNat_succ_depth more, parser, member, q, find, same⟩

/-- Parsers that follow others add what they find behind it. -/
theorem analyze_append (valid : response.request.validate = .ok ()) (first others : List PageParser) :
    analyze ⟨first ++ others⟩ response =
      (analyze ⟨first⟩ response).bind fun found =>
        (analyze ⟨others⟩ response).map found.append := by
  simp only [analyze_of_valid _ valid, runAll, List.mapM_append]
  cases first.mapM (runParser response) with
  | none => rfl
  | some found =>
      cases others.mapM (runParser response) with
      | none => rfl
      | some more => simp [Yield.concat, Yield.append]

/-- **An analyzer merges what its parsers find and loses nothing.**  Of a response to a valid request that
does not lie at the last depth every find of every parser is handed on in its place, data and errors both in
the order of the parsers.  Parsers can be parted into first ones and others without a change of either.  Of
any other response nothing comes but the error that its request is not valid, whatever the parsers are. -/
theorem finds_are_merged (response : Response) :
    (response.request.validate = .ok () → response.depth.toNat + 1 < 2 ^ 32 →
      ∀ parsers : List PageParser, ∃ found, analyze ⟨parsers⟩ response = some found ∧
        List.Forall₂ (Placed response.request)
          (parsers.flatMap fun parser => (parser response).data) found.data ∧
        List.Forall₂ (CrawlError.Attributed .analyze response.url.text)
          (parsers.flatMap fun parser => (parser response).errors) found.errors) ∧
    (response.request.validate = .ok () → ∀ first others : List PageParser,
      analyze ⟨first ++ others⟩ response =
        (analyze ⟨first⟩ response).bind fun found =>
          (analyze ⟨others⟩ response).map found.append) ∧
    ∀ e, response.request.validate = .error e → ∀ a : Analyzer,
      a.analyze response = some ⟨[], [.stage .analyze e.text response.url.text]⟩ := by
  refine ⟨fun valid room parsers => ?_, fun valid => analyze_append valid, fun e refused a => ?_⟩
  · obtain ⟨found, done⟩ := Option.ne_none_iff_exists'.mp fun broken =>
      Nat.ne_of_lt room (analyze_eq_none_iff (a := ⟨parsers⟩).mp broken).2.1
    refine ⟨found, done, ?_⟩
    rw [analyze_eq_some valid done, List.forall₂_map_right_iff, List.forall₂_map_right_iff,
      List.forall₂_same, List.forall₂_same]
    exact ⟨fun d _ => placed_handedOn room d, fun e _ => CrawlError.attributed_inStage _ _ e⟩
  · simp only [analyze, refused]

/-- A page of the spider of books. -/
def shelf : Response := .of { Scheduler.page "shelf" with spiderName := "books" } 200 "<html>"

/-- A parser that finds a title and two links, one of them for another spider. -/
def reading : PageParser := fun _ =>
  ⟨[.item [("title", .text "Dune")], .request (Scheduler.page "next"),
    .request { Scheduler.page "map" with spiderName := "maps" }], []⟩

/-- A parser that finds a link and fails twice. -/
def stumbling : PageParser := fun _ =>
  ⟨[.request (Scheduler.page "last")], [.argument "no price", .stage .process "no room" "books"]⟩

/-- A page that is reached in a way that no request can be sent. -/
def remote : Response :=
  .of { shelf.request with url := { shelf.request.url with scheme := "ftp" } } 200 "<html>"

/-- Both parsers on the page, and on the one that no request can be sent for. -/
theorem finds_are_merged_two_parsers :
    let page := shelf.request
    ∃ found, analyze ⟨[reading, stumbling]⟩ shelf = some found ∧
    page.validate = .ok () ∧ page.depth.toNat + 1 < 2 ^ 32 ∧
      List.Forall₂ (Placed page) ((reading shelf).data ++ (stumbling shelf).data) found.data ∧
      found.data = [.item [("title", .text "Dune")],
        .request { Scheduler.page "next" with depth := 1, spiderName := "books" },
        .request { Scheduler.page "map" with depth := 1, spiderName := "maps" },
        .request { Scheduler.page "last" with depth := 1, spiderName := "books" }] ∧
      List.Forall₂ (CrawlError.Attributed .analyze "http://a.bc/shelf") (stumbling shelf).errors
        found.errors ∧
      some found = ((analyze ⟨[reading]⟩ shelf).bind fun found =>
        (analyze ⟨[stumbling]⟩ shelf).map found.append) ∧
      (∃ e, remote.request.validate = .error e ∧
        analyze ⟨[reading, stumbling]⟩ remote =
          some ⟨[], [.stage .analyze e.text remote.url.text]⟩) := by
  intro page
  have valid : page.validate = .ok () := by decide
  have room : page.depth.toNat + 1 < 2 ^ 32 := by decide
  obtain ⟨merged, parted, -⟩ := finds_are_merged shelf
  obtain ⟨found, done, data, errors⟩ := merged valid room [reading, stumbling]
  obtain ⟨-, -, refused⟩ := finds_are_merged remote
  refine ⟨found, done, valid, room, data, ?_, errors, ?_, _, rfl, refused _ rfl _⟩
  · cases done
    rfl
  · rw [← done]
    exact parted valid [reading] [stumbling]

end Analyzer

end CrawlMesh
