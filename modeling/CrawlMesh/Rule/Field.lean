/-
# Field rules

How the value of a field is taken from a page, and the text of such a rule: a kind, for
attributes a point and a name, a bar and a selector, as in `attr.href|a.next`. A text without a
bar is a constant. What stands before the first bar decides whether a text is a rule, so the
text of a rule is never changed by reading it.
-/
import CrawlMesh.Error
import CrawlMesh.Text.Quoted
import CrawlMesh.Text.Split

namespace CrawlMesh

set_option autoImplicit false

/-- What is taken from the elements that a selector finds. -/
inductive Extract
  /-- The text of all of them in one. -/
  | text
  /-- What is written inside the first one. -/
  | html
  /-- The attribute of the first one that has it. -/
  | attribute (name : String)
  /-- The text of each. -/
  | texts
  /-- What is written inside each. -/
  | htmls
  /-- The attribute of each that has it. -/
  | attributes (name : String)
  /-- A fixed value. -/
  | constant (value : String)
deriving DecidableEq, Repr, Inhabited

namespace Extract

/-- The text of an extraction, as it is shown. -/
def shown : Extract → String
  | .text => "Text"
  | .html => "Html"
  | .attribute name => s!"Attr({Text.quoted name})"
  | .texts => "Texts"
  | .htmls => "Htmls"
  | .attributes name => s!"Attrs({Text.quoted name})"
  | .constant value => s!"Const({Text.quoted value})"

/-- The extraction of a kind and, for the kinds that have one, an attribute's name. -/
def ofKind? (kind : List Char) : Option Extract :=
  match Text.splitFirst? '.' kind with
  | none =>
    match String.ofList kind with
    | "text" => some .text
    | "html" => some .html
    | "texts" => some .texts
    | "htmls" => some .htmls
    | _ => none
  | some (word, name) =>
    match String.ofList word with
    | "attr" => some (.attribute (String.ofList name))
    | "attrs" => some (.attributes (String.ofList name))
    | _ => none

end Extract

/-- A rule for a field. -/
structure FieldRule where
  extract : Extract
  selector : Option String
deriving DecidableEq, Repr, Inhabited

namespace FieldRule

/-- The rule that a text stands for. -/
def parse (s : String) : Outcome FieldRule :=
  match Text.splitFirst? '|' s.toList with
  | none => .ok ⟨.constant s, none⟩
  | some (kind, selector) =>
    match Extract.ofKind? kind with
    | some extract => .ok ⟨extract, some (String.ofList selector)⟩
    | none => .error (.argument
        s!"unknown field rule kind {Text.quoted (String.ofList kind)} in {Text.quoted s}")

/-- The text of a rule. -/
def text (r : FieldRule) : String :=
  let selector := r.selector.getD ""
  match r.extract with
  | .text => "text|" ++ selector
  | .html => "html|" ++ selector
  | .attribute name => "attr." ++ name ++ "|" ++ selector
  | .texts => "texts|" ++ selector
  | .htmls => "htmls|" ++ selector
  | .attributes name => "attrs." ++ name ++ "|" ++ selector
  | .constant value => value

def toJson (r : FieldRule) : Json := .text r.text

def ofJson? (j : Json) : Option FieldRule := do (parse (← j.asText?)).toOption

end FieldRule

end CrawlMesh
