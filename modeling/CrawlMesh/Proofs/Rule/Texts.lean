/-
# Field rules and their texts

A field rule travels as its text, so a text has to tell the rule and nothing of it may get lost.  The
first bar of a text decides: what stands before it is a kind, for attributes with a name behind the
first point, and all behind it is the selector, further bars and points included.

* A kind is read exactly from its own text (`ofKind?_eq_some_iff`), whatever the name of the attribute.
* Reading a text and writing a rule are inverse to each other (`parse_eq_ok_iff`), for the rules that
  a text can stand for (`FieldRule.Expressible`): constants without a bar, and extractions with a
  selector whose attribute's name has no bar.

So a text is refused only for an unknown kind before its first bar, and what is read from a text is
written as that text (`texts_tell_rules`).
-/
import CrawlMesh.Proofs.Text.Splitting
import CrawlMesh.Rule.Field

namespace CrawlMesh

set_option autoImplicit false

/-! ## Kinds -/

namespace Extract

/-- The kind of an extraction, as it stands before the first bar; a constant has none. -/
def kind? : Extract → Option String
  | .text => some "text"
  | .html => some "html"
  | .attribute name => some ("attr." ++ name)
  | .texts => some "texts"
  | .htmls => some "htmls"
  | .attributes name => some ("attrs." ++ name)
  | .constant _ => none

/-- A text that stands for a kind. -/
def IsKind (kind : String) : Prop :=
  kind ∈ ["text", "html", "texts", "htmls"] ∨
    ∃ name, kind = "attr." ++ name ∨ kind = "attrs." ++ name

theorem isKind_iff {kind : String} : IsKind kind ↔ ∃ e : Extract, e.kind? = some kind := by
  constructor
  · simp only [IsKind, List.mem_cons, List.not_mem_nil, or_false]
    rintro ((rfl | rfl | rfl | rfl) | ⟨name, rfl | rfl⟩)
    · exact ⟨.text, rfl⟩
    · exact ⟨.html, rfl⟩
    · exact ⟨.texts, rfl⟩
    · exact ⟨.htmls, rfl⟩
    · exact ⟨.attribute name, rfl⟩
    · exact ⟨.attributes name, rfl⟩
  · rintro ⟨e, written⟩
    match e with
    | .attribute name => exact Or.inr ⟨name, Or.inl (Option.some.inj written).symm⟩
    | .attributes name => exact Or.inr ⟨name, Or.inr (Option.some.inj written).symm⟩
    | .text | .html | .texts | .htmls =>
        cases written
        exact Or.inl (by decide)
    | .constant value => cases written

/-- An extraction is read from its kind and from no other text. -/
theorem ofKind?_eq_some_iff {kind : List Char} {e : Extract} :
    ofKind? kind = some e ↔ e.kind? = some (String.ofList kind) := by
  constructor
  · intro read
    unfold ofKind? at read
    split at read
    · split at read <;> cases read
      all_goals
        rename_i same
        rw [same]
        rfl
    · rename_i word name split
      have whole := congrArg String.ofList (Text.splitFirst?_eq_some_iff.mp split).1
      split at read <;> cases read
      all_goals
        rename_i same
        rw [kind?, whole, String.ofList_append, same, Option.some.injEq, ← String.toList_inj]
        simp
  · intro written
    obtain ⟨kind, rfl⟩ : ∃ s : String, kind = s.toList := ⟨String.ofList kind, by simp⟩
    rw [String.ofList_toList] at written
    match e with
    | .attribute name =>
        have split : Text.splitFirst? '.' ("attr." ++ name).toList =
            some ("attr".toList, name.toList) :=
          Text.splitFirst?_eq_some_iff.mpr ⟨by simp, by decide⟩
        rw [← Option.some.inj written, ofKind?, split]
        simp
    | .attributes name =>
        have split : Text.splitFirst? '.' ("attrs." ++ name).toList =
            some ("attrs".toList, name.toList) :=
          Text.splitFirst?_eq_some_iff.mpr ⟨by simp, by decide⟩
        rw [← Option.some.inj written, ofKind?, split]
        simp
    | .text | .html | .texts | .htmls =>
        cases written
        rfl
    | .constant value => cases written

theorem ofKind?_eq_none_iff {kind : List Char} :
    ofKind? kind = none ↔ ¬IsKind (String.ofList kind) := by
  rw [isKind_iff, not_exists, Option.eq_none_iff_forall_ne_some]
  exact forall_congr' fun e => not_congr ofKind?_eq_some_iff

end Extract

/-! ## Rules -/

namespace FieldRule

/-- A rule that a text can stand for. -/
def Expressible (rule : FieldRule) : Prop :=
  match rule.extract with
  | .constant value => '|' ∉ value.toList ∧ rule.selector = none
  | .attribute name | .attributes name => '|' ∉ name.toList ∧ rule.selector.isSome
  | _ => rule.selector.isSome

/-- An extraction is written as its kind and its selector. -/
theorem text_of_kind {e : Extract} {kind : String} (written : e.kind? = some kind)
    (selector : Option String) :
    (FieldRule.mk e selector).text = kind ++ "|" ++ selector.getD "" := by
  cases e <;> cases written <;> rfl

/-- What is expressible is a constant without a bar or has a kind without one, and a selector. -/
theorem expressible_iff {rule : FieldRule} :
    rule.Expressible ↔
      (∃ value : String, rule = ⟨.constant value, none⟩ ∧ '|' ∉ value.toList) ∨
        ∃ kind selector, rule.extract.kind? = some kind ∧ rule.selector = some selector ∧
          '|' ∉ kind.toList := by
  obtain ⟨e, selector⟩ := rule
  cases e <;> simp [Expressible, Extract.kind?, Option.isSome_iff_exists, and_comm]

/-- **Reading and writing rules are inverse to each other.** -/
theorem parse_eq_ok_iff {s : String} {rule : FieldRule} :
    parse s = .ok rule ↔ rule.text = s ∧ rule.Expressible := by
  rw [expressible_iff]
  constructor
  · intro read
    unfold parse at read
    split at read
    · rename_i split
      cases read
      exact ⟨rfl, Or.inl ⟨s, rfl, Text.splitFirst?_eq_none_iff.mp split⟩⟩
    · rename_i kind selector split
      obtain ⟨whole, free⟩ := Text.splitFirst?_eq_some_iff.mp split
      split at read
      · rename_i e known
        cases read
        have written := Extract.ofKind?_eq_some_iff.mp known
        refine ⟨?_, Or.inr ⟨_, _, written, rfl, by simpa using free⟩⟩
        rw [text_of_kind written, ← String.toList_inj]
        simp [whole]
      · cases read
  · rintro ⟨rfl, ⟨value, rfl, free⟩ | ⟨kind, selector, written, chosen, free⟩⟩
    · rw [text, parse, Text.splitFirst?_eq_none_iff.mpr free]
    · obtain ⟨e, _⟩ := rule
      cases chosen
      have split : Text.splitFirst? '|' (FieldRule.mk e (some selector)).text.toList =
          some (kind.toList, selector.toList) := by
        rw [text_of_kind written]
        exact Text.splitFirst?_eq_some_iff.mpr ⟨by simp, free⟩
      have known : Extract.ofKind? kind.toList = some e :=
        Extract.ofKind?_eq_some_iff.mpr (by simpa using written)
      simp [parse, split, known]

/-- A text is refused only for what stands before its first bar. -/
theorem parse_error_iff {s : String} :
    (∃ e, parse s = .error e) ↔ ∃ kind selector : String,
      s = kind ++ "|" ++ selector ∧ '|' ∉ kind.toList ∧ ¬Extract.IsKind kind := by
  constructor
  · rintro ⟨e, refused⟩
    unfold parse at refused
    split at refused
    · cases refused
    · rename_i kind selector split
      obtain ⟨whole, free⟩ := Text.splitFirst?_eq_some_iff.mp split
      split at refused
      · cases refused
      · rename_i unknown
        refine ⟨.ofList kind, .ofList selector, ?_, by simpa using free,
          Extract.ofKind?_eq_none_iff.mp unknown⟩
        rw [← String.toList_inj]
        simp [whole]
  · rintro ⟨kind, selector, rfl, free, unknown⟩
    have split : Text.splitFirst? '|' (kind ++ "|" ++ selector).toList =
        some (kind.toList, selector.toList) := Text.splitFirst?_eq_some_iff.mpr ⟨by simp, free⟩
    have unread : Extract.ofKind? kind.toList = none :=
      Extract.ofKind?_eq_none_iff.mpr (by simpa using unknown)
    exact ⟨_, by rw [parse, split]; dsimp only; rw [unread]⟩

/-- **Texts tell rules.**  A text is refused exactly if it holds a bar and what stands before the first
one is no kind.  What is read from a text is written as that text.  And a rule is read back from its
text exactly if it is a constant without a bar and without a selector, or an extraction with a
selector whose attribute's name, if it takes an attribute, holds no bar. -/
theorem texts_tell_rules :
    (∀ s : String, (∃ e, parse s = .error e) ↔ ∃ kind selector : String,
      s = kind ++ "|" ++ selector ∧ '|' ∉ kind.toList ∧ ¬Extract.IsKind kind) ∧
    (∀ (s : String) (rule : FieldRule), parse s = .ok rule → rule.text = s) ∧
    (∀ rule : FieldRule, parse rule.text = .ok rule ↔ rule.Expressible) := by
  refine ⟨fun s => parse_error_iff, fun s rule read => (parse_eq_ok_iff.mp read).1, fun rule => ?_⟩
  rw [parse_eq_ok_iff]
  exact and_iff_right rfl

/-- A point in the name of the attribute, and further bars in the selector. -/
theorem texts_tell_rules_further_bars :
    parse "attrs.data.x|b[c|=d]|e" = .ok ⟨.attributes "data.x", some "b[c|=d]|e"⟩ ∧
      (FieldRule.mk (.attributes "data.x") (some "b[c|=d]|e")).text = "attrs.data.x|b[c|=d]|e" := by
  have read : parse "attrs.data.x|b[c|=d]|e" = .ok ⟨.attributes "data.x", some "b[c|=d]|e"⟩ := by
    decide
  exact ⟨read, texts_tell_rules.2.1 _ _ read⟩

end FieldRule

end CrawlMesh
