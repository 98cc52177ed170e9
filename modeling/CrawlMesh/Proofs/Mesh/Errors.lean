/-
# Errors from other nodes

An error leaves a node as a `WireError` and becomes an error of the next node (`CrawlError.hop`).
Kinds and numbers stand for one another (`ErrorKind.ofCode?_eq_some_iff`), so reading an error keeps
its number, its kind and its detail, whether the kind is one that becomes itself again, one that
stays as it came or one that no node here knows (`CrawlError.alike_hop`).  What a hop may change is
the wording, and only the first one (`CrawlError.hop_hop`): an error that has come from elsewhere is
passed on as it is.  A reply is an error for the caller exactly if the call failed, and then it is
one hop away from that of the node which replied.
-/
import CrawlMesh.Mesh.Message
import Mathlib.Logic.Function.Iterate

namespace CrawlMesh

set_option autoImplicit false

namespace ErrorKind

theorem ofCode?_code (k : ErrorKind) : ofCode? k.code = some k := by
  cases k <;> rfl

/-- Kinds and their numbers stand for one another. -/
theorem ofCode?_eq_some_iff {code : UInt32} {k : ErrorKind} : ofCode? code = some k ↔ k.code = code := by
  constructor
  · intro found
    simpa using List.find?_some found
  · rintro rfl
    exact ofCode?_code k

end ErrorKind

namespace CrawlError

/-! ## One hop -/

/-- What the next node makes of an error. -/
def hop (e : CrawlError) : CrawlError := ofWire e.toWire

/-- Errors that differ in nothing but their wording. -/
structure Alike (e f : CrawlError) : Prop where
  code : f.code = e.code
  kind : f.kind = e.kind
  detail : f.toWire.detail = e.toWire.detail

theorem code_toWire (e : CrawlError) : e.toWire.code = e.code := by
  cases e <;> rfl

/-- The kind of an error can be told from the number that it travels with. -/
theorem kind_toWire (e : CrawlError) : (ErrorKind.ofCode? e.toWire.code).getD .transport = e.kind := by
  cases e with
  | remote w => rfl
  | _ => simp only [toWire, ErrorKind.ofCode?_code, Option.getD_some]

/-- The errors that hold nothing but a detail, and become themselves again when they are read. -/
def bare : List (String → CrawlError) := [argument, statusConflict, notFound, capacity]

/-- An error that was read is one that its detail makes up, of the kind of its number, or it stays as
it came. -/
theorem ofWire_cases (w : WireError) :
    ofWire w = .remote w ∨ ∃ make ∈ bare, ofWire w = make w.detail ∧ (make w.detail).kind.code = w.code := by
  unfold ofWire
  split
  case h_1 known => exact Or.inr ⟨argument, by simp [bare], rfl, ErrorKind.ofCode?_eq_some_iff.mp known⟩
  case h_2 known =>
    exact Or.inr ⟨statusConflict, by simp [bare], rfl, ErrorKind.ofCode?_eq_some_iff.mp known⟩
  case h_3 known => exact Or.inr ⟨notFound, by simp [bare], rfl, ErrorKind.ofCode?_eq_some_iff.mp known⟩
  case h_4 known => exact Or.inr ⟨capacity, by simp [bare], rfl, ErrorKind.ofCode?_eq_some_iff.mp known⟩
  case h_5 => exact Or.inl rfl

/-- An error that its detail makes up travels under the number of its kind, and arrives as it left. -/
theorem toWire_of_bare {make : String → CrawlError} (among : make ∈ bare) (detail : String) :
    (make detail).toWire = ⟨(make detail).kind.code, (make detail).kind.message, detail⟩ ∧
      (make detail).code = (make detail).kind.code ∧ (make detail).hop = make detail := by
  simp only [bare, List.mem_cons, List.not_mem_nil, or_false] at among
  rcases among with rfl | rfl | rfl | rfl <;> exact ⟨rfl, rfl, rfl⟩

theorem alike_hop (e : CrawlError) : e.Alike e.hop := by
  unfold hop
  rcases ofWire_cases e.toWire with same | ⟨make, among, same, number⟩
  · rw [same]
    exact ⟨code_toWire e, kind_toWire e, rfl⟩
  · obtain ⟨wire, code, -⟩ := toWire_of_bare among e.toWire.detail
    rw [same]
    refine ⟨?_, ?_, ?_⟩
    · rw [code, number, code_toWire]
    · rw [← kind_toWire e, ← number, ErrorKind.ofCode?_code, Option.getD_some]
    · rw [wire]

/-- What came from elsewhere is passed on as it is. -/
theorem hop_hop (e : CrawlError) : e.hop.hop = e.hop := by
  have read : e.hop = ofWire e.toWire := rfl
  rcases ofWire_cases e.toWire with same | ⟨make, among, same, -⟩
  · rw [read, same, hop, toWire, same]
  · rw [read, same]
    exact (toWire_of_bare among e.toWire.detail).2.2

/-! ## Many hops -/

/-- From the first hop on nothing changes. -/
theorem iterate_hop (e : CrawlError) (n : Nat) : hop^[n + 1] e = e.hop := by
  induction n with
  | zero => rfl
  | succ n ih => rw [Function.iterate_succ_apply', ih, hop_hop]

/-- **Errors keep what they are.**  Over any number of hops an error keeps its number, its kind and
its detail, and after the first hop it does not change at all.  The reply to a call is an error for
the caller exactly if the call failed, and then one with the number, the kind and the detail of the
failure. -/
theorem hops_keep_identity :
    (∀ (e : CrawlError) (n : Nat), e.Alike (hop^[n + 1] e) ∧ hop^[n + 1] e = e.hop) ∧
      ∀ (node : NodeInfo) (r : Outcome Unit),
        match r, (Reply.ofOutcome node r).outcome with
        | .ok (), .ok reply => reply = Reply.ofOutcome node r
        | .error e, .error f => e.Alike f
        | .ok (), .error _ | .error _, .ok _ => False := by
  refine ⟨?_, ?_⟩
  · intro e n
    rw [iterate_hop]
    exact ⟨alike_hop e, rfl⟩
  · intro node r
    cases r with
    | ok _ => rfl
    | error e => exact alike_hop e

end CrawlError

end CrawlMesh
