/-
# What a pipeline makes of an item

The rule that a pipeline is held to speaks of its steps alone.  A step leaves to the next one the item
that it made or, when it fails, the item that it was given (`Processor.keep`); the step at a place is
given what the steps before it leave (`Pipeline.through`), and the failures are those of all steps on the
items that they are given, each with its place (`Pipeline.failures`).

* Appended steps go on with the item that the first ones leave, and their failures are the later ones
  (`through_append`, `failures_append`).
* A run that does not fail fast goes through all steps (`runFrom_all`).  It reports each failure once, as
  `Reports` has it, in the order of the steps (`forall₂_reports`); so a run of appended steps is a run of
  the first ones and then one of the others (`run_append`).
* Up to the first failure there is one kind of run (`runFrom_before`).  A run that fails fast reports that
  failure and ends, and the steps after it have no part in what is left (`run_to_first`).

Steps may have effects on a state.  A step without effect is one of them, and an effect shows that its
step was run: a run that fails fast leaves the state as the failing step left it (`run_modes`).
-/
import CrawlMesh.Pipeline
import Mathlib.Data.List.Forall2

namespace CrawlMesh

set_option autoImplicit false

variable {σ : Type}

namespace Processor

/-- What a step leaves to the next one: its item, or the one that it was given when it fails. -/
def keep (x : Item × σ) (step : Processor σ) : Item × σ :=
  match step x.1 x.2 with
  | (.ok next, s) => (next, s)
  | (.error _, s) => (x.1, s)

/-- The error of a step that fails. -/
def failure? (step : Processor σ) (x : Item × σ) : Option CrawlError :=
  match step x.1 x.2 with
  | (.ok _, _) => none
  | (.error e, _) => some e

end Processor

namespace Pipeline

open Processor

/-! ## Steps one after the other -/

/-- The item and the state that steps leave. -/
def through (x : Item × σ) (steps : List (Processor σ)) : Item × σ := steps.foldl keep x

/-- The failures of steps, each with its place. -/
def failures (steps : List (Processor σ)) (x : Item × σ) : List (Nat × CrawlError) :=
  steps.zipIdx.filterMap fun (step, place) =>
    (step.failure? (through x (steps.take place))).map (place, ·)

@[simp] theorem through_nil (x : Item × σ) : through x [] = x := rfl

@[simp] theorem through_cons (x : Item × σ) (step : Processor σ) (rest : List (Processor σ)) :
    through x (step :: rest) = through (keep x step) rest := rfl

theorem through_append (x : Item × σ) (before after : List (Processor σ)) :
    through x (before ++ after) = through (through x before) after :=
  List.foldl_append

/-- The failures of appended steps come later, by as many places as there are steps before them. -/
theorem failures_append (before after : List (Processor σ)) (x : Item × σ) :
    failures (before ++ after) x =
      failures before x ++
        (failures after (through x before)).map (Prod.map (before.length + ·) id) := by
  simp only [failures, List.zipIdx_append, List.filterMap_append]
  congr 1
  · refine List.filterMap_congr fun ⟨step, place⟩ among => ?_
    obtain ⟨-, within, -⟩ := List.mem_zipIdx among
    simp only
    rw [List.take_append_of_le_length (by omega)]
  · rw [Nat.add_comm, ← List.map_snd_add_zipIdx_eq_zipIdx, List.filterMap_map, List.map_filterMap]
    refine List.filterMap_congr fun ⟨step, place⟩ _ => ?_
    simp only [Function.comp_apply, Prod.map_apply, id_eq, Option.map_map]
    rw [Nat.add_comm, List.take_length_add_append, through_append]
    rfl

theorem failures_cons (step : Processor σ) (rest : List (Processor σ)) (x : Item × σ) :
    failures (step :: rest) x =
      ((step.failure? x).map (0, ·)).toList ++
        (failures rest (keep x step)).map (Prod.map (1 + ·) id) := by
  have first : failures [step] x = ((step.failure? x).map (0, ·)).toList := by
    cases fails : step.failure? x <;> simp [failures, fails]
  rw [← first]
  exact failures_append [step] rest x

/-! ## Runs -/

variable {step : Processor σ} {before rest steps : List (Processor σ)} {x : Item × σ}

/-- A step that does not fail is followed by the others in every run. -/
theorem runFrom_of_not_failed (works : step.failure? x = none) (failFast : Bool) (place : Nat) :
    runFrom failFast place x.1 x.2 (step :: rest) =
      runFrom failFast (place + 1) (keep x step).1 (keep x step).2 rest := by
  cases taken : step x.1 x.2 with
  | mk out s => cases out <;> simp_all [runFrom, failure?, keep]

/-- A step that fails ends a run that fails fast. -/
theorem runFrom_of_failed {e : CrawlError} (fails : step.failure? x = some e) (place : Nat) :
    runFrom true place x.1 x.2 (step :: rest) = (⟨x.1, [stepError place e]⟩, (keep x step).2) := by
  cases taken : step x.1 x.2 with
  | mk out s => cases out <;> simp_all [runFrom, failure?, keep]

/-- A run that does not fail fast reports each failure and goes on. -/
theorem runFrom_going_on (place : Nat) :
    runFrom false place x.1 x.2 (step :: rest) =
      let (r, s) := runFrom false (place + 1) (keep x step).1 (keep x step).2 rest
      (⟨r.item, ((step.failure? x).map (stepError place)).toList ++ r.errors⟩, s) := by
  cases taken : step x.1 x.2 with
  | mk out s => cases out <;> simp [runFrom, failure?, keep, taken]

/-- The reports of failures, with places counted from a first one on. -/
def reports (place : Nat) (failed : List (Nat × CrawlError)) : List CrawlError :=
  failed.map fun f => stepError (place + f.1) f.2

/-- A run that does not fail fast goes through all steps and reports all their failures. -/
theorem runFrom_all (place : Nat) (steps : List (Processor σ)) (x : Item × σ) :
    runFrom false place x.1 x.2 steps =
      (⟨(through x steps).1, reports place (failures steps x)⟩, (through x steps).2) := by
  induction steps generalizing place x with
  | nil => rfl
  | cons step rest ih =>
      have later : reports (place + 1) (failures rest (keep x step)) =
          reports place ((failures rest (keep x step)).map (Prod.map (1 + ·) id)) := by
        simp [reports, Nat.add_assoc]
      rw [runFrom_going_on, ih, later, failures_cons]
      cases step.failure? x <;> simp [reports]

/-- Up to the first failure there is one kind of run. -/
theorem runFrom_before (noneFailed : failures before x = []) (failFast : Bool) (place : Nat)
    (rest : List (Processor σ)) :
    runFrom failFast place x.1 x.2 (before ++ rest) =
      runFrom failFast (place + before.length) (through x before).1 (through x before).2 rest := by
  induction before generalizing place x with
  | nil => rfl
  | cons step before ih =>
      rw [failures_cons, List.append_eq_nil_iff, List.map_eq_nil_iff] at noneFailed
      obtain ⟨works, others⟩ := noneFailed
      have works : step.failure? x = none := by simpa using works
      rw [List.cons_append, runFrom_of_not_failed works, ih others, through_cons, List.length_cons,
        Nat.add_assoc, Nat.add_comm 1]

/-- Where a first failure is, the steps before it do not fail. -/
theorem exists_first {place : Nat} {e : CrawlError} {others : List (Nat × CrawlError)}
    (first : failures steps x = (place, e) :: others) :
    ∃ before step after, steps = before ++ step :: after ∧ before.length = place ∧
      failures before x = [] ∧ step.failure? (through x before) = some e := by
  induction steps generalizing place x others with
  | nil => cases first
  | cons step rest ih =>
      rw [failures_cons] at first
      cases fails : step.failure? x with
      | some e' =>
          obtain ⟨⟨rfl, rfl⟩, -⟩ : (0 = place ∧ e' = e) ∧ _ := by simpa [fails] using first
          exact ⟨[], step, rest, rfl, rfl, rfl, fails⟩
      | none =>
          rw [fails, Option.map_none, Option.toList_none, List.nil_append, List.map_eq_cons_iff] at first
          obtain ⟨⟨later, e'⟩, others', first, same, -⟩ := first
          obtain ⟨rfl, rfl⟩ := Prod.mk.inj same
          obtain ⟨before, failing, after, rfl, rfl, works, fails'⟩ := ih first
          refine ⟨step :: before, failing, after, rfl, Nat.add_comm _ _, ?_, fails'⟩
          rw [failures_cons, fails, works]
          rfl

/-- A run that fails fast ends with the first failure, whatever steps follow. -/
theorem run_to_first {place : Nat} {e : CrawlError} {others : List (Nat × CrawlError)}
    (first : failures steps x = (place, e) :: others) (later : List (Processor σ)) :
    run ⟨steps.take (place + 1) ++ later, true⟩ x.1 x.2 =
      (⟨(through x (steps.take place)).1, [stepError place e]⟩,
        (through x (steps.take (place + 1))).2) := by
  obtain ⟨before, step, after, rfl, rfl, works, fails⟩ := exists_first first
  have upTo : (before ++ step :: after).take before.length = before := List.take_left
  have including : (before ++ step :: after).take (before.length + 1) = before ++ [step] := by
    rw [List.take_length_add_append]
    rfl
  rw [including, upTo, List.append_assoc, run, runFrom_before works, List.singleton_append,
    runFrom_of_failed fails, Nat.zero_add, through_append]
  rfl

theorem run_first {place : Nat} {e : CrawlError} {others : List (Nat × CrawlError)}
    (first : failures steps x = (place, e) :: others) :
    run ⟨steps, true⟩ x.1 x.2 =
      (⟨(through x (steps.take place)).1, [stepError place e]⟩,
        (through x (steps.take (place + 1))).2) := by
  have ends := run_to_first first (steps.drop (place + 1))
  rwa [List.take_append_drop] at ends

/-- Without a failure it makes no difference whether a run would fail fast. -/
theorem run_of_none_failed (noneFailed : failures steps x = []) :
    run ⟨steps, true⟩ x.1 x.2 = run ⟨steps, false⟩ x.1 x.2 := by
  have all (failFast : Bool) := runFrom_before noneFailed failFast 0 []
  simp only [List.append_nil] at all
  exact (all true).trans (all false).symm

/-- A run that does not fail fast goes through all steps. -/
theorem run_all (steps : List (Processor σ)) (x : Item × σ) :
    run ⟨steps, false⟩ x.1 x.2 =
      (⟨(through x steps).1, reports 0 (failures steps x)⟩, (through x steps).2) :=
  runFrom_all 0 steps x

/-- Appended steps do to the item that is left what they do alone, and report later places. -/
theorem run_append (p q : List (Processor σ)) (x : Item × σ) :
    let first := run ⟨p, false⟩ x.1 x.2
    let second := run ⟨q, false⟩ first.1.item first.2
    run ⟨p ++ q, false⟩ x.1 x.2 =
      (⟨second.1.item, first.1.errors ++ reports p.length (failures q (first.1.item, first.2))⟩,
        second.2) := by
  intro first second
  have first_eq : first = (⟨(through x p).1, reports 0 (failures p x)⟩, (through x p).2) := run_all p x
  have second_eq : second =
      (⟨(through (through x p) q).1, reports 0 (failures q (through x p))⟩,
        (through (through x p) q).2) := by
    rw [← run_all q (through x p)]
    simp only [second, first_eq]
  rw [run_all, failures_append, through_append, second_eq, first_eq]
  simp [reports]

/-! ## Reports -/

/-- What is reported of a failure at a place: the failure of a stage as it is, and every other one as a
failure of processing, with the place. -/
inductive Reports (place : Nat) : CrawlError → CrawlError → Prop
  | kept (stage : Stage) (message context : String) :
      Reports place (.stage stage message context) (.stage stage message context)
  | wrapped (e : CrawlError) (other : ∀ stage message context, e ≠ .stage stage message context) :
      Reports place e (.stage .process e.text s!"processor #{place}")

theorem Reports.of_stepError (place : Nat) (e : CrawlError) : Reports place e (stepError place e) := by
  cases e with
  | stage stage message context => exact .kept stage message context
  | _ => exact .wrapped _ (by simp)

theorem forall₂_reports (place : Nat) (failed : List (Nat × CrawlError)) :
    List.Forall₂ (fun f => Reports (place + f.1) f.2) failed (reports place failed) :=
  List.forall₂_map_right_iff.mpr (List.forall₂_same.mpr fun _ _ => .of_stepError _ _)

theorem forall₂_reports_zero (failed : List (Nat × CrawlError)) :
    List.Forall₂ (fun f => Reports f.1 f.2) failed (reports 0 failed) := by
  simpa only [Nat.zero_add] using forall₂_reports 0 failed

/-- **What a pipeline makes of an item.**  A run that does not fail fast leaves the item and the state that
all steps leave, where a failing step leaves its item as it was, and reports every failure once and in
order.  One that fails fast reports the first of them alone: it leaves the item that the failing step was
given and the state as that step left it, and no step that follows has a part in it.  Without a failure
the two are the same run.  And steps that are appended do to the item that the first ones leave what they
do alone, with their places counted on in what they report. -/
theorem run_modes (item : Item) (s : σ) :
    (∀ steps : List (Processor σ),
      let all := run ⟨steps, false⟩ item s
      let fast := run ⟨steps, true⟩ item s
      (all.1.item, all.2) = through (item, s) steps ∧
      List.Forall₂ (fun f => Reports f.1 f.2) (failures steps (item, s)) all.1.errors ∧
      fast.1.errors = all.1.errors.take 1 ∧
      match failures steps (item, s) with
      | [] => fast = all
      | (place, _) :: _ =>
        fast.1.item = (through (item, s) (steps.take place)).1 ∧
        fast.2 = (through (item, s) (steps.take (place + 1))).2 ∧
        ∀ later, run ⟨steps.take (place + 1) ++ later, true⟩ item s = fast) ∧
    ∀ p q : List (Processor σ),
      let first := run ⟨p, false⟩ item s
      let second := run ⟨q, false⟩ first.1.item first.2
      let whole := run ⟨p ++ q, false⟩ item s
      whole.1.item = second.1.item ∧ whole.2 = second.2 ∧
      ∃ moved, whole.1.errors = first.1.errors ++ moved ∧
        List.Forall₂ (fun f => Reports f.1 f.2) (failures q (first.1.item, first.2)) second.1.errors ∧
        List.Forall₂ (fun f => Reports (p.length + f.1) f.2) (failures q (first.1.item, first.2))
          moved := by
  refine ⟨fun steps => ?_, fun p q => ?_⟩
  · intro all fast
    have all_eq : all =
        (⟨(through (item, s) steps).1, reports 0 (failures steps (item, s))⟩,
          (through (item, s) steps).2) :=
      run_all steps (item, s)
    have each := forall₂_reports_zero (failures steps (item, s))
    cases failed : failures steps (item, s) with
    | nil =>
        have same : fast = all := run_of_none_failed failed
        rw [same, all_eq]
        refine ⟨rfl, failed ▸ each, ?_, rfl⟩
        rw [failed]
        rfl
    | cons f others =>
        have fast_eq : fast =
            (⟨(through (item, s) (steps.take f.1)).1, [stepError f.1 f.2]⟩,
              (through (item, s) (steps.take (f.1 + 1))).2) :=
          run_first failed
        rw [fast_eq, all_eq]
        refine ⟨rfl, failed ▸ each, ?_, rfl, rfl, run_to_first failed⟩
        simp [failed, reports]
  · intro first second whole
    have whole_eq : whole = _ := run_append p q (item, s)
    have second_eq : second = _ := run_all q (first.1.item, first.2)
    rw [whole_eq]
    refine ⟨rfl, rfl, _, rfl, ?_, forall₂_reports p.length _⟩
    rw [second_eq]
    exact forall₂_reports_zero _

/-- An item without a title fails in the first step and gets one in the second. -/
example :
    let steps := [.pure (ProcessorSpec.requireFields ["title"]),
      .pure (ProcessorSpec.setField "title" (.text "Dune")),
      .pure (ProcessorSpec.requireFields ["title", "url"])]
    let all := run (⟨steps, false⟩ : Pipeline Unit) [] ()
    let fast := run ⟨steps, true⟩ [] ()
    all.1.item = [("title", .text "Dune")] ∧ all.1.errors.length = 2 ∧
      fast.1.item = [] ∧ fast.1.errors.length = 1 :=
  ⟨rfl, rfl, rfl, rfl⟩

end Pipeline

end CrawlMesh
