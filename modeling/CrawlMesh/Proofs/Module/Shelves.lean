/-
# The modules of a registrar are one map

A registrar holds its modules in one list, ordered by their identifiers.  They may as well lie on shelves,
one for each role (`Shelves`), where the role on a shelf comes from the text of the identifier, when a
module is put there and again when it is taken out.  Both stand for a plain map from identifiers to
modules (`Catalog`): a module enters it if its identifier names its role, and leaves it by its identifier.

* A list stands for a map if it is ordered and finds in it what the map holds (`Lists`).  Putting a module
  in, taking one out and keeping those of one role do the same to a list as to its map (`Lists.insert`,
  `Lists.erase`, `Lists.ofRole`), and a map has at most one list (`Lists.unique`).
* In a map that is made by such operations an identifier tells the role of its module (`Catalog.Named`).
  So a module lies on the shelf on which it is looked for, whatever the letter of its role looks like
  (`Catalog.Named.ofRole_eq`), no two shelves hold modules of one identifier (`Shelves.Agrees.all`), and a
  module that is chosen from a shelf is of the role of the shelf (`Shelves.Agrees.selectAs_eq`).
* By induction on the operations a registrar and its shelves answer as the map does and stand for it
  (`Registrar.modules_are_one_map`).
-/
import CrawlMesh.Proofs.Crawl.Registered
import Mathlib.Data.List.Nodup
import Mathlib.Logic.Function.Basic

namespace CrawlMesh

set_option autoImplicit false

variable {α : Type}

namespace Registrar

/-! ## Operations and their answers -/

/-- What is done to the modules. -/
inductive Operation (α : Type)
  | register (m : Module α)
  | unregister (id : ModuleId)
  | clear

/-- What an operation answers: whether a module was new, or the module that was taken out. -/
inductive Answer (α : Type)
  | registered (outcome : Outcome Bool)
  | unregistered (outcome : Outcome (Module α))
  | cleared

/-- Operations one after the other: their answers and what is left by them. -/
def run {σ : Type} (step : σ → Operation α → Answer α × σ) (s : σ) :
    List (Operation α) → List (Answer α) × σ
  | [] => ([], s)
  | op :: rest => ((step s op).1 :: (run step (step s op).2 rest).1, (run step (step s op).2 rest).2)

/-- What holds at the beginning and after every operation, holds after all of them, with the same
answers on both sides. -/
theorem run_agrees {σ τ : Type} {first : σ → Operation α → Answer α × σ}
    {second : τ → Operation α → Answer α × τ} {R : σ → τ → Prop}
    (each : ∀ s t op, R s t → (first s op).1 = (second t op).1 ∧ R (first s op).2 (second t op).2)
    {s : σ} {t : τ} (start : R s t) (ops : List (Operation α)) :
    (run first s ops).1 = (run second t ops).1 ∧ R (run first s ops).2 (run second t ops).2 := by
  induction ops generalizing s t with
  | nil => exact ⟨rfl, start⟩
  | cons op rest ih =>
      obtain ⟨answer, next⟩ := each s t op start
      obtain ⟨answers, last⟩ := ih next
      exact ⟨by rw [run, run, answer, answers], last⟩

/-- One operation on a registrar. -/
def step (r : Registrar α) : Operation α → Answer α × Registrar α
  | .register m =>
    match r.register m with
    | .ok (isNew, after) => (.registered (.ok isNew), after)
    | .error e => (.registered (.error e), r)
  | .unregister id =>
    match r.unregister id with
    | .ok (m, after) => (.unregistered (.ok m), after)
    | .error e => (.unregistered (.error e), r)
  | .clear => (.cleared, empty)

/-- The error of a module whose identifier names another role. -/
def mismatch (m : Module α) (named : Role) : CrawlError :=
  .argument s!"module type mismatch: MID {m.id.text} is a {named.text}, module is a {m.role.text}"

/-- The error of an identifier that is not registered. -/
def notRegistered (id : ModuleId) : CrawlError := .notFound s!"module {id.text}"

end Registrar

open Registrar

/-! ## Plain maps -/

/-- A plain map from identifiers to modules. -/
abbrev Catalog (α : Type) := ModuleId → Option (Module α)

namespace Catalog

def empty : Catalog α := fun _ => none

/-- Why a module is refused: its identifier is not well formed, or it names another role. -/
def refusal? (m : Module α) : Option CrawlError :=
  match m.id.parts with
  | .error e => some e
  | .ok parts => if parts.role = m.role then none else some (mismatch m parts.role)

/-- One operation on a map. What is refused or not found leaves it as it was. -/
def step (c : Catalog α) : Operation α → Answer α × Catalog α
  | .register m =>
    match refusal? m with
    | some e => (.registered (.error e), c)
    | none => (.registered (.ok (c m.id).isNone), Function.update c m.id (some m))
  | .unregister id =>
    match id.parts with
    | .error e => (.unregistered (.error e), c)
    | .ok _ =>
      match c id with
      | none => (.unregistered (.error (notRegistered id)), c)
      | some m => (.unregistered (.ok m), Function.update c id none)
  | .clear => (.cleared, empty)

/-- The modules of one role. -/
def ofRole (c : Catalog α) (role : Role) : Catalog α := fun id => (c id).filter (·.role == role)

theorem refusal?_eq_none {m : Module α} : refusal? m = none ↔ m.Registrable := by
  unfold refusal? Module.Registrable
  cases m.id.parts <;> simp

theorem refusal?_eq_some {m : Module α} {e : CrawlError} : refusal? m = some e ↔
    m.id.parts = .error e ∨
      ∃ parts, m.id.parts = .ok parts ∧ parts.role ≠ m.role ∧ e = mismatch m parts.role := by
  unfold refusal?
  cases m.id.parts <;> simp [eq_comm]

/-- Whatever is done with a module that fits, one that is refused ends with the error. -/
theorem error_of_refused {β : Type} {m : Module α} {e : CrawlError} (refused : refusal? m = some e)
    (after : ModuleId.Parts → β) :
    (do
      let parts ← m.id.parts
      if parts.role = m.role then return after parts else throw (mismatch m parts.role) :
        Outcome β) = .error e := by
  rcases refusal?_eq_some.mp refused with read | ⟨parts, read, other, rfl⟩
  · rw [read]
    rfl
  · simp only [read, bind, Except.bind, if_neg other]
    rfl

theorem ofRole_update (c : Catalog α) (id : ModuleId) (m : Option (Module α)) (role : Role) :
    ofRole (Function.update c id m) role =
      Function.update (c.ofRole role) id (m.filter (·.role == role)) := by
  funext other
  rw [ofRole, Function.update_apply, Function.update_apply]
  split <;> rfl

theorem ofRole_eq_some {c : Catalog α} {role : Role} {id : ModuleId} {m : Module α} :
    c.ofRole role id = some m ↔ c id = some m ∧ m.role = role := by
  simp [ofRole, Option.filter_eq_some_iff]

end Catalog

/-! ## Shelves -/

/-- Modules on shelves, one for each role. A shelf is set up with the first module that is put on it
and stays when the last one is taken away. -/
structure Shelves (α : Type) where
  shelf? : Role → Option (List (Module α))

namespace Shelves

def empty : Shelves α := ⟨fun _ => none⟩

/-- The modules on a shelf, none where there is no shelf. -/
def on (s : Shelves α) (role : Role) : List (Module α) := (s.shelf? role).getD []

def set (s : Shelves α) (role : Role) (modules : List (Module α)) : Shelves α :=
  ⟨fun other => if other = role then some modules else s.shelf? other⟩

/-- Put a module on the shelf of the role that its identifier names, which has to be its own. -/
def register (s : Shelves α) (m : Module α) : Outcome (Bool × Shelves α) := do
  let parts ← m.id.parts
  if parts.role = m.role then
    return (((s.on parts.role).find? (·.id == m.id)).isNone,
      s.set parts.role (insertModule m (s.on parts.role)))
  else
    throw (mismatch m parts.role)

/-- Take a module from the shelf of the role that the identifier names. -/
def unregister (s : Shelves α) (id : ModuleId) : Outcome (Module α × Shelves α) := do
  let role ← id.role
  match (s.shelf? role).bind (·.find? (·.id == id)) with
  | some m => return (m, s.set role ((s.on role).filter (·.id != id)))
  | none => throw (notRegistered id)

/-- One operation on shelves. -/
def step (s : Shelves α) : Operation α → Answer α × Shelves α
  | .register m =>
    match s.register m with
    | .ok (isNew, after) => (.registered (.ok isNew), after)
    | .error e => (.registered (.error e), s)
  | .unregister id =>
    match s.unregister id with
    | .ok (m, after) => (.unregistered (.ok m), after)
    | .error e => (.unregistered (.error e), s)
  | .clear => (.cleared, empty)

/-- All modules in one list, the shelves taken in any order. -/
def all (s : Shelves α) (order : List Role) : List (Module α) :=
  Keyed.table key (order.flatMap s.on)

/-- The modules on a shelf, of which there has to be one. -/
def allOfRole (s : Shelves α) (role : Role) : Outcome (List (Module α)) :=
  match (s.shelf? role).filter (!·.isEmpty) with
  | some modules => .ok modules
  | none => .error (noneRegistered role)

/-- The first module on a shelf with the lowest score, after computing their scores. -/
def select (s : Shelves α) (role : Role) : Outcome (Module α) :=
  match leastLoaded ((s.on role).map Module.updateScore) with
  | some m => .ok m
  | none => .error (noneRegistered role)

/-- The error of a module that is not of the role for which it was chosen. -/
def wrongRole (m : Module α) : Role → CrawlError
  | .downloader => .argument s!"{m.text} is not a downloader"
  | .analyzer => .argument s!"{m.text} is not an analyzer"
  | .pipeline => .argument s!"{m.text} is not a pipeline"

/-- The module that is chosen for a role, as one of this role. -/
def selectAs (s : Shelves α) (role : Role) : Outcome (Module α) := do
  let m ← s.select role
  if m.role = role then return m else throw (wrongRole m role)

end Shelves

/-! ## Lists of modules -/

/-- A list stands for a map: its modules are in ascending order of their identifiers, and under each
identifier the list holds what the map does. -/
structure Lists (modules : List (Module α)) (c : Catalog α) : Prop where
  ascending : Keyed.Ascending key modules
  found : ∀ id, modules.find? (·.id == id) = c id

namespace Lists

variable {l l' : List (Module α)} {c : Catalog α} {m : Module α} {role : Role}

theorem nil : Lists ([] : List (Module α)) Catalog.empty :=
  ⟨List.Pairwise.nil, fun _ => rfl⟩

theorem id_eq (lists : Lists l c) {id : ModuleId} (holds : c id = some m) : m.id = id := by
  rw [← lists.found] at holds
  simpa using List.find?_some holds

theorem mem_iff (lists : Lists l c) : m ∈ l ↔ c m.id = some m := by
  rw [← lists.found]
  constructor
  · intro member
    simp only [id_beq_eq]
    exact lists.ascending.find?_eq member
  · exact List.mem_of_find?_eq_some

/-- A map has one list at most. -/
theorem unique (lists : Lists l c) (lists' : Lists l' c) : l = l' := by
  have perm : l.Perm l' := by
    rw [List.perm_ext_iff_of_nodup (List.Nodup.of_map key lists.ascending.nodup)
      (List.Nodup.of_map key lists'.ascending.nodup)]
    intro m
    rw [lists.mem_iff, lists'.mem_iff]
  exact perm.eq_of_pairwise (fun _ _ _ _ lt gt => absurd gt (lt_asymm lt)) lists.ascending
    lists'.ascending

theorem insert (lists : Lists l c) (m : Module α) :
    Lists (insertModule m l) (Function.update c m.id (some m)) := by
  rw [insertModule_eq]
  refine ⟨lists.ascending.insert, fun id => ?_⟩
  have found := lists.found id
  simp only [id_beq_eq] at found ⊢
  rw [Keyed.find?_insert m l id.text, found, Function.update_apply]
  exact if_congr (key_eq_iff.trans eq_comm) rfl rfl

theorem erase (lists : Lists l c) (id : ModuleId) :
    Lists (l.filter (·.id != id)) (Function.update c id none) := by
  refine ⟨lists.ascending.filter _, fun other => ?_⟩
  have found := lists.found other
  have kept (m : Module α) : (m.id != id) = (key m != id.text) := congrArg not (id_beq_eq m id)
  simp only [id_beq_eq, kept] at found ⊢
  rw [Keyed.find?_filter id.text l other.text, found, Function.update_apply]
  refine if_congr ?_ rfl rfl
  cases id
  cases other
  simp [eq_comm]

/-- An ordered list of what a map holds is the list of this map. -/
theorem of_mem (ascending : Keyed.Ascending key l)
    (named : ∀ id m, c id = some m → m.id = id) (members : ∀ m, m ∈ l ↔ c m.id = some m) :
    Lists l c := by
  refine ⟨ascending, fun id => ?_⟩
  cases among : l.find? (·.id == id) with
  | none =>
      cases holds : c id with
      | none => rfl
      | some m =>
          have same := named id m holds
          subst same
          rw [List.find?_eq_none] at among
          exact absurd (beq_self_eq_true m.id) (among m ((members m).mpr holds))
  | some m =>
      have same : m.id = id := by simpa using List.find?_some among
      subst same
      exact ((members m).mp (List.mem_of_find?_eq_some among)).symm

theorem ofRole (lists : Lists l c) (role : Role) :
    Lists (l.filter (·.role == role)) (c.ofRole role) := by
  refine of_mem (lists.ascending.filter _) ?_ ?_
  · intro id m holds
    exact lists.id_eq (Catalog.ofRole_eq_some.mp holds).1
  · intro m
    rw [List.mem_filter, lists.mem_iff, Catalog.ofRole_eq_some, beq_iff_eq]

end Lists

/-! ## Identifiers name roles -/

/-- Under every identifier there is a module of the role that the identifier names. -/
def Catalog.Named (c : Catalog α) : Prop :=
  ∀ id m, c id = some m → ∃ parts, id.parts = .ok parts ∧ parts.role = m.role

namespace Catalog.Named

variable {c : Catalog α} {m : Module α} {id : ModuleId} {parts : ModuleId.Parts}

theorem empty : (Catalog.empty : Catalog α).Named := by
  intro id m holds
  cases holds

theorem role_eq (named : c.Named) (read : id.parts = .ok parts) (holds : c id = some m) :
    m.role = parts.role := by
  obtain ⟨own, readOwn, role⟩ := named id m holds
  rw [read] at readOwn
  cases readOwn
  exact role.symm

/-- What is looked for among the modules of the role that an identifier names is looked for among all. -/
theorem ofRole_eq (named : c.Named) (read : id.parts = .ok parts) :
    c.ofRole parts.role id = c id := by
  cases holds : c id with
  | none => simp [Catalog.ofRole, holds]
  | some m => rw [Catalog.ofRole_eq_some]; exact ⟨holds, named.role_eq read holds⟩

theorem put (named : c.Named) (fits : m.Registrable) :
    Catalog.Named (Function.update c m.id (some m)) := by
  intro id n holds
  rw [Function.update_apply] at holds
  split at holds
  · rename_i same
    cases holds
    rw [same]
    exact fits
  · exact named id n holds

theorem take (named : c.Named) (id : ModuleId) : Catalog.Named (Function.update c id none) := by
  intro other n holds
  rw [Function.update_apply] at holds
  split at holds
  · cases holds
  · exact named other n holds

/-- Among the modules of another role there is none. -/
theorem ofRole_eq_none (named : c.Named) (read : id.parts = .ok parts) {role : Role}
    (other : role ≠ parts.role) : c.ofRole role id = none := by
  cases holds : c.ofRole role id with
  | none => rfl
  | some m =>
      obtain ⟨held, same⟩ := Catalog.ofRole_eq_some.mp holds
      exact absurd (same.symm.trans (named.role_eq read held)) other

/-- A module that is put in or taken out concerns the modules of its role alone. -/
theorem ofRole_update_of_ne (named : c.Named) (read : id.parts = .ok parts)
    {entry : Option (Module α)} (fits : ∀ m ∈ entry, m.role = parts.role) {role : Role}
    (other : role ≠ parts.role) : Catalog.ofRole (Function.update c id entry) role = c.ofRole role := by
  have nothing : entry.filter (·.role == role) = none := by
    rw [Option.filter_eq_none_iff]
    intro m member same
    exact other ((beq_iff_eq.mp same).symm.trans (fits m member))
  rw [Catalog.ofRole_update, nothing, Function.update_eq_self_iff]
  exact (named.ofRole_eq_none read other).symm

end Catalog.Named

/-! ## A registrar stands for a map -/

/-- The modules of a registrar stand for a map in which identifiers name roles. -/
structure Registrar.Agrees (r : Registrar α) (c : Catalog α) : Prop where
  lists : Lists r.modules c
  named : c.Named

namespace Registrar

variable {r : Registrar α} {c : Catalog α}

theorem agrees_empty : (empty : Registrar α).Agrees Catalog.empty := ⟨.nil, .empty⟩

/-- One operation on a registrar is one on its map. -/
theorem Agrees.step (agrees : r.Agrees c) (op : Operation α) :
    (r.step op).1 = (c.step op).1 ∧ (r.step op).2.Agrees (c.step op).2 := by
  cases op with
  | register m =>
      cases refused : Catalog.refusal? m with
      | some e =>
          have error : r.register m = .error e := Catalog.error_of_refused refused _
          simp only [Registrar.step, Catalog.step, refused, error]
          exact ⟨trivial, agrees⟩
      | none =>
          have fits := Catalog.refusal?_eq_none.mp refused
          have isNew : r.get? m.id = c m.id := agrees.lists.found m.id
          simp only [Registrar.step, Catalog.step, refused, r.register_of_registrable fits, isNew]
          refine ⟨trivial, ?_, agrees.named.put fits⟩
          rw [← insertModule_eq]
          exact agrees.lists.insert m
  | unregister id =>
      have found : r.get? id = c id := agrees.lists.found id
      cases read : id.parts with
      | error e =>
          have refused : r.unregister id = .error e := by
            simp only [unregister, ModuleId.role, read]
            rfl
          simp only [Registrar.step, Catalog.step, read, refused]
          exact ⟨trivial, agrees⟩
      | ok parts =>
          cases holds : c id with
          | none =>
              have missing : r.unregister id = .error (notRegistered id) := by
                simp only [unregister, ModuleId.role, read, found, holds]
                rfl
              simp only [Registrar.step, Catalog.step, read, holds, missing]
              exact ⟨trivial, agrees⟩
          | some m =>
              -- the role of the module is the one that its identifier names
              have sameRole := agrees.named.role_eq read holds
              have taken : r.unregister id = .ok (m, ⟨r.modules.filter (·.id != id)⟩) := by
                simp only [unregister, ModuleId.role, read, found, holds, Except.map, bind,
                  Except.bind, if_pos sameRole]
                rfl
              simp only [Registrar.step, Catalog.step, read, holds, taken]
              exact ⟨trivial, agrees.lists.erase id, agrees.named.take id⟩
  | clear => exact ⟨rfl, agrees_empty⟩

end Registrar

/-! ## Shelves stand for a map -/

/-- On every shelf there are the modules of its role. -/
structure Shelves.Agrees (s : Shelves α) (c : Catalog α) : Prop where
  lists : ∀ role, Lists (s.on role) (c.ofRole role)
  named : c.Named

namespace Shelves

variable {s : Shelves α} {c : Catalog α} {id : ModuleId} {parts : ModuleId.Parts}

theorem agrees_empty : (empty : Shelves α).Agrees Catalog.empty := ⟨fun _ => .nil, .empty⟩

theorem on_set (s : Shelves α) (role other : Role) (modules : List (Module α)) :
    (s.set role modules).on other = if other = role then modules else s.on other := by
  rw [on, set]
  simp only
  split <;> rfl

/-- What is done on the shelf of the role that an identifier names is done under this identifier. -/
theorem Agrees.set (agrees : s.Agrees c) (read : id.parts = .ok parts) {entry : Option (Module α)}
    (fits : ∀ m ∈ entry, m.role = parts.role) {modules : List (Module α)}
    (lists : Lists modules (Function.update (c.ofRole parts.role) id entry)) (role : Role) :
    Lists ((s.set parts.role modules).on role)
      (Catalog.ofRole (Function.update c id entry) role) := by
  rw [on_set]
  split
  · rename_i same
    subst same
    have kept : entry.filter (·.role == parts.role) = entry := by
      cases entry with
      | none => rfl
      | some m => simp [fits m rfl]
    rwa [Catalog.ofRole_update, kept]
  · rename_i other
    rw [agrees.named.ofRole_update_of_ne read fits other]
    exact agrees.lists role

/-- What is found on the shelf of the role that an identifier names is what the map holds. -/
theorem Agrees.found (agrees : s.Agrees c) (read : id.parts = .ok parts) :
    (s.on parts.role).find? (·.id == id) = c id :=
  ((agrees.lists parts.role).found id).trans (agrees.named.ofRole_eq read)

theorem bind_find? (s : Shelves α) (role : Role) (p : Module α → Bool) :
    (s.shelf? role).bind (·.find? p) = (s.on role).find? p := by
  unfold on
  cases s.shelf? role <;> rfl

/-- One operation on shelves is one on their map. -/
theorem Agrees.step (agrees : s.Agrees c) (op : Operation α) :
    (s.step op).1 = (c.step op).1 ∧ (s.step op).2.Agrees (c.step op).2 := by
  cases op with
  | register m =>
      cases refused : Catalog.refusal? m with
      | some e =>
          have error : s.register m = .error e := Catalog.error_of_refused refused _
          simp only [Shelves.step, Catalog.step, refused, error]
          exact ⟨trivial, agrees⟩
      | none =>
          have fits := Catalog.refusal?_eq_none.mp refused
          obtain ⟨parts, read, sameRole⟩ := id fits
          have registered : s.register m = .ok ((c m.id).isNone,
              s.set parts.role (insertModule m (s.on parts.role))) := by
            simp only [register, read, bind, Except.bind, if_pos sameRole, agrees.found read]
            rfl
          simp only [Shelves.step, Catalog.step, refused, registered]
          refine ⟨trivial, fun role => ?_, agrees.named.put fits⟩
          refine agrees.set read (fun n same => ?_) ((agrees.lists parts.role).insert m) role
          cases same
          exact sameRole.symm
  | unregister id =>
      cases read : id.parts with
      | error e =>
          have refused : s.unregister id = .error e := by
            simp only [unregister, ModuleId.role, read]
            rfl
          simp only [Shelves.step, Catalog.step, read, refused]
          exact ⟨trivial, agrees⟩
      | ok parts =>
          cases holds : c id with
          | none =>
              have missing : s.unregister id = .error (notRegistered id) := by
                simp only [unregister, ModuleId.role, read, Except.map, bind, Except.bind,
                  bind_find?, agrees.found read, holds]
                rfl
              simp only [Shelves.step, Catalog.step, read, holds, missing]
              exact ⟨trivial, agrees⟩
          | some m =>
              have taken : s.unregister id =
                  .ok (m, s.set parts.role ((s.on parts.role).filter (·.id != id))) := by
                simp only [unregister, ModuleId.role, read, Except.map, bind, Except.bind,
                  bind_find?, agrees.found read, holds]
                rfl
              simp only [Shelves.step, Catalog.step, read, holds, taken]
              refine ⟨trivial, fun role => ?_, agrees.named.take id⟩
              exact agrees.set read (fun n same => by cases same)
                ((agrees.lists parts.role).erase id) role
  | clear => exact ⟨rfl, agrees_empty⟩

/-! ## All modules, those of a role and one of a role -/

theorem Agrees.mem_on (agrees : s.Agrees c) {role : Role} {m : Module α} :
    m ∈ s.on role ↔ c m.id = some m ∧ m.role = role := by
  rw [(agrees.lists role).mem_iff, Catalog.ofRole_eq_some]

/-- The shelves hold no two modules of one identifier, so that all of them are in one list. -/
theorem Agrees.all (agrees : s.Agrees c) {order : List Role} (roles : order.Perm Role.all) :
    Lists (s.all order) c := by
  have distinct : ((order.flatMap s.on).map key).Nodup := by
    rw [List.map_flatMap, List.nodup_flatMap]
    refine ⟨fun role _ => (agrees.lists role).ascending.nodup, ?_⟩
    have different : order.Nodup := roles.nodup_iff.mpr (by decide)
    refine different.imp fun {one other} differ name inOne inOther => ?_
    obtain ⟨m, onOne, named⟩ := List.mem_map.mp inOne
    obtain ⟨n, onOther, same⟩ := List.mem_map.mp inOther
    obtain ⟨held, roleOne⟩ := agrees.mem_on.mp onOne
    obtain ⟨heldToo, roleOther⟩ := agrees.mem_on.mp onOther
    rw [key_eq_iff.mp (same.trans named.symm), held] at heldToo
    cases heldToo
    exact differ (roleOne.symm.trans roleOther)
  refine .of_mem (Keyed.ascending_table _) (fun id m holds => ?_) fun m => ?_
  · have onShelf : c.ofRole m.role id = some m := Catalog.ofRole_eq_some.mpr ⟨holds, rfl⟩
    exact (agrees.lists m.role).id_eq onShelf
  · rw [Shelves.all, (Keyed.perm_table distinct).mem_iff, List.mem_flatMap]
    constructor
    · rintro ⟨role, -, member⟩
      exact (agrees.mem_on.mp member).1
    · intro holds
      have listed : m.role ∈ order := roles.mem_iff.mpr (by cases m.role <;> decide)
      exact ⟨m.role, listed, agrees.mem_on.mpr ⟨holds, rfl⟩⟩

theorem allOfRole_eq (s : Shelves α) (role : Role) : s.allOfRole role =
    if s.on role = [] then .error (noneRegistered role) else .ok (s.on role) := by
  unfold allOfRole on
  cases s.shelf? role with
  | none => rfl
  | some modules => cases modules <;> rfl

end Shelves

namespace Registrar

variable {r : Registrar α} {s : Shelves α} {c : Catalog α} {role : Role}

theorem Agrees.ofRole_eq (agrees : r.Agrees c) (onShelves : s.Agrees c) (role : Role) :
    s.on role = r.ofRole role :=
  (onShelves.lists role).unique (agrees.lists.ofRole role)

theorem Agrees.ofRole_eq_nil (agrees : r.Agrees c) :
    r.ofRole role = [] ↔ c.ofRole role = Catalog.empty := by
  have lists := agrees.lists.ofRole role
  constructor
  · intro nobody
    funext id
    rw [← lists.found, ← ofRole, nobody]
    rfl
  · intro nobody
    rw [nobody] at lists
    exact lists.unique .nil

theorem allOfRole_eq (r : Registrar α) (role : Role) : r.allOfRole role =
    if r.ofRole role = [] then .error (noneRegistered role) else .ok (r.ofRole role) := by
  unfold allOfRole
  cases r.ofRole role <;> rfl

theorem Agrees.allOfRole_ok (agrees : r.Agrees c) {modules : List (Module α)} :
    r.allOfRole role = .ok modules ↔ modules ≠ [] ∧ Lists modules (c.ofRole role) := by
  have lists := agrees.lists.ofRole role
  rw [allOfRole_eq]
  split
  · rename_i nobody
    constructor
    · intro impossible
      cases impossible
    · rintro ⟨somebody, others⟩
      exact absurd ((others.unique lists).trans nobody) somebody
  · rename_i somebody
    constructor
    · intro same
      cases same
      exact ⟨somebody, lists⟩
    · rintro ⟨-, others⟩
      exact congrArg Except.ok (lists.unique others)

theorem Agrees.allOfRole_error (agrees : r.Agrees c) {e : CrawlError} :
    r.allOfRole role = .error e ↔ e = noneRegistered role ∧ c.ofRole role = Catalog.empty := by
  rw [allOfRole_eq, ← agrees.ofRole_eq_nil]
  split
  · rename_i nobody
    simp [nobody, eq_comm]
  · rename_i somebody
    simp [somebody]

theorem select_eq (r : Registrar α) (role : Role) : (r.select role).1 =
    match leastLoaded ((r.ofRole role).map Module.updateScore) with
    | some m => .ok m
    | none => .error (noneRegistered role) := by
  have scored : (r.updateScores role).ofRole role = (r.ofRole role).map Module.updateScore := by
    unfold ofRole updateScores
    induction r.modules with
    | nil => rfl
    | cons m rest ih =>
        by_cases same : m.role = role
        · have kept : m.updateScore.role = role := same
          simp [same, kept, ih]
        · simp [same, ih]
  rw [select, scored]
  cases leastLoaded ((r.ofRole role).map Module.updateScore) <;> rfl

theorem Agrees.select_eq (agrees : r.Agrees c) (onShelves : s.Agrees c) (role : Role) :
    s.select role = (r.select role).1 := by
  rw [Registrar.select_eq, ← agrees.ofRole_eq onShelves]
  rfl

end Registrar

namespace Shelves

variable {s : Shelves α} {c : Catalog α} {role : Role} {m : Module α}

/-- What is chosen for a role is a module on its shelf with a new score. -/
theorem mem_of_select (chosen : s.select role = .ok m) : ∃ n ∈ s.on role, n.updateScore = m := by
  unfold select at chosen
  split at chosen
  · rename_i found
    cases chosen
    exact List.mem_map.mp (leastLoaded_mem found)
  · cases chosen

theorem select_error {e : CrawlError} :
    s.select role = .error e ↔ e = noneRegistered role ∧ s.on role = [] := by
  unfold select
  cases found : leastLoaded ((s.on role).map Module.updateScore) with
  | none =>
      have nobody := List.map_eq_nil_iff.mp (leastLoaded_eq_none found)
      simp [nobody, eq_comm]
  | some m =>
      obtain ⟨n, onShelf, -⟩ := List.mem_map.mp (leastLoaded_mem found)
      have somebody := List.ne_nil_of_mem onShelf
      simp [somebody]

/-- **What is chosen for a role is of this role.** -/
theorem Agrees.selectAs_eq (agrees : s.Agrees c) (role : Role) : s.selectAs role = s.select role := by
  unfold selectAs
  cases chosen : s.select role with
  | error e => rfl
  | ok m =>
      obtain ⟨n, onShelf, rfl⟩ := mem_of_select chosen
      have sameRole : n.updateScore.role = role := (agrees.mem_on.mp onShelf).2
      simp only [bind, Except.bind, if_pos sameRole]
      rfl

end Shelves

namespace Registrar

/-- **A registrar is one map, on shelves and in one list.** Whatever is registered, taken out and
cleared, it answers as a plain map from identifiers to modules does: a module is refused just if its
identifier is not well formed or names another role, and nothing is taken out just if the identifier
is not well formed or not there. All modules, whatever order the shelves come in, are those of the
map, and those of a role are its restriction to this role, which fails only if it is empty. What is
chosen for a role is a module of the role, chosen unless there is none. -/
theorem modules_are_one_map (ops : List (Operation α)) :
    let r := (run step empty ops).2
    let s := (run Shelves.step .empty ops).2
    let c := (run Catalog.step .empty ops).2
    (run step empty ops).1 = (run Catalog.step .empty ops).1 ∧
    (run Shelves.step .empty ops).1 = (run Catalog.step .empty ops).1 ∧
    Lists r.modules c ∧
    (∀ order, order.Perm Role.all → s.all order = r.modules) ∧
    ∀ role,
      s.allOfRole role = r.allOfRole role ∧
      (∀ modules, r.allOfRole role = .ok modules ↔ modules ≠ [] ∧ Lists modules (c.ofRole role)) ∧
      (∀ e, r.allOfRole role = .error e ↔ e = noneRegistered role ∧ c.ofRole role = .empty) ∧
      s.selectAs role = (r.select role).1 ∧
      (∀ m, s.selectAs role = .ok m → ∃ n, c.ofRole role m.id = some n ∧ n.updateScore = m) ∧
      (∀ e, s.selectAs role = .error e ↔ e = noneRegistered role ∧ c.ofRole role = .empty) ∧
      ∀ m : Module α, s.selectAs role ≠ .error (Shelves.wrongRole m role) := by
  intro r s c
  obtain ⟨answers, agrees⟩ : _ ∧ r.Agrees c :=
    run_agrees (fun _ _ op agrees => agrees.step op) agrees_empty ops
  obtain ⟨answersOnShelves, onShelves⟩ : _ ∧ s.Agrees c :=
    run_agrees (fun _ _ op agrees => agrees.step op) Shelves.agrees_empty ops
  refine ⟨answers, answersOnShelves, agrees.lists,
    fun order roles => (onShelves.all roles).unique agrees.lists, fun role => ?_⟩
  have same := agrees.ofRole_eq onShelves role
  have noneOnShelf (e : CrawlError) :
      s.selectAs role = .error e ↔ e = noneRegistered role ∧ c.ofRole role = .empty := by
    rw [onShelves.selectAs_eq, Shelves.select_error, same, agrees.ofRole_eq_nil]
  refine ⟨?_, fun modules => agrees.allOfRole_ok, fun e => agrees.allOfRole_error, ?_,
    fun m chosen => ?_, noneOnShelf, fun m wrong => ?_⟩
  · rw [Shelves.allOfRole_eq, allOfRole_eq, same]
  · rw [onShelves.selectAs_eq, agrees.select_eq onShelves]
  · rw [onShelves.selectAs_eq] at chosen
    obtain ⟨n, onShelf, rfl⟩ := Shelves.mem_of_select chosen
    exact ⟨n, (onShelves.lists role).mem_iff.mp onShelf, rfl⟩
  · obtain ⟨impossible, -⟩ := (noneOnShelf _).mp wrong
    cases role <;> cases impossible

/-- A module with a small letter is registered twice and taken out again, another names a wrong role. -/
theorem modules_are_one_map_small_letters :
    let named (text : String) : Module Unit :=
      ⟨.downloader, ⟨⟨text⟩, .downloader, Counts.simpleScore, .zero, 0⟩, ()⟩
    let ops := [.register (named "d1"), .register (named "d1"), .register (named "D2"),
      .register (named "a3"), .unregister ⟨"d1"⟩]
    let s := (run Shelves.step .empty ops).2
    [.pipeline, .downloader, .analyzer].Perm Role.all ∧
      (s.all [.pipeline, .downloader, .analyzer]).map (·.id.text) = ["D2"] ∧
      s.selectAs .downloader ≠ .error (.argument "downloader(D2) is not a downloader") := by
  intro named ops s
  have order : [.pipeline, .downloader, .analyzer].Perm Role.all := by decide
  obtain ⟨-, -, -, all, ofRole⟩ := modules_are_one_map ops
  refine ⟨order, ?_, (ofRole .downloader).2.2.2.2.2.2 (named "D2")⟩
  rw [all _ order]
  decide +kernel

end Registrar

end CrawlMesh
