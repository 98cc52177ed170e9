/-
# Who is registered

The modules of a registrar by identifier and role (`Registrar.signature`), and what they work with
(`Registrar.bodies`).  Choosing a module and counting its calls change neither (`callModule_spec`,
`bodies_callModule`), and a choice fails only if no module of the role is registered.  A module is
registered just if its identifier names its role (`register_of_registrable`).  Modules that are registered
one after the other leave one for the role of each (`registerAll_complete`): a module gives way only to one
with the same identifier, and an identifier tells the role.
-/
import CrawlMesh.Crawl.Work
import CrawlMesh.Proofs.Keyed

namespace CrawlMesh

set_option autoImplicit false

/-- The identifier of a module is well formed and names its role. -/
def Module.Registrable {α : Type} (m : Module α) : Prop :=
  ∃ parts, m.id.parts = .ok parts ∧ parts.role = m.role

namespace Registrar

variable {α : Type} {r after : Registrar α} {m n : Module α} {role : Role}

/-- The modules by identifier and role. -/
def signature (r : Registrar α) : List (ModuleId × Role) := r.modules.map fun m => (m.id, m.role)

/-- What the modules work with. -/
def bodies (r : Registrar α) : List α := r.modules.map Module.body

theorem signature_modify (id : ModuleId) (f : Module α → Module α)
    (same : ∀ m, (f m).id = m.id ∧ (f m).role = m.role) :
    (r.modify id f).signature = r.signature := by
  simp only [signature, modify, List.map_map]
  refine List.map_congr_left fun m _ => ?_
  simp only [Function.comp_apply]
  split
  · rw [(same m).1, (same m).2]
  · rfl

theorem signature_modifyMeter (id : ModuleId) (f : Meter → Meter)
    (same : ∀ m, (f m).id = m.id) : (r.modifyMeter id f).signature = r.signature :=
  signature_modify id _ fun m => ⟨same m.meter, rfl⟩

@[simp] theorem signature_updateScores (r : Registrar α) (role : Role) :
    (r.updateScores role).signature = r.signature := by
  simp only [signature, updateScores, List.map_map]
  refine List.map_congr_left fun m _ => ?_
  simp only [Function.comp_apply]
  split <;> rfl

theorem bodies_modify (id : ModuleId) (f : Module α → Module α) (same : ∀ m, (f m).body = m.body) :
    (r.modify id f).bodies = r.bodies := by
  simp only [bodies, modify, List.map_map]
  refine List.map_congr_left fun m _ => ?_
  simp only [Function.comp_apply]
  split
  · exact same m
  · rfl

theorem bodies_modifyMeter (id : ModuleId) (f : Meter → Meter) :
    (r.modifyMeter id f).bodies = r.bodies :=
  bodies_modify id _ fun _ => rfl

@[simp] theorem bodies_updateScores (r : Registrar α) (role : Role) :
    (r.updateScores role).bodies = r.bodies := by
  simp only [bodies, updateScores, List.map_map]
  refine List.map_congr_left fun m _ => ?_
  simp only [Function.comp_apply]
  split <;> rfl

/-! ## Choosing a module -/

theorem leastLoaded_mem {l : List (Module α)} (found : leastLoaded l = some m) : m ∈ l := by
  induction l generalizing m with
  | nil => cases found
  | cons n rest ih =>
      simp only [leastLoaded] at found
      split at found
      · cases found
        exact List.mem_cons_self
      · rename_i other best
        split at found <;> cases found
        · exact List.mem_cons_self
        · exact List.mem_cons_of_mem _ (ih best)

theorem leastLoaded_eq_none {l : List (Module α)} (missing : leastLoaded l = none) : l = [] := by
  cases l with
  | nil => rfl
  | cons n rest =>
      simp only [leastLoaded] at missing
      split at missing
      · cases missing
      · split at missing <;> cases missing

/-- What a choice gives is registered for the role, and nothing is if it gives none. -/
theorem select_spec {outcome : Outcome (Module α)} (chosen : r.select role = (outcome, after)) :
    after.signature = r.signature ∧
      (∀ m, outcome = .ok m → (m.id, role) ∈ r.signature) ∧
      (∀ e, outcome = .error e → ∀ worker, (worker, role) ∉ r.signature) := by
  have mem_signature {worker : ModuleId} : (worker, role) ∈ r.signature ↔
      ∃ m ∈ (r.updateScores role).ofRole role, m.id = worker := by
    rw [← signature_updateScores r role]
    simp only [signature, ofRole, List.mem_map, List.mem_filter, beq_iff_eq, Prod.mk.injEq]
    constructor
    · rintro ⟨m, member, same, isRole⟩
      exact ⟨m, ⟨member, isRole⟩, same⟩
    · rintro ⟨m, ⟨member, isRole⟩, same⟩
      exact ⟨m, member, same, isRole⟩
  simp only [select] at chosen
  split at chosen
  · rename_i m found
    cases chosen
    refine ⟨signature_updateScores r role, fun n same => ?_, fun e impossible => ?_⟩
    · cases same
      exact mem_signature.mpr ⟨m, leastLoaded_mem found, rfl⟩
    · cases impossible
  · rename_i missing
    cases chosen
    refine ⟨signature_updateScores r role, fun n impossible => ?_, fun e _ worker member => ?_⟩
    · cases impossible
    · obtain ⟨m, member, -⟩ := mem_signature.mp member
      rw [leastLoaded_eq_none missing] at member
      cases member

theorem bodies_select {outcome : Outcome (Module α)} (chosen : r.select role = (outcome, after)) :
    after.bodies = r.bodies := by
  simp only [select] at chosen
  split at chosen <;> cases chosen <;> exact bodies_updateScores r role

/-! ## Registering -/

/-- What the modules of a registrar are ordered by. -/
def key (m : Module α) : String := m.id.text

theorem key_eq_iff {id : ModuleId} : key m = id.text ↔ m.id = id := by
  constructor
  · intro same
    cases own : m.id
    cases id
    simpa [key, own] using same
  · intro same
    exact congrArg ModuleId.text same

theorem id_beq_eq (m : Module α) (id : ModuleId) : (m.id == id) = (key m == id.text) := by
  rw [Bool.eq_iff_iff, beq_iff_eq, beq_iff_eq]
  exact key_eq_iff.symm

theorem insertModule_eq (m : Module α) (l : List (Module α)) :
    insertModule m l = Keyed.insert key m l := by
  induction l with
  | nil => rfl
  | cons n rest ih =>
      simp only [insertModule, Keyed.insert, id_beq_eq, ih]
      by_cases below : m.id.text < n.id.text <;> simp [key, below]

/-- A module is registered just if its identifier names its role, whatever modules there are. -/
theorem register_of_registrable (r : Registrar α) (fits : m.Registrable) :
    r.register m = .ok ((r.get? m.id).isNone, ⟨Keyed.insert key m r.modules⟩) := by
  obtain ⟨parts, read, sameRole⟩ := fits
  simp only [register, read, bind, Except.bind, if_pos sameRole, insertModule_eq]
  rfl

theorem registrable_of_register {done : Bool × Registrar α} (ok : r.register m = .ok done) :
    m.Registrable := by
  unfold register at ok
  cases read : m.id.parts with
  | error e =>
      rw [read] at ok
      cases ok
  | ok parts =>
      simp only [read, bind, Except.bind] at ok
      split at ok
      · rename_i sameRole
        exact ⟨parts, read, sameRole⟩
      · cases ok

/-- A module that is registered is put among the others. -/
theorem register_ok {isNew : Bool} (done : r.register m = .ok (isNew, after)) :
    m.Registrable ∧ isNew = (r.get? m.id).isNone ∧ after = ⟨Keyed.insert key m r.modules⟩ := by
  have fits := registrable_of_register done
  have registered := (register_of_registrable r fits).symm.trans done
  simp only [Except.ok.injEq, Prod.mk.injEq] at registered
  exact ⟨fits, registered.1.symm, registered.2.symm⟩

/-- Every module has an identifier of its role. -/
def Named (r : Registrar α) : Prop := ∀ m ∈ r.modules, m.Registrable

/-- A module that is registered is among the others, which keep their identifiers. -/
theorem register_spec {isNew : Bool} (named : r.Named)
    (done : r.register m = .ok (isNew, after)) :
    after.Named ∧ (m.id, m.role) ∈ after.signature ∧
      ∀ entry ∈ r.signature, entry ∈ after.signature := by
  obtain ⟨fits, -, rfl⟩ := register_ok done
  have self : (m.id, m.role) ∈ (⟨Keyed.insert key m r.modules⟩ : Registrar α).signature :=
    List.mem_map.mpr ⟨m, Keyed.mem_insert_self m _, rfl⟩
  refine ⟨fun n member => ?_, self, fun entry member => ?_⟩
  · rcases Keyed.mem_insert member with rfl | old
    · exact fits
    · exact named n old
  · obtain ⟨n, old, rfl⟩ := List.mem_map.mp member
    rcases Keyed.mem_insert_of_mem m old with kept | same
    · exact List.mem_map.mpr ⟨n, kept, rfl⟩
    · -- the one that gives way has the same identifier, hence the same role
      have sameId : n.id = m.id := by
        rwa [← beq_iff_eq, id_beq_eq, beq_iff_eq]
      obtain ⟨p, mParts, mRole⟩ := fits
      obtain ⟨q, nParts, nRole⟩ := named n old
      rw [sameId, mParts] at nParts
      cases nParts
      rwa [sameId, ← nRole, mRole]

end Registrar

namespace Scheduler

variable {s t : Scheduler} {role : Role}

/-- Modules that are all registered leave one for the role of each. -/
theorem registerAll_complete {r after : Registrar Worker} {l : List (Module Worker)}
    (named : r.Named) (done : registerAll r l = (.ok (), after)) :
    (∀ m ∈ l, (m.id, m.role) ∈ after.signature) ∧
      ∀ entry ∈ r.signature, entry ∈ after.signature := by
  induction l generalizing r with
  | nil =>
      cases done
      exact ⟨by simp, fun entry member => member⟩
  | cons m rest ih =>
      simp only [registerAll] at done
      split at done
      · cases done
      · rename_i registered
        obtain ⟨named, self, others⟩ := Registrar.register_spec named registered
        obtain ⟨all, kept⟩ := ih named done
        refine ⟨fun n member => ?_, fun entry member => kept entry (others entry member)⟩
        rcases List.mem_cons.mp member with rfl | later
        · exact kept _ self
        · exact all n later

/-- For every role there is a module. -/
def Staffed (s : Scheduler) : Prop := ∀ role, ∃ worker, (worker, role) ∈ s.registrar.signature

/-- Modules of which there is one for every role leave the scheduler staffed. -/
theorem staffed_of_registerAll {modules : ModuleSet} {after : Registrar Worker}
    (checked : modules.check = .ok ()) (done : registerAll .empty modules.all = (.ok (), after)) :
    ∀ role, ∃ worker, (worker, role) ∈ after.signature := by
  have all := (registerAll_complete (fun m member => by cases member) done).1
  have first {l : List (Module Worker)} {role : Role}
      (among : ∀ m ∈ l, m.withRole role ∈ modules.all) (filled : l ≠ []) :
      ∃ worker, (worker, role) ∈ after.signature := by
    obtain ⟨m, member⟩ := List.exists_mem_of_ne_nil l filled
    exact ⟨_, all _ (among m member)⟩
  unfold ModuleSet.check at checked
  split at checked
  · cases checked
  · split at checked
    · cases checked
    · split at checked
      · cases checked
      · rename_i downloaders analyzers pipelines
        intro role
        cases role with
        | downloader =>
            refine first (l := modules.downloaders) (fun m member => ?_)
              (by simpa using downloaders)
            simp only [ModuleSet.all, List.mem_append, List.mem_map]
            exact Or.inl (Or.inl ⟨m, member, rfl⟩)
        | analyzer =>
            refine first (l := modules.analyzers) (fun m member => ?_) (by simpa using analyzers)
            simp only [ModuleSet.all, List.mem_append, List.mem_map]
            exact Or.inl (Or.inr ⟨m, member, rfl⟩)
        | pipeline =>
            refine first (l := modules.pipelines) (fun m member => ?_) (by simpa using pipelines)
            simp only [ModuleSet.all, List.mem_append, List.mem_map]
            exact Or.inr ⟨m, member, rfl⟩

/-- Who is chosen for a role. -/
def choice (s : Scheduler) (role : Role) : Outcome ModuleId :=
  (s.registrar.select role).1.map Module.id

theorem mem_signature_of_choice {worker : ModuleId} (chosen : s.choice role = .ok worker) :
    (worker, role) ∈ s.registrar.signature := by
  obtain ⟨-, found, -⟩ := Registrar.select_spec (Prod.eta (s.registrar.select role)).symm
  unfold choice at chosen
  cases select : (s.registrar.select role).1 with
  | error e =>
      rw [select] at chosen
      cases chosen
  | ok m =>
      rw [select] at chosen
      cases chosen
      exact found m select

theorem choice_of_staffed (staffed : s.Staffed) (role : Role) :
    ∃ worker, s.choice role = .ok worker := by
  obtain ⟨-, -, missing⟩ := Registrar.select_spec (Prod.eta (s.registrar.select role)).symm
  unfold choice
  cases select : (s.registrar.select role).1 with
  | error e =>
      obtain ⟨worker, member⟩ := staffed role
      exact absurd member (missing e select worker)
  | ok m => exact ⟨m.id, rfl⟩

/-- The call of a module that is chosen changes only counts and scores. -/
theorem callModule_spec {accepts : Bool} {outcome : Outcome ModuleId}
    (call : s.callModule role accepts = (outcome, t)) :
    s.choice role = outcome ∧ t = { s with registrar := t.registrar } ∧
      t.registrar.signature = s.registrar.signature := by
  unfold callModule at call
  split at call
  · rename_i e registrar chosen
    obtain ⟨same, -⟩ := Registrar.select_spec chosen
    cases call
    exact ⟨by rw [choice, chosen]; rfl, rfl, same⟩
  · rename_i m registrar chosen
    obtain ⟨same, -⟩ := Registrar.select_spec chosen
    cases call
    refine ⟨by rw [choice, chosen]; rfl, rfl, ?_⟩
    rw [← same]
    refine Registrar.signature_modifyMeter _ _ fun meter => ?_
    unfold Meter.begin
    split <;> rfl

theorem bodies_callModule {accepts : Bool} {outcome : Outcome ModuleId}
    (call : s.callModule role accepts = (outcome, t)) : t.registrar.bodies = s.registrar.bodies := by
  unfold callModule at call
  split at call
  · rename_i e registrar chosen
    cases call
    exact Registrar.bodies_select chosen
  · rename_i m registrar chosen
    cases call
    exact (Registrar.bodies_modifyMeter _ _).trans (Registrar.bodies_select chosen)

theorem signature_endCall (s : Scheduler) (worker : ModuleId) (completes : Bool) :
    (s.endCall worker completes).registrar.signature = s.registrar.signature := by
  refine Registrar.signature_modifyMeter _ _ fun meter => ?_
  unfold Meter.finish
  split <;> rfl

theorem bodies_endCall (s : Scheduler) (worker : ModuleId) (completes : Bool) :
    (s.endCall worker completes).registrar.bodies = s.registrar.bodies :=
  Registrar.bodies_modifyMeter _ _

end Scheduler

end CrawlMesh
