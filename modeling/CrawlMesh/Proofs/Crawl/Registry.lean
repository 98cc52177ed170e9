/-
# Adding and deleting at once

Adding a spider takes three steps: its name has to be free, it is built and prepared beside the
others, and it is put among them if its name is still free.  Deleting one takes two: it is taken
out, and then it is stopped.  Any number of calls may be under way, their steps in any order, with
everything else that is done with a crawler in between (`Registry.Act`).

A spider gets among the others by the last step of a call only, and that step looks at the name and
puts the spider there at once.  So names stay distinct and no call takes away or changes a spider
that is there (`Registry.Moment.Inserts`, `Registry.Moment.Quiet`); what a call has built waits as
its own until then (`AddCall.Fits`).  `adds_atomic` reads this off a whole run: a call that returned
without error has one moment at which its own spider was put under a free name, and all its other
moments, and all moments of calls with an error, have left the spiders as they were.
-/
import CrawlMesh.Crawler
import CrawlMesh.Proofs.Crawl.Lifecycle
import CrawlMesh.Proofs.Keyed
import Mathlib.Data.Option.Basic

namespace CrawlMesh

set_option autoImplicit false

/-! ## One spider -/

theorem Spider.new_spec {d : SpiderDefinition} {s : Spider} (made : Spider.new d = .ok s) :
    s.definition = d ∧ ∃ maxConcurrency, s.scheduler = .new maxConcurrency := by
  unfold Spider.new at made
  cases accepted : d.check with
  | error e =>
      rw [accepted] at made
      cases made
  | ok _ =>
      rw [accepted] at made
      cases made
      exact ⟨rfl, _, rfl⟩

/-- A spider that was prepared is prepared and still has its definition. -/
theorem Spider.prepared_of_init {s t : Spider} {factory : ModuleFactory} {w w' : Workshop}
    (done : s.init factory w = (.ok (), t, w')) :
    t.definition = s.definition ∧ t.scheduler.status = .prepared := by
  unfold init at done
  split at done
  · rename_i prepared
    cases done
    exact ⟨rfl, prepared⟩
  · split at done
    · cases done
    · rename_i modules _ _
      cases done' : s.scheduler.init s.definition.policy s.definition.sizes modules with
      | mk outcome scheduler =>
          rw [done'] at done
          cases done
          refine ⟨rfl, ?_⟩
          rcases Scheduler.init_spec done' with ⟨e, failed, -⟩ | ⟨-, prepared, rfl⟩ |
            ⟨-, -, -, session, registrar, -, -, same⟩
          · cases failed
          · exact prepared
          · exact congrArg Scheduler.status same

namespace Crawler

variable {c c' : Crawler} {name : String} {spider : Spider}

/-! ## The names of the spiders -/

theorem contains_eq_false : c.contains name = false ↔ ∀ s ∈ c.spiders, s.name ≠ name := by
  simp [contains, get?, List.find?_eq_none]

theorem contains_of_checkFree (free : c.checkFree name = .ok ()) : c.contains name = false := by
  unfold checkFree at free
  split at free
  · cases free
  · rename_i absent
    simpa using absent

theorem insertSpider_eq (spider : Spider) (spiders : List Spider) :
    insertSpider spider spiders = Keyed.insert Spider.name spider spiders := by
  induction spiders with
  | nil => rfl
  | cons s rest ih => rw [insertSpider, Keyed.insert, ih]

@[simp] theorem names_put (c : Crawler) (spider : Spider) : (c.put spider).names = c.names := by
  unfold names put
  rw [List.map_map]
  refine List.map_congr_left fun s _ => ?_
  by_cases same : s.name = spider.name <;> simp [same]

theorem names_change {α : Type} (c : Crawler) (name : String) (f : Spider → Outcome α × Spider) :
    (c.change name f).2.names = c.names := by
  unfold change
  split
  · rfl
  · exact names_put c _

theorem names_init (c : Crawler) (name : String) : (c.init name).2.names = c.names := by
  unfold init
  split
  · rfl
  · exact names_put _ _

theorem names_stop (c : Crawler) (name : String) : (c.stop name).2.names = c.names := by
  unfold stop
  split
  · rfl
  · exact names_put _ _

theorem names_stopActive (c : Crawler) (spider : Spider) :
    (c.stopActive spider).names = c.names := by
  unfold stopActive
  split
  · exact names_put _ _
  · rfl

/-! ## What else is done with a crawler -/

/-- What may be done with a crawler apart from adding spiders. -/
inductive Use
  | act (name : String) (action : Action)
  | accept (r : Request)
  | errors (name : String)
  | enqueue (r : Request)
  | pop
  | drain
  | work
  | shutdown

/-- The crawler afterwards. -/
def use (c : Crawler) : Use → Crawler
  | .act name action => (c.act name action).2
  | .accept r => (c.accept r).2
  | .errors name => (c.takeErrors name).2
  | .enqueue r => ((c.enqueue? r).map (·.2)).getD c
  | .pop => (c.popRequest?.map (·.2)).getD c
  | .drain => c.drainQueue.2
  | .work => c.workOnce?.getD c
  | .shutdown => c.shutdown

theorem names_delete (c : Crawler) (name : String) : (c.delete name).2.names.Sublist c.names := by
  have taken : ((c.spiders.filter (·.name != name)).map Spider.name).Sublist c.names :=
    (List.filter_sublist).map Spider.name
  unfold delete
  split
  · exact .refl _
  · dsimp only
    split <;> exact taken

theorem names_act (c : Crawler) (name : String) (action : Action) :
    (c.act name action).2.names.Sublist c.names := by
  have same {c' : Crawler} (same : c'.names = c.names) : c'.names.Sublist c.names := by
    rw [same]
  cases action with
  | delete => exact names_delete c name
  | init => exact same (names_init c name)
  | firstStart => exact same (names_change _ name _)
  | start => exact same (names_change _ name _)
  | stop => exact same (names_stop c name)
  | pause => exact same (names_change c name _)
  | recover => exact same (names_change c name _)

theorem names_work {c' : Crawler} (work : c.workOnce? = some c') : c'.names = c.names := by
  unfold workOnce? at work
  rcases (Option.orElse_eq_some _ _ _).mp work with moved | ⟨-, admitted⟩
  · obtain ⟨spider, -, moves⟩ := List.exists_of_findSome?_eq_some moved
    obtain ⟨⟨scheduler, commons⟩, -, same⟩ := Option.bind_eq_some_iff.mp moves
    cases same
    exact names_put _ _
  · obtain ⟨q, -, rfl⟩ := Option.map_eq_some_iff.mp admitted
    rfl

theorem names_pop {outcome : Outcome Request} (popped : c.popRequest? = some (outcome, c')) :
    c'.names = c.names := by
  unfold popRequest? at popped
  split at popped <;> cases popped <;> rfl

theorem names_enqueue {r : Request} {outcome : Outcome Unit}
    (entered : c.enqueue? r = some (outcome, c')) : c'.names = c.names := by
  obtain ⟨tried, -, same⟩ := Option.map_eq_some_iff.mp entered
  cases same
  rfl

theorem names_shutdown (c : Crawler) : c.shutdown.names = c.names := by
  have all (spiders : List Spider) (c : Crawler) : (spiders.foldl stopActive c).names = c.names := by
    induction spiders generalizing c with
    | nil => rfl
    | cons spider rest ih => rw [List.foldl_cons, ih, names_stopActive]
  exact all c.spiders c

/-- Nothing but adding brings new names. -/
theorem names_use (c : Crawler) (u : Use) : (c.use u).names.Sublist c.names := by
  have same {c' : Crawler} (same : c'.names = c.names) : c'.names.Sublist c.names := by
    rw [same]
  cases u with
  | act name action => exact names_act c name action
  | accept r => exact same (names_change c _ _)
  | errors name => exact same (names_change c name _)
  | enqueue r =>
      simp only [use]
      cases entered : c.enqueue? r with
      | none => exact .refl _
      | some result => exact same (names_enqueue entered)
  | pop =>
      simp only [use]
      cases popped : c.popRequest? with
      | none => exact .refl _
      | some result => exact same (names_pop popped)
  | drain => exact same rfl
  | work =>
      simp only [use]
      cases work : c.workOnce? with
      | none => exact .refl _
      | some c' => exact same (names_work work)
  | shutdown => exact same (names_shutdown c)

/-! ## Calls -/

/-- How far a call that adds a spider has come. -/
inductive AddCall
  | begun (d : SpiderDefinition)
  | checked (d : SpiderDefinition)
  | built (d : SpiderDefinition) (spider : Spider)
  | returned (d : SpiderDefinition) (outcome : Outcome Unit)

namespace AddCall

def definition : AddCall → SpiderDefinition
  | .begun d => d
  | .checked d => d
  | .built d _ => d
  | .returned d _ => d

/-- The next step of a call, unless it has returned. -/
def next? (c : Crawler) : AddCall → Option (AddCall × Crawler)
  | .begun d =>
    match c.checkFree d.name with
    | .error e => some (.returned d (.error e), c)
    | .ok _ => some (.checked d, c)
  | .checked d =>
    match c.build d with
    | (.error e, c) => some (.returned d (.error e), c)
    | (.ok spider, c) => some (.built d spider, c)
  | .built d spider => some ((.returned d (c.insert spider).1), (c.insert spider).2)
  | .returned _ _ => none

/-- What a call has built is its own, and prepared. -/
def Fits : AddCall → Prop
  | .built d spider => spider.definition = d ∧ spider.scheduler.status = .prepared
  | _ => True

/-- A call has put its spider among the others. -/
def Done (call : AddCall) : Prop := ∃ d, call = .returned d (.ok ())

end AddCall

/-- How far a call that deletes a spider has come. -/
inductive DeleteCall
  | begun (name : String)
  | removed (name : String) (spider : Spider)
  | returned (name : String) (outcome : Outcome Unit)

/-- The next step of a call, unless it has returned. -/
def DeleteCall.next? (c : Crawler) : DeleteCall → Option (DeleteCall × Crawler)
  | .begun name =>
    match c.get? name with
    | none => some (.returned name (.error (unknown name)), c)
    | some spider =>
      some (.removed name spider, { c with spiders := c.spiders.filter (·.name != name) })
  | .removed name spider =>
    let c := if spider.isActive then (c.stopSpider spider).2.2 else c
    some (.returned name (.ok ()), c.note .info .crawler s!"Deleted spider {name}")
  | .returned _ _ => none

theorem build_spiders (c : Crawler) (d : SpiderDefinition) : (c.build d).2.spiders = c.spiders := by
  unfold build
  split <;> rfl

theorem factory_build (c : Crawler) (d : SpiderDefinition) :
    (c.build d).2.factory = c.factory := by
  unfold build
  split <;> rfl

theorem build_spec {d : SpiderDefinition} (done : c.build d = (.ok spider, c')) :
    spider.definition = d ∧ spider.scheduler.status = .prepared := by
  unfold build at done
  split at done
  · cases done
  · rename_i fresh made
    have own : fresh.definition = d := (Spider.new_spec made).1
    cases init : fresh.init c.factory c.workshop with
    | mk outcome rest =>
        obtain ⟨after, workshop⟩ := rest
        rw [init] at done
        cases outcome with
        | error e => cases done
        | ok _ =>
            cases done
            obtain ⟨same, prepared⟩ := Spider.prepared_of_init init
            exact ⟨same.trans own, prepared⟩

/-- A spider is put among the others if its name is free, or nothing happens. -/
theorem insert_spec (c : Crawler) (spider : Spider) :
    (∃ e, (c.insert spider).1 = .error e ∧ (c.insert spider).2 = c) ∨
      (c.insert spider).1 = .ok () ∧ c.contains spider.name = false ∧
        (c.insert spider).2.spiders.Perm (spider :: c.spiders) ∧
        (c.insert spider).2.get? spider.name = some spider := by
  unfold insert
  split
  · rename_i e _
    exact Or.inl ⟨e, rfl, rfl⟩
  · rename_i free
    have absent := contains_of_checkFree free
    have fresh : spider.name ∉ c.spiders.map Spider.name := by
      rw [List.mem_map]
      rintro ⟨s, among, same⟩
      exact contains_eq_false.mp absent s among same
    refine Or.inr ⟨rfl, absent, ?_, ?_⟩
    · show (insertSpider spider c.spiders).Perm _
      rw [insertSpider_eq]
      exact Keyed.perm_insert fresh
    · show (insertSpider spider c.spiders).find? (·.name == spider.name) = _
      rw [insertSpider_eq, Keyed.find?_insert, if_pos rfl]

/-- What a step of a call does to the spiders: nothing, or its spider is put under a free name and
the call returns. -/
structure AddCall.Enters (call next : AddCall) (c c' : Crawler) (spider : Spider) : Prop where
  own : call = .built call.definition spider
  returned : next = .returned call.definition (.ok ())
  defined : spider.definition = call.definition
  prepared : spider.scheduler.status = .prepared
  free : c.contains call.definition.name = false
  among : c'.spiders.Perm (spider :: c.spiders)
  found : c'.get? call.definition.name = some spider

/-- What every step of a call keeps, and what it does. -/
theorem AddCall.next?_spec {call next : AddCall} (fits : call.Fits)
    (goesOn : call.next? c = some (next, c')) :
    ¬ call.Done ∧ next.definition = call.definition ∧ next.Fits ∧
      (¬ next.Done ∧ c'.spiders = c.spiders ∨ ∃ spider, call.Enters next c c' spider) := by
  have undone {d : SpiderDefinition} {e : CrawlError} : ¬ Done (.returned d (.error e)) := by
    rintro ⟨_, same⟩
    cases same
  cases call with
  | begun d =>
      refine ⟨fun ⟨_, same⟩ => (by cases same), ?_⟩
      simp only [next?] at goesOn
      split at goesOn <;> cases goesOn
      · exact ⟨rfl, trivial, Or.inl ⟨undone, rfl⟩⟩
      · exact ⟨rfl, trivial, Or.inl ⟨fun ⟨_, same⟩ => (by cases same), rfl⟩⟩
  | checked d =>
      refine ⟨fun ⟨_, same⟩ => (by cases same), ?_⟩
      have kept := build_spiders c d
      simp only [next?] at goesOn
      split at goesOn
      · rename_i made
        cases goesOn
        rw [made] at kept
        exact ⟨rfl, trivial, Or.inl ⟨undone, kept⟩⟩
      · rename_i made
        cases goesOn
        rw [made] at kept
        exact ⟨rfl, build_spec made, Or.inl ⟨fun ⟨_, same⟩ => (by cases same), kept⟩⟩
  | built d spider =>
      refine ⟨fun ⟨_, same⟩ => (by cases same), ?_⟩
      simp only [next?, Option.some.injEq, Prod.mk.injEq] at goesOn
      obtain ⟨rfl, rfl⟩ := goesOn
      obtain ⟨rfl, prepared⟩ := fits
      refine ⟨rfl, trivial, ?_⟩
      rcases insert_spec c spider with ⟨e, failed, same⟩ | ⟨ok, free, among, found⟩
      · rw [failed, same]
        exact Or.inl ⟨undone, rfl⟩
      · rw [ok]
        exact Or.inr ⟨spider, rfl, rfl, rfl, prepared, free, among, found⟩
  | returned d outcome => cases goesOn

theorem DeleteCall.names_next {call next : DeleteCall} (goesOn : call.next? c = some (next, c')) :
    c'.names.Sublist c.names := by
  cases call with
  | begun name =>
      simp only [next?] at goesOn
      split at goesOn <;> cases goesOn
      · exact .refl _
      · exact (List.filter_sublist).map Spider.name
  | removed name spider =>
      simp only [next?, Option.some.injEq, Prod.mk.injEq] at goesOn
      obtain ⟨rfl, rfl⟩ := goesOn
      split <;> exact .refl _
  | returned name outcome => cases goesOn

/-! ## Calls at once -/

/-- A crawler with the calls that add and delete spiders, in the order in which they began. -/
structure Registry where
  crawler : Crawler
  adds : List AddCall
  deletes : List DeleteCall

namespace Registry

/-- What happens next: a call begins or goes on, or something else is done with the crawler. -/
inductive Act
  | beginAdd (d : SpiderDefinition)
  | beginDelete (name : String)
  | add (caller : Nat)
  | delete (caller : Nat)
  | use (u : Use)

/-- The call that goes on adding. -/
def Act.adder? : Act → Option Nat
  | .add caller => some caller
  | _ => none

/-- The definition with which a call begins. -/
def Act.begins? : Act → Option SpiderDefinition
  | .beginAdd d => some d
  | _ => none

def step? (r : Registry) : Act → Option Registry
  | .beginAdd d => some { r with adds := r.adds ++ [.begun d] }
  | .beginDelete name => some { r with deletes := r.deletes ++ [.begun name] }
  | .add caller => do
    let call ← r.adds[caller]?
    let (next, c) ← call.next? r.crawler
    return { r with crawler := c, adds := r.adds.set caller next }
  | .delete caller => do
    let call ← r.deletes[caller]?
    let (next, c) ← call.next? r.crawler
    return { r with crawler := c, deletes := r.deletes.set caller next }
  | .use u => some { r with crawler := r.crawler.use u }

/-- One step of a run. -/
structure Moment where
  before : Registry
  act : Act
  after : Registry

/-- The state after some acts, and all moments of the run. -/
def run? (r : Registry) (past : List Moment) : List Act → Option (Registry × List Moment)
  | [] => some (r, past)
  | a :: rest => (r.step? a).bind fun after => run? after (past ++ [⟨r, a, after⟩]) rest

theorem run?_induction {P : Registry → List Moment → Prop}
    (step : ∀ r past a after, P r past → r.step? a = some after → P after (past ++ [⟨r, a, after⟩]))
    {r last : Registry} {past moments : List Moment} {acts : List Act} (start : P r past)
    (run : run? r past acts = some (last, moments)) : P last moments := by
  induction acts generalizing r past with
  | nil =>
      cases run
      exact start
  | cons a rest ih =>
      obtain ⟨middle, next, run⟩ := Option.bind_eq_some_iff.mp run
      exact ih (step r past a middle start next) run

/-- The moments at which a call that adds a spider went on. -/
def own (caller : Nat) (moments : List Moment) : List Moment :=
  moments.filter (·.act.adder? == some caller)

/-- The spiders stay as they are. -/
def Moment.Quiet (m : Moment) : Prop := m.after.crawler.spiders = m.before.crawler.spiders

/-- A call puts the spider that it has built among the others, whose names are other ones. -/
def Moment.Inserts (m : Moment) (caller : Nat) (d : SpiderDefinition) : Prop :=
  m.act = .add caller ∧ ∃ spider, m.before.adds[caller]? = some (.built d spider) ∧
    spider.definition = d ∧ spider.scheduler.status = .prepared ∧
    m.before.crawler.contains d.name = false ∧
    m.after.crawler.spiders.Perm (spider :: m.before.crawler.spiders) ∧
    m.after.crawler.get? d.name = some spider

/-- A call that has returned without error has put its spider among the others once and done nothing
else to them, and any other call has done nothing to them. -/
def Accounts (caller : Nat) (moments : List Moment) : AddCall → Prop
  | .returned d (.ok ()) =>
    ∃ before m after, moments = before ++ m :: after ∧ m.Inserts caller d ∧
      ∀ other ∈ before ++ after, other.Quiet
  | _ => ∀ m ∈ moments, m.Quiet

theorem accounts_of_not_done {caller : Nat} {moments : List Moment} {call : AddCall}
    (undone : ¬ call.Done) : Accounts caller moments call ↔ ∀ m ∈ moments, m.Quiet := by
  cases call with
  | begun d => exact Iff.rfl
  | checked d => exact Iff.rfl
  | built d spider => exact Iff.rfl
  | returned d outcome =>
      cases outcome with
      | error e => exact Iff.rfl
      | ok _ => exact absurd ⟨d, rfl⟩ undone

/-- What is true of the spiders, the calls and the moments at any time. -/
structure Kept (r : Registry) (moments : List Moment) : Prop where
  distinct : r.crawler.names.Nodup
  definitions : r.adds.map AddCall.definition = moments.filterMap (·.act.begins?)
  fits : ∀ call ∈ r.adds, call.Fits
  accounts : ∀ caller call, r.adds[caller]? = some call →
    Accounts caller (own caller moments) call
  later : ∀ caller, r.adds.length ≤ caller → own caller moments = []
  always : ∀ m ∈ moments, m.after.crawler.names.Nodup
  harmless : ∀ m ∈ moments, ∀ caller, m.act.adder? = some caller →
    m.Quiet ∨ ∃ d, m.Inserts caller d

variable {r after : Registry} {moments : List Moment} {a : Act}

theorem own_append_of_ne {caller : Nat} {m : Moment} (other : m.act.adder? ≠ some caller) :
    own caller (moments ++ [m]) = own caller moments := by
  simp [own, List.filter_append, other]

theorem own_append_self {caller : Nat} {m : Moment} (its : m.act.adder? = some caller) :
    own caller (moments ++ [m]) = own caller moments ++ [m] := by
  simp [own, List.filter_append, its]

/-- A step that is none of a call that adds a spider. -/
theorem Kept.aside (kept : r.Kept moments) (idle : a.adder? = none) (begins : a.begins? = none)
    (adds : after.adds = r.adds) (names : after.crawler.names.Sublist r.crawler.names) :
    after.Kept (moments ++ [⟨r, a, after⟩]) := by
  have others (caller : Nat) : own caller (moments ++ [⟨r, a, after⟩]) = own caller moments :=
    own_append_of_ne (by simp [idle])
  have distinct := names.nodup kept.distinct
  refine ⟨distinct, ?_, adds ▸ kept.fits, ?_, ?_, ?_, ?_⟩
  · simp [adds, kept.definitions, begins]
  · intro caller call there
    rw [others]
    exact kept.accounts caller call (adds ▸ there)
  · intro caller late
    rw [others]
    exact kept.later caller (adds ▸ late)
  · intro m member
    rcases List.mem_append.mp member with old | new
    · exact kept.always m old
    · cases List.mem_singleton.mp new
      exact distinct
  · intro m member caller its
    rcases List.mem_append.mp member with old | new
    · exact kept.harmless m old caller its
    · cases List.mem_singleton.mp new
      cases idle.symm.trans its

/-- A call that begins has done nothing. -/
theorem Kept.begin (kept : r.Kept moments) (d : SpiderDefinition) :
    Kept { r with adds := r.adds ++ [.begun d] }
      (moments ++ [⟨r, .beginAdd d, { r with adds := r.adds ++ [.begun d] }⟩]) := by
  have others (caller : Nat) : own caller
      (moments ++ [⟨r, .beginAdd d, { r with adds := r.adds ++ [.begun d] }⟩]) =
        own caller moments := own_append_of_ne (by simp [Act.adder?])
  refine ⟨kept.distinct, ?_, ?_, ?_, ?_, ?_, ?_⟩
  · simp [kept.definitions, Act.begins?, AddCall.definition]
  · intro call member
    rcases List.mem_append.mp member with old | new
    · exact kept.fits call old
    · cases List.mem_singleton.mp new
      trivial
  · intro caller call there
    rw [others]
    rcases lt_or_ge caller r.adds.length with old | new
    · rw [List.getElem?_append_left old] at there
      exact kept.accounts caller call there
    · rw [List.getElem?_append_right new] at there
      have first : call = .begun d := by
        cases at_ : caller - r.adds.length with
        | zero =>
            rw [at_] at there
            exact (Option.some.inj there).symm
        | succ n =>
            rw [at_] at there
            cases there
      rw [first, kept.later caller new]
      intro m member
      cases member
  · intro caller late
    rw [others]
    refine kept.later caller ?_
    simp only [List.length_append, List.length_singleton] at late
    omega
  · intro m member
    rcases List.mem_append.mp member with old | new
    · exact kept.always m old
    · cases List.mem_singleton.mp new
      exact kept.distinct
  · intro m member caller its
    rcases List.mem_append.mp member with old | new
    · exact kept.harmless m old caller its
    · cases List.mem_singleton.mp new
      cases its

/-- A call that goes on does nothing to the spiders or puts its own among them and returns. -/
theorem Kept.add {caller : Nat} (kept : r.Kept moments)
    (step : r.step? (.add caller) = some after) :
    after.Kept (moments ++ [⟨r, .add caller, after⟩]) := by
  obtain ⟨call, there, step⟩ := Option.bind_eq_some_iff.mp step
  obtain ⟨⟨next, c⟩, goesOn, same⟩ := Option.bind_eq_some_iff.mp step
  cases same
  have begun : caller < r.adds.length := (List.getElem?_eq_some_iff.mp there).1
  obtain ⟨undone, defined, fits, did⟩ :=
    AddCall.next?_spec (kept.fits call (List.mem_of_getElem? there)) goesOn
  have quiet := (accounts_of_not_done undone).mp (kept.accounts caller call there)
  generalize moment : (⟨r, .add caller, { r with crawler := c, adds := r.adds.set caller next }⟩ :
    Moment) = m
  have its : m.act.adder? = some caller := by
    rw [← moment]
    rfl
  have effect : (¬ next.Done ∧ m.Quiet) ∨
      next = .returned call.definition (.ok ()) ∧ m.Inserts caller call.definition := by
    subst moment
    rcases did with ⟨open_, same⟩ | ⟨spider, enters⟩
    · exact Or.inl ⟨open_, same⟩
    · exact Or.inr ⟨enters.returned, rfl, spider, enters.own ▸ there, enters.defined,
        enters.prepared, enters.free, enters.among, enters.found⟩
  have distinct : c.names.Nodup := by
    rcases did with ⟨-, same⟩ | ⟨spider, enters⟩
    · unfold names
      rw [same]
      exact kept.distinct
    · unfold names
      rw [(enters.among.map Spider.name).nodup_iff, List.map_cons, List.nodup_cons]
      refine ⟨?_, kept.distinct⟩
      rw [List.mem_map]
      rintro ⟨s, among, same⟩
      refine contains_eq_false.mp enters.free s among (same.trans ?_)
      exact congrArg SpiderDefinition.name enters.defined
  refine ⟨distinct, ?_, ?_, ?_, ?_, ?_, ?_⟩
  · have unchanged : (r.adds.set caller next).map AddCall.definition =
        r.adds.map AddCall.definition := by
      have same : (r.adds.map AddCall.definition)[caller]? = some next.definition := by
        rw [List.getElem?_map, there, defined]
        rfl
      rw [List.map_set]
      obtain ⟨_, at_⟩ := List.getElem?_eq_some_iff.mp same
      rw [← at_, List.set_getElem_self]
    subst moment
    simp [unchanged, kept.definitions, Act.begins?]
  · intro other member
    rcases List.mem_or_eq_of_mem_set member with old | rfl
    · exact kept.fits other old
    · exact fits
  · intro other call' there'
    by_cases same : caller = other
    · subst same
      rw [List.getElem?_set_self begun] at there'
      cases there'
      rw [own_append_self its]
      rcases effect with ⟨open_, silent⟩ | ⟨rfl, inserts⟩
      · rw [accounts_of_not_done open_]
        intro m' member
        rcases List.mem_append.mp member with old | new
        · exact quiet m' old
        · cases List.mem_singleton.mp new
          exact silent
      · exact ⟨own caller moments, m, [], rfl, inserts, by simpa using quiet⟩
    · rw [List.getElem?_set_ne same] at there'
      rw [own_append_of_ne (by simp [its, same])]
      exact kept.accounts other call' there'
  · intro other late
    rw [List.length_set] at late
    have apart : caller ≠ other := by omega
    rw [own_append_of_ne (by simp [its, apart])]
    exact kept.later other late
  · intro m' member
    rcases List.mem_append.mp member with old | new
    · exact kept.always m' old
    · cases List.mem_singleton.mp new
      subst moment
      exact distinct
  · intro m' member other its'
    rcases List.mem_append.mp member with old | new
    · exact kept.harmless m' old other its'
    · cases List.mem_singleton.mp new
      cases its.symm.trans its'
      exact effect.imp (·.2) fun ⟨_, inserts⟩ => ⟨_, inserts⟩

theorem Kept.step (kept : r.Kept moments) (step : r.step? a = some after) :
    after.Kept (moments ++ [⟨r, a, after⟩]) := by
  cases a with
  | beginAdd d =>
      cases step
      exact kept.begin d
  | beginDelete name =>
      cases step
      exact kept.aside rfl rfl rfl (.refl _)
  | add caller => exact kept.add step
  | delete caller =>
      obtain ⟨call, -, step⟩ := Option.bind_eq_some_iff.mp step
      obtain ⟨⟨next, c⟩, goesOn, same⟩ := Option.bind_eq_some_iff.mp step
      cases same
      exact kept.aside rfl rfl rfl (DeleteCall.names_next goesOn)
  | use u =>
      cases step
      exact kept.aside rfl rfl rfl (names_use r.crawler u)

/-- The steps of one call that adds a spider, with nothing between them, are what adding it does. -/
theorem run?_add (c : Crawler) (d : SpiderDefinition) :
    ∃ steps, (run? ⟨c, [], []⟩ [] (.beginAdd d :: List.replicate steps (.add 0))).map (·.1) =
      some ⟨(c.add d).2, [.returned d (c.add d).1], []⟩ := by
  unfold Crawler.add
  cases free : c.checkFree d.name with
  | error e =>
      refine ⟨1, ?_⟩
      simp only [List.replicate, run?, step?, List.nil_append, Option.bind_some, AddCall.next?,
        List.getElem?_cons_zero, free, bind, pure]
      rfl
  | ok _ =>
      cases made : c.build d with
      | mk outcome c' =>
          cases outcome with
          | error e =>
              refine ⟨2, ?_⟩
              simp only [List.replicate, run?, step?, List.nil_append, Option.bind_some,
                AddCall.next?, List.getElem?_cons_zero, List.set_cons_zero, free, made, bind, pure]
              rfl
          | ok spider =>
              refine ⟨3, ?_⟩
              simp only [List.replicate, run?, step?, List.nil_append, Option.bind_some,
                AddCall.next?, List.getElem?_cons_zero, List.set_cons_zero, free, made, bind, pure]
              rfl

/-- The steps of one call that deletes a spider, with nothing between them, are what deleting it
does. -/
theorem run?_delete (c : Crawler) (name : String) :
    ∃ steps,
      (run? ⟨c, [], []⟩ [] (.beginDelete name :: List.replicate steps (.delete 0))).map (·.1) =
        some ⟨(c.delete name).2, [], [.returned name (c.delete name).1]⟩ := by
  unfold Crawler.delete
  cases found : c.get? name with
  | none =>
      refine ⟨1, ?_⟩
      simp only [List.replicate, run?, step?, List.nil_append, Option.bind_some, DeleteCall.next?,
        List.getElem?_cons_zero, List.set_cons_zero, found, bind, pure]
      rfl
  | some spider =>
      refine ⟨2, ?_⟩
      simp only [List.replicate, run?, step?, List.nil_append, Option.bind_some, DeleteCall.next?,
        List.getElem?_cons_zero, List.set_cons_zero, found, bind, pure]
      rfl

/-- However the steps of calls that add and delete spiders follow each other, and whatever else is
done with the crawler in between: there is at most one spider of a name at any time; a call that adds
a spider leaves the spiders as they are at each of its steps or puts its own, prepared one among
them under the name of its definition, which is free; and it does the latter once if it returns
without error, and never if it returns with one. -/
theorem adds_atomic {c : Crawler} (distinct : c.names.Nodup) {acts : List Act} {r : Registry}
    {moments : List Moment} (run : run? ⟨c, [], []⟩ [] acts = some (r, moments)) :
    (r.crawler.names.Nodup ∧ ∀ m ∈ moments, m.after.crawler.names.Nodup) ∧
      (∀ m ∈ moments, ∀ caller, m.act = .add caller → m.Quiet ∨ ∃ d, m.Inserts caller d) ∧
      ∀ caller d,
        (r.adds[caller]? = some (.returned d (.ok ())) →
          (moments.filterMap (·.act.begins?))[caller]? = some d ∧
            ∃ before m after, own caller moments = before ++ m :: after ∧ m.Inserts caller d ∧
              ∀ other ∈ before ++ after, other.Quiet) ∧
        ∀ e, r.adds[caller]? = some (.returned d (.error e)) → ∀ m ∈ own caller moments, m.Quiet := by
  have kept : r.Kept moments := by
    refine run?_induction (fun _ _ _ _ kept step => Kept.step kept step) ?_ run
    refine ⟨distinct, rfl, ?_, ?_, fun _ _ => rfl, ?_, ?_⟩
    · intro call member
      cases member
    · intro caller call there
      cases there
    · intro m member
      cases member
    · intro m member
      cases member
  refine ⟨⟨kept.distinct, kept.always⟩, ?_, fun caller d => ⟨?_, ?_⟩⟩
  · intro m member caller its
    exact kept.harmless m member caller (by rw [its]; rfl)
  · intro returned
    refine ⟨?_, kept.accounts caller _ returned⟩
    rw [← kept.definitions, List.getElem?_map, returned]
    rfl
  · intro e returned
    exact kept.accounts caller _ returned

/-- A crawler without spiders whose factory never fails. -/
def emptyCrawler : Crawler :=
  ⟨[], .new (.ofFiles [] [] fun _ => default), default, fun _ w => (.ok Scheduler.oneOfEach, w), []⟩

/-- Two calls add a spider of one name at once.  The first is done before the other goes on, its
spider is started, and a third call begins when the spider has been taken out and not yet stopped. -/
def contest : List Act :=
  [.beginAdd (.new "books"), .beginAdd (.new "books"), .add 0, .add 1, .add 1, .add 0, .add 0,
    .use (.act "books" .firstStart), .add 1, .beginDelete "books", .delete 0,
    .beginAdd (.new "books"), .add 2, .delete 0, .add 2, .add 2]

theorem adds_atomic_contest : ∃ r moments,
    run? ⟨emptyCrawler, [], []⟩ [] contest = some (r, moments) ∧
      (∀ m ∈ moments, m.after.crawler.names.Nodup) ∧ r.crawler.names = ["books"] ∧
      (∃ m ∈ own 0 moments, m.Inserts 0 (.new "books")) ∧
      (∀ m ∈ own 1 moments, m.Quiet) ∧ ∃ m ∈ own 2 moments, m.Inserts 2 (.new "books") := by
  obtain ⟨r, moments, run, first, second, third, names⟩ : ∃ r moments,
      run? ⟨emptyCrawler, [], []⟩ [] contest = some (r, moments) ∧
        r.adds[0]? = some (.returned (.new "books") (.ok ())) ∧
        r.adds[1]? = some (.returned (.new "books")
          (.error (.argument "spider books already exists"))) ∧
        r.adds[2]? = some (.returned (.new "books") (.ok ())) ∧ r.crawler.names = ["books"] :=
    ⟨_, _, rfl, rfl, rfl, rfl, rfl⟩
  obtain ⟨⟨-, always⟩, -, calls⟩ :=
    adds_atomic (show emptyCrawler.names.Nodup from List.nodup_nil) run
  have inserted {caller : Nat}
      (returned : r.adds[caller]? = some (.returned (.new "books") (.ok ()))) :
      ∃ m ∈ own caller moments, m.Inserts caller (.new "books") := by
    obtain ⟨-, before, m, after, same, inserts, -⟩ := (calls caller (.new "books")).1 returned
    exact ⟨m, by simp [same], inserts⟩
  exact ⟨r, moments, run, always, names, inserted first, (calls 1 (.new "books")).2 _ second,
    inserted third⟩

end Registry

end Crawler

end CrawlMesh
