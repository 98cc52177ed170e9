/-
# Accepting an address once

Whoever sends a request records its address first and puts the request into the pool afterwards.
Between the two steps others may send, pause, stop or move the work on, and if the pool was closed
meanwhile the record is taken back.  `Senders.step?` takes the calls of all senders step by step, in
any order, and `Scheduler.send` is what a call does that nobody interrupts (`send_alone`).

What is recorded is at any time what the accepted calls and those between their two steps have
recorded (`Tallied`), each its own.  An address is recorded by its text behind its primary domain,
which holds no bar, so that a record stands for one text; and since the text tells the host, a text
has one record (`Url.RecordedBy.text_eq`, `Url.RecordedBy.of_text`).  Therefore an address is accepted
once (`senders_accept_once`).
-/
import CrawlMesh.Proofs.Crawl.Policy
import CrawlMesh.Proofs.Url.Reading

namespace CrawlMesh

set_option autoImplicit false

/-! ## Records of addresses -/

/-- An address names a host, whose primary domain it is recorded with. -/
def Url.RecordedBy (u : Url) (k : String) : Prop :=
  ∃ host domain, u.hostText? = some host ∧ primaryDomain host = .ok domain ∧
    k = Session.key domain u

namespace Url.RecordedBy

variable {u v : Url} {k l : String}

theorem unique (first : u.RecordedBy k) (second : u.RecordedBy l) : k = l := by
  obtain ⟨host, domain, named, found, rfl⟩ := first
  obtain ⟨other, domain', named', found', rfl⟩ := second
  rw [named] at named'
  cases named'
  rw [found] at found'
  rw [Except.ok.inj found']

/-- Addresses with the same record have the same text. -/
theorem text_eq (read : u.WellFormed) (read' : v.WellFormed) (first : u.RecordedBy k)
    (second : v.RecordedBy k) : u.text = v.text := by
  have split {w : Url} (read : w.WellFormed) (recorded : w.RecordedBy k) :
      (k.toList.dropWhile (· != '|')).drop 1 = w.text.toList := by
    obtain ⟨host, domain, named, found, rfl⟩ := recorded
    obtain ⟨place, readable, -, rfl⟩ := read.readable_of_hostText? named
    have free : ∀ c ∈ domain.toList, (c != '|') = true := by
      intro c member
      rw [bne_iff_ne]
      rintro rfl
      exact bar_not_mem_primaryDomain readable found member
    have shape : (Session.key domain w).toList = domain.toList ++ '|' :: w.text.toList := by
      simp [Session.key]
    rw [shape, Text.dropWhile_append_stop free (by simp)]
    rfl
  apply String.toList_inj.mp
  rw [← split read first, ← split read' second]

/-- Addresses of the web with the same text have the same record. -/
theorem of_text (read : u.WellFormed) (read' : v.WellFormed) (special : isSpecial u.scheme = true)
    (recorded : u.RecordedBy k) (same : u.text = v.text) : v.RecordedBy k := by
  obtain ⟨host, domain, named, found, rfl⟩ := recorded
  refine ⟨host, domain, hostText?_of_text read read' special named same, found, ?_⟩
  rw [Session.key, Session.key, same]

end Url.RecordedBy

namespace Session

variable {s next : Session} {r : Request} {k : String}

theorem has_iff {u : Url} : s.has u = true ↔ ∃ k ∈ s.seen, u.RecordedBy k := by
  unfold has
  constructor
  · intro found
    split at found
    · rename_i domain named
      obtain ⟨host, same, ok⟩ := Option.map_eq_some_iff.mp named
      exact ⟨_, List.contains_iff_mem.mp found, host, domain, same, ok, rfl⟩
    · cases found
  · rintro ⟨k, member, host, domain, named, ok, rfl⟩
    rw [named, Option.map_some, ok]
    exact List.contains_iff_mem.mpr member

theorem recordedBy_of_named {domain : String} (named : r.primaryDomain = .ok domain) :
    r.url.RecordedBy (key domain r.url) := by
  unfold Request.primaryDomain at named
  split at named
  · cases named
  · rename_i host found
    exact ⟨host, domain, found, named, rfl⟩

/-- A request that is recorded passes the policy, and its record is new. -/
theorem record?_spec (recorded : s.record? r = some (k, next)) :
    s.Passes r ∧ r.url.RecordedBy k ∧ k ∉ s.seen ∧ next = { s with seen := s.seen ++ [k] } := by
  unfold record? at recorded
  split at recorded
  · cases recorded
  · rename_i domain checked
    obtain ⟨named, passes⟩ := checkPolicy_iff.mp checked
    simp only at recorded
    split at recorded
    · cases recorded
    · rename_i fresh
      cases recorded
      refine ⟨passes, recordedBy_of_named named, ?_, rfl⟩
      intro member
      exact fresh (List.contains_iff_mem.mpr member)

/-- A request that is put waits or enters; one that is refused changes the record alone. -/
theorem enqueue_spec (s : Session) (k : String) (r : Request) :
    (∃ requests, s.requests.put? r = some requests ∧
        s.enqueue k r = (true, { s with requests := requests })) ∨
      s.enqueue k r = (false, { s with seen := s.seen.erase k }) := by
  unfold enqueue
  split
  · rename_i requests put
    exact Or.inl ⟨requests, put, rfl⟩
  · exact Or.inr rfl

/-- A request that is not accepted leaves no trace. -/
theorem send_refused (refused : (s.send r).1 = false) : (s.send r).2 = s := by
  unfold send at refused ⊢
  split at refused
  · rfl
  · rename_i k next recorded
    obtain ⟨-, -, fresh, rfl⟩ := record?_spec recorded
    rcases enqueue_spec { s with seen := s.seen ++ [k] } k r with ⟨requests, -, same⟩ | same
    · rw [same] at refused
      cases refused
    · rw [same]
      have erased : (s.seen ++ [k]).erase k = s.seen := by
        rw [List.erase_append_right _ fresh, List.erase_cons_head, List.append_nil]
      simp only [erased]

theorem seen_new {policy : CrawlPolicy} {sizes : PoolSizes} (made : new policy sizes = .ok s) :
    s.seen = [] := by
  simp only [new, bind, Except.bind] at made
  repeat' split at made
  all_goals cases made
  rfl

theorem seen_reportAll (s : Session) (errors : List CrawlError) :
    (s.reportAll errors).seen = s.seen := by
  obtain ⟨_, same, -⟩ := s.reportAll_spec errors
  rw [same]

end Session

namespace Scheduler

variable {s t : Scheduler} {session next : Session} {r : Request} {k : String}

/-- The request that a move finds and sends to its own scheduler, and the scheduler before it is
sent. -/
def found? (s : Scheduler) (m : Move) : Option (Request × Scheduler) :=
  match s.session, m with
  | some session, .putDatum place =>
    match session.analyses[place]? with
    | some (.delivering ⟨.request r :: rest, errors⟩) =>
      if s.outlet.isNone then some (r, s.withSession (session.handOver place ⟨rest, errors⟩))
      else none
    | _ => none
  | _, _ => none

theorem special_of_web {scheme : String} (web : scheme = "http" ∨ scheme = "https") :
    Url.isSpecial scheme = true := by
  rcases web with rfl | rfl <;> decide

theorem found?_spec {m : Move} (present : s.session = some session)
    (found : s.found? m = some (r, t)) : ∃ next, t.session = some next ∧ next.seen = session.seen := by
  unfold found? at found
  split at found
  · rename_i other place now
    cases present.symm.trans now
    split at found
    · split at found
      · cases found
        exact ⟨session.handOver place _, rfl, rfl⟩
      · cases found
    · cases found
  · cases found

/-- A move that finds nothing records nothing. -/
theorem Moved.seen {m : Move} (present : s.session = some session)
    (moved : Moved s session m next) (nothing : s.found? m = none) : next.seen = session.seen := by
  cases moved with
  | sendFound delivering home =>
      simp [found?, present, delivering, home] at nothing
  | failDownload | missDownloader | missAnalyzer | missPipeline =>
      exact Session.seen_reportAll _ [_]
  | endFinds | endProcessing => exact Session.seen_reportAll _ _
  | admitRequest | admitError | takeRequest | takeResponse | takeItem | beginDownload
    | beginAnalysis | beginProcessing | callDownloader | callAnalyzer | callPipeline | endDownload
    | putResponse | dropResponse | endAnalysis | breakAnalysis | sendElsewhere | putItem
    | dropItem => rfl

/-! ## Calls -/

/-- How far the call has come that sends a request. -/
inductive Call
  | begun (request : Request)
  | recorded (request : Request) (k : String)
  | accepted (request : Request) (k : String)
  | refused (request : Request)

namespace Call

/-- A call that has returned. -/
def returned (request : Request) (k : String) (accepted : Bool) : Call :=
  if accepted then .accepted request k else .refused request

def request : Call → Request
  | .begun r => r
  | .recorded r _ => r
  | .accepted r _ => r
  | .refused r => r

/-- What the call has recorded and not taken back. -/
def kept : Call → Multiset String
  | .begun _ => 0
  | .recorded _ k => {k}
  | .accepted _ k => {k}
  | .refused _ => 0

/-- What the call has recorded before it knows its answer. -/
def marked : Call → Multiset String
  | .begun _ => 0
  | .recorded _ k => {k}
  | .accepted _ _ => 0
  | .refused _ => 0

/-- The answer of the call, once it has returned. -/
def answer? : Call → Option Bool
  | .begun _ => none
  | .recorded _ _ => none
  | .accepted _ _ => some true
  | .refused _ => some false

/-- The request, if the call has returned that it was accepted. -/
def accepted? (c : Call) : Option Request :=
  if c.answer? = some true then some c.request else none

/-- What the call has recorded is the record of its address, which is one of the web. -/
def Fits (c : Call) : Prop :=
  ∀ k ∈ c.kept, c.request.url.RecordedBy k ∧ Url.isSpecial c.request.url.scheme = true

end Call

/-- A call that has just begun; it returns at once if there is nothing to send to. -/
def call (s : Scheduler) (r : Request) : Call :=
  if s.session.isNone || s.run = .stopped then .refused r else .begun r

/-- A scheduler, and the calls that were made to send it requests. -/
structure Senders where
  scheduler : Scheduler
  calls : List Call

/-- What can happen while requests are sent: an event of the scheduler, or a step of one of the
calls. -/
inductive Act
  | event (e : Event)
  | record (caller : Nat)
  | enqueue (caller : Nat)

namespace Senders

/-- Other calls begin, and the scheduler is another one. -/
def arrive (c : Senders) (s : Scheduler) (l : List Request) : Senders :=
  ⟨s, c.calls ++ l.map s.call⟩

/-- An event, in which all that is sent is a call of its own.  A preparation would begin another
session. -/
def react? (c : Senders) : Event → Option Senders
  | .send r => some (c.arrive c.scheduler [r])
  | .operation (.start seeds) =>
    if (c.scheduler.start seeds).1.isOk then some (c.arrive c.scheduler.begun (seeds.getD []))
    else some c
  | .operation (.init _ _ _) => none
  | .work queue m =>
    match c.scheduler.found? m with
    | some (r, s) => some (c.arrive s [r])
    | none => (c.scheduler.step? (.work queue m)).map (c.arrive · [])
  | e => (c.scheduler.step? e).map (c.arrive · [])

/-- The next step of a call that has begun. -/
def record? (c : Senders) (caller : Nat) : Option Senders :=
  match c.scheduler.session, c.calls[caller]? with
  | some session, some (.begun r) =>
    match session.record? r with
    | none => some { c with calls := c.calls.set caller (.refused r) }
    | some (k, next) =>
      some ⟨c.scheduler.withSession next, c.calls.set caller (.recorded r k)⟩
  | _, _ => none

/-- The last step of a call that has recorded its address. -/
def enqueue? (c : Senders) (caller : Nat) : Option Senders :=
  match c.scheduler.session, c.calls[caller]? with
  | some session, some (.recorded r k) =>
    let (accepted, next) := session.enqueue k r
    some ⟨c.scheduler.withSession next, c.calls.set caller (.returned r k accepted)⟩
  | _, _ => none

def step? (c : Senders) : Act → Option Senders
  | .event e => c.react? e
  | .record caller => c.record? caller
  | .enqueue caller => c.enqueue? caller

/-- One step leads to the next. -/
def Steps (c d : Senders) : Prop := ∃ a, c.step? a = some d

/-- The requests that were accepted. -/
def accepted (c : Senders) : List Request := c.calls.filterMap Call.accepted?

/-- Have all calls returned? -/
def Settled (c : Senders) : Prop := ∀ call ∈ c.calls, call.answer? ≠ none

/-! ## What is recorded -/

/-- What is recorded is what the calls have recorded and not taken back, each its own. -/
structure Tallied (c : Senders) (session : Session) : Prop where
  present : c.scheduler.session = some session
  kept : (session.seen : Multiset String) = (c.calls : Multiset Call).bind Call.kept
  nodup : session.seen.Nodup
  fits : ∀ call ∈ c.calls, call.Fits

variable {c d : Senders} {caller : Nat}

theorem kept_call (s : Scheduler) (r : Request) : (s.call r).kept = 0 := by
  unfold Scheduler.call
  split <;> rfl

/-- Calls that have just begun have recorded nothing. -/
theorem Tallied.arrive (tallied : c.Tallied session) {t : Scheduler}
    (present : t.session = some next) (seen : next.seen = session.seen) (l : List Request) :
    (c.arrive t l).Tallied next := by
  have nothing : ∀ call ∈ l.map t.call, call.kept = 0 := by
    intro call member
    obtain ⟨r, -, rfl⟩ := List.mem_map.mp member
    exact kept_call t r
  refine ⟨present, ?_, seen ▸ tallied.nodup, ?_⟩
  · have none : (↑(l.map t.call) : Multiset Call).bind Call.kept = 0 := by
      apply Multiset.eq_zero_of_forall_notMem
      intro k member
      obtain ⟨call, among, inside⟩ := Multiset.mem_bind.mp member
      rw [nothing call (Multiset.mem_coe.mp among)] at inside
      exact Multiset.notMem_zero k inside
    rw [seen, tallied.kept, Senders.arrive, ← Multiset.coe_add, Multiset.add_bind, none, add_zero]
  · intro call member
    rcases List.mem_append.mp member with old | new
    · exact tallied.fits call old
    · intro k inside
      rw [nothing call new] at inside
      exact absurd inside (Multiset.notMem_zero k)

theorem Tallied.operation {op : Operation} (tallied : c.Tallied session)
    (react : c.react? (.operation op) = some d) : ∃ next, d.Tallied next := by
  have unchanged {t : Scheduler} (same : t.session = c.scheduler.session) :
      (c.arrive t []).Tallied session := tallied.arrive (same.trans tallied.present) rfl []
  cases op with
  | init policy sizes modules => cases react
  | start seeds =>
      simp only [react?] at react
      split at react <;> cases react
      · exact ⟨session, tallied.arrive (t := c.scheduler.begun) tallied.present rfl _⟩
      · exact ⟨session, tallied⟩
  | pause =>
      cases react
      refine ⟨session, unchanged ?_⟩
      rcases pause_spec (s := c.scheduler) (Prod.eta _).symm with ⟨e, -, same⟩ | ⟨-, -, same⟩
      · rw [Scheduler.perform, same]
      · rw [Scheduler.perform, same]
  | recover =>
      cases react
      refine ⟨session, unchanged ?_⟩
      rcases recover_spec (s := c.scheduler) (Prod.eta _).symm with ⟨e, -, same⟩ | ⟨-, -, same⟩
      · rw [Scheduler.perform, same]
      · rw [Scheduler.perform, same]
  | stop =>
      cases react
      rcases beginStop_spec (s := c.scheduler) (Prod.eta _).symm with ⟨e, -, same⟩ | ⟨-, -, same⟩
      · refine ⟨session, unchanged ?_⟩
        rw [Scheduler.perform, same]
      · have present : (c.scheduler.perform .stop).2.session = some session.close := by
          rw [Scheduler.perform, same]
          simp only [tallied.present, Option.map_some]
        exact ⟨session.close, tallied.arrive present rfl []⟩

theorem Tallied.work {queue : Inbox Request} {m : Move} (tallied : c.Tallied session)
    (react : c.react? (.work queue m) = some d) : ∃ next, d.Tallied next := by
  simp only [react?] at react
  split at react
  · rename_i r s found
    cases react
    obtain ⟨next, present, seen⟩ := found?_spec tallied.present found
    exact ⟨next, tallied.arrive present seen [r]⟩
  · rename_i nothing
    obtain ⟨t, step, rfl⟩ := Option.map_eq_some_iff.mp react
    obtain ⟨⟨after, queue'⟩, moves, rfl⟩ := Option.map_eq_some_iff.mp step
    obtain ⟨other, next, present, moved, goesOn⟩ := move?_moved moves
    cases tallied.present.symm.trans present
    have now : after.session = some next := by rw [goesOn.same]
    exact ⟨next, tallied.arrive now (moved.seen present nothing) []⟩

theorem Tallied.react {e : Event} (tallied : c.Tallied session) (react : c.react? e = some d) :
    ∃ next, d.Tallied next := by
  cases e with
  | operation op => exact tallied.operation react
  | endStop =>
      obtain ⟨t, ended, rfl⟩ := Option.map_eq_some_iff.mp react
      obtain ⟨-, same⟩ := endStop?_spec ended
      have present : t.session = some session := by
        rw [same]
        exact tallied.present
      exact ⟨session, tallied.arrive present rfl []⟩
  | send r =>
      cases react
      exact ⟨session, tallied.arrive tallied.present rfl [r]⟩
  | work queue m => exact tallied.work react

/-- What the step of a call that records its address does. -/
theorem record?_spec (present : c.scheduler.session = some session)
    (step : c.record? caller = some d) : ∃ r, c.calls[caller]? = some (.begun r) ∧
      (d = { c with calls := c.calls.set caller (.refused r) } ∨
        ∃ k, r.url.RecordedBy k ∧ session.Passes r ∧ k ∉ session.seen ∧
          d = ⟨c.scheduler.withSession { session with seen := session.seen ++ [k] },
            c.calls.set caller (.recorded r k)⟩) := by
  unfold Senders.record? at step
  split at step
  · rename_i other r now at_
    cases present.symm.trans now
    refine ⟨r, at_, ?_⟩
    split at step
    · cases step
      exact Or.inl rfl
    · rename_i k next recorded
      cases step
      obtain ⟨passes, named, fresh, rfl⟩ := Session.record?_spec recorded
      exact Or.inr ⟨k, named, passes, fresh, rfl⟩
  · cases step

/-- What the last step of a call does. -/
theorem enqueue?_spec (present : c.scheduler.session = some session)
    (step : c.enqueue? caller = some d) : ∃ r k, c.calls[caller]? = some (.recorded r k) ∧
      ((∃ requests, session.requests.put? r = some requests ∧
          d = ⟨c.scheduler.withSession { session with requests := requests },
            c.calls.set caller (.accepted r k)⟩) ∨
        d = ⟨c.scheduler.withSession { session with seen := session.seen.erase k },
          c.calls.set caller (.refused r)⟩) := by
  unfold enqueue? at step
  split at step
  · rename_i other r k now at_
    cases present.symm.trans now
    refine ⟨r, k, at_, ?_⟩
    rcases session.enqueue_spec k r with ⟨requests, put, same⟩ | same
    · rw [same] at step
      cases step
      exact Or.inl ⟨requests, put, rfl⟩
    · rw [same] at step
      cases step
      exact Or.inr rfl
  · cases step

/-- A call at a place is another one, and fits as well. -/
theorem fits_set (tallied : c.Tallied session) {call : Call} (fits : call.Fits) :
    ∀ other ∈ c.calls.set caller call, other.Fits := by
  intro other member
  rcases List.mem_or_eq_of_mem_set member with old | rfl
  · exact tallied.fits other old
  · exact fits

theorem Tallied.record (tallied : c.Tallied session) (step : c.record? caller = some d) :
    ∃ next, d.Tallied next := by
  obtain ⟨r, at_, rfl | ⟨k, named, passes, fresh, rfl⟩⟩ := record?_spec tallied.present step
  · refine ⟨session, tallied.present, ?_, tallied.nodup, fits_set tallied ?_⟩
    · rw [tallied.kept, bind_of_place at_, bind_set at_]
      rfl
    · intro k inside
      exact absurd inside (Multiset.notMem_zero k)
  · refine ⟨_, rfl, ?_, ?_, fits_set tallied ?_⟩
    · have before := tallied.kept
      rw [bind_of_place at_, Call.kept, zero_add] at before
      rw [bind_set at_, ← before, Call.kept, add_comm, ← Multiset.coe_singleton, Multiset.coe_add]
    · rw [← List.concat_eq_append]
      exact tallied.nodup.concat fresh
    · intro l inside
      rw [Multiset.mem_singleton.mp inside]
      have web := (Request.validate_iff.mp passes.valid).1
      exact ⟨named, special_of_web web⟩

theorem Tallied.enqueue (tallied : c.Tallied session) (step : c.enqueue? caller = some d) :
    ∃ next, d.Tallied next := by
  obtain ⟨r, k, at_, ⟨requests, put, rfl⟩ | rfl⟩ := enqueue?_spec tallied.present step
  · have fits := tallied.fits _ (List.mem_of_getElem? at_)
    refine ⟨_, rfl, ?_, tallied.nodup, fits_set tallied fits⟩
    rw [bind_set at_]
    exact tallied.kept.trans (bind_of_place at_ _)
  · refine ⟨_, rfl, ?_, tallied.nodup.erase k, fits_set tallied ?_⟩
    · have before := tallied.kept
      rw [bind_of_place at_, Call.kept, Multiset.singleton_add] at before
      rw [bind_set at_, ← Multiset.coe_erase, before, Multiset.erase_cons_head, Call.kept, zero_add]
    · intro l inside
      exact absurd inside (Multiset.notMem_zero l)

/-- Every step keeps the tally. -/
theorem Tallied.step (tallied : c.Tallied session) (step : c.Steps d) : ∃ next, d.Tallied next := by
  obtain ⟨a, step⟩ := step
  cases a with
  | event e => exact tallied.react step
  | record caller => exact tallied.record step
  | enqueue caller => exact tallied.enqueue step

theorem tallied_start {policy : CrawlPolicy} {sizes : PoolSizes}
    (made : Session.new policy sizes = .ok session) (present : s.session = some session) :
    Tallied ⟨s, []⟩ session := by
  have seen := Session.seen_new made
  refine ⟨present, ?_, ?_, ?_⟩
  · rw [seen]
    rfl
  · rw [seen]
    exact List.nodup_nil
  · intro call member
    cases member

theorem tallied_of_reached {policy : CrawlPolicy} {sizes : PoolSizes}
    (made : Session.new policy sizes = .ok session) (present : s.session = some session)
    (reached : Relation.ReflTransGen Steps ⟨s, []⟩ c) : ∃ now, c.Tallied now := by
  induction reached with
  | refl => exact ⟨session, tallied_start made present⟩
  | tail _ step ih =>
      obtain ⟨now, tallied⟩ := ih
      exact tallied.step step

/-! ## Calls that are refused -/

/-- A step of a call leaves the pool as it is, and nothing recorded but what the call may still take
back. -/
def Traceless (c d : Senders) (caller : Nat) : Prop :=
  ∃ session next before after, c.scheduler.session = some session ∧
    d.scheduler.session = some next ∧ c.calls[caller]? = some before ∧
    d.calls[caller]? = some after ∧ next.requests = session.requests ∧
    (next.seen : Multiset String) + before.marked = session.seen + after.marked

/-- Only a step that ends with the request accepted leaves a trace. -/
theorem Tallied.traceless (tallied : c.Tallied session)
    (step : c.record? caller = some d ∨ c.enqueue? caller = some d)
    (unaccepted : ∀ r k, d.calls[caller]? ≠ some (.accepted r k)) : c.Traceless d caller := by
  have after {call : Call} (at_ : c.calls[caller]? = some call) (other : Call) :
      (c.calls.set caller other)[caller]? = some other :=
    List.getElem?_set_self (List.getElem?_eq_some_iff.mp at_).1
  rcases step with record | enqueue
  · obtain ⟨r, at_, rfl | ⟨k, -, -, -, rfl⟩⟩ := record?_spec tallied.present record
    · exact ⟨session, session, _, _, tallied.present, tallied.present, at_, after at_ _, rfl, rfl⟩
    · refine ⟨session, _, _, _, tallied.present, rfl, at_, after at_ _, rfl, ?_⟩
      rw [Call.marked, Call.marked, add_zero, ← Multiset.coe_add, Multiset.coe_singleton]
  · obtain ⟨r, k, at_, ⟨requests, -, rfl⟩ | rfl⟩ := enqueue?_spec tallied.present enqueue
    · exact absurd (after at_ _) (unaccepted r k)
    · refine ⟨session, _, _, _, tallied.present, rfl, at_, after at_ _, rfl, ?_⟩
      have recorded : k ∈ (session.seen : Multiset String) := by
        rw [tallied.kept, bind_of_place at_, Call.kept]
        exact Multiset.mem_add.mpr (Or.inl (Multiset.mem_singleton_self k))
      rw [Call.marked, Call.marked, add_zero, ← Multiset.coe_erase, add_comm,
        Multiset.singleton_add, Multiset.cons_erase recorded]

/-- A request that is sent without interruption and refused leaves no trace at all. -/
theorem send_refused (refused : (s.send r).1 = false) : (s.send r).2 = s := by
  unfold Scheduler.send at refused ⊢
  split at refused
  · rfl
  · rename_i session present
    split at refused
    · rename_i stopped
      rw [if_pos stopped]
    · rename_i goesOn
      rw [if_neg goesOn]
      simp only at refused ⊢
      rw [Session.send_refused refused, ← present]

section Alone

variable {calls : List Call}

theorem set_last (call other : Call) :
    (calls ++ [call]).set calls.length other = calls ++ [other] := by
  simp

theorem steps_refuse (present : s.session = some session) (unrecorded : session.record? r = none) :
    Steps ⟨s, calls ++ [.begun r]⟩ ⟨s, calls ++ [.refused r]⟩ := by
  refine ⟨.record calls.length, ?_⟩
  simp only [Senders.step?, Senders.record?, present, List.getElem?_concat_length, unrecorded,
    set_last]

theorem steps_record (present : s.session = some session)
    (recorded : session.record? r = some (k, next)) :
    Steps ⟨s, calls ++ [.begun r]⟩ ⟨s.withSession next, calls ++ [.recorded r k]⟩ := by
  refine ⟨.record calls.length, ?_⟩
  simp only [Senders.step?, Senders.record?, present, List.getElem?_concat_length, recorded,
    set_last]

theorem steps_enqueue (s : Scheduler) (session : Session) (r : Request) (k : String) :
    Steps ⟨s.withSession session, calls ++ [.recorded r k]⟩
      ⟨s.withSession (session.enqueue k r).2,
        calls ++ [.returned r k (session.enqueue k r).1]⟩ := by
  refine ⟨.enqueue calls.length, ?_⟩
  simp only [Senders.step?, enqueue?, withSession, List.getElem?_concat_length, set_last]

end Alone

/-- What a call does that nobody interrupts is what sending the request does. -/
theorem send_alone (c : Senders) (r : Request) : ∃ call : Call, call.request = r ∧
    call.answer? = some (c.scheduler.send r).1 ∧
      Relation.ReflTransGen Steps c ⟨(c.scheduler.send r).2, c.calls ++ [call]⟩ := by
  have begins : Steps c ⟨c.scheduler, c.calls ++ [c.scheduler.call r]⟩ := ⟨.event (.send r), rfl⟩
  by_cases gone : c.scheduler.session = none ∨ c.scheduler.run = .stopped
  · have same : c.scheduler.send r = (false, c.scheduler) := by
      rcases gone with missing | stopped
      · simp only [Scheduler.send, missing]
      · simp only [Scheduler.send, stopped, if_true]
        split <;> rfl
    rw [Scheduler.call, if_pos (by simpa using gone)] at begins
    rw [same]
    exact ⟨.refused r, rfl, rfl, .single begins⟩
  · obtain ⟨present, running⟩ := not_or.mp gone
    obtain ⟨session, present⟩ := Option.ne_none_iff_exists'.mp present
    rw [Scheduler.call, if_neg (by simpa using gone)] at begins
    have sent : c.scheduler.send r =
        ((session.send r).1, c.scheduler.withSession (session.send r).2) := by
      rw [Scheduler.send, present]
      exact if_neg running
    rw [sent, Session.send]
    cases recorded : session.record? r with
    | none =>
        have unchanged : c.scheduler.withSession session = c.scheduler := by
          rw [withSession, ← present]
        simp only [unchanged]
        exact ⟨.refused r, rfl, rfl, .tail (.single begins) (steps_refuse present recorded)⟩
    | some pair =>
        obtain ⟨k, next⟩ := pair
        refine ⟨.returned r k (next.enqueue k r).1, ?_, ?_, ?_⟩
        · unfold Call.returned
          split <;> rfl
        · cases answer : (next.enqueue k r).1 <;> rfl
        · exact .tail (.tail (.single begins) (steps_record present recorded))
            (steps_enqueue c.scheduler next r k)

/-! ## Accepted addresses -/

theorem mem_accepted {calls : List Call} :
    r ∈ calls.filterMap Call.accepted? ↔ ∃ k, .accepted r k ∈ calls := by
  rw [List.mem_filterMap]
  constructor
  · rintro ⟨call, member, accepted⟩
    cases call with
    | accepted request k =>
        cases accepted
        exact ⟨k, member⟩
    | begun | recorded | refused => cases accepted
  · rintro ⟨k, member⟩
    exact ⟨_, member, rfl⟩

/-- Calls that have different records accept different texts. -/
theorem nodup_accepted {calls : List Call} (read : ∀ call ∈ calls, call.request.url.WellFormed)
    (fits : ∀ call ∈ calls, call.Fits)
    (nodup : ((calls : Multiset Call).bind Call.kept).Nodup) :
    ((calls.filterMap Call.accepted?).map (·.url.text)).Nodup := by
  induction calls with
  | nil => exact List.nodup_nil
  | cons call rest ih =>
      rw [← Multiset.cons_coe, Multiset.cons_bind] at nodup
      obtain ⟨-, others, apart⟩ := Multiset.nodup_add.mp nodup
      have later := ih (fun other member => read other (List.mem_cons_of_mem call member))
        (fun other member => fits other (List.mem_cons_of_mem call member)) others
      cases call with
      | begun | recorded | refused => exact later
      | accepted r k =>
          have fresh : r.url.text ∉ (rest.filterMap Call.accepted?).map (·.url.text) := by
            intro member
            obtain ⟨r', among, same⟩ := List.mem_map.mp member
            obtain ⟨l, among⟩ := mem_accepted.mp among
            have front := fits _ List.mem_cons_self k (Multiset.mem_singleton_self k)
            have behind := fits _ (List.mem_cons_of_mem _ among) l (Multiset.mem_singleton_self l)
            have recorded := front.1.of_text (read _ List.mem_cons_self)
              (read _ (List.mem_cons_of_mem _ among)) front.2 same.symm
            have inside : k ∈ (rest : Multiset Call).bind Call.kept := by
              rw [recorded.unique behind.1]
              exact Multiset.mem_bind.mpr ⟨_, Multiset.mem_coe.mpr among,
                Multiset.mem_singleton_self l⟩
            exact Multiset.disjoint_left.mp apart (Multiset.mem_singleton_self k) inside
          exact List.nodup_cons.mpr ⟨fresh, later⟩

/-- When all calls have returned, what is recorded is what was accepted. -/
theorem card_kept {calls : List Call} (settled : ∀ call ∈ calls, call.answer? ≠ none) :
    ((calls : Multiset Call).bind Call.kept).card = (calls.filterMap Call.accepted?).length := by
  induction calls with
  | nil => rfl
  | cons call rest ih =>
      have later := ih fun other member => settled other (List.mem_cons_of_mem call member)
      rw [← Multiset.cons_coe, Multiset.cons_bind, Multiset.card_add, later]
      cases call with
      | begun => exact absurd rfl (settled _ List.mem_cons_self)
      | recorded => exact absurd rfl (settled _ List.mem_cons_self)
      | accepted r k => exact Nat.add_comm 1 _
      | refused r => exact Nat.zero_add _

/-- When all calls have returned, an address is known if it was accepted. -/
theorem Tallied.has_iff (tallied : c.Tallied session) (settled : c.Settled)
    (read : ∀ call ∈ c.calls, call.request.url.WellFormed) {u : Url} (wellFormed : u.WellFormed) :
    c.scheduler.has u = true ↔ u.text ∈ c.accepted.map (·.url.text) := by
  have known : c.scheduler.has u = true ↔ ∃ k ∈ session.seen, u.RecordedBy k := by
    rw [Scheduler.has, tallied.present]
    exact Session.has_iff
  rw [known]
  constructor
  · rintro ⟨k, seen, recorded⟩
    have inside : k ∈ (c.calls : Multiset Call).bind Call.kept := tallied.kept ▸ seen
    obtain ⟨call, member, kept⟩ := Multiset.mem_bind.mp inside
    have member := Multiset.mem_coe.mp member
    have fits := (tallied.fits call member k kept).1
    have same := recorded.text_eq wellFormed (read call member) fits
    cases call with
    | begun => exact absurd rfl (settled _ member)
    | recorded => exact absurd rfl (settled _ member)
    | refused => exact absurd kept (Multiset.notMem_zero k)
    | accepted r l => exact List.mem_map.mpr ⟨r, mem_accepted.mpr ⟨l, member⟩, same.symm⟩
  · intro member
    obtain ⟨r, among, same⟩ := List.mem_map.mp member
    obtain ⟨k, among⟩ := mem_accepted.mp among
    have kept : k ∈ (Call.accepted r k).kept := Multiset.mem_singleton_self k
    obtain ⟨recorded, special⟩ := tallied.fits _ among k kept
    have seen : k ∈ (session.seen : Multiset String) := by
      rw [tallied.kept]
      exact Multiset.mem_bind.mpr ⟨_, Multiset.mem_coe.mpr among, kept⟩
    exact ⟨k, seen, recorded.of_text (read _ among) wellFormed special same⟩

/-! ## At most once -/

/-- What holds of senders at any time. -/
structure AcceptsOnce (c : Senders) : Prop where
  /-- No text of an address was accepted twice. -/
  once : (c.accepted.map (·.url.text)).Nodup
  /-- What is recorded are the records of accepted calls and of those that may still take them
  back. -/
  recorded : ∃ session, c.scheduler.session = some session ∧
    (session.seen : Multiset String) = (c.calls : Multiset Call).bind Call.kept
  /-- When all calls have returned, the addresses that are known are those that were accepted. -/
  has_iff : c.Settled → ∀ u : Url, u.IsRead →
    (c.scheduler.has u = true ↔ u.text ∈ c.accepted.map (·.url.text))
  urlCount_eq : c.Settled → c.scheduler.urlCount = c.accepted.length
  /-- The steps of a call leave no trace, except the one that accepts its request. -/
  traceless : ∀ caller d, c.step? (.record caller) = some d ∨ c.step? (.enqueue caller) = some d →
    (∀ r k, d.calls[caller]? ≠ some (.accepted r k)) → c.Traceless d caller
  /-- A call that is not interrupted and refuses its request changes nothing. -/
  refused : ∀ r, (c.scheduler.send r).1 = false → (c.scheduler.send r).2 = c.scheduler

/-- **An address is accepted once.**  However many callers send requests to one session, in whatever
order their steps and the events of the scheduler come, no text of an address is accepted twice;
when all calls have returned, the known addresses are those of the accepted requests, and there are
as many; and a call that refuses its request leaves neither a record nor a request behind. -/
theorem senders_accept_once {policy : CrawlPolicy} {sizes : PoolSizes}
    (made : Session.new policy sizes = .ok session) (present : s.session = some session)
    (reached : Relation.ReflTransGen Steps ⟨s, []⟩ c)
    (read : ∀ call ∈ c.calls, call.request.url.IsRead) : c.AcceptsOnce := by
  obtain ⟨now, tallied⟩ := tallied_of_reached made present reached
  have wellFormed : ∀ call ∈ c.calls, call.request.url.WellFormed :=
    fun call member => (read call member).wellFormed
  refine ⟨?once, ⟨now, tallied.present, tallied.kept⟩, ?has, ?count, ?traceless, ?refused⟩
  case once =>
      refine nodup_accepted wellFormed tallied.fits ?_
      rw [← tallied.kept]
      exact tallied.nodup
  case has =>
      intro settled u isRead
      exact tallied.has_iff settled wellFormed isRead.wellFormed
  case count =>
      intro settled
      have count := congrArg Multiset.card tallied.kept
      rw [Multiset.coe_card, card_kept settled] at count
      simpa [urlCount, accepted, tallied.present] using count
  case traceless =>
      intro caller d step unaccepted
      exact tallied.traceless step unaccepted
  case refused =>
      intro r
      exact send_refused

/-- A scheduler that is prepared, with nothing sent to it. -/
def preparedCrawl : Scheduler := ({ new 2 with outlet := none }.init .usual .usual oneOfEach).2

/-- Two callers send the same request at the same time. -/
theorem senders_accept_once_two_callers : ∃ c : Senders,
    Relation.ReflTransGen Steps ⟨preparedCrawl, []⟩ c ∧
      c.calls = [.accepted (page "first") "a.bc|http://a.bc/first", .refused (page "first")] ∧
      (page "first").url.IsRead ∧ c.AcceptsOnce := by
  obtain ⟨session, made, present⟩ : ∃ session, Session.new .usual .usual = .ok session ∧
      preparedCrawl.session = some session := ⟨_, rfl, rfl⟩
  have both : Relation.ReflTransGen Steps ⟨preparedCrawl, []⟩
      ⟨preparedCrawl, [.begun (page "first"), .begun (page "first")]⟩ :=
    .tail (.single ⟨.event (.send (page "first")), rfl⟩) ⟨.event (.send (page "first")), rfl⟩
  obtain ⟨c, reached, calls⟩ : ∃ c : Senders,
      Relation.ReflTransGen Steps ⟨preparedCrawl, []⟩ c ∧
        c.calls = [.accepted (page "first") "a.bc|http://a.bc/first", .refused (page "first")] :=
    ⟨_, .tail (.tail (.tail both ⟨.record 0, rfl⟩) ⟨.record 1, rfl⟩) ⟨.enqueue 0, rfl⟩, rfl⟩
  have read : (page "first").url.IsRead := .parse (s := "http://a.bc/first") rfl
  refine ⟨c, reached, calls, read, senders_accept_once made present reached ?_⟩
  rw [calls]
  simp [Call.request, read]

end Senders

end Scheduler

end CrawlMesh
