/-
# Sending the first requests

A start with first requests checks all of them before anything changes and sends them one after the
other then.  What passes the check passes the policy, if it is not too deep, so that each of them is
recorded, and kept if its record is new (`Session.takes_sendAll`).  A session that holds nothing thus
comes to hold one request for each address, and to know these addresses alone (`Session.Seeded`).

Afterwards a session may be given more, but as long as the scheduler is not prepared anew its policy
stays and no record goes (`Session.Later`).  First requests that are sent again are therefore all
known, and change nothing (`start_again`).
-/
import CrawlMesh.Proofs.Crawl.Succession

namespace CrawlMesh

set_option autoImplicit false

/-! ## Records -/

namespace Request

variable {q r : Request}

/-- What the address of a request is recorded by, if it has a primary domain. -/
def record (r : Request) : String :=
  match r.primaryDomain with
  | .ok domain => Session.key domain r.url
  | .error _ => ""

theorem record_of_named {domain : String} (named : r.primaryDomain = .ok domain) :
    r.record = Session.key domain r.url := by
  simp only [record, named]

theorem recordedBy_record (valid : r.validate = .ok ()) : r.url.RecordedBy r.record := by
  obtain ⟨domain, named⟩ := (validate_iff.mp valid).2
  rw [record_of_named named]
  exact Session.recordedBy_of_named named

/-- Requests have the same record if their addresses have the same text. -/
theorem record_eq_iff (valid : q.validate = .ok ()) (valid' : r.validate = .ok ())
    (read : q.url.IsRead) (read' : r.url.IsRead) :
    q.record = r.record ↔ q.url.text = r.url.text := by
  have first := recordedBy_record valid
  have second := recordedBy_record valid'
  constructor
  · intro same
    rw [same] at first
    exact first.text_eq read.wellFormed read'.wellFormed second
  · intro same
    have special := Scheduler.special_of_web (validate_iff.mp valid).1
    exact (first.of_text read.wellFormed read'.wellFormed special same).unique second

end Request

namespace Session

variable {s t u : Session} {r : Request} {l kept : List Request}

/-! ## Sending one after the other -/

def sendAll (s : Session) (l : List Request) : Session := l.foldl (fun s r => (s.send r).2) s

/-- A first request that is not too deep passes the policy. -/
theorem passes_of_checkSeed (checked : s.checkSeed r = .ok ())
    (depth_le : r.depth ≤ s.policy.maxDepth) : s.Passes r := by
  obtain ⟨valid, accepted⟩ := checkSeed_iff.mp checked
  exact ⟨valid, accepted, depth_le⟩

theorem record?_of_passes (passes : s.Passes r) : s.record? r =
    if r.record ∈ s.seen then none
    else some (r.record, { s with seen := s.seen ++ [r.record] }) := by
  obtain ⟨domain, named⟩ := (Request.validate_iff.mp passes.valid).2
  have checked : s.checkPolicy r = .ok domain := checkPolicy_iff.mpr ⟨named, passes⟩
  simp only [record?, checked, Request.record_of_named named, List.contains_iff_mem]

theorem send_of_recorded (passes : s.Passes r) (known : r.record ∈ s.seen) :
    s.send r = (false, s) := by
  simp only [send, record?_of_passes passes, if_pos known]

theorem send_of_unrecorded (ready : s.requests.pool.Ready) (passes : s.Passes r)
    (fresh : r.record ∉ s.seen) :
    ∃ requests, s.send r =
        (true, { s with seen := s.seen ++ [r.record], requests := requests }) ∧
      requests.pool.Ready ∧ requests.held = r ::ₘ s.requests.held := by
  obtain ⟨requests, put, next, held⟩ := Inbox.put?_of_ready ready r
  refine ⟨requests, ?_, next, held⟩
  simp only [send, record?_of_passes passes, if_neg fresh, enqueue, put]

/-- Some requests were sent to a session, and some of these were kept, each with a record of its
own. -/
structure Takes (s : Session) (l kept : List Request) (t : Session) : Prop where
  sublist : kept.Sublist l
  seen : t.seen = s.seen ++ kept.map Request.record
  held : t.requests.held = ↑kept + s.requests.held
  nodup : (kept.map Request.record).Nodup
  fresh : ∀ r ∈ kept, r.record ∉ s.seen
  known : ∀ r ∈ l, r.record ∈ t.seen

namespace Takes

/-- A request whose record is known is not kept. -/
theorem cons_recorded (taken : s.Takes l kept t) (recorded : r.record ∈ s.seen) :
    s.Takes (r :: l) kept t where
  sublist := taken.sublist.cons r
  seen := taken.seen
  held := taken.held
  nodup := taken.nodup
  fresh := taken.fresh
  known := by
    refine List.forall_mem_cons.mpr ⟨?_, taken.known⟩
    rw [taken.seen]
    exact List.mem_append_left _ recorded

/-- A request whose record is new is kept before the others, none of which has this record. -/
theorem cons_fresh {between : Session} (taken : between.Takes l kept t)
    (fresh : r.record ∉ s.seen) (seen : between.seen = s.seen ++ [r.record])
    (held : between.requests.held = r ::ₘ s.requests.held) : s.Takes (r :: l) (r :: kept) t := by
  have apart : ∀ q ∈ kept, q.record ∉ s.seen ∧ q.record ≠ r.record := by
    intro q member
    have new := taken.fresh q member
    rwa [seen, List.mem_append, List.mem_singleton, not_or] at new
  have together : t.seen = s.seen ++ (r :: kept).map Request.record := by
    rw [taken.seen, seen, List.map_cons, List.append_assoc, List.singleton_append]
  refine ⟨taken.sublist.cons_cons r, together, ?_, ?_, ?_, ?_⟩
  · rw [taken.held, held, Multiset.add_cons, ← Multiset.cons_add, Multiset.cons_coe]
  · refine List.nodup_cons.mpr ⟨?_, taken.nodup⟩
    intro again
    obtain ⟨q, member, same⟩ := List.mem_map.mp again
    exact (apart q member).2 same
  · exact List.forall_mem_cons.mpr ⟨fresh, fun q member => (apart q member).1⟩
  · refine List.forall_mem_cons.mpr ⟨?_, taken.known⟩
    rw [together]
    exact List.mem_append_right _ List.mem_cons_self

end Takes

theorem takes_sendAll (ready : s.requests.pool.Ready) (passes : ∀ r ∈ l, s.Passes r) :
    ∃ kept, s.Takes l kept (s.sendAll l) := by
  induction l generalizing s with
  | nil =>
      refine ⟨[], .refl [], ?_, ?_, List.nodup_nil, ?_, ?_⟩
      · exact (List.append_nil s.seen).symm
      · exact (Multiset.zero_add s.requests.held).symm
      · exact fun r member => absurd member List.not_mem_nil
      · exact fun r member => absurd member List.not_mem_nil
  | cons r rest ih =>
      obtain ⟨first, others⟩ := List.forall_mem_cons.mp passes
      rw [sendAll, List.foldl_cons]
      by_cases recorded : r.record ∈ s.seen
      · obtain ⟨kept, taken⟩ := ih ready others
        rw [send_of_recorded first recorded]
        exact ⟨kept, taken.cons_recorded recorded⟩
      · obtain ⟨requests, sent, nextReady, held⟩ := send_of_unrecorded ready first recorded
        -- What passes does so whatever is recorded.
        obtain ⟨kept, taken⟩ := ih (s := { s with
            seen := s.seen ++ [r.record], requests := requests }) nextReady
          fun other member => ⟨(others other member).valid, (others other member).accepted,
            (others other member).depth_le⟩
        rw [sent]
        exact ⟨r :: kept, taken.cons_fresh recorded rfl held⟩

/-- Requests that are all recorded change nothing. -/
theorem sendAll_of_recorded (passes : ∀ r ∈ l, s.Passes r) (known : ∀ r ∈ l, r.record ∈ s.seen) :
    s.sendAll l = s := by
  induction l with
  | nil => rfl
  | cons r rest ih =>
      obtain ⟨first, others⟩ := List.forall_mem_cons.mp passes
      obtain ⟨recorded, alsoRecorded⟩ := List.forall_mem_cons.mp known
      rw [sendAll, List.foldl_cons, send_of_recorded first recorded]
      exact ih others alsoRecorded

/-- A session holds nothing but some first requests, one for each address, and knows the addresses
of all of them and no others. -/
structure Seeded (s : Session) (seeds kept : List Request) : Prop where
  sublist : kept.Sublist seeds
  held : s.requests.held = ↑kept
  once : (kept.map (·.url.text)).Nodup
  each : ∀ r ∈ seeds, r.url.text ∈ kept.map (·.url.text)
  seen : s.seen = kept.map Request.record
  has_iff : ∀ u : Url, u.IsRead → (s.has u = true ↔ u.text ∈ seeds.map (·.url.text))

/-- What first requests make of a session in which nothing is recorded and nothing waits. -/
theorem seeded_sendAll (ready : s.requests.pool.Ready) (unrecorded : s.seen = [])
    (idle : s.requests.held = 0) (passes : ∀ r ∈ l, s.Passes r) (read : ∀ r ∈ l, r.url.IsRead) :
    ∃ kept, (s.sendAll l).Seeded l kept := by
  obtain ⟨kept, taken⟩ := takes_sendAll ready passes
  have seen : (s.sendAll l).seen = kept.map Request.record := by
    rw [taken.seen, unrecorded, List.nil_append]
  have among {r : Request} (member : r ∈ kept) : r ∈ l := taken.sublist.subset member
  have record_iff {q r : Request} (member : q ∈ l) (member' : r ∈ l) :
      q.record = r.record ↔ q.url.text = r.url.text :=
    Request.record_eq_iff (passes q member).valid (passes r member').valid (read q member)
      (read r member')
  refine ⟨kept, taken.sublist, ?_, ?_, ?_, seen, ?_⟩
  · rw [taken.held, idle, add_zero]
  · refine List.pairwise_map.mpr ((List.pairwise_map.mp taken.nodup).imp_of_mem ?_)
    intro q r member member' apart same
    exact apart ((record_iff (among member) (among member')).mpr same)
  · intro r member
    have known := taken.known r member
    rw [seen] at known
    obtain ⟨q, inside, same⟩ := List.mem_map.mp known
    exact List.mem_map.mpr ⟨q, inside, (record_iff (among inside) member).mp same⟩
  · intro u isRead
    rw [has_iff, seen]
    constructor
    · rintro ⟨k, member, recorded⟩
      obtain ⟨r, inside, rfl⟩ := List.mem_map.mp member
      have first := among inside
      have same := recorded.text_eq isRead.wellFormed (read r first).wellFormed
        (Request.recordedBy_record (passes r first).valid)
      exact List.mem_map.mpr ⟨r, first, same.symm⟩
    · intro member
      obtain ⟨r, inside, same⟩ := List.mem_map.mp member
      have valid := (passes r inside).valid
      have special := Scheduler.special_of_web (Request.validate_iff.mp valid).1
      have recorded := (Request.recordedBy_record valid).of_text (read r inside).wellFormed
        isRead.wellFormed special same
      exact ⟨r.record, seen ▸ taken.known r inside, recorded⟩

/-! ## What becomes of a session -/

theorem ready_send (ready : s.requests.pool.Ready) (r : Request) :
    (s.send r).2.requests.pool.Ready := by
  rcases send_spec s r with ⟨-, -, same⟩ | ⟨k, -, -, same⟩ | ⟨k, requests, -, put, same⟩
  · rw [same]
    exact ready
  · rw [same]
    exact ready
  · obtain ⟨after, taken, next, -⟩ := Inbox.put?_of_ready ready r
    cases put.symm.trans taken
    rw [same]
    exact next

theorem requests_reportAll (s : Session) (errors : List CrawlError) :
    (s.reportAll errors).requests = s.requests := by
  obtain ⟨_, same, -⟩ := s.reportAll_spec errors
  rw [same]

/-- What a session may become as long as there is no other one: it has the same policy and all its
records, and where nothing is recorded nothing new waits. -/
structure Later (s t : Session) : Prop where
  policy : t.policy = s.policy
  domains : t.domains = s.domains
  seen : s.seen ⊆ t.seen
  held : t.seen = [] → ∀ r ∈ t.requests.held, r ∈ s.requests.held

namespace Later

theorem refl (s : Session) : s.Later s := ⟨rfl, rfl, List.Subset.refl _, fun _ _ => id⟩

theorem trans (first : s.Later t) (second : t.Later u) : s.Later u where
  policy := second.policy.trans first.policy
  domains := second.domains.trans first.domains
  seen := List.Subset.trans first.seen second.seen
  held nothing r member :=
    first.held (List.subset_nil.mp (nothing ▸ second.seen)) r (second.held nothing r member)

/-- A session that differs in nothing that counts. -/
theorem of_same (policy : t.policy = s.policy) (domains : t.domains = s.domains)
    (seen : t.seen = s.seen) (held : ∀ r ∈ t.requests.held, r ∈ s.requests.held) : s.Later t :=
  ⟨policy, domains, seen ▸ List.Subset.refl _, fun _ => held⟩

theorem passes (later : s.Later t) (passes : s.Passes r) : t.Passes r where
  valid := passes.valid
  accepted := by
    rw [Accepts, later.domains]
    exact passes.accepted
  depth_le := later.policy ▸ passes.depth_le

theorem send (s : Session) (r : Request) : s.Later (s.send r).2 := by
  cases accepted : (s.send r).1 with
  | false =>
      rw [send_refused accepted]
      exact .refl s
  | true =>
      rcases send_spec s r with ⟨refused, -, -⟩ | ⟨k, refused, -, -⟩ | ⟨k, requests, -, -, same⟩
      · cases refused.symm.trans accepted
      · cases refused.symm.trans accepted
      · rw [same]
        exact ⟨rfl, rfl, List.subset_append_left _ _, fun nothing => by simp at nothing⟩

theorem report {e : CrawlError} (later : s.Later t) : s.Later (t.report e) :=
  later.trans (.of_same rfl rfl rfl fun _ => id)

theorem reportAll {errors : List CrawlError} (later : s.Later t) :
    s.Later (t.reportAll errors) := by
  induction errors generalizing t with
  | nil => exact later
  | cons e rest ih => exact ih later.report

theorem close (s : Session) : s.Later s.close := .of_same rfl rfl rfl fun _ => Inbox.mem_of_close

end Later

end Session

namespace Scheduler

open Session (Later)

variable {s t : Scheduler} {session next : Session} {l : List Request} {r : Request} {n : Nat}

theorem Moved.later {m : Move} (moved : Moved s session m next) : session.Later next := by
  cases moved with
  | admitRequest admitted => exact .of_same rfl rfl rfl fun _ => Inbox.mem_of_admit? admitted
  | takeRequest _ taken => exact .of_same rfl rfl rfl (Inbox.mem_of_take? taken).2
  | missDownloader | missAnalyzer | missPipeline | failDownload =>
      exact .report (.of_same rfl rfl rfl fun _ => id)
  | endFinds | endProcessing => exact .reportAll (.of_same rfl rfl rfl fun _ => id)
  | @sendFound place r data errors =>
      have left : session.Later (session.handOver place ⟨data, errors⟩) :=
        .of_same rfl rfl rfl fun _ => id
      exact left.trans (.send _ r)
  | admitError | takeResponse | takeItem | beginDownload | beginAnalysis | beginProcessing
    | callDownloader | callAnalyzer | callPipeline | endDownload | putResponse | dropResponse
    | endAnalysis | breakAnalysis | sendElsewhere | putItem | dropItem =>
      exact .of_same rfl rfl rfl fun _ => id

theorem Moved.ready {m : Move} (moved : Moved s session m next)
    (ready : session.requests.pool.Ready) : next.requests.pool.Ready := by
  cases moved with
  | admitRequest admitted => exact (Inbox.admit?_of_ready ready admitted).1
  | takeRequest _ taken => exact (Inbox.take?_of_ready ready taken).1
  | @sendFound place r data errors =>
      exact Session.ready_send (s := session.handOver place ⟨data, errors⟩) ready r
  | endFinds | endProcessing =>
      rw [Session.requests_reportAll]
      exact ready
  | admitError | takeResponse | takeItem | beginDownload | beginAnalysis | beginProcessing
    | callDownloader | callAnalyzer | callPipeline | missDownloader | missAnalyzer | missPipeline
    | endDownload | failDownload | putResponse | dropResponse | endAnalysis | breakAnalysis
    | sendElsewhere | putItem | dropItem => exact ready

/-! ## Lives of schedulers -/

/-- What can happen to a scheduler in the life of a spider: an event that is allowed then, or it is
given another outlet, its modules change, or its errors are read. -/
inductive Turn (allowed : Scheduler → Event → Prop) (s : Scheduler) : Scheduler → Prop
  | event {t : Scheduler} {e : Event} (may : allowed s e) (happens : s.step? e = some t) :
      Turn allowed s t
  | route (outlet : Option Nat) : Turn allowed s { s with outlet := outlet }
  | refit (registrar : Registrar Worker) : Turn allowed s { s with registrar := registrar }
  | read (errors : Inbox CrawlError) : Turn allowed s
      { s with session := s.session.map fun session => { session with errors := errors } }

/-- The scheduler has become another one, whatever has happened. -/
def Lives : Scheduler → Scheduler → Prop := Relation.ReflTransGen (Turn fun _ _ => True)

/-- The scheduler has become another one, and was not given another session. -/
def GoesOnTo : Scheduler → Scheduler → Prop :=
  Relation.ReflTransGen (Turn fun s e => renews s e = false)

/-- A later session has taken the place of the one that was there. -/
def KeepsOn (s t : Scheduler) : Prop := Option.Rel Later s.session t.session

theorem keepsOn_of_same (same : t.session = s.session) : s.KeepsOn t := by
  unfold KeepsOn
  rw [same]
  cases s.session with
  | none => exact .none
  | some session => exact .some (.refl session)

theorem KeepsOn.trans {u : Scheduler} (first : s.KeepsOn t) (second : t.KeepsOn u) :
    s.KeepsOn u := by
  unfold KeepsOn at first second ⊢
  generalize s.session = a, t.session = b, u.session = c at first second
  cases first with
  | none => exact second
  | some later =>
      cases second with
      | some last => exact .some (later.trans last)

theorem KeepsOn.later (keepsOn : s.KeepsOn t) (present : s.session = some session) :
    ∃ next, t.session = some next ∧ session.Later next := by
  unfold KeepsOn at keepsOn
  rw [present] at keepsOn
  generalize t.session = after at keepsOn
  cases keepsOn with
  | some later => exact ⟨_, rfl, later⟩

theorem KeepsOn.earlier (keepsOn : s.KeepsOn t) (present : t.session = some next) :
    ∃ session, s.session = some session ∧ session.Later next := by
  unfold KeepsOn at keepsOn
  rw [present] at keepsOn
  generalize s.session = before at keepsOn
  cases keepsOn with
  | some later => exact ⟨_, rfl, later⟩

theorem keepsOn_send (s : Scheduler) (r : Request) : s.KeepsOn (s.send r).2 := by
  unfold send
  split
  · exact keepsOn_of_same rfl
  · rename_i session present
    split
    · exact keepsOn_of_same rfl
    · unfold KeepsOn
      rw [present]
      exact .some (.send session r)

theorem keepsOn_sendAll (s : Scheduler) (l : List Request) : s.KeepsOn (s.sendAll l) := by
  induction l generalizing s with
  | nil => exact keepsOn_of_same rfl
  | cons r rest ih => exact (keepsOn_send s r).trans (ih (s.send r).2)

/-- An operation that gives the scheduler no other session leaves the one that is there, and adds
to it at most. -/
theorem keepsOn_perform {op : Operation} (stays : renews s (.operation op) = false) :
    s.KeepsOn (s.perform op).2 := by
  generalize done : (s.perform op).2 = t
  rcases perform_cases done with ⟨ok, performed⟩ | ⟨registrar, rfl, -⟩
  · cases performed with
    | @init policy sizes modules session registrar origin checked made registered =>
        have vacant : s.status ≠ .prepared := by rcases origin with status | status <;> simp [status]
        have prepares : (s.init policy sizes modules).1 = .ok () := ok
        simp [renews, vacant, prepares, Except.isOk, Except.toBool] at stays
    | start origin => exact (keepsOn_of_same rfl).trans (keepsOn_sendAll s.begun _)
    | pause status => exact keepsOn_of_same rfl
    | recover status => exact keepsOn_of_same rfl
    | stop origin =>
        unfold KeepsOn
        cases s.session with
        | none => exact .none
        | some session => exact .some (.close session)
  · exact keepsOn_of_same rfl

theorem keepsOn_step {e : Event} (stays : renews s e = false) (step : s.step? e = some t) :
    s.KeepsOn t := by
  cases e with
  | operation op =>
      cases step
      exact keepsOn_perform stays
  | endStop =>
      obtain ⟨-, same⟩ := endStop?_spec step
      exact keepsOn_of_same (by rw [same])
  | send r =>
      cases step
      exact keepsOn_send s r
  | work queue m =>
      obtain ⟨⟨after, queue'⟩, moves, rfl⟩ := Option.map_eq_some_iff.mp step
      obtain ⟨session, next, present, moved, goesOn⟩ := move?_moved moves
      unfold KeepsOn
      rw [present, goesOn.same]
      exact .some moved.later

theorem Turn.event_or_keepsOn {allowed : Scheduler → Event → Prop} (turn : Turn allowed s t) :
    (∃ e, allowed s e ∧ s.step? e = some t) ∨ s.KeepsOn t := by
  cases turn with
  | event may happens => exact Or.inl ⟨_, may, happens⟩
  | route outlet => exact Or.inr (keepsOn_of_same rfl)
  | refit registrar => exact Or.inr (keepsOn_of_same rfl)
  | read errors =>
      right
      unfold KeepsOn
      cases s.session with
      | none => exact .none
      | some session => exact .some (.of_same rfl rfl rfl fun _ => id)

theorem GoesOnTo.keepsOn (goesOn : s.GoesOnTo t) : s.KeepsOn t := by
  induction goesOn with
  | refl => exact keepsOn_of_same rfl
  | tail _ turn ih =>
      rcases turn.event_or_keepsOn with ⟨e, stays, happens⟩ | keepsOn
      · exact ih.trans (keepsOn_step stays happens)
      · exact ih.trans keepsOn

/-! ## Prepared schedulers -/

/-- In the life of a scheduler nothing waits where nothing is recorded. -/
theorem Lives.held_eq_zero (lives : (new n).Lives s) (present : s.session = some session)
    (unrecorded : session.seen = []) : session.requests.held = 0 := by
  induction lives generalizing session with
  | refl => cases present
  | @tail t u _ turn ih =>
      have kept (keepsOn : t.KeepsOn u) : session.requests.held = 0 := by
        obtain ⟨before, earlier, later⟩ := keepsOn.earlier present
        have nothing := ih earlier (List.subset_nil.mp (unrecorded ▸ later.seen))
        refine Multiset.eq_zero_of_forall_notMem fun r member => ?_
        have inside := later.held unrecorded r member
        rw [nothing] at inside
        exact Multiset.notMem_zero r inside
      rcases turn.event_or_keepsOn with ⟨e, -, happens⟩ | keepsOn
      · cases renewed : renews t e with
        | true =>
            obtain ⟨-, policy, sizes, fresh, made, now⟩ := renews_spec renewed happens
            cases now.symm.trans present
            exact (Session.new_spec made).2.1
        | false => exact kept (keepsOn_step renewed happens)
      · exact kept keepsOn

/-- The scheduler has a session whose pool of requests is open. -/
def TakesRequests (s : Scheduler) : Prop :=
  ∃ session, s.session = some session ∧ session.requests.pool.Ready

theorem TakesRequests.send (takes : s.TakesRequests) (r : Request) :
    (s.send r).2.TakesRequests := by
  obtain ⟨session, present, ready⟩ := takes
  unfold Scheduler.send
  rw [present]
  by_cases stopped : s.run = .stopped
  · simp only [stopped, if_true]
    exact ⟨session, present, ready⟩
  · simp only [stopped, if_false]
    exact ⟨_, rfl, Session.ready_send ready r⟩

theorem TakesRequests.sendAll (takes : s.TakesRequests) (l : List Request) :
    (s.sendAll l).TakesRequests := by
  induction l generalizing s with
  | nil => exact takes
  | cons r rest ih => exact ih (takes.send r)

theorem TakesRequests.move {queue queue' : Inbox Request} {m : Move} (takes : s.TakesRequests)
    (moves : s.move? queue m = some (t, queue')) : t.TakesRequests := by
  obtain ⟨session, present, ready⟩ := takes
  obtain ⟨other, next, now, moved, goesOn⟩ := move?_moved moves
  cases present.symm.trans now
  exact ⟨next, by rw [goesOn.same], moved.ready ready⟩

/-- A scheduler that is active after an event takes requests, if it did so when it was active. -/
theorem takesRequests_step {e : Event} (takes : s.Active → s.TakesRequests)
    (step : s.step? e = some t) (active : t.Active) : t.TakesRequests := by
  cases e with
  | operation op =>
      rcases perform_cases (Option.some.inj step) with ⟨-, performed⟩ | ⟨registrar, rfl, -⟩
      · cases performed with
        | init origin checked made registered =>
            exact ⟨_, rfl, (Session.new_spec made).1.requests⟩
        | start origin =>
            have begun : s.begun.TakesRequests := takes (origin.imp_right Or.inr)
            exact begun.sendAll _
        | pause status => exact takes (Or.inr (Or.inl status))
        | recover status => exact takes (Or.inr (Or.inr status))
        | stop => rcases active with now | now | now <;> cases now
      · exact takes active
  | endStop =>
      obtain ⟨-, same⟩ := endStop?_spec step
      rw [same] at active
      rcases active with status | status | status <;> cases status
  | send r =>
      cases step
      rw [Active, (sameLife_send s r).status] at active
      exact (takes active).send r
  | work queue m =>
      obtain ⟨⟨after, queue'⟩, moves, rfl⟩ := Option.map_eq_some_iff.mp step
      rw [Active, (sameLife_move? moves).status] at active
      exact (takes active).move moves

theorem Lives.takesRequests (lives : (new n).Lives s) (active : s.Active) : s.TakesRequests := by
  induction lives with
  | refl => rcases active with status | status | status <;> cases status
  | tail _ turn ih =>
      cases turn with
      | event _ happens => exact takesRequests_step ih happens active
      | route outlet => exact ih active
      | refit registrar => exact ih active
      | read errors =>
          obtain ⟨session, present, ready⟩ := ih active
          exact ⟨{ session with errors := errors }, by rw [present]; rfl, ready⟩

/-- A scheduler in whose life it was prepared, and nothing is recorded. -/
structure Poised (s : Scheduler) : Prop where
  lives : ∃ n, (new n).Lives s
  prepared : s.status = .prepared
  unrecorded : s.urlCount = 0

/-- The session of such a scheduler is open and holds nothing. -/
theorem Poised.session_spec (poised : s.Poised) : ∃ session, s.session = some session ∧
    session.requests.pool.Ready ∧ session.seen = [] ∧ session.requests.held = 0 := by
  obtain ⟨n, lives⟩ := poised.lives
  obtain ⟨session, present, ready⟩ := lives.takesRequests (Or.inl poised.prepared)
  have unrecorded : session.seen = [] := by
    have count := poised.unrecorded
    rw [urlCount, present] at count
    exact List.eq_nil_of_length_eq_zero count
  exact ⟨session, present, ready, unrecorded, lives.held_eq_zero present unrecorded⟩

theorem Poised.route (poised : s.Poised) (outlet : Option Nat) :
    Poised { s with outlet := outlet } where
  lives := by
    obtain ⟨n, lives⟩ := poised.lives
    exact ⟨n, lives.tail (.route outlet)⟩
  prepared := poised.prepared
  unrecorded := poised.unrecorded

/-! ## Starting -/

theorem sendAll_eq (present : s.session = some session) (goesOn : s.run ≠ .stopped)
    (l : List Request) : s.sendAll l = s.withSession (session.sendAll l) := by
  induction l generalizing s session with
  | nil => rw [withSession, Session.sendAll, List.foldl_nil, ← present, sendAll, List.foldl_nil]
  | cons r rest ih =>
      have sent : (s.send r).2 = s.withSession (session.send r).2 := by
        simp only [send, present, if_neg goesOn, withSession]
      rw [sendAll, List.foldl_cons, sent]
      exact ih rfl goesOn

theorem forM_checkSeed_of_forall (checked : ∀ r ∈ l, session.checkSeed r = .ok ()) :
    l.forM session.checkSeed = .ok () := by
  induction l with
  | nil => rfl
  | cons r rest ih =>
      obtain ⟨first, others⟩ := List.forall_mem_cons.mp checked
      simp only [List.forM, first, bind, Except.bind]
      exact ih others

/-- A start succeeds if the status allows it, there is a session, and all first requests pass. -/
theorem start_of_checked {seeds : Option (List Request)}
    (origin : s.status = .prepared ∨ s.status = .paused) (present : s.session = some session)
    (checked : ∀ r ∈ seeds.getD [], session.checkSeed r = .ok ()) :
    s.start seeds = (.ok (), s.begun.withSession (session.sendAll (seeds.getD []))) := by
  have mayStart : s.status.check .starting = .ok () := by
    rcases origin with status | status <;>
    · rw [status]
      rfl
  have begun : s.begun.session = some session := present
  have sent := sendAll_eq begun (by simp [Scheduler.begun]) (seeds.getD [])
  unfold start
  rw [mayStart]
  simp only [present, forM_checkSeed_of_forall checked]
  rw [← sent]
  simp only [Scheduler.begun, present]

/-- **First requests are sent once.**  A scheduler that is prepared and has recorded nothing starts
with first requests that pass the check and are not too deep: it is started then, and holds one
request for each of their addresses. -/
theorem Poised.start (poised : s.Poised) (present : s.session = some session)
    (checked : ∀ r ∈ l, session.checkSeed r = .ok ())
    (depth_le : ∀ r ∈ l, r.depth ≤ session.policy.maxDepth) (read : ∀ r ∈ l, r.url.IsRead) :
    ∃ next kept, s.start (some l) = (.ok (), s.begun.withSession next) ∧ session.Later next ∧
      next.Seeded l kept ∧ ∀ r ∈ l, next.Passes r ∧ r.record ∈ next.seen := by
  obtain ⟨same, now, ready, unrecorded, idle⟩ := poised.session_spec
  cases present.symm.trans now
  have passes : ∀ r ∈ l, session.Passes r := fun r member =>
    Session.passes_of_checkSeed (checked r member) (depth_le r member)
  obtain ⟨kept, seeded⟩ := Session.seeded_sendAll ready unrecorded idle passes read
  obtain ⟨_, taken⟩ := Session.takes_sendAll ready passes
  have later : session.Later (session.sendAll l) := by
    obtain ⟨next, after, later⟩ := (keepsOn_sendAll s.begun l).later present
    rw [sendAll_eq (s := s.begun) present (by simp [begun])] at after
    cases after
    exact later
  exact ⟨_, kept, start_of_checked (Or.inl poised.prepared) present checked, later, seeded,
    fun r member => ⟨later.passes (passes r member), taken.known r member⟩⟩

/-- A scheduler that has recorded its first requests and is paused starts with them again as it would
without any. -/
theorem start_again (paused : s.status = .paused) (present : s.session = some session)
    (recorded : ∀ r ∈ l, session.Passes r ∧ r.record ∈ session.seen) :
    s.start (some l) = (.ok (), s.begun) := by
  have checked : ∀ r ∈ l, session.checkSeed r = .ok () := fun r member =>
    Session.checkSeed_iff.mpr ⟨(recorded r member).1.valid, (recorded r member).1.accepted⟩
  have same : session.sendAll l = session :=
    Session.sendAll_of_recorded (fun r member => (recorded r member).1)
      fun r member => (recorded r member).2
  have started : s.start (some l) = (.ok (), s.begun.withSession (session.sendAll l)) :=
    start_of_checked (Or.inr paused) present checked
  rw [started, same]
  simp only [withSession, begun, ← present]

end Scheduler

end CrawlMesh
