/-
# The counts of a module tell of its calls

Calls of one module run next to each other.  Each goes its own way (`Job.next?`): it is held as one in
progress, counted as a call, accepted or refused, worked on, completed if no error came of it, and
released when it is over, be it that it returned or that it broke off.  On each of these steps it changes
one of the counts (`CallStage.mark`), and between any two steps of one call others may take theirs
(`Service.goOn`).

* A step counts a call in one place more or less, and all other calls stay where they were
  (`Counter.read_mark`, `Service.count_set`).
* So every count is the number of the calls that have got so far (`Service.Tells`), and stays so in every
  run (`Service.Tells.run`).  This is exact modulo `2 ^ 64`.
* A call with no other one beside it does to the meter what `Downloader.call`, `Analyzer.call` and
  `Pipeline.call` do (`Service.run_alone`, `Job.count_download`, `Job.count_analysis`,
  `Job.count_processing`).

Which calls return without an error is what the modules themselves say (`Job.errors?_download`,
`Job.errors?_analysis`, `Job.errors?_processing`).
-/
import CrawlMesh.Proofs.Crawl.Runs

namespace CrawlMesh

set_option autoImplicit false

/-! ## Calls -/

/-- A call of a module: what it is given, and what the work on it ends with if there is any. The work
on a response may end with nothing, since it breaks off. -/
inductive Job
  | download (request : Request) (fetched : Fetched)
  | analysis (response : Response) (found : Option Yield)
  | processing (item : Item) (result : Pipeline.Result)

namespace Job

/-- A request has to be valid; items are always taken. -/
def accepts : Job → Bool
  | .download request _ => request.validate.isOk
  | .analysis response _ => response.request.validate.isOk
  | .processing .. => true

def errorsOf {α : Type} : Outcome α → List CrawlError
  | .ok _ => []
  | .error e => [e]

/-- The errors that a call returns with; a refusal is one. A call that breaks off returns nothing. -/
def errors? : Job → Option (List CrawlError)
  | .download request fetched =>
    match Downloader.refusal? request with
    | some e => some [e]
    | none => some (errorsOf fetched.outcome)
  | .analysis response found =>
    match response.request.validate with
    | .ok _ => found.map (·.errors)
    | .error e => some [.stage .analyze e.text response.url.text]
  | .processing _ result => some result.errors

def completes (job : Job) : Bool := job.errors?.any (·.isEmpty)

/-- What a whole call does to the meter. -/
def count (job : Job) (m : Meter) : Meter := m.count job.accepts job.completes

/-- What the work does to the statistics. -/
def account : Job → DownloadStats → DownloadStats
  | .download _ fetched, stats => fetched.count stats
  | .analysis .., stats | .processing .., stats => stats

theorem errors?_download (d : Downloader) (request : Request) :
    (download request (d.fetch request)).errors? = some (errorsOf (d.download request).1) := by
  cases refused : Downloader.refusal? request <;>
    simp [errors?, Downloader.download, refused, errorsOf]

theorem errors?_analysis (a : Analyzer) (response : Response) :
    (analysis response (a.runAll response)).errors? = (a.analyze response).map (·.errors) := by
  cases valid : response.request.validate <;> simp [errors?, Analyzer.analyze, valid]

theorem errors?_processing {σ : Type} (p : Pipeline σ) (item : Item) (s : σ) :
    (processing item (p.run item s).1).errors? = some (p.run item s).1.errors := rfl

theorem stats_download (d : Downloader) (request : Request) :
    (d.download request).2.stats = d.stats.map fun stats =>
      if request.validate.isOk then (download request (d.fetch request)).account stats else stats := by
  cases valid : request.validate <;>
    simp [Downloader.download, Downloader.refusal?, valid, account, Except.isOk, Except.toBool]

theorem count_download (d : Downloader) (m : Meter) (request : Request) :
    (d.call m request).2.2 = (download request (d.fetch request)).count m := by
  have accepts : (Downloader.refusal? request).isNone = request.validate.isOk := by
    cases valid : request.validate <;>
      simp [Downloader.refusal?, valid, Except.isOk, Except.toBool]
  have completes : (d.download request).1.isOk =
      (download request (d.fetch request)).completes := by
    rw [completes, errors?_download]
    cases (d.download request).1 <;> rfl
  rw [count, ← completes, Job.accepts, ← accepts]
  rfl

theorem count_analysis (a : Analyzer) (m : Meter) (response : Response) :
    (a.call m response).2 = (analysis response (a.runAll response)).count m := by
  rw [count, completes, errors?_analysis, Option.any_map]
  rfl

theorem count_processing {σ : Type} (p : Pipeline σ) (m : Meter) (item : Item) (s : σ) :
    (p.call m item s).2.2 = (processing item (p.run item s).1).count m := rfl

/-- A refused call returns with an error, and so it is not completed. -/
theorem accepts_of_completes {job : Job} (completes : job.completes = true) : job.accepts = true := by
  cases job with
  | download request fetched =>
      cases valid : request.validate <;>
        simp [Job.completes, errors?, Downloader.refusal?, valid] at completes
      simp [accepts, valid, Except.isOk, Except.toBool]
  | analysis response found =>
      cases valid : response.request.validate <;> simp [Job.completes, errors?, valid] at completes
      simp [accepts, valid, Except.isOk, Except.toBool]
  | processing => rfl

theorem completes_eq_false {job : Job} (refused : job.accepts = false) : job.completes = false :=
  Bool.eq_false_iff.mpr (mt accepts_of_completes (Bool.eq_false_iff.mp refused))

end Job

/-! ## The way of a call -/

/-- How far a call has got. -/
inductive CallStage
  /-- It is held as one in progress. -/
  | begun
  | called
  | accepted
  /-- The work has ended, and the statistics have been told. -/
  | worked
  | completed
  /-- It is over, be it that it broke off. -/
  | returned
deriving DecidableEq

namespace CallStage

def rank : CallStage → Nat
  | .begun => 0
  | .called => 1
  | .accepted => 2
  | .worked => 3
  | .completed => 4
  | .returned => 5

/-- What a call does to the meter when it gets so far. -/
def mark : CallStage → Meter → Meter
  | .begun => Meter.hold
  | .called => Meter.called
  | .accepted => Meter.accepted
  | .worked => id
  | .completed => Meter.completed
  | .returned => Meter.release

end CallStage

namespace Job

/-- Where a call gets next; from everywhere on its way it gets to its return. -/
def next? (job : Job) : CallStage → Option CallStage
  | .begun => some .called
  | .called => some (if job.accepts then .accepted else .returned)
  | .accepted => some .worked
  | .worked => some (if job.completes then .completed else .returned)
  | .completed => some .returned
  | .returned => none

/-- The steps that a call may take. -/
inductive Next (job : Job) : CallStage → CallStage → Prop
  | call : Next job .begun .called
  | accept (accepts : job.accepts = true) : Next job .called .accepted
  | refuse (refused : job.accepts = false) : Next job .called .returned
  | work : Next job .accepted .worked
  | complete (completes : job.completes = true) : Next job .worked .completed
  | fail (fails : job.completes = false) : Next job .worked .returned
  | leave : Next job .completed .returned

variable {job : Job} {p q : CallStage}

theorem next_of_next? (goes : job.next? p = some q) : job.Next p q := by
  cases p with
  | begun => exact Option.some.inj goes ▸ .call
  | called =>
      cases accepts : job.accepts <;> simp [next?, accepts] at goes
      · exact goes ▸ .refuse accepts
      · exact goes ▸ .accept accepts
  | accepted => exact Option.some.inj goes ▸ .work
  | worked =>
      cases completes : job.completes <;> simp [next?, completes] at goes
      · exact goes ▸ .fail completes
      · exact goes ▸ .complete completes
  | completed => exact Option.some.inj goes ▸ .leave
  | returned => cases goes

end Job

/-! ## Calls next to each other -/

/-- A module in service: its meter, its statistics and all its calls, each with how far it has got. -/
structure Service where
  meter : Meter
  stats : DownloadStats
  calls : List (Job × CallStage)

namespace Service

inductive Event
  | begins (job : Job)
  | goesOn (place : Nat)

/-- The job of a call that begins. -/
def Event.job? : Event → Option Job
  | .begins job => some job
  | .goesOn _ => none

/-- A module in service, before its first call. -/
def opened (meter : Meter) : Service := ⟨meter, .zero, []⟩

def begin (s : Service) (job : Job) : Service :=
  { s with meter := CallStage.begun.mark s.meter, calls := s.calls ++ [(job, .begun)] }

/-- The call at a place gets somewhere. -/
def move (s : Service) (place : Nat) (job : Job) (q : CallStage) : Service where
  meter := q.mark s.meter
  stats := if q = .worked then job.account s.stats else s.stats
  calls := s.calls.set place (job, q)

/-- The call at a place takes its next step, if there is one. -/
def goOn (s : Service) (place : Nat) : Service :=
  match s.calls[place]? with
  | some (job, p) =>
    match job.next? p with
    | some q => s.move place job q
    | none => s
  | none => s

def step (s : Service) : Event → Service
  | .begins job => s.begin job
  | .goesOn place => s.goOn place

def run (s : Service) (events : List Event) : Service := events.foldl step s

/-- A call that goes on takes one of its steps, or there is no step for it to take. -/
theorem goOn_cases (s : Service) (place : Nat) :
    s.goOn place = s ∨ ∃ job p q, s.calls[place]? = some (job, p) ∧ job.Next p q ∧
      s.goOn place = s.move place job q := by
  cases there : s.calls[place]? with
  | none => exact .inl (by simp [goOn, there])
  | some call =>
      obtain ⟨job, p⟩ := call
      cases goes : job.next? p with
      | none => exact .inl (by simp [goOn, there, goes])
      | some q => exact .inr ⟨job, p, q, rfl, Job.next_of_next? goes, by simp [goOn, there, goes]⟩

/-- What is kept when a call begins and when one takes a step is kept by every run. -/
theorem run_keeps {Kept : Service → Prop} (begins : ∀ s job, Kept s → Kept (s.begin job))
    (moves : ∀ s place job p q, Kept s → s.calls[place]? = some (job, p) → Job.Next job p q →
      Kept (s.move place job q))
    {s : Service} (kept : Kept s) (events : List Event) : Kept (s.run events) := by
  induction events generalizing s with
  | nil => exact kept
  | cons event rest ih =>
      refine ih ?_
      cases event with
      | begins job => exact begins s job kept
      | goesOn place =>
          rw [step]
          obtain same | ⟨job, p, q, there, next, moved⟩ := goOn_cases s place
          · rw [same]
            exact kept
          · rw [moved]
            exact moves s place job p q kept there next

end Service

/-! ## What the counts count -/

/-- The counts of a meter. -/
inductive Counter
  | called
  | accepted
  | completed
  | handling

namespace Counter

def read : Counter → Counts → UInt64
  | .called => Counts.called
  | .accepted => Counts.accepted
  | .completed => Counts.completed
  | .handling => Counts.handling

/-- The calls that a count is of. -/
def counts : Counter → Job × CallStage → Bool
  | .called, call => call.2 ≠ .begun
  | .accepted, call => call.1.accepts && 2 ≤ call.2.rank
  | .completed, call => call.1.completes && 4 ≤ call.2.rank
  | .handling, call => call.2 ≠ .returned

/-- A step of a call changes every count as it changes whether it is of the call. -/
theorem read_mark (counter : Counter) {job : Job} {p q : CallStage} (step : job.Next p q) (m : Meter) :
    counter.read (q.mark m).counts + UInt64.ofNat (counter.counts (job, p)).toNat =
      counter.read m.counts + UInt64.ofNat (counter.counts (job, q)).toNat := by
  -- A refused call has taken no part in what completes when it returns.
  have refusals : job.accepts = false → job.completes = false := Job.completes_eq_false
  cases step <;> cases counter <;>
    simp [read, counts, CallStage.rank, CallStage.mark, Meter.called, Meter.accepted, Meter.completed,
      Meter.release, *]

theorem accepted_of_completed {call : Job × CallStage} (isCompleted : completed.counts call = true) :
    accepted.counts call = true := by
  simp only [counts, Bool.and_eq_true, decide_eq_true_eq] at isCompleted ⊢
  exact ⟨Job.accepts_of_completes isCompleted.1, by omega⟩

theorem called_of_accepted {call : Job × CallStage} (isAccepted : accepted.counts call = true) :
    called.counts call = true := by
  obtain ⟨job, p⟩ := call
  cases p <;> simp [counts, CallStage.rank] at isAccepted ⊢

end Counter

namespace Service

/-- How many members of a list there are of a kind after one of them was replaced. -/
theorem countP_set_add {α : Type} {l : List α} {place : Nat} {old : α} (new : α) (kind : α → Bool)
    (there : l[place]? = some old) :
    (l.set place new).countP kind + (kind old).toNat = l.countP kind + (kind new).toNat := by
  obtain ⟨within, rfl⟩ := List.getElem?_eq_some_iff.mp there
  have positive : kind l[place] = true → 0 < l.countP kind := fun holds =>
    List.countP_pos_iff.mpr ⟨_, List.getElem_mem within, holds⟩
  rw [List.countP_set within]
  cases before : kind l[place] with
  | false => cases kind new <;> rfl
  | true =>
      have one := positive before
      cases kind new <;> simp <;> omega

/-- A count of members of a kind stays one if it changes as they do. -/
theorem count_set {α : Type} {l : List α} {place : Nat} {old new : α} (kind : α → Bool)
    (there : l[place]? = some old) {before after : UInt64}
    (counts : before = UInt64.ofNat (l.countP kind))
    (changes : after + UInt64.ofNat (kind old).toNat = before + UInt64.ofNat (kind new).toNat) :
    after = UInt64.ofNat ((l.set place new).countP kind) := by
  refine (UInt64.add_left_inj (UInt64.ofNat (kind old).toNat)).mp ?_
  rw [changes, counts, ← UInt64.ofNat_add, ← UInt64.ofNat_add, countP_set_add new kind there]

/-- Of a list that is not too long a count is exact. -/
theorem toNat_count {α : Type} {l : List α} (few : l.length < 2 ^ 64) {kind : α → Bool} {n : UInt64}
    (counts : n = UInt64.ofNat (l.countP kind)) : n.toNat = l.countP kind := by
  rw [counts]
  exact Nat.mod_eq_of_lt (Nat.lt_of_le_of_lt List.countP_le_length few)

/-- Every count of a module is the number of the calls that it is of, modulo `2 ^ 64`. -/
def Tells (s : Service) : Prop :=
  ∀ counter : Counter, counter.read s.meter.counts = UInt64.ofNat (s.calls.countP counter.counts)

theorem tells_opened {meter : Meter} (fresh : meter.counts = .zero) : (opened meter).Tells := by
  intro counter
  rw [opened, fresh]
  cases counter <;> rfl

variable {s : Service}

theorem Tells.begin (tells : s.Tells) (job : Job) : (s.begin job).Tells := by
  intro counter
  have before := tells counter
  cases counter <;>
    simp_all [Service.begin, CallStage.mark, CallStage.rank, Meter.hold, Counter.read, Counter.counts,
      UInt64.ofNat_add]

theorem Tells.move (tells : s.Tells) {place : Nat} {job : Job} {p q : CallStage}
    (there : s.calls[place]? = some (job, p)) (step : job.Next p q) : (s.move place job q).Tells :=
  fun counter => count_set counter.counts there (tells counter) (counter.read_mark step s.meter)

theorem Tells.run (tells : s.Tells) (events : List Event) : (s.run events).Tells :=
  run_keeps (fun _ job tells => tells.begin job) (fun _ _ _ _ _ tells => tells.move) tells events

/-! ## The calls of a run -/

/-- Calls stay at their places and keep their jobs. -/
theorem jobs_step (s : Service) (event : Event) :
    (s.step event).calls.map Prod.fst = s.calls.map Prod.fst ++ event.job?.toList := by
  cases event with
  | begins job => simp [step, begin, Event.job?]
  | goesOn place =>
      obtain same | ⟨job, p, q, there, -, moved⟩ := goOn_cases s place
      · simp [step, same, Event.job?]
      · have job_there : (s.calls.map Prod.fst)[place]? = some job := by simp [there]
        obtain ⟨within, at_place⟩ := List.getElem?_eq_some_iff.mp job_there
        simp only [step, moved, move, List.map_set, Event.job?, Option.toList_none, List.append_nil]
        rw [← at_place, List.set_getElem_self]

theorem jobs_run (s : Service) (events : List Event) :
    (s.run events).calls.map Prod.fst = s.calls.map Prod.fst ++ events.filterMap Event.job? := by
  induction events generalizing s with
  | nil => simp [run]
  | cons event rest ih =>
      have later := ih (s.step event)
      rw [jobs_step] at later
      cases event <;> simpa [run, Event.job?, List.filterMap_cons] using later

/-! ## Counts and calls -/

/-- **The counts of a module tell of its calls.**  Let any calls of a module that has counted nothing
begin and go on in any order, whatever they are given and whatever the work on them ends with.  At every
moment those in progress are the ones that have begun and not returned, and no more are completed than
accepted, nor accepted than called.  When all have returned, none is in progress, all are called, those
are accepted that were given a valid request or an item, and those completed that returned no error. -/
theorem counts_tell_of_calls (meter : Meter) (fresh : meter.counts = .zero) (events : List Event)
    (few : (events.filterMap Event.job?).length < 2 ^ 64) :
    let s := (opened meter).run events
    let counts := s.meter.counts
    s.calls.map Prod.fst = events.filterMap Event.job? ∧
    counts.handling.toNat = s.calls.countP (fun call => call.2 ≠ .returned) ∧
    counts.completed ≤ counts.accepted ∧ counts.accepted ≤ counts.called ∧
    ((∀ call ∈ s.calls, call.2 = .returned) →
      counts.handling = 0 ∧ counts.called.toNat = s.calls.length ∧
      counts.accepted.toNat = s.calls.countP (fun call => call.1.accepts) ∧
      counts.completed.toNat = s.calls.countP (fun call => call.1.errors?.any (·.isEmpty))) := by
  intro s counts
  have tells : s.Tells := (tells_opened fresh).run events
  have jobs : s.calls.map Prod.fst = events.filterMap Event.job? := jobs_run (opened meter) events
  have fewCalls : s.calls.length < 2 ^ 64 := by
    rw [← List.length_map (f := Prod.fst), jobs]
    exact few
  have handling := toNat_count fewCalls (tells .handling)
  have called := toNat_count fewCalls (tells .called)
  have accepted := toNat_count fewCalls (tells .accepted)
  have completed := toNat_count fewCalls (tells .completed)
  refine ⟨jobs, handling, ?completedLe, ?acceptedLe, ?atRest⟩
  case completedLe =>
    refine UInt64.le_iff_toNat_le.mpr (completed.trans_le (accepted.trans_ge ?_))
    exact List.countP_mono_left fun _ _ => Counter.accepted_of_completed
  case acceptedLe =>
    refine UInt64.le_iff_toNat_le.mpr (accepted.trans_le (called.trans_ge ?_))
    exact List.countP_mono_left fun _ _ => Counter.called_of_accepted
  case atRest =>
    intro returned
    refine ⟨UInt64.toNat_inj.mp (handling.trans ?none), called.trans ?all, accepted.trans ?accepts,
      completed.trans ?completes⟩
    case none =>
      refine List.countP_eq_zero.mpr fun call member => ?_
      simp [Counter.counts, returned call member]
    case all =>
      refine List.countP_eq_length.mpr fun call member => ?_
      simp [Counter.counts, returned call member]
    case accepts =>
      refine List.countP_congr fun call member => ?_
      simp [Counter.counts, returned call member, CallStage.rank]
    case completes =>
      refine List.countP_congr fun call member => ?_
      simp [Counter.counts, returned call member, CallStage.rank, Job.completes]

/-- The meter of a downloader that has counted nothing. -/
def freshMeter : Meter := ⟨⟨"D1"⟩, .downloader, Counts.simpleScore, .zero, 0⟩

/-- Three downloads next to each other: one is refused, one fails and one completes. -/
def threeDownloads : List Event :=
  let page := Scheduler.page "first"
  let refused : Job := .download { page with url.scheme := "ftp" } (.unanswered (.transport "offline"))
  let failing : Job := .download page (.unanswered (.transport "offline"))
  let completing : Job := .download page (.answered (.of page 200 "") 0 0)
  [.begins refused, .begins completing, .goesOn 0, .goesOn 1, .begins failing, .goesOn 1, .goesOn 2,
    .goesOn 0, .goesOn 1, .goesOn 2, .goesOn 1, .goesOn 2, .goesOn 2, .goesOn 1]

theorem counts_tell_of_threeDownloads :
    let busy := ((opened freshMeter).run (threeDownloads.take 10)).meter.counts
    let counts := ((opened freshMeter).run threeDownloads).meter.counts
    busy.handling.toNat = 2 ∧ busy.accepted ≤ busy.called ∧
      counts.handling = 0 ∧ counts.called.toNat = 3 ∧ counts.accepted.toNat = 2 ∧
      counts.completed.toNat = 1 := by
  intro busy counts
  obtain ⟨-, handling, -, inOrder, -⟩ :=
    counts_tell_of_calls freshMeter rfl (threeDownloads.take 10) (by decide)
  obtain ⟨-, -, -, -, atRest⟩ := counts_tell_of_calls freshMeter rfl threeDownloads (by decide)
  obtain ⟨free, called, accepted, completed⟩ := atRest (by decide)
  exact ⟨handling.trans (by decide), inOrder, free, called.trans (by decide),
    accepted.trans (by decide), completed.trans (by decide)⟩

/-! ## A call alone -/

theorem goOn_last (m : Meter) (stats : DownloadStats) (calls : List (Job × CallStage)) (job : Job)
    (p : CallStage) : goOn ⟨m, stats, calls ++ [(job, p)]⟩ calls.length =
      match job.next? p with
      | some q => ⟨q.mark m, if q = .worked then job.account stats else stats, calls ++ [(job, q)]⟩
      | none => ⟨m, stats, calls ++ [(job, p)]⟩ := by
  cases goes : job.next? p <;> simp [goOn, move, goes]

/-- A call with no other one beside it does to the meter what a whole call does. -/
theorem run_alone (s : Service) (job : Job) :
    s.run (.begins job :: List.replicate 5 (.goesOn s.calls.length)) =
      { meter := job.count s.meter
        stats := if job.accepts then job.account s.stats else s.stats
        calls := s.calls ++ [(job, .returned)] } := by
  simp only [run, List.replicate, List.foldl_cons, List.foldl_nil, step, begin, goOn_last, Job.next?,
    Job.count]
  cases accepts : job.accepts with
  | false =>
      have fails := Job.completes_eq_false accepts
      simp [goOn_last, Job.next?, CallStage.mark, Meter.count, Meter.begin, Meter.finish, fails]
  | true =>
      cases completes : job.completes <;>
        simp [goOn_last, Job.next?, CallStage.mark, Meter.count, Meter.begin, Meter.finish, completes]

end Service

end CrawlMesh
