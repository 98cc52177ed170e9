/-
# Downloads and their statistics

A downloader counts its calls and tells its statistics of what its fetches end with.  The two are changed
in different places, and a fetch may end in between.

* An answer that was read is told of as a request, and a request that no answer came to as a transport
  error (`Fetched.requests_count`, `Fetched.transportErrors_count`).  Nothing is told of a fetch that no
  request is sent for, and of one whose answer breaks off (`Fetched.isUntold`).
* So the statistics count the calls with such fetches that have been worked on, whatever other calls do
  meanwhile (`Service.Accounts`), and go on to do so in every run (`Service.Accounts.run`).
* When all calls have returned, the completed ones are those that the statistics call requests.  The
  accepted ones are these, the transport errors, and those that nothing was told of
  (`Service.accepted_downloads_balance`).

Over a network nothing is told of a request through a proxy that is no address, nor of an answer whose
body cannot be read (`Web.isUntold_fetch`).  The former never got an answer, and yet it is missing among
the transport errors (`Service.unusable_proxy_is_missing`).
-/
import CrawlMesh.Proofs.Module.Calls
import CrawlMesh.Web

namespace CrawlMesh

set_option autoImplicit false

/-! ## Fetches -/

namespace Fetched

def isAnswered : Fetched → Bool
  | .answered .. => true
  | _ => false

def isUnanswered : Fetched → Bool
  | .unanswered _ => true
  | _ => false

/-- No statistics are told of the fetch. -/
def isUntold : Fetched → Bool
  | .unsendable _ | .broken _ => true
  | .unanswered _ | .answered .. => false

theorem requests_count (fetched : Fetched) (stats : DownloadStats) :
    (fetched.count stats).requests = stats.requests + UInt64.ofNat fetched.isAnswered.toNat := by
  cases fetched <;> simp [count, isAnswered, DownloadStats.record, DownloadStats.recordTransportError]

theorem transportErrors_count (fetched : Fetched) (stats : DownloadStats) :
    (fetched.count stats).transportErrors =
      stats.transportErrors + UInt64.ofNat fetched.isUnanswered.toNat := by
  cases fetched <;> simp [count, isUnanswered, DownloadStats.record, DownloadStats.recordTransportError]

end Fetched

namespace Web

/-- Is nothing told of a request over a network?  The proxy is no address, or an answer comes whose body
cannot be read. -/
def isUntold (network : Network) (request : Request) : Bool :=
  let url := withoutCredentials request.url
  !request.proxy.all isProxy ||
    (isWritable url &&
      match network request url with
      | .failure .body _ => true
      | _ => false)

theorem isUntold_fetch (network : Network) (request : Request) :
    (fetch network request).isUntold = isUntold network request := by
  cases usable : request.proxy.all isProxy with
  | false =>
      cases proxy : request.proxy with
      | none => simp [proxy] at usable
      | some text => simp_all [fetch, isUntold, Fetched.isUntold]
  | true =>
      -- From here on a request with a proxy and one without go the same way.
      cases writable : isWritable (withoutCredentials request.url) with
      | false => cases proxy : request.proxy <;> simp_all [fetch, isUntold, Fetched.isUntold]
      | true =>
          rcases answer : network request (withoutCredentials request.url) with _ | ⟨failure, url⟩
          · cases proxy : request.proxy <;> simp_all [fetch, isUntold, Fetched.isUntold]
          · cases failure <;> cases proxy : request.proxy <;>
              simp_all [fetch, isUntold, Fetched.isUntold]

/-- A download over a network. -/
def job (call : Network × Request) : Job := .download call.2 (fetch call.1 call.2)

end Web

/-! ## Calls that were worked on -/

namespace Job

/-- Is a call a download whose fetch ends in some way? -/
def ends (kind : Fetched → Bool) : Job → Bool
  | .download _ fetched => kind fetched
  | .analysis .. | .processing .. => false

variable {job : Job} {p q : CallStage}

theorem completes_download (request : Request) (fetched : Fetched) :
    (download request fetched).completes = (request.validate.isOk && fetched.isAnswered) := by
  cases valid : request.validate <;> cases fetched <;>
    simp [completes, errors?, errorsOf, Downloader.refusal?, valid, Fetched.outcome, Fetched.isAnswered,
      Except.isOk, Except.toBool]

theorem Next.accepts (step : job.Next p q) (accepted : q = .accepted) : job.accepts = true := by
  cases step with
  | accept accepts => exact accepts
  | _ => cases accepted

end Job

namespace Service

/-- Has a call been worked on, with a fetch that ended in some way? -/
def isWorked (kind : Fetched → Bool) (call : Job × CallStage) : Bool :=
  call.1.accepts && 3 ≤ call.2.rank && call.1.ends kind

/-- One step of a call changes a total as it changes which calls have been worked on. -/
theorem account_step {job : Job} {p q : CallStage} (step : job.Next p q)
    (fits : p = .accepted → job.accepts = true) {kind : Fetched → Bool} {total : DownloadStats → UInt64}
    (counts : ∀ (fetched : Fetched) stats,
      total (fetched.count stats) = total stats + UInt64.ofNat (kind fetched).toNat)
    (stats : DownloadStats) :
    total (if q = .worked then job.account stats else stats) +
        UInt64.ofNat (isWorked kind (job, p)).toNat =
      total stats + UInt64.ofNat (isWorked kind (job, q)).toNat := by
  cases step with
  | work =>
      cases job <;> simp [isWorked, CallStage.rank, fits rfl, Job.ends, Job.account, counts]
  | refuse refused => simp [isWorked, refused]
  | call | accept | complete | fail | leave => simp [isWorked, CallStage.rank]

/-- The statistics count the calls that have been worked on, modulo `2 ^ 64`. -/
structure Accounts (s : Service) : Prop where
  requests : s.stats.requests = UInt64.ofNat (s.calls.countP (isWorked Fetched.isAnswered))
  transportErrors :
    s.stats.transportErrors = UInt64.ofNat (s.calls.countP (isWorked Fetched.isUnanswered))
  fits : ∀ call ∈ s.calls, call.2 = .accepted → call.1.accepts = true

theorem accounts_opened (meter : Meter) : (opened meter).Accounts where
  requests := rfl
  transportErrors := rfl
  fits := by simp [opened]

variable {s : Service}

theorem Accounts.begin (accounts : s.Accounts) (job : Job) : (s.begin job).Accounts where
  requests := by simp [Service.begin, accounts.requests, isWorked, CallStage.rank]
  transportErrors := by simp [Service.begin, accounts.transportErrors, isWorked, CallStage.rank]
  fits call member := by
    rcases List.mem_append.mp member with before | new
    · exact accounts.fits call before
    · simp [List.mem_singleton.mp new]

theorem Accounts.move (accounts : s.Accounts) {place : Nat} {job : Job} {p q : CallStage}
    (there : s.calls[place]? = some (job, p)) (step : job.Next p q) :
    (s.move place job q).Accounts where
  requests := by
    have fits := accounts.fits _ (List.mem_of_getElem? there)
    exact count_set (isWorked Fetched.isAnswered) there accounts.requests
      (account_step step fits Fetched.requests_count s.stats)
  transportErrors := by
    have fits := accounts.fits _ (List.mem_of_getElem? there)
    exact count_set (isWorked Fetched.isUnanswered) there accounts.transportErrors
      (account_step step fits Fetched.transportErrors_count s.stats)
  fits call member := by
    rcases List.mem_or_eq_of_mem_set member with before | rfl
    · exact accounts.fits call before
    · exact step.accepts

theorem Accounts.run (accounts : s.Accounts) (events : List Event) : (s.run events).Accounts :=
  run_keeps (fun _ job accounts => accounts.begin job) (fun _ _ _ _ _ accounts => accounts.move)
    accounts events

/-! ## The balance -/

/-- What is counted of returned calls is counted of their jobs. -/
theorem countP_jobs {calls : List (Job × CallStage)} (returned : ∀ call ∈ calls, call.2 = .returned)
    {kind : Job × CallStage → Bool} {given : Job → Bool}
    (agree : ∀ job, kind (job, .returned) = given job) :
    calls.countP kind = (calls.map Prod.fst).countP given := by
  rw [List.countP_map]
  refine List.countP_congr fun call member => ?_
  have last : call = (call.1, .returned) := Prod.ext rfl (returned call member)
  rw [last, agree]
  rfl

/-- Every fetch that was begun ends in one of three ways. -/
theorem countP_accepts (calls : List (Web.Network × Request)) :
    calls.countP (fun call => (Web.job call).accepts) =
      calls.countP (fun call => (Web.job call).accepts && (Web.job call).ends Fetched.isAnswered) +
      calls.countP (fun call => (Web.job call).accepts && (Web.job call).ends Fetched.isUnanswered) +
      calls.countP (fun call => (Web.job call).accepts && (Web.job call).ends Fetched.isUntold) := by
  induction calls with
  | nil => rfl
  | cons call rest ih =>
      simp only [List.countP_cons, ih]
      cases accepts : (Web.job call).accepts with
      | false => simp
      | true =>
          cases ended : Web.fetch call.1 call.2 <;>
            simp [Web.job, Job.ends, ended, Fetched.isAnswered, Fetched.isUnanswered,
              Fetched.isUntold] <;>
            omega

/-- **Accepted downloads balance.**  Let any downloads over any networks run next to each other until all
have returned.  The completed ones are the requests of the statistics.  The accepted ones are these
requests, the transport errors, and those that nothing was told of: the ones through a proxy that is no
address, and those whose answer came without a body that can be read.  So requests and transport errors
make up the accepted downloads exactly if there are no such ones among them. -/
theorem accepted_downloads_balance (meter : Meter) (fresh : meter.counts = .zero)
    (calls : List (Web.Network × Request)) (few : calls.length < 2 ^ 64) (events : List Event)
    (made : events.filterMap Event.job? = calls.map Web.job)
    (returned : ∀ call ∈ ((opened meter).run events).calls, call.2 = .returned) :
    let s := (opened meter).run events
    let told := s.stats.requests.toNat + s.stats.transportErrors.toNat
    s.meter.counts.completed = s.stats.requests ∧
    s.meter.counts.accepted.toNat =
      told + calls.countP (fun call => call.2.validate.isOk && Web.isUntold call.1 call.2) ∧
    (s.meter.counts.accepted.toNat = told ↔
      ∀ call ∈ calls, call.2.validate.isOk = true → Web.isUntold call.1 call.2 = false) := by
  intro s told
  have tells : s.Tells := (tells_opened fresh).run events
  have accounts : s.Accounts := (accounts_opened meter).run events
  have jobs : s.calls.map Prod.fst = calls.map Web.job := (jobs_run (opened meter) events).trans made
  have fewCalls : s.calls.length < 2 ^ 64 := by
    rw [← List.length_map (f := Prod.fst), jobs, List.length_map]
    exact few
  have counted {kind : Job × CallStage → Bool} (given : Job → Bool)
      (agree : ∀ job, kind (job, .returned) = given job) :
      s.calls.countP kind = calls.countP (fun call => given (Web.job call)) := by
    rw [countP_jobs returned agree, jobs, List.countP_map]
    rfl
  have accepted : s.meter.counts.accepted.toNat = calls.countP (fun call => (Web.job call).accepts) :=
    (toNat_count fewCalls (tells .accepted)).trans
      (counted Job.accepts (by simp [Counter.counts, CallStage.rank]))
  have completed : s.meter.counts.completed.toNat =
      calls.countP (fun call => (Web.job call).completes) :=
    (toNat_count fewCalls (tells .completed)).trans
      (counted Job.completes (by simp [Counter.counts, CallStage.rank]))
  have told_of (kind : Fetched → Bool) : s.calls.countP (isWorked kind) =
      calls.countP (fun call => (Web.job call).accepts && (Web.job call).ends kind) :=
    counted (fun job => job.accepts && job.ends kind) (by simp [isWorked, CallStage.rank])
  have requests := (toNat_count fewCalls accounts.requests).trans (told_of Fetched.isAnswered)
  have errors := (toNat_count fewCalls accounts.transportErrors).trans (told_of Fetched.isUnanswered)
  have untold : calls.countP (fun call => call.2.validate.isOk && Web.isUntold call.1 call.2) =
      calls.countP (fun call => (Web.job call).accepts && (Web.job call).ends Fetched.isUntold) := by
    refine List.countP_congr fun call _ => ?_
    simp [Web.job, Job.accepts, Job.ends, Web.isUntold_fetch]
  have balance : s.meter.counts.accepted.toNat =
      told + calls.countP (fun call => call.2.validate.isOk && Web.isUntold call.1 call.2) := by
    rw [accepted, countP_accepts, untold, ← requests, ← errors]
  refine ⟨?completed, balance, ?exact⟩
  case completed =>
    rw [← UInt64.toNat_inj, completed, requests]
    refine List.countP_congr fun call _ => ?_
    simp [Web.job, Job.completes_download, Job.accepts, Job.ends]
  case exact =>
    rw [balance, Nat.add_eq_left, List.countP_eq_zero]
    simp

/-- Calls that begin together and take their steps in turn. -/
def inTurn (jobs : List Job) : List Event :=
  jobs.map .begins ++ (List.replicate 5 ((List.range jobs.length).map .goesOn)).flatten

/-- Downloads of a page: through a proxy that is no address, of an answer that breaks off, over a network
that is down, and of a whole answer. -/
def fourDownloads : List (Web.Network × Request) :=
  let page := Scheduler.page "first"
  [(.unreachable, { page with proxy := some "http://[" }), (fun _ url => .failure .body url, page),
    (.unreachable, page), (fun _ _ => .response 200 [] "" 0 0, page)]

theorem accepted_downloads_balance_four :
    let s := (opened freshMeter).run (inTurn (fourDownloads.map Web.job))
    s.meter.counts.completed = s.stats.requests ∧
      s.meter.counts.accepted.toNat = s.stats.requests.toNat + s.stats.transportErrors.toNat + 2 := by
  obtain ⟨completed, balance, -⟩ := accepted_downloads_balance freshMeter rfl fourDownloads (by decide)
    (inTurn (fourDownloads.map Web.job)) rfl (by decide)
  exact ⟨completed, balance⟩

/-- A download through a proxy that is no address is accepted, but it is neither one of the requests nor
one of the transport errors; nor is a download whose answer breaks off. -/
theorem unusable_proxy_is_missing :
    let s := (opened freshMeter).run (inTurn ((fourDownloads.take 2).map Web.job))
    s.calls.map Prod.snd = [.returned, .returned] ∧ s.meter.counts.accepted.toNat = 2 ∧
      s.stats.requests.toNat + s.stats.transportErrors.toNat = 0 := by
  decide

end Service

end CrawlMesh
