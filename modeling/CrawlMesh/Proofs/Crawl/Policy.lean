/-
# The policy of a crawl

Four gates look at a request: the policy of the session, the check of the first requests, the
downloader and the analyzer.  `checkPolicy_iff` and `checkSeed_iff` say what the first two let
pass, and both ask for what the others ask for, that the request is valid.

A request that was asked for waits, is in its pool, or is being downloaded (`Session.Asked`).  It
has passed the policy, since only a request that passes is accepted and all that moves do
afterwards is to pass it on (`Moved.asked`).  Wherever a scheduler can get, the gates behind the
policy therefore let all requests through (`reaches_policed`).
-/
import CrawlMesh.Proofs.Crawl.Lifecycle

namespace CrawlMesh

set_option autoImplicit false

/-! ## What the gates let pass -/

theorem Request.validate_iff {r : Request} :
    r.validate = .ok () ↔ (r.url.scheme = "http" ∨ r.url.scheme = "https") ∧
      ∃ domain, r.primaryDomain = .ok domain := by
  unfold validate
  by_cases web : r.url.scheme = "http" ∨ r.url.scheme = "https"
  · have passes : (r.url.scheme != "http" && r.url.scheme != "https") = false := by
      rcases web with same | same <;> simp [same]
    rw [passes]
    cases r.primaryDomain <;> simp [web, Except.map]
  · have refused : (r.url.scheme != "http" && r.url.scheme != "https") = true := by
      simpa [not_or] using web
    simp [refused, web]

theorem Downloader.refusal?_eq_none {r : Request} (valid : r.validate = .ok ()) :
    refusal? r = none := by
  simp only [refusal?, valid]

/-- A downloader fetches every valid request. -/
theorem Downloader.download_of_valid (d : Downloader) {r : Request} (valid : r.validate = .ok ()) :
    (d.download r).1 = (d.fetch r).outcome := by
  simp only [download, refusal?_eq_none valid]

/-- An analyzer runs its parsers over every response to a valid request. -/
theorem Analyzer.analyze_of_valid (a : Analyzer) {response : Response}
    (valid : response.request.validate = .ok ()) : a.analyze response = a.runAll response := by
  simp only [analyze, valid]

namespace Session

variable {s : Session} {r : Request}

/-- All domains are accepted, or the one of the request is. -/
def Accepts (s : Session) (r : Request) : Prop :=
  s.domains = [] ∨ ∃ domain ∈ s.domains, r.primaryDomain = .ok domain

/-- A request that the policy lets pass. -/
structure Passes (s : Session) (r : Request) : Prop where
  valid : r.validate = .ok ()
  accepted : s.Accepts r
  depth_le : r.depth ≤ s.policy.maxDepth

theorem acceptsDomain_iff {domain : String} (named : r.primaryDomain = .ok domain) :
    s.acceptsDomain domain = true ↔ s.Accepts r := by
  simp [acceptsDomain, Accepts, named, Except.ok.injEq]

theorem checkPolicy_iff {domain : String} :
    s.checkPolicy r = .ok domain ↔ r.primaryDomain = .ok domain ∧ s.Passes r := by
  have passes_iff : s.Passes r ↔ (r.url.scheme = "http" ∨ r.url.scheme = "https") ∧
      (∃ domain, r.primaryDomain = .ok domain) ∧ s.Accepts r ∧ r.depth ≤ s.policy.maxDepth := by
    rw [← and_assoc, ← Request.validate_iff]
    exact ⟨fun ⟨valid, accepted, depth⟩ => ⟨valid, accepted, depth⟩,
      fun ⟨valid, accepted, depth⟩ => ⟨valid, accepted, depth⟩⟩
  rw [passes_iff]
  unfold checkPolicy
  split
  · rename_i other
    simp only [Bool.and_eq_true, bne_iff_ne] at other
    simp [other.1, other.2]
  · rename_i web
    have web : r.url.scheme = "http" ∨ r.url.scheme = "https" := by
      simpa [Decidable.or_iff_not_imp_left] using web
    cases named : r.primaryDomain with
    | error e => simp
    | ok found =>
        cases accepts : s.acceptsDomain found with
        | false =>
            have foreign : ¬ s.Accepts r := by simp [← acceptsDomain_iff named, accepts]
            simp [foreign, accepts]
        | true =>
            have accepted := (acceptsDomain_iff named).mp accepts
            by_cases deep : s.policy.maxDepth < r.depth
            · simp [accepts, deep, UInt32.not_le.mpr deep]
            · simp [accepts, accepted, deep, web, UInt32.not_lt.mp deep]

theorem checkSeed_iff : s.checkSeed r = .ok () ↔ r.validate = .ok () ∧ s.Accepts r := by
  simp only [checkSeed, bind, Except.bind]
  cases valid : r.validate with
  | error e => simp
  | ok u =>
      obtain ⟨domain, named⟩ := (Request.validate_iff.mp valid).2
      simp only [named, ← acceptsDomain_iff named]
      cases s.acceptsDomain domain <;> simp [pure, Except.pure, throw, throwThe, MonadExceptOf.throw]

/-! ## What was asked for -/

/-- A request waits to enter its pool, is in it, or is being downloaded. -/
def Asked (s : Session) (r : Request) : Prop :=
  r ∈ s.requests.held ∨ Task.Among s.downloads r

/-- A response waits to enter its pool, is in it, or is being analysed. -/
def Answered (s : Session) (response : Response) : Prop :=
  .delivering response ∈ s.downloads ∨ response ∈ s.responses.items ∨
    Task.Among s.analyses response

/-- A request that is accepted has passed the policy. -/
theorem passes_of_send (accepted : (s.send r).1 = true) : s.Passes r := by
  simp only [send, record?] at accepted
  split at accepted
  · cases accepted
  · rename_i recorded
    split at recorded
    · cases recorded
    · exact (checkPolicy_iff.mp ‹_›).2

theorem has_of_named {domain : String} (named : r.primaryDomain = .ok domain) :
    s.has r.url = s.seen.contains (key domain r.url) := by
  unfold Request.primaryDomain at named
  split at named
  · cases named
  · rename_i host found
    simp only [has, found, Option.map_some, named]

/-- A request that passes is accepted the first time, as long as the pool is open. -/
theorem send_of_passes (passes : s.Passes r) (fresh : s.has r.url = false)
    (isOpen : s.requests.pool.closed = false) : (s.send r).1 = true := by
  obtain ⟨domain, named⟩ := (Request.validate_iff.mp passes.valid).2
  have checked : s.checkPolicy r = .ok domain := checkPolicy_iff.mpr ⟨named, passes⟩
  rw [has_of_named named] at fresh
  simp only [send, record?, checked, fresh, Bool.false_eq_true, if_false, enqueue]
  split
  · rfl
  · rename_i refused
    rw [Inbox.put?_eq_none.mp refused] at isOpen
    cases isOpen

/-- Another session with the same policy, in which nothing new was asked for or answered. -/
structure NoMore (s t : Session) : Prop where
  policy : t.policy = s.policy
  domains : t.domains = s.domains
  asked : ∀ r, t.Asked r → s.Asked r
  answered : ∀ response, t.Answered response → s.Answered response

namespace NoMore

theorem refl (s : Session) : NoMore s s := ⟨rfl, rfl, fun _ => id, fun _ => id⟩

theorem passes {t : Session} (less : NoMore s t) : t.Passes r ↔ s.Passes r := by
  have accepts : t.Accepts r ↔ s.Accepts r := by
    rw [Accepts, Accepts, less.domains]
  constructor
  · intro ⟨valid, accepted, depth⟩
    exact ⟨valid, accepts.mp accepted, less.policy ▸ depth⟩
  · intro ⟨valid, accepted, depth⟩
    exact ⟨valid, accepts.mpr accepted, less.policy ▸ depth⟩

end NoMore

theorem noMore_reportAll (s : Session) (errors : List CrawlError) :
    NoMore s (s.reportAll errors) := by
  obtain ⟨_, same, -⟩ := s.reportAll_spec errors
  rw [same]
  exact ⟨rfl, rfl, fun _ => id, fun _ => id⟩

theorem noMore_close (s : Session) : NoMore s s.close := by
  refine ⟨rfl, rfl, ?_, ?_⟩
  · intro r asked
    exact asked.imp_left Inbox.mem_of_close
  · intro response answered
    exact answered.imp_right (Or.imp_left Pool.mem_of_close)

/-- What an analysis has found was neither asked for nor answered. -/
theorem noMore_handOver {s : Session} {place : Nat} {task : Analysis}
    (here : s.analyses[place]? = some task) (found : Yield) : NoMore s (s.handOver place found) :=
  ⟨rfl, rfl, fun _ => id, fun _ answered =>
    answered.imp_right (Or.imp_right (Task.among_set here (Or.inr rfl)))⟩

/-- A download that goes on is about the same request. -/
theorem noMore_goOnDownload {s : Session} {place : Nat} {task : Download} {request : Request}
    (here : s.downloads[place]? = some task) (next : Download)
    (about : task.unit? = some request) (still : next.unit? = some request) :
    NoMore s { s with downloads := s.downloads.set place next } := by
  refine ⟨rfl, rfl, fun _ asked =>
    asked.imp_right (Task.among_set here (Or.inl (still.trans about.symm))), ?_⟩
  intro response answered
  refine answered.imp_left fun delivering => ?_
  rcases List.mem_or_eq_of_mem_set delivering with old | rfl
  · exact old
  · cases still

theorem noMore_goOnAnalysis {s : Session} {place : Nat} {task : Analysis} {response : Response}
    (here : s.analyses[place]? = some task) (next : Analysis)
    (about : task.unit? = some response) (still : next.unit? = some response) :
    NoMore s { s with analyses := s.analyses.set place next } :=
  ⟨rfl, rfl, fun _ => id, fun _ answered => answered.imp_right (Or.imp_right
    (Task.among_set here (Or.inl (still.trans about.symm))))⟩

theorem noMore_processings (s : Session) (processings : List Processing) :
    NoMore s { s with processings := processings } :=
  ⟨rfl, rfl, fun _ => id, fun _ => id⟩

theorem noMore_endDownload (s : Session) (place : Nat) :
    NoMore s { s with downloads := s.downloads.eraseIdx place } :=
  ⟨rfl, rfl, fun _ asked => asked.imp_right Task.among_eraseIdx, fun _ answered =>
    answered.imp_left List.mem_of_mem_eraseIdx⟩

theorem noMore_endAnalysis (s : Session) (place : Nat) (broken : Nat) :
    NoMore s { s with analyses := s.analyses.eraseIdx place, broken := broken } :=
  ⟨rfl, rfl, fun _ => id, fun _ answered =>
    answered.imp_right (Or.imp_right Task.among_eraseIdx)⟩

/-- An analysis has found a request that is not handed over yet. -/
def Found (s : Session) (r : Request) : Prop :=
  ∃ found, .delivering found ∈ s.analyses ∧ .request r ∈ found.data

/-- Another session with the same policy, in which only requests of some kind that pass are new, and
in which only requests that were asked for are answered if the modules are honest. -/
structure Continues (honest : Prop) (new : Request → Prop) (s t : Session) : Prop where
  policy : t.policy = s.policy
  domains : t.domains = s.domains
  asked : ∀ r, t.Asked r → s.Asked r ∨ s.Passes r ∧ new r
  answered : honest → ∀ response, t.Answered response →
    s.Answered response ∨ s.Asked response.request

theorem NoMore.continues {t : Session} (less : NoMore s t) (honest : Prop) (new : Request → Prop) :
    Continues honest new s t where
  policy := less.policy
  domains := less.domains
  asked r asked := Or.inl (less.asked r asked)
  answered _ response answered := Or.inl (less.answered response answered)

/-- What goes before may leave things out. -/
theorem NoMore.before {honest : Prop} {new : Request → Prop} {t u : Session} (less : NoMore s t)
    (continues : Continues honest new t u) : Continues honest new s u := by
  refine ⟨continues.policy.trans less.policy, continues.domains.trans less.domains, ?_, ?_⟩
  · intro r asked
    exact (continues.asked r asked).imp (less.asked r) (And.imp_left less.passes.mp)
  · intro trusted response answered
    exact (continues.answered trusted response answered).imp (less.answered response)
      (less.asked response.request)

theorem continues_send (honest : Prop) (s : Session) (r : Request) :
    Continues honest (· = r) s (s.send r).2 := by
  have passes := passes_of_send (s := s) (r := r)
  rcases send_spec s r with
    ⟨-, -, same⟩ | ⟨k, -, -, same⟩ | ⟨k, requests, accepted, put, same⟩
  · rw [same]
    exact (NoMore.refl s).continues honest _
  · rw [same]
    exact ⟨rfl, rfl, fun _ => Or.inl, fun _ _ => Or.inl⟩
  · rw [same]
    refine ⟨rfl, rfl, ?_, fun _ _ => Or.inl⟩
    intro other asked
    rcases asked with held | taken
    · rcases Inbox.mem_of_put? put held with rfl | old
      · exact Or.inr ⟨passes accepted, rfl⟩
      · exact Or.inl (Or.inl old)
    · exact Or.inl (Or.inr taken)

theorem Continues.mono {honest honest' : Prop} {new new' : Request → Prop} {t : Session}
    (continues : Continues honest new s t) (weaker : honest' → honest)
    (wider : ∀ r, new r → new' r) : Continues honest' new' s t :=
  ⟨continues.policy, continues.domains, fun r asked =>
    (continues.asked r asked).imp_right (And.imp_right (wider r)), fun trusted =>
    continues.answered (weaker trusted)⟩

/-- What was asked for has passed the policy, which is the one that the session was made with; so
has what was answered if the modules are honest. -/
structure Lawful (honest : Prop) (s : Session) : Prop where
  domains : s.policy.primaryDomains = .ok s.domains
  asked : ∀ r, s.Asked r → s.Passes r
  answered : honest → ∀ response, s.Answered response → s.Passes response.request

theorem lawful_new (honest : Prop) {policy : CrawlPolicy} {sizes : PoolSizes}
    (made : new policy sizes = .ok s) : s.Lawful honest := by
  obtain ⟨-, noRequests, noResponses, -, -, noDownloads, noAnalyses, -⟩ := new_spec made
  refine ⟨?_, ?_, ?_⟩
  · simp only [new, bind, Except.bind] at made
    split at made
    · cases made
    · rename_i domains found
      repeat' split at made
      all_goals cases made
      exact found
  · intro r asked
    simp [Asked, Task.Among, noRequests, noDownloads] at asked
  · intro _ response answered
    simp [Answered, Task.Among, noResponses, noDownloads, noAnalyses] at answered

theorem Lawful.continues {honest : Prop} {new : Request → Prop} {t : Session}
    (lawful : s.Lawful honest) (continues : Continues honest new s t) : t.Lawful honest := by
  have passes {r : Request} (old : s.Passes r) : t.Passes r :=
    ⟨old.valid, by simpa [Accepts, continues.domains] using old.accepted,
      by simpa [continues.policy] using old.depth_le⟩
  refine ⟨?_, ?_, ?_⟩
  · rw [continues.policy, continues.domains, lawful.domains]
  · intro r asked
    rcases continues.asked r asked with old | new
    · exact passes (lawful.asked r old)
    · exact passes new.1
  · intro trusted response answered
    rcases continues.answered trusted response answered with old | new
    · exact passes (lawful.answered trusted response old)
    · exact passes (lawful.asked response.request new)

end Session

/-! ## Moves pass on what was asked for -/

/-- The response of a download answers the request that was asked for. -/
def Move.Answers (session : Session) : Move → Prop
  | .endDownload place (.ok response) => ∀ worker request,
      session.downloads[place]? = some (.calling worker request) → response.request = request
  | _ => True

namespace Scheduler

variable {s t : Scheduler} {session next : Session} {m : Move}

/-- What a move asks for anew was found by an analysis. -/
theorem Moved.continues (moved : Moved s session m next) :
    session.Continues (m.Answers session) session.Found next := by
  cases moved with
  | admitRequest admitted =>
      refine ⟨rfl, rfl, ?_, fun _ _ => Or.inl⟩
      intro r asked
      exact Or.inl (asked.imp_left (Inbox.mem_of_admit? admitted))
  | admitError => exact ⟨rfl, rfl, fun _ => Or.inl, fun _ _ => Or.inl⟩
  | takeRequest _ taken =>
      obtain ⟨given, left⟩ := Inbox.mem_of_take? taken
      refine ⟨rfl, rfl, ?_, ?_⟩
      · intro r asked
        left
        rcases asked with held | among
        · exact Or.inl (left r held)
        · rcases Task.among_concat among with old | rfl
          · exact Or.inr old
          · exact Or.inl given
      · intro _ response answered
        refine Or.inl (answered.imp_left fun delivering => ?_)
        simpa using delivering
  | takeResponse _ taken =>
      obtain ⟨given, left⟩ := Pool.mem_of_tryGet taken
      refine ⟨rfl, rfl, fun _ => Or.inl, ?_⟩
      intro _ response answered
      left
      rcases answered with delivering | held | among
      · exact Or.inl delivering
      · exact Or.inr (Or.inl (left response held))
      · rcases Task.among_concat among with old | rfl
        · exact Or.inr (Or.inr old)
        · exact Or.inr (Or.inl given)
  | takeItem => exact ⟨rfl, rfl, fun _ => Or.inl, fun _ _ => Or.inl⟩
  | beginDownload here | callDownloader here =>
      exact (Session.noMore_goOnDownload here _ rfl rfl).continues _ _
  | beginAnalysis here | callAnalyzer here =>
      exact (Session.noMore_goOnAnalysis here _ rfl rfl).continues _ _
  | beginProcessing | callPipeline => exact (session.noMore_processings _).continues _ _
  | @missDownloader place request e =>
      exact (session.noMore_endDownload place).before
        ((Session.noMore_reportAll _ [noModule e _]).continues _ _)
  | @missAnalyzer place response e =>
      exact (session.noMore_endAnalysis place session.broken).before
        ((Session.noMore_reportAll _ [noModule e _]).continues _ _)
  | @missPipeline place item e =>
      exact (session.noMore_processings _).before
        ((Session.noMore_reportAll _ [noModule e _]).continues _ _)
  | @endDownload place worker request response calling =>
      refine ⟨rfl, rfl, ?_, ?_⟩
      · intro r asked
        exact Or.inl (asked.imp_right (Task.among_set calling (Or.inr rfl)))
      · intro answers other answered
        rcases answered with delivering | later
        · rcases List.mem_or_eq_of_mem_set delivering with old | new
          · exact Or.inl (Or.inl old)
          · cases new
            refine Or.inr (Or.inr ?_)
            rw [answers worker request calling]
            exact Task.among_of_place calling rfl
        · exact Or.inl (Or.inr later)
  | @failDownload place worker request e =>
      exact (session.noMore_endDownload _).before ((Session.noMore_reportAll _ [e]).continues _ _)
  | @putResponse place response responses delivering put =>
      have less := session.noMore_endDownload place
      refine ⟨rfl, rfl, fun r asked => Or.inl (less.asked r asked), ?_⟩
      intro _ other answered
      left
      rcases answered with waits | held | calling
      · exact Or.inl (List.mem_of_mem_eraseIdx waits)
      · rcases Pool.mem_of_tryPut put held with rfl | old
        · exact Or.inl (List.mem_of_getElem? delivering)
        · exact Or.inr (Or.inl old)
      · exact Or.inr (Or.inr calling)
  | dropResponse => exact (session.noMore_endDownload _).continues _ _
  | endAnalysis calling => exact (Session.noMore_handOver calling _).continues _ _
  | breakAnalysis => exact (session.noMore_endAnalysis _ _).continues _ _
  | sendFound delivering =>
      refine (Session.noMore_handOver delivering _).before
        ((Session.continues_send _ _ _).mono id fun other same => ?_)
      exact ⟨_, List.mem_of_getElem? delivering, List.mem_cons.mpr (Or.inl (by rw [same]))⟩
  | sendElsewhere delivering | dropItem delivering =>
      exact (Session.noMore_handOver delivering _).continues _ _
  | @putItem place item data errors items delivering =>
      have less := Session.noMore_handOver delivering ⟨data, errors⟩
      exact ⟨rfl, rfl, fun r asked => Or.inl (less.asked r asked),
        fun _ response answered => Or.inl (less.answered response answered)⟩
  | endFinds =>
      exact (session.noMore_endAnalysis _ session.broken).before
        ((Session.noMore_reportAll _ _).continues _ _)
  | endProcessing =>
      exact (session.noMore_processings _).before ((Session.noMore_reportAll _ _).continues _ _)

/-! ## Events -/

/-- The responses that an event brings answer the requests that were asked for. -/
def Answers (s : Scheduler) : Event → Prop
  | .work _ m => ∀ session, s.session = some session → m.Answers session
  | _ => True

/-- The session is lawful, if there is one. -/
def Lawful (honest : Prop) (s : Scheduler) : Prop :=
  ∀ session, s.session = some session → session.Lawful honest

variable {honest : Prop}

theorem Lawful.of_same (lawful : s.Lawful honest) (same : t.session = s.session) :
    t.Lawful honest := by
  intro session present
  exact lawful session (same ▸ present)

theorem Lawful.send (lawful : s.Lawful honest) (r : Request) : (s.send r).2.Lawful honest := by
  unfold Scheduler.send
  split
  · exact lawful
  · rename_i session present
    split
    · exact lawful
    · intro next after
      cases after
      exact (lawful session present).continues (session.continues_send honest r)

theorem Lawful.sendAll (lawful : s.Lawful honest) (l : List Request) :
    (s.sendAll l).Lawful honest := by
  induction l generalizing s with
  | nil => exact lawful
  | cons r rest ih => exact ih (lawful.send r)

theorem Lawful.perform (lawful : s.Lawful honest) (op : Operation) :
    (s.perform op).2.Lawful honest := by
  generalize done : (s.perform op).2 = t
  rcases perform_cases done with ⟨-, performed⟩ | ⟨registrar, rfl, -⟩
  · cases performed with
    | init origin checked made registered =>
        intro next present
        cases present
        exact Session.lawful_new honest made
    | start origin => exact Lawful.sendAll (s := s.begun) (lawful.of_same rfl) _
    | pause status => exact lawful.of_same rfl
    | recover status => exact lawful.of_same rfl
    | stop origin =>
        intro next present
        obtain ⟨session, before, rfl⟩ := Option.map_eq_some_iff.mp present
        exact (lawful session before).continues (session.noMore_close.continues honest fun _ => False)
  · exact lawful.of_same rfl

theorem Lawful.step (lawful : s.Lawful honest) {e : Event} (trusted : honest → s.Answers e)
    (step : s.step? e = some t) : t.Lawful honest := by
  cases e with
  | operation op =>
      cases step
      exact lawful.perform op
  | endStop =>
      obtain ⟨-, rfl⟩ := endStop?_spec step
      exact lawful.of_same rfl
  | send r =>
      cases step
      exact lawful.send r
  | work queue m =>
      obtain ⟨⟨after, queue'⟩, moves, rfl⟩ := Option.map_eq_some_iff.mp step
      obtain ⟨session, next, present, moved, goesOn⟩ := move?_moved moves
      rw [goesOn.same]
      intro other now
      cases now
      exact (lawful session present).continues
        (moved.continues.mono (fun honest => trusted honest session present) fun _ => id)

/-! ## First requests -/

theorem forM_checkSeed_ok {l : List Request} (ok : l.forM session.checkSeed = .ok ()) :
    ∀ r ∈ l, session.checkSeed r = .ok () := by
  induction l with
  | nil => simp
  | cons r rest ih =>
      cases first : session.checkSeed r with
      | error e =>
          simp only [List.forM, first, bind, Except.bind] at ok
          cases ok
      | ok u =>
          simp only [List.forM, first, bind, Except.bind] at ok
          intro other member
          rcases List.mem_cons.mp member with rfl | later
          · exact first
          · exact ih ok other later

theorem checkSeed_of_start {seeds : List Request} (present : s.session = some session)
    (ok : (s.start (some seeds)).1 = .ok ()) : ∀ r ∈ seeds, session.checkSeed r = .ok () := by
  unfold start at ok
  split at ok
  · cases ok
  · simp only [present] at ok
    split at ok
    · cases ok
    · exact forM_checkSeed_ok ‹_›

/-- Sending requests does not change the policy. -/
theorem sendAll_policy (present : s.session = some session) (l : List Request) :
    ∃ next, (s.sendAll l).session = some next ∧ next.policy = session.policy ∧
      next.domains = session.domains := by
  induction l generalizing s session with
  | nil => exact ⟨session, present, rfl, rfl⟩
  | cons r rest ih =>
      have first : ∃ middle, (s.send r).2.session = some middle ∧
          middle.policy = session.policy ∧ middle.domains = session.domains := by
        simp only [Scheduler.send, present]
        split
        · exact ⟨session, present, rfl, rfl⟩
        · have continues := session.continues_send True r
          exact ⟨_, rfl, continues.policy, continues.domains⟩
      obtain ⟨middle, between, policy, domains⟩ := first
      obtain ⟨next, after, laterPolicy, laterDomains⟩ := ih between
      exact ⟨next, after, laterPolicy.trans policy, laterDomains.trans domains⟩

/-- The policy drops no first request that is not too deep and is new. -/
theorem send_seed (sound : s.Sound) (present : s.session = some session)
    {before after : List Request} {r : Request}
    (ok : (s.start (some (before ++ r :: after))).1 = .ok ())
    (depth : r.depth ≤ session.policy.maxDepth) (fresh : (s.begun.sendAll before).has r.url = false) :
    ((s.begun.sendAll before).send r).1 = true := by
  have checked : session.checkSeed r = .ok () :=
    checkSeed_of_start present ok r (List.mem_append_right before List.mem_cons_self)
  obtain ⟨valid, accepted⟩ := Session.checkSeed_iff.mp checked
  have isOpen : s.HasOpen := by
    rcases start_spec (s := s) (Prod.eta _).symm with ⟨e, failed, -⟩ | ⟨-, origin, -⟩
    · cases ok.symm.trans failed
    · rcases origin with status | status <;>
      · simp only [Sound, status] at sound
        exact sound.2.1
  have life := sameLife_sendAll s.begun before
  have running : (s.begun.sendAll before).run ≠ .stopped := by
    rw [life.run]
    simp [begun]
  obtain ⟨next, now, policy, domains⟩ := sendAll_policy (s := s.begun) present before
  obtain ⟨other, same, gates⟩ := life.hasOpen isOpen
  cases now.symm.trans same
  have passes : next.Passes r := by
    refine ⟨valid, ?_, ?_⟩
    · rwa [Session.Accepts, domains]
    · rwa [policy]
  simp only [has, now] at fresh
  simp only [Scheduler.send, now, running, if_false]
  exact Session.send_of_passes passes fresh (gates _ List.mem_cons_self)

/-! ## All gates together -/

/-- What the policy of the session of a scheduler stands for. -/
structure Policed (s : Scheduler) (session : Session) : Prop where
  /-- The accepted domains are those that the session was prepared with. -/
  domains : session.policy.primaryDomains = .ok session.domains
  policy_iff : ∀ r, (∃ domain, session.checkPolicy r = .ok domain) ↔
    r.validate = .ok () ∧ session.Accepts r ∧ r.depth ≤ session.policy.maxDepth
  seed_iff : ∀ r, session.checkSeed r = .ok () ↔ r.validate = .ok () ∧ session.Accepts r
  web : ∀ r, session.Asked r → r.url.scheme = "http" ∨ r.url.scheme = "https"
  accepted : ∀ r, session.Asked r → session.Accepts r
  depth_le : ∀ r, session.Asked r → r.depth ≤ session.policy.maxDepth
  download : ∀ r, session.Asked r → ∀ d : Downloader,
    Downloader.refusal? r = none ∧ (d.download r).1 = (d.fetch r).outcome
  analyze : ∀ response, session.Asked response.request → ∀ a : Analyzer,
    a.analyze response = a.runAll response
  seed : ∀ before r after, (s.start (some (before ++ r :: after))).1 = .ok () →
    r.depth ≤ session.policy.maxDepth → (s.begun.sendAll before).has r.url = false →
    ((s.begun.sendAll before).send r).1 = true

/-- **The gates agree, and the policy holds of all that was asked for.**  Wherever a scheduler can
get, whatever operations, requests and moves there are:

* the policy lets pass what is valid, accepted and not too deep, and the check of first requests
  the same at any depth;
* every request that waits, is in its pool or is being downloaded is one of the web, in the
  accepted domains and not too deep, no downloader refuses it, and no analyzer a response to it;
* the first requests that a start lets pass and that are not too deep are accepted if they are
  new.

If the responses of downloads answer the requests that were asked for, no analyzer refuses any
response that waits, is in its pool or is being analysed. -/
theorem reaches_policed {allowed : Scheduler → Event → Prop} (outlet : Option Nat)
    (maxConcurrency : Nat)
    (reached : Reaches allowed { new maxConcurrency with outlet := outlet } s)
    (present : s.session = some session) :
    Policed s session ∧
      ((∀ t e, allowed t e → t.Answers e) → ∀ response, session.Answered response →
        ∀ a : Analyzer, a.analyze response = a.runAll response) := by
  have kept : s.Sound ∧ s.Lawful (∀ t e, allowed t e → t.Answers e) := by
    refine reached.keeps (P := fun s => s.Sound ∧ s.Lawful _) ?_ ?_
    · exact ⟨sound_new outlet maxConcurrency, fun _ none => by cases none⟩
    · intro t e u ⟨sound, lawful⟩ may step
      exact ⟨sound.step step, lawful.step (fun honest => honest t e may) step⟩
  obtain ⟨sound, lawful⟩ := kept
  obtain ⟨domains, asked, answered⟩ := lawful session present
  refine ⟨{
    domains := domains
    policy_iff := ?policy
    seed_iff := fun r => Session.checkSeed_iff
    web := fun r member => (Request.validate_iff.mp (asked r member).valid).1
    accepted := fun r member => (asked r member).accepted
    depth_le := fun r member => (asked r member).depth_le
    download := ?download
    analyze := fun response member a => a.analyze_of_valid (asked response.request member).valid
    seed := fun before r after ok depth fresh => send_seed sound present ok depth fresh }, ?_⟩
  case policy =>
      intro r
      constructor
      · intro ⟨domain, checked⟩
        have passes := (Session.checkPolicy_iff.mp checked).2
        exact ⟨passes.valid, passes.accepted, passes.depth_le⟩
      · intro ⟨valid, accepted, depth⟩
        obtain ⟨domain, named⟩ := (Request.validate_iff.mp valid).2
        exact ⟨domain, Session.checkPolicy_iff.mpr ⟨named, valid, accepted, depth⟩⟩
  case download =>
      intro r member d
      have valid := (asked r member).valid
      exact ⟨Downloader.refusal?_eq_none valid, d.download_of_valid valid⟩
  · intro honest response member a
    exact a.analyze_of_valid (answered honest response member).valid

/-- A crawl that was started with one request. -/
def startedCrawl : Scheduler :=
  (({ new 2 with outlet := none }.init .usual .usual oneOfEach).2.start (some [page "first"])).2

theorem reaches_policed_startedCrawl : ∃ session, startedCrawl.session = some session ∧
    session.Asked (page "first") ∧ Policed startedCrawl session ∧
      ∀ response, session.Answered response → ∀ a : Analyzer,
        a.analyze response = a.runAll response := by
  have reached : Reaches Answers { new 2 with outlet := none } startedCrawl :=
    .step (e := .operation (.start (some [page "first"])))
      (.step (e := .operation (.init .usual .usual oneOfEach)) .start trivial rfl) trivial rfl
  obtain ⟨session, present, asked⟩ : ∃ session, startedCrawl.session = some session ∧
      page "first" ∈ session.requests.pool.items := ⟨_, rfl, List.mem_cons_self⟩
  obtain ⟨policed, honest⟩ := reaches_policed none 2 reached present
  exact ⟨session, present, Or.inl (Inbox.mem_held.mpr (Or.inr asked)), policed,
    honest fun _ _ => id⟩

end Scheduler

end CrawlMesh
