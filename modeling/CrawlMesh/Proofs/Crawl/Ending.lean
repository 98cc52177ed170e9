/-
# How a crawl ends

A session is loaded with work: with requests, responses and items on their way, with finds to be
handed over and with errors that wait.  Every piece has a weight, and `Session.load` is the
multiset of all weights.  A request is the lighter the deeper it lies, and what it becomes later is
lighter still; the finds on a page, however many, are lighter than the page, since requests among
them lie deeper.  Every move of the work therefore takes one weight away and gives back only
smaller ones (`Moved.lightens`), and the work cannot go on forever.

It does not stand still before all is done either.  A pipeline passes nothing on that could wait
for room, so that items always leave their pool, hence finds, responses and requests theirs
(`Stuck.drained`).  An analysis that breaks off would be counted for ever, but that happens on pages
at the last depth alone (`Unbroken.step`).
-/
import CrawlMesh.Proofs.Analyzers
import CrawlMesh.Proofs.Crawl.Handling
import Mathlib.Logic.Hydra

namespace CrawlMesh

set_option autoImplicit false

open Relation

/-! ## Weights -/

/-- How heavy a page at a depth is while it is analysed, if requests may lie so deep. -/
def pageWeight (limit : Nat) (depth : UInt32) : Nat := 11 * (limit + 1 - depth.toNat) + 6

/-- Finds on a page are lighter than the page. -/
theorem pageWeight_succ {limit : Nat} {depth deeper : UInt32} (le : depth.toNat ≤ limit)
    (next : deeper.toNat = depth.toNat + 1) :
    pageWeight limit deeper + 10 < pageWeight limit depth := by
  simp only [pageWeight, next]
  omega

theorem five_lt_pageWeight (limit : Nat) (depth : UInt32) : 5 < pageWeight limit depth := by
  unfold pageWeight
  omega

/-- The weight of a request that waits to enter its pool. -/
def Request.waits (limit : Nat) (r : Request) : Multiset Nat := {pageWeight limit r.depth + 9}

/-- The weight of a request in its pool. -/
def Request.entered (limit : Nat) (r : Request) : Multiset Nat := {pageWeight limit r.depth + 8}

def Datum.load (limit : Nat) : Datum → Multiset Nat
  | .request r => {pageWeight limit r.depth + 10}
  | .item _ => {5}

/-- The weight of a task, which is the lighter the further it has come. -/
def Task.load {α β : Type} (call : α → Nat) (output : β → Multiset Nat) : Task α β → Multiset Nat
  | .taken unit => {call unit + 2}
  | .begun unit => {call unit + 1}
  | .calling _ unit => {call unit}
  | .delivering out => output out

def Download.load (limit : Nat) : Download → Multiset Nat :=
  Task.load (fun request => pageWeight limit request.depth + 5)
    fun response => {pageWeight limit response.depth + 4}

/-- The finds of an analysis, and one more weight until they are all handed over. -/
def Analysis.load (limit : Nat) : Analysis → Multiset Nat :=
  Task.load (fun response => pageWeight limit response.depth)
    fun found => {1} + (found.data : Multiset Datum).bind (Datum.load limit)

def Processing.load : Processing → Multiset Nat := Task.load (fun _ => 1) fun _ => 0

namespace Inbox

variable {α : Type} {b after : Inbox α} {x : α} {place : Nat}

/-- The weights of what waits and of what has entered. -/
def load (waits enters : α → Multiset Nat) (b : Inbox α) : Multiset Nat :=
  (b.waiting : Multiset α).bind waits + (b.pool.items : Multiset α).bind enters

variable (waits enters : α → Multiset Nat)

theorem load_put? (ready : b.pool.Ready) (put : b.put? x = some after) :
    after.load waits enters = b.load waits enters + waits x ∨
      after.load waits enters = b.load waits enters + enters x := by
  unfold put? at put
  split at put
  · rename_i pool entered
    cases put
    right
    rw [load, load, (ready.tryPut entered).2, Multiset.cons_bind]
    abel
  · rename_i y refused
    cases put
    left
    rw [load, load, bind_concat, Pool.full_item refused]
    abel
  · cases put

theorem load_admit? (ready : b.pool.Ready) (admitted : b.admit? place = some after) :
    ∃ x, after.load waits enters + waits x = b.load waits enters + enters x := by
  unfold admit? at admitted
  split at admitted
  · cases admitted
  · rename_i x at_
    split at admitted
    · rename_i pool entered
      cases admitted
      refine ⟨x, ?_⟩
      rw [load, load, (ready.tryPut entered).2, bind_of_place at_, Multiset.cons_bind]
      abel
    · cases admitted
    · exact absurd ‹_› ready.not_closed

theorem load_take? (ready : b.pool.Ready) (taken : b.take? = some (x, after)) :
    b.load waits enters = after.load waits enters + enters x := by
  obtain ⟨got, waiting⟩ := take?_eq_some taken
  rw [load, load, (ready.tryGet got).2, waiting, Multiset.cons_bind]
  abel

end Inbox

namespace Session

/-- The weights of all work on a session. -/
def load (limit : Nat) (s : Session) : Multiset Nat :=
  s.errors.load (fun _ => {0}) (fun _ => 0) +
    (s.processings : Multiset Processing).bind Processing.load +
    (s.items.items : Multiset Item).bind (fun _ => {4}) +
    (s.analyses : Multiset Analysis).bind (Analysis.load limit) +
    (s.responses.items : Multiset Response).bind (fun r => {pageWeight limit r.depth + 3}) +
    (s.downloads : Multiset Download).bind (Download.load limit) +
    s.requests.load (Request.waits limit) (Request.entered limit)

variable {s : Session} {limit : Nat}

/-- Errors that are reported weigh nothing, but they are counted as long as they wait. -/
theorem load_reportAll (limit : Nat) (ready : s.errors.pool.Ready) (errors : List CrawlError) :
    ∃ zeros : Multiset Nat, (∀ w ∈ zeros, w = 0) ∧
      (s.reportAll errors).load limit = s.load limit + zeros := by
  induction errors generalizing s with
  | nil => exact ⟨0, by simp, (add_zero _).symm⟩
  | cons e rest ih =>
      obtain ⟨after, put, afterReady, -⟩ := Inbox.put?_of_ready ready e
      have same : s.report e = { s with errors := after } := by
        simp only [report, Inbox.put, put, Option.getD_some]
      have first : ∃ zeros : Multiset Nat, (∀ w ∈ zeros, w = 0) ∧
          (s.report e).load limit = s.load limit + zeros := by
        rw [same]
        rcases Inbox.load_put? (fun _ => {0}) (fun _ => 0) ready put with more | more
        · refine ⟨{0}, by simp, ?_⟩
          simp only [load, more]
          abel
        · refine ⟨0, by simp, ?_⟩
          simp only [load, more]
          abel
      obtain ⟨zeros, zero, more⟩ := first
      obtain ⟨others, otherZero, rest⟩ := ih (s := s.report e) (by rwa [same])
      refine ⟨zeros + others, ?_, ?_⟩
      · intro w member
        exact (Multiset.mem_add.mp member).elim (zero w) (otherZero w)
      · rw [reportAll, List.foldl_cons, ← reportAll, rest, more, add_assoc]

/-- A request that is sent adds less than it weighed as a find. -/
theorem load_send (limit : Nat) (ready : s.Ready) (r : Request) :
    ∃ more : Multiset Nat, (∀ w ∈ more, w < pageWeight limit r.depth + 10) ∧
      (s.send r).2.load limit = s.load limit + more := by
  rcases send_spec s r with ⟨-, -, same⟩ | ⟨k, -, -, same⟩ | ⟨k, requests, -, put, same⟩
  · rw [same]
    exact ⟨0, by simp, (add_zero _).symm⟩
  · rw [same]
    exact ⟨0, by simp, (add_zero _).symm⟩
  · rw [same]
    rcases Inbox.load_put? (Request.waits limit) (Request.entered limit) ready.requests put
      with more | more
    · refine ⟨Request.waits limit r, by simp [Request.waits], ?_⟩
      simp only [load, more]
      abel
    · refine ⟨Request.entered limit r, by simp [Request.entered], ?_⟩
      simp only [load, more]
      abel

section GoesOn

variable {place light heavy : Nat} (lt : light < heavy)

include lt

/-- A download that goes on gets lighter. -/
theorem lightens_download {task next : Download} (here : s.downloads[place]? = some task)
    (before : Download.load limit task = {heavy}) (after : Download.load limit next = {light}) :
    CutExpand (· < ·) (load limit { s with downloads := s.downloads.set place next })
      (s.load limit) := by
  refine ⟨{light}, heavy, by simpa using lt, ?_⟩
  simp only [load, bind_set here, bind_of_place here, before, after]
  abel

theorem lightens_analysis {task next : Analysis} (here : s.analyses[place]? = some task)
    (before : Analysis.load limit task = {heavy}) (after : Analysis.load limit next = {light}) :
    CutExpand (· < ·) (load limit { s with analyses := s.analyses.set place next })
      (s.load limit) := by
  refine ⟨{light}, heavy, by simpa using lt, ?_⟩
  simp only [load, bind_set here, bind_of_place here, before, after]
  abel

theorem lightens_processing {task next : Processing} (here : s.processings[place]? = some task)
    (before : Processing.load task = {heavy}) (after : Processing.load next = {light}) :
    CutExpand (· < ·) (load limit { s with processings := s.processings.set place next })
      (s.load limit) := by
  refine ⟨{light}, heavy, by simpa using lt, ?_⟩
  simp only [load, bind_set here, bind_of_place here, before, after]
  abel

end GoesOn

/-- What is handed over is taken off the analysis. -/
theorem load_handOver {place : Nat} {datum : Datum} {data : List Datum} {errors : List CrawlError}
    (delivering : s.analyses[place]? = some (.delivering ⟨datum :: data, errors⟩)) :
    s.load limit = (s.handOver place ⟨data, errors⟩).load limit + datum.load limit := by
  simp only [load, handOver, bind_of_place delivering, bind_set delivering, Analysis.load, Task.load,
    ← Multiset.cons_coe, Multiset.cons_bind]
  abel

/-- Errors that are reported when something is done weigh less than it did. -/
theorem lightens_reportAll {t : Session} {a : Nat} (ready : t.errors.pool.Ready)
    (errors : List CrawlError) (positive : 0 < a) (done : s.load limit = t.load limit + {a}) :
    CutExpand (· < ·) ((t.reportAll errors).load limit) (s.load limit) := by
  obtain ⟨zeros, zero, more⟩ := load_reportAll limit ready errors
  refine ⟨zeros, a, ?_, ?_⟩
  · intro w member
    rwa [zero w member]
  · rw [more, done]
    abel

end Session

/-! ## Every move makes the load lighter -/

/-- What an analyzer finds on a page is lighter than the page, find by find. -/
theorem Analyzer.load_analyze_lt {a : Analyzer} {response : Response} {found : Yield} {limit : Nat}
    (done : a.analyze response = some found) (depth : response.depth.toNat ≤ limit) :
    ∀ w ∈ Analysis.load limit (.delivering found), w < pageWeight limit response.depth := by
  intro w member
  have small := five_lt_pageWeight limit response.depth
  rcases Multiset.mem_add.mp member with last | find
  · rw [Multiset.mem_singleton.mp last]
    omega
  · obtain ⟨datum, among, weight⟩ := Multiset.mem_bind.mp find
    cases datum with
    | request r =>
        obtain ⟨-, deeper, -⟩ := request_of_analyze done among
        rw [Multiset.mem_singleton.mp weight]
        exact pageWeight_succ depth deeper
    | item i =>
        rw [Multiset.mem_singleton.mp weight]
        exact small

/-- An analysis ends with what an analyzer makes of the response, and breaks off if an analyzer makes
nothing of it. -/
def Move.Analyzes (session : Session) : Move → Prop
  | .endAnalysis place found => ∀ worker response,
      session.analyses[place]? = some (.calling worker response) →
      ∃ a : Analyzer, a.analyze response = some found
  | .breakAnalysis place => ∀ worker response,
      session.analyses[place]? = some (.calling worker response) →
      ∃ a : Analyzer, a.analyze response = none
  | _ => True

/-! ## Analyses that break off -/

namespace Session

variable {s : Session} {place : Nat}

/-- Below the last depth no analysis of a page that passes the policy breaks off. -/
theorem Lawful.analyze_ne_none {worker : ModuleId} {response : Response} (lawful : s.Lawful True)
    (bounded : s.policy.maxDepth.toNat < 2 ^ 32 - 1)
    (calling : s.analyses[place]? = some (.calling worker response)) (a : Analyzer) :
    a.analyze response ≠ none := by
  intro broken
  have answered : s.Answered response := Or.inr (Or.inr (Task.among_of_place calling rfl))
  have depth : response.depth.toNat ≤ s.policy.maxDepth.toNat := by
    rw [response.depth_eq]
    exact UInt32.le_iff_toNat_le.mp (lawful.answered trivial response answered).depth_le
  have last := (Analyzer.analyze_eq_none_iff.mp broken).2.1
  omega

/-- A session with the same policy in which as many analyses broke off. -/
structure SameCount (s t : Session) : Prop where
  policy : t.policy = s.policy
  broken : t.broken = s.broken

theorem sameCount_reportAll (s : Session) (errors : List CrawlError) :
    SameCount s (s.reportAll errors) := by
  obtain ⟨_, same, -⟩ := s.reportAll_spec errors
  rw [same]
  exact ⟨rfl, rfl⟩

theorem sameCount_send (s : Session) (r : Request) : SameCount s (s.send r).2 := by
  rcases send_spec s r with ⟨-, -, same⟩ | ⟨k, -, -, same⟩ | ⟨k, requests, -, -, same⟩ <;> rw [same]
  · exact ⟨rfl, rfl⟩
  · exact ⟨rfl, rfl⟩
  · exact ⟨rfl, rfl⟩

end Session

namespace Scheduler

variable {s t : Scheduler} {session next : Session} {m : Move} {limit : Nat}

theorem Moved.lightens (moved : Moved s session m next) (ready : session.Ready)
    (lawful : session.Lawful True) (deepest : session.policy.maxDepth.toNat = limit)
    (answers : m.Answers session) (analyzes : m.Analyzes session) :
    CutExpand (· < ·) (next.load limit) (session.load limit) := by
  cases moved with
  | @admitRequest place requests admitted =>
      obtain ⟨r, same⟩ := Inbox.load_admit? (Request.waits limit) (Request.entered limit)
        ready.requests admitted
      have lighter : CutExpand (· < ·) (requests.load (Request.waits limit) (Request.entered limit))
          (session.requests.load (Request.waits limit) (Request.entered limit)) :=
        ⟨Request.entered limit r, pageWeight limit r.depth + 9, by simp [Request.entered], same⟩
      exact (cutExpand_add_left _).mpr lighter
  | admitError admitted =>
      obtain ⟨e, same⟩ := Inbox.load_admit? (fun _ => {0}) (fun _ => 0) ready.errors admitted
      refine ⟨0, 0, by simp, ?_⟩
      rw [add_zero] at same
      simp only [Session.load, ← same]
      abel
  | @takeRequest request requests _ taken =>
      have left := Inbox.load_take? (Request.waits limit) (Request.entered limit)
        ready.requests taken
      refine ⟨{pageWeight limit request.depth + 7}, pageWeight limit request.depth + 8,
        by simp, ?_⟩
      simp only [Session.load, left, bind_concat, Download.load, Task.load, Request.entered]
      abel
  | @takeResponse response responses _ taken =>
      refine ⟨{pageWeight limit response.depth + 2}, pageWeight limit response.depth + 3,
        by simp, ?_⟩
      simp only [Session.load, (ready.responses.tryGet taken).2, bind_concat, Analysis.load,
        Task.load, Multiset.cons_bind]
      abel
  | takeItem _ taken =>
      refine ⟨{3}, 4, by simp, ?_⟩
      simp only [Session.load, (ready.items.tryGet taken).2, bind_concat, Processing.load,
        Task.load, Multiset.cons_bind]
      abel
  | beginDownload taken => exact Session.lightens_download (Nat.lt_succ_self _) taken rfl rfl
  | beginAnalysis taken => exact Session.lightens_analysis (Nat.lt_succ_self _) taken rfl rfl
  | beginProcessing taken => exact Session.lightens_processing (Nat.lt_succ_self _) taken rfl rfl
  | callDownloader begun => exact Session.lightens_download (Nat.lt_succ_self _) begun rfl rfl
  | @missDownloader place request e begun =>
      refine Session.lightens_reportAll
        (t := { session with downloads := session.downloads.eraseIdx place })
        (a := pageWeight limit request.depth + 6) ready.errors [_] (by omega) ?_
      simp only [Session.load, bind_of_place begun, Download.load, Task.load]
      abel
  | callAnalyzer begun => exact Session.lightens_analysis (Nat.lt_succ_self _) begun rfl rfl
  | @missAnalyzer place response e begun =>
      refine Session.lightens_reportAll
        (t := { session with analyses := session.analyses.eraseIdx place })
        (a := pageWeight limit response.depth + 1) ready.errors [_] (by omega) ?_
      simp only [Session.load, bind_of_place begun, Analysis.load, Task.load]
      abel
  | callPipeline begun => exact Session.lightens_processing (Nat.lt_succ_self _) begun rfl rfl
  | @missPipeline place item e begun =>
      refine Session.lightens_reportAll
        (t := { session with processings := session.processings.eraseIdx place })
        (a := 2) ready.errors [_] (by omega) ?_
      simp only [Session.load, bind_of_place begun, Processing.load, Task.load]
      abel
  | @endDownload place worker request response calling =>
      have depth : response.depth = request.depth :=
        response.depth_eq.trans (congrArg Request.depth (answers worker request calling))
      have lighter : Download.load limit (.delivering response) =
          {pageWeight limit request.depth + 4} := by
        rw [Download.load, Task.load, depth]
      exact Session.lightens_download (Nat.lt_succ_self _) calling rfl lighter
  | @failDownload place worker request e calling =>
      refine Session.lightens_reportAll
        (t := { session with downloads := session.downloads.eraseIdx place })
        (a := pageWeight limit request.depth + 5) ready.errors [_] (by omega) ?_
      simp only [Session.load, bind_of_place calling, Download.load, Task.load]
      abel
  | @putResponse place response responses delivering put =>
      refine ⟨{pageWeight limit response.depth + 3}, pageWeight limit response.depth + 4,
        by simp, ?_⟩
      simp only [Session.load, bind_of_place delivering, Download.load, Task.load,
        (ready.responses.tryPut put).2, Multiset.cons_bind]
      abel
  | dropResponse _ closed => exact absurd closed ready.responses.not_closed
  | @endAnalysis place worker response found calling =>
      have depth : response.depth.toNat ≤ limit := by
        have answered : session.Answered response :=
          Or.inr (Or.inr (Task.among_of_place calling rfl))
        rw [← deepest, response.depth_eq]
        exact UInt32.le_iff_toNat_le.mp (lawful.answered trivial response answered).depth_le
      obtain ⟨a, done⟩ := analyzes worker response calling
      refine ⟨Analysis.load limit (.delivering found), pageWeight limit response.depth,
        Analyzer.load_analyze_lt done depth, ?_⟩
      simp only [Session.load, Session.handOver, bind_set calling, bind_of_place calling]
      simp only [Analysis.load, Task.load]
      abel
  | @breakAnalysis place worker response calling =>
      refine ⟨0, pageWeight limit response.depth, by simp, ?_⟩
      simp only [Session.load, bind_of_place calling, Analysis.load, Task.load]
      abel
  | @sendFound place r data errors delivering =>
      have handed : (session.handOver place ⟨data, errors⟩).Ready := { ready with }
      obtain ⟨more, less, sent⟩ := Session.load_send limit handed r
      refine ⟨more, pageWeight limit r.depth + 10, less, ?_⟩
      rw [sent, Session.load_handOver delivering]
      simp only [Datum.load]
      abel
  | @sendElsewhere place r data errors delivering =>
      refine ⟨0, pageWeight limit r.depth + 10, by simp, ?_⟩
      rw [Session.load_handOver delivering, Datum.load, add_zero]
  | @putItem place item data errors items delivering put =>
      refine ⟨{4}, 5, by simp, ?_⟩
      rw [Session.load_handOver delivering]
      simp only [Session.load, Session.handOver, (ready.items.tryPut put).2, Multiset.cons_bind,
        Datum.load]
      abel
  | dropItem _ closed => exact absurd closed ready.items.not_closed
  | @endFinds place errors delivering =>
      refine Session.lightens_reportAll
        (t := { session with analyses := session.analyses.eraseIdx place })
        (a := 1) ready.errors errors (by omega) ?_
      simp only [Session.load, bind_of_place delivering, Analysis.load, Task.load, Multiset.coe_nil,
        Multiset.zero_bind]
      abel
  | @endProcessing place worker item errors calling =>
      refine Session.lightens_reportAll
        (t := { session with processings := session.processings.eraseIdx place })
        (a := 1) ready.errors errors (by omega) ?_
      simp only [Session.load, bind_of_place calling, Processing.load, Task.load]
      abel

/-- Below the last depth no move of local modules is an analysis that breaks off. -/
theorem Moved.sameCount (moved : Moved s session m next) (lawful : session.Lawful True)
    (bounded : session.policy.maxDepth.toNat < 2 ^ 32 - 1) (analyzes : m.Analyzes session) :
    session.SameCount next := by
  have reported := Session.sameCount_reportAll
  cases moved with
  | missDownloader | missAnalyzer | missPipeline | failDownload =>
      exact ⟨(reported _ [_]).policy, (reported _ [_]).broken⟩
  | endFinds | endProcessing => exact ⟨(reported _ _).policy, (reported _ _).broken⟩
  | sendFound =>
      have sent := Session.sameCount_send
      exact ⟨(sent _ _).policy, (sent _ _).broken⟩
  | breakAnalysis calling =>
      obtain ⟨a, broken⟩ := analyzes _ _ calling
      exact absurd broken (lawful.analyze_ne_none bounded calling a)
  | _ => exact ⟨rfl, rfl⟩

/-! ## Work without end -/

/-- The responses that an event brings answer the requests that were asked for, and the finds that
it brings are those of an analyzer. -/
def Local (s : Scheduler) : Event → Prop
  | .work _ m => ∀ session, s.session = some session → m.Answers session ∧ m.Analyzes session
  | _ => True

theorem Local.answers {e : Event} (locally : s.Local e) : s.Answers e := by
  cases e with
  | work queue m => exact fun session present => (locally session present).1
  | operation | endStop | send => trivial

/-- No analysis broke off in the session, if its requests stay above the last depth. -/
def Unbroken (s : Scheduler) : Prop :=
  ∀ session, s.session = some session → session.policy.maxDepth.toNat < 2 ^ 32 - 1 →
    session.broken = 0

namespace Unbroken

theorem of_same (unbroken : s.Unbroken) (same : t.session = s.session) : t.Unbroken := by
  intro session present
  exact unbroken session (same ▸ present)

theorem of_sameCount (unbroken : s.Unbroken) (present : s.session = some session)
    (same : session.policy.maxDepth.toNat < 2 ^ 32 - 1 → session.SameCount next)
    (policy : next.policy = session.policy) (after : t.session = some next) : t.Unbroken := by
  intro other now bounded
  cases now.symm.trans after
  rw [policy] at bounded
  exact (same bounded).broken.trans (unbroken session present bounded)

theorem send (unbroken : s.Unbroken) (r : Request) : (s.send r).2.Unbroken := by
  unfold Scheduler.send
  split
  · exact unbroken
  · rename_i session present
    split
    · exact unbroken
    · have same := session.sameCount_send r
      exact unbroken.of_sameCount present (fun _ => same) same.policy rfl

theorem sendAll (unbroken : s.Unbroken) (l : List Request) : (s.sendAll l).Unbroken := by
  induction l generalizing s with
  | nil => exact unbroken
  | cons r rest ih => exact ih (unbroken.send r)

theorem perform (unbroken : s.Unbroken) (op : Operation) : (s.perform op).2.Unbroken := by
  generalize done : (s.perform op).2 = t
  rcases perform_cases done with ⟨-, performed⟩ | ⟨registrar, rfl, -⟩
  · cases performed with
    | init origin checked made registered =>
        intro next present _
        cases present
        obtain ⟨-, -, -, -, -, -, -, -, whole⟩ := Session.new_spec made
        exact whole
    | start origin => exact Unbroken.sendAll (s := s.begun) (unbroken.of_same rfl) _
    | pause status => exact unbroken.of_same rfl
    | recover status => exact unbroken.of_same rfl
    | stop origin =>
        intro next present bounded
        obtain ⟨session, before, rfl⟩ := Option.map_eq_some_iff.mp present
        exact unbroken session before bounded
  · exact unbroken.of_same rfl

theorem step (unbroken : s.Unbroken) (lawful : s.Lawful True) {e : Event} (locally : s.Local e)
    (happens : s.step? e = some t) : t.Unbroken := by
  cases e with
  | operation op =>
      cases happens
      exact unbroken.perform op
  | endStop =>
      obtain ⟨-, rfl⟩ := endStop?_spec happens
      exact unbroken.of_same rfl
  | send r =>
      cases happens
      exact unbroken.send r
  | work queue m =>
      obtain ⟨⟨after, queue'⟩, moves, rfl⟩ := Option.map_eq_some_iff.mp happens
      obtain ⟨session, next, present, moved, goesOn⟩ := move?_moved moves
      refine unbroken.of_sameCount present (fun bounded => ?_) moved.continues.policy ?_
      · exact moved.sameCount (lawful session present) bounded (locally session present).2
      · rw [goesOn.same]

end Unbroken

/-- A step of the work leads from one scheduler to another. -/
def Works (s t : Scheduler) : Prop :=
  ∃ queue m, s.Local (.work queue m) ∧ s.step? (.work queue m) = some t

/-- What holds of a scheduler without an outlet wherever it gets with local modules; the modules
are counted right if they work for nobody else. -/
structure AtHome (width : Nat) (unshared : Prop) (s : Scheduler) : Prop where
  booked : ∃ l, Booked width s l
  lawful : s.Lawful True
  unbroken : s.Unbroken
  counted : unshared → s.Active → s.Counted

variable {width : Nat} {unshared : Prop}

theorem AtHome.new (maxConcurrency : Nat) :
    AtHome (max maxConcurrency 1) unshared (new maxConcurrency) where
  booked := ⟨_, Booked.new maxConcurrency⟩
  lawful := fun _ none => by cases none
  unbroken := fun _ none => by cases none
  counted := fun _ active => by rcases active with status | status | status <;> cases status

theorem AtHome.step (home : AtHome width unshared s) {e : Event} (locally : s.Local e)
    (alone : unshared → s.Unshared e) (happens : s.step? e = some t) :
    AtHome width unshared t := by
  obtain ⟨⟨l, booked⟩, lawful, unbroken, counted⟩ := home
  refine ⟨⟨_, booked.step happens⟩, ?_, unbroken.step lawful locally happens, ?_⟩
  · exact lawful.step (fun _ => locally.answers) happens
  · intro free
    exact counted_step (counted free) (alone free) happens

theorem AtHome.works (home : AtHome width unshared s) (works : Works s t) :
    AtHome width unshared t := by
  obtain ⟨queue, m, locally, happens⟩ := works
  exact home.step locally (fun _ => trivial) happens

theorem AtHome.ready (home : AtHome width unshared s) (active : s.Active)
    (present : s.session = some session) : session.Ready := by
  obtain ⟨l, booked⟩ := home.booked
  obtain ⟨-, same, now, kept⟩ := booked.balanced active
  cases present.symm.trans now
  exact kept.ready

theorem Works.same_status (works : Works s t) : t.status = s.status := by
  obtain ⟨queue, m, -, happens⟩ := works
  obtain ⟨⟨after, queue'⟩, moves, rfl⟩ := Option.map_eq_some_iff.mp happens
  exact (sameLife_move? moves).status

/-- A step of the work makes the load of the session lighter. -/
theorem Works.lightens (works : Works s t) (home : AtHome width unshared s) (active : s.Active)
    (present : s.session = some session) (deepest : session.policy.maxDepth.toNat = limit) :
    ∃ next, t.session = some next ∧ next.policy.maxDepth.toNat = limit ∧
      CutExpand (· < ·) (next.load limit) (session.load limit) := by
  obtain ⟨queue, m, locally, happens⟩ := works
  obtain ⟨⟨after, queue'⟩, moves, rfl⟩ := Option.map_eq_some_iff.mp happens
  obtain ⟨same, next, now, moved, goesOn⟩ := move?_moved moves
  cases present.symm.trans now
  obtain ⟨answers, analyzes⟩ := locally session present
  have ready := home.ready active present
  refine ⟨next, ?_, ?_, ?_⟩
  · rw [goesOn.same]
  · rw [moved.continues.policy, deepest]
  · exact moved.lightens ready (home.lawful session present) deepest answers analyzes

/-- No infinite sequence of steps. -/
theorem works_end {states : Nat → Scheduler} (home : AtHome width unshared (states 0))
    (active : (states 0).Active) (present : (states 0).session = some session) :
    ∃ n, ¬ Works (states n) (states (n + 1)) := by
  by_contra endless
  have works : ∀ n, Works (states n) (states (n + 1)) := by
    intro n
    by_contra stops
    exact endless ⟨n, stops⟩
  have kept : ∀ n, AtHome width unshared (states n) ∧ (states n).Active ∧
      ∃ next, (states n).session = some next ∧
        next.policy.maxDepth.toNat = session.policy.maxDepth.toNat := by
    intro n
    induction n with
    | zero => exact ⟨home, active, session, present, rfl⟩
    | succ n ih =>
        obtain ⟨home, active, next, now, deepest⟩ := ih
        obtain ⟨later, after, same, -⟩ := (works n).lightens home active now deepest
        refine ⟨home.works (works n), ?_, later, after, same⟩
        rwa [Active, (works n).same_status]
  let load (n : Nat) : Multiset Nat :=
    ((states n).session.map (Session.load session.policy.maxDepth.toNat)).getD 0
  have lighter : ∀ n, CutExpand (· < ·) (load (n + 1)) (load n) := by
    intro n
    obtain ⟨home, active, next, now, deepest⟩ := kept n
    obtain ⟨later, after, -, less⟩ := (works n).lightens home active now deepest
    simpa only [load, now, after, Option.map_some, Option.getD_some] using less
  have ends : IsWellFounded (Multiset Nat) (CutExpand (· < ·)) := ⟨wellFounded_lt.cutExpand⟩
  obtain ⟨n, heavy⟩ := WellFounded.not_rel_apply_succ (h := ends) load
  exact heavy (lighter n)

/-! ## Work that stands still -/

end Scheduler

/-- A move that neither ends a call nor lets an error enter its pool. -/
def Move.Plain : Move → Prop
  | .endDownload .. | .endAnalysis .. | .breakAnalysis _ | .endProcessing .. | .admitError _ => False
  | _ => True

/-- Nothing waits, nothing is in a pool but errors, and nothing is being worked on. -/
structure Session.Drained (s : Session) : Prop where
  waiting : s.requests.waiting = []
  requests : s.requests.pool.items = []
  responses : s.responses.items = []
  items : s.items.items = []
  downloads : s.downloads = []
  analyses : s.analyses = []
  processings : s.processings = []

namespace Pool

variable {α : Type} {p : Pool α}

theorem Ready.tryPut_of_empty (ready : p.Ready) (empty : p.items = []) (x : α) :
    ∃ q, p.tryPut x = .ok q := by
  have total : p.total = 0 := by rw [ready.shape.total_eq, empty, List.length_nil]
  have room : p.total < p.bufferCap * p.maxBuffers := by
    rw [total]
    exact Nat.mul_pos ready.shape.cap_pos ready.shape.max_pos
  obtain ⟨buffers, -, put⟩ := tryPut_of_room ready.shape ready.is_open room x
  exact ⟨_, put⟩

theorem Ready.tryGet_of_ne_nil (ready : p.Ready) (filled : p.items ≠ []) :
    ∃ x q, p.tryGet = .ok (some (x, q)) := by
  refine tryGet_some ready.shape ready.is_open ?_
  intro total
  rw [ready.shape.total_eq] at total
  exact filled (List.length_eq_zero_iff.mp total)

theorem Shape.isEmpty_of_nil (shape : p.Shape) (empty : p.items = []) : p.isEmpty = true := by
  rw [isEmpty, shape.total_eq, empty, List.length_nil, beq_self_eq_true]

end Pool

namespace Scheduler

variable {s t : Scheduler} {session : Session} {width : Nat} {unshared : Prop}

/-- No step of the work is possible: what waits cannot enter, no stage can take a unit, count it or call
a module for it, and no call can end, whatever it would end with. Only errors may still enter their
pool. -/
structure Stuck (s : Scheduler) : Prop where
  plain : ∀ queue (m : Move), m.Plain → s.step? (.work queue m) = none
  download : ∀ queue place, ∃ outcome, s.step? (.work queue (.endDownload place outcome)) = none
  analysis : ∀ queue place, ∃ found, s.step? (.work queue (.endAnalysis place found)) = none
  processing : ∀ queue place, ∃ errors, s.step? (.work queue (.endProcessing place errors)) = none

namespace Stuck

variable (stuck : s.Stuck) (present : s.session = some session)

include stuck present

/-- A unit that was taken can be counted. -/
theorem none_taken (stage : Role) (place : Nat) : s.begin? session place stage = none := by
  have none := stuck.plain default (.begin stage place) trivial
  simpa [step?, move?, present] using none

/-- A call can begin, whether or not there is a module for it. -/
theorem none_begun (stage : Role) (place : Nat) : s.call? session place stage = none := by
  have none := stuck.plain default (.call stage place) trivial
  simpa [step?, move?, present] using none

theorem processings_eq_nil : session.processings = [] := by
  cases processings : session.processings with
  | nil => rfl
  | cons processing rest =>
      cases processing with
      | taken item =>
          have none := stuck.none_taken present .pipeline 0
          simp [begin?, Task.beginAt?, processings] at none
      | begun item =>
          have none := stuck.none_begun present .pipeline 0
          simp only [call?, callPipeline?, processings, List.getElem?_cons_zero] at none
          split at none <;> cases none
      | calling worker item =>
          obtain ⟨errors, none⟩ := stuck.processing default 0
          simp [step?, move?, present, endProcessing?, processings] at none
      | delivering nothing => cases nothing

variable (ready : session.Ready)

include ready

theorem items_eq_nil (free : s.mayTake session.processings = true) :
    session.items.items = [] := by
  by_contra filled
  obtain ⟨item, items, taken⟩ := ready.items.tryGet_of_ne_nil filled
  have none := stuck.plain default .takeItem trivial
  simp [step?, move?, present, takeItem?, free, taken] at none

theorem analyses_eq_nil (noItems : session.items.items = []) : session.analyses = [] := by
  cases analyses : session.analyses with
  | nil => rfl
  | cons analysis rest =>
      have none := stuck.plain default (.putDatum 0) trivial
      simp only [step?, move?, present, Option.bind_eq_bind, Option.bind_some,
        Option.map_eq_none_iff] at none
      cases analysis with
      | taken response =>
          have none := stuck.none_taken present .analyzer 0
          simp [begin?, Task.beginAt?, analyses] at none
      | begun response =>
          have none := stuck.none_begun present .analyzer 0
          simp only [call?, callAnalyzer?, analyses, List.getElem?_cons_zero] at none
          split at none <;> cases none
      | calling worker response =>
          obtain ⟨found, none⟩ := stuck.analysis default 0
          simp [step?, move?, present, endAnalysis?, analyses] at none
      | delivering finds =>
          obtain ⟨data, errors⟩ := finds
          rcases data with _ | ⟨_ | item, data⟩
          · simp [putDatum?, analyses] at none
          · simp [putDatum?, analyses] at none
          · obtain ⟨items, put⟩ := ready.items.tryPut_of_empty noItems item
            simp [putDatum?, analyses, put] at none

theorem responses_eq_nil (free : s.mayTake session.analyses = true) :
    session.responses.items = [] := by
  by_contra filled
  obtain ⟨response, responses, taken⟩ := ready.responses.tryGet_of_ne_nil filled
  have none := stuck.plain default .takeResponse trivial
  simp [step?, move?, present, takeResponse?, free, taken] at none

theorem downloads_eq_nil (noResponses : session.responses.items = []) :
    session.downloads = [] := by
  cases downloads : session.downloads with
  | nil => rfl
  | cons download rest =>
      cases download with
      | taken request =>
          have none := stuck.none_taken present .downloader 0
          simp [begin?, Task.beginAt?, downloads] at none
      | begun request =>
          have none := stuck.none_begun present .downloader 0
          simp only [call?, callDownloader?, downloads, List.getElem?_cons_zero] at none
          split at none <;> cases none
      | calling worker request =>
          obtain ⟨outcome, none⟩ := stuck.download default 0
          simp [step?, move?, present, endDownload?, downloads] at none
      | delivering response =>
          obtain ⟨responses, put⟩ := ready.responses.tryPut_of_empty noResponses response
          have none := stuck.plain default (.putResponse 0) trivial
          simp [step?, move?, present, putResponse?, downloads, put] at none

theorem requests_eq_nil (free : s.mayTake session.downloads = true) :
    session.requests.pool.items = [] := by
  by_contra filled
  obtain ⟨request, requests, got⟩ := ready.requests.tryGet_of_ne_nil filled
  have taken : session.requests.take? = some (request, { session.requests with pool := requests }) := by
    simp only [Inbox.take?, got]
  have none := stuck.plain default .takeRequest trivial
  simp [step?, move?, present, takeRequest?, free, taken] at none

theorem waiting_eq_nil (noRequests : session.requests.pool.items = []) :
    session.requests.waiting = [] := by
  cases waiting : session.requests.waiting with
  | nil => rfl
  | cons r rest =>
      obtain ⟨requests, put⟩ := ready.requests.tryPut_of_empty noRequests r
      have none := stuck.plain default (.admitRequest 0) trivial
      simp [step?, move?, present, Inbox.admit?, waiting, put] at none

/-- **Work that stands still is done**: from the last stage to the first, every one is empty. -/
theorem drained (free : ∀ {α β : Type}, s.mayTake ([] : List (Task α β)) = true) :
    session.Drained := by
  have processings := stuck.processings_eq_nil present
  have items := stuck.items_eq_nil present ready (by rw [processings]; exact free)
  have analyses := stuck.analyses_eq_nil present ready items
  have responses := stuck.responses_eq_nil present ready (by rw [analyses]; exact free)
  have downloads := stuck.downloads_eq_nil present ready responses
  have requests := stuck.requests_eq_nil present ready (by rw [downloads]; exact free)
  have waiting := stuck.waiting_eq_nil present ready requests
  exact ⟨waiting, requests, responses, items, downloads, analyses, processings⟩

end Stuck

/-! ## The end of a crawl -/

/-- A scheduler whose session is drained is idle, once its modules handle the calls of the session
and no others. -/
theorem idle_of_drained (present : s.session = some session) (ready : session.Ready)
    (drained : session.Drained) (unbroken : session.broken = 0) (counted : s.Counted) :
    s.idle = true := by
  obtain ⟨same, now, counted⟩ := counted
  cases present.symm.trans now
  have nobody : session.callers = 0 := by
    simp [Session.callers, drained.downloads, drained.analyses, drained.processings]
  have resting : s.registrar.modules.all (·.meter.counts.handling == 0) = true := by
    rw [List.all_eq_true]
    intro m member
    have handling := counted m member
    rw [nobody, Multiset.count_zero] at handling
    rw [handling]
    rfl
  have done : (session.inProgress == 0) = true := by
    simp [Session.inProgress, drained.downloads, drained.analyses, drained.processings, unbroken]
  simp only [idle, present, resting, done,
    ready.requests.shape.isEmpty_of_nil drained.requests,
    ready.responses.shape.isEmpty_of_nil drained.responses,
    ready.items.shape.isEmpty_of_nil drained.items, Bool.and_self]

/-- A started scheduler may take a unit on in every stage that is not at work. -/
theorem AtHome.mayTake (home : AtHome width unshared s) (positive : 0 < width)
    (started : s.status = .started) {α β : Type} : s.mayTake ([] : List (Task α β)) = true := by
  obtain ⟨l, booked⟩ := home.booked
  have sound := booked.sound
  simp only [Sound, started] at sound
  simp [Scheduler.mayTake, sound.1, sound.2.2, booked.width, positive]

/-- **A crawl with local modules comes to an end, and it ends only when all is done.**  Take a
started scheduler without an outlet, wherever it came from: from a start with whatever first
requests, after whatever pauses and requests from outside.  If links may not be followed up to the
largest depth there is, then

* no sequence of steps of the work goes on forever, whatever pages there are and whatever is found
  on them;
* wherever such steps lead and no further one is possible, nothing waits, the pools of requests,
  responses and items are empty, and nothing is being worked on; the scheduler is idle if its
  modules work for nobody else. -/
theorem local_crawl_ends {allowed : Scheduler → Event → Prop} (maxConcurrency : Nat)
    (reached : Reaches allowed (new maxConcurrency) s)
    (locals : ∀ t e, allowed t e → t.Local e) (started : s.status = .started)
    (present : s.session = some session)
    (bounded : session.policy.maxDepth.toNat < 2 ^ 32 - 1) :
    (∀ states : Nat → Scheduler, states 0 = s → ∃ n, ¬ Works (states n) (states (n + 1))) ∧
      ∀ t, ReflTransGen Works s t → t.Stuck → t.status = .started ∧
        ∃ next, t.session = some next ∧ next.Drained ∧
          ((∀ u e, allowed u e → u.Unshared e) → t.idle = true) := by
  have home : AtHome (max maxConcurrency 1) (∀ u e, allowed u e → u.Unshared e) s := by
    refine reached.keeps (.new maxConcurrency) ?_
    intro t e u home may happens
    exact home.step (locals t e may) (fun alone => alone t e may) happens
  constructor
  · intro states first
    subst first
    exact works_end home (Or.inr (Or.inl started)) present
  · intro t path
    have kept : AtHome (max maxConcurrency 1) (∀ u e, allowed u e → u.Unshared e) t ∧
        t.status = .started ∧ ∃ next, t.session = some next ∧
          next.policy.maxDepth.toNat = session.policy.maxDepth.toNat := by
      induction path with
      | refl => exact ⟨home, started, session, present, rfl⟩
      | tail _ works ih =>
          obtain ⟨home, started, next, now, deepest⟩ := ih
          obtain ⟨later, after, same, -⟩ :=
            works.lightens home (Or.inr (Or.inl started)) now deepest
          exact ⟨home.works works, works.same_status.trans started, later, after, same⟩
    obtain ⟨home, started, next, now, deepest⟩ := kept
    intro stuck
    have active : t.Active := Or.inr (Or.inl started)
    have ready := home.ready active now
    have drained := stuck.drained now ready (home.mayTake (by omega) started)
    refine ⟨started, next, now, drained, ?_⟩
    intro alone
    have unbroken := home.unbroken next now (by rwa [deepest])
    exact idle_of_drained now ready drained unbroken (home.counted alone active)

theorem local_crawl_ends_startedCrawl : startedCrawl.status = .started ∧
    (∀ states : Nat → Scheduler, states 0 = startedCrawl →
      ∃ n, ¬ Works (states n) (states (n + 1))) ∧
    ∀ t, ReflTransGen Works startedCrawl t → t.Stuck → t.status = .started ∧
      ∃ next, t.session = some next ∧ next.Drained ∧ t.idle = true := by
  have prepared : startedCrawl.Unshared (.operation (.init .usual .usual oneOfEach)) := by
    intro m member
    simp only [ModuleSet.all, oneOfEach, List.map_cons, List.map_nil, List.mem_append,
      List.mem_singleton] at member
    rcases member with (rfl | rfl) | rfl <;> rfl
  have reached : Reaches (fun t e => t.Local e ∧ t.Unshared e) (new 2) startedCrawl :=
    .step (e := .operation (.start (some [page "first"])))
      (.step (e := .operation (.init .usual .usual oneOfEach)) .start ⟨trivial, prepared⟩ rfl)
      ⟨trivial, trivial⟩ rfl
  have bounded : startedCrawl.session.map (·.policy.maxDepth) = some 1 := rfl
  obtain ⟨session, present, deepest⟩ := Option.map_eq_some_iff.mp bounded
  obtain ⟨ends, done⟩ := local_crawl_ends 2 reached (fun t e may => may.1) rfl present
    (by rw [deepest]; decide)
  refine ⟨rfl, ends, ?_⟩
  intro t path stuck
  obtain ⟨started, next, now, drained, idle⟩ := done t path stuck
  exact ⟨started, next, now, drained, idle fun u e may => may.2⟩

end Scheduler

end CrawlMesh
