/-
# Statistics balance

The statistics of downloads are told of answers and of requests that got none (`Report`), in any order.

* A tally counts a key by raising its entry, or by putting a new one at its place.  The entries stay in
  ascending order, and each counts how often its key was given (`Tally.Holds.add`).  So the counts of the
  keys that pass a test add up to how many of the keys that were given pass it (`Tally.Holds.total_eq`).
* Two keys may be counted in either order (`Tally.bump_comm`), and so may two reports
  (`DownloadStats.enter_comm`).
* What the statistics say of reports holds of no reports and is kept by one more (`DownloadStats.Tells`).
  All of it is exact modulo `2 ^ 64`, whatever the counts are.

As long as no count leaves its range the totals agree as numbers, and none of them depends on the order
of the reports (`DownloadStats.totals_balance`).
-/
import CrawlMesh.DownloadStats
import Mathlib.Algebra.BigOperators.Group.List.Lemmas
import Mathlib.Algebra.GroupWithZero.Nat
import Mathlib.Data.List.Induction
import Mathlib.Data.String.Basic

namespace CrawlMesh

set_option autoImplicit false

namespace Tally

variable {κ : Type} {before : κ → κ → Bool} {l : List (κ × UInt64)} {key k : κ}

/-! ## Counting a key -/

theorem bump_of_before (first : before key k = true) (i : UInt64) (rest : List (κ × UInt64)) :
    bump before key ((k, i) :: rest) = (key, 1) :: (k, i) :: rest := by
  simp [bump, first]

section Order

variable [IsStrictTotalOrder κ (before · ·)]

/-- A key is in front of another one, the same, or behind it. -/
theorem lt_eq_or_gt (before : κ → κ → Bool) [IsStrictTotalOrder κ (before · ·)] (key k : κ) :
    before key k = true ∨ key = k ∨ before k key = true :=
  trichotomous_of (before · ·) key k

theorem ne_of_before (first : before key k = true) : key ≠ k :=
  fun same => irrefl (r := (before · ·)) k (same ▸ first)

theorem not_before (first : before key k = true) : before k key = false :=
  Bool.eq_false_iff.mpr (asymm (r := (before · ·)) first)

theorem bump_self (key : κ) (i : UInt64) (rest : List (κ × UInt64)) :
    bump before key ((key, i) :: rest) = (key, i + 1) :: rest := by
  have self : before key key = false := Bool.eq_false_iff.mpr (irrefl (r := (before · ·)) key)
  simp [bump, self]

theorem bump_of_behind (last : before k key = true) (i : UInt64) (rest : List (κ × UInt64)) :
    bump before key ((k, i) :: rest) = (k, i) :: bump before key rest := by
  simp [bump, last, not_before last]

/-- Counting a key changes no entry of another one. -/
theorem mem_bump_of_ne {other : κ} (ne : other ≠ key) (n : UInt64) (l : List (κ × UInt64)) :
    (other, n) ∈ bump before key l ↔ (other, n) ∈ l := by
  induction l with
  | nil => simp [bump, ne]
  | cons entry rest ih =>
      obtain ⟨k, i⟩ := entry
      rcases lt_eq_or_gt before key k with first | rfl | last
      · simp [bump_of_before first, ne]
      · simp [bump_self, ne]
      · simp [bump_of_behind last, ih]

/-- Entries in ascending order of their keys. -/
abbrev Ascending (before : κ → κ → Bool) (l : List (κ × UInt64)) : Prop :=
  l.Pairwise fun a b => before a.1 b.1 = true

theorem ascending_bump (key : κ) (ascending : Ascending before l) :
    Ascending before (bump before key l) := by
  induction l with
  | nil => exact List.pairwise_singleton _ _
  | cons entry rest ih =>
      obtain ⟨k, i⟩ := entry
      obtain ⟨above, others⟩ := List.pairwise_cons.mp ascending
      rcases lt_eq_or_gt before key k with first | rfl | last
      · rw [bump_of_before first]
        refine List.pairwise_cons.mpr ⟨fun e member => ?_, ascending⟩
        rcases List.mem_cons.mp member with rfl | later
        · exact first
        · exact IsTrans.trans (r := (before · ·)) _ _ _ first (above e later)
      · rw [bump_self]
        exact List.pairwise_cons.mpr ⟨above, others⟩
      · rw [bump_of_behind last]
        refine List.pairwise_cons.mpr ⟨fun e member => ?_, ih others⟩
        by_cases same : e.1 = key
        · rw [same]
          exact last
        · exact above e ((mem_bump_of_ne same e.2 rest).mp member)

/-- The entry of a key that is counted again is raised. -/
theorem mem_bump_of_mem (ascending : Ascending before l) {m : UInt64} (there : (key, m) ∈ l)
    (n : UInt64) : (key, n) ∈ bump before key l ↔ n = m + 1 := by
  induction l with
  | nil => cases there
  | cons entry rest ih =>
      obtain ⟨k, i⟩ := entry
      obtain ⟨above, others⟩ := List.pairwise_cons.mp ascending
      rcases lt_eq_or_gt before key k with first | rfl | last
      · rcases List.mem_cons.mp there with same | later
        · exact absurd (congrArg Prod.fst same) (ne_of_before first)
        · exact absurd rfl (ne_of_before (IsTrans.trans (r := (before · ·)) _ _ _ first (above _ later)))
      · have alone (j : UInt64) : (key, j) ∉ rest := fun later => ne_of_before (above _ later) rfl
        have same : m = i := by simpa [alone] using there
        simp [bump_self, alone, same]
      · have ne := (ne_of_before last).symm
        have later : (key, m) ∈ rest := by simpa [ne] using there
        simpa [bump_of_behind last, ne] using ih others later

/-- A key that is counted first gets an entry. -/
theorem mem_bump_of_fresh (fresh : ∀ m, (key, m) ∉ l) (n : UInt64) :
    (key, n) ∈ bump before key l ↔ n = 1 := by
  induction l with
  | nil => simp [bump]
  | cons entry rest ih =>
      obtain ⟨k, i⟩ := entry
      have absent (m : UInt64) : (key, m) ∉ rest := fun later => fresh m (List.mem_cons_of_mem _ later)
      rcases lt_eq_or_gt before key k with first | rfl | last
      · simp [bump_of_before first, ne_of_before first, absent]
      · exact absurd List.mem_cons_self (fresh i)
      · simpa [bump_of_behind last, (ne_of_before last).symm] using ih absent

theorem bump_comm_of_before {a b : κ} (first : before a b = true) (l : List (κ × UInt64)) :
    bump before a (bump before b l) = bump before b (bump before a l) := by
  induction l with
  | nil =>
      have single : bump before b [] = [(b, 1)] := rfl
      have other : bump before a [] = [(a, 1)] := rfl
      rw [single, other, bump_of_before first, bump_of_behind first, single]
  | cons entry rest ih =>
      obtain ⟨k, i⟩ := entry
      rcases lt_eq_or_gt before a k with front | rfl | behind
      · rw [bump_of_before front, bump_of_behind first]
        rcases lt_eq_or_gt before b k with ahead | rfl | after
        · rw [bump_of_before ahead, bump_of_before first]
        · rw [bump_self, bump_of_before first]
        · rw [bump_of_behind after, bump_of_before front]
      · rw [bump_self, bump_of_behind first, bump_self, bump_of_behind first]
      · have after : before k b = true := IsTrans.trans (r := (before · ·)) _ _ _ behind first
        rw [bump_of_behind after, bump_of_behind behind, ih, bump_of_behind behind, bump_of_behind after]

/-- Two keys may be counted in either order. -/
theorem bump_comm (before : κ → κ → Bool) [IsStrictTotalOrder κ (before · ·)] (a b : κ)
    (l : List (κ × UInt64)) :
    bump before a (bump before b l) = bump before b (bump before a l) := by
  rcases lt_eq_or_gt before a b with first | rfl | last
  · exact bump_comm_of_before first l
  · rfl
  · exact (bump_comm_of_before last l).symm

end Order

/-! ## What a tally holds -/

section Holds

variable [DecidableEq κ] {t : Tally κ} {keys : List κ}

/-- A tally of some keys: in ascending order each of them has one entry, which counts it. -/
structure Holds (before : κ → κ → Bool) (t : Tally κ) (keys : List κ) : Prop where
  ascending : Ascending before t.counts
  mem_iff : ∀ key n, (key, n) ∈ t.counts ↔ key ∈ keys ∧ n = UInt64.ofNat (keys.count key)

theorem holds_nil (before : κ → κ → Bool) : Holds before ⟨[]⟩ ([] : List κ) :=
  ⟨List.Pairwise.nil, by simp⟩

theorem Holds.add [IsStrictTotalOrder κ (before · ·)] (holds : t.Holds before keys) (key : κ) :
    (t.add before key).Holds before (keys ++ [key]) where
  ascending := ascending_bump key holds.ascending
  mem_iff other n := by
    by_cases same : other = key
    · subst same
      have counted : (keys ++ [other]).count other = keys.count other + 1 := by simp
      rw [counted, UInt64.ofNat_add]
      by_cases given : other ∈ keys
      · have there := (holds.mem_iff other _).mpr ⟨given, rfl⟩
        simpa [Tally.add] using mem_bump_of_mem holds.ascending there n
      · have fresh (m : UInt64) : (other, m) ∉ t.counts :=
          fun there => given ((holds.mem_iff other m).mp there).1
        have entered : (other, n) ∈ bump before other t.counts ↔ n = 1 := mem_bump_of_fresh fresh n
        simpa [Tally.add, List.count_eq_zero_of_not_mem given] using entered
    · have others : (keys ++ [key]).count other = keys.count other := by
        simp [List.count_append, Ne.symm same]
      rw [others]
      simpa [Tally.add, same] using (mem_bump_of_ne same n t.counts).trans (holds.mem_iff other n)

/-- The sum of the counts of the keys that pass a test. -/
def total (t : Tally κ) (passes : κ → Bool) : Nat :=
  ((t.counts.filter fun entry => passes entry.1).map fun entry => entry.2.toNat).sum

theorem Holds.toNat_count (holds : t.Holds before keys) (few : keys.length < 2 ^ 64)
    {entry : κ × UInt64} (there : entry ∈ t.counts) : entry.2.toNat = keys.count entry.1 := by
  rw [((holds.mem_iff entry.1 entry.2).mp there).2]
  exact Nat.mod_eq_of_lt (lt_of_le_of_lt List.count_le_length few)

/-- The keys of a tally are the keys that it was given, each once. -/
theorem Holds.perm_keys [IsStrictTotalOrder κ (before · ·)] (holds : t.Holds before keys) :
    (t.counts.map Prod.fst).Perm keys.dedup := by
  have distinct : (t.counts.map Prod.fst).Nodup :=
    List.pairwise_map.mpr (holds.ascending.imp ne_of_before)
  refine (List.perm_ext_iff_of_nodup distinct keys.nodup_dedup).mpr fun key => ?_
  simp [holds.mem_iff]

/-- The counts of the keys that pass a test add up to how many of the keys that were given pass it. -/
theorem Holds.total_eq [IsStrictTotalOrder κ (before · ·)] (holds : t.Holds before keys)
    (few : keys.length < 2 ^ 64) (passes : κ → Bool) : t.total passes = keys.countP passes := by
  have counts : t.total passes =
      (((t.counts.map Prod.fst).filter passes).map fun key => keys.count key).sum := by
    simp only [total, List.filter_map, List.map_map, Function.comp_def]
    congr 1
    refine List.map_congr_left fun entry member => ?_
    exact holds.toNat_count few (List.mem_of_mem_filter member)
  rw [counts, ((holds.perm_keys.filter passes).map _).sum_eq]
  exact List.sum_map_count_dedup_filter_eq_countP passes keys

theorem Holds.pos (holds : t.Holds before keys) (few : keys.length < 2 ^ 64)
    {entry : κ × UInt64} (there : entry ∈ t.counts) : 0 < entry.2.toNat := by
  rw [holds.toNat_count few there]
  exact List.count_pos_iff.mpr ((holds.mem_iff entry.1 entry.2).mp there).1

end Holds

end Tally

/-! ## Reports -/

namespace DownloadStats

/-- What the statistics are told of. -/
inductive Report
  | answer (host : String) (status : UInt16) (bytes : UInt64) (elapsed : Int64)
  | transportError

namespace Report

def host? : Report → Option String
  | .answer host _ _ _ => some host
  | .transportError => none

def status? : Report → Option UInt16
  | .answer _ status _ _ => some status
  | .transportError => none

def bytes : Report → UInt64
  | .answer _ _ bytes _ => bytes
  | .transportError => 0

def isError : Report → Bool
  | .answer .. => false
  | .transportError => true

end Report

/-- The hosts that answered, in the order of the answers. -/
def hostsOf (reports : List Report) : List String := reports.filterMap Report.host?

/-- The statuses of the answers, in their order. -/
def statusesOf (reports : List Report) : List UInt16 := reports.filterMap Report.status?

def bytesOf (reports : List Report) : Nat := (reports.map fun report => report.bytes.toNat).sum

/-- Statuses that are successes. -/
def isSuccess (status : UInt16) : Bool := status < firstFailure

def enter (s : DownloadStats) : Report → DownloadStats
  | .answer host status bytes elapsed => s.record host status bytes elapsed
  | .transportError => s.recordTransportError

/-- The statistics of some reports. -/
def ofReports (reports : List Report) : DownloadStats := reports.foldl enter zero

instance : IsStrictTotalOrder UInt16 fun a b => decide (a < b) where
  trichotomous a b notBefore notBehind :=
    UInt16.le_antisymm (UInt16.not_lt.mp (by simpa using notBehind))
      (UInt16.not_lt.mp (by simpa using notBefore))
  irrefl := by simp
  trans a b c first second := by
    simpa using UInt16.lt_trans (by simpa using first) (by simpa using second)

instance : IsStrictTotalOrder String fun a b => decide (a < b) := by
  simp only [decide_eq_true_eq]
  infer_instance

/-- What the statistics say of some reports. -/
structure Tells (s : DownloadStats) (reports : List Report) : Prop where
  requests : s.requests = UInt64.ofNat (statusesOf reports).length
  succeeded : s.succeeded = UInt64.ofNat ((statusesOf reports).countP isSuccess)
  failed : s.failed = UInt64.ofNat ((statusesOf reports).countP (!isSuccess ·))
  transportErrors : s.transportErrors = UInt64.ofNat (reports.countP Report.isError)
  bytes : s.bytes = UInt64.ofNat (bytesOf reports)
  statusCodes : s.statusCodes.Holds (· < ·) (statusesOf reports)
  hosts : s.hosts.Holds (· < ·) (hostsOf reports)

theorem tells_zero : zero.Tells [] where
  requests := rfl
  succeeded := rfl
  failed := rfl
  transportErrors := rfl
  bytes := rfl
  statusCodes := Tally.holds_nil _
  hosts := Tally.holds_nil _

variable {s : DownloadStats} {reports : List Report}

theorem Tells.record (tells : s.Tells reports) (host : String) (status : UInt16) (bytes : UInt64)
    (elapsed : Int64) :
    (s.record host status bytes elapsed).Tells (reports ++ [.answer host status bytes elapsed]) := by
  have statuses : statusesOf (reports ++ [.answer host status bytes elapsed]) =
      statusesOf reports ++ [status] := by simp [statusesOf, Report.status?]
  have hosts : hostsOf (reports ++ [.answer host status bytes elapsed]) =
      hostsOf reports ++ [host] := by simp [hostsOf, Report.host?]
  constructor
  · simp [DownloadStats.record, statuses, tells.requests, UInt64.ofNat_add]
  · rw [statuses]
    by_cases success : status < firstFailure <;>
      simp [DownloadStats.record, success, isSuccess, tells.succeeded, UInt64.ofNat_add]
  · rw [statuses]
    by_cases success : status < firstFailure <;>
      simp [DownloadStats.record, success, isSuccess, tells.failed, UInt64.ofNat_add]
  · simp [DownloadStats.record, Report.isError, tells.transportErrors]
  · simp [DownloadStats.record, bytesOf, Report.bytes, tells.bytes, UInt64.ofNat_add]
  · rw [statuses]
    exact tells.statusCodes.add status
  · rw [hosts]
    exact tells.hosts.add host

theorem Tells.recordTransportError (tells : s.Tells reports) :
    s.recordTransportError.Tells (reports ++ [.transportError]) := by
  have statuses : statusesOf (reports ++ [.transportError]) = statusesOf reports := by
    simp [statusesOf, Report.status?]
  have hosts : hostsOf (reports ++ [.transportError]) = hostsOf reports := by
    simp [hostsOf, Report.host?]
  constructor
  · rw [statuses]
    exact tells.requests
  · rw [statuses]
    exact tells.succeeded
  · rw [statuses]
    exact tells.failed
  · simp [DownloadStats.recordTransportError, Report.isError, tells.transportErrors, UInt64.ofNat_add]
  · simp [DownloadStats.recordTransportError, bytesOf, Report.bytes, tells.bytes]
  · rw [statuses]
    exact tells.statusCodes
  · rw [hosts]
    exact tells.hosts

theorem tells_ofReports (reports : List Report) : (ofReports reports).Tells reports := by
  induction reports using List.reverseRecOn with
  | nil => exact tells_zero
  | append_singleton reports report ih =>
      have last : ofReports (reports ++ [report]) = (ofReports reports).enter report := by
        simp [ofReports]
      rw [last]
      cases report with
      | answer host status bytes elapsed => exact ih.record host status bytes elapsed
      | transportError => exact ih.recordTransportError

/-! ## Order -/

/-- Two reports may be entered in either order. -/
theorem enter_comm (s : DownloadStats) (a b : Report) :
    (s.enter a).enter b = (s.enter b).enter a := by
  cases a with
  | transportError =>
      cases b with
      | transportError => rfl
      | answer => rfl
  | answer host status bytes elapsed =>
      cases b with
      | transportError => rfl
      | answer otherHost otherStatus otherBytes otherElapsed =>
          have statuses := Tally.bump_comm (· < ·) otherStatus status s.statusCodes.counts
          have hosts := Tally.bump_comm (· < ·) otherHost host s.hosts.counts
          have sizes : s.bytes + bytes + otherBytes = s.bytes + otherBytes + bytes := by
            rw [UInt64.add_assoc, UInt64.add_comm bytes, UInt64.add_assoc]
          have times : s.latencyTotal + elapsed + otherElapsed =
              s.latencyTotal + otherElapsed + elapsed := by
            rw [Int64.add_assoc, Int64.add_comm elapsed, Int64.add_assoc]
          simp only [enter, record, Tally.add, statuses, hosts, sizes, times]
          congr 1 <;> split <;> split <;> rfl

/-- Reports in another order leave the same statistics. -/
theorem ofReports_perm {others : List Report} (same : others.Perm reports) :
    ofReports others = ofReports reports := by
  have comm : RightCommutative enter := ⟨enter_comm⟩
  exact same.foldl_eq zero

/-! ## The balance -/

/-- Every answer has a host. -/
theorem length_hostsOf (reports : List Report) :
    (hostsOf reports).length = (statusesOf reports).length := by
  induction reports with
  | nil => rfl
  | cons report rest ih => cases report <;>
        simpa [hostsOf, statusesOf, List.filterMap_cons, Report.host?, Report.status?] using ih

/-- A report is an answer or an error. -/
theorem length_statusesOf (reports : List Report) :
    (statusesOf reports).length + reports.countP Report.isError = reports.length := by
  induction reports with
  | nil => rfl
  | cons report rest ih =>
      cases report <;>
        simp [statusesOf, List.filterMap_cons, List.countP_cons, Report.status?,
          Report.isError] at ih ⊢ <;>
        omega

/-- **Statistics balance.**  Take any reports of which the answers, the errors and the bytes are in
range.  The requests are the successes and the failures; the statuses count as many, and so do the hosts;
every report is a request or an error; the successes are the statuses below 400; and every key that is
there has been counted.  The same reports in any other order leave the same statistics. -/
theorem totals_balance (reports : List Report) (fewAnswers : (statusesOf reports).length < 2 ^ 64)
    (fewErrors : reports.countP Report.isError < 2 ^ 64) (fewBytes : bytesOf reports < 2 ^ 64) :
    let s := ofReports reports
    s.requests.toNat = s.succeeded.toNat + s.failed.toNat ∧
    s.requests.toNat = s.statusCodes.total (fun _ => true) ∧
    s.requests.toNat = s.hosts.total (fun _ => true) ∧
    s.requests.toNat + s.transportErrors.toNat = reports.length ∧
    s.succeeded.toNat = s.statusCodes.total (· < 400) ∧
    s.transportErrors.toNat = reports.countP Report.isError ∧
    s.bytes.toNat = (reports.map fun report => report.bytes.toNat).sum ∧
    (∀ entry ∈ s.statusCodes.counts, 0 < entry.2.toNat) ∧
    (∀ entry ∈ s.hosts.counts, 0 < entry.2.toNat) ∧
    ∀ others : List Report, others.Perm reports → ofReports others = s := by
  intro s
  have tells : s.Tells reports := tells_ofReports reports
  have fewHosts : (hostsOf reports).length < 2 ^ 64 := length_hostsOf reports ▸ fewAnswers
  have successes : (statusesOf reports).countP isSuccess < 2 ^ 64 :=
    lt_of_le_of_lt List.countP_le_length fewAnswers
  have failures : (statusesOf reports).countP (!isSuccess ·) < 2 ^ 64 :=
    lt_of_le_of_lt List.countP_le_length fewAnswers
  have requests : s.requests.toNat = (statusesOf reports).length := by
    rw [tells.requests]
    exact Nat.mod_eq_of_lt fewAnswers
  have succeeded : s.succeeded.toNat = (statusesOf reports).countP isSuccess := by
    rw [tells.succeeded]
    exact Nat.mod_eq_of_lt successes
  have failed : s.failed.toNat = (statusesOf reports).countP (!isSuccess ·) := by
    rw [tells.failed]
    exact Nat.mod_eq_of_lt failures
  have errors : s.transportErrors.toNat = reports.countP Report.isError := by
    rw [tells.transportErrors]
    exact Nat.mod_eq_of_lt fewErrors
  have bytes : s.bytes.toNat = bytesOf reports := by
    rw [tells.bytes]
    exact Nat.mod_eq_of_lt fewBytes
  refine ⟨?split, ?statuses, ?hosts, ?reports, ?successes, errors, bytes, ?statusPos, ?hostPos, ?order⟩
  case split =>
    rw [requests, succeeded, failed]
    simpa using List.length_eq_countP_add_countP isSuccess (l := statusesOf reports)
  case statuses =>
    rw [requests, tells.statusCodes.total_eq fewAnswers, List.countP_true]
  case hosts =>
    rw [requests, tells.hosts.total_eq fewHosts, List.countP_true, length_hostsOf]
  case reports =>
    rw [requests, errors, length_statusesOf]
  case successes =>
    rw [succeeded, tells.statusCodes.total_eq fewAnswers]
    rfl
  case statusPos => exact fun entry there => tells.statusCodes.pos fewAnswers there
  case hostPos => exact fun entry there => tells.hosts.pos fewHosts there
  case order => exact fun others same => ofReports_perm same

/-- Two hosts answer three requests, and one request gets no answer. -/
def mixedReports : List Report :=
  [.answer "books.example.com" 200 100 10, .answer "books.example.com" 404 50 30,
    .answer "cdn.example.com" 301 0 20, .transportError]

theorem mixed_totals_balance :
    (ofReports mixedReports).succeeded.toNat = 2 ∧
    (ofReports mixedReports).hosts.counts = [("books.example.com", 2), ("cdn.example.com", 1)] ∧
    (ofReports mixedReports).requests.toNat + (ofReports mixedReports).transportErrors.toNat = 4 ∧
    ofReports mixedReports.reverse = ofReports mixedReports := by
  have balance := totals_balance mixedReports (by decide) (by decide) (by decide)
  obtain ⟨-, -, -, sent, -, -, -, -, -, order⟩ := balance
  exact ⟨by decide, by decide, sent, order _ (List.reverse_perm _)⟩

end DownloadStats

end CrawlMesh
