import CellularData.Lib.Tally
import CellularData.Slot.ActReport

/-! The statistics of activation attempts: what the report says of the recent attempts for one APN. -/
namespace CellularData
open Lib

/-- Values of the clock, and of the times that records have been given. -/
def IsInt64 (n : Int) : Prop := -(2 ^ 63) ≤ n ∧ n < 2 ^ 63

instance (n : Int) : Decidable (IsInt64 n) := inferInstanceAs (Decidable (_ ∧ _))

namespace ApnActivateInfo

def successes (l : List ApnActivateInfo) : List ApnActivateInfo :=
  l.filter fun info => info.reason = .none_

def failures (l : List ApnActivateInfo) : List ApnActivateInfo :=
  l.filter fun info => ¬ info.reason = .none_

def durationSum (l : List ApnActivateInfo) : Int := (l.map fun info => info.duration.getD 0).sum

def meanDuration (l : List ApnActivateInfo) : Int :=
  if l = [] then 0 else durationSum l / l.length

/-- The failed attempts, with what the division of the successful ones leaves over, make up for what
the sum has lost beyond 32 bits, but for less than one unit of the mean. -/
def AverageKept (l : List ApnActivateInfo) : Prop :=
  successes l = [] ∨
    durationSum l / 2 ^ 32 * 2 ^ 32 ≤
        durationSum (failures l) + durationSum (successes l) % (successes l).length ∧
      durationSum (failures l) + durationSum (successes l) % (successes l).length <
        durationSum l / 2 ^ 32 * 2 ^ 32 + (successes l).length

instance (l : List ApnActivateInfo) : Decidable (AverageKept l) :=
  inferInstanceAs (Decidable (_ ∨ _ ∧ _))

variable {l : List ApnActivateInfo}

theorem durationSum_split (l : List ApnActivateInfo) :
    durationSum l = durationSum (successes l) + durationSum (failures l) := by
  induction l with
  | nil => rfl
  | cons info l ih =>
    unfold durationSum successes failures at *
    by_cases hreason : info.reason = .none_
    · rw [List.filter_cons_of_pos (by simpa using hreason),
        List.filter_cons_of_neg (by simpa using hreason)]
      simp only [List.map_cons, List.sum_cons]
      omega
    · rw [List.filter_cons_of_neg (by simpa using hreason),
        List.filter_cons_of_pos (by simpa using hreason)]
      simp only [List.map_cons, List.sum_cons]
      omega

/-- Two dividends with the same quotient. -/
theorem ediv_eq_ediv_iff {x y n : Int} (hn : 0 < n) :
    x / n = y / n ↔ 0 ≤ x - y + y % n ∧ x - y + y % n < n := by
  have hy := Int.mul_ediv_add_emod y n
  have hlow : y / n ≤ x / n ↔ y / n * n ≤ x := Int.le_ediv_iff_mul_le hn
  have hhigh : x / n < y / n + 1 ↔ x < (y / n + 1) * n := Int.ediv_lt_iff_lt_mul hn
  rw [Int.add_mul, Int.one_mul] at hhigh
  rw [Int.mul_comm] at hy
  constructor
  · intro heq
    have h₁ := hlow.mp heq.ge
    have h₂ := hhigh.mp (by omega)
    constructor
    · omega
    · omega
  · rintro ⟨h₁, h₂⟩
    have h₃ := hlow.mpr (by omega)
    have h₄ := hhigh.mpr (by omega)
    omega

/-- The sum of all durations over the number of successes is the mean of the successes. -/
theorem average_eq_mean_iff :
    (if (successes l).length = 0 then (0 : Int)
      else durationSum l % 2 ^ 32 / (successes l).length) = meanDuration (successes l) ↔
    AverageKept l := by
  unfold meanDuration AverageKept
  by_cases hnone : successes l = []
  · simp only [hnone, List.length_nil, if_true, true_or]
  · have hpos : (0 : Int) < (successes l).length := by
      have := List.length_pos_iff.mpr hnone
      omega
    rw [if_neg (by omega), if_neg hnone, ediv_eq_ediv_iff hpos, or_iff_right hnone]
    have hsplit := durationSum_split l
    have hsum := Int.emod_def (durationSum l) (2 ^ 32)
    rw [Int.mul_comm] at hsum
    constructor
    · rintro ⟨hlow, hhigh⟩
      constructor
      · omega
      · omega
    · rintro ⟨hlow, hhigh⟩
      constructor
      · omega
      · omega

end ApnActivateInfo

namespace ActTotals
open ApnActivateInfo

variable {errorCode : PdpErrorReason → Nat} {apnId : Int} {a : ActTotals}

/-- Records of other APNs are passed over. -/
theorem foldl_add_filter (l : List ApnActivateInfo) (a : ActTotals) :
    l.foldl (add errorCode apnId) a =
      (l.filter fun info => info.apnId = apnId).foldl (add errorCode apnId) a := by
  induction l generalizing a with
  | nil => rfl
  | cons info l ih =>
    by_cases hid : info.apnId = apnId
    · rw [List.filter_cons_of_pos (by simpa using hid), List.foldl_cons, List.foldl_cons]
      exact ih _
    · have hskip : add errorCode apnId a info = a := if_pos hid
      rw [List.filter_cons_of_neg (by simpa using hid), List.foldl_cons, hskip]
      exact ih a

theorem totalDuration_foldl_add {l : List ApnActivateInfo} {d : Int}
    (hid : ∀ info ∈ l, info.apnId = apnId) (hset : ∀ info ∈ l, info.duration.isSome)
    (ha : a.totalDuration = some (d % 2 ^ 32)) :
    (l.foldl (add errorCode apnId) a).totalDuration = some ((d + durationSum l) % 2 ^ 32) := by
  induction l generalizing a d with
  | nil =>
    rw [durationSum, List.map_nil, List.sum_nil, Int.add_zero]
    exact ha
  | cons info l ih =>
    obtain ⟨x, hx⟩ := Option.isSome_iff_exists.mp (hset info List.mem_cons_self)
    have hstep : (add errorCode apnId a info).totalDuration = some ((d + x) % 2 ^ 32) := by
      unfold add
      rw [if_neg (not_not.mpr (hid info List.mem_cons_self)), ha, hx]
      split_ifs
      · simp only [Option.bind_some, Option.map_some, Int.emod_add_emod]
      · simp only [Option.bind_some, Option.map_some, Int.emod_add_emod]
    rw [List.foldl_cons, ih (fun i hi => hid i (List.mem_cons_of_mem _ hi))
      (fun i hi => hset i (List.mem_cons_of_mem _ hi)) hstep]
    simp only [durationSum, List.map_cons, List.sum_cons, hx, Option.getD_some, Int.add_assoc]

theorem countError_eq (reason : Nat) (errorMap : List (Nat × Nat)) :
    countError reason errorMap = Tally.count reason errorMap := by
  induction errorMap with
  | nil => rfl
  | cons e errorMap ih =>
    obtain ⟨r, n⟩ := e
    simp only [countError, Tally.count, ih]

/-- The map of errors counts the reasons of the attempts that failed. -/
theorem errorMap_foldl_add {l : List ApnActivateInfo} (hid : ∀ info ∈ l, info.apnId = apnId) :
    (l.foldl (add errorCode apnId) a).errorMap =
      ((failures l).map fun info => errorCode info.reason).foldl (fun m r => Tally.count r m)
        a.errorMap := by
  induction l generalizing a with
  | nil => rfl
  | cons info l ih =>
    rw [List.foldl_cons, ih fun i hi => hid i (List.mem_cons_of_mem _ hi)]
    have hown : ¬ info.apnId ≠ apnId := not_not.mpr (hid info List.mem_cons_self)
    by_cases hreason : info.reason = .none_
    · have hstep : (add errorCode apnId a info).errorMap = a.errorMap := by
        unfold add
        rw [if_neg hown, if_pos hreason]
      rw [hstep]
      unfold failures
      rw [List.filter_cons_of_neg (by simpa using hreason)]
    · have hstep : (add errorCode apnId a info).errorMap =
          Tally.count (errorCode info.reason) a.errorMap := by
        unfold add
        rw [if_neg hown, if_neg hreason, ← countError_eq]
      rw [hstep]
      unfold failures
      rw [List.filter_cons_of_pos (by simpa using hreason), List.map_cons, List.foldl_cons]

end ActTotals

namespace Slot
open ApnActivateInfo

variable {env : Env} {errorCode : PdpErrorReason → Nat} {s : Slot} {apnId : Int}

/-- The attempts for one APN that are no older than the keep period, by the signed difference. -/
def recentActs (env : Env) (s : Slot) (apnId : Int) : List ApnActivateInfo :=
  s.apnActivateChrList.filter fun info =>
    info.apnId = apnId ∧ env.currentTime - info.actSuccTime ≤ keepApnActivatePeriod

/-- The report is the statistics of the recent attempts, and no difference of times wraps around. -/
structure ReportsRecent (env : Env) (errorCode : PdpErrorReason → Nat) (s : Slot) (apnId : Int)
    (report : ApnActivateReportInfo) : Prop where
  noWrap : ∀ info ∈ s.apnActivateChrList,
    (env.currentTime - info.actSuccTime) % 2 ^ 64 = env.currentTime - info.actSuccTime
  actTimes : report.actTimes = (s.recentActs env apnId).length
  actSuccTimes : report.actSuccTimes = (successes (s.recentActs env apnId)).length
  averDuration : report.averDuration = some (meanDuration (successes (s.recentActs env apnId)))
  topReason :
    if failures (s.recentActs env apnId) = [] then report.topReason = 0
    else
      Tally.IsTopKey ((failures (s.recentActs env apnId)).map fun info => errorCode info.reason)
        report.topReason

/-- No record is ahead of the clock. -/
def ClockPast (env : Env) (s : Slot) : Prop :=
  ∀ info ∈ s.apnActivateChrList, info.actSuccTime ≤ env.currentTime

instance (env : Env) (s : Slot) : Decidable (ClockPast env s) :=
  inferInstanceAs (Decidable (∀ info ∈ s.apnActivateChrList, _))

theorem noWrap_iff (hclock : IsInt64 env.currentTime)
    (htimes : ∀ info ∈ s.apnActivateChrList, IsInt64 info.actSuccTime) :
    (∀ info ∈ s.apnActivateChrList,
      (env.currentTime - info.actSuccTime) % 2 ^ 64 = env.currentTime - info.actSuccTime) ↔
    ClockPast env s := by
  refine forall₂_congr fun info hinfo => ?_
  have htime := htimes info hinfo
  unfold IsInt64 at hclock htime
  omega

theorem filter_eraseApnActivateList (hclock : IsInt64 env.currentTime)
    (htimes : ∀ info ∈ s.apnActivateChrList, IsInt64 info.actSuccTime) (hpast : ClockPast env s) :
    (s.eraseApnActivateList env).apnActivateChrList.filter (fun info => info.apnId = apnId) =
      s.recentActs env apnId := by
  unfold eraseApnActivateList recentActs
  rw [List.filter_filter]
  apply List.filter_congr
  intro info hinfo
  rw [(noWrap_iff hclock htimes).mpr hpast info hinfo, Bool.eq_iff_iff]
  simp only [Bool.and_eq_true, decide_eq_true_eq, Bool.not_eq_true', decide_eq_false_iff_not,
    Int.not_lt]

theorem recentActs_apnId : ∀ info ∈ s.recentActs env apnId, info.apnId = apnId := by
  intro info hinfo
  exact (of_decide_eq_true (List.mem_filter.mp hinfo).2).1

/-- What the counters of the report hold where no record is ahead of the clock. -/
theorem totals_recent (errorCode : PdpErrorReason → Nat) (apnId : Int)
    (hclock : IsInt64 env.currentTime)
    (htimes : ∀ info ∈ s.apnActivateChrList, IsInt64 info.actSuccTime)
    (hset : ∀ info ∈ s.apnActivateChrList, info.apnId = apnId → info.duration.isSome)
    (hpast : ClockPast env s) :
    ∃ a : ActTotals, (s.getApnActReportInfo env errorCode apnId).2 = a.reportInfo ∧
      a.totalActTimes = (s.recentActs env apnId).length ∧
      a.totalActSuccTimes = (successes (s.recentActs env apnId)).length ∧
      a.totalDuration = some (durationSum (s.recentActs env apnId) % 2 ^ 32) ∧
      Tally.IsTally a.errorMap
        ((failures (s.recentActs env apnId)).map fun info => errorCode info.reason) := by
  have hrecent : ∀ info ∈ s.recentActs env apnId, info.duration.isSome :=
    fun info hinfo => hset info (List.mem_filter.mp hinfo).1 (recentActs_apnId info hinfo)
  refine ⟨(s.recentActs env apnId).foldl (ActTotals.add errorCode apnId) {}, ?_, ?_, ?_, ?_, ?_⟩
  · unfold getApnActReportInfo
    dsimp only
    rw [ActTotals.foldl_add_filter, filter_eraseApnActivateList hclock htimes hpast]
  · rw [times_foldl_add, List.countP_eq_length.mpr fun info hinfo =>
      decide_eq_true (recentActs_apnId info hinfo)]
    exact Nat.zero_add _
  · rw [succTimes_foldl_add, successes, ← List.countP_eq_length_filter]
    refine (Nat.zero_add _).trans (List.countP_congr fun info hinfo => ?_)
    simp only [recentActs_apnId info hinfo, true_and]
  · rw [ActTotals.totalDuration_foldl_add (d := 0) recentActs_apnId hrecent rfl, Int.zero_add]
  · rw [ActTotals.errorMap_foldl_add recentActs_apnId]
    exact Tally.isTally_foldl _

/-- For any records and any clock the report is the statistics of the recent attempts exactly when
no record is ahead of the clock and the failed attempts do not move the mean. -/
theorem reports_recent_iff (hclock : IsInt64 env.currentTime)
    (htimes : ∀ info ∈ s.apnActivateChrList, IsInt64 info.actSuccTime)
    (hset : ∀ info ∈ s.apnActivateChrList, info.apnId = apnId → info.duration.isSome) :
    ReportsRecent env errorCode s apnId (s.getApnActReportInfo env errorCode apnId).2 ↔
      ClockPast env s ∧ AverageKept (s.recentActs env apnId) := by
  rw [← noWrap_iff hclock htimes, ← average_eq_mean_iff]
  have hreport (hpast : ClockPast env s) := totals_recent errorCode apnId hclock htimes hset hpast
  have haverage : ∀ a : ActTotals,
      a.totalActSuccTimes = (successes (s.recentActs env apnId)).length →
      a.totalDuration = some (durationSum (s.recentActs env apnId) % 2 ^ 32) →
      a.reportInfo.averDuration = some (if (successes (s.recentActs env apnId)).length = 0 then 0
        else durationSum (s.recentActs env apnId) % 2 ^ 32 /
          (successes (s.recentActs env apnId)).length) := by
    intro a hsucceeded hduration
    unfold ActTotals.reportInfo
    dsimp only
    rw [hsucceeded, hduration]
    split_ifs
    · rfl
    · rfl
  constructor
  · intro h
    obtain ⟨a, heq, -, hsucceeded, hduration, -⟩ := hreport ((noWrap_iff hclock htimes).mp h.noWrap)
    refine ⟨h.noWrap, Option.some.inj ?_⟩
    rw [← haverage a hsucceeded hduration, ← heq]
    exact h.averDuration
  · rintro ⟨hwrap, hmean⟩
    obtain ⟨a, heq, htimes', hsucceeded, hduration, htally⟩ :=
      hreport ((noWrap_iff hclock htimes).mp hwrap)
    rw [heq]
    refine ⟨hwrap, htimes', hsucceeded, ?_, ?_⟩
    · rw [haverage a hsucceeded hduration, hmean]
    · have htop : a.reportInfo.topReason = (Tally.top a.errorMap (0, 0)).1 := rfl
      rw [htop]
      split_ifs with hfailed
      · rw [hfailed] at htally
        rw [htally.top_nil]
      · exact htally.isTopKey_top (fun hnil => hfailed (List.map_eq_nil_iff.mp hnil)) rfl

/-! A success, a failure and a clock that has been set back -/

def actsOf (acts : List (Int × Int × PdpErrorReason)) : Slot where
  apnActivateChrList := acts.map fun (time, duration, reason) =>
    { actSuccTime := time, duration := some duration, reason, apnId := ApnType.default_.id }

def clockEnv (currentTime : Int) : Env := { currentTime }

theorem reports_recent_default :
    ReportsRecent (clockEnv 50000) (fun _ => 33)
      (actsOf [(1000, 90, .none_), (30000, 300, .none_), (40000, 401, .none_), (45000, 0, .retry)])
      ApnType.default_.id ⟨3, some 350, 33, 2⟩ := by
  exact (reports_recent_iff (by decide) (by decide) (by decide)).mpr ⟨by decide, by decide⟩

/-- The duration of a failed attempt is shared out among the successful ones. -/
def failedActs : Slot := actsOf [(30000, 400, .none_), (40000, 600, .retry)]

/-- The only record is a second ahead of a clock that has been set back. -/
def aheadActs : Slot := actsOf [(50000, 400, .none_)]

theorem failed_duration_averaged :
    ((failedActs.getApnActReportInfo (clockEnv 50000) (fun _ => 33) ApnType.default_.id).2 =
        ⟨2, some 1000, 33, 1⟩ ∧
      ¬ ReportsRecent (clockEnv 50000) (fun _ => 33) failedActs ApnType.default_.id
        (failedActs.getApnActReportInfo (clockEnv 50000) (fun _ => 33) ApnType.default_.id).2) ∧
    (aheadActs.getApnActReportInfo (clockEnv 49000) (fun _ => 33) ApnType.default_.id).2 =
        ⟨0, some 0, 0, 0⟩ ∧
      ¬ ReportsRecent (clockEnv 49000) (fun _ => 33) aheadActs ApnType.default_.id
        (aheadActs.getApnActReportInfo (clockEnv 49000) (fun _ => 33) ApnType.default_.id).2 := by
  refine ⟨⟨by decide +kernel, fun h => ?_⟩, by decide +kernel, fun h => ?_⟩
  · exact absurd h.averDuration (by decide +kernel)
  · exact absurd h.actTimes (by decide +kernel)

end Slot
end CellularData
