import CellularData.Slot.CompatibleSearch
import CellularData.Slot.DataState
import CellularData.Slot.SingleConnection

/-! The report of activation attempts, compared with the attempts of a run. -/
namespace CellularData
open Lib StateMachine Relation TransitionSystem

structure ApnActivateReportInfo where
  actTimes : Nat
  averDuration : Option Int
  topReason : Nat
  actSuccTimes : Nat
deriving DecidableEq, Repr

/-- The counters of `GetApnActReportInfo`; `errorMap` is ordered by its keys. -/
structure ActTotals where
  totalDuration : Option Int := some 0
  totalActTimes : Nat := 0
  totalActSuccTimes : Nat := 0
  errorMap : List (Nat × Nat) := []

namespace ActTotals

def countError (reason : Nat) : List (Nat × Nat) → List (Nat × Nat)
  | [] => [(reason, 1)]
  | (r, n) :: errorMap =>
    if reason < r then (reason, 1) :: (r, n) :: errorMap
    else if reason = r then (r, n + 1) :: errorMap
    else (r, n) :: countError reason errorMap

variable (errorCode : PdpErrorReason → Nat) (apnId : Int) (a : ActTotals)

/-- A duration that has not been set leaves the sum without a value. -/
def add (info : ApnActivateInfo) : ActTotals :=
  if info.apnId ≠ apnId then a
  else
    let a := { a with
      totalDuration := a.totalDuration.bind fun d => info.duration.map fun x => (d + x) % 2 ^ 32
      totalActTimes := a.totalActTimes + 1 }
    if info.reason = .none_ then { a with totalActSuccTimes := a.totalActSuccTimes + 1 }
    else { a with errorMap := countError (errorCode info.reason) a.errorMap }

/-- The first reason with the highest count. -/
def topReason : Nat :=
  (a.errorMap.foldl (fun top entry => if top.2 < entry.2 then entry else top) (0, 0)).1

def reportInfo : ApnActivateReportInfo where
  actTimes := a.totalActTimes
  averDuration :=
    if a.totalActSuccTimes = 0 then some 0 else a.totalDuration.map (· / a.totalActSuccTimes)
  topReason := a.topReason
  actSuccTimes := a.totalActSuccTimes

end ActTotals

namespace Core

variable {k k' k₁ : Core} {t u : ApnType}

/-- At most one attempt of the holder begins, and it does so only where the holder has no machine. -/
def Begins (t : ApnType) (k k' : Core) : Prop :=
  k'.recordsOf t = k.recordsOf t ∧
      ((k.state t).isEngaged = true → (k'.state t).isEngaged = true) ∨
    ∃ r, k'.recordsOf t = r :: k.recordsOf t ∧ (k.state t).isEngaged = false ∧
      (k'.state t).isEngaged = true

theorem Begins.refl (k : Core) : Begins t k k := .inl ⟨rfl, id⟩

theorem Begins.trans (h : Begins t k k₁) (h' : Begins t k₁ k') : Begins t k k' := by
  rcases h with ⟨hlog, hkeep⟩ | ⟨r, hlog, hfree, hengaged⟩
  · rcases h' with ⟨hlog', hkeep'⟩ | ⟨r, hlog', hfree', hengaged'⟩
    · exact .inl ⟨hlog'.trans hlog, fun h => hkeep' (hkeep h)⟩
    · refine .inr ⟨r, hlog'.trans (congrArg (r :: ·) hlog), ?_, hengaged'⟩
      rw [← Bool.not_eq_true] at hfree' ⊢
      exact fun h => hfree' (hkeep h)
  · rcases h' with ⟨hlog', hkeep'⟩ | ⟨r', hlog', hfree', hengaged'⟩
    · exact .inr ⟨r, hlog'.trans hlog, hfree, hkeep' hengaged⟩
    · cases hengaged.symm.trans hfree'

/-- The state of a holder is set, and no request is made. -/
theorem begins_setState (st : ApnProfileState) (hlog : k'.connectLog = k.connectLog)
    (hstate : k'.state = (k.setState u st).state)
    (hst : (k.state u).isEngaged = true → st.isEngaged = true) : Begins t k k' := by
  left
  unfold recordsOf
  rw [hlog, hstate]
  refine ⟨rfl, fun h => ?_⟩
  by_cases hu : t = u
  · subst hu
    rw [setState_self]
    exact hst h
  · rw [setState_of_ne hu]
    exact h

theorem begins_connect {m : MachineRef} {record : ConnectRecord}
    (hlog : k'.connectLog = record :: k.connectLog)
    (hstate : k'.state = (k.setState u .connecting).state) (hidle : k.state u = .idle)
    (hrecord : Records record u m) : Begins t k k' := by
  unfold Begins recordsOf
  rw [hlog, hstate]
  by_cases hu : t = u
  · subst hu
    right
    refine ⟨record, List.filter_cons_of_pos (decide_eq_true hrecord.apnType), ?_, ?_⟩
    · rw [hidle]
      rfl
    · rw [setState_self]
      rfl
  · left
    rw [setState_of_ne hu]
    refine ⟨List.filter_cons_of_neg fun h => hu ?_, id⟩
    exact (of_decide_eq_true h).symm.trans hrecord.apnType

theorem Act.begins (ha : Act k k') (t : ApnType) : Begins t k k' := by
  cases ha with
  | disconnect howner => exact begins_setState .disconnecting rfl rfl fun _ => rfl
  | reset hst =>
    refine begins_setState _ rfl rfl fun h => ?_
    rcases hst with hst | hst
    · rw [hst] at h
      cases h
    · rw [hst] at h
      cases h
  | retry hidle =>
    refine begins_setState _ rfl rfl fun h => ?_
    rw [hidle] at h
    cases h
  | connect hidle hm hinactive hfree hparams hrecord => exact begins_connect rfl rfl hidle hrecord
  | create hidle hbusy hparams hrecord => exact begins_connect rfl rfl hidle hrecord
  | tell he => exact .inl ⟨rfl, id⟩

theorem begins_of_acts (ha : ReflTransGen Act k k') (t : ApnType) : Begins t k k' := by
  induction ha with
  | refl => exact .refl k
  | tail _ ha ih => exact ih.trans (ha.begins t)

end Core

namespace Slot

/-- The codes of the error reasons order the reasons that occur equally often. -/
def getApnActReportInfo (env : Env) (errorCode : PdpErrorReason → Nat) (s : Slot) (apnId : Int) :
    Slot × ApnActivateReportInfo :=
  let s := s.eraseApnActivateList env
  (s, (s.apnActivateChrList.foldl (ActTotals.add errorCode apnId) {}).reportInfo)

def getDefaultActReportInfo (env : Env) (errorCode : PdpErrorReason → Nat) (s : Slot) :
    Slot × ApnActivateReportInfo :=
  s.getApnActReportInfo env errorCode ApnType.default_.id

def getInternalActReportInfo (env : Env) (errorCode : PdpErrorReason → Nat) (s : Slot) :
    Slot × ApnActivateReportInfo :=
  s.getApnActReportInfo env errorCode ApnType.internalDefault.id

variable {env : Env} {errorCode : PdpErrorReason → Nat} {s s' : Slot} {t : ApnType} {l : Label}
  {h : List (Label × Slot)}

/-! Reading the list -/

/-- No record of the list has aged out. -/
def Unaged (env : Env) (s : Slot) : Prop :=
  ∀ info ∈ s.apnActivateChrList, (env.currentTime - info.actSuccTime) % 2 ^ 64 ≤ keepApnActivatePeriod

def recorded (s : Slot) (t : ApnType) : Nat :=
  s.apnActivateChrList.countP fun info => info.apnId = t.id

def succeeded (s : Slot) (t : ApnType) : Nat :=
  s.apnActivateChrList.countP fun info => info.apnId = t.id ∧ info.reason = .none_

theorem eraseApnActivateList_of_unaged (h : Unaged env s) : s.eraseApnActivateList env = s := by
  have hlist : s.apnActivateChrList.filter (fun info =>
      !(keepApnActivatePeriod < (env.currentTime - info.actSuccTime) % 2 ^ 64)) =
        s.apnActivateChrList := by
    apply List.filter_eq_self.mpr
    intro info hinfo
    rw [Bool.not_eq_true', decide_eq_false_iff_not, Int.not_lt]
    exact h info hinfo
  unfold eraseApnActivateList
  rw [hlist]

theorem times_foldl_add (errorCode : PdpErrorReason → Nat) (apnId : Int) (l : List ApnActivateInfo)
    (a : ActTotals) : (l.foldl (ActTotals.add errorCode apnId) a).totalActTimes =
      a.totalActTimes + l.countP (fun info => info.apnId = apnId) := by
  induction l generalizing a with
  | nil => rfl
  | cons info l ih =>
    have hone : (a.add errorCode apnId info).totalActTimes =
        a.totalActTimes + if info.apnId = apnId then 1 else 0 := by
      unfold ActTotals.add
      by_cases hid : info.apnId = apnId
      · simp only [hid, ne_eq, not_true_eq_false, if_true, if_false]
        split_ifs <;> rfl
      · simp [hid]
    rw [List.foldl_cons, ih, List.countP_cons, hone]
    simp only [decide_eq_true_eq]
    omega

theorem succTimes_foldl_add (errorCode : PdpErrorReason → Nat) (apnId : Int)
    (l : List ApnActivateInfo) (a : ActTotals) :
    (l.foldl (ActTotals.add errorCode apnId) a).totalActSuccTimes = a.totalActSuccTimes +
      l.countP (fun info => info.apnId = apnId ∧ info.reason = .none_) := by
  induction l generalizing a with
  | nil => rfl
  | cons info l ih =>
    have hone : (a.add errorCode apnId info).totalActSuccTimes =
        a.totalActSuccTimes + if info.apnId = apnId ∧ info.reason = .none_ then 1 else 0 := by
      unfold ActTotals.add
      by_cases hid : info.apnId = apnId
      · by_cases hreason : info.reason = .none_
        · simp [hid, hreason]
        · simp [hid, hreason]
      · simp [hid]
    rw [List.foldl_cons, ih, List.countP_cons, hone]
    simp only [decide_eq_true_eq]
    omega

/-- Where no record has aged out the report leaves the slot as it is and counts all records. -/
theorem getApnActReportInfo_of_unaged (errorCode : PdpErrorReason → Nat) (h : Unaged env s)
    (t : ApnType) :
    (s.getApnActReportInfo env errorCode t.id).1 = s ∧
      (s.getApnActReportInfo env errorCode t.id).2.actTimes = s.recorded t ∧
      (s.getApnActReportInfo env errorCode t.id).2.actSuccTimes = s.succeeded t := by
  unfold getApnActReportInfo
  rw [eraseApnActivateList_of_unaged h]
  refine ⟨rfl, ?_, ?_⟩
  · exact (times_foldl_add errorCode t.id s.apnActivateChrList {}).trans (Nat.zero_add _)
  · exact (succTimes_foldl_add errorCode t.id s.apnActivateChrList {}).trans (Nat.zero_add _)

/-! What a step does to the list -/

theorem list_of_marks (h : s'.marks = s.marks) : s'.apnActivateChrList = s.apnActivateChrList :=
  congrArg Prod.snd h

theorem Write.apnActivateChrList (h : Write env s s') :
    s'.apnActivateChrList = s.apnActivateChrList := by
  cases h with
  | other h => exact congrArg (·.2.2.2.2.2.2.2.2.2.2.2.1) h
  | push => exact list_of_marks (marks_updateCellularDataConnectState _)
  | machine _ => exact list_of_marks (marks_callMachine _ _)
  | reuse _ => exact list_of_marks (marks_callMachine _ _)
  | reload => exact list_of_marks (marks_applyApnReload _)
  | setBad => exact list_of_marks (marks_setApnBadState _ _)
  | lend =>
    unfold lendDataPermitted
    refine (list_of_marks (marks_setDataPermittedForMms true)).trans ?_
    split_ifs <;> rfl
  | giveBack => exact list_of_marks (marks_setDataPermittedForMms false)
  | _ => rfl

theorem Op.apnActivateChrList (h : Op env (Connects env) s s') :
    s'.apnActivateChrList = s.apnActivateChrList := by
  cases h with
  | write h => exact h.apnActivateChrList
  | renew => exact list_of_marks (marks_renewHolders s)
  | search =>
    obtain ⟨d, c, h⟩ := checkForCompatibleDataConnection_eq env s _
    rw [h]
  | connect h => exact list_of_marks h.marks
  | _ => rfl

theorem Does.apnActivateChrList (h : Does env (Connects env) s s') :
    s'.apnActivateChrList = s.apnActivateChrList := by
  induction h with
  | refl => rfl
  | tail _ hop ih => exact hop.apnActivateChrList.trans ih

theorem Writes.apnActivateChrList (h : Writes env s s') :
    s'.apnActivateChrList = s.apnActivateChrList := by
  have hdoes : Does env (Connects env) s s' := h.does
  exact hdoes.apnActivateChrList

/-- The list after the end of an attempt with the given result. -/
def Appends (env : Env) (info : SetupDataCallResultInfo) (s s' : Slot) : Prop :=
  ∃ d, s'.apnActivateChrList = (s.eraseApnActivateList env).apnActivateChrList ++
    [⟨env.currentTime, d, info.reason, info.flag⟩]

/-- Only a completion adds a record. -/
theorem Takes.apnActivateChrList {e : HandlerEvent} (h : Takes env s e s') :
    (∃ info, e = .establishDataConnectionComplete info ∧ Appends env info s s') ∨
      (∀ info, e ≠ .establishDataConnectionComplete info) ∧
        s'.apnActivateChrList = s.apnActivateChrList := by
  cases h with
  | event he hd =>
    refine .inr ⟨fun info heq => ?_, hd.connects.apnActivateChrList⟩
    rw [heq] at he
    cases he
  | request _ hw => exact .inr ⟨fun _ => HandlerEvent.noConfusion, hw.apnActivateChrList⟩
  | noCompletion _ => exact .inl ⟨_, rfl, _, rfl⟩
  | @complete info u s₁ s₂ s₃ hu h₁ h₂ h₃ =>
    replace h₂ := h₂.trans (Write.push.writes.trans h₃)
    refine .inl ⟨info, rfl, ?_⟩
    have hfirst : s₁.apnActivateChrList = (s.completed env u info).apnActivateChrList :=
      h₁.apnActivateChrList
    have hlast : s₃.apnActivateChrList = s₁.apnActivateChrList := by
      refine h₂.apnActivateChrList.trans ?_
      split <;> rfl
    have hremove : (if u = .mms then s₃.removeEvent isResumeDataPermittedTimeout
        else s₃).apnActivateChrList = s₃.apnActivateChrList := by
      split_ifs <;> rfl
    exact ⟨_, hremove.trans (hlast.trans hfirst)⟩
  | noEnd _ => exact .inr ⟨fun _ => HandlerEvent.noConfusion, rfl⟩
  | endWithoutMachine _ _ => exact .inr ⟨fun _ => HandlerEvent.noConfusion, rfl⟩
  | @finish info u m s₁ hid hm hd =>
    replace hd := (Op.write Write.push).does.trans hd
    refine .inr ⟨fun _ => HandlerEvent.noConfusion, ?_⟩
    have hmms : (s₁.handleDisconnectDataCompleteForMmsType env u).apnActivateChrList =
        s₁.apnActivateChrList := by
      unfold handleDisconnectDataCompleteForMmsType
      split_ifs
      · exact list_of_marks (marks_setDataPermittedForMms false)
      · rfl
    exact hmms.trans (hd.connects.apnActivateChrList.trans
      (list_of_marks (marks_releaseMachine u m info)))
  | update hw => exact .inr ⟨fun _ => HandlerEvent.noConfusion, hw.apnActivateChrList⟩

/-- The step takes a completion. -/
def Completes (s : Slot) (l : Label) (info : SetupDataCallResultInfo) : Prop :=
  s.taken l = some (.establishDataConnectionComplete info)

theorem step_apnActivateChrList (h : step l s = some s') :
    (∃ env info, l = .dispatchHandler env ∧ Completes s l info ∧ Appends env info s s') ∨
      (∀ info, ¬ Completes s l info) ∧ s'.apnActivateChrList = s.apnActivateChrList := by
  cases hl : s.taken l with
  | none =>
    refine .inr ⟨fun info htaken => ?_, ?_⟩
    · cases hl.symm.trans htaken
    · cases step_steps h with
      | aside ha => exact congrArg (·.2.2.2.2.2.2.2) ha.frame
      | call hd => exact hd.connects.apnActivateChrList
      | take hnext =>
        rw [taken, hnext] at hl
        cases hl
  | some e =>
    obtain ⟨env, rfl⟩ : ∃ env, l = .dispatchHandler env := by
      cases l with
      | dispatchHandler env => exact ⟨env, rfl⟩
      | _ => cases hl
    obtain ⟨⟨e', q⟩, hnext, rfl⟩ := Option.map_eq_some_iff.mp hl
    simp only [step, dispatchHandler, hnext, Option.some.injEq] at h
    have htakes := h ▸ processEvent_takes env { s with queue := q } e'
    rcases htakes.apnActivateChrList with ⟨info, rfl, happends⟩ | ⟨hno, hsame⟩
    · exact .inl ⟨env, info, rfl, hl, happends⟩
    · refine .inr ⟨fun info htaken => hno info ?_, hsame⟩
      exact Option.some.inj (hl.symm.trans htaken)

/-! The attempts of a run -/

/-- How the attempts of a holder have gone: whether the last one is still open, how many have ended
and how many of these by a completion. -/
structure Tally where
  isOpen : Bool := false
  ended : Nat := 0
  completed : Nat := 0
deriving DecidableEq, Repr

/-- A completion, or a disconnect completion, ends the attempt of its holder that is open. -/
def Tally.take (t : ApnType) (a : Tally) : Option HandlerEvent → Tally
  | some (.establishDataConnectionComplete info) =>
    if info.flag = t.id ∧ a.isOpen then ⟨false, a.ended + 1, a.completed + 1⟩ else a
  | some (.disconnectDataComplete info) =>
    if info.flag = t.id ∧ a.isOpen then ⟨false, a.ended + 1, a.completed⟩ else a
  | _ => a

/-- With a new record of a request for the holder an attempt is open. -/
def tally (t : ApnType) : List (Label × Slot) → Slot → Tally
  | [], _ => {}
  | (l, s) :: h, s' =>
    let a := (tally t h s).take t (s.taken l)
    if (s.recordsOf t).length < (s'.recordsOf t).length then { a with isOpen := true } else a

def Tally.openCount (a : Tally) : Nat := if a.isOpen then 1 else 0

/-- An attempt that ends is no longer open. -/
theorem Tally.total_take (t : ApnType) (a : Tally) (e : Option HandlerEvent) :
    (a.take t e).ended + (a.take t e).openCount = a.ended + a.openCount := by
  unfold take
  split
  · split_ifs with h
    · simp only [openCount, h.2, Bool.false_eq_true, if_false, if_true, Nat.add_zero]
    · rfl
  · split_ifs with h
    · simp only [openCount, h.2, Bool.false_eq_true, if_false, if_true, Nat.add_zero]
    · rfl
  · rfl

theorem initial_recordsOf (hs : Initial s) (t : ApnType) : s.recordsOf t = [] := by
  have hacts : ReflTransGen Core.Act Core.blank s.core := (initial_refines hs).2
  rcases Core.begins_of_acts hacts t with ⟨hlog, -⟩ | ⟨r, -, -, hengaged⟩
  · exact hlog
  · have hidle : s.core.state t = .idle := congrArg ApnHolder.apnState (initial_holder hs t)
    rw [hidle] at hengaged
    cases hengaged

/-- While an attempt is open its holder has a machine. -/
theorem tally_engaged (hs : system.Reachable s) (hstep : step l s = some s') {a : Tally}
    (ha : a.isOpen = true → (s.core.state t).isEngaged = true) : ∃ k,
      k.recordsOf t = s.core.recordsOf t ∧ Core.Begins t k s'.core ∧
      ((a.take t (s.taken l)).isOpen = true → (k.state t).isEngaged = true) := by
  obtain ⟨hr, hw⟩ := reachable_regular hs
  obtain ⟨-, k, ht, hacts⟩ := step_refines hr hw hstep
  have hlog : k.recordsOf t = s.core.recordsOf t := by
    unfold Core.recordsOf
    rw [ht.connectLog]
  refine ⟨k, hlog, Core.begins_of_acts hacts t, fun hopen => ?_⟩
  have htake : ∀ e, (a.take t e).isOpen = true → a.isOpen = true := by
    intro e h
    unfold Tally.take at h
    split at h
    · split_ifs at h
      exact h
    · split_ifs at h
      exact h
    · exact h
  have hengaged := ha (htake _ hopen)
  rcases ht.state t with hsame | ⟨info, hcue, hname, hstate⟩ | ⟨info, hcue, hflag, hidle⟩
  · rw [hsame]
    exact hengaged
  · rw [hstate]
    split_ifs with howner
    · obtain ⟨-, hfree⟩ := ((reachable_owned hs).linked t).of_owner_none howner
      rw [hfree] at hengaged
      cases hengaged
    · rfl
  · have htaken := taken_of_cue hcue
    rw [htaken] at hopen
    have hopen' := htake _ hopen
    simp only [Tally.take, hflag, hopen', and_self, if_true] at hopen
    cases hopen

/-- Every attempt for the holder has ended or is the one that is open. -/
theorem recordsOf_tally (hh : system.History h s) (t : ApnType) :
    (s.recordsOf t).length = (tally t h s).ended + (tally t h s).openCount := by
  suffices hall : (s.recordsOf t).length = (tally t h s).ended + (tally t h s).openCount ∧
      ((tally t h s).isOpen = true → (s.core.state t).isEngaged = true) from hall.1
  induction hh with
  | init hs =>
    rw [initial_recordsOf hs]
    exact ⟨rfl, Bool.noConfusion⟩
  | @step h l s s' hh hstep ih =>
    obtain ⟨hlength, hengaged⟩ := ih
    obtain ⟨k, hlog, hbegins, hopen⟩ := tally_engaged hh.reachable hstep hengaged
    have htotal := Tally.total_take t (tally t h s) (s.taken l)
    rcases hbegins with ⟨hsame, hkeep⟩ | ⟨r, hnew, hfree, hengaged'⟩
    · have hrecords : s'.recordsOf t = s.recordsOf t := hsame.trans hlog
      have htally : tally t ((l, s) :: h) s' = (tally t h s).take t (s.taken l) := by
        simp only [tally, hrecords, Nat.lt_irrefl, if_false]
      rw [htally, hrecords, htotal]
      exact ⟨hlength, fun h => hkeep (hopen h)⟩
    · have hrecords : s'.recordsOf t = r :: s.recordsOf t := hnew.trans (congrArg (r :: ·) hlog)
      have htally : tally t ((l, s) :: h) s' =
          { (tally t h s).take t (s.taken l) with isOpen := true } := by
        simp only [tally, hrecords, List.length_cons, Nat.lt_succ_self, if_true]
      have hclosed : ((tally t h s).take t (s.taken l)).openCount = 0 := by
        refine if_neg fun h => ?_
        rw [hopen h] at hfree
        cases hfree
      rw [htally, hrecords, List.length_cons, hlength, ← htotal, hclosed]
      exact ⟨rfl, fun _ => hengaged'⟩

/-- At every state of the run the report counts the attempts that have ended and those that have
completed. -/
def Exact (errorCode : PdpErrorReason → Nat) (t : ApnType) (h : List (Label × Slot)) (s : Slot) :
    Prop :=
  ∀ env, Unaged env s →
    (s.getApnActReportInfo env errorCode t.id).2.actTimes = (tally t h s).ended ∧
      (s.getApnActReportInfo env errorCode t.id).2.actSuccTimes = (tally t h s).completed

/-- No record ages out in the step. -/
def AgesNone (_ : List (Label × Slot)) (l : Label) (s : Slot) : Prop :=
  ∀ env info, l = .dispatchHandler env → Completes s l info → Unaged env s

/-- A completion for the holder is the successful end of an open attempt, and a disconnect completion
is not the end of one. -/
def Tally.EndsInSuccess (t : ApnType) (a : Tally) : Option HandlerEvent → Prop
  | some (.establishDataConnectionComplete info) =>
    info.flag = t.id → a.isOpen = true ∧ info.reason = .none_
  | some (.disconnectDataComplete info) => info.flag = t.id → a.isOpen = false
  | _ => True

instance (t : ApnType) (a : Tally) : DecidablePred (a.EndsInSuccess t) := by
  intro e
  unfold Tally.EndsInSuccess
  split <;> infer_instance

def EndsInSuccess (t : ApnType) (h : List (Label × Slot)) (l : Label) (s : Slot) : Prop :=
  (tally t h s).EndsInSuccess t (s.taken l)

instance (t : ApnType) (h : List (Label × Slot)) (l : Label) :
    DecidablePred (EndsInSuccess t h l) :=
  fun s => inferInstanceAs (Decidable ((tally t h s).EndsInSuccess t (s.taken l)))

theorem initial_apnActivateChrList (hs : Initial s) : s.apnActivateChrList = [] := by
  obtain ⟨env, slotId, l, hinit⟩ := hs.does
  exact hinit.establishes.connects.apnActivateChrList

theorem Appends.of_unaged {info : SetupDataCallResultInfo} (h : Appends env info s s')
    (hu : Unaged env s) : ∃ d, s'.apnActivateChrList = s.apnActivateChrList ++
      [⟨env.currentTime, d, info.reason, info.flag⟩] := by
  obtain ⟨d, hd⟩ := h
  rw [eraseApnActivateList_of_unaged hu] at hd
  exact ⟨d, hd⟩

/-- At the time of the last completion no record has aged out. -/
theorem exists_unaged (hh : system.History h s) (hr : AtSteps AgesNone h) : ∃ env, Unaged env s := by
  induction hh with
  | init hs =>
    refine ⟨{}, fun info hinfo => ?_⟩
    rw [initial_apnActivateChrList hs] at hinfo
    cases hinfo
  | @step h l s s' hh hstep ih =>
    rcases step_apnActivateChrList hstep with ⟨env, info, hl, htaken, happends⟩ | ⟨-, hsame⟩
    · have hu := hr.1 env info hl htaken
      obtain ⟨d, hlist⟩ := happends.of_unaged hu
      refine ⟨env, fun x hx => ?_⟩
      rw [hlist, List.mem_append, List.mem_singleton] at hx
      rcases hx with hx | rfl
      · exact hu x hx
      · have hage : (env.currentTime - env.currentTime) % 2 ^ 64 = 0 := by
          rw [Int.sub_self, Int.zero_emod]
        rw [hage]
        decide
    · obtain ⟨env, hu⟩ := ih hr.2
      refine ⟨env, fun x hx => hu x ?_⟩
      rwa [hsame] at hx

theorem exact_iff (hu : ∃ env, Unaged env s) : Exact errorCode t h s ↔
    s.recorded t = (tally t h s).ended ∧ s.succeeded t = (tally t h s).completed := by
  constructor
  · intro hexact
    obtain ⟨env, hu⟩ := hu
    obtain ⟨-, htimes, hsucc⟩ := getApnActReportInfo_of_unaged errorCode hu t
    rw [← htimes, ← hsucc]
    exact hexact env hu
  · intro hcounts env hu
    obtain ⟨-, htimes, hsucc⟩ := getApnActReportInfo_of_unaged errorCode hu t
    rw [htimes, hsucc]
    exact hcounts

theorem tally_cons (t : ApnType) (h : List (Label × Slot)) (l : Label) (s s' : Slot) :
    (tally t ((l, s) :: h) s').ended = ((tally t h s).take t (s.taken l)).ended ∧
      (tally t ((l, s) :: h) s').completed = ((tally t h s).take t (s.taken l)).completed := by
  simp only [tally]
  split_ifs
  · exact ⟨rfl, rfl⟩
  · exact ⟨rfl, rfl⟩

theorem counts_append {info : SetupDataCallResultInfo} {x : Int} {d : Option Int}
    (h : s'.apnActivateChrList = s.apnActivateChrList ++ [⟨x, d, info.reason, info.flag⟩]) :
    s'.recorded t = s.recorded t + (if info.flag = t.id then 1 else 0) ∧
      s'.succeeded t = s.succeeded t +
        (if info.flag = t.id ∧ info.reason = .none_ then 1 else 0) := by
  unfold recorded succeeded
  rw [h, List.countP_append, List.countP_append, List.countP_singleton, List.countP_singleton]
  constructor
  · simp only [decide_eq_true_eq]
  · simp only [decide_eq_true_eq]

/-- A completion keeps the report exact exactly when it ends an open attempt with success. -/
theorem exact_complete {info : SetupDataCallResultInfo} {x : Int} {d : Option Int} {a : Tally}
    (hlist : s'.apnActivateChrList = s.apnActivateChrList ++ [⟨x, d, info.reason, info.flag⟩])
    (hcounts : s.recorded t = a.ended ∧ s.succeeded t = a.completed) :
    (s'.recorded t = (a.take t (some (.establishDataConnectionComplete info))).ended ∧
      s'.succeeded t = (a.take t (some (.establishDataConnectionComplete info))).completed) ↔
      (info.flag = t.id → a.isOpen = true ∧ info.reason = .none_) := by
  obtain ⟨hrecorded, hsucceeded⟩ := counts_append (t := t) hlist
  rw [hrecorded, hsucceeded, hcounts.1, hcounts.2]
  unfold Tally.take
  by_cases hflag : info.flag = t.id
  · cases hopen : a.isOpen with
    | true =>
      by_cases hreason : info.reason = .none_
      · simp [hflag, hreason]
      · simp [hflag, hreason]
    | false => simp [hflag]
  · simp [hflag]

/-- Any other event keeps the report exact exactly when it ends no open attempt. -/
theorem exact_other {e : Option HandlerEvent} {a : Tally}
    (he : ∀ info, e ≠ some (.establishDataConnectionComplete info)) :
    (a.ended = (a.take t e).ended ∧ a.completed = (a.take t e).completed) ↔ a.EndsInSuccess t e := by
  unfold Tally.take Tally.EndsInSuccess
  split
  · exact absurd rfl (he _)
  · rename_i info
    by_cases hends : info.flag = t.id ∧ a.isOpen = true
    · rw [if_pos hends]
      refine iff_of_false (fun h => Nat.succ_ne_self _ h.1.symm) fun hclosed => ?_
      cases (hclosed hends.1).symm.trans hends.2
    · rw [if_neg hends]
      refine iff_of_true ⟨rfl, rfl⟩ fun hflag => ?_
      rw [← Bool.not_eq_true]
      exact fun hopen => hends ⟨hflag, hopen⟩
  · exact iff_of_true ⟨rfl, rfl⟩ trivial

variable (errorCode t) in
/-- As long as no record ages out, the report is exact throughout exactly the runs in which every
attempt for the holder that ends does so by one successful completion. -/
theorem report_exact_iff (hh : system.History h s) (hr : AtSteps AgesNone h) :
    Throughout (Exact errorCode t) h s ↔ AtSteps (EndsInSuccess t) h := by
  refine throughout_iff (fun s hs => ?_) (fun h l s s' hh hr hage hstep hexact => ?_) hh hr
  · have hnil : ∃ env, Unaged env s := exists_unaged (.init hs) trivial
    rw [exact_iff hnil]
    unfold recorded succeeded
    rw [initial_apnActivateChrList hs]
    exact ⟨rfl, rfl⟩
  · have hcounts := (exact_iff (exists_unaged hh hr)).mp hexact
    rw [exact_iff (exists_unaged (hh.step hstep) ⟨hage, hr⟩), (tally_cons t h l s s').1,
      (tally_cons t h l s s').2]
    rcases step_apnActivateChrList hstep with ⟨env, info, hl, htaken, happends⟩ | ⟨hno, hsame⟩
    · obtain ⟨d, hlist⟩ := happends.of_unaged (hage env info hl htaken)
      have htaken' : s.taken l = some (.establishDataConnectionComplete info) := htaken
      rw [htaken', exact_complete hlist hcounts, EndsInSuccess, htaken']
      rfl
    · have hrecorded : s'.recorded t = s.recorded t := by
        unfold recorded
        rw [hsame]
      have hsucceeded : s'.succeeded t = s.succeeded t := by
        unfold succeeded
        rw [hsame]
      rw [hrecorded, hsucceeded, hcounts.1, hcounts.2]
      exact exact_other hno

/-! An attempt that completes and one that the modem refuses -/

theorem agesNone_of_empty (hempty : ∀ p ∈ h, p.2.apnActivateChrList = []) : AtSteps AgesNone h := by
  induction h with
  | nil => trivial
  | cons p h ih =>
    refine ⟨fun env info _ _ x hx => ?_, ih fun q hq => hempty q (List.mem_cons_of_mem p hq)⟩
    rw [hempty p List.mem_cons_self] at hx
    cases hx

/-- The default holder's attempt has completed and is reported as such. -/
theorem report_exact_connected : ∃ h s, system.History h s ∧ AtSteps AgesNone h ∧
    tally .default_ h s = ⟨false, 1, 1⟩ ∧ Throughout (Exact (fun _ => 1) .default_) h s := by
  obtain ⟨h, s, hh, hp⟩ := TransitionSystem.exists_history start_initial connectedLabels.dropLast
    (p := fun h s => (∀ p ∈ h, p.2.apnActivateChrList = []) ∧
      tally .default_ h s = ⟨false, 1, 1⟩ ∧ AtSteps (EndsInSuccess .default_) h)
    (by decide +kernel)
  obtain ⟨hempty, htally, hends⟩ := of_decide_eq_true hp
  have hages := agesNone_of_empty hempty
  exact ⟨h, s, hh, hages, htally, (report_exact_iff (fun _ => 1) .default_ hh hages).mpr hends⟩

/-- The modem has refused the default holder's attempt, and the report counts none. -/
theorem refused_attempt_unreported : ∃ h s, system.History h s ∧ AtSteps AgesNone h ∧
    (tally .default_ h s).ended = 1 ∧ Unaged serviceEnv s ∧
    (s.getDefaultActReportInfo serviceEnv fun _ => 1).2.actTimes = 0 := by
  obtain ⟨h, s, hh, hp⟩ := TransitionSystem.exists_history start_initial refusedLabels
    (p := fun h s => (∀ p ∈ h, p.2.apnActivateChrList = []) ∧ (tally .default_ h s).ended = 1 ∧
      s.apnActivateChrList = []) (by decide +kernel)
  obtain ⟨hempty, hended, hlist⟩ := of_decide_eq_true hp
  have hunaged : Unaged serviceEnv s := by
    intro info hinfo
    rw [hlist] at hinfo
    cases hinfo
  obtain ⟨-, htimes, -⟩ := getApnActReportInfo_of_unaged (fun _ => 1) hunaged .default_
  refine ⟨h, s, hh, agesNone_of_empty hempty, hended, hunaged, htimes.trans ?_⟩
  unfold recorded
  rw [hlist]
  rfl

end Slot
end CellularData
