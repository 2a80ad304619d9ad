import CellularData.Monitor.StallDetection

/-! The trigger of a recovery: packets sent without an answer, counted from poll to poll. -/
namespace CellularData
namespace DataConnectionMonitor
open Lib TransitionSystem

variable (env : MonitorEnv) (m : DataConnectionMonitor)

/-- Packets sent since the last poll, by the difference of the counters. -/
def sentSince : Int :=
  (m.stallDetectionTrafficManager.updatePacketData env).sendPackets -
    m.stallDetectionTrafficManager.sendPackets

def recvSince : Int :=
  (m.stallDetectionTrafficManager.updatePacketData env).recvPackets -
    m.stallDetectionTrafficManager.recvPackets

/-- The clause under which a poll recovers although too few packets have been counted. -/
def restartsRadio : Bool :=
  !env.dataConnected && (m.updateFlowInfo env).dataRecoveryState = .radioStatusRestart

/-- A poll that does or does not call for a recovery. -/
def pollOutcome (recovers : Bool) : DataConnectionMonitor :=
  (if recovers then { (m.updateFlowInfo env).handleRecovery env with noRecvPackets := 0 }
    else m.updateFlowInfo env).continueStallDetection

/-- The monitor that a step has poll, its event taken. -/
def polled (l : MonitorEnv × Label) (m : DataConnectionMonitor) : Option DataConnectionMonitor :=
  match l.2 with
  | .deliver i =>
    (m.events[i]?).bind fun p =>
      if p.1 = .stallDetection then some { m with events := m.events.eraseIdx i } else none
  | _ => none

/-- What a poll makes of the packets counted so far. -/
def counted (count : Int) : Int :=
  if 0 < m.recvSince env then 0
  else if m.recvSince env = 0 ∧ 0 < m.sentSince env then count + m.sentSince env
  else count

def isTriggered (count : Int) : Bool :=
  recoveryTriggerPacket < m.counted env count || m.restartsRadio env

abbrev Steps := List ((MonitorEnv × Label) × DataConnectionMonitor)

/-- The packets sent at polls without received packets, since the last poll with received packets or
the last recovery. -/
def unanswered : Steps → Int
  | [] => 0
  | (l, m) :: h =>
    match polled l m with
    | some x =>
      if x.isTriggered l.1 (unanswered h) then 0 else x.counted l.1 (unanswered h)
    | none => if l.2 = .isNeedDoRecovery true then 0 else unanswered h

/-- If the last step was a poll, received packets have reset the count and the recovery, and it has
called for a recovery exactly when the packets without an answer, or a radio restart, do so. -/
def TriggersRightly : Steps → DataConnectionMonitor → Prop
  | [], _ => True
  | (l, m) :: h, m' => ∀ x ∈ polled l m,
    (0 < x.recvSince l.1 → m'.noRecvPackets = 0 ∧ m'.dataRecoveryState = .requestContextList) ∧
      m' = x.pollOutcome l.1 (x.isTriggered l.1 (unanswered h))

/-- Where a poll finds the sent counter lower and the received counter higher, there is nothing to
reset, or a radio restart follows. -/
def ResetsHarmlessly (l : MonitorEnv × Label) (m : DataConnectionMonitor) : Prop :=
  ∀ x ∈ polled l m, x.sentSince l.1 < 0 → 0 < x.recvSince l.1 →
    x.noRecvPackets = 0 ∧ x.dataRecoveryState = .requestContextList ∨
      l.1.dataConnected = false ∧ x.dataRecoveryState = .radioStatusRestart

instance : ∀ (h : Steps) (m : DataConnectionMonitor), Decidable (TriggersRightly h m)
  | [], _ => isTrue trivial
  | (l, m) :: _, _ => inferInstanceAs (Decidable (∀ x ∈ polled l m, _))

instance (l : MonitorEnv × Label) (m : DataConnectionMonitor) : Decidable (ResetsHarmlessly l m) :=
  inferInstanceAs (Decidable (∀ x ∈ polled l m, _))

section
variable {env : MonitorEnv} {m m' x : DataConnectionMonitor} {l : MonitorEnv × Label} {h : Steps}

/-! One poll -/

theorem onStallDetectionTimer_eq : m.onStallDetectionTimer env = m.pollOutcome env
    (recoveryTriggerPacket < (m.updateFlowInfo env).noRecvPackets || m.restartsRadio env) := by
  unfold onStallDetectionTimer pollOutcome restartsRadio
  dsimp only
  congr 1
  by_cases hcount : recoveryTriggerPacket < (m.updateFlowInfo env).noRecvPackets
  · simp only [hcount, true_or, if_true, decide_true, Bool.true_or]
  · simp only [hcount, false_or, decide_false, Bool.false_or, Bool.and_eq_true, Bool.not_eq_true',
      decide_eq_true_eq]

/-- Unless the sent counter is lower and the received counter higher, the poll counts as it should. -/
theorem updateFlowInfo_forward (hflow : ¬ (m.sentSince env < 0 ∧ 0 < m.recvSince env)) :
    (m.updateFlowInfo env).noRecvPackets = m.counted env m.noRecvPackets ∧
      (0 < m.recvSince env → (m.updateFlowInfo env).dataRecoveryState = .requestContextList) := by
  unfold sentSince recvSince at hflow
  unfold updateFlowInfo counted sentSince recvSince
  dsimp only
  split_ifs
  all_goals first | omega | exact ⟨rfl, fun _ => by omega⟩ | exact ⟨rfl, fun _ => rfl⟩

theorem updateFlowInfo_backward (hsent : m.sentSince env < 0) :
    (m.updateFlowInfo env).noRecvPackets = m.noRecvPackets ∧
      (m.updateFlowInfo env).dataRecoveryState = m.dataRecoveryState := by
  unfold sentSince at hsent
  unfold updateFlowInfo
  dsimp only
  split_ifs
  · omega
  · omega
  · exact ⟨rfl, rfl⟩

theorem continueStallDetection_recovery :
    m.continueStallDetection.noRecvPackets = m.noRecvPackets ∧
      m.continueStallDetection.dataRecoveryState = m.dataRecoveryState := by
  unfold continueStallDetection
  split_ifs
  · exact ⟨rfl, rfl⟩
  · exact ⟨rfl, rfl⟩

theorem noRecvPackets_pollOutcome (recovers : Bool) :
    (m.pollOutcome env recovers).noRecvPackets =
      if recovers then 0 else (m.updateFlowInfo env).noRecvPackets := by
  unfold pollOutcome
  rw [continueStallDetection_recovery.1]
  cases recovers with
  | true => rfl
  | false => rfl

/-! What else a step does to the count and to the recovery -/

theorem setDataFlowType_recovery (f : CellDataFlowType) :
    (m.setDataFlowType f).noRecvPackets = m.noRecvPackets ∧
      (m.setDataFlowType f).dataRecoveryState = m.dataRecoveryState := by
  unfold setDataFlowType
  split_ifs
  · exact ⟨rfl, rfl⟩
  · exact ⟨rfl, rfl⟩

theorem endNetStatistics_recovery :
    m.endNetStatistics.noRecvPackets = m.noRecvPackets ∧
      m.endNetStatistics.dataRecoveryState = m.dataRecoveryState :=
  setDataFlowType_recovery _

theorem clearAllConnections_recovery (reason : DisConnectionReason) :
    (m.clearAllConnections env reason).noRecvPackets = m.noRecvPackets ∧
      (m.clearAllConnections env reason).dataRecoveryState = m.dataRecoveryState := by
  have hstop : ((m.emit (.clearAllConnections reason)).request .stop).endNetStatistics.noRecvPackets =
      m.noRecvPackets ∧ ((m.emit (.clearAllConnections reason)).request
        .stop).endNetStatistics.dataRecoveryState = m.dataRecoveryState := endNetStatistics_recovery
  unfold clearAllConnections
  dsimp only
  split_ifs
  · exact hstop
  · obtain ⟨hcount, hstate⟩ := setDataFlowType_recovery (m := ((m.emit
      (.clearAllConnections reason)).request .stop).endNetStatistics) .none_
    exact ⟨hcount.trans hstop.1, hstate.trans hstop.2⟩
  · exact ⟨rfl, rfl⟩

/-- From the radio restart a recovery begins again, whether a call is busy or not. -/
theorem handleRecovery_of_radioStatusRestart (hm : m.dataRecoveryState = .radioStatusRestart) :
    (m.handleRecovery env).dataRecoveryState = .requestContextList := by
  unfold handleRecovery
  split_ifs
  · rfl
  · rw [hm]
    exact clearAllConnections_recovery (m := { m with dataRecoveryState := .requestContextList })
      .retryConnection |>.2

theorem noRecvPackets_updateNetTrafficState :
    (m.updateNetTrafficState env).noRecvPackets = m.noRecvPackets := by
  unfold updateNetTrafficState updateDataFlowType
  dsimp only
  split_ifs
  · exact (setDataFlowType_recovery _).1
  · rfl
  · rfl

theorem noRecvPackets_processEvent {e : MonitorEvent} (he : e ≠ .stallDetection) :
    (m.processEvent env e).noRecvPackets = m.noRecvPackets := by
  cases e with
  | runMonitorTask => exact noRecvPackets_updateNetTrafficState
  | stallDetection => exact absurd rfl he
  | getPreferredNetworkMode networkType =>
    cases networkType with
    | none => rfl
    | some networkType => rfl
  | dataCallListChanged => rfl
  | setPreferredNetworkMode => rfl
  | radioOff => rfl
  | radioOn => rfl

theorem noRecvPackets_startStallDetectionTimer :
    m.startStallDetectionTimer.noRecvPackets = m.noRecvPackets := by
  unfold startStallDetectionTimer
  dsimp only
  split_ifs
  · rfl
  · rfl

/-- A step that is no poll and no recovery asked for from outside keeps the count. -/
theorem noRecvPackets_step (hl : l.2 ≠ .isNeedDoRecovery true) (hpoll : polled l m = none)
    (hstep : step l m = some m') : m'.noRecvPackets = m.noRecvPackets := by
  obtain ⟨env, a⟩ := l
  cases a with
  | request r =>
    obtain rfl := Option.some.inj hstep
    cases r with
    | start => exact noRecvPackets_startStallDetectionTimer
    | stop => rfl
  | beginNetStatistics =>
    obtain rfl := Option.some.inj hstep
    exact noRecvPackets_updateNetTrafficState
  | endNetStatistics =>
    obtain rfl := Option.some.inj hstep
    exact endNetStatistics_recovery.1
  | updateCallState state =>
    obtain rfl := Option.some.inj hstep
    rfl
  | setDataFlowType dataFlowType =>
    obtain rfl := Option.some.inj hstep
    exact (setDataFlowType_recovery _).1
  | screenStateChanged isScreenOn =>
    obtain rfl := Option.some.inj hstep
    unfold handleScreenStateChanged
    dsimp only
    split_ifs
    · rfl
    · rfl
    · exact noRecvPackets_startStallDetectionTimer
  | isNeedDoRecovery needDoRecovery =>
    obtain rfl := Option.some.inj hstep
    cases needDoRecovery with
    | true => exact absurd rfl hl
    | false => exact continueStallDetection_recovery.1
  | radio e =>
    simp only [step] at hstep
    split_ifs at hstep
    obtain rfl := Option.some.inj hstep
    rfl
  | deliver i =>
    obtain ⟨p, hp, rfl⟩ := Option.map_eq_some_iff.mp hstep
    have hstall : p.1 ≠ .stallDetection := by
      intro hstall
      simp [polled, hp, hstall] at hpoll
    exact noRecvPackets_processEvent hstall

theorem step_of_polled (hx : polled l m = some x) (hstep : step l m = some m') :
    m' = x.onStallDetectionTimer l.1 := by
  obtain ⟨env, a⟩ := l
  cases a with
  | deliver i =>
    obtain ⟨p, hp, rfl⟩ := Option.map_eq_some_iff.mp hstep
    simp only [polled, hp, Option.bind_some] at hx
    split_ifs at hx with hstall
    obtain rfl := Option.some.inj hx
    rw [hstall]
    rfl
  | _ => cases hx

theorem noRecvPackets_of_polled (hx : polled l m = some x) : x.noRecvPackets = m.noRecvPackets := by
  obtain ⟨env, a⟩ := l
  cases a with
  | deliver i =>
    obtain ⟨p, hp, hx⟩ := Option.bind_eq_some_iff.mp hx
    split_ifs at hx
    obtain rfl := Option.some.inj hx
    rfl
  | _ => cases hx

/-! Runs -/

/-- A poll acts on the packets without an answer exactly when it resets harmlessly. -/
theorem triggersRightly_iff (hcount : m.noRecvPackets = unanswered h)
    (hstep : step l m = some m') : TriggersRightly ((l, m) :: h) m' ↔ ResetsHarmlessly l m := by
  refine forall₂_congr fun x hx => ?_
  rw [step_of_polled hx hstep, ← hcount, ← noRecvPackets_of_polled hx]
  generalize l.1 = env
  by_cases hflow : x.sentSince env < 0 ∧ 0 < x.recvSince env
  · obtain ⟨hsent, hrecv⟩ := hflow
    obtain ⟨hpackets, hstate⟩ := updateFlowInfo_backward hsent
    have hzero : x.counted env x.noRecvPackets = 0 := if_pos hrecv
    simp only [hsent, hrecv, true_implies]
    by_cases hrestart : x.restartsRadio env = true
    · have hrecovers : x.onStallDetectionTimer env = x.pollOutcome env true := by
        rw [onStallDetectionTimer_eq, hrestart, Bool.or_true]
      have htriggered : x.isTriggered env x.noRecvPackets = true := by
        rw [isTriggered, hrestart, Bool.or_true]
      simp only [restartsRadio, Bool.and_eq_true, Bool.not_eq_true', decide_eq_true_eq,
        hstate] at hrestart
      refine iff_of_true ⟨?_, ?_⟩ (.inr hrestart)
      · rw [hrecovers]
        refine ⟨noRecvPackets_pollOutcome true, continueStallDetection_recovery.2.trans ?_⟩
        exact handleRecovery_of_radioStatusRestart (hstate.trans hrestart.2)
      · rw [hrecovers, htriggered]
    · rw [Bool.not_eq_true] at hrestart
      have hidle : x.isTriggered env x.noRecvPackets = false := by
        rw [isTriggered, hrestart, hzero, Bool.or_false]
        rfl
      have hnotrestart : ¬ (env.dataConnected = false ∧
          x.dataRecoveryState = .radioStatusRestart) := by
        rintro ⟨hdown, hst⟩
        rw [restartsRadio, hdown, hstate, hst] at hrestart
        cases hrestart
      rw [hidle, or_iff_left hnotrestart]
      constructor
      · rintro ⟨⟨hreset, hfirst⟩, heq⟩
        rw [heq, noRecvPackets_pollOutcome] at hreset
        rw [heq] at hfirst
        exact ⟨hpackets.symm.trans hreset,
          hstate.symm.trans (continueStallDetection_recovery.2.symm.trans hfirst)⟩
      · rintro ⟨hnone, hfirst⟩
        have hquiet : x.onStallDetectionTimer env = x.pollOutcome env false := by
          rw [onStallDetectionTimer_eq, hpackets, hnone, hrestart]
          rfl
        refine ⟨?_, hquiet⟩
        rw [hquiet]
        refine ⟨(noRecvPackets_pollOutcome false).trans (hpackets.trans hnone), ?_⟩
        exact continueStallDetection_recovery.2.trans (hstate.trans hfirst)
  · obtain ⟨hpackets, hstate⟩ := updateFlowInfo_forward hflow
    have heq : x.onStallDetectionTimer env =
        x.pollOutcome env (x.isTriggered env x.noRecvPackets) := by
      rw [onStallDetectionTimer_eq, hpackets, isTriggered]
    refine iff_of_true ⟨fun hrecv => ?_, heq⟩ fun hsent hrecv => absurd ⟨hsent, hrecv⟩ hflow
    have hzero : x.counted env x.noRecvPackets = 0 := if_pos hrecv
    have hrestart : x.restartsRadio env = false := by
      rw [restartsRadio, hstate hrecv]
      exact Bool.and_false _
    have hidle : x.isTriggered env x.noRecvPackets = false := by
      rw [isTriggered, hrestart, hzero]
      rfl
    rw [heq, hidle]
    refine ⟨(noRecvPackets_pollOutcome false).trans (hpackets.trans hzero), ?_⟩
    exact continueStallDetection_recovery.2.trans (hstate hrecv)

/-- The count of the monitor is that of the run. -/
theorem noRecvPackets_cons (hcount : m.noRecvPackets = unanswered h)
    (hl : l.2 ≠ .isNeedDoRecovery true) (hreset : ResetsHarmlessly l m)
    (hstep : step l m = some m') : m'.noRecvPackets = unanswered ((l, m) :: h) := by
  unfold unanswered
  cases hx : polled l m with
  | none =>
    dsimp only
    rw [if_neg hl, noRecvPackets_step hl hx hstep, hcount]
  | some x =>
    have hright := ((triggersRightly_iff hcount hstep).mpr hreset x hx).2
    dsimp only
    rw [hright, noRecvPackets_pollOutcome, ← hcount, ← noRecvPackets_of_polled hx]
    split_ifs with htriggered
    · rfl
    · by_cases hflow : x.sentSince l.1 < 0 ∧ 0 < x.recvSince l.1
      · obtain ⟨hsent, hrecv⟩ := hflow
        have hzero : x.counted l.1 x.noRecvPackets = 0 := if_pos hrecv
        rw [(updateFlowInfo_backward hsent).1, hzero]
        rcases hreset x hx hsent hrecv with ⟨hnone, -⟩ | ⟨hdown, hst⟩
        · exact hnone
        · refine absurd ?_ htriggered
          rw [isTriggered, restartsRadio, hdown, (updateFlowInfo_backward hsent).2, hst]
          exact Bool.or_true _
      · exact (updateFlowInfo_forward hflow).1

variable {slotId : Int}

theorem noRecvPackets_eq_unanswered (hh : (system slotId).History h m)
    (hext : AtSteps (fun _ l _ => l.2 ≠ .isNeedDoRecovery true) h)
    (hreset : AtSteps (fun _ => ResetsHarmlessly) h) : m.noRecvPackets = unanswered h := by
  induction hh with
  | init hs =>
    obtain rfl := hs
    rfl
  | step hh hstep ih => exact noRecvPackets_cons (ih hext.2 hreset.2) hext.1 hreset.1 hstep

/-- Where no recovery is asked for from outside, the polls of a run trigger rightly exactly when all
of them reset harmlessly. -/
theorem stall_trigger_iff (hh : (system slotId).History h m)
    (hext : AtSteps (fun _ l _ => l.2 ≠ .isNeedDoRecovery true) h) :
    Throughout TriggersRightly h m ↔ AtSteps (fun _ => ResetsHarmlessly) h := by
  induction hh with
  | init hs => exact iff_of_true trivial trivial
  | @step h l m m' hh hstep ih =>
    have hprev := ih hext.2
    constructor
    · rintro ⟨hright, hbefore⟩
      have hafter := hprev.mp hbefore
      exact ⟨(triggersRightly_iff (noRecvPackets_eq_unanswered hh hext.2 hafter) hstep).mp hright,
        hafter⟩
    · rintro ⟨hreset, hafter⟩
      exact ⟨(triggersRightly_iff (noRecvPackets_eq_unanswered hh hext.2 hafter) hstep).mpr hreset,
        hprev.mpr hafter⟩

end

/-! Polls with the given counters of packets sent and received -/

def pollLabels (counters : List (Int × Int)) : List (MonitorEnv × Label) :=
  ({}, .request .start) ::
    counters.map fun (sent, recv) => ({ ifacePackets := some ⟨sent, recv⟩ }, .deliver 0)

/-- Twenty packets without an answer call for a recovery. -/
theorem stall_trigger_unanswered : ∃ h m, (system 0).History h m ∧ m.outputs = [.getPdpContextList] ∧
    Throughout TriggersRightly h m := by
  obtain ⟨h, m, hh, hp⟩ := exists_history (M := system 0) rfl
    (pollLabels [(100, 90), (108, 90), (120, 90)])
    (p := fun h m => m.outputs = [.getPdpContextList] ∧
      AtSteps (fun _ l _ => l.2 ≠ .isNeedDoRecovery true) h ∧
      AtSteps (fun _ => ResetsHarmlessly) h) (by decide +kernel)
  obtain ⟨houtputs, hext, hreset⟩ := of_decide_eq_true hp
  exact ⟨h, m, hh, houtputs, (stall_trigger_iff hh hext).mpr hreset⟩

/-- The counters of an interface made anew restart: packets received do not reset the count, and five
packets without an answer call for a recovery. -/
theorem recreated_interface_triggers : ∃ h m, (system 0).History h m ∧
    AtSteps (fun _ l _ => l.2 ≠ .isNeedDoRecovery true) h ∧ unanswered h = 5 ∧
    m.outputs = [.getPdpContextList] ∧ ¬ Throughout TriggersRightly h m := by
  obtain ⟨h, m, hh, hp⟩ := exists_history (M := system 0) rfl
    (pollLabels [(100, 90), (108, 90), (10, 120), (15, 120)])
    (p := fun h m => AtSteps (fun _ l _ => l.2 ≠ .isNeedDoRecovery true) h ∧ unanswered h = 5 ∧
      m.outputs = [.getPdpContextList] ∧ ¬ TriggersRightly h m) (by decide +kernel)
  obtain ⟨hext, hcount, houtputs, hwrong⟩ := of_decide_eq_true hp
  exact ⟨h, m, hh, hext, hcount, houtputs, fun hall => hwrong hall.last⟩

end DataConnectionMonitor
end CellularData
