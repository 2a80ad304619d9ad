import Mathlib.Data.List.Perm.Basic
import Mathlib.Tactic.SplitIfs
import CellularData.Monitor.Model

/-! Stall detection polls while it is enabled; a change of the screen enables it whatever the
connection manager asked for. -/
namespace CellularData
namespace DataConnectionMonitor
open Lib

/-- The stall detection events that are pending. -/
def stallTimers (m : DataConnectionMonitor) : Nat := m.events.countP fun p => p.1 = .stallDetection

def Polling (m : DataConnectionMonitor) : Prop :=
  m.stallTimers = if m.stallDetectionEnabled then 1 else 0

/-- At most one event is pending, and one is exactly when the last request was a start. -/
def Disciplined (m : DataConnectionMonitor) : Prop :=
  m.stallTimers ≤ 1 ∧ (0 < m.stallTimers ↔ m.stallRequest = some .start)

/-- A screen event that makes stall detection begin again. -/
def Restarts (l : MonitorEnv × Label) (m : DataConnectionMonitor) : Prop :=
  (m.slotId = l.1.defaultCellularDataSlotId ∨ l.1.isVsimEnabled = true) ∧
    l.2 = .screenStateChanged !m.isScreenOn

/-- Stall detection begins again although the connection manager has not asked for it. -/
def Revives (l : MonitorEnv × Label) (m : DataConnectionMonitor) : Prop :=
  Restarts l m ∧ m.stallRequest ≠ some .start

/-- What stall detection depends on is the same. -/
structure Keeps (m m' : DataConnectionMonitor) : Prop where
  timers : m'.stallTimers = m.stallTimers
  enabled : m'.stallDetectionEnabled = m.stallDetectionEnabled
  request : m'.stallRequest = m.stallRequest

/-- The connection manager has just stopped stall detection. -/
structure Stopped (m : DataConnectionMonitor) : Prop where
  timers : m.stallTimers = 0
  enabled : m.stallDetectionEnabled = false
  request : m.stallRequest = some .stop

section
variable {env : MonitorEnv} {m m' m'' : DataConnectionMonitor} {e : MonitorEvent}

/-! Operations -/

theorem Keeps.refl (m : DataConnectionMonitor) : Keeps m m := ⟨rfl, rfl, rfl⟩

theorem Keeps.trans (h : Keeps m m') (h' : Keeps m' m'') : Keeps m m'' :=
  ⟨h'.timers.trans h.timers, h'.enabled.trans h.enabled, h'.request.trans h.request⟩

theorem Stopped.keeps (h : Stopped m) (hk : Keeps m m') : Stopped m' :=
  ⟨hk.timers.trans h.timers, hk.enabled.trans h.enabled, hk.request.trans h.request⟩

theorem hasInnerEvent_stallDetection :
    m.hasInnerEvent .stallDetection = true ↔ 0 < m.stallTimers := by
  simp only [hasInnerEvent, stallTimers, List.any_eq_true, List.countP_pos_iff]

theorem stallTimers_sendEvent_self {d : Int} :
    (m.sendEvent .stallDetection d).stallTimers = m.stallTimers + 1 := by
  simp [sendEvent, stallTimers]

theorem sendEvent_keeps {d : Int} (he : e ≠ .stallDetection) : Keeps m (m.sendEvent e d) := by
  refine ⟨?_, rfl, rfl⟩
  simp [sendEvent, stallTimers, he]

theorem removeEvent_keeps (he : e ≠ .stallDetection) : Keeps m (m.removeEvent e) := by
  refine ⟨?_, rfl, rfl⟩
  simp only [removeEvent, stallTimers, List.countP_filter]
  apply List.countP_congr
  intro p _
  by_cases hp : p.1 = .stallDetection
  · simp [hp, he.symm]
  · simp [hp]

theorem stallTimers_removeEvent_self : (m.removeEvent .stallDetection).stallTimers = 0 := by
  simp [removeEvent, stallTimers]

theorem emit_keeps (o : MonitorOutput) : Keeps m (m.emit o) := ⟨rfl, rfl, rfl⟩

theorem setDataFlowType_keeps (f : CellDataFlowType) : Keeps m (m.setDataFlowType f) := by
  unfold setDataFlowType
  split_ifs
  · exact ⟨rfl, rfl, rfl⟩
  · exact .refl m

theorem updateDataFlowType_keeps : Keeps m (m.updateDataFlowType env) := by
  unfold updateDataFlowType
  dsimp only
  have h : Keeps m { m with trafficManager := m.trafficManager.updatePacketData env } :=
    ⟨rfl, rfl, rfl⟩
  split_ifs
  · exact h.trans (setDataFlowType_keeps _)
  · exact h

theorem updateNetTrafficState_keeps : Keeps m (m.updateNetTrafficState env) := by
  unfold updateNetTrafficState
  split_ifs
  · exact updateDataFlowType_keeps.trans (sendEvent_keeps (by decide))
  · exact .refl m

theorem beginNetStatistics_keeps : Keeps m (m.beginNetStatistics env) := by
  have h : Keeps m { m with updateNetStat := true } := ⟨rfl, rfl, rfl⟩
  exact h.trans updateNetTrafficState_keeps

theorem endNetStatistics_keeps : Keeps m m.endNetStatistics := by
  have hr : Keeps m (m.removeEvent .runMonitorTask) := removeEvent_keeps (by decide)
  have h : Keeps m { m.removeEvent .runMonitorTask with updateNetStat := false } :=
    ⟨hr.timers, hr.enabled, hr.request⟩
  exact h.trans (setDataFlowType_keeps _)

theorem reregisterNetwork_keeps : Keeps m (m.reregisterNetwork env) := by
  unfold reregisterNetwork
  split_ifs
  · exact .refl m
  · exact emit_keeps _

theorem setPreferredNetworkPara_keeps (networkType : Option Int) :
    Keeps m (m.setPreferredNetworkPara networkType) := by
  cases networkType with
  | none => exact .refl m
  | some networkType => exact emit_keeps _

theorem updateFlowInfo_keeps : Keeps m (m.updateFlowInfo env) := by
  unfold updateFlowInfo
  dsimp only
  split_ifs <;> exact ⟨rfl, rfl, rfl⟩

theorem stop_stopped : Stopped (m.request .stop) :=
  ⟨stallTimers_removeEvent_self, rfl, rfl⟩

variable (env m) in
/-- The recovery clears all connections, and with them it stops stall detection. -/
theorem clearAllConnections_cases (reason : DisConnectionReason) :
    Keeps m (m.clearAllConnections env reason) ∨ Stopped (m.clearAllConnections env reason) := by
  unfold clearAllConnections
  dsimp only
  split_ifs
  · exact .inr (stop_stopped.keeps endNetStatistics_keeps)
  · exact .inr (stop_stopped.keeps (endNetStatistics_keeps.trans (setDataFlowType_keeps _)))
  · exact .inl (emit_keeps _)

variable (env m) in
theorem handleRecovery_cases :
    Keeps m (m.handleRecovery env) ∨ Stopped (m.handleRecovery env) := by
  have hstate : ∀ r : RecoveryState, Keeps m { m with dataRecoveryState := r } :=
    fun _ => ⟨rfl, rfl, rfl⟩
  unfold handleRecovery
  split_ifs
  · exact .inl (hstate _)
  split
  · exact .inl ((hstate _).trans (emit_keeps _))
  · rcases clearAllConnections_cases env { m with dataRecoveryState := .reregisterNetwork }
      .retryConnection with h | h
    · exact .inl ((hstate _).trans h)
    · exact .inr h
  · exact .inl ((hstate _).trans reregisterNetwork_keeps)
  · rcases clearAllConnections_cases env { m with dataRecoveryState := .requestContextList }
      .retryConnection with h | h
    · exact .inl ((hstate _).trans (h.trans (emit_keeps _)))
    · exact .inr (h.keeps (emit_keeps _))

/-! Beginning, going on and screen events -/

theorem startStallDetectionTimer_frame :
    m.startStallDetectionTimer.stallDetectionEnabled = true ∧
      m.startStallDetectionTimer.stallRequest = m.stallRequest := by
  unfold startStallDetectionTimer
  dsimp only
  split_ifs <;> exact ⟨rfl, rfl⟩

/-- An event is sent only when none is pending. -/
theorem startStallDetectionTimer_polling (h : m.stallTimers ≤ 1) :
    Polling m.startStallDetectionTimer := by
  unfold Polling
  rw [startStallDetectionTimer_frame.1, if_pos rfl]
  unfold startStallDetectionTimer
  have heq : stallTimers { m with stallDetectionEnabled := true } = m.stallTimers := rfl
  dsimp only
  split_ifs with hp
  · rw [stallTimers_sendEvent_self]
    rw [Bool.not_eq_true', ← Bool.not_eq_true, hasInnerEvent_stallDetection] at hp
    omega
  · rw [Bool.not_eq_true', Bool.not_eq_false, hasInnerEvent_stallDetection] at hp
    omega

theorem continueStallDetection_frame :
    m.continueStallDetection.stallDetectionEnabled = m.stallDetectionEnabled ∧
      m.continueStallDetection.stallRequest = m.stallRequest := by
  unfold continueStallDetection
  split_ifs <;> exact ⟨rfl, rfl⟩

theorem continueStallDetection_polling
    (h : m.stallTimers ≤ if m.stallDetectionEnabled then 1 else 0) :
    Polling m.continueStallDetection := by
  unfold Polling
  rw [continueStallDetection_frame.1]
  unfold continueStallDetection
  split_ifs with hp he he
  · rw [stallTimers_sendEvent_self]
    rw [Bool.and_eq_true, Bool.not_eq_true', ← Bool.not_eq_true,
      hasInnerEvent_stallDetection] at hp
    omega
  · rw [Bool.and_eq_true, Bool.not_eq_true', ← Bool.not_eq_true,
      hasInnerEvent_stallDetection] at hp
    exact absurd hp.2 he
  · rw [he, Bool.and_true, Bool.not_eq_true', Bool.not_eq_false,
      hasInnerEvent_stallDetection] at hp
    rw [if_pos he] at h
    omega
  · rw [if_neg he] at h
    omega

theorem Polling.keeps (h : Polling m) (hk : Keeps m m') : Polling m' := by
  unfold Polling
  rw [hk.timers, hk.enabled]
  exact h

theorem Stopped.polling (h : Stopped m) : Polling m := by
  unfold Polling
  rw [h.timers, h.enabled]
  rfl

/-- What a step makes of stall detection: nothing changes, the connection manager has stopped or
started it, or a screen event starts it. -/
inductive Outcome (l : MonitorEnv × Label) (m m' : DataConnectionMonitor) : Prop
  | same (henabled : m'.stallDetectionEnabled = m.stallDetectionEnabled)
      (hrequest : m'.stallRequest = m.stallRequest) (hl : ¬ Restarts l m)
  | stopped (henabled : m'.stallDetectionEnabled = false)
      (hrequest : m'.stallRequest = some .stop) (hl : ¬ Restarts l m)
  | started (henabled : m'.stallDetectionEnabled = true)
      (hrequest : m'.stallRequest = some .start) (hl : ¬ Restarts l m)
  | restarted (henabled : m'.stallDetectionEnabled = true)
      (hrequest : m'.stallRequest = m.stallRequest) (hl : Restarts l m)

variable {l : MonitorEnv × Label}

theorem Keeps.outcome (hk : Keeps m m') (hl : ¬ Restarts l m) : Outcome l m m' :=
  .same hk.enabled hk.request hl

/-- A detection or a recovery ends by going on with polling. -/
theorem continueStallDetection_outcome (hl : ¬ Restarts l m)
    (hk : Keeps m m' ∨ Stopped m')
    (ht : m.stallTimers ≤ if m.stallDetectionEnabled then 1 else 0) :
    Polling m'.continueStallDetection ∧ Outcome l m m'.continueStallDetection := by
  obtain ⟨he, hr⟩ := continueStallDetection_frame (m := m')
  rcases hk with hk | hs
  · refine ⟨continueStallDetection_polling ?_, .same (he.trans hk.enabled) (hr.trans hk.request) hl⟩
    rw [hk.timers, hk.enabled]
    exact ht
  · refine ⟨continueStallDetection_polling ?_, .stopped (he.trans hs.enabled)
      (hr.trans hs.request) hl⟩
    rw [hs.timers]
    exact Nat.zero_le _

theorem handleScreenStateChanged_outcome (hp : Polling m) (isScreenOn : Bool) :
    Polling (m.handleScreenStateChanged env isScreenOn) ∧
      Outcome (env, .screenStateChanged isScreenOn) m
        (m.handleScreenStateChanged env isScreenOn) := by
  have hscreen : m.isScreenOn ≠ isScreenOn → isScreenOn = !m.isScreenOn := by
    cases isScreenOn <;> cases m.isScreenOn <;> simp
  unfold handleScreenStateChanged
  dsimp only
  split_ifs with hsame hother
  · refine ⟨hp, .same rfl rfl ?_⟩
    rintro ⟨-, hl⟩
    obtain rfl := Label.screenStateChanged.inj hl
    cases h : m.isScreenOn <;> simp [h] at hsame
  · refine ⟨hp, .same rfl rfl ?_⟩
    rintro ⟨hslot | hvsim, -⟩
    · exact hother.1 hslot
    · have hvsim : env.isVsimEnabled = true := hvsim
      simp [hvsim] at hother
  · have hz : ({ m with isScreenOn } : DataConnectionMonitor).stopStallDetectionTimer.stallTimers
        = 0 := stallTimers_removeEvent_self
    obtain ⟨he, hr⟩ := startStallDetectionTimer_frame
      (m := ({ m with isScreenOn } : DataConnectionMonitor).stopStallDetectionTimer)
    refine ⟨startStallDetectionTimer_polling (by omega), .restarted he hr ⟨?_, ?_⟩⟩
    · by_cases hslot : m.slotId = env.defaultCellularDataSlotId
      · exact .inl hslot
      · right
        cases hvsim : env.isVsimEnabled with
        | true => rfl
        | false => exact absurd ⟨hslot, by simp [hvsim]⟩ hother
    · rw [← hscreen hsame]

/-- The event delivered is no longer pending. -/
theorem stallTimers_eraseIdx {i : Nat} {p : MonitorEvent × Int} (h : m.events[i]? = some p) :
    stallTimers { m with events := m.events.eraseIdx i } + (if p.1 = .stallDetection then 1 else 0) =
      m.stallTimers := by
  obtain ⟨hi, rfl⟩ := List.getElem?_eq_some_iff.mp h
  have hperm := (List.getElem_cons_eraseIdx_perm hi).countP_eq (fun p => p.1 = .stallDetection)
  rw [List.countP_cons] at hperm
  simpa [stallTimers] using hperm

theorem Outcome.of_events {es : List (MonitorEvent × Int)}
    (h : Outcome l { m with events := es } m') : Outcome l m m' := by
  cases h with
  | same he hr hl => exact .same he hr hl
  | stopped he hr hl => exact .stopped he hr hl
  | started he hr hl => exact .started he hr hl
  | restarted he hr hl => exact .restarted he hr hl

variable (env) in
theorem onStallDetectionTimer_outcome (hl : ¬ Restarts l m)
    (ht : m.stallTimers ≤ if m.stallDetectionEnabled then 1 else 0) :
    Polling (m.onStallDetectionTimer env) ∧ Outcome l m (m.onStallDetectionTimer env) := by
  apply continueStallDetection_outcome hl _ ht
  have hf : Keeps m (m.updateFlowInfo env) := updateFlowInfo_keeps
  have hn : ∀ x : DataConnectionMonitor, Keeps x { x with noRecvPackets := 0 } :=
    fun _ => ⟨rfl, rfl, rfl⟩
  split_ifs
  · rcases handleRecovery_cases env (m.updateFlowInfo env) with hk | hs
    · exact .inl ((hf.trans hk).trans (hn _))
    · exact .inr (hs.keeps (hn _))
  · exact .inl hf

theorem isNeedDoRecovery_outcome (hl : ¬ Restarts l m) (hp : Polling m) (needDoRecovery : Bool) :
    Polling (m.isNeedDoRecovery env needDoRecovery) ∧
      Outcome l m (m.isNeedDoRecovery env needDoRecovery) := by
  apply continueStallDetection_outcome hl _ (Nat.le_of_eq hp)
  split_ifs
  · exact handleRecovery_cases env m
  · exact .inl ⟨rfl, rfl, rfl⟩

/-- All events but the one of stall detection leave it alone. -/
theorem processEvent_keeps (env) (he : e ≠ .stallDetection) : Keeps m (m.processEvent env e) := by
  cases e with
  | runMonitorTask => exact updateNetTrafficState_keeps
  | stallDetection => exact absurd rfl he
  | dataCallListChanged => exact .refl m
  | getPreferredNetworkMode networkType => exact setPreferredNetworkPara_keeps networkType
  | setPreferredNetworkMode => exact .refl m
  | radioOff => exact emit_keeps _
  | radioOn => exact .refl m

theorem deliver_outcome {i : Nat} {p : MonitorEvent × Int} (hp : Polling m)
    (h : m.events[i]? = some p) (hl : ¬ Restarts l m) :
    Polling ({ m with events := m.events.eraseIdx i }.processEvent env p.1) ∧
      Outcome l m ({ m with events := m.events.eraseIdx i }.processEvent env p.1) := by
  have ht := stallTimers_eraseIdx h
  by_cases hstall : p.1 = .stallDetection
  · rw [if_pos hstall] at ht
    rw [hstall]
    have hle : stallTimers { m with events := m.events.eraseIdx i } ≤
        if m.stallDetectionEnabled then 1 else 0 := by
      rw [← hp]
      omega
    obtain ⟨hp', ho⟩ := onStallDetectionTimer_outcome (l := l) env
      (m := { m with events := m.events.eraseIdx i }) hl hle
    exact ⟨hp', ho.of_events⟩
  · rw [if_neg hstall] at ht
    have hk : Keeps m { m with events := m.events.eraseIdx i } := ⟨ht, rfl, rfl⟩
    have hk' := hk.trans (processEvent_keeps env hstall)
    exact ⟨hp.keeps hk', hk'.outcome hl⟩

theorem step_outcome (hp : Polling m) (hstep : step l m = some m') :
    Polling m' ∧ Outcome l m m' := by
  have hkeep : Keeps m m' → ¬ Restarts l m → Polling m' ∧ Outcome l m m' :=
    fun hk hl => ⟨hp.keeps hk, hk.outcome hl⟩
  have hother : (∀ b, l.2 ≠ .screenStateChanged b) → ¬ Restarts l m := fun hb hr => hb _ hr.2
  obtain ⟨env, a⟩ := l
  cases a with
  | request r =>
    obtain rfl := Option.some.inj hstep
    have hl : ¬ Restarts (env, .request r) m := hother (by simp)
    cases r with
    | start =>
      obtain ⟨he, hr⟩ := startStallDetectionTimer_frame
        (m := { m with stallRequest := some .start })
      have hle : m.stallTimers ≤ 1 := by
        rw [hp]
        split_ifs <;> omega
      exact ⟨startStallDetectionTimer_polling hle, .started he hr hl⟩
    | stop => exact ⟨stop_stopped.polling, .stopped rfl rfl hl⟩
  | beginNetStatistics =>
    obtain rfl := Option.some.inj hstep
    exact hkeep beginNetStatistics_keeps (hother (by simp))
  | endNetStatistics =>
    obtain rfl := Option.some.inj hstep
    exact hkeep endNetStatistics_keeps (hother (by simp))
  | updateCallState state =>
    obtain rfl := Option.some.inj hstep
    exact hkeep ⟨rfl, rfl, rfl⟩ (hother (by simp))
  | setDataFlowType dataFlowType =>
    obtain rfl := Option.some.inj hstep
    exact hkeep (setDataFlowType_keeps _) (hother (by simp))
  | screenStateChanged isScreenOn =>
    obtain rfl := Option.some.inj hstep
    exact handleScreenStateChanged_outcome hp isScreenOn
  | isNeedDoRecovery needDoRecovery =>
    obtain rfl := Option.some.inj hstep
    exact isNeedDoRecovery_outcome (hother (by simp)) hp needDoRecovery
  | radio e =>
    simp only [step] at hstep
    split_ifs at hstep with he
    obtain rfl := Option.some.inj hstep
    refine hkeep (sendEvent_keeps ?_) (hother (by simp))
    rintro rfl
    exact he rfl
  | deliver i =>
    obtain ⟨p, h, rfl⟩ := Option.map_eq_some_iff.mp hstep
    exact deliver_outcome hp h (hother (by simp))

/-! Runs -/

variable {slotId : Int} {h : List ((MonitorEnv × Label) × DataConnectionMonitor)}

theorem reachable_polling (hm : (system slotId).Reachable m) : Polling m := by
  refine hm.invariant (P := Polling) ?_ ?_
  · rintro _ rfl
    rfl
  · rintro l m m' - hp hstep
    exact (step_outcome hp hstep).1

/-- With the number of events settled, the discipline is that detection is enabled on request. -/
theorem Polling.disciplined_iff (hp : Polling m) :
    Disciplined m ↔ (m.stallDetectionEnabled = true ↔ m.stallRequest = some .start) := by
  unfold Disciplined
  rw [hp]
  cases m.stallDetectionEnabled <;> simp

/-- A step keeps the discipline exactly when it does not revive stall detection. -/
theorem step_disciplined_iff (hp : Polling m) (hd : Disciplined m) (hstep : step l m = some m') :
    Disciplined m' ↔ ¬ Revives l m := by
  obtain ⟨hp', ho⟩ := step_outcome hp hstep
  rw [hp.disciplined_iff] at hd
  rw [hp'.disciplined_iff]
  cases ho with
  | same he hr hl =>
    rw [he, hr]
    exact ⟨fun _ hrev => hl hrev.1, fun _ => hd⟩
  | stopped he hr hl =>
    rw [he, hr]
    exact ⟨fun _ hrev => hl hrev.1, fun _ => by simp⟩
  | started he hr hl =>
    rw [he, hr]
    exact ⟨fun _ hrev => hl hrev.1, fun _ => by simp⟩
  | restarted he hr hl =>
    rw [he, hr]
    constructor
    · intro hstart hrev
      exact hrev.2 (hstart.mp rfl)
    · intro hrev
      have hstart : m.stallRequest = some .start := by
        by_cases hs : m.stallRequest = some .start
        · exact hs
        · exact absurd ⟨hl, hs⟩ hrev
      exact ⟨fun _ => hstart, fun _ => rfl⟩

/-- The discipline holds after each step of a run exactly when no screen event of the run revives
stall detection that the connection manager has stopped or not yet started. -/
theorem stall_timer_discipline (hh : (system slotId).History h m) :
    (∀ x ∈ m :: h.map Prod.snd, Disciplined x) ↔ ∀ p ∈ h, ¬ Revives p.1 p.2 := by
  induction hh with
  | init hs =>
    obtain rfl := hs
    simp [Disciplined, stallTimers]
  | step hh hstep ih =>
    have hp := reachable_polling hh.reachable
    simp only [List.map_cons, List.forall_mem_cons] at ih ⊢
    constructor
    · rintro ⟨hd', hd, hrest⟩
      exact ⟨(step_disciplined_iff hp hd hstep).mp hd', ih.mp ⟨hd, hrest⟩⟩
    · rintro ⟨hrev, hrest⟩
      obtain ⟨hd, hrest⟩ := ih.mpr hrest
      exact ⟨(step_disciplined_iff hp hd hstep).mpr hrev, hd, hrest⟩

end

theorem stall_timer_discipline_screen_on :
    ∃ h m, (system 0).History h m ∧ m.isScreenOn = true ∧
      ∀ x ∈ m :: h.map Prod.snd, Disciplined x := by
  let m : DataConnectionMonitor := { slotId := 0 }
  have hh : (system 0).History
      [(({}, .screenStateChanged true), m.request .start), (({}, .request .start), m)]
      ((m.request .start).handleScreenStateChanged {} true) :=
    .step (.step (.init rfl) rfl) rfl
  refine ⟨_, _, hh, by decide, (stall_timer_discipline hh).mpr ?_⟩
  simp only [List.forall_mem_cons]
  refine ⟨fun hr => hr.2 rfl, fun hr => ?_, by simp⟩
  cases hr.1.2

/-- The connection goes down, and the screen that turns on revives the polling. -/
theorem screen_revives_polling :
    ∃ h m, (system 0).History h m ∧ m.stallRequest = some .stop ∧ m.stallTimers = 1 ∧
      ¬ Disciplined m := by
  obtain ⟨h, m, hh, hp⟩ := TransitionSystem.exists_history (M := system 0) rfl
    [({}, .request .start), ({}, .request .stop), ({}, .screenStateChanged true)]
    (p := fun _ m => m.stallRequest = some .stop && m.stallTimers = 1) (by decide +kernel)
  simp only [Bool.and_eq_true, decide_eq_true_eq] at hp
  refine ⟨h, m, hh, hp.1, hp.2, fun hd => ?_⟩
  have hstart : m.stallRequest = some .start := hd.2.mp (by omega)
  rw [hp.1] at hstart
  cases hstart

end DataConnectionMonitor
end CellularData
