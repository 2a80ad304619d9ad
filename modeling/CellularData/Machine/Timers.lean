import CellularData.Machine.System

/-! A machine that waits for the modem has a timer pending, unless the wall clock has gone back. -/
namespace CellularData
open Lib StateMachine

namespace Control

variable {env : MachineEnv} {c c' : Control} {e : MachineEvent} {os : List MachineOutput}
  {q : EventQueue MachineEvent}

/-- The timer of the state is pending under the current connect id. -/
structure Guarded (c : Control) : Prop where
  activating : c.state = some .activating →
    .connectTimeoutCheck c.connectId ∈ c.queue.pending
  disconnecting : c.state = some .disconnecting →
    .disconnectTimeoutCheck c.connectId ∈ c.queue.pending

/-- The next event is not a connect timer that is dropped, nor a request without an APN. -/
structure KeepsTimer (env : MachineEnv) (c : Control) (e : MachineEvent) : Prop where
  elapsed : c.state = some .activating → e = .connectTimeoutCheck c.connectId →
    connectionTaskTime ≤ env.currentTime - c.startTime
  currentApn : c.state = some .inactive → ∀ params, e = .connect params →
    env.currentApn params.apnHolder ≠ none

theorem guarded_of_state {st : ConnState} (h : c.state = some st) (ha : st ≠ .activating)
    (hd : st ≠ .disconnecting) : c.Guarded :=
  ⟨fun h' => absurd (Option.some.inj (h.symm.trans h')) ha,
    fun h' => absurd (Option.some.inj (h.symm.trans h')) hd⟩

theorem Guarded.transition (hg : c.Guarded) (hnext : c.queue.next = some (e, q))
    (ht : Transition env { c with queue := q } e c' os) (hk : KeepsTimer env c e) : c'.Guarded := by
  cases ht with
  | ignore h =>
    refine ⟨fun hst => ?_, fun hst => ?_⟩
    · have hst' : c.state = some .activating := hst
      rcases (EventQueue.mem_pending_next hnext).mp (hg.activating hst') with rfl | hx
      · have helapsed := hk.elapsed hst' rfl
        simp [takes, hst', helapsed] at h
      · exact hx
    · have hst' : c.state = some .disconnecting := hst
      rcases (EventQueue.mem_pending_next hnext).mp (hg.disconnecting hst') with rfl | hx
      · simp [takes, hst'] at h
      · exact hx
  | boot h => exact guarded_of_state rfl (by decide) (by decide)
  | connect h =>
    obtain ⟨startTime, delayed, heq, ⟨-, hnone⟩ | hdelayed⟩ := connect_eq env { c with queue := q } ‹_›
    · exact absurd hnone (hk.currentApn h _ rfl)
    · rw [heq, hdelayed]
      refine ⟨fun _ => ?_, fun hst => by simp [moveTo] at hst⟩
      exact EventQueue.mem_pending.mpr (.inr (.inr (by simp [moveTo])))
  | defer h he =>
    refine ⟨fun hst => ?_, fun hst => ?_⟩
    · rcases (EventQueue.mem_pending_next hnext).mp (hg.activating hst) with rfl | hx
      · cases he
      · exact hx
    · rcases (EventQueue.mem_pending_next hnext).mp (hg.disconnecting hst) with rfl | hx
      · cases he
      · exact hx
  | accept h hflag hs => exact guarded_of_state rfl (by decide) (by decide)
  | fail h => exact guarded_of_state rfl (by decide) (by decide)
  | abandon h => exact guarded_of_state rfl (by decide) (by decide)
  | complete h => exact guarded_of_state h (by decide) (by decide)
  | disconnect h he =>
    refine ⟨fun hst => by simp [disconnect_eq, moveTo] at hst, fun _ => ?_⟩
    exact EventQueue.mem_pending.mpr (.inr (.inr (by simp [disconnect_eq, moveTo])))
  | lose h he => exact guarded_of_state rfl (by decide) (by decide)
  | finish h he => exact guarded_of_state rfl (by decide) (by decide)
  | release h he => exact guarded_of_state rfl (by decide) (by decide)

/-- Posts, expiries and a link that goes down keep the timers. -/
theorem Guarded.of_pending (hg : c.Guarded) (hstate : c'.state = c.state)
    (hid : c'.connectId = c.connectId)
    (hpending : ∀ x ∈ c.queue.pending, x ∈ c'.queue.pending ∨
      CellularDataStateMachine.isDisconnectTimeoutCheck x = true ∧
        .disconnectTimeoutCheck c.connectId ∈ c'.queue.pending) : c'.Guarded := by
  refine ⟨fun h => ?_, fun h => ?_⟩
  · rw [hid]
    rcases hpending _ (hg.activating (hstate ▸ h)) with h | ⟨h, -⟩
    · exact h
    · cases h
  · rw [hid]
    rcases hpending _ (hg.disconnecting (hstate ▸ h)) with h | ⟨-, h⟩
    · exact h
    · exact h

theorem Guarded.post (hg : c.Guarded) (e : MachineEvent) : (c.post e).Guarded :=
  hg.of_pending rfl rfl fun _ hx => .inl (EventQueue.mem_pending_sendEvent.mpr (.inl hx))

theorem Guarded.fire (hg : c.Guarded) {i : Nat} (h : c.queue.expire i = some q) :
    Guarded { c with queue := q } :=
  hg.of_pending rfl rfl fun _ hx => .inl ((EventQueue.mem_pending_expire h).mpr hx)

theorem Guarded.rearm (hg : c.Guarded) : c.rearm.Guarded := by
  refine hg.of_pending rfl rfl fun x hx => ?_
  cases h : CellularDataStateMachine.isDisconnectTimeoutCheck x with
  | true => exact .inr ⟨rfl, EventQueue.mem_pending_sendEventAfter.mpr (.inr rfl)⟩
  | false =>
    exact .inl (EventQueue.mem_pending_sendEventAfter.mpr
      (.inl (EventQueue.mem_pending_removeEvent.mpr ⟨hx, h⟩)))

end Control

namespace CellularDataStateMachine

variable {m m' : CellularDataStateMachine}

/-- A machine that waits for the modem has the timer of its state pending. -/
def TimerPending (m : CellularDataStateMachine) : Prop :=
  (m.isActivatingState = true → .connectTimeoutCheck m.data.connectId ∈ m.queue.pending) ∧
    (m.isDisconnectingState = true → .disconnectTimeoutCheck m.data.connectId ∈ m.queue.pending)

/-- The connect timer is not delivered before its time on the wall clock, and the holder of a
request has an APN. -/
def ClockKept : Input → CellularDataStateMachine → Prop
  | .dispatch env, m =>
    match m.queue.next with
    | some (.connectTimeoutCheck connectId, _) =>
      m.isActivatingState = true → connectId = m.data.connectId →
        connectionTaskTime ≤ env.currentTime - m.data.startTimeConnectTimeoutTask
    | some (.connect params, _) =>
      m.isInactiveState = true → env.currentApn params.apnHolder ≠ none
    | _ => True
  | _, _ => True

theorem guarded_step {l : Input} (hm : m.Settled) (hw : m.control.WellFormed)
    (hg : m.control.Guarded) (hok : ClockKept l m) (h : step l m = some m') :
    m'.control.Guarded := by
  cases l with
  | post e =>
    simp only [step] at h
    split_ifs at h with he
    obtain rfl := Option.some.inj h
    exact hg.post e
  | dispatch env =>
    obtain ⟨⟨e, x⟩, hx, rfl⟩ := Option.map_eq_some_iff.mp h
    obtain ⟨q, hnext, ht, -⟩ := dispatch_refines hm hw hx
    have hnext' : m.queue.next = some (e, q) := hnext
    simp only [ClockKept, hnext'] at hok
    refine hg.transition hnext ht ⟨fun hst he => ?_, fun hst params he => ?_⟩
    · subst he
      exact hok (decide_eq_true ((hm.isState_iff _).mpr hst)) rfl
    · subst he
      exact hok (decide_eq_true ((hm.isState_iff _).mpr hst))
  | fire i =>
    obtain ⟨q, hq, rfl⟩ := fire_eq_some h
    exact hg.fire hq
  | linkStateChanged ifName up =>
    obtain rfl := Option.some.inj h
    rcases m.onInterfaceLinkStateChanged_cases ifName up with heq | heq
    · rw [heq]
      exact hg
    · rw [heq]
      exact hg.rearm
  | updateNetworkInfo env info =>
    obtain rfl := Option.some.inj h
    have hu : Unchanged m (m.updateNetworkInfoFrom env info) := unchanged_updateNetworkInfoFrom info
    exact hu.control ▸ hg

/-- Neither state in which a machine waits for the modem can be held for ever. -/
theorem timerPending_of_clockKept (h : system.ReachableWhen ClockKept m) : m.TimerPending := by
  have hinv : m.control.Guarded := by
    refine h.invariant (P := fun m => m.control.Guarded) ?_ ?_
    · rintro _ rfl
      exact ⟨fun h => (nomatch h), fun h => (nomatch h)⟩
    · intro l m m' hr hg hok hstep
      obtain ⟨hm, hw⟩ := reachable_wellFormed hr.reachable
      exact guarded_step hm hw hg hok hstep
  obtain ⟨hm, -⟩ := reachable_wellFormed h.reachable
  refine ⟨fun hst => ?_, fun hst => ?_⟩
  · exact hinv.activating ((hm.isState_iff _).mp (of_decide_eq_true hst))
  · exact hinv.disconnecting ((hm.isState_iff _).mp (of_decide_eq_true hst))

/-! A clock that is set back while the modem does not answer -/

def apnEnv (currentTime : Int) : MachineEnv where
  currentTime
  currentApn _ := some {}

/-- The machine has asked the modem for a data call. -/
def connectInputs : List Input :=
  [.dispatch (apnEnv 0), .post (.connect ⟨.default_, 0, .other 0, true, false, false⟩),
    .dispatch (apnEnv 300000)]

theorem timerPending_connecting : ∃ m, system.run connectInputs create = some m ∧
    m.isActivatingState = true ∧ m.TimerPending := by
  have hinit : system.ReachableWhen ClockKept create := .init rfl
  have hboot := hinit.step (l := Input.dispatch (apnEnv 0)) True.intro rfl
  have hpost := hboot.step (l := Input.post (.connect ⟨.default_, 0, .other 0, true, false, false⟩))
    True.intro rfl
  have hconnect := hpost.step (l := Input.dispatch (apnEnv 300000))
    (fun _ => Option.some_ne_none _) rfl
  exact ⟨_, rfl, by decide, timerPending_of_clockKept hconnect⟩

/-- The only timer is dropped when the clock has gone back since the request. -/
theorem clock_set_back_leaves_no_timer : ∃ m,
    system.run (connectInputs ++ [.fire 0, .dispatch (apnEnv 200000)]) create = some m ∧
      m.isActivatingState = true ∧ m.queue.pending = [] ∧ ¬ m.TimerPending := by
  refine ⟨_, rfl, by decide, by decide, fun h => ?_⟩
  have hmem := h.1 (by decide)
  exact absurd hmem (by decide)

end CellularDataStateMachine
end CellularData
