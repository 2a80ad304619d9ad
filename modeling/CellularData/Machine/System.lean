import CellularData.Lib.TransitionSystem
import CellularData.Machine.WellFormed

/-! A single connection machine as a transition system: anything may be sent to it at any time. -/
namespace CellularData
open Lib StateMachine

namespace CellularDataStateMachine

variable {env : MachineEnv} {m m' : CellularDataStateMachine} {e : MachineEvent}

/-- What the handler, the modem, the net manager and the timers do to one machine. -/
inductive Input
  | post (e : MachineEvent)
  | dispatch (env : MachineEnv)
  | fire (i : Nat)
  | linkStateChanged (ifName : String) (up : Bool)
  | updateNetworkInfo (env : MachineEnv) (info : SetupDataCallResultInfo)

def step : Input → CellularDataStateMachine → Option CellularDataStateMachine
  | .post e, m => if e.isMessage then some (m.post e) else none
  | .dispatch env, m => (m.dispatch env).map fun r => r.2.clearOutbox
  | .fire i, m => m.fire i
  | .linkStateChanged ifName up, m => some (m.onInterfaceLinkStateChanged ifName up)
  | .updateNetworkInfo env info, m => some (m.updateNetworkInfoFrom env info).clearOutbox

def system : TransitionSystem CellularDataStateMachine Input where
  init m := m = create
  step := step

/-! Every step refines a step of the automaton -/

theorem Settled.withQueue (hm : m.Settled) (queue : EventQueue MachineEvent) :
    Settled { m with queue } := { hm with }

theorem Settled.unchanged (hm : m.Settled) (h : Unchanged m m') : m'.clearOutbox.Settled where
  originalState := h.originalState.trans hm.originalState
  destState := h.destState.trans (hm.destState.trans (congrArg Control.state h.control).symm)
  currentState := h.currentState.trans (hm.currentState.trans (congrArg Control.state h.control).symm)
  notQuit := h.isQuit.trans hm.notQuit
  leaf := (congrArg Control.state h.control).trans_ne hm.leaf
  apnId := (congrArg Control.apnId h.control).trans_ne hm.apnId
  deActiveApnTypeId := h.deActiveApnTypeId.trans hm.deActiveApnTypeId
  outbox := rfl

theorem Settled.isState_iff (hm : m.Settled) (st : ConnState) :
    m.data.currentState = some st ↔ m.control.state = some st := by
  rw [hm.currentState]
  rfl

theorem dispatch_eq_some (h : m.dispatch env = some (e, m')) :
    ∃ q, m.queue.next = some (e, q) ∧ m' = process env { m with queue := q } e := by
  unfold dispatch EventHandler.dispatch at h
  cases hnext : m.queue.next with
  | none => simp [hnext] at h
  | some p =>
    obtain ⟨x, q⟩ := p
    rw [hnext] at h
    obtain ⟨rfl, rfl⟩ := Prod.mk.inj (Option.some.inj h)
    exact ⟨q, rfl, rfl⟩

/-- An event of the queue never stops a machine, and only a new machine is initialised. -/
theorem next_legal {c : Control} {q : EventQueue MachineEvent} (hw : c.WellFormed)
    (hnext : c.queue.next = some (e, q)) :
    e ≠ .stateMachineQuit ∧ (e = .stateMachineInit → c.state = none) := by
  obtain ⟨hfrom, -⟩ := Control.next_cases hnext
  rcases hfrom with himm | ⟨hready, -, -⟩
  · by_cases hn : c.state = none
    · rw [hw.boot hn] at himm
      obtain rfl := List.mem_singleton.mp himm
      exact ⟨by decide, fun _ => hn⟩
    · rcases hw.immediate hn e himm with h | ⟨info, rfl, -⟩
      · exact ⟨(by rintro rfl; cases h), (by rintro rfl; cases h)⟩
      · exact ⟨by simp, by simp⟩
  · rcases hw.ready e hready with h | h
    · exact ⟨(by rintro rfl; cases h), (by rintro rfl; cases h)⟩
    · exact ⟨(by rintro rfl; cases h), (by rintro rfl; cases h)⟩

theorem dispatch_refines (hm : m.Settled) (hw : m.control.WellFormed)
    (h : m.dispatch env = some (e, m')) :
    ∃ q, m.control.queue.next = some (e, q) ∧
      Control.Transition env { m.control with queue := q } e m'.control m'.signals ∧
      m'.clearOutbox.Settled := by
  obtain ⟨q, hnext, rfl⟩ := dispatch_eq_some h
  obtain ⟨hquit, hinit⟩ := next_legal hw hnext
  have hr : Refines (process env { m with queue := q } e) _ :=
    process_refines (hm.withQueue q) hquit hinit
  refine ⟨q, hnext, ?_, hr.settled⟩
  rw [hr.control, hr.signals]
  exact Control.process_transition hm.leaf e

theorem fire_eq_some {i : Nat} (h : m.fire i = some m') :
    ∃ q, m.queue.expire i = some q ∧ m' = { m with queue := q } := by
  obtain ⟨q, hq, rfl⟩ := Option.map_eq_some_iff.mp h
  exact ⟨q, hq, rfl⟩

/-- A change of the interface sets the disconnect timer again or does nothing. -/
theorem onInterfaceLinkStateChanged_cases (ifName : String) (up : Bool) :
    m.onInterfaceLinkStateChanged ifName up = m ∨
      m.onInterfaceLinkStateChanged ifName up =
        { m with
          queue := (m.queue.removeEvent isDisconnectTimeoutCheck).sendEventAfter
            (.disconnectTimeoutCheck m.data.connectId) interfaceDownTimeout } := by
  unfold onInterfaceLinkStateChanged
  split_ifs
  · exact .inl rfl
  · exact .inr rfl
  · exact .inl rfl

/-- The outbox is empty between steps, and the automaton does not see what is taken from it. -/
theorem control_clearOutbox : m.clearOutbox.control = m.control := rfl

theorem step_refines {l : Input} (hm : m.Settled) (hw : m.control.WellFormed)
    (h : step l m = some m') :
    m'.Settled ∧ (m'.control = m.control ∨ Control.Move m.control m'.control) := by
  cases l with
  | post e =>
    simp only [step] at h
    split_ifs at h with he
    obtain rfl := Option.some.inj h
    exact ⟨hm.withQueue _, .inr (.post he)⟩
  | dispatch env =>
    obtain ⟨⟨e, x⟩, hx, rfl⟩ := Option.map_eq_some_iff.mp h
    obtain ⟨q, hnext, ht, hs⟩ := dispatch_refines hm hw hx
    exact ⟨hs, .inr (.dispatch hnext ht)⟩
  | fire i =>
    obtain ⟨q, hq, rfl⟩ := fire_eq_some h
    exact ⟨hm.withQueue _, .inr (.fire hq)⟩
  | linkStateChanged ifName up =>
    obtain rfl := Option.some.inj h
    rcases m.onInterfaceLinkStateChanged_cases ifName up with heq | heq
    · rw [heq]
      exact ⟨hm, .inl rfl⟩
    · rw [heq]
      exact ⟨hm.withQueue _, .inr .rearm⟩
  | updateNetworkInfo env info =>
    obtain rfl := Option.some.inj h
    have hu : Unchanged m (m.updateNetworkInfoFrom env info) := unchanged_updateNetworkInfoFrom info
    exact ⟨hm.unchanged hu, .inl hu.control⟩

theorem reachable_wellFormed (h : system.Reachable m) : m.Settled ∧ m.control.WellFormed := by
  refine h.invariant (P := fun m => m.Settled ∧ m.control.WellFormed) ?_ ?_
  · rintro _ rfl
    exact ⟨create_settled, Control.create_wellFormed⟩
  · rintro l m m' - ⟨hm, hw⟩ hstep
    obtain ⟨hm', heq | hmove⟩ := step_refines hm hw hstep
    · exact ⟨hm', heq ▸ hw⟩
    · exact ⟨hm', hw.move hmove⟩

end CellularDataStateMachine
end CellularData
