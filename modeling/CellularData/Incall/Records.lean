import CellularData.Incall.Switching
import CellularData.Machine.Records

/-! The in-call machine records the states it is in, except where the entry into
`DeactivatingSecondary` asks for the next transition. -/
namespace CellularData
open Lib StateMachine

namespace IncallDataStateMachine

variable {env : IncallEnv} {m m' : IncallDataStateMachine} {st : StateObject}
  {e : IncallMachineEvent}

/-! Runs of the machine -/

/-- The switch to the secondary card ends while the default slot is not the primary one and no APN
holder is connected. -/
def LeavesUnconnected (env : IncallEnv) (e : IncallMachineEvent) (m : IncallDataStateMachine) :
    Prop :=
  (∃ st, m.curState = some st ∧
    (st.state = .activatingSecondary ∨ st.state = .activatedSecondary)) ∧
    Leaves env m e ∧ env.defaultCellularDataSlotId ≠ env.primarySlotId ∧
    m.hasAnyConnectedState env = false

theorem straight (hok : ¬ LeavesUnconnected env e m) (hst : isLeaf st = true)
    (hcur : m.curState = some st) (hdest : m.destState = some st) :
    EventHandler.Straight (states env) e m := by
  obtain ⟨r, os, hrequest, hasked⟩ := processMsg_request env hcur hst e
  refine (recording env).straight (frame_respects env) fun st' m' hne hdest' hframe hbefore => ?_
  rw [hasked.destState] at hdest'
  rw [hasked.curState, hcur] at hne
  by_cases hs : st'.state = .deactivatingSecondary
  · rcases destAfter_cases hrequest with hsame | ⟨g, s', rfl, -, -, hafter⟩
    · exact absurd (hdest.symm.trans (hsame.symm.trans hdest')) hne
    · obtain rfl := Option.some.inj (hafter.symm.trans hdest')
      obtain rfl : s' = .deactivatingSecondary := hs
      obtain ⟨hswitch, hleaves, hslot⟩ := hrequest.deactivating
      have hconnected : hasAnyConnectedState env m = true := by
        by_contra hnone
        exact hok ⟨⟨st, hcur, hswitch⟩, hleaves, hslot, Bool.eq_false_iff.mpr hnone⟩
      have hconnected' : hasAnyConnectedState env m' = true := by
        unfold hasAnyConnectedState at hconnected ⊢
        rw [hframe.apnManager]
        exact hconnected
      exact (deactivatingBegin_destState hslot hconnected' _).trans hbefore
  · exact (stateBegin_destState env hs m').trans hbefore

/-- Between two events the queue, the call state and what has been sent may change. -/
structure Outside (m m' : IncallDataStateMachine) : Prop where
  originalState : m'.originalState = m.originalState
  curState : m'.curState = m.curState
  destState : m'.destState = m.destState
  isQuit : m'.isQuit = m.isQuit
  generation : m'.data.generation = m.data.generation
  objects : m'.data.objects = m.data.objects
  currentState : m'.data.currentState = m.data.currentState
  cellularDataHandler : m'.data.cellularDataHandler = m.data.cellularDataHandler
  apnManager : m'.data.apnManager = m.data.apnManager
  slotId : m'.data.slotId = m.data.slotId

/-- `Init` has been called, whatever the machine has done before. -/
def Made (idle : StateObject) (m : IncallDataStateMachine) : Prop :=
  ∃ m₀ callState slotId, m₀.isQuit = false ∧ idle = ⟨m₀.data.generation + 1, .idle⟩ ∧
    Outside (init m₀ callState slotId) m

theorem steady (g : Nat) : Steady states (Made ⟨g, .idle⟩) Outside
    (fun env e m => ¬ LeavesUnconnected env e m) isLeaf (fun d => d.currentState) ⟨g, .idle⟩ where
  recording := recording
  isLeaf := rfl
  stays env m := stateBegin_destState env (by intro h; cases h) m
  original env := {
    refl := fun _ => rfl
    trans := fun hl hr => hr.trans hl
    stateBegin := fun st m => (frame_stateBegin env st m).originalState
    stateEnd := fun _ _ => rfl
    stateProcess := fun st e m => (frame_stateProcess st e m).originalState
    destState := fun _ _ => rfl
    curState := fun _ _ => rfl
    deferred := fun _ => rfl
    stop := fun _ _ => rfl }
  init_not_quit _ _ _ := rfl
  made_original hmade := by
    obtain ⟨m₀, callState, slotId, -, hidle, houtside⟩ := hmade
    rw [hidle]
    exact houtside.originalState
  made_running hmade := by
    obtain ⟨m₀, callState, slotId, hquit, -, houtside⟩ := hmade
    exact houtside.isQuit.trans hquit
  outside_same ho := ⟨ho.originalState, ho.curState, ho.destState, ho.currentState⟩
  init_straight env e m he hcur hdest := by
    refine straight ?_ rfl hcur hdest
    rintro ⟨-, hleaves, -⟩
    rcases hleaves with ⟨rfl, -⟩ | ⟨rfl, -⟩ <;> cases he
  straight env _ _ _ hok hst hcur hdest := straight hok hst hcur hdest

/-- The machine in `ActivatingSecondary`, when the call has ended. -/
def switched : EventHandler StateObject IncallMachineEvent (IncallData × List StateObject) :=
  let h := ((init create .dialing 1).withEntries []).processEvent (states switchEnv).logged
    .stateMachineInit
  let h := h.processEvent (states switchEnv).logged .callStarted
  (updateCallState h.forget .disconnected).withEntries h.entries

theorem switched_runs {ok : IncallEnv → IncallMachineEvent → IncallDataStateMachine → Prop}
    (hok : ok switchEnv .callStarted (((init create .dialing 1).withEntries []).processEvent
      (states switchEnv).logged .stateMachineInit).forget) :
    Runs states (Made ⟨1, .idle⟩) Outside ok switched := by
  have hmade : Made ⟨1, .idle⟩ (init create .dialing 1) :=
    ⟨create, .dialing, 1, rfl, rfl, ⟨rfl, rfl, rfl, rfl, rfl, rfl, rfl, rfl, rfl, rfl⟩⟩
  have hstart : Runs states (Made ⟨1, .idle⟩) Outside ok (((init create .dialing 1).withEntries
      []).processEvent (states switchEnv).logged .stateMachineInit) := .start switchEnv hmade rfl
  have hactivating := Runs.event switchEnv hstart hok
  exact .change hactivating ⟨rfl, rfl, rfl, rfl, rfl, rfl, rfl, rfl, rfl, rfl⟩ rfl

/-- The call ends, no APN holder is connected: the event handler is in `Idle`, which has not begun. -/
theorem unconnected_switch_unrecorded :
    ∃ h, Runs states (Made ⟨1, .idle⟩) Outside (fun _ _ _ => True) h ∧
      h.curState = some ⟨1, .idle⟩ ∧ h.data.1.currentState = some ⟨1, .deactivatingSecondary⟩ ∧
      h.entries.find? isLeaf = some ⟨1, .deactivatingSecondary⟩ ∧
      ¬ h.Consistent isLeaf fun d => d.currentState := by
  have hrun : Runs states (Made ⟨1, .idle⟩) Outside (fun _ _ _ => True)
      (switched.processEvent (states (callEndEnv false)).logged .callEnded) :=
    .event (callEndEnv false) (switched_runs trivial) trivial
  generalize hh : switched.processEvent (states (callEndEnv false)).logged .callEnded = h at hrun
  have hcur : h.curState = some ⟨1, .idle⟩ := hh ▸ by decide +kernel
  have hrecord : h.data.1.currentState = some ⟨1, .deactivatingSecondary⟩ := hh ▸ by decide +kernel
  have hentry : h.entries.find? isLeaf = some ⟨1, .deactivatingSecondary⟩ :=
    hh ▸ by decide +kernel
  refine ⟨h, hrun, hcur, hrecord, hentry, fun hconsistent => ?_⟩
  have heq := hrecord.symm.trans (hconsistent.1.trans hcur)
  cases heq

/-- In every run of a connection machine, and in every run of an in-call machine in which the switch
does not end unconnected. -/
theorem states_recorded (g : Nat) :
    (∀ h, Runs CellularDataStateMachine.states
        (CellularDataStateMachine.Outside CellularDataStateMachine.create)
        CellularDataStateMachine.Outside (fun _ _ _ => True) h →
      h.Consistent CellularDataStateMachine.isLeaf fun d => d.currentState) ∧
    (∀ h, Runs states (Made ⟨g, .idle⟩) Outside (fun env e m => ¬ LeavesUnconnected env e m) h →
      h.Consistent isLeaf fun d => d.currentState) :=
  ⟨fun _ hr => CellularDataStateMachine.steady.consistent hr,
    fun _ hr => (steady g).consistent hr⟩

/-- A new connection machine, and an in-call machine that waits for the connection to end. -/
theorem states_recorded_connected :
    (∃ h : EventHandler ConnState MachineEvent (MachineData × List ConnState),
      h.curState = some .inactive ∧
      h.Consistent CellularDataStateMachine.isLeaf fun d => d.currentState) ∧
    ∃ h : EventHandler StateObject IncallMachineEvent (IncallData × List StateObject),
      h.curState = some ⟨1, .deactivatingSecondary⟩ ∧
      h.Consistent isLeaf fun d => d.currentState := by
  constructor
  · have hrun : Runs CellularDataStateMachine.states
        (CellularDataStateMachine.Outside CellularDataStateMachine.create)
        CellularDataStateMachine.Outside (fun _ _ _ => True)
        ((CellularDataStateMachine.create.withEntries []).processEvent
          (CellularDataStateMachine.states {}).logged .stateMachineInit) :=
      .start (h := CellularDataStateMachine.create.withEntries []) ({} : MachineEnv)
        (CellularDataStateMachine.Outside.refl CellularDataStateMachine.create) (by decide)
    exact ⟨_, by decide +kernel, (states_recorded 1).1 _ hrun⟩
  · have hswitch : Runs states (Made ⟨1, .idle⟩) Outside
        (fun env e m => ¬ LeavesUnconnected env e m) switched :=
      switched_runs fun h => h.2.2.1 rfl
    have hconnected : ¬ LeavesUnconnected (callEndEnv true) .callEnded switched.forget :=
      fun h => absurd h.2.2.2 (by decide +kernel)
    have hrun := Runs.event (callEndEnv true) hswitch hconnected
    exact ⟨_, by decide +kernel, (states_recorded 1).2 _ hrun⟩

end IncallDataStateMachine
end CellularData
