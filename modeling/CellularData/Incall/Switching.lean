import CellularData.Incall.Transition
import CellularData.Lib.TransitionSystem

/-! The in-call machine gives the data slot back: a run between `Init` and `DeInit`, in which only the
machine changes the default slot. -/
namespace CellularData
open Lib StateMachine

namespace IncallDataStateMachine

variable {env : IncallEnv} {m m' : IncallDataStateMachine} {e : IncallMachineEvent}
  {st st' : IncallState} {g : Nat} {slotId : Int}

/-- The default slot after the requests have been carried out. -/
def defaultSlotAfter (slotId : Int) (os : List IncallOutput) : Int :=
  os.foldl (fun slotId o => match o with
    | .setDefaultCellularDataSlotId slotId => slotId
    | .incallDataComplete => slotId) slotId

/-- What a step of the machine does to its state and to the default slot. -/
inductive Switch (primarySlotId : Int) : IncallState → Int → IncallState → Int → Prop
  | stay (st : IncallState) (slotId : Int) : Switch primarySlotId st slotId st slotId
  | activate (slotId slotId' : Int) :
      Switch primarySlotId .idle slotId .activatingSecondary slotId'
  | connected (slotId : Int) :
      Switch primarySlotId .activatingSecondary slotId .activatedSecondary slotId
  | finish {st : IncallState} (hst : st = .activatingSecondary ∨ st = .activatedSecondary) :
      Switch primarySlotId st primarySlotId .idle primarySlotId
  | deactivate {st st' : IncallState} (slotId : Int)
      (hst : st = .activatingSecondary ∨ st = .activatedSecondary)
      (hst' : st' = .deactivatingSecondary ∨ st' = .idle) :
      Switch primarySlotId st slotId st' primarySlotId
  | disconnected (slotId : Int) :
      Switch primarySlotId .deactivatingSecondary slotId .idle slotId

/-- The event handler is in a leaf of the generation `g`, with no transition to make. -/
structure At (g : Nat) (st : IncallState) (m : IncallDataStateMachine) : Prop where
  isLeaf : st ≠ .secondaryActive
  objects : m.data.objects = some g
  curState : m.curState = some ⟨g, st⟩
  destState : m.destState = some ⟨g, st⟩

/-! Exit and entry -/

theorem exitState_data (env : IncallEnv) (m : IncallDataStateMachine) :
    (EventHandler.exitState m (states env)).data = m.data := by
  unfold EventHandler.exitState
  cases m.curState with
  | none => rfl
  | some st =>
    have hfold := List.foldlRecOn ((states env).ancestors st)
      (fun (m : IncallDataStateMachine) a => (states env).stateEnd a m)
      (motive := fun (x : IncallDataStateMachine) => x.data = m.data) rfl fun _ hx _ _ => hx
    exact hfold

/-- The ancestors of a destination begin without a trace in the data. -/
theorem enterState_eq (env : IncallEnv) (hdest : m.destState = some ⟨g, st⟩) :
    ∃ m', m'.data = m.data ∧ m'.destState = m.destState ∧
      EventHandler.enterState m (states env) = stateBegin env m' ⟨g, st⟩ := by
  have hancestors := (recording env).ancestors_keep ⟨g, st⟩ m
  refine ⟨((states env).ancestors ⟨g, st⟩).foldl (fun m a => (states env).stateBegin a m) m, ?_,
    hancestors, ?_⟩
  · cases st <;> rfl
  · unfold EventHandler.enterState
    rw [hdest]
    dsimp only
    rw [hancestors, hdest]
    rfl

theorem stateBegin_slot (env : IncallEnv) (g : Nat) (hst : st ≠ .deactivatingSecondary)
    (slotId : Int) (m : IncallDataStateMachine) :
    defaultSlotAfter slotId (stateBegin env m ⟨g, st⟩).data.outbox =
      defaultSlotAfter slotId m.data.outbox := by
  cases st with
  | idle =>
    show defaultSlotAfter slotId (idleBegin m ⟨g, .idle⟩).data.outbox = _
    unfold idleBegin sendIncallDataComplete
    dsimp only
    split_ifs
    · exact List.foldl_concat ..
    · rfl
    · rfl
  | deactivatingSecondary => exact absurd rfl hst
  | _ => rfl

/-- The primary slot is set; the destination is the state itself or `Idle`. -/
theorem deactivatingBegin_spec (hobjects : m.data.objects = some g)
    (hdest : m.destState = some ⟨g, .deactivatingSecondary⟩)
    (hslot : env.defaultCellularDataSlotId ≠ env.primarySlotId) (slotId : Int) :
    defaultSlotAfter slotId (m.deactivatingBegin env ⟨g, .deactivatingSecondary⟩).data.outbox =
      env.primarySlotId ∧
    ∃ st, (st = .deactivatingSecondary ∨ st = .idle) ∧
      (m.deactivatingBegin env ⟨g, .deactivatingSecondary⟩).destState = some ⟨g, st⟩ := by
  have hset : defaultSlotAfter slotId
      (m.data.outbox ++ [.setDefaultCellularDataSlotId env.primarySlotId]) = env.primarySlotId :=
    List.foldl_concat ..
  unfold deactivatingBegin
  dsimp only
  rw [if_pos hslot]
  split_ifs
  · have hasked := asked_transitionTo (((m.setActive ⟨g, .deactivatingSecondary⟩ true).setCurrentState
      ⟨g, .deactivatingSecondary⟩).emit (.setDefaultCellularDataSlotId env.primarySlotId)) .idle
    have hafter := hasked.destState
    unfold destAfter at hafter
    refine ⟨?_, .idle, .inr rfl, ?_⟩
    · rw [hasked.outbox, List.append_nil]
      exact hset
    · rw [hafter]
      show (m.data.objects.map _).or _ = _
      rw [hobjects]
      rfl
  · exact ⟨hset, .deactivatingSecondary, .inl rfl, hdest⟩

/-! One event -/

/-- The transition to another leaf, with the default slot that it leaves behind. -/
theorem processTransitions_switch (env : IncallEnv) (slotId : Int) (hobjects : m.data.objects = some g)
    (hcur : m.curState = some ⟨g, st⟩) (hdest : m.destState = some ⟨g, st'⟩)
    (hleaf : st' ≠ .secondaryActive) (hne : st ≠ st') :
    (st' ≠ .deactivatingSecondary →
      At g st' (EventHandler.processTransitions m (states env)) ∧
      defaultSlotAfter slotId (EventHandler.processTransitions m (states env)).data.outbox =
        defaultSlotAfter slotId m.data.outbox) ∧
    (st' = .deactivatingSecondary → env.defaultCellularDataSlotId ≠ env.primarySlotId →
      ∃ st'', (st'' = .deactivatingSecondary ∨ st'' = .idle) ∧
        At g st'' (EventHandler.processTransitions m (states env)) ∧
        defaultSlotAfter slotId (EventHandler.processTransitions m (states env)).data.outbox =
          env.primarySlotId) := by
  have hstates : m.curState ≠ m.destState := by
    intro heq
    rw [hcur, hdest] at heq
    exact hne (congrArg StateObject.state (Option.some.inj heq))
  have hexit := ((recording env).exitState_keeps m).2.trans hdest
  have hdata := exitState_data env m
  rw [Recording.processTransitions_of_ne hstates]
  generalize EventHandler.exitState m (states env) = x at hexit hdata ⊢
  obtain ⟨y, hydata, hydest, hentered⟩ := enterState_eq env hexit
  rw [hentered]
  have hyobjects : y.data.objects = some g := by rw [hydata, hdata, hobjects]
  have hyoutbox : y.data.outbox = m.data.outbox := by rw [hydata, hdata]
  have hframe := frame_stateBegin env ⟨g, st'⟩ y
  have hat (s : IncallState) (hs : s ≠ .secondaryActive)
      (hd : (stateBegin env y ⟨g, st'⟩).destState = some ⟨g, s⟩) :
      At g s ({ stateBegin env y ⟨g, st'⟩ with
        curState := (stateBegin env y ⟨g, st'⟩).destState } : IncallDataStateMachine).sendDeferredEvent :=
    ⟨hs, hframe.objects.trans hyobjects, hd, hd⟩
  constructor
  · intro hdeactivating
    have hbegin : (stateBegin env y ⟨g, st'⟩).destState = y.destState :=
      stateBegin_destState env hdeactivating y
    have hd := hbegin.trans (hydest.trans hexit)
    refine ⟨hat st' hleaf hd, ?_⟩
    have hslot := stateBegin_slot env g hdeactivating slotId y
    rw [hyoutbox] at hslot
    exact hslot
  · rintro rfl hslot
    obtain ⟨hset, s, hs, hd⟩ :=
      deactivatingBegin_spec hyobjects (hydest.trans hexit) hslot slotId
    refine ⟨s, hs, hat s ?_ hd, hset⟩
    rcases hs with rfl | rfl <;> decide

theorem process_eq (hquit : m.isQuit = false) (he : e ≠ .stateMachineInit) : process env m e =
    EventHandler.processTransitions (EventHandler.processMsg m (states env) e) (states env) := by
  have hinit : (states env).isInit e = false := decide_eq_false he
  unfold process
  rw [EventHandler.processEvent_eq hquit rfl, EventHandler.initialised_of_not_init hinit]

/-- A request that does not ask for a transition changes nothing here. -/
theorem Request.stay {os : List IncallOutput} (h : Request env m st e none os) (slotId : Int) :
    defaultSlotAfter slotId os = slotId := by
  cases h <;> rfl

theorem Request.ne {os : List IncallOutput} (h : Request env m st e (some st') os) : st ≠ st' := by
  cases h with
  | deactivate hst _ _ => rcases hst with rfl | rfl <;> decide
  | finish hst _ _ => rcases hst with rfl | rfl <;> decide
  | _ => decide

/-- One event, in terms of the states and the default slot only. -/
theorem At.process (env : IncallEnv) (hm : m.At g st) (hquit : m.isQuit = false)
    (hout : m.data.outbox = [])
    (he : e ≠ .stateMachineInit) : ∃ st', At g st' (process env m e) ∧
      Switch env.primarySlotId st env.defaultCellularDataSlotId st'
        (defaultSlotAfter env.defaultCellularDataSlotId (process env m e).data.outbox) := by
  have hleaf : IncallDataStateMachine.isLeaf ⟨g, st⟩ = true := decide_eq_true hm.isLeaf
  obtain ⟨r, os, hrequest, hasked⟩ := processMsg_request env hm.curState hleaf e
  have hobjects := ((frame_respects env).processMsg (e := e) m).objects.trans hm.objects
  have hos := hasked.outbox
  rw [hout, List.nil_append] at hos
  have hdest := hasked.destState
  rw [process_eq hquit he]
  cases r with
  | none =>
    have hsame : EventHandler.processTransitions (EventHandler.processMsg m (states env) e)
        (states env) = EventHandler.processMsg m (states env) e :=
      if_pos (by rw [hasked.curState, hdest]; exact hm.curState.trans hm.destState.symm)
    rw [hsame, hos, hrequest.stay]
    exact ⟨st, ⟨hm.isLeaf, hobjects, hasked.curState.trans hm.curState,
      hdest.trans hm.destState⟩, .stay _ _⟩
  | some st' =>
    have hafter : m.destAfter (some st') = some ⟨g, st'⟩ := by
      unfold destAfter
      rw [hm.objects]
      rfl
    obtain ⟨hother, hdeactivating⟩ := processTransitions_switch env
      env.defaultCellularDataSlotId hobjects (hasked.curState.trans hm.curState)
      (hdest.trans hafter) hrequest.isLeaf hrequest.ne
    rw [hos] at hother
    cases hrequest with
    | activate _ slotId =>
      obtain ⟨hat, -⟩ := hother (by decide)
      exact ⟨_, hat, .activate _ _⟩
    | connected =>
      obtain ⟨hat, hslot⟩ := hother (by decide)
      rw [hslot]
      exact ⟨_, hat, .connected _⟩
    | deactivate hst _ hne =>
      obtain ⟨st'', hst'', hat, hslot⟩ := hdeactivating rfl hne
      rw [hslot]
      exact ⟨_, hat, .deactivate _ hst hst''⟩
    | finish hst _ heq =>
      obtain ⟨hat, hslot⟩ := hother (by decide)
      rw [hslot, heq]
      exact ⟨_, hat, .finish hst⟩
    | disconnected =>
      obtain ⟨hat, hslot⟩ := hother (by decide)
      rw [hslot]
      exact ⟨_, hat, .disconnected _⟩

/-- The initial event enters `Idle`. -/
theorem process_init (env : IncallEnv) (hquit : m.isQuit = false) (hobjects : m.data.objects = some g)
    (horiginal : m.originalState = some ⟨g, .idle⟩) (slotId : Int) :
    At g .idle (process env m .stateMachineInit) ∧
      (process env m .stateMachineInit).data.currentState = some ⟨g, .idle⟩ ∧
      defaultSlotAfter slotId (process env m .stateMachineInit).data.outbox =
        defaultSlotAfter slotId m.data.outbox := by
  have hbegin : EventHandler.initCmdEnter { m with destState := m.originalState } (states env) =
      { stateBegin env { m with destState := m.originalState } ⟨g, .idle⟩ with
        curState := some ⟨g, .idle⟩ } := by
    unfold EventHandler.initCmdEnter
    rw [horiginal]
    rfl
  have hframe := frame_stateBegin env ⟨g, .idle⟩ { m with destState := m.originalState }
  have hdest : (stateBegin env { m with destState := m.originalState } ⟨g, .idle⟩).destState =
      m.originalState := stateBegin_destState env (by intro h; cases h) _
  have hslot := stateBegin_slot env g (show IncallState.idle ≠ .deactivatingSecondary by decide) slotId
    { m with destState := m.originalState }
  have hrecord := stateBegin_record env (show isLeaf ⟨g, .idle⟩ = true from rfl)
    { m with destState := m.originalState }
  unfold process
  rw [EventHandler.processEvent_eq hquit rfl, EventHandler.initialised_of_init rfl, hbegin]
  generalize stateBegin env { m with destState := m.originalState } ⟨g, .idle⟩ = x
    at hframe hdest hslot hrecord ⊢
  have hat : At g .idle { x with curState := some ⟨g, .idle⟩ } :=
    ⟨by decide, hframe.objects.trans hobjects, rfl, hdest.trans horiginal⟩
  generalize hy : ({ x with curState := some ⟨g, .idle⟩ } : IncallDataStateMachine) = y at hat
  have hmsg : EventHandler.processMsg y (states env) .stateMachineInit = y := by
    unfold EventHandler.processMsg
    rw [hat.curState]
    rfl
  have hsame : EventHandler.processTransitions y (states env) = y :=
    if_pos (hat.curState.trans hat.destState.symm)
  rw [hmsg, hsame]
  refine ⟨hat, ?_, ?_⟩
  · rw [← hy]
    exact hrecord
  · rw [← hy]
    exact hslot

/-! The queue between events -/

/-- What is sent has been taken over. -/
def clearOutbox (m : IncallDataStateMachine) : IncallDataStateMachine :=
  m.modifyData fun d => { d with outbox := [] }

/-- The machine between two events; the initial event is only sent as an immediate one. -/
structure Idling (m : IncallDataStateMachine) : Prop where
  isQuit : m.isQuit = false
  deferEvents : m.deferEvents = []
  outbox : m.data.outbox = []
  immediate : ∀ x ∈ m.queue.immediate, x = .stateMachineInit
  ready : .stateMachineInit ∉ m.queue.ready
  delayed : .stateMachineInit ∉ m.queue.delayed
  curState : ∀ st, m.curState = some st → st.generation ≤ m.data.generation

theorem create_idling : Idling create :=
  ⟨rfl, rfl, rfl, nofun, nofun, nofun, nofun⟩

theorem Idling.init (hm : Idling m) (callState : TelCallStatus) (slotId : Int) :
    Idling (init m callState slotId) where
  isQuit := hm.isQuit
  deferEvents := hm.deferEvents
  outbox := hm.outbox
  immediate x hx := by
    rcases List.mem_append.mp hx with hold | hnew
    · exact hm.immediate x hold
    · exact List.mem_singleton.mp hnew
  ready := hm.ready
  delayed := hm.delayed
  curState st hst := Nat.le_succ_of_le (hm.curState st hst)

theorem Idling.deInit (hm : Idling m) : Idling (deInit m) := { hm with }

theorem Idling.updateCallState (hm : Idling m) (state : TelCallStatus) :
    Idling (updateCallState m state) := { hm with }

theorem Idling.sendEvent (hm : Idling m) (he : e ≠ .stateMachineInit) :
    Idling (EventHandler.sendEvent m e) :=
  { hm with
    ready := fun hx => by
      rcases List.mem_append.mp hx with hold | hnew
      · exact hm.ready hold
      · exact he (List.mem_singleton.mp hnew).symm }

theorem Idling.next {q : EventQueue IncallMachineEvent} (hm : Idling m)
    (hnext : m.queue.next = some (e, q)) : Idling { m with queue := q } ∧
      ((m.queue.immediate ≠ [] ∧ e = .stateMachineInit) ∨
        (m.queue.immediate = [] ∧ q.immediate = [] ∧ e ≠ .stateMachineInit)) := by
  rcases EventQueue.next_eq_some_iff.mp hnext with ⟨himm, hready, hdelayed⟩ |
    ⟨himm, himm', hready, hdelayed⟩
  · have hmem : e ∈ m.queue.immediate := himm ▸ List.mem_cons_self
    refine ⟨{ hm with immediate := fun x hx => ?_, ready := ?_, delayed := ?_ }, .inl ⟨?_, ?_⟩⟩
    · exact hm.immediate x (himm ▸ List.mem_cons_of_mem e hx)
    · exact hready ▸ hm.ready
    · exact hdelayed ▸ hm.delayed
    · rw [himm]
      exact List.cons_ne_nil _ _
    · exact hm.immediate e hmem
  · refine ⟨{ hm with immediate := fun x hx => ?_, ready := fun hx => ?_, delayed := ?_ },
      .inr ⟨himm, himm', fun he => ?_⟩⟩
    · have hnone : x ∈ q.immediate := hx
      rw [himm'] at hnone
      cases hnone
    · exact hm.ready (hready ▸ List.mem_cons_of_mem e hx)
    · exact hdelayed ▸ hm.delayed
    · exact hm.ready (hready ▸ he ▸ List.mem_cons_self)

theorem Idling.process (hm : Idling m)
    (hcur : ∀ st, (process env m e).curState = some st → st.generation ≤ m.data.generation) :
    Idling (process env m e).clearOutbox := by
  have hframe := frame_process env m e
  have htrimmed := hframe.queue hm.deferEvents
  exact {
    isQuit := hframe.isQuit.trans hm.isQuit
    deferEvents := hframe.deferEvents hm.deferEvents
    outbox := rfl
    immediate := fun x hx => hm.immediate x (htrimmed.immediate x hx)
    ready := fun hx => hm.ready (htrimmed.ready _ hx)
    delayed := fun hx => hm.delayed (htrimmed.delayed _ hx)
    curState := fun st hst => hframe.generation ▸ hcur st hst }

theorem dispatch_eq_some (h : m.dispatch env = some (e, m')) :
    ∃ q, m.queue.next = some (e, q) ∧ m' = process env { m with queue := q } e := by
  unfold dispatch EventHandler.dispatch at h
  cases hnext : m.queue.next with
  | none => simp [hnext] at h
  | some p =>
    obtain ⟨x, q⟩ := p
    rw [hnext] at h
    obtain ⟨rfl, rfl⟩ := Prod.mk.inj (Option.some.inj h)
    exact ⟨q, rfl, rfl⟩

/-- Slot 1 starts a call while slot 0 has the data. -/
def switchEnv : IncallEnv where
  defaultCellularDataSlotId := 0
  primarySlotId := 0
  psRadioTech := .nr
  imsRegistered := true
  getValue := fun _ => (.success, some 1)
  intelligenceNetwork := (.success, some 1)

/-- Slot 1 has the data at the end of the call. -/
def callEndEnv (connected : Bool) : IncallEnv where
  defaultCellularDataSlotId := 1
  primarySlotId := 0
  hasAnyConnectedState := connected

end IncallDataStateMachine

/-! Runs between `Init` and `DeInit` -/

structure SwitchWorld where
  machine : IncallDataStateMachine
  defaultSlotId : Int

/-- Events and call states come in any order; a step reads the slots that are set. -/
inductive SwitchLabel
  | post (e : IncallMachineEvent)
  | updateCallState (state : TelCallStatus)
  | dispatch (env : IncallEnv)

namespace SwitchWorld

open IncallDataStateMachine

def step (primarySlotId : Int) : SwitchLabel → SwitchWorld → Option SwitchWorld
  | .post e, w =>
    if e = .stateMachineInit then none
    else some { w with machine := EventHandler.sendEvent w.machine e }
  | .updateCallState state, w => some { w with machine := w.machine.updateCallState state }
  | .dispatch env, w =>
    if env.defaultCellularDataSlotId = w.defaultSlotId ∧ env.primarySlotId = primarySlotId then
      (w.machine.dispatch env).map fun r =>
        { machine := r.2.clearOutbox
          defaultSlotId := defaultSlotAfter w.defaultSlotId r.2.data.outbox }
    else none

/-- `Init` has just been called, whatever the machine has done before. -/
def system (primarySlotId : Int) : TransitionSystem SwitchWorld SwitchLabel where
  init w := ∃ m callState slotId, Idling m ∧ w.machine = m.init callState slotId
  step := step primarySlotId

/-- The machine of this `Init` is in `ActivatingSecondary`. -/
def Activating (w : SwitchWorld) : Prop :=
  w.machine.curState = some ⟨w.machine.data.generation, .activatingSecondary⟩

def Entered (h : List (SwitchLabel × SwitchWorld)) : Prop := ∃ p ∈ h, Activating p.2

variable {primarySlotId : Int} {h : List (SwitchLabel × SwitchWorld)} {w w' : SwitchWorld}
  {l : SwitchLabel}

theorem entered_cons : Entered ((l, w) :: h) ↔ Activating w ∨ Entered h := List.exists_mem_cons_iff ..

/-- The initial event is still pending, or the machine keeps the slot as its state says. -/
structure Invariant (primarySlotId : Int) (h : List (SwitchLabel × SwitchWorld))
    (w : SwitchWorld) : Prop where
  idling : Idling w.machine
  originalState : w.machine.originalState = some ⟨w.machine.data.generation, .idle⟩
  objects : w.machine.data.objects = some w.machine.data.generation
  phase : (w.machine.queue.immediate ≠ [] ∧ ¬ Entered h ∧ ¬ Activating w) ∨
    w.machine.queue.immediate = [] ∧ ∃ st, At w.machine.data.generation st w.machine ∧
      (st = .deactivatingSecondary → w.defaultSlotId = primarySlotId) ∧
      (st = .idle → Entered h → w.defaultSlotId = primarySlotId)

theorem invariant_init (hw : (system primarySlotId).init w) : Invariant primarySlotId [] w := by
  obtain ⟨m, callState, slotId, hm, heq⟩ := hw
  obtain ⟨machine, defaultSlotId⟩ := w
  obtain rfl : machine = m.init callState slotId := heq
  refine ⟨hm.init callState slotId, rfl, rfl, .inl ⟨?_, ?_, fun hactivating => ?_⟩⟩
  · exact List.append_ne_nil_of_right_ne_nil _ (List.cons_ne_nil _ _)
  · rintro ⟨p, hp, -⟩
    cases hp
  · have hle : m.data.generation + 1 ≤ m.data.generation := hm.curState _ hactivating
    omega

/-- A step of the machine that has begun. -/
theorem phase_switch {st st' : IncallState} {slotId slotId' : Int}
    (hswitch : Switch primarySlotId st slotId st' slotId')
    (hdeactivating : st = .deactivatingSecondary → slotId = primarySlotId)
    (hidle : st = .idle → Entered h → slotId = primarySlotId) :
    (st' = .deactivatingSecondary → slotId' = primarySlotId) ∧
      (st' = .idle → st = .activatingSecondary ∨ Entered h → slotId' = primarySlotId) := by
  cases hswitch with
  | stay st slotId =>
    refine ⟨hdeactivating, ?_⟩
    rintro rfl (hst | hentered)
    · cases hst
    · exact hidle rfl hentered
  | activate slotId slotId' => exact ⟨nofun, nofun⟩
  | connected slotId => exact ⟨nofun, nofun⟩
  | finish hst => exact ⟨nofun, fun _ _ => rfl⟩
  | deactivate slotId hst hst' => exact ⟨fun _ => rfl, fun _ _ => rfl⟩
  | disconnected slotId => exact ⟨nofun, fun _ _ => hdeactivating rfl⟩

theorem At.activating_iff {st : IncallState} (hat : At w.machine.data.generation st w.machine) :
    Activating w ↔ st = .activatingSecondary := by
  unfold Activating
  rw [hat.curState, Option.some.injEq, StateObject.mk.injEq]
  exact and_iff_right rfl

/-- Nothing but the queue and the call state has changed. -/
theorem Invariant.outside {machine : IncallDataStateMachine} (hw : Invariant primarySlotId h w)
    (hidling : Idling machine) (hgeneration : machine.data.generation = w.machine.data.generation)
    (hobjects : machine.data.objects = w.machine.data.objects)
    (horiginal : machine.originalState = w.machine.originalState)
    (hcur : machine.curState = w.machine.curState)
    (hdest : machine.destState = w.machine.destState)
    (himmediate : machine.queue.immediate = w.machine.queue.immediate) :
    Invariant primarySlotId ((l, w) :: h) { w with machine } where
  idling := hidling
  originalState := by rw [horiginal, hgeneration, hw.originalState]
  objects := by rw [hobjects, hgeneration, hw.objects]
  phase := by
    have hactivating : Activating { w with machine } ↔ Activating w := by
      unfold Activating
      rw [hcur, hgeneration]
    rw [himmediate, hgeneration, entered_cons, hactivating]
    rcases hw.phase with ⟨hpending, hnever, hnot⟩ | ⟨hdone, st, hat, hdeactivating, hidle⟩
    · exact .inl ⟨hpending, not_or.mpr ⟨hnot, hnever⟩, hnot⟩
    · refine .inr ⟨hdone, st, ?_, hdeactivating, fun hst hentered => ?_⟩
      · exact ⟨hat.isLeaf, hobjects.trans hat.objects, hcur.trans hat.curState,
          hdest.trans hat.destState⟩
      · rcases hentered with hactive | hentered
        · have hst' := (At.activating_iff hat).mp hactive
          rw [hst] at hst'
          cases hst'
        · exact hidle hst hentered

/-- A step of the machine leaves it in one leaf of its generation. -/
theorem invariant_of_at {machine : IncallDataStateMachine} {env : IncallEnv}
    {e : IncallMachineEvent} {st : IncallState} {slotId : Int} {q : EventQueue IncallMachineEvent}
    (hw : Invariant primarySlotId h w) (hidling : Idling { w.machine with queue := q })
    (hmachine : machine = process env { w.machine with queue := q } e)
    (hat : At w.machine.data.generation st machine)
    (hphase : (machine.queue.immediate ≠ [] ∧ ¬ Entered ((l, w) :: h) ∧
      st ≠ .activatingSecondary) ∨ machine.queue.immediate = [] ∧
      (st = .deactivatingSecondary → slotId = primarySlotId) ∧
      (st = .idle → Entered ((l, w) :: h) → slotId = primarySlotId)) :
    Invariant primarySlotId ((l, w) :: h)
      { machine := machine.clearOutbox, defaultSlotId := slotId } := by
  have hframe := frame_process env { w.machine with queue := q } e
  rw [← hmachine] at hframe
  have hgeneration : machine.data.generation = w.machine.data.generation := hframe.generation
  have hat' : At machine.clearOutbox.data.generation st machine.clearOutbox := by
    show At machine.data.generation st machine.clearOutbox
    rw [hgeneration]
    exact ⟨hat.isLeaf, hat.objects, hat.curState, hat.destState⟩
  exact {
    idling := by
      rw [hmachine]
      refine hidling.process fun st' hst' => ?_
      rw [← hmachine, hat.curState] at hst'
      obtain rfl := Option.some.inj hst'
      exact Nat.le_refl _
    originalState := by
      show machine.originalState = some ⟨machine.data.generation, .idle⟩
      rw [hframe.originalState, hgeneration]
      exact hw.originalState
    objects := by
      show machine.data.objects = some machine.data.generation
      rw [hat.objects, hgeneration]
    phase := by
      rcases hphase with ⟨hpending, hnever, hst⟩ | ⟨hdone, hdeactivating, hidle⟩
      · refine .inl ⟨hpending, hnever, fun hactivating => hst ?_⟩
        exact (At.activating_iff
          (w := { machine := machine.clearOutbox, defaultSlotId := slotId }) hat').mp hactivating
      · exact .inr ⟨hdone, st, hat', hdeactivating, hidle⟩ }

theorem invariant_dispatch {env : IncallEnv} {e : IncallMachineEvent}
    {machine : IncallDataStateMachine} (hw : Invariant primarySlotId h w)
    (hslot : env.defaultCellularDataSlotId = w.defaultSlotId)
    (hprimary : env.primarySlotId = primarySlotId)
    (hdispatch : w.machine.dispatch env = some (e, machine)) :
    Invariant primarySlotId ((l, w) :: h)
      { machine := machine.clearOutbox
        defaultSlotId := defaultSlotAfter w.defaultSlotId machine.data.outbox } := by
  obtain ⟨q, hnext, hmachine⟩ := dispatch_eq_some hdispatch
  obtain ⟨hidling, hevent⟩ := hw.idling.next hnext
  have hframe := frame_process env { w.machine with queue := q } e
  rw [← hmachine] at hframe
  have htrimmed := hframe.queue hidling.deferEvents
  rcases hevent with ⟨hpending, rfl⟩ | ⟨hdone, hq, hnot⟩
  · rcases hw.phase with ⟨-, hnever, hinactive⟩ | ⟨hnone, -⟩
    · have hnever' : ¬ Entered ((l, w) :: h) := by
        rw [entered_cons]
        exact not_or.mpr ⟨hinactive, hnever⟩
      obtain ⟨hat, -, -⟩ := process_init env hidling.isQuit hw.objects hw.originalState
        w.defaultSlotId
      rw [← hmachine] at hat
      refine invariant_of_at hw hidling hmachine hat ?_
      by_cases hleft : machine.queue.immediate = []
      · exact .inr ⟨hleft, nofun, fun _ hentered => absurd hentered hnever'⟩
      · exact .inl ⟨hleft, hnever', nofun⟩
    · exact absurd hnone hpending
  · rcases hw.phase with ⟨hpending, -⟩ | ⟨-, st, hat, hdeactivating, hidle⟩
    · exact absurd hdone hpending
    · have hat₀ : At w.machine.data.generation st { w.machine with queue := q } :=
        ⟨hat.isLeaf, hat.objects, hat.curState, hat.destState⟩
      obtain ⟨st', hat', hswitch⟩ := hat₀.process env hidling.isQuit hidling.outbox hnot
      rw [← hmachine, hslot, hprimary] at hswitch
      rw [← hmachine] at hat'
      obtain ⟨hdeactivating', hidle'⟩ := phase_switch hswitch hdeactivating hidle
      refine invariant_of_at hw hidling hmachine hat' (.inr ⟨?_, hdeactivating', ?_⟩)
      · refine List.eq_nil_iff_forall_not_mem.mpr fun x hx => ?_
        have hmem : x ∈ q.immediate := htrimmed.immediate x hx
        rw [hq] at hmem
        cases hmem
      · intro hst hentered
        rw [entered_cons, At.activating_iff hat] at hentered
        exact hidle' hst hentered

theorem invariant_step (hw : Invariant primarySlotId h w)
    (hstep : (system primarySlotId).step l w = some w') :
    Invariant primarySlotId ((l, w) :: h) w' := by
  cases l with
  | post e =>
    simp only [system, step] at hstep
    split_ifs at hstep with he
    obtain rfl := Option.some.inj hstep
    exact hw.outside (hw.idling.sendEvent he) rfl rfl rfl rfl rfl rfl
  | updateCallState state =>
    obtain rfl := Option.some.inj hstep
    exact hw.outside (hw.idling.updateCallState state) rfl rfl rfl rfl rfl rfl
  | dispatch env =>
    simp only [system, step] at hstep
    split_ifs at hstep with hread
    obtain ⟨⟨e, machine⟩, hdispatch, rfl⟩ := Option.map_eq_some_iff.mp hstep
    exact invariant_dispatch hw hread.1 hread.2 hdispatch

theorem history_invariant (hh : (system primarySlotId).History h w) :
    Invariant primarySlotId h w := by
  induction hh with
  | init hs => exact invariant_init hs
  | step _ hstep ih => exact invariant_step ih hstep

/-- Once the machine has entered `ActivatingSecondary`, the default slot is the primary one whenever
it is in `Idle` again. -/
theorem default_slot_restored (hh : (system primarySlotId).History h w)
    (hentered : ∃ p ∈ h, Activating p.2) {g : Nat}
    (hidle : w.machine.curState = some ⟨g, .idle⟩) : w.defaultSlotId = primarySlotId := by
  obtain ⟨-, -, -, hphase⟩ := history_invariant hh
  rcases hphase with ⟨-, hnever, -⟩ | ⟨-, st, hat, -, hrestored⟩
  · exact absurd hentered hnever
  · have hst := Option.some.inj (hat.curState.symm.trans hidle)
    exact hrestored (congrArg StateObject.state hst) hentered

def callLabels : List SwitchLabel :=
  [.dispatch switchEnv, .post .callStarted, .dispatch switchEnv, .updateCallState .disconnected,
    .post .callEnded, .dispatch (callEndEnv true), .post .dataDisconnected,
    .dispatch { callEndEnv true with defaultCellularDataSlotId := 0 }]

theorem default_slot_restored_call : ∃ h w, (system 0).History h w ∧
    w.machine.curState = some ⟨1, .idle⟩ ∧ w.defaultSlotId = 0 := by
  have hinit : (system 0).init { machine := create.init .dialing 1, defaultSlotId := 0 } :=
    ⟨create, .dialing, 1, create_idling, rfl⟩
  obtain ⟨h, w, hh, hp⟩ := TransitionSystem.exists_history hinit callLabels
    (p := fun h w => w.machine.curState = some ⟨1, .idle⟩ ∧
      h.any fun p => p.2.machine.curState =
        some ⟨p.2.machine.data.generation, .activatingSecondary⟩) (by decide +kernel)
  obtain ⟨hidle, hany⟩ := of_decide_eq_true hp
  obtain ⟨p, hp, hactivating⟩ := List.any_eq_true.mp hany
  have hentered : p.2.machine.curState =
      some ⟨p.2.machine.data.generation, .activatingSecondary⟩ := of_decide_eq_true hactivating
  exact ⟨h, w, hh, hidle, default_slot_restored hh ⟨p, hp, hentered⟩ hidle⟩

end SwitchWorld
end CellularData
