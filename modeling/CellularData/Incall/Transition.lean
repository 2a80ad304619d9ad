import CellularData.StateMachine.Entries
import CellularData.Incall.Model

/-! What an event can do to the in-call machine. -/
namespace CellularData
open Lib StateMachine

namespace IncallDataStateMachine

variable {env : IncallEnv} {m m' m'' : IncallDataStateMachine} {st : StateObject}
  {e : IncallMachineEvent}

/-! Members that no event changes -/

/-- Events are only taken out of the queue, and the initial one stays. -/
structure Trimmed (q q' : EventQueue IncallMachineEvent) : Prop where
  immediate : ∀ x ∈ q'.immediate, x ∈ q.immediate
  ready : ∀ x ∈ q'.ready, x ∈ q.ready
  delayed : ∀ x ∈ q'.delayed, x ∈ q.delayed
  init : .stateMachineInit ∈ q.pending → .stateMachineInit ∈ q'.pending

theorem Trimmed.refl (q : EventQueue IncallMachineEvent) : Trimmed q q :=
  ⟨fun _ hx => hx, fun _ hx => hx, fun _ hx => hx, id⟩

theorem Trimmed.trans {q q' q'' : EventQueue IncallMachineEvent} (h : Trimmed q q')
    (h' : Trimmed q' q'') : Trimmed q q'' where
  immediate x hx := h.immediate x (h'.immediate x hx)
  ready x hx := h.ready x (h'.ready x hx)
  delayed x hx := h.delayed x (h'.delayed x hx)
  init hinit := h'.init (h.init hinit)

theorem trimmed_removeEvent (q : EventQueue IncallMachineEvent) :
    Trimmed q (q.removeEvent isDsdsChanged) where
  immediate _ hx := List.mem_of_mem_filter hx
  ready _ hx := List.mem_of_mem_filter hx
  delayed _ hx := List.mem_of_mem_filter hx
  init hinit := EventQueue.mem_pending_removeEvent.mpr ⟨hinit, rfl⟩

structure Frame (m m' : IncallDataStateMachine) : Prop where
  originalState : m'.originalState = m.originalState
  isQuit : m'.isQuit = m.isQuit
  generation : m'.data.generation = m.data.generation
  objects : m'.data.objects = m.data.objects
  cellularDataHandler : m'.data.cellularDataHandler = m.data.cellularDataHandler
  apnManager : m'.data.apnManager = m.data.apnManager
  slotId : m'.data.slotId = m.data.slotId
  callState : m'.data.callState = m.data.callState
  currentState : m.data.currentState ≠ none → m'.data.currentState ≠ none
  deferEvents : m.deferEvents = [] → m'.deferEvents = []
  queue : m.deferEvents = [] → Trimmed m.queue m'.queue

theorem Frame.refl (m : IncallDataStateMachine) : Frame m m :=
  ⟨rfl, rfl, rfl, rfl, rfl, rfl, rfl, rfl, id, id, fun _ => .refl _⟩

theorem Frame.trans (h : Frame m m') (h' : Frame m' m'') : Frame m m'' where
  originalState := h'.originalState.trans h.originalState
  isQuit := h'.isQuit.trans h.isQuit
  generation := h'.generation.trans h.generation
  objects := h'.objects.trans h.objects
  cellularDataHandler := h'.cellularDataHandler.trans h.cellularDataHandler
  apnManager := h'.apnManager.trans h.apnManager
  slotId := h'.slotId.trans h.slotId
  callState := h'.callState.trans h.callState
  currentState hcur := h'.currentState (h.currentState hcur)
  deferEvents hdefer := h'.deferEvents (h.deferEvents hdefer)
  queue hdefer := (h.queue hdefer).trans (h'.queue (h.deferEvents hdefer))

namespace Frame

theorem emit (h : Frame m m') {o : IncallOutput} : Frame m (m'.emit o) :=
  h.trans ⟨rfl, rfl, rfl, rfl, rfl, rfl, rfl, rfl, id, id, fun _ => .refl _⟩

theorem setActive (h : Frame m m') {b : Bool} : Frame m (m'.setActive st b) :=
  h.trans ⟨rfl, rfl, rfl, rfl, rfl, rfl, rfl, rfl, id, id, fun _ => .refl _⟩

theorem setCurrentState (h : Frame m m') : Frame m (m'.setCurrentState st) :=
  h.trans ⟨rfl, rfl, rfl, rfl, rfl, rfl, rfl, rfl, nofun, id, fun _ => .refl _⟩

theorem sendIncallDataComplete (h : Frame m m') : Frame m m'.sendIncallDataComplete := by
  unfold IncallDataStateMachine.sendIncallDataComplete
  split_ifs
  · exact h.emit
  · exact h

theorem transitionTo (h : Frame m m') {st : IncallState} : Frame m (m'.transitionTo st) := by
  unfold IncallDataStateMachine.transitionTo
  split
  · exact h.trans ⟨rfl, rfl, rfl, rfl, rfl, rfl, rfl, rfl, id, id, fun _ => .refl _⟩
  · exact h

theorem removeEvent (h : Frame m m') : Frame m (m'.removeEvent isDsdsChanged) :=
  h.trans ⟨rfl, rfl, rfl, rfl, rfl, rfl, rfl, rfl, id, id, fun _ => trimmed_removeEvent _⟩

end Frame

theorem frame_stateBegin (env : IncallEnv) (st : StateObject) (m : IncallDataStateMachine) :
    Frame m (stateBegin env m st) := by
  have hactive : Frame m (m.setActive st true) := (Frame.refl m).setActive
  unfold stateBegin
  cases st.state with
  | idle =>
    show Frame m (if ((m.setActive st true).setCurrentState st).isCallOver then _ else _)
    split_ifs
    · exact hactive.setCurrentState.sendIncallDataComplete
    · exact hactive.setCurrentState
  | secondaryActive => exact hactive
  | activatingSecondary => exact hactive.setCurrentState
  | activatedSecondary => exact hactive.setCurrentState
  | deactivatingSecondary =>
    dsimp only
    unfold deactivatingBegin
    dsimp only
    split_ifs
    · exact hactive.setCurrentState.emit.transitionTo
    · exact hactive.setCurrentState.emit
    · exact hactive.setCurrentState.transitionTo.transitionTo
    · exact hactive.setCurrentState.transitionTo

theorem frame_activateSecondary (m : IncallDataStateMachine) :
    Frame m (m.activateSecondary env) := by
  have hm : Frame m m := .refl m
  unfold activateSecondary
  dsimp only
  split_ifs
  · exact hm.transitionTo.emit
  · exact hm
  · exact hm

theorem frame_deactivateSecondary (m : IncallDataStateMachine) :
    Frame m (m.deactivateSecondary env) := by
  unfold deactivateSecondary
  split_ifs
  · exact (Frame.refl m).transitionTo
  · exact (Frame.refl m).transitionTo

theorem frame_stateProcess (st : StateObject) (e : IncallMachineEvent)
    (m : IncallDataStateMachine) : Frame m (stateProcess env m st e).2 := by
  have hm : Frame m m := .refl m
  unfold stateProcess
  cases st.state with
  | idle =>
    cases e with
    | callStarted => exact frame_activateSecondary m
    | settingsOn => exact frame_activateSecondary m
    | dsdsChanged => exact frame_activateSecondary m
    | callEnded =>
      show Frame m (sendIncallDataComplete (if m.queue.hasInnerEvent isDsdsChanged then
        m.removeEvent isDsdsChanged else m))
      split_ifs
      · exact hm.removeEvent.sendIncallDataComplete
      · exact hm.sendIncallDataComplete
    | _ => exact hm
  | secondaryActive =>
    cases e with
    | callEnded =>
      show Frame m (if m.isCallOver then m.deactivateSecondary env else m)
      split_ifs
      · exact frame_deactivateSecondary m
      · exact hm
    | settingsOff =>
      show Frame m (if !isIncallDataSwitchOn env then m.deactivateSecondary env else m)
      split_ifs
      · exact frame_deactivateSecondary m
      · exact hm
    | _ => exact hm
  | activatingSecondary =>
    cases e with
    | dataConnected => exact hm.transitionTo
    | _ => exact hm
  | activatedSecondary => exact hm
  | deactivatingSecondary =>
    cases e with
    | dataDisconnected =>
      show Frame m (if m.data.slotId ≠ env.primarySlotId then m.transitionTo .idle else m)
      split_ifs
      · exact hm.transitionTo
      · exact hm
    | _ => exact hm

theorem frame_respects (env : IncallEnv) : (states env).Respects Frame where
  refl := .refl
  trans := .trans
  stateBegin := frame_stateBegin env
  stateEnd _ m := (Frame.refl m).setActive
  stateProcess := frame_stateProcess
  destState _ _ := ⟨rfl, rfl, rfl, rfl, rfl, rfl, rfl, rfl, id, id, fun _ => .refl _⟩
  curState _ _ := ⟨rfl, rfl, rfl, rfl, rfl, rfl, rfl, rfl, id, id, fun _ => .refl _⟩
  deferred m := by
    refine ⟨rfl, rfl, rfl, rfl, rfl, rfl, rfl, rfl, id, fun _ => rfl, fun hdefer => ?_⟩
    have hqueue : m.sendDeferredEvent.queue = m.queue := by
      unfold EventHandler.sendDeferredEvent EventQueue.sendImmediateEvents
      rw [hdefer, List.append_nil]
    rw [hqueue]
    exact .refl _
  stop he _ := nomatch he

theorem frame_process (env : IncallEnv) (m : IncallDataStateMachine) (e : IncallMachineEvent) :
    Frame m (process env m e) :=
  (frame_respects env).processEvent m

/-! What the states ask for -/

/-- A state of the machine that has a record; `SecondaryActive` is only a parent. -/
def isLeaf (st : StateObject) : Bool := st.state ≠ .secondaryActive

/-- The event can start the switch to the secondary card. -/
def Starts (e : IncallMachineEvent) : Prop := e = .callStarted ∨ e = .settingsOn ∨ e = .dsdsChanged

/-- The event ends the switch to the secondary card. -/
def Leaves (env : IncallEnv) (m : IncallDataStateMachine) (e : IncallMachineEvent) : Prop :=
  e = .callEnded ∧ m.isCallOver = true ∨ e = .settingsOff ∧ isIncallDataSwitchOn env = false

/-- The transition that a leaf asks for, if it asks for one, and what it sends. -/
inductive Request (env : IncallEnv) (m : IncallDataStateMachine) :
    IncallState → IncallMachineEvent → Option IncallState → List IncallOutput → Prop
  | ignore (st : IncallState) (e : IncallMachineEvent) : Request env m st e none []
  | complete : Request env m .idle .callEnded none [.incallDataComplete]
  | activate {e : IncallMachineEvent} (he : Starts e) (slotId : Int) :
      Request env m .idle e (some .activatingSecondary) [.setDefaultCellularDataSlotId slotId]
  | connected : Request env m .activatingSecondary .dataConnected (some .activatedSecondary) []
  | deactivate {st : IncallState} {e : IncallMachineEvent}
      (hst : st = .activatingSecondary ∨ st = .activatedSecondary) (he : Leaves env m e)
      (hslot : env.defaultCellularDataSlotId ≠ env.primarySlotId) :
      Request env m st e (some .deactivatingSecondary) []
  | finish {st : IncallState} {e : IncallMachineEvent}
      (hst : st = .activatingSecondary ∨ st = .activatedSecondary) (he : Leaves env m e)
      (hslot : env.defaultCellularDataSlotId = env.primarySlotId) :
      Request env m st e (some .idle) []
  | disconnected : Request env m .deactivatingSecondary .dataDisconnected (some .idle) []

/-- The destination after a request; null state objects are no destination. -/
def destAfter (m : IncallDataStateMachine) : Option IncallState → Option StateObject
  | some st => (m.data.objects.map fun g => ⟨g, st⟩).or m.destState
  | none => m.destState

/-- The machine after it has asked for a transition and sent something. -/
structure Asked (m m' : IncallDataStateMachine) (r : Option IncallState) (os : List IncallOutput) :
    Prop where
  curState : m'.curState = m.curState
  currentState : m'.data.currentState = m.data.currentState
  destState : m'.destState = m.destAfter r
  outbox : m'.data.outbox = m.data.outbox ++ os

theorem asked_refl (m : IncallDataStateMachine) : Asked m m none [] :=
  ⟨rfl, rfl, rfl, (List.append_nil _).symm⟩

theorem asked_transitionTo (m : IncallDataStateMachine) (st : IncallState) :
    Asked m (m.transitionTo st) (some st) [] := by
  unfold transitionTo
  cases hobjects : m.data.objects with
  | none =>
    have hdest : m.destState = m.destAfter (some st) := by
      unfold destAfter
      rw [hobjects]
      rfl
    exact ⟨rfl, rfl, hdest, (List.append_nil _).symm⟩
  | some g =>
    have hdest : some ⟨g, st⟩ = m.destAfter (some st) := by
      unfold destAfter
      rw [hobjects]
      rfl
    exact ⟨rfl, rfl, hdest, (List.append_nil _).symm⟩

theorem Asked.emit {r : Option IncallState} (h : Asked m m' r []) (o : IncallOutput) :
    Asked m (m'.emit o) r [o] where
  curState := h.curState
  currentState := h.currentState
  destState := h.destState
  outbox := by
    have hout := h.outbox
    rw [List.append_nil] at hout
    exact congrArg (· ++ [o]) hout

theorem activateSecondary_request (he : Starts e) (m : IncallDataStateMachine) :
    ∃ r os, Request env m .idle e r os ∧ Asked m (m.activateSecondary env) r os := by
  have hstay : ∃ r os, Request env m .idle e r os ∧ Asked m m r os :=
    ⟨none, [], .ignore _ _, asked_refl m⟩
  unfold activateSecondary
  dsimp only
  split_ifs
  · exact ⟨_, _, .activate he _, (asked_transitionTo m _).emit _⟩
  · exact hstay
  · exact hstay

theorem idleProcessCallEnded_request (m : IncallDataStateMachine) :
    ∃ r os, Request env m .idle .callEnded r os ∧ Asked m m.idleProcessCallEnded r os := by
  have htrim {m' : IncallDataStateMachine} (h : Asked m m' none []) :
      ∃ r os, Request env m .idle .callEnded r os ∧ Asked m m'.sendIncallDataComplete r os := by
    unfold sendIncallDataComplete
    split_ifs
    · exact ⟨_, _, .complete, h.emit _⟩
    · exact ⟨_, _, .ignore _ _, h⟩
  unfold idleProcessCallEnded
  dsimp only
  split_ifs
  · exact htrim ⟨rfl, rfl, rfl, (List.append_nil _).symm⟩
  · exact htrim (asked_refl m)

theorem deactivateSecondary_request {st : IncallState}
    (hst : st = .activatingSecondary ∨ st = .activatedSecondary) (he : Leaves env m e) :
    ∃ r os, Request env m st e r os ∧ Asked m (m.deactivateSecondary env) r os := by
  unfold deactivateSecondary
  split_ifs with hslot
  · exact ⟨_, _, .deactivate hst he hslot, asked_transitionTo m _⟩
  · exact ⟨_, _, .finish hst he (not_not.mp hslot), asked_transitionTo m _⟩

theorem secondaryActive_request {st : IncallState}
    (hst : st = .activatingSecondary ∨ st = .activatedSecondary) (e : IncallMachineEvent)
    (m : IncallDataStateMachine) :
    ∃ r os, Request env m st e r os ∧ Asked m (m.secondaryActiveProcess env e).2 r os := by
  have hstay : ∃ r os, Request env m st e r os ∧ Asked m m r os :=
    ⟨none, [], .ignore _ _, asked_refl m⟩
  cases e with
  | callEnded =>
    show ∃ r os, _ ∧ Asked m (if m.isCallOver then m.deactivateSecondary env else m) r os
    split_ifs with hover
    · exact deactivateSecondary_request hst (.inl ⟨rfl, hover⟩)
    · exact hstay
  | settingsOff =>
    show ∃ r os, _ ∧
      Asked m (if !isIncallDataSwitchOn env then m.deactivateSecondary env else m) r os
    split_ifs with hoff
    · exact deactivateSecondary_request hst (.inr ⟨rfl, (Bool.not_eq_true' _).mp hoff⟩)
    · exact hstay
  | _ => exact hstay

theorem deactivatingSecondary_request (e : IncallMachineEvent) (m : IncallDataStateMachine) :
    ∃ r os, Request env m .deactivatingSecondary e r os ∧
      Asked m (m.deactivatingSecondaryProcess env e).2 r os := by
  cases e with
  | dataDisconnected =>
    show ∃ r os, _ ∧
      Asked m (if m.data.slotId ≠ env.primarySlotId then m.transitionTo .idle else m) r os
    split_ifs
    · exact ⟨_, _, .disconnected, asked_transitionTo m _⟩
    · exact ⟨none, [], .ignore _ _, asked_refl m⟩
  | _ => exact ⟨none, [], .ignore _ _, asked_refl m⟩

/-- The event goes to the leaf and, where the leaf has not taken it, to its parent. -/
theorem processMsg_request (env : IncallEnv) (hcur : m.curState = some st)
    (hst : isLeaf st = true) (e : IncallMachineEvent) : ∃ r os, Request env m st.state e r os ∧
      Asked m (EventHandler.processMsg m (states env) e) r os := by
  unfold EventHandler.processMsg
  rw [hcur]
  obtain ⟨g, st⟩ := st
  cases st with
  | idle =>
    have hpath : EventHandler.processPath (states env) e [⟨g, .idle⟩] m =
        (m.idleProcess env e).2 := EventHandler.processPath_singleton
    show ∃ r os, _ ∧ Asked m (EventHandler.processPath (states env) e [⟨g, .idle⟩] m) r os
    rw [hpath]
    cases e with
    | callStarted => exact activateSecondary_request (.inl rfl) m
    | settingsOn => exact activateSecondary_request (.inr (.inl rfl)) m
    | dsdsChanged => exact activateSecondary_request (.inr (.inr rfl)) m
    | callEnded => exact idleProcessCallEnded_request m
    | _ => exact ⟨none, [], .ignore _ _, asked_refl m⟩
  | secondaryActive => cases hst
  | activatingSecondary =>
    show ∃ r os, _ ∧ Asked m (EventHandler.processPath (states env) e
      [⟨g, .activatingSecondary⟩, ⟨g, .secondaryActive⟩] m) r os
    have hparent (hleft : activatingSecondaryProcess m e = (false, m)) :
        ∃ r os, Request env m .activatingSecondary e r os ∧ Asked m (EventHandler.processPath
          (states env) e [⟨g, .activatingSecondary⟩, ⟨g, .secondaryActive⟩] m) r os := by
      rw [EventHandler.processPath_cons_of_left hleft,
        EventHandler.processPath_singleton]
      exact secondaryActive_request (.inl rfl) e m
    cases e with
    | dataConnected => exact ⟨_, _, .connected, asked_transitionTo m _⟩
    | _ => exact hparent rfl
  | activatedSecondary =>
    show ∃ r os, _ ∧ Asked m (EventHandler.processPath (states env) e
      [⟨g, .activatedSecondary⟩, ⟨g, .secondaryActive⟩] m) r os
    have hleft : (states env).stateProcess ⟨g, .activatedSecondary⟩ e m = (false, m) := rfl
    rw [EventHandler.processPath_cons_of_left hleft, EventHandler.processPath_singleton]
    exact secondaryActive_request (.inr rfl) e m
  | deactivatingSecondary =>
    have hpath : EventHandler.processPath (states env) e [⟨g, .deactivatingSecondary⟩] m =
        (m.deactivatingSecondaryProcess env e).2 := EventHandler.processPath_singleton
    show ∃ r os, _ ∧ Asked m (EventHandler.processPath (states env) e
      [⟨g, .deactivatingSecondary⟩] m) r os
    rw [hpath]
    exact deactivatingSecondary_request e m

theorem Request.isLeaf {s s' : IncallState} {os : List IncallOutput}
    (h : Request env m s e (some s') os) : s' ≠ .secondaryActive := by
  cases h <;> decide

theorem Request.deactivating {s : IncallState} {os : List IncallOutput}
    (h : Request env m s e (some .deactivatingSecondary) os) :
    (s = .activatingSecondary ∨ s = .activatedSecondary) ∧ Leaves env m e ∧
      env.defaultCellularDataSlotId ≠ env.primarySlotId := by
  cases h with
  | deactivate hst he hslot => exact ⟨hst, he, hslot⟩

theorem stateProcess_asked (env : IncallEnv) (st : StateObject) (e : IncallMachineEvent)
    (m : IncallDataStateMachine) : ∃ s r os, Request env m s e r os ∧
      Asked m (stateProcess env m st e).2 r os := by
  have hstay : ∃ s r os, Request env m s e r os ∧ Asked m m r os :=
    ⟨.idle, none, [], .ignore _ _, asked_refl m⟩
  unfold stateProcess
  cases st.state with
  | idle =>
    cases e with
    | callStarted => exact ⟨_, activateSecondary_request (.inl rfl) m⟩
    | settingsOn => exact ⟨_, activateSecondary_request (.inr (.inl rfl)) m⟩
    | dsdsChanged => exact ⟨_, activateSecondary_request (.inr (.inr rfl)) m⟩
    | callEnded => exact ⟨_, idleProcessCallEnded_request m⟩
    | _ => exact hstay
  | secondaryActive => exact ⟨_, secondaryActive_request (.inl rfl) e m⟩
  | activatingSecondary =>
    cases e with
    | dataConnected => exact ⟨_, _, _, .connected, asked_transitionTo m _⟩
    | _ => exact hstay
  | activatedSecondary => exact hstay
  | deactivatingSecondary => exact ⟨_, deactivatingSecondary_request e m⟩

/-- A request is for a leaf, if the machine has its state objects. -/
theorem destAfter_cases {s : IncallState} {r : Option IncallState} {os : List IncallOutput}
    (h : Request env m s e r os) : m.destAfter r = m.destState ∨
      ∃ g s', r = some s' ∧ m.data.objects = some g ∧ isLeaf ⟨g, s'⟩ = true ∧
        m.destAfter r = some ⟨g, s'⟩ := by
  cases r with
  | none => exact .inl rfl
  | some s' =>
    unfold destAfter
    cases hobjects : m.data.objects with
    | none => exact .inl rfl
    | some g => exact .inr ⟨g, s', rfl, rfl, decide_eq_true h.isLeaf, rfl⟩

/-- Only the entry into `DeactivatingSecondary` may ask for a transition. -/
theorem stateBegin_destState (env : IncallEnv) (hst : st.state ≠ .deactivatingSecondary)
    (m : IncallDataStateMachine) : (stateBegin env m st).destState = m.destState := by
  unfold stateBegin
  cases hs : st.state with
  | idle =>
    dsimp only
    unfold idleBegin sendIncallDataComplete
    dsimp only
    split_ifs <;> rfl
  | deactivatingSecondary => exact absurd hs hst
  | _ => rfl

theorem deactivatingBegin_destState (hslot : env.defaultCellularDataSlotId ≠ env.primarySlotId)
    (hconnected : m.hasAnyConnectedState env = true) (st : StateObject) :
    (m.deactivatingBegin env st).destState = m.destState := by
  unfold deactivatingBegin
  dsimp only
  rw [if_pos hslot]
  split_ifs with hnone
  · have hany : hasAnyConnectedState env (((m.setActive st true).setCurrentState st).emit
        (.setDefaultCellularDataSlotId env.primarySlotId)) = true := hconnected
    rw [hany] at hnone
    cases hnone
  · rfl

theorem stateBegin_record (env : IncallEnv) (hst : isLeaf st = true)
    (m : IncallDataStateMachine) :
    (stateBegin env m st).data.currentState = some st := by
  have htransition (x : IncallDataStateMachine) (s : IncallState) :
      (x.transitionTo s).data.currentState = x.data.currentState :=
    (asked_transitionTo x s).currentState
  unfold stateBegin
  cases hs : st.state with
  | idle =>
    dsimp only
    unfold idleBegin sendIncallDataComplete
    dsimp only
    split_ifs <;> rfl
  | secondaryActive =>
    have hne := of_decide_eq_true hst
    exact absurd hs hne
  | deactivatingSecondary =>
    dsimp only
    unfold deactivatingBegin
    dsimp only
    split_ifs
    · exact htransition _ _
    · rfl
    · exact (htransition _ _).trans (htransition _ _)
    · exact htransition _ _
  | _ => rfl

theorem recording (env : IncallEnv) : Recording (states env) isLeaf fun d => d.currentState where
  ancestor {st a} ha := by
    obtain ⟨g, s⟩ := st
    cases s with
    | activatingSecondary => exact List.mem_singleton.mp ha ▸ rfl
    | activatedSecondary => exact List.mem_singleton.mp ha ▸ rfl
    | _ => cases ha
  begin_record := stateBegin_record env
  ancestor_record {st} hst m := by
    obtain ⟨g, s⟩ := st
    cases s with
    | secondaryActive => rfl
    | _ => cases hst
  ancestor_destState {st} hst m := by
    obtain ⟨g, s⟩ := st
    cases s with
    | secondaryActive => rfl
    | _ => cases hst
  end_record _ _ := rfl
  end_curState _ _ := rfl
  end_destState _ _ := rfl
  process_record st e m := by
    obtain ⟨_, _, _, -, hasked⟩ := stateProcess_asked env st e m
    exact hasked.currentState
  process_curState st e m := by
    obtain ⟨_, _, _, -, hasked⟩ := stateProcess_asked env st e m
    exact hasked.curState
  process_destState st e m := by
    obtain ⟨_, _, _, hrequest, hasked⟩ := stateProcess_asked env st e m
    rcases destAfter_cases hrequest with hsame | ⟨g, s', -, -, hleaf, hdest⟩
    · exact .inl (hasked.destState.trans hsame)
    · exact .inr ⟨_, hleaf, hasked.destState.trans hdest⟩

end IncallDataStateMachine
end CellularData
