import CellularData.Lib.ListModify
import CellularData.Slot.Core

/-! The abstract view of a slot, and the operations that it does not see. -/
namespace CellularData
open Lib StateMachine

namespace Slot

variable {env : Env} {s s' : Slot}

def core (s : Slot) : Core where
  state t := (s.holder t).apnState
  owner t := (s.holder t).cellularDataStateMachine
  controls := s.stateMachines.map CellularDataStateMachine.control
  registry := s.cidActiveConnectionMap
  notices := s.queue.ready.filter HandlerEvent.isNotice
  connectLog := s.connectLog
  callLog := s.callLog

/-- What holds of a slot's machines and queue between any two operations. -/
structure Regular (s : Slot) : Prop where
  settled : ∀ x ∈ s.stateMachines, x.Settled
  immediate : s.queue.immediate = []
  delayed : ∀ e ∈ s.queue.delayed, e.isNotice = false

/-- An operation that the abstract slot does not see. -/
structure Hidden (s s' : Slot) : Prop where
  core : s'.core = s.core
  regular : s.Regular → s'.Regular

theorem Hidden.refl (s : Slot) : Hidden s s := ⟨rfl, id⟩

theorem Hidden.trans {s'' : Slot} (h : Hidden s s') (h' : Hidden s' s'') : Hidden s s'' :=
  ⟨h'.core.trans h.core, fun hr => h'.regular (h.regular hr)⟩

/-- The members that the abstract slot and the event loop depend on. -/
def visible (s : Slot) :=
  (s.apnManager.holder, s.stateMachines, s.cidActiveConnectionMap, s.queue, s.connectLog, s.callLog)

theorem Hidden.of_visible (h : s'.visible = s.visible) : Hidden s s' := by
  simp only [visible, Prod.mk.injEq] at h
  obtain ⟨hholder, hmachines, hregistry, hqueue, hconnect, hcall⟩ := h
  refine ⟨?_, fun hr => ⟨?_, ?_, ?_⟩⟩
  · simp only [Slot.core, holder, hholder, hmachines, hregistry, hqueue, hconnect, hcall]
  · rw [hmachines]
    exact hr.settled
  · rw [hqueue]
    exact hr.immediate
  · rw [hqueue]
    exact hr.delayed

theorem hidden_effect (e : Effect) : Hidden s (s.effect e) := .of_visible rfl

theorem hidden_setCrash (c : Crash) : Hidden s (s.setCrash c) := .of_visible rfl

/-- A change of a holder's other members. -/
theorem hidden_modifyHolder (t : ApnType) {f : ApnHolder → ApnHolder}
    (hstate : (f (s.holder t)).apnState = (s.holder t).apnState)
    (howner : (f (s.holder t)).cellularDataStateMachine = (s.holder t).cellularDataStateMachine) :
    Hidden s (s.modifyHolder t f) := by
  have hstates : ∀ u, ((s.modifyHolder t f).holder u).apnState = (s.holder u).apnState := by
    intro u
    by_cases h : u = t
    · subst h
      simpa [modifyHolder, holder, ApnManager.setHolder] using hstate
    · simp [modifyHolder, holder, ApnManager.setHolder, h]
  have howners : ∀ u, ((s.modifyHolder t f).holder u).cellularDataStateMachine =
      (s.holder u).cellularDataStateMachine := by
    intro u
    by_cases h : u = t
    · subst h
      simpa [modifyHolder, holder, ApnManager.setHolder] using howner
    · simp [modifyHolder, holder, ApnManager.setHolder, h]
  refine ⟨?_, fun hr => ⟨hr.settled, hr.immediate, hr.delayed⟩⟩
  simp only [Slot.core, hstates, howners]
  rfl

theorem hidden_requestCellularData (t : ApnType) (capability : NetCap) :
    Hidden s (s.modifyHolder t fun h => h.requestCellularData capability) :=
  hidden_modifyHolder t rfl rfl

/-! The handler's queue -/

theorem hidden_sendEvent {e : HandlerEvent} (he : e.isNotice = false) : Hidden s (s.sendEvent e) where
  core := by
    simp only [Slot.core, sendEvent, EventQueue.sendEvent_ready, List.filter_append,
      List.filter_singleton, he, cond_false, List.append_nil]
    rfl
  regular hr := ⟨hr.settled, hr.immediate, hr.delayed⟩

theorem hidden_sendEventAfter {e : HandlerEvent} (he : e.isNotice = false) (delay : Int) :
    Hidden s (s.sendEventAfter e delay) := by
  by_cases h : 0 < delay
  · refine ⟨?_, fun hr => ⟨hr.settled, ?_, ?_⟩⟩
    · simp only [Slot.core, sendEventAfter, EventQueue.sendEventAfter, h, if_true]
      rfl
    · simpa only [sendEventAfter, EventQueue.sendEventAfter, h, if_true] using hr.immediate
    · intro x hx
      simp only [sendEventAfter, EventQueue.sendEventAfter, h, if_true, List.mem_append,
        List.mem_singleton] at hx
      rcases hx with hx | rfl
      · exact hr.delayed x hx
      · exact he
  · have heq : s.sendEventAfter e delay = s.sendEvent e := by
      simp only [sendEventAfter, EventQueue.sendEventAfter, h, if_false, sendEvent]
    rw [heq]
    exact hidden_sendEvent he

theorem hidden_removeEvent {p : HandlerEvent → Bool} (hp : ∀ e, e.isNotice = true → p e = false) :
    Hidden s (s.removeEvent p) where
  core := by
    have hready : (s.queue.ready.filter fun e => !p e).filter HandlerEvent.isNotice =
        s.queue.ready.filter HandlerEvent.isNotice := by
      rw [List.filter_filter]
      refine List.filter_congr fun e _ => ?_
      cases he : e.isNotice with
      | true => simp [hp e he]
      | false => simp
    simp only [Slot.core, removeEvent, EventQueue.removeEvent_ready, hready]
    rfl
  regular hr := by
    refine ⟨hr.settled, ?_, fun e he => hr.delayed e (List.mem_filter.mp he).1⟩
    simp only [removeEvent, EventQueue.removeEvent_immediate, hr.immediate, List.filter_nil]

/-! Methods of the machines -/

/-- A method of a machine that its automaton does not see. -/
theorem hidden_callMachine (m : MachineRef)
    {f : CellularDataStateMachine → CellularDataStateMachine}
    (hf : ∀ x, CellularDataStateMachine.Unchanged x (f x)) : Hidden s (s.callMachine m f) := by
  unfold callMachine
  cases hm : s.machine? m with
  | none => exact .refl s
  | some x =>
    have hx : s.stateMachines[m]? = some x := hm
    constructor
    · have hcontrols : (s.stateMachines.set m (f x).clearOutbox).map
          CellularDataStateMachine.control = s.stateMachines.map CellularDataStateMachine.control := by
        have hsame : (f x).clearOutbox.control = x.control := (hf x).control
        have hget : (s.stateMachines.map CellularDataStateMachine.control)[m]? = some x.control := by
          rw [List.getElem?_map, hx]
          rfl
        rw [List.map_set, hsame, set_of_getElem? hget]
      simp only [Slot.core, hcontrols]
      rfl
    · intro hr
      refine ⟨fun y hy => ?_, hr.immediate, hr.delayed⟩
      rcases List.mem_or_eq_of_mem_set hy with hy | rfl
      · exact hr.settled y hy
      · exact (hr.settled x (List.mem_of_getElem? hx)).unchanged (hf x)

theorem apnManager_callMachine (m : MachineRef)
    (f : CellularDataStateMachine → CellularDataStateMachine) :
    (s.callMachine m f).apnManager = s.apnManager :=
  apply_callMachine apnManager (fun _ _ _ => rfl) m f

theorem apnManager_updateCellularDataConnectState (t : ApnType) :
    (s.updateCellularDataConnectState t).apnManager = s.apnManager :=
  apply_updateCellularDataConnectState apnManager (fun _ _ => rfl) t

theorem hidden_updateCellularDataConnectState (t : ApnType) :
    Hidden s (s.updateCellularDataConnectState t) := by
  unfold updateCellularDataConnectState
  split_ifs
  · exact hidden_effect _
  · exact .refl s

/-! Data permission -/

theorem hidden_setDataPermitted (slotId : Int) (b : Bool) :
    Hidden s (s.setDataPermitted env slotId b) := by
  unfold setDataPermitted
  split_ifs
  · exact .refl s
  · exact .refl s
  · exact hidden_effect _

theorem hidden_setDataPermittedForMms (b : Bool) : Hidden s (s.setDataPermittedForMms env b) := by
  unfold setDataPermittedForMms
  split_ifs
  · exact .refl s
  · exact .refl s
  · exact .refl s
  · exact ((hidden_setDataPermitted _ _).trans (hidden_setDataPermitted _ _)).trans (hidden_effect _)

theorem apnManager_setDataPermittedForMms (b : Bool) :
    (s.setDataPermittedForMms env b).apnManager = s.apnManager :=
  apply_setDataPermittedForMms apnManager (fun _ _ _ => rfl) (fun _ _ _ => rfl) b

/-! Members that the operations on holders and machines leave alone -/

def setting (s : Slot) :=
  (s.slotId, s.queue, s.multipleConnectionsEnabled, s.hasIncallDataStateMachine)

theorem queue_of_setting (h : s'.setting = s.setting) : s'.queue = s.queue := congrArg (·.2.1) h

theorem setting_callMachine (m : MachineRef)
    (f : CellularDataStateMachine → CellularDataStateMachine) :
    (s.callMachine m f).setting = s.setting :=
  apply_callMachine setting (fun _ _ _ => rfl) m f

theorem setting_updateCellularDataConnectState (t : ApnType) :
    (s.updateCellularDataConnectState t).setting = s.setting :=
  apply_updateCellularDataConnectState setting (fun _ _ => rfl) t

theorem setting_setDataPermittedForMms (b : Bool) :
    (s.setDataPermittedForMms env b).setting = s.setting :=
  apply_setDataPermittedForMms setting (fun _ _ _ => rfl) (fun _ _ _ => rfl) b

theorem setting_applyApnReload (r : ApnReload) : (s.applyApnReload r).setting = s.setting := by
  unfold applyApnReload
  split <;> rfl

theorem setting_setApnBadState (t : ApnType) (isBad : Bool) :
    (s.setApnBadState t isBad).setting = s.setting := by
  unfold setApnBadState
  split <;> rfl

theorem setting_setApnActivateStart (t : ApnType) :
    (s.setApnActivateStart env t).setting = s.setting :=
  apply_setApnActivateStart setting (fun _ _ _ => rfl) t

theorem setting_startConnection (t : ApnType) (m : MachineRef) (apnItem : ItemRef)
    (radioTech : RadioTech) :
    (s.startConnection env t m apnItem radioTech).setting = s.setting := by
  unfold startConnection
  exact (setting_setApnActivateStart t).trans
    ((setting_updateCellularDataConnectState t).trans (setting_callMachine m _))

theorem setting_findOrCreateCellularDataConnect :
    s.findOrCreateCellularDataConnect.1.setting = s.setting := by
  unfold findOrCreateCellularDataConnect
  split <;> rfl

theorem setting_releaseMachine (t : ApnType) (m : MachineRef) (info : SetupDataCallResultInfo) :
    (s.releaseMachine env t m info).setting = s.setting :=
  apply_releaseMachine setting (fun _ => setting_callMachine m _) fun _ _ => rfl

/-! Members that only searches, faults and completions write -/

def marks (s : Slot) := (s.crash, s.apnActivateChrList)

theorem marks_callMachine (m : MachineRef)
    (f : CellularDataStateMachine → CellularDataStateMachine) :
    (s.callMachine m f).marks = s.marks :=
  apply_callMachine marks (fun _ _ _ => rfl) m f

theorem marks_updateCellularDataConnectState (t : ApnType) :
    (s.updateCellularDataConnectState t).marks = s.marks :=
  apply_updateCellularDataConnectState marks (fun _ _ => rfl) t

theorem marks_setDataPermittedForMms (b : Bool) :
    (s.setDataPermittedForMms env b).marks = s.marks :=
  apply_setDataPermittedForMms marks (fun _ _ _ => rfl) (fun _ _ _ => rfl) b

theorem marks_applyApnReload (r : ApnReload) : (s.applyApnReload r).marks = s.marks := by
  unfold applyApnReload
  split <;> rfl

theorem marks_setApnBadState (t : ApnType) (isBad : Bool) :
    (s.setApnBadState t isBad).marks = s.marks := by
  unfold setApnBadState
  split <;> rfl

theorem marks_startConnection (t : ApnType) (m : MachineRef) (apnItem : ItemRef)
    (radioTech : RadioTech) : (s.startConnection env t m apnItem radioTech).marks = s.marks := by
  unfold startConnection
  extract_lets s₁ s₂ s₃ s₄ s₅ s₆
  have h₁ : s₁.marks = s.marks := marks_callMachine m _
  have h₅ : s₅.marks = s₄.marks := marks_updateCellularDataConnectState t
  have hstart : (setApnActivateStart env s₆ t).marks = s₆.marks :=
    apply_setApnActivateStart marks (fun _ _ _ => rfl) t
  exact hstart.trans (h₅.trans h₁)

theorem marks_findOrCreateCellularDataConnect :
    s.findOrCreateCellularDataConnect.1.marks = s.marks := by
  unfold findOrCreateCellularDataConnect
  split <;> rfl

theorem marks_releaseMachine (t : ApnType) (m : MachineRef) (info : SetupDataCallResultInfo) :
    (s.releaseMachine env t m info).marks = s.marks :=
  apply_releaseMachine marks (fun _ => marks_callMachine m _) fun _ _ => rfl

end Slot
end CellularData
