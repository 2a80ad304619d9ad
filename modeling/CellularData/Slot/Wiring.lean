import CellularData.Machine.Port
import CellularData.Slot.Invariant
import CellularData.Slot.Steps

/-! The ports of the machines: state, capability, item and reuse, and the reuses that the slot has set
and taken back at the net manager. -/
namespace CellularData
open Lib StateMachine Relation

def Effect.reuseCall : Effect → Option ReuseCall
  | .machine m o => o.reuseCall m
  | _ => none

/-- The machines' ports and the calls made for them, the last one first. -/
structure Wiring where
  ports : List Port
  calls : List ReuseCall

namespace Wiring

variable {w w' : Wiring}

/-- What the handler does to the ports of the machines. -/
inductive Plugs : Wiring → Wiring → Prop
  | reuse {w : Wiring} {m : MachineRef} {p : Port} {reuseApnCap : NetCap}
      (hm : w.ports[m]? = some p) (hactive : p.state = some .active) (hcap : reuseApnCap ≠ .end_) :
      Plugs w
        ⟨w.ports.set m { p with reuseApnCap }, ⟨m, p.capability, reuseApnCap, true⟩ :: w.calls⟩
  | capability {w : Wiring} {m : MachineRef} {p : Port} {capability : NetCap}
      (hm : w.ports[m]? = some p) (hstate : p.state ≠ some .active) :
      Plugs w ⟨w.ports.set m { p with capability }, w.calls⟩
  | create {w : Wiring} : Plugs w ⟨w.ports ++ [({} : Port)], w.calls⟩

abbrev Plugged : Wiring → Wiring → Prop := ReflTransGen Plugs

def item (w : Wiring) (m : MachineRef) : Option ApnItem := w.ports[m]?.bind (·.apnItem)

theorem item_set {p p' : Port} {m : MachineRef} {calls : List ReuseCall}
    (hm : w.ports[m]? = some p) (n : MachineRef) :
    item ⟨w.ports.set m p', calls⟩ n = if n = m then p'.apnItem else w.item n := by
  have hlt : m < w.ports.length := (List.getElem?_eq_some_iff.mp hm).1
  unfold item
  split_ifs with hn
  · subst hn
    rw [List.getElem?_set_self hlt, Option.bind_some]
  · rw [List.getElem?_set_ne (Ne.symm hn)]

theorem item_of_port {p : Port} {m : MachineRef} (hm : w.ports[m]? = some p) :
    w.item m = p.apnItem := by
  rw [item, hm, Option.bind_some]

/-- The handler gives no machine an item. -/
theorem item_plugs (hp : Plugs w w') (n : MachineRef) : w'.item n = w.item n := by
  cases hp with
  | reuse hm _ _ =>
    rw [item_set hm]
    split_ifs with hn
    · rw [hn, item_of_port hm]
    · rfl
  | capability hm _ =>
    rw [item_set hm]
    split_ifs with hn
    · rw [hn, item_of_port hm]
    · rfl
  | create =>
    unfold item
    by_cases hlt : n < w.ports.length
    · rw [List.getElem?_append_left hlt]
    · rw [List.getElem?_append_right (Nat.not_lt.mp hlt), List.getElem?_eq_none (Nat.not_lt.mp hlt),
        List.getElem?_singleton]
      split_ifs <;> rfl

theorem item_plugged (hp : Plugged w w') (n : MachineRef) : w'.item n = w.item n :=
  reflTransGen_invariant (P := fun w' => w'.item n = w.item n)
    (fun _ _ h hp => (item_plugs hp n).trans h) hp rfl

end Wiring

namespace Slot

variable {env : Env} {s s' : Slot} {t : ApnType}

def reuseLog (s : Slot) : List ReuseCall := s.effects.filterMap Effect.reuseCall

def wiring (s : Slot) : Wiring := ⟨s.stateMachines.map (·.port), s.reuseLog⟩

/-- What the wiring depends on. -/
def wires (s : Slot) := (s.stateMachines, s.effects)

theorem wiring_of_wires (h : s'.wires = s.wires) : s'.wiring = s.wiring := by
  obtain ⟨hmachines, heffects⟩ := Prod.mk.inj h
  unfold wiring reuseLog
  rw [hmachines, heffects]

theorem wiring_effect {e : Effect} (he : e.reuseCall = none) : (s.effect e).wiring = s.wiring := by
  have hlog : (s.effect e).reuseLog = s.reuseLog := List.filterMap_cons_none he
  unfold wiring
  rw [hlog]
  rfl

theorem reuseCall_of_isOrdinary {e : Effect} (he : e.isOrdinary = true) : e.reuseCall = none := by
  cases e <;> first | rfl | cases he

theorem wiring_updateCellularDataConnectState (t : ApnType) :
    (s.updateCellularDataConnectState t).wiring = s.wiring :=
  apply_updateCellularDataConnectState wiring (fun _ _ => wiring_effect rfl) t

theorem wiring_setDataPermittedForMms (b : Bool) :
    (s.setDataPermittedForMms env b).wiring = s.wiring :=
  apply_setDataPermittedForMms wiring (fun _ _ _ => wiring_effect rfl)
    (fun _ _ _ => wiring_effect rfl) b

theorem wiring_lendDataPermitted : (s.lendDataPermitted env).wiring = s.wiring := by
  unfold lendDataPermitted
  refine (wiring_setDataPermittedForMms true).trans ?_
  split_ifs <;> rfl

theorem wiring_handleDisconnectDataCompleteForMmsType :
    (s.handleDisconnectDataCompleteForMmsType env t).wiring = s.wiring := by
  unfold handleDisconnectDataCompleteForMmsType
  split_ifs
  · exact wiring_setDataPermittedForMms false
  · rfl

theorem ports_getElem? (s : Slot) (m : MachineRef) :
    s.wiring.ports[m]? = (s.machine? m).map (·.port) := List.getElem?_map

/-- A method that leaves the ports alone. -/
theorem wiring_modifyMachine (m : MachineRef)
    {f : CellularDataStateMachine → CellularDataStateMachine} (hf : ∀ x, (f x).port = x.port) :
    (s.modifyMachine m f).wiring = s.wiring := by
  have hports : (s.stateMachines.modify m f).map (·.port) = s.stateMachines.map (·.port) := by
    rw [map_modify (h := id) hf]
    exact List.modify_id _ _
  unfold wiring
  exact congrArg (fun ports => Wiring.mk ports s.reuseLog) hports

theorem wiring_postMachine (m : MachineRef) (e : MachineEvent) :
    (s.postMachine m e).wiring = s.wiring := wiring_modifyMachine m fun _ => rfl

theorem wiring_sendToMachines (e : MachineEvent) : (s.sendToMachines e).wiring = s.wiring := by
  have hports : (s.sendToMachines e).stateMachines.map (·.port) = s.stateMachines.map (·.port) := by
    unfold sendToMachines
    rw [List.map_map]
    exact List.map_congr_left fun _ _ => rfl
  unfold wiring
  rw [hports]
  rfl

/-- A method and what it sends. -/
theorem wiring_callMachine (m : MachineRef)
    (f : CellularDataStateMachine → CellularDataStateMachine) {x : CellularDataStateMachine}
    (hm : s.machine? m = some x) :
    (s.callMachine m f).wiring = ⟨s.wiring.ports.set m (f x).port,
      ((f x).reuseCalls.filterMap (·.reuseCall m)).reverse ++ s.reuseLog⟩ := by
  unfold callMachine
  rw [hm]
  have hlog : (((f x).data.outbox.map (Effect.machine m)).reverse ++ s.effects).filterMap
      Effect.reuseCall = ((f x).reuseCalls.filterMap (·.reuseCall m)).reverse ++ s.reuseLog := by
    rw [List.filterMap_append, List.filterMap_reverse, List.filterMap_map,
      CellularDataStateMachine.reuseCalls, ← CellularDataStateMachine.filterMap_reuseCall]
    rfl
  have hports : (s.stateMachines.set m (f x).clearOutbox).map (·.port) =
      s.wiring.ports.set m (f x).port := List.map_set
  exact congrArg₂ Wiring.mk hports hlog

theorem wiring_publishes (hr : s.Regular) (m : MachineRef)
    {f : CellularDataStateMachine → CellularDataStateMachine}
    (hf : ∀ x, CellularDataStateMachine.Publishes x (f x)) :
    (s.callMachine m f).wiring = s.wiring := by
  cases hm : s.machine? m with
  | none =>
    have heq : s.callMachine m f = s := by simp only [callMachine, hm]
    rw [heq]
  | some x =>
    have hx := hr.settled x (List.mem_of_getElem? hm)
    have hport : s.wiring.ports[m]? = some x.port := by rw [ports_getElem?, hm, Option.map_some]
    rw [wiring_callMachine m f hm, CellularDataStateMachine.port_publishes (hf x),
      (hf x).bound.reuseCalls, CellularDataStateMachine.reuseCalls_settled hx, set_of_getElem? hport]
    rfl

theorem wiring_releaseMachine (hr : s.Regular) (m : MachineRef) (info : SetupDataCallResultInfo) :
    (s.releaseMachine env t m info).wiring = s.wiring := by
  refine apply_releaseMachine wiring (fun menv => ?_) fun _ _ => rfl
  exact wiring_publishes hr m fun _ =>
    CellularDataStateMachine.publishes_updateNetworkInfoFrom info

/-! The capabilities of the holders are those of their types -/

def Equipped (s : Slot) : Prop := ∀ t, (s.holder t).capability ≠ .end_

theorem Equipped.of_apnManager (h : s.Equipped) (heq : s'.apnManager = s.apnManager) :
    s'.Equipped := by
  intro t
  unfold holder
  rw [heq]
  exact h t

theorem Equipped.modifyHolder (h : s.Equipped) {f : ApnHolder → ApnHolder}
    (hf : (f (s.holder t)).capability ≠ .end_) : (s.modifyHolder t f).Equipped := by
  intro u
  rw [holder_modifyHolder]
  split_ifs with hu
  · exact hf
  · exact h u

theorem capability_setApnState (x : ApnHolder) (st : ApnProfileState) :
    (x.setApnState st).capability = x.capability := by
  unfold ApnHolder.setApnState
  split_ifs <;> rfl

theorem Equipped.setApnState (h : s.Equipped) (t : ApnType) (st : ApnProfileState) :
    (s.setApnState t st).Equipped := by
  refine h.modifyHolder ?_
  rw [capability_setApnState]
  exact h t

theorem Write.equipped (h : Write env s s') (hs : s.Equipped) : s'.Equipped := by
  cases h with
  | other h => exact hs.of_apnManager (congrArg (·.2.2.1) h)
  | push => exact hs.of_apnManager (apnManager_updateCellularDataConnectState _)
  | @holder t f _ _ _ hcap _ =>
    apply hs.modifyHolder
    rw [hcap]
    exact hs t
  | machine _ => exact hs.of_apnManager (apnManager_callMachine _ _)
  | reuse _ => exact hs.of_apnManager (apnManager_callMachine _ _)
  | reload =>
    unfold applyApnReload
    split <;> exact hs
  | setBad =>
    unfold setApnBadState
    split <;> exact hs
  | lend =>
    refine hs.of_apnManager ?_
    unfold lendDataPermitted
    refine (apnManager_setDataPermittedForMms true).trans ?_
    split_ifs <;> rfl
  | giveBack => exact hs.of_apnManager (apnManager_setDataPermittedForMms false)
  | _ => exact hs

theorem Equipped.renewHolder (hs : s.Equipped) (t : ApnType) : (s.renewHolder t).Equipped := by
  unfold Slot.renewHolder
  split_ifs
  · have hcount : (s.modifyHolder t fun h => h.initialApnRetryCount).Equipped :=
      hs.modifyHolder (hs t)
    exact hcount.setApnState t .idle
  · exact hs

theorem equipped_startConnection (hs : s.Equipped) (t : ApnType) (m : MachineRef) (i : ItemRef)
    (radioTech : RadioTech) : (s.startConnection env t m i radioTech).Equipped := by
  intro u
  rw [holder_startConnection]
  split_ifs
  · exact hs t
  · exact hs u

theorem Op.equipped (h : Op env (Connects env) s s') (hs : s.Equipped) : s'.Equipped := by
  cases h with
  | write h => exact h.equipped hs
  | disconnect _ => exact hs.setApnState _ _
  | reset _ => exact hs.setApnState _ _
  | retry _ _ _ => exact hs.setApnState _ _
  | renew => exact renewHolders_invariant (fun _ t hs => hs.renewHolder t) hs
  | tell _ => exact hs
  | search =>
    obtain ⟨d, c, heq⟩ := checkForCompatibleDataConnection_eq env s _
    rw [heq]
    exact hs
  | connect h =>
    obtain ⟨t, -, -, -⟩ := h
    refine equipped_startConnection (fun u => ?_) t _ _ _
    rw [holder_findOrCreateCellularDataConnect]
    exact hs u

/-! What the handler does to the wiring -/

theorem plugged_of_eq (h : s'.wiring = s.wiring) : Wiring.Plugged s.wiring s'.wiring := by
  rw [h]

theorem active_of_isActiveState {x : CellularDataStateMachine} (hx : x.Settled) :
    x.isActiveState = true ↔ x.port.state = some .active :=
  decide_eq_true_iff.trans (hx.isState_iff .active)

theorem wiring_reuse (hr : s.Regular) (hs : s.Equipped) {m : MachineRef} (t : ApnType)
    (hactive : (s.machine? m).any (·.isActiveState) = true) :
    Wiring.Plugged s.wiring (s.callMachine m fun x =>
      (x.setReuseApnCap (s.holder t).capability).setIfReuseSupplierId true).wiring := by
  obtain ⟨x, hm, hx⟩ := (Option.any_eq_true _ _).mp hactive
  have hsettled := hr.settled x (List.mem_of_getElem? hm)
  have hset : (x.setReuseApnCap (s.holder t).capability).setIfReuseSupplierId true =
      (x.setReuseApnCap (s.holder t).capability).emit (.setReuseSupplierId
        x.data.link.capability (s.holder t).capability true) := if_neg (hs t)
  have hcalls : ((x.setReuseApnCap (s.holder t).capability).setIfReuseSupplierId true).reuseCalls =
      [.setReuseSupplierId x.data.link.capability (s.holder t).capability true] := by
    rw [hset]
    have hout : x.data.outbox = [] := hsettled.outbox
    simp only [CellularDataStateMachine.reuseCalls, CellularDataStateMachine.emit,
      CellularDataStateMachine.setReuseApnCap, CellularDataStateMachine.modifyLink,
      EventHandler.modifyData, hout, List.nil_append]
    rfl
  have hport : ((x.setReuseApnCap (s.holder t).capability).setIfReuseSupplierId true).port =
      { x.port with reuseApnCap := (s.holder t).capability } := by
    rw [hset]
    rfl
  have hports : s.wiring.ports[m]? = some x.port := by rw [ports_getElem?, hm, Option.map_some]
  rw [wiring_callMachine m _ hm, hcalls, hport]
  exact .single (.reuse hports ((active_of_isActiveState hsettled).mp hx) (hs t))

theorem Write.plugged (h : Write env s s') (hr : s.Regular) (hs : s.Equipped) :
    Wiring.Plugged s.wiring s'.wiring := by
  cases h with
  | other h =>
    have hmachines : s'.stateMachines = s.stateMachines := congrArg (·.2.2.2.2.1) h
    have heffects : s'.effects = s.effects := congrArg (·.2.2.2.2.2.2.2.2.1) h
    exact plugged_of_eq (wiring_of_wires (Prod.mk.injEq _ _ _ _ ▸ ⟨hmachines, heffects⟩))
  | effect he => exact plugged_of_eq (wiring_effect (reuseCall_of_isOrdinary he))
  | push => exact plugged_of_eq (wiring_updateCellularDataConnectState _)
  | machine hf => exact plugged_of_eq (wiring_publishes hr _ hf)
  | reuse hactive => exact wiring_reuse hr hs _ hactive
  | reload =>
    apply plugged_of_eq
    unfold applyApnReload
    split <;> rfl
  | setBad =>
    apply plugged_of_eq
    unfold setApnBadState
    split <;> rfl
  | lend => exact plugged_of_eq wiring_lendDataPermitted
  | giveBack => exact plugged_of_eq (wiring_setDataPermittedForMms false)
  | _ => exact plugged_of_eq rfl

theorem wiring_renewHolder (s : Slot) (t : ApnType) : (s.renewHolder t).wiring = s.wiring := by
  unfold renewHolder
  split_ifs <;> rfl

/-- A machine that is not active takes the capability of the holder it is given to. -/
theorem plugged_startConnection {m : MachineRef} {p : Port} (hm : s.wiring.ports[m]? = some p)
    (hr : s.Regular) (hstate : p.state ≠ some .active) (t : ApnType) (i : ItemRef)
    (radioTech : RadioTech) :
    Wiring.Plugged s.wiring (s.startConnection env t m i radioTech).wiring := by
  rw [ports_getElem?] at hm
  obtain ⟨x, hx, rfl⟩ := Option.map_eq_some_iff.mp hm
  have hsettled := hr.settled x (List.mem_of_getElem? hx)
  have hcall : (s.callMachine m fun x => x.setCapability (s.holder t).capability).wiring =
      ⟨s.wiring.ports.set m { x.port with capability := (s.holder t).capability },
        s.wiring.calls⟩ := by
    rw [wiring_callMachine m _ hx]
    have hcalls : (x.setCapability (s.holder t).capability).reuseCalls = [] :=
      CellularDataStateMachine.reuseCalls_settled (x := x) hsettled
    rw [hcalls]
    rfl
  have hrest : (s.startConnection env t m i radioTech).wiring =
      (s.callMachine m fun x => x.setCapability (s.holder t).capability).wiring := by
    unfold startConnection
    extract_lets s₁ s₂ s₃ s₄ s₅ s₆
    have hstart : (setApnActivateStart env s₆ t).wiring = s₆.wiring :=
      apply_setApnActivateStart wiring (fun _ _ _ => rfl) t
    have hconnect : s₆.wiring = s₅.wiring := wiring_postMachine m _
    have hpush : s₅.wiring = s₄.wiring := wiring_updateCellularDataConnectState t
    exact hstart.trans (hconnect.trans hpush)
  have hports : s.wiring.ports[m]? = some x.port := by rw [ports_getElem?, hx, Option.map_some]
  rw [hrest, hcall]
  exact .single (.capability hports hstate)

theorem Starts.plugged (h : Starts env t s s') (hr : s.Regular) :
    Wiring.Plugged s.wiring s'.wiring := by
  cases h with
  | @start i _ _ _ =>
    unfold findOrCreateCellularDataConnect
    cases hfind : s.findIdleCellularDataConnection with
    | some m =>
      obtain ⟨x, hx, hinactive, -⟩ := findIdle_some hfind
      have hports : s.wiring.ports[m]? = some x.port := List.getElem?_map.trans (by rw [hx]; rfl)
      refine plugged_startConnection hports hr ?_ t i _
      have hcur : x.port.state = some .inactive :=
        (isInactiveState_iff (hr.settled x (List.mem_of_getElem? hx))).mp hinactive
      rw [hcur]
      decide
    | none =>
      dsimp only
      generalize hs₁ : { s with stateMachines := s.stateMachines ++
        [CellularDataStateMachine.create] } = s₁
      have hr₁ : s₁.Regular := by
        rw [← hs₁]
        refine ⟨fun x hx => ?_, hr.immediate, hr.delayed⟩
        rcases List.mem_append.mp hx with hx | hx
        · exact hr.settled x hx
        · exact List.mem_singleton.mp hx ▸ CellularDataStateMachine.create_settled
      have hcreate : s₁.wiring = ⟨s.wiring.ports ++ [({} : Port)], s.wiring.calls⟩ := by
        rw [← hs₁]
        unfold wiring
        rw [List.map_append]
        rfl
      have hlength : s.stateMachines.length = s.wiring.ports.length := (List.length_map _).symm
      have hports : s₁.wiring.ports[s.stateMachines.length]? = some {} := by
        rw [hcreate, hlength, List.getElem?_concat_length]
      have hplug : Wiring.Plugs s.wiring s₁.wiring := by
        rw [hcreate]
        exact .create
      exact ReflTransGen.head hplug (plugged_startConnection hports hr₁ nofun t i _)

theorem Op.plugged (h : Op env (Connects env) s s') (hr : s.Regular) (hs : s.Equipped) :
    Wiring.Plugged s.wiring s'.wiring := by
  cases h with
  | write h => exact h.plugged hr hs
  | disconnect _ => exact plugged_of_eq (wiring_postMachine _ _)
  | reset _ => exact plugged_of_eq rfl
  | retry _ _ _ => exact plugged_of_eq rfl
  | renew => exact plugged_of_eq (apply_renewHolders wiring wiring_renewHolder _)
  | tell _ => exact plugged_of_eq (wiring_sendToMachines _)
  | search =>
    obtain ⟨d, c, heq⟩ := checkForCompatibleDataConnection_eq env s _
    rw [heq]
    exact plugged_of_eq rfl
  | connect h =>
    obtain ⟨t, h⟩ := h
    exact h.plugged hr

/-- What an operation of the handler leaves behind. -/
structure Plugged (s s' : Slot) : Prop where
  regular : s'.Regular
  equipped : s'.Equipped
  wiring : Wiring.Plugged s.wiring s'.wiring

theorem Plugged.refl (hr : s.Regular) (hs : s.Equipped) : Plugged s s := ⟨hr, hs, .refl⟩

theorem Plugged.trans {s'' : Slot} (h : Plugged s s') (h' : Plugged s' s'') : Plugged s s'' :=
  ⟨h'.regular, h'.equipped, ReflTransGen.trans h.wiring h'.wiring⟩

theorem Does.plugged (h : Does env (Connects env) s s') (hr : s.Regular) (hs : s.Equipped) :
    Plugged s s' := by
  induction h with
  | refl => exact .refl hr hs
  | tail _ hop ih =>
    exact ih.trans ⟨(hop.acts ih.regular).1, hop.equipped ih.equipped,
      hop.plugged ih.regular ih.equipped⟩

theorem plugged_setApnState (hr : s.Regular) (hs : s.Equipped) (t : ApnType)
    (st : ApnProfileState) : Plugged s (s.setApnState t st) :=
  ⟨hr.setApnState t st, hs.setApnState t st, .refl⟩

theorem plugged_completed (hr : s.Regular) (hs : s.Equipped) (t : ApnType)
    (info : SetupDataCallResultInfo) : Plugged s (s.completed env t info) := by
  have hend : (s.setApnActivateEnd env info).Regular := ⟨hr.settled, hr.immediate, hr.delayed⟩
  have hequipped : (s.setApnActivateEnd env info).Equipped := hs
  exact ⟨hend.setApnState t _, hequipped.setApnState t _, .refl⟩

theorem plugged_releaseMachine (hr : s.Regular) (hs : s.Equipped) (t : ApnType) (m : MachineRef)
    (info : SetupDataCallResultInfo) : Plugged s (s.releaseMachine env t m info) := by
  refine ⟨(releaseMachine_spec env s t m info).1 hr, ?_, plugged_of_eq (wiring_releaseMachine hr m info)⟩
  unfold releaseMachine
  extract_lets menv s₁ s₂ s₃
  have h₁ : s₁.Equipped := hs.of_apnManager (apnManager_callMachine m _)
  have h₂ : s₂.Equipped := by
    dsimp only [s₂]
    split <;> exact h₁
  have h₃ : s₃.Equipped := h₂.modifyHolder (h₂ t)
  exact h₃.setApnState t .idle

theorem plugged_handleDisconnectDataCompleteForMmsType (hr : s.Regular) (hs : s.Equipped) :
    Plugged s (s.handleDisconnectDataCompleteForMmsType env t) := by
  refine ⟨(hidden_handleDisconnectDataCompleteForMmsType t).regular hr, ?_,
    plugged_of_eq wiring_handleDisconnectDataCompleteForMmsType⟩
  refine hs.of_apnManager ?_
  unfold handleDisconnectDataCompleteForMmsType
  split_ifs
  · exact apnManager_setDataPermittedForMms false
  · rfl

theorem plugged_dropResume (hr : s.Regular) (hs : s.Equipped) :
    Plugged s (if t = .mms then s.removeEvent isResumeDataPermittedTimeout else s) := by
  refine ⟨hidden_dropResume.regular hr, ?_, plugged_of_eq ?_⟩
  · split_ifs <;> exact hs
  · split_ifs <;> rfl

theorem Writes.plugged (h : Writes env s s') (hr : s.Regular) (hs : s.Equipped) :
    Plugged s s' := by
  have hdoes : Does env (Connects env) s s' := h.does
  exact hdoes.plugged hr hs

theorem Takes.plugged {e : HandlerEvent} (h : Takes env s e s') (hr : s.Regular)
    (hs : s.Equipped) : Plugged s s' := by
  cases h with
  | event he hd => exact hd.connects.plugged hr hs
  | @request request t _ ht hw =>
    have hequipped :
        (s.modifyHolder t fun h => h.requestCellularData request.capability).Equipped := by
      refine hs.modifyHolder fun hend => ?_
      have hcap : request.capability = .end_ := hend
      rw [hcap] at ht
      cases ht
    have hasked : Plugged s (s.modifyHolder t fun h => h.requestCellularData request.capability) :=
      ⟨(hidden_requestCellularData t _).regular hr, hequipped, plugged_of_eq rfl⟩
    exact hasked.trans (hw.plugged hasked.regular hasked.equipped)
  | noCompletion _ => exact ⟨⟨hr.settled, hr.immediate, hr.delayed⟩, hs, .refl⟩
  | @complete info t s₁ s₂ s₃ ht h₁ h₂ h₃ =>
    replace h₂ := h₂.trans (Write.push.writes.trans h₃)
    have hcompleted : Plugged s (s.completed env t info) := plugged_completed hr hs t info
    have hfirst := hcompleted.trans (h₁.plugged hcompleted.regular hcompleted.equipped)
    have hsecond : Plugged s s₃ := by
      cases hm : (s.holder t).cellularDataStateMachine with
      | some m =>
        rw [hm] at h₂
        exact hfirst.trans (h₂.plugged hfirst.regular hfirst.equipped)
      | none =>
        rw [hm] at h₂
        have hidle := hfirst.trans (plugged_setApnState hfirst.regular hfirst.equipped t .idle)
        exact hidle.trans (h₂.plugged hidle.regular hidle.equipped)
    exact hsecond.trans (plugged_dropResume hsecond.regular hsecond.equipped)
  | noEnd _ => exact .refl hr hs
  | endWithoutMachine _ _ => exact plugged_setApnState hr hs _ _
  | @finish info t m s₁ ht hm hd =>
    replace hd := (Op.write Write.push).does.trans hd
    have hrelease : Plugged s (s.releaseMachine env t m info) :=
      plugged_releaseMachine hr hs t m info
    have hdoes := hrelease.trans (hd.connects.plugged hrelease.regular hrelease.equipped)
    exact hdoes.trans
      (plugged_handleDisconnectDataCompleteForMmsType hdoes.regular hdoes.equipped)
  | update hw => exact hw.plugged hr hs

/-! The steps of the machines -/

theorem wiring_receive (s : Slot) (m : MachineRef) (o : MachineOutput) :
    (s.receive m o).wiring = ⟨s.wiring.ports, (o.reuseCall m).toList ++ s.wiring.calls⟩ := by
  cases o <;> rfl

theorem wiring_foldl_receive (m : MachineRef) (os : List MachineOutput) (s : Slot) :
    (os.foldl (fun s o => s.receive m o) s).wiring =
      ⟨s.wiring.ports, (os.filterMap (·.reuseCall m)).reverse ++ s.wiring.calls⟩ := by
  induction os generalizing s with
  | nil => rfl
  | cons o os ih =>
    rw [List.foldl_cons, ih, wiring_receive]
    cases h : o.reuseCall m with
    | none => rw [List.filterMap_cons_none h, Option.toList_none, List.nil_append]
    | some c =>
      rw [List.filterMap_cons_some h, List.reverse_cons, List.append_assoc, Option.toList_some]

theorem wiring_logMachineEvent (s : Slot) (m : MachineRef) (x : CellularDataStateMachine)
    (e : MachineEvent) : (s.logMachineEvent m x e).wiring = s.wiring := by
  cases e with
  | setupDataCall answer =>
    cases answer with
    | resultInfo info =>
      simp only [logMachineEvent]
      split_ifs <;> rfl
    | rilInfo info => rfl
    | empty => rfl
  | rilAdapterHostDied info =>
    simp only [logMachineEvent]
    split_ifs <;> rfl
  | _ => rfl

/-- A machine has taken an event and turned its port. -/
structure Turned (env : Env) (s : Slot) (m : MachineRef) (e : MachineEvent) (s' : Slot) :
    Prop where
  exists_turn : ∃ x x' p calls, s.machine? m = some x ∧
    x.dispatch (env.machineEnv s) = some (e, x') ∧
    x.port.Turns (env.machineEnv s).currentApn m e p calls ∧
    s'.wiring = ⟨s.wiring.ports.set m p, calls ++ s.wiring.calls⟩

theorem turned_of_dispatch {m : MachineRef} (hr : s.Regular)
    (hw : ∀ c ∈ s.core.controls, c.WellFormed) (h : s.dispatchMachine env m = some s') :
    ∃ e, Turned env s m e s' := by
  unfold dispatchMachine at h
  cases hm : s.machine? m with
  | none => simp [hm] at h
  | some x =>
    simp only [hm] at h
    cases hd : x.dispatch (env.machineEnv s) with
    | none => simp [hd] at h
    | some r =>
      obtain ⟨e, x'⟩ := r
      simp only [hd, Option.some.injEq] at h
      have hmem : x ∈ s.stateMachines := List.mem_of_getElem? hm
      have hx : x.control ∈ s.core.controls := List.mem_map_of_mem hmem
      have hturn := CellularDataStateMachine.turns_of_dispatch (hr.settled x hmem) (hw _ hx) m hd
      refine ⟨e, x, x', _, _, hm, hd, hturn, ?_⟩
      have hcalls : (x'.data.outbox.filterMap (·.reuseCall m)).reverse =
          x'.reuseCalls.filterMap (·.reuseCall m) := by
        rw [CellularDataStateMachine.filterMap_reuseCall]
        exact hturn.reverse_calls
      have hports : (s.stateMachines.set m x'.clearOutbox).map (·.port) =
          s.wiring.ports.set m x'.port := List.map_set
      have hlog : (s.logMachineEvent m x e).reuseLog = s.reuseLog :=
        congrArg Wiring.calls (wiring_logMachineEvent s m x e)
      rw [← h, wiring_foldl_receive, hcalls]
      exact congrArg₂ (fun ports log => Wiring.mk ports
        (x'.reuseCalls.filterMap (·.reuseCall m) ++ log)) hports hlog

/-- What a step does to the wiring. -/
inductive Rewired (s : Slot) : Label → Slot → Prop
  | plugged {l : Label} {s' : Slot} (hl : ∀ env m, l ≠ .dispatchMachine env m)
      (h : Wiring.Plugged s.wiring s'.wiring) : Rewired s l s'
  | turned {env : Env} {m : MachineRef} {e : MachineEvent} {s' : Slot} (h : Turned env s m e s') :
      Rewired s (.dispatchMachine env m) s'

theorem initial_plugged (h : Initial s) : s.Equipped ∧ Wiring.Plugged ⟨[], []⟩ s.wiring := by
  obtain ⟨env, slotId, l, hdoes⟩ := h.does
  have hr : Regular { slotId, apnManager := { sortedApnHolders := l } } := by
    refine ⟨?_, rfl, ?_⟩
    · exact fun x hx => nomatch hx
    · exact fun e he => nomatch he
  have hs : Equipped { slotId, apnManager := { sortedApnHolders := l } } := by
    intro t
    cases t <;> exact NetCap.noConfusion
  have hinit := hdoes.establishes.connects.plugged hr hs
  exact ⟨hinit.equipped, hinit.wiring⟩

theorem step_equipped {l : Label} (hr : s.Regular) (hs : s.Equipped) (h : step l s = some s') :
    s'.Equipped := by
  cases step_steps h with
  | aside ha => exact hs.of_apnManager ha.apnManager
  | call hd => exact (hd.connects.plugged hr hs).equipped
  | @take env e q hnext =>
    have hr' : Regular { s with queue := q } := (next_ready hr hnext).2
    exact ((processEvent_takes env { s with queue := q } e).plugged hr' hs).equipped

theorem reachable_equipped (h : system.Reachable s) : s.Equipped := by
  refine h.invariant (fun s hs => (initial_plugged hs).1) ?_
  intro l s s' hs hequipped hstep
  exact step_equipped (reachable_regular hs).1 hequipped hstep

theorem wiring_relayDataCall (s : Slot) (info : SetupDataCallResultInfo) :
    (s.relayDataCall info).wiring = s.wiring := by
  unfold relayDataCall
  split <;> rfl

theorem wiring_loseConnection (dcList : List SetupDataCallResultInfo) (s : Slot) (m : MachineRef) :
    (s.loseConnection dcList m).wiring = s.wiring := by
  unfold loseConnection
  split
  · rfl
  · split
    · exact wiring_postMachine m _
    · rfl

theorem wiring_radioDataCallListChanged (dcList : List SetupDataCallResultInfo) :
    (s.radioDataCallListChanged dcList).wiring = s.wiring := by
  unfold radioDataCallListChanged logDown
  refine (apply_foldl wiring (fun s info => ?_) _ _).trans
    ((apply_foldl wiring (wiring_loseConnection dcList) _ _).trans
      (apply_foldl wiring wiring_relayDataCall _ _))
  split_ifs <;> rfl

theorem wiring_fire {m : MachineRef} {x : CellularDataStateMachine}
    (hm : s.machine? m = some x) (q : EventQueue MachineEvent) :
    Slot.wiring { s with stateMachines := s.stateMachines.set m { x with queue := q } } =
      s.wiring := by
  have hports : (s.stateMachines.set m { x with queue := q }).map (·.port) = s.wiring.ports := by
    rw [List.map_set]
    apply set_of_getElem?
    rw [List.getElem?_map]
    exact congrArg (Option.map (·.port)) hm
  exact congrArg (fun ports => Wiring.mk ports s.reuseLog) hports

theorem step_rewired {l : Label} (hs : system.Reachable s) (h : step l s = some s') :
    Rewired s l s' := by
  obtain ⟨hr, hw⟩ := reachable_regular hs
  have hequipped := reachable_equipped hs
  cases l with
  | dispatchMachine env m =>
    obtain ⟨e, he⟩ := turned_of_dispatch hr hw h
    exact .turned he
  | postHandler e =>
    simp only [step] at h
    split_ifs at h
    obtain rfl := Option.some.inj h
    exact .plugged (fun _ _ => Label.noConfusion) (plugged_of_eq (wiring_of_wires rfl))
  | dispatchHandler env =>
    simp only [step, dispatchHandler] at h
    cases hnext : s.queue.next with
    | none => simp [hnext] at h
    | some p =>
      obtain ⟨e, q⟩ := p
      rw [hnext] at h
      obtain rfl := Option.some.inj h
      have hr' : Regular { s with queue := q } := (next_ready hr hnext).2
      exact .plugged (fun _ _ => Label.noConfusion)
        ((processEvent_takes env { s with queue := q } e).plugged hr' hequipped).wiring
  | fireHandler i =>
    obtain ⟨q, hq, rfl⟩ := Option.map_eq_some_iff.mp h
    exact .plugged (fun _ _ => Label.noConfusion) (plugged_of_eq (wiring_of_wires rfl))
  | call env c =>
    obtain rfl := Option.some.inj h
    exact .plugged (fun _ _ => Label.noConfusion)
      ((does_call c).establishes.connects.plugged hr hequipped).wiring
  | postMachine m e =>
    simp only [step] at h
    split_ifs at h
    obtain rfl := Option.some.inj h
    exact .plugged (fun _ _ => Label.noConfusion) (plugged_of_eq (wiring_postMachine m e))
  | fireMachine m i =>
    obtain ⟨x, hm, hx⟩ := Option.bind_eq_some_iff.mp h
    obtain ⟨x', hfire, rfl⟩ := Option.map_eq_some_iff.mp hx
    obtain ⟨q, hq, rfl⟩ := CellularDataStateMachine.fire_eq_some hfire
    exact .plugged (fun _ _ => Label.noConfusion) (plugged_of_eq (wiring_fire hm q))
  | linkStateChanged m ifName up =>
    simp only [step] at h
    split_ifs at h
    obtain rfl := Option.some.inj h
    refine .plugged (fun _ _ => Label.noConfusion) (plugged_of_eq (wiring_modifyMachine m fun x => ?_))
    rcases CellularDataStateMachine.onInterfaceLinkStateChanged_cases ifName up with h | h
    · rw [h]
    · rw [h]
      rfl
  | dataCallListChanged dcList =>
    obtain rfl := Option.some.inj h
    exact .plugged (fun _ _ => Label.noConfusion)
      (plugged_of_eq (wiring_radioDataCallListChanged dcList))
  | linkCapabilityChanged up down =>
    obtain rfl := Option.some.inj h
    exact .plugged (fun _ _ => Label.noConfusion)
      (plugged_of_eq (apply_foldl wiring (fun s m => wiring_postMachine m _) _ _))

end Slot
end CellularData
