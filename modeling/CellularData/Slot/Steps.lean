import CellularData.Slot.Refinement

/-! The steps of a slot by what they leave alone: steps of the handler, and steps in which the
handler takes no part. -/
namespace CellularData
open Lib StateMachine Relation

namespace Slot

variable {env : Env} {s s' s'' : Slot} {l : Label}

/-- The members that only the handler writes. -/
def frame (s : Slot) :=
  (s.apnManager, s.apnItems, s.slotId, s.multipleConnectionsEnabled, s.hasIncallDataStateMachine,
    s.connectLog, s.crash, s.apnActivateChrList)

/-- A step in which the handler only receives events. -/
structure Aside (s s' : Slot) : Prop where
  frame : s'.frame = s.frame
  effects : ∃ es, s'.effects = es ++ s.effects ∧ ∀ e ∈ es, ∃ m o, e = .machine m o
  pending : ∀ e ∈ s.queue.pending, e ∈ s'.queue.pending

/-- Nothing is sent to other components. -/
theorem Aside.silent (hframe : s'.frame = s.frame) (heffects : s'.effects = s.effects)
    (hpending : ∀ e ∈ s.queue.pending, e ∈ s'.queue.pending) : Aside s s' :=
  ⟨hframe, ⟨[], heffects, fun _ h => nomatch h⟩, hpending⟩

theorem Aside.refl (s : Slot) : Aside s s := .silent rfl rfl fun _ h => h

theorem Aside.trans (h : Aside s s') (h' : Aside s' s'') : Aside s s'' := by
  obtain ⟨es, hes, hall⟩ := h.effects
  obtain ⟨es', hes', hall'⟩ := h'.effects
  refine ⟨h'.frame.trans h.frame, ⟨es' ++ es, ?_, ?_⟩, fun e he => h'.pending e (h.pending e he)⟩
  · rw [hes', hes, List.append_assoc]
  · intro e he
    rcases List.mem_append.mp he with he | he
    · exact hall' e he
    · exact hall e he

theorem Aside.foldl {α : Type} {f : Slot → α → Slot} (hf : ∀ s a, Aside s (f s a)) (l : List α)
    (s : Slot) : Aside s (l.foldl f s) := by
  induction l generalizing s with
  | nil => exact .refl s
  | cons a l ih => exact (hf s a).trans (ih _)

theorem Aside.apnManager (h : Aside s s') : s'.apnManager = s.apnManager :=
  congrArg (·.1) h.frame

theorem Aside.holder (h : Aside s s') (t : ApnType) : s'.holder t = s.holder t := by
  unfold Slot.holder
  rw [h.apnManager]

/-! The last request of a kind to other components -/

def latest {α : Type} (s : Slot) (f : Effect → Option α) : Option α := s.effects.findSome? f

section
variable {α : Type} {f : Effect → Option α}

theorem latest_effect {e : Effect} (he : f e = none) : (s.effect e).latest f = s.latest f := by
  unfold latest effect
  rw [List.findSome?_cons, he]

theorem latest_callMachine (hf : ∀ m o, f (.machine m o) = none) (m : MachineRef)
    (g : CellularDataStateMachine → CellularDataStateMachine) :
    (s.callMachine m g).latest f = s.latest f := by
  unfold callMachine
  split
  · unfold latest
    dsimp only
    rw [List.findSome?_append, List.findSome?_eq_none_iff.mpr, Option.none_or]
    intro e he
    obtain ⟨o, -, rfl⟩ := List.mem_map.mp (List.mem_reverse.mp he)
    exact hf m o
  · rfl

theorem latest_aside (hf : ∀ m o, f (.machine m o) = none) (h : Aside s s') :
    s'.latest f = s.latest f := by
  obtain ⟨es, heffects, hall⟩ := h.effects
  unfold latest
  rw [heffects, List.findSome?_append, List.findSome?_eq_none_iff.mpr, Option.none_or]
  intro e he
  obtain ⟨m, o, rfl⟩ := hall e he
  exact hf m o

end

/-! The steps of the machines and of the connection manager -/

theorem aside_sendEvent (e : HandlerEvent) : Aside s (s.sendEvent e) :=
  .silent rfl rfl fun _ h => EventQueue.mem_pending_sendEvent.mpr (.inl h)

theorem aside_machines (f : List CellularDataStateMachine → List CellularDataStateMachine) :
    Aside s { s with stateMachines := f s.stateMachines } :=
  .silent rfl rfl fun _ h => h

theorem aside_logCall (e : CallEvent) : Aside s (s.logCall e) :=
  .silent rfl rfl fun _ h => h

theorem aside_machineEffect (m : MachineRef) (o : MachineOutput) :
    Aside s (s.effect (.machine m o)) :=
  ⟨rfl, ⟨[.machine m o], rfl, fun _ h => ⟨m, o, List.mem_singleton.mp h⟩⟩, fun _ h => h⟩

theorem aside_addActiveConnectionByCid (cid : Int) (m : MachineRef) :
    Aside s (s.addActiveConnectionByCid cid m) :=
  .silent rfl rfl fun _ h => h

theorem aside_receive (s : Slot) (m : MachineRef) (o : MachineOutput) : Aside s (s.receive m o) := by
  cases o with
  | establishDataConnectionComplete info => exact aside_sendEvent _
  | disconnectDataComplete info => exact aside_sendEvent _
  | addActiveConnectionByCid cid =>
    exact (aside_addActiveConnectionByCid cid m).trans (aside_logCall _)
  | deactivatePdpContext param => exact (aside_machineEffect m _).trans (aside_logCall _)
  | _ => exact aside_machineEffect m _

theorem aside_logMachineEvent (s : Slot) (m : MachineRef) (x : CellularDataStateMachine)
    (e : MachineEvent) : Aside s (s.logMachineEvent m x e) := by
  cases e with
  | setupDataCall answer =>
    cases answer with
    | resultInfo info =>
      simp only [logMachineEvent]
      split_ifs
      · exact aside_logCall _
      · exact .refl s
    | rilInfo info => exact .refl s
    | empty => exact .refl s
  | rilAdapterHostDied info =>
    simp only [logMachineEvent]
    split_ifs
    · exact aside_logCall _
    · exact .refl s
  | _ => exact .refl s

theorem aside_dispatchMachine {m : MachineRef} (h : s.dispatchMachine env m = some s') :
    Aside s s' := by
  unfold dispatchMachine at h
  cases hm : s.machine? m with
  | none => simp [hm] at h
  | some x =>
    simp only [hm] at h
    cases hd : x.dispatch (env.machineEnv s) with
    | none => simp [hd] at h
    | some p =>
      obtain ⟨e, x'⟩ := p
      simp only [hd, Option.some.injEq] at h
      subst h
      refine Aside.trans ?_ (Aside.foldl (fun s o => aside_receive s m o) _ _)
      exact (aside_logMachineEvent s m x e).trans (.silent rfl rfl fun _ h => h)

theorem aside_postMachine (s : Slot) (m : MachineRef) (e : MachineEvent) :
    Aside s (s.postMachine m e) := aside_machines fun xs => xs.modify m fun x => x.post e

theorem aside_relayDataCall (s : Slot) (info : SetupDataCallResultInfo) :
    Aside s (s.relayDataCall info) := by
  unfold relayDataCall
  split
  · exact aside_sendEvent _
  · exact .refl s

theorem aside_loseConnection (dcList : List SetupDataCallResultInfo) (s : Slot) (m : MachineRef) :
    Aside s (s.loseConnection dcList m) := by
  unfold loseConnection
  split
  · exact .refl s
  · split
    · exact aside_postMachine s m _
    · exact .refl s

theorem aside_radioDataCallListChanged (dcList : List SetupDataCallResultInfo) :
    Aside s (s.radioDataCallListChanged dcList) := by
  unfold radioDataCallListChanged logDown
  refine (Aside.foldl aside_relayDataCall dcList s).trans
    ((Aside.foldl (aside_loseConnection dcList) _ _).trans (Aside.foldl (fun s info => ?_) _ _))
  split_ifs
  · exact aside_logCall _
  · exact .refl s

theorem aside_fireHandler {i : Nat} {q : EventQueue HandlerEvent} (h : s.queue.expire i = some q) :
    Aside s { s with queue := q } :=
  .silent rfl rfl fun _ he => (EventQueue.mem_pending_expire h).mpr he

/-! The steps of the handler -/

/-- What the handler does with an event that it takes. -/
inductive Takes (env : Env) (s : Slot) : HandlerEvent → Slot → Prop
  | event {e : HandlerEvent} {s' : Slot} (he : e.isNotice = false)
      (h : Does env (Establishes env) s s') : Takes env s e s'
  | request {request : NetRequest} {t : ApnType} {s' : Slot}
      (ht : findApnIdByCapability request.capability = some t)
      (h : Writes env (s.modifyHolder t fun h => h.requestCellularData request.capability) s') :
      Takes env s (.requestNetwork request true) s'
  | noCompletion {info : SetupDataCallResultInfo} (ht : apnHolderByName info.flag = none) :
      Takes env s (.establishDataConnectionComplete info) (s.setApnActivateEnd env info)
  | complete {info : SetupDataCallResultInfo} {t : ApnType} {s₁ s₂ s₃ : Slot}
      (ht : apnHolderByName info.flag = some t) (h₁ : Writes env (s.completed env t info) s₁)
      (h₂ : Writes env (match (s.holder t).cellularDataStateMachine with
        | some _ => s₁
        | none => s₁.setApnState t .idle) s₂)
      (h₃ : Writes env (s₂.updateCellularDataConnectState t) s₃) :
      Takes env s (.establishDataConnectionComplete info)
        (if t = .mms then s₃.removeEvent isResumeDataPermittedTimeout else s₃)
  | noEnd {info : SetupDataCallResultInfo} (ht : ApnType.ofId info.flag = none) :
      Takes env s (.disconnectDataComplete info) s
  | endWithoutMachine {info : SetupDataCallResultInfo} {t : ApnType}
      (ht : ApnType.ofId info.flag = some t) (hm : (s.holder t).cellularDataStateMachine = none) :
      Takes env s (.disconnectDataComplete info) (s.setApnState t .idle)
  | finish {info : SetupDataCallResultInfo} {t : ApnType} {m : MachineRef} {s₁ : Slot}
      (ht : ApnType.ofId info.flag = some t)
      (hm : (s.holder t).cellularDataStateMachine = some m)
      (h : Does env (Establishes env)
        ((s.releaseMachine env t m info).updateCellularDataConnectState t) s₁) :
      Takes env s (.disconnectDataComplete info) (s₁.handleDisconnectDataCompleteForMmsType env t)
  | update {info : SetupDataCallResultInfo} {s' : Slot} (h : Writes env s s') :
      Takes env s (.dataCallListChanged info) s'

theorem processEvent_takes (env : Env) (s : Slot) (e : HandlerEvent) :
    Takes env s e (s.processEvent env e) := by
  cases he : e.isNotice with
  | false =>
    by_cases hrequest : ∃ request, e = .requestNetwork request true
    · obtain ⟨request, rfl⟩ := hrequest
      change Takes env s _ (s.msgRequestNetwork request true)
      rcases msgRequestNetwork_cases env request with ⟨-, heq⟩ | ⟨t, ht, hwrites⟩
      · rw [heq]
        exact .event rfl (.refl s)
      · exact .request ht hwrites
    · exact .event he (does_processEvent he fun request heq => hrequest ⟨request, heq⟩)
  | true =>
    cases e with
    | establishDataConnectionComplete info =>
      change Takes env s _ (s.establishDataConnectionComplete env info)
      cases ht : apnHolderByName info.flag with
      | none =>
        have heq : s.establishDataConnectionComplete env info = s.setApnActivateEnd env info := by
          simp only [establishDataConnectionComplete, ht]
        rw [heq]
        exact .noCompletion ht
      | some t =>
        obtain ⟨s₁, s₂, s₃, h₁, h₂, h₃, heq⟩ := establishDataConnectionComplete_writes env s ht
        rw [heq]
        exact .complete ht h₁ h₂ h₃
    | disconnectDataComplete info =>
      change Takes env s _ (s.disconnectDataComplete env info)
      cases ht : ApnType.ofId info.flag with
      | none =>
        have heq : s.disconnectDataComplete env info = s := by
          simp only [disconnectDataComplete, ht]
        rw [heq]
        exact .noEnd ht
      | some t =>
        cases hm : (s.holder t).cellularDataStateMachine with
        | none =>
          have heq : s.disconnectDataComplete env info = s.setApnState t .idle := by
            simp only [disconnectDataComplete, ht, hm]
          rw [heq]
          exact .endWithoutMachine ht hm
        | some m =>
          obtain ⟨s₁, hdoes, heq⟩ := disconnectDataComplete_does env s ht hm
          rw [heq]
          exact .finish ht hm hdoes.establishes
    | dataCallListChanged info => exact .update (writes_handleUpdateNetInfo info)
    | _ => cases he

/-- What a step is. -/
inductive Steps (s : Slot) : Label → Slot → Prop
  | aside {l : Label} {s' : Slot} (h : Aside s s') : Steps s l s'
  | call {env : Env} {c : Call} {s' : Slot} (h : Does env (Establishes env) s s') :
      Steps s (.call env c) s'
  | take {env : Env} {e : HandlerEvent} {q : EventQueue HandlerEvent}
      (hnext : s.queue.next = some (e, q)) :
      Steps s (.dispatchHandler env) (processEvent env { s with queue := q } e)

theorem step_steps (h : step l s = some s') : Steps s l s' := by
  cases l with
  | postHandler e =>
    simp only [step] at h
    split_ifs at h
    obtain rfl := Option.some.inj h
    exact .aside (aside_sendEvent e)
  | dispatchHandler env =>
    simp only [step, dispatchHandler] at h
    cases hnext : s.queue.next with
    | none => simp [hnext] at h
    | some p =>
      obtain ⟨e, q⟩ := p
      rw [hnext] at h
      obtain rfl := Option.some.inj h
      exact .take hnext
  | fireHandler i =>
    obtain ⟨q, hq, rfl⟩ := Option.map_eq_some_iff.mp h
    exact .aside (aside_fireHandler hq)
  | call env c =>
    obtain rfl := Option.some.inj h
    exact .call (does_call c).establishes
  | postMachine m e =>
    simp only [step] at h
    split_ifs at h
    obtain rfl := Option.some.inj h
    exact .aside (aside_postMachine s m e)
  | dispatchMachine env m => exact .aside (aside_dispatchMachine h)
  | fireMachine m i =>
    obtain ⟨x, hm, hx⟩ := Option.bind_eq_some_iff.mp h
    obtain ⟨x', hfire, rfl⟩ := Option.map_eq_some_iff.mp hx
    exact .aside (aside_machines fun xs => xs.set m x')
  | linkStateChanged m ifName up =>
    simp only [step] at h
    split_ifs at h
    obtain rfl := Option.some.inj h
    exact .aside (aside_machines fun xs =>
      xs.modify m fun x => x.onInterfaceLinkStateChanged ifName up)
  | dataCallListChanged dcList =>
    obtain rfl := Option.some.inj h
    exact .aside (aside_radioDataCallListChanged dcList)
  | linkCapabilityChanged up down =>
    obtain rfl := Option.some.inj h
    exact .aside (Aside.foldl (fun s m => aside_postMachine s m _) _ _)

end Slot
end CellularData
