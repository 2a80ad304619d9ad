import CellularData.Slot.Dispatch

/-! The slot refines the abstract slot: every step is one of its steps. -/
namespace CellularData
open Lib StateMachine Relation

namespace Slot

variable {env : Env} {s s' : Slot}

/-- What a step of the slot takes up. -/
def cue (s : Slot) : Label → Core.Cue
  | .dispatchHandler _ =>
    match s.queue.next with
    | some (e, _) => .handler e
    | none => .other
  | .dispatchMachine _ m => .machine m
  | .dataCallListChanged dcList => .report dcList
  | _ => .other

/-- The event that the handler takes in the step. -/
def taken (s : Slot) : Label → Option HandlerEvent
  | .dispatchHandler _ => s.queue.next.map (·.1)
  | _ => none

theorem taken_of_cue {l : Label} {e : HandlerEvent} (h : s.cue l = .handler e) :
    s.taken l = some e := by
  cases l with
  | dispatchHandler env =>
    simp only [cue] at h
    simp only [taken]
    cases hnext : s.queue.next with
    | none =>
      rw [hnext] at h
      cases h
    | some p =>
      obtain ⟨e', q⟩ := p
      rw [hnext] at h
      rw [Option.map_some, Core.Cue.handler.inj h]
  | _ => cases h

theorem machine_of_cue {l : Label} {m : MachineRef} (h : s.cue l = .machine m) :
    ∃ env, l = .dispatchMachine env m := by
  cases l with
  | dispatchMachine env n => exact ⟨env, by rw [Core.Cue.machine.inj h]⟩
  | dispatchHandler env =>
    simp only [cue] at h
    split at h <;> cases h
  | _ => cases h

theorem report_of_cue {l : Label} {dcList : List SetupDataCallResultInfo}
    (h : s.cue l = .report dcList) : l = .dataCallListChanged dcList := by
  cases l with
  | dataCallListChanged dcList' => rw [Core.Cue.report.inj h]
  | dispatchHandler env =>
    simp only [cue] at h
    split at h <;> cases h
  | _ => cases h

theorem core_foldl {α : Type} {f : Slot → α → Slot} {g : Core → α → Core}
    (hfg : ∀ s a, (f s a).core = g s.core a) (l : List α) (s : Slot) :
    (l.foldl f s).core = l.foldl g s.core :=
  (List.foldl_hom Slot.core fun s a => (hfg s a).symm).symm

theorem Regular.foldl {α : Type} {f : Slot → α → Slot}
    (hf : ∀ s a, s.Regular → (f s a).Regular) (l : List α) (hr : s.Regular) :
    (l.foldl f s).Regular :=
  List.foldlRecOn l f hr fun s hr a _ => hf s a hr

theorem Acts.next (h : Acts s s') (hr : s.Regular) {c : Core.Cue}
    (hc : ∀ e, c = .handler e → e.isNotice = false) :
    s'.Regular ∧ Core.Next c s.core s'.core :=
  ⟨(h hr).1, s.core, .skip hc, (h hr).2⟩

theorem other_notice (e : HandlerEvent) (h : Core.Cue.other = .handler e) : e.isNotice = false :=
  nomatch h

/-! The handler's event loop -/

theorem core_notify {e : HandlerEvent} (he : e.isNotice = true) :
    (s.sendEvent e).core = s.core.notify e := by
  simp only [Slot.core, sendEvent, EventQueue.sendEvent_ready, List.filter_append,
    List.filter_singleton, he, cond_true]
  rfl

theorem isNotice_of_isExternal {e : HandlerEvent} (he : e.isExternal = true) :
    e.isNotice = false := by
  cases e <;> first | rfl | cases he

/-- The event that the handler takes is the first of its queue. -/
theorem next_ready {e : HandlerEvent} {q : EventQueue HandlerEvent} (hr : s.Regular)
    (h : s.queue.next = some (e, q)) :
    s.queue.ready = e :: q.ready ∧ Regular { s with queue := q } := by
  obtain ⟨himm, -, -⟩ | ⟨-, hq, hready, hdelayed⟩ := EventQueue.next_eq_some_iff.mp h
  · rw [hr.immediate] at himm
    cases himm
  · exact ⟨hready, hr.settled, hq, hdelayed ▸ hr.delayed⟩

theorem core_take {e : HandlerEvent} {q : EventQueue HandlerEvent}
    (hready : s.queue.ready = e :: q.ready) (he : e.isNotice = false) :
    Slot.core { s with queue := q } = s.core := by
  simp only [Slot.core, hready, List.filter_cons, he, Bool.false_eq_true, if_false]
  rfl

/-- A report that is taken is the first of the reports. -/
theorem core_takeNotice {e : HandlerEvent} {q : EventQueue HandlerEvent}
    (hready : s.queue.ready = e :: q.ready) (he : e.isNotice = true) :
    s.core.notices = e :: q.ready.filter HandlerEvent.isNotice ∧
      Slot.core { s with queue := q } =
        { s.core with notices := q.ready.filter HandlerEvent.isNotice } := by
  constructor
  · simp only [Slot.core, hready, List.filter_cons, he, if_true]
  · rfl

theorem dispatchHandler_refines (hr : s.Regular) (h : s.dispatchHandler env = some s') :
    s'.Regular ∧ Core.Next (s.cue (.dispatchHandler env)) s.core s'.core := by
  unfold dispatchHandler at h
  simp only [cue]
  cases hnext : s.queue.next with
  | none =>
    rw [hnext] at h
    cases h
  | some p =>
    obtain ⟨e, q⟩ := p
    rw [hnext] at h
    obtain rfl := Option.some.inj h
    obtain ⟨hready, hr₁⟩ := next_ready hr hnext
    dsimp only
    cases he : e.isNotice with
    | false =>
      have hacts : Acts { s with queue := q } (processEvent env { s with queue := q } e) := by
        by_cases hrequest : ∃ request, e = .requestNetwork request true
        · obtain ⟨request, rfl⟩ := hrequest
          exact (hidden_msgRequestNetwork request).acts
        · exact (does_processEvent he fun request heq => hrequest ⟨request, heq⟩).connects.acts
      have hnext := hacts.next hr₁ (c := .handler e) fun e' h' => Core.Cue.handler.inj h' ▸ he
      rwa [core_take hready he] at hnext
    | true =>
      obtain ⟨hnotices, hcore⟩ := core_takeNotice hready he
      cases e with
      | establishDataConnectionComplete info =>
        obtain ⟨hregular, hcomplete⟩ := establishDataConnectionComplete_spec env
          { s with queue := q } info
        refine ⟨hregular hr₁, _, .complete hnotices, ?_⟩
        rw [← hcore, ← hcomplete]
        exact .refl
      | disconnectDataComplete info =>
        obtain ⟨hregular, hfinish⟩ := disconnectDataComplete_spec env { s with queue := q } info hr₁
        refine ⟨hregular, _, .finish hnotices, ?_⟩
        rw [← hcore]
        exact hfinish
      | dataCallListChanged info =>
        have hupdate : Hidden { s with queue := q }
            (handleUpdateNetInfo env { s with queue := q } info) :=
          (writes_handleUpdateNetInfo info).hidden
        refine ⟨hupdate.regular hr₁, _, .update hnotices, ?_⟩
        rw [← hcore, ← hupdate.core]
        exact .refl
      | _ => cases he

theorem fireHandler_hidden {i : Nat} {q : EventQueue HandlerEvent} (hr : s.Regular)
    (h : s.queue.expire i = some q) :
    Regular { s with queue := q } ∧ Slot.core { s with queue := q } = s.core := by
  obtain ⟨e, he, rfl⟩ := EventQueue.expire_eq_some_iff.mp h
  have hnotice : e.isNotice = false := hr.delayed e (List.mem_of_getElem? he)
  refine ⟨⟨hr.settled, hr.immediate, fun x hx => hr.delayed x (List.mem_of_mem_eraseIdx hx)⟩, ?_⟩
  simp only [Slot.core, List.filter_append, List.filter_singleton, hnotice, cond_false,
    List.append_nil]
  rfl

/-! The machines -/

theorem controls_getElem? (s : Slot) (m : MachineRef) :
    s.core.controls[m]? = (s.machine? m).map CellularDataStateMachine.control := List.getElem?_map

theorem Regular.receive (hr : s.Regular) (m : MachineRef) (o : MachineOutput) :
    (s.receive m o).Regular := by
  cases o <;> exact ⟨hr.settled, hr.immediate, hr.delayed⟩

theorem core_receive (s : Slot) (m : MachineRef) (o : MachineOutput) :
    (s.receive m o).core = s.core.receive m o := by
  cases o with
  | establishDataConnectionComplete info => exact core_notify rfl
  | disconnectDataComplete info => exact core_notify rfl
  | _ => rfl

/-- What is no signal does not reach the abstract slot. -/
theorem receive_signals (k : Core) (m : MachineRef) (os : List MachineOutput) :
    os.foldl (fun k o => k.receive m o) k =
      (os.filter MachineOutput.isSignal).foldl (fun k o => k.receive m o) k := by
  induction os generalizing k with
  | nil => rfl
  | cons o os ih =>
    cases ho : o.isSignal with
    | true => simp only [List.filter_cons, ho, if_true, List.foldl_cons, ih]
    | false =>
      have hskip : k.receive m o = k := by cases o <;> first | rfl | cases ho
      simp only [List.filter_cons, ho, Bool.false_eq_true, if_false, List.foldl_cons, hskip, ih]

theorem core_logMachineEvent {m : MachineRef} {x : CellularDataStateMachine} (hx : x.Settled)
    (e : MachineEvent) :
    (s.logMachineEvent m x e).core = s.core.logMachineEvent m x.control e := by
  cases e with
  | setupDataCall answer =>
    cases answer with
    | resultInfo info =>
      have hqueue : x.control.queue.immediate = x.queue.immediate := rfl
      simp only [logMachineEvent, Core.logMachineEvent, hqueue]
      split_ifs <;> rfl
    | rilInfo info => rfl
    | empty => rfl
  | rilAdapterHostDied info =>
    have hactive : x.isActiveState = true ↔ x.control.state = some .active :=
      decide_eq_true_iff.trans (hx.isState_iff .active)
    simp only [logMachineEvent, Core.logMachineEvent, hactive]
    split_ifs <;> rfl
  | _ => rfl

theorem logMachineEvent_frame (s : Slot) (m : MachineRef) (x : CellularDataStateMachine)
    (e : MachineEvent) : (s.logMachineEvent m x e).queue = s.queue := by
  cases e with
  | setupDataCall answer =>
    cases answer with
    | resultInfo info =>
      simp only [logMachineEvent]
      split_ifs <;> rfl
    | rilInfo info => rfl
    | empty => rfl
  | rilAdapterHostDied info =>
    simp only [logMachineEvent]
    split_ifs <;> rfl
  | _ => rfl

theorem dispatchMachine_refines {m : MachineRef} (hr : s.Regular)
    (hw : ∀ c ∈ s.core.controls, c.WellFormed) (h : s.dispatchMachine env m = some s') :
    s'.Regular ∧ Core.Next (.machine m) s.core s'.core := by
  unfold dispatchMachine at h
  cases hm : s.machine? m with
  | none => simp [hm] at h
  | some x =>
    have hmem : x ∈ s.stateMachines := List.mem_of_getElem? hm
    have hcontrol : s.core.controls[m]? = some x.control := by
      rw [controls_getElem?, hm, Option.map_some]
    simp only [hm] at h
    cases hd : x.dispatch (env.machineEnv s) with
    | none => simp [hd] at h
    | some p =>
      obtain ⟨e, x'⟩ := p
      simp only [hd, Option.some.injEq] at h
      obtain ⟨q, hnext, ht, hsettled⟩ := CellularDataStateMachine.dispatch_refines
        (hr.settled x hmem) (hw _ (List.mem_of_getElem? hcontrol)) hd
      subst h
      refine ⟨Regular.foldl (fun s o hr => hr.receive m o) _ ⟨fun y hy => ?_, ?_, ?_⟩, ?_⟩
      · rcases List.mem_or_eq_of_mem_set hy with hy | rfl
        · exact hr.settled y hy
        · exact hsettled
      · rw [logMachineEvent_frame]
        exact hr.immediate
      · rw [logMachineEvent_frame]
        exact hr.delayed
      · refine ⟨_, .dispatch hcontrol hnext ht, ?_⟩
        have hset : Slot.core { s.logMachineEvent m x e with
            stateMachines := s.stateMachines.set m x'.clearOutbox } =
              { s.core.logMachineEvent m x.control e with
                controls := s.core.controls.set m x'.control } := by
          rw [← core_logMachineEvent (hr.settled x hmem) e]
          simp only [Slot.core, List.map_set]
          rfl
        rw [core_foldl (g := fun k o => k.receive m o) fun s o => core_receive s m o, hset,
          receive_signals _ _ x'.data.outbox]
        exact .refl

/-- A method of a machine that its automaton sees. -/
theorem core_set {m : MachineRef} (x : CellularDataStateMachine) :
    Slot.core { s with stateMachines := s.stateMachines.set m x } =
      { s.core with controls := s.core.controls.set m x.control } := by
  simp only [Slot.core, List.map_set]
  rfl

theorem Regular.set {m : MachineRef} {x : CellularDataStateMachine} (hr : s.Regular)
    (hx : x.Settled) : Regular { s with stateMachines := s.stateMachines.set m x } :=
  ⟨fun y hy => (List.mem_or_eq_of_mem_set hy).elim (hr.settled y) fun h => h ▸ hx, hr.immediate,
    hr.delayed⟩

theorem fireMachine_refines {m : MachineRef} {i : Nat} {x x' : CellularDataStateMachine}
    (hr : s.Regular) (hm : s.machine? m = some x) (h : x.fire i = some x') :
    Regular { s with stateMachines := s.stateMachines.set m x' } ∧
      Core.Next .other s.core (Slot.core { s with stateMachines := s.stateMachines.set m x' }) := by
  obtain ⟨q, hq, rfl⟩ := CellularDataStateMachine.fire_eq_some h
  have hcontrol : s.core.controls[m]? = some x.control := by
    rw [controls_getElem?, hm, Option.map_some]
  refine ⟨hr.set ((hr.settled x (List.mem_of_getElem? hm)).withQueue q), _, .fire hcontrol hq, ?_⟩
  rw [core_set]
  exact .refl

theorem linkStateChanged_refines (hr : s.Regular) (m : MachineRef) (ifName : String) (up : Bool) :
    (s.modifyMachine m fun x => x.onInterfaceLinkStateChanged ifName up).Regular ∧
      Core.Next .other s.core
        (s.modifyMachine m fun x => x.onInterfaceLinkStateChanged ifName up).core := by
  cases hm : s.machine? m with
  | none =>
    have hsame : (s.modifyMachine m fun x => x.onInterfaceLinkStateChanged ifName up) = s := by
      unfold modifyMachine
      rw [List.modify_eq_self (List.getElem?_eq_none_iff.mp hm)]
    rw [hsame]
    exact (Acts.refl s).next hr other_notice
  | some x =>
    have hset : (s.modifyMachine m fun x => x.onInterfaceLinkStateChanged ifName up) =
        { s with stateMachines := s.stateMachines.set m (x.onInterfaceLinkStateChanged ifName up) } := by
      unfold modifyMachine
      rw [modify_of_getElem? hm]
    have hcontrol : s.core.controls[m]? = some x.control := by
      rw [controls_getElem?, hm, Option.map_some]
    have hx : x.Settled := hr.settled x (List.mem_of_getElem? hm)
    rw [hset]
    rcases x.onInterfaceLinkStateChanged_cases ifName up with heq | heq
    · rw [heq]
      refine ⟨hr.set hx, s.core, .skip other_notice, ?_⟩
      rw [core_set, set_of_getElem? hcontrol]
    · rw [heq]
      refine ⟨hr.set (hx.withQueue _), s.core.modifyControl m Control.rearm, .rearm, ?_⟩
      rw [core_set, Core.modifyControl, modify_of_getElem? hcontrol]
      exact .refl

/-! The connection manager -/

theorem core_relayDataCall (s : Slot) (info : SetupDataCallResultInfo) :
    (s.relayDataCall info).core = s.core.relayDataCall info := by
  have hregistered : s.core.registered info.cid = s.getActiveConnectionByCid info.cid := rfl
  have hcontrol : ((s.core.registered info.cid).bind fun m => s.core.controls[m]?) =
      ((s.getActiveConnectionByCid info.cid).bind s.machine?).map
        CellularDataStateMachine.control := by
    rw [hregistered, Option.map_bind]
    refine congrArg _ (funext fun m => ?_)
    exact controls_getElem? s m
  unfold relayDataCall Core.relayDataCall
  rw [hcontrol]
  cases (s.getActiveConnectionByCid info.cid).bind s.machine? with
  | none => rfl
  | some x => exact core_notify rfl

theorem Regular.relayDataCall (hr : s.Regular) (info : SetupDataCallResultInfo) :
    (s.relayDataCall info).Regular := by
  unfold Slot.relayDataCall
  split
  · exact ⟨hr.settled, hr.immediate, hr.delayed⟩
  · exact hr

theorem core_loseConnection (dcList : List SetupDataCallResultInfo) (s : Slot) (m : MachineRef) :
    (s.loseConnection dcList m).core = s.core.loseConnection dcList m := by
  unfold loseConnection Core.loseConnection
  rw [controls_getElem?]
  cases s.machine? m with
  | none => rfl
  | some x =>
    have hcid : x.control.cid = x.data.cid := rfl
    simp only [Option.map_some, hcid]
    cases dcList.find? fun info => info.cid = x.data.cid ∧ info.active ≤ 0 with
    | none => rfl
    | some info => exact core_postMachine m _

theorem Regular.loseConnection (hr : s.Regular) (dcList : List SetupDataCallResultInfo)
    (m : MachineRef) : (s.loseConnection dcList m).Regular := by
  unfold Slot.loseConnection
  split
  · exact hr
  · split
    · exact hr.postMachine m _
    · exact hr

theorem report_refines (hr : s.Regular) (dcList : List SetupDataCallResultInfo) :
    (s.radioDataCallListChanged dcList).Regular ∧
      (s.radioDataCallListChanged dcList).core = s.core.radioDataCallListChanged dcList := by
  have hdown : ∀ (s : Slot) (info : SetupDataCallResultInfo),
      (if info.active ≤ 0 then s.logCall (.reportedDown info.cid) else s).core =
        if info.active ≤ 0 then s.core.logCall (.reportedDown info.cid) else s.core := by
    intro s info
    split_ifs <;> rfl
  unfold radioDataCallListChanged Core.radioDataCallListChanged
  dsimp only
  constructor
  · refine Regular.foldl (fun s info hr => ?_) _ (Regular.foldl
      (fun s m hr => hr.loseConnection dcList m) _ (Regular.foldl
        (fun s info hr => hr.relayDataCall info) _ hr))
    split_ifs
    · exact ⟨hr.settled, hr.immediate, hr.delayed⟩
    · exact hr
  · unfold logDown Core.logDown
    rw [core_foldl (g := fun k info =>
      if info.active ≤ 0 then k.logCall (.reportedDown info.cid) else k) hdown,
      core_foldl (g := fun k m => k.loseConnection dcList m) (core_loseConnection dcList),
      core_foldl core_relayDataCall]
    rfl

theorem capability_refines (hr : s.Regular) (up down : Nat) :
    (s.radioLinkCapabilityChanged up down).Regular ∧
      (s.radioLinkCapabilityChanged up down).core = s.core.radioLinkCapabilityChanged up down := by
  constructor
  · exact Regular.foldl (fun s m hr => hr.postMachine m _) _ hr
  · exact core_foldl (fun s m => core_postMachine m _) _ _

/-! Steps -/

theorem step_refines {l : Label} (hr : s.Regular) (hw : ∀ c ∈ s.core.controls, c.WellFormed)
    (h : step l s = some s') : s'.Regular ∧ Core.Next (s.cue l) s.core s'.core := by
  cases l with
  | postHandler e =>
    change _ ∧ Core.Next .other _ _
    simp only [step] at h
    split_ifs at h with he
    obtain rfl := Option.some.inj h
    have hsend : Hidden s (s.sendEvent e) := hidden_sendEvent (isNotice_of_isExternal he)
    exact hsend.acts.next hr other_notice
  | dispatchHandler env => exact dispatchHandler_refines hr h
  | fireHandler i =>
    obtain ⟨q, hq, rfl⟩ := Option.map_eq_some_iff.mp h
    obtain ⟨hr', hcore⟩ := fireHandler_hidden hr hq
    refine ⟨hr', s.core, .skip other_notice, ?_⟩
    rw [hcore]
  | call env c =>
    change _ ∧ Core.Next .other _ _
    obtain rfl := Option.some.inj h
    exact (does_call c).establishes.connects.acts.next hr other_notice
  | postMachine m e =>
    change _ ∧ Core.Next .other _ _
    simp only [step] at h
    split_ifs at h with he
    obtain rfl := Option.some.inj h
    refine ⟨hr.postMachine m e, s.core.post m e, .answer he.1, ?_⟩
    rw [core_postMachine]
  | dispatchMachine env m => exact dispatchMachine_refines hr hw h
  | fireMachine m i =>
    obtain ⟨x, hm, hx⟩ := Option.bind_eq_some_iff.mp h
    obtain ⟨x', hfire, rfl⟩ := Option.map_eq_some_iff.mp hx
    exact fireMachine_refines hr hm hfire
  | linkStateChanged m ifName up =>
    change _ ∧ Core.Next .other _ _
    simp only [step] at h
    split_ifs at h
    obtain rfl := Option.some.inj h
    exact linkStateChanged_refines hr m ifName up
  | dataCallListChanged dcList =>
    obtain rfl := Option.some.inj h
    obtain ⟨hr', hcore⟩ := report_refines hr dcList
    refine ⟨hr', _, .report, ?_⟩
    rw [hcore]
  | linkCapabilityChanged up down =>
    obtain rfl := Option.some.inj h
    obtain ⟨hr', hcore⟩ := capability_refines hr up down
    refine ⟨hr', s.core.radioLinkCapabilityChanged up down, .capability, ?_⟩
    rw [hcore]

end Slot
end CellularData
