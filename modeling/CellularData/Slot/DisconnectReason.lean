import CellularData.Slot.Obligations

/-! The reason of a disconnection on its way: the request of the handler, the answer of the modem and
the report that the handler decodes. -/
namespace CellularData
open Lib StateMachine Relation

namespace Control

variable {env : MachineEnv} {c c' : Control} {e : MachineEvent} {os : List MachineOutput}

/-- The state, the identifiers and the recorded result stay; only queues change. -/
structure Stays (c c' : Control) : Prop where
  state : c'.state = c.state
  connectId : c'.connectId = c.connectId
  apnId : c'.apnId = c.apnId
  resultInfo : c'.resultInfo = c.resultInfo

theorem Stays.refl (c : Control) : Stays c c := ⟨rfl, rfl, rfl, rfl⟩

theorem Stays.trans {c'' : Control} (h : Stays c c') (h' : Stays c' c'') : Stays c c'' :=
  ⟨h'.state.trans h.state, h'.connectId.trans h.connectId, h'.apnId.trans h.apnId,
    h'.resultInfo.trans h.resultInfo⟩

/-- A disconnection under way is left or waits on. -/
theorem Transition.stays (ht : Transition env c e c' os) (h : c.state = some .disconnecting)
    (h' : c'.state = some .disconnecting) : Stays c c' := by
  have hne : ∀ st, st ≠ ConnState.disconnecting → c.state ≠ some st := by
    intro st hst heq
    exact hst (Option.some.inj (heq.symm.trans h))
  cases ht with
  | ignore _ => exact .refl c
  | defer _ _ => exact ⟨rfl, rfl, rfl, rfl⟩
  | boot hst => cases h.symm.trans hst
  | connect hst => exact absurd hst (hne _ (by decide))
  | accept hst hflag hs => exact absurd hst (hne _ (by decide))
  | fail hst => exact absurd hst (hne _ (by decide))
  | abandon hst => exact absurd hst (hne _ (by decide))
  | complete hst => exact absurd hst (hne _ (by decide))
  | disconnect hst he => exact absurd hst (hne _ (by decide))
  | lose hst he => exact absurd hst (hne _ (by decide))
  | finish hst he => cases h'
  | release hst he => cases h'

end Control

namespace Core

variable {k k' : Core} {cue : Cue} {m : MachineRef} {c : Control}

/-- The machine's automaton stays. -/
def Stays (m : MachineRef) (c : Control) (k : Core) : Prop :=
  ∃ c', k.controls[m]? = some c' ∧ c.Stays c'

theorem Stays.of_controls (h : k.Stays m c) (heq : k'.controls = k.controls) : k'.Stays m c := by
  obtain ⟨c', hm, hc⟩ := h
  exact ⟨c', heq ▸ hm, hc⟩

theorem Stays.modify (h : k.Stays m c) (n : MachineRef) {f : Control → Control}
    (hf : ∀ c : Control, c.Stays (f c)) : (k.modifyControl n f).Stays m c := by
  obtain ⟨c', hm, hc⟩ := h
  by_cases hn : n = m
  · subst hn
    exact ⟨f c', getElem?_modify_self hm, hc.trans (hf c')⟩
  · exact ⟨c', (getElem?_modify_of_ne hn f _).trans hm, hc⟩

theorem Stays.post (h : k.Stays m c) (n : MachineRef) (e : MachineEvent) : (k.post n e).Stays m c :=
  h.modify n fun _ => ⟨rfl, rfl, rfl, rfl⟩

theorem Stays.act (h : k.Stays m c) (ha : Act k k') : k'.Stays m c := by
  cases ha with
  | disconnect howner => exact Stays.post (k := k.setState _ _) h _ _
  | reset hstate => exact h
  | retry hstate => exact h
  | connect hidle hm hinactive hfree hparams hrecord =>
    exact Stays.post (k := (k.setState _ _).setOwner _ _) h _ _
  | @create t params record hidle hbusy hparams hrecord =>
    obtain ⟨c', hm, hc⟩ := h
    have happend : Stays m c { k with
        controls := k.controls ++ [CellularDataStateMachine.create.control] } :=
      ⟨c', List.getElem?_append_left (List.getElem?_eq_some_iff.mp hm).1 ▸ hm, hc⟩
    exact happend.post k.controls.length (.connect params)
  | @tell e he =>
    obtain ⟨c', hm, hc⟩ := h
    refine ⟨c'.post e, ?_, hc.trans ⟨rfl, rfl, rfl, rfl⟩⟩
    rw [List.getElem?_map, hm]
    rfl

/-- A trigger leaves the automaton of a machine as it is, unless the machine takes an event. -/
theorem Trigger.stays (ht : Trigger cue k k') (hm : k.controls[m]? = some c) :
    k'.Stays m c ∨ ∃ env e q c' os, cue = .machine m ∧ c.queue.next = some (e, q) ∧
      Control.Transition env { c with queue := q } e c' os ∧ k'.controls[m]? = some c' := by
  have h : k.Stays m c := ⟨c, hm, .refl c⟩
  cases ht with
  | skip hcue => exact .inl h
  | complete hnotices => exact .inl (Stays.of_controls h (controls_complete _ _))
  | finish hnotices => exact .inl (Stays.of_controls h (controls_finish _ _))
  | update hnotices => exact .inl h
  | answer he => exact .inl (h.post _ _)
  | @dispatch env _ n x c' e q os hn hnext ht =>
    have hcontrols := controls_foldl_receive
      { k.logMachineEvent n x e with controls := k.controls.set n c' } n os
    by_cases hne : m = n
    · subst hne
      obtain rfl := Option.some.inj (hm.symm.trans hn)
      refine .inr ⟨env, e, q, c', os, rfl, hnext, ht, ?_⟩
      rw [hcontrols]
      exact List.getElem?_set_self (List.getElem?_eq_some_iff.mp hm).1
    · refine .inl ⟨c, ?_, .refl c⟩
      rw [hcontrols]
      exact getElem?_set_other hne hm
  | @fire _ n x i q hn hq =>
    left
    by_cases hne : m = n
    · subst hne
      obtain rfl := Option.some.inj (hm.symm.trans hn)
      exact ⟨_, List.getElem?_set_self (List.getElem?_eq_some_iff.mp hm).1, rfl, rfl, rfl, rfl⟩
    · exact ⟨c, getElem?_set_other hne hm, .refl c⟩
  | rearm => exact .inl (h.modify _ fun _ => ⟨rfl, rfl, rfl, rfl⟩)
  | report =>
    left
    refine report_invariant (P := Stays m c)
      (fun k info _ hk => hk.of_controls (controls_relayDataCall k info)) (fun k n _ hk => ?_)
      (fun _ _ hk => hk) h
    exact loseConnection_invariant hk (fun _ => hk.post _ _) _
  | capability => exact .inl (foldl_invariant (P := Stays m c) (fun k n hk => hk.post n _) _ h)

end Core

namespace Slot

variable {env : Env} {s s' : Slot} {m : MachineRef} {l : Label} {r : DisConnectionReason}
  {h : List (Label × Slot)}

/-! The steps of a disconnection -/

/-- The machine that takes an event in the step, and the event. -/
def takesUp (m : MachineRef) (s : Slot) : Label → Option (CellularDataStateMachine × MachineEvent)
  | .dispatchMachine _ n =>
    if n = m then (s.machine? m).bind fun x => x.queue.next.map fun p => (x, p.1) else none
  | _ => none

def isDisconnecting (m : MachineRef) (s : Slot) : Bool := (s.machine? m).any (·.isDisconnectingState)

/-- The machine in `Active` takes a request to disconnect for the reason. -/
def startsDisconnect (m : MachineRef) (r : DisConnectionReason) (l : Label) (s : Slot) : Bool :=
  (s.takesUp m l).any fun p => p.1.isActiveState &&
    match p.2 with
    | .disconnect params | .disconnectAll params => params.reason = r
    | _ => false

/-- The machine takes the modem's confirmation of the deactivation that it waits for. -/
def confirms (m : MachineRef) (l : Label) (s : Slot) : Bool :=
  (s.takesUp m l).any fun p => p.1.isDisconnectingState &&
    match p.2 with
    | .deactivateDataCall (some rilInfo) => rilInfo.flag = p.1.data.connectId
    | _ => false

theorem takesUp_eq_some {x : CellularDataStateMachine} {e : MachineEvent}
    (h : s.takesUp m l = some (x, e)) : ∃ env q, l = .dispatchMachine env m ∧
      s.machine? m = some x ∧ x.queue.next = some (e, q) := by
  cases l with
  | dispatchMachine env n =>
    unfold takesUp at h
    dsimp only at h
    split_ifs at h with hn
    obtain ⟨y, hm, hp⟩ := Option.bind_eq_some_iff.mp h
    obtain ⟨⟨e', q⟩, hnext, heq⟩ := Option.map_eq_some_iff.mp hp
    obtain ⟨rfl, rfl⟩ := Prod.mk.inj heq
    exact ⟨env, q, hn ▸ rfl, hm, hnext⟩
  | _ => cases h

/-- What the handler is sent by a machine. -/
theorem queue_receive (s : Slot) (m : MachineRef) (os : List MachineOutput) :
    (os.foldl (fun s o => s.receive m o) s).queue.ready =
      s.queue.ready ++ (os.filter MachineOutput.isSignal).filterMap MachineOutput.notice := by
  induction os generalizing s with
  | nil => exact (List.append_nil _).symm
  | cons o os ih =>
    rw [List.foldl_cons, ih]
    cases o with
    | establishDataConnectionComplete info => exact List.append_assoc _ [_] _
    | disconnectDataComplete info => exact List.append_assoc _ [_] _
    | _ => rfl

theorem machine_receive (s : Slot) (m : MachineRef) (os : List MachineOutput) :
    (os.foldl (fun s o => s.receive m o) s).stateMachines = s.stateMachines := by
  induction os generalizing s with
  | nil => rfl
  | cons o os ih =>
    rw [List.foldl_cons, ih]
    cases o <;> rfl

/-- A machine's step does what its automaton does. -/
theorem dispatchMachine_spec (hr : s.Regular) (hw : ∀ c ∈ s.core.controls, c.WellFormed)
    {x : CellularDataStateMachine} {e : MachineEvent} {q : EventQueue MachineEvent}
    (hm : s.machine? m = some x) (hnext : x.queue.next = some (e, q))
    (h : s.dispatchMachine env m = some s') :
    s'.core.controls[m]? = some (({ x.control with queue := q }.process (env.machineEnv s) e).1) ∧
      s'.queue.ready = s.queue.ready ++
        (({ x.control with queue := q }.process (env.machineEnv s) e).2).filterMap
          MachineOutput.notice := by
  have hcontrol : s.core.controls[m]? = some x.control := by
    rw [controls_getElem?, hm, Option.map_some]
  have hwx := hw _ (List.mem_of_getElem? hcontrol)
  have hsettled := hr.settled x (List.mem_of_getElem? hm)
  obtain ⟨hquit, hinit⟩ := CellularDataStateMachine.next_legal hwx hnext
  have href : CellularDataStateMachine.Refines
      (CellularDataStateMachine.process (env.machineEnv s) { x with queue := q } e)
      (({ x.control with queue := q }).process (env.machineEnv s) e) :=
    CellularDataStateMachine.process_refines (hsettled.withQueue q) hquit hinit
  have hdispatch : x.dispatch (env.machineEnv s) =
      some (e, CellularDataStateMachine.process (env.machineEnv s) { x with queue := q } e) := by
    unfold CellularDataStateMachine.dispatch EventHandler.dispatch
    rw [hnext]
    rfl
  unfold dispatchMachine at h
  rw [hm] at h
  dsimp only at h
  rw [hdispatch] at h
  obtain rfl := Option.some.inj h
  constructor
  · rw [controls_getElem?, machine?, machine_receive, List.getElem?_set_self
      (List.getElem?_eq_some_iff.mp hm).1, Option.map_some,
      CellularDataStateMachine.control_clearOutbox, href.control]
  · rw [queue_receive, logMachineEvent_frame, ← href.signals]
    rfl

theorem disconnecting_control (hr : s.Regular) (h : s.isDisconnecting m = true) :
    ∃ c, s.core.controls[m]? = some c ∧ c.state = some .disconnecting := by
  obtain ⟨x, hm, hx⟩ := (Option.any_eq_true _ _).mp h
  refine ⟨x.control, control_of_machine hm, ?_⟩
  exact ((hr.settled x (List.mem_of_getElem? hm)).isState_iff _).mp (of_decide_eq_true hx)

theorem startsDisconnect_control (hs : system.Reachable s) (hl : startsDisconnect m r l s = true)
    (hstep : system.step l s = some s') : ∃ c, s'.core.controls[m]? = some c ∧
      c.state = some .disconnecting ∧ c.resultInfo = some { reason := disconnReasonPdpError r } := by
  obtain ⟨hr, hw⟩ := reachable_regular hs
  obtain ⟨⟨x, e⟩, htakes, htest⟩ := (Option.any_eq_true _ _).mp hl
  obtain ⟨env, q, rfl, hm, hnext⟩ := takesUp_eq_some htakes
  obtain ⟨hactive, hrequest⟩ := Bool.and_eq_true_iff.mp htest
  have hstate : x.control.state = some .active :=
    ((hr.settled x (List.mem_of_getElem? hm)).isState_iff _).mp (of_decide_eq_true hactive)
  obtain ⟨hcontrol, -⟩ := dispatchMachine_spec hr hw hm hnext hstep
  refine ⟨_, hcontrol, ?_⟩
  unfold Control.process
  dsimp only
  rw [hstate]
  cases e with
  | disconnect params =>
    obtain rfl := of_decide_eq_true hrequest
    exact ⟨rfl, rfl⟩
  | disconnectAll params =>
    obtain rfl := of_decide_eq_true hrequest
    exact ⟨rfl, rfl⟩
  | _ => cases hrequest

/-- While the machine waits for the modem, the reason stays recorded. -/
theorem disconnecting_recorded (hh : system.History h s)
    (hsince : Since (fun l s => startsDisconnect m r l s = true)
      (fun s => s.isDisconnecting m = true) h) (hs : s.isDisconnecting m = true) :
    ∃ c, s.core.controls[m]? = some c ∧ c.state = some .disconnecting ∧
      c.resultInfo = some { reason := disconnReasonPdpError r } := by
  induction hh with
  | init _ => cases hsince
  | step hh hstep ih =>
    rcases hsince with hstart | ⟨hbefore, hsince⟩
    · exact startsDisconnect_control hh.reachable hstart hstep
    · obtain ⟨c, hm, hst, hresult⟩ := ih hsince hbefore
      obtain ⟨hr, hw⟩ := reachable_regular hh.reachable
      obtain ⟨hr', k, ht, hacts⟩ := step_refines hr hw hstep
      have hkept : ∀ c, k.Stays m c → Core.Stays m c (Slot.core _) := fun c hk =>
        reflTransGen_invariant (P := Core.Stays m c) (fun _ _ hk ha => hk.act ha) hacts hk
      obtain ⟨c₁, hm₁, hst₁⟩ := disconnecting_control hr' hs
      rcases ht.stays hm with hk | ⟨menv, e, q, c₂, os, -, hnext, htrans, hm₂⟩
      · obtain ⟨c', hm', hc⟩ := hkept c hk
        exact ⟨c', hm', hc.state.trans hst, hc.resultInfo.trans hresult⟩
      · obtain ⟨c', hm', hc⟩ := hkept c₂ ⟨c₂, hm₂, .refl c₂⟩
        obtain rfl := Option.some.inj (hm₁.symm.trans hm')
        have hwait := htrans.stays hst (hc.state.symm.trans hst₁)
        exact ⟨_, hm₁, hst₁, hc.resultInfo.trans (hwait.resultInfo.trans hresult)⟩

/-- Only the reason of a handover is lost: it has no entry in the table that encodes the others. -/
theorem decode_encode_iff (r : DisConnectionReason) :
    ConnectionRetryPolicy.convertPdpErrorToDisconnReason (disconnReasonPdpError r) = r ↔
      r ≠ .handoverConnection := by
  cases r <;> decide

/-- A disconnection that the modem confirms is reported to the handler for the holder of the machine,
and the handler decodes the reason for which it was requested unless that was a handover. -/
theorem decoded_reason_iff (hh : system.History h s)
    (hsince : Since (fun l s => startsDisconnect m r l s = true)
      (fun s => s.isDisconnecting m = true) h) (hl : confirms m l s = true)
    (hstep : system.step l s = some s') :
    ∃ t info, (s.holder t).cellularDataStateMachine = some m ∧ info.flag = t.id ∧
      s'.queue.ready = s.queue.ready ++ [.disconnectDataComplete info] ∧
      (ConnectionRetryPolicy.convertPdpErrorToDisconnReason info.reason = r ↔
        r ≠ .handoverConnection) := by
  obtain ⟨hr, hw⟩ := reachable_regular hh.reachable
  obtain ⟨⟨x, e⟩, htakes, htest⟩ := (Option.any_eq_true _ _).mp hl
  obtain ⟨env, q, rfl, hm, hnext⟩ := takesUp_eq_some htakes
  obtain ⟨hwaits, hanswer⟩ := Bool.and_eq_true_iff.mp htest
  have hdis : s.isDisconnecting m = true := (Option.any_eq_true _ _).mpr ⟨x, hm, hwaits⟩
  obtain ⟨rilInfo, hflag, rfl⟩ : ∃ rilInfo : RadioResponseInfo, rilInfo.flag = x.data.connectId ∧
      e = .deactivateDataCall (some rilInfo) := by
    cases e with
    | deactivateDataCall answer =>
      cases answer with
      | none => cases hanswer
      | some rilInfo => exact ⟨rilInfo, of_decide_eq_true hanswer, rfl⟩
    | _ => cases hanswer
  obtain ⟨c, hc, hstate, hresult⟩ := disconnecting_recorded hh hsince hdis
  obtain rfl := Option.some.inj ((control_of_machine hm).symm.trans hc)
  have hbusy : x.control.isBusy = true := Control.isBusy_iff.mpr (.inr (.inr hstate))
  have hattempt := Control.attempt_busy hbusy
  have ho := reachable_owned hh.reachable
  obtain ⟨t, howner⟩ := ho.owned m _ hc (hattempt ▸ Option.some_ne_none _)
  have hid : x.control.apnId = t.id := by
    obtain ⟨-, ht⟩ := ho.attempt howner hc (hattempt ▸ Option.some_ne_none _)
    exact Option.some.inj (hattempt.symm.trans ht)
  have hprocess : ({ x.control with queue := q }.process (env.machineEnv s)
      (.deactivateDataCall (some rilInfo))).2 =
        [.disconnectDataComplete { x.control with queue := q }.disconnectInfo] := by
    unfold Control.process
    dsimp only
    rw [hstate]
    exact congrArg Prod.snd (if_neg (not_not.mpr hflag.symm))
  have hreason : { x.control with queue := q }.disconnectInfo.reason = disconnReasonPdpError r := by
    unfold Control.disconnectInfo
    dsimp only
    rw [hresult]
  obtain ⟨-, hqueue⟩ := dispatchMachine_spec hr hw hm hnext hstep
  refine ⟨t, { x.control with queue := q }.disconnectInfo, howner, ?_, ?_, ?_⟩
  · exact (Control.flag_disconnectInfo _).trans hid
  · rw [hqueue, hprocess]
    rfl
  · rw [hreason]
    exact decode_encode_iff r

/-- The handler's request is taken by the machine and confirmed by the modem. -/
def teardownLabels : List Label :=
  [.dispatchMachine serviceEnv 0, .postMachine 0 (.deactivateDataCall (some { flag := 1 }))]

theorem decoded_reason_clear : ∃ s s', system.Reachable s ∧
    system.step (.dispatchMachine serviceEnv 0) s = some s' ∧
    ∃ t info, (s.holder t).cellularDataStateMachine = some 0 ∧ info.flag = t.id ∧
      s'.queue.ready = s.queue.ready ++ [.disconnectDataComplete info] ∧
      (ConnectionRetryPolicy.convertPdpErrorToDisconnReason info.reason = .clearConnection ↔
        DisConnectionReason.clearConnection ≠ .handoverConnection) := by
  obtain ⟨h, s, hh, hp⟩ := TransitionSystem.exists_history start_initial
    (connectedLabels ++ [clearLabel] ++ teardownLabels)
    (p := fun h s => Since (fun l s => startsDisconnect 0 .clearConnection l s = true)
      (fun s => s.isDisconnecting 0 = true) h ∧
        confirms 0 (.dispatchMachine serviceEnv 0) s = true ∧
        (system.step (.dispatchMachine serviceEnv 0) s).isSome = true) (by decide +kernel)
  obtain ⟨hsince, hconfirms, hsome⟩ := of_decide_eq_true hp
  obtain ⟨s', hstep⟩ := Option.isSome_iff_exists.mp hsome
  exact ⟨s, s', hh.reachable, hstep, decoded_reason_iff hh hsince hconfirms hstep⟩

/-- A release for a handover to Wi-Fi: the handler sends the reason of a handover and takes the report
for that of a retry. -/
theorem handover_decodes_as_retry : ∃ h s info,
    system.History h s ∧ Since (fun l s => startsDisconnect 0 .handoverConnection l s = true)
      (fun s => s.isDisconnecting 0 = true) h.tail ∧
    (h.head?.any fun p => confirms 0 p.1 p.2) = true ∧
    s.taken (.dispatchHandler serviceEnv) = some (.disconnectDataComplete info) ∧
    info.flag = ApnType.default_.id ∧
    ConnectionRetryPolicy.convertPdpErrorToDisconnReason info.reason = .retryConnection := by
  obtain ⟨h, s, hh, hp⟩ := TransitionSystem.exists_history start_initial
    (connectedLabels ++ [.call serviceEnv (.requestNet false [.internet] .wifi),
      .dispatchHandler serviceEnv, .dispatchHandler serviceEnv] ++ teardownLabels ++
        [.dispatchMachine serviceEnv 0])
    (p := fun h s => Since (fun l s => startsDisconnect 0 .handoverConnection l s = true)
      (fun s => s.isDisconnecting 0 = true) h.tail ∧
        (h.head?.any fun p => confirms 0 p.1 p.2) = true ∧
        s.taken (.dispatchHandler serviceEnv) = some (.disconnectDataComplete
          { cid := 5, flag := ApnType.default_.id, active := 0, reason := .none_ }))
    (by decide +kernel)
  obtain ⟨hsince, hconfirms, htaken⟩ := of_decide_eq_true hp
  exact ⟨h, s, _, hh, hsince, hconfirms, htaken, rfl, rfl⟩

end Slot
end CellularData
