import CellularData.Slot.DataState
import CellularData.Slot.Unasked

/-! Connections are opened only for networks that are asked for at the time. -/
namespace CellularData
open Lib StateMachine Relation

namespace Slot

variable {env : Env} {s s' s'' : Slot} {t u : ApnType} {l : Label} {h : List (Label × Slot)}
  {e : HandlerEvent}

/-- In the step the handler takes a release of the type's network, or hears that the SIM is gone. -/
def withdrawn (s : Slot) : Label → ApnType → Bool
  | .dispatchHandler env, t =>
    match s.taken (.dispatchHandler env) with
    | some (.requestNetwork request false) => findApnIdByCapability request.capability = some t
    | some (.sim .stateChange slotId) => slotId = s.slotId ∧ env.simState = .notPresent
    | _ => false
  | _, _ => false

/-- Connections have been requested for enabled holders only, and no holder has been enabled. -/
structure Heeds (s s' : Slot) : Prop where
  enabled : ∀ u, (s'.holder u).dataCallEnabled = true → (s.holder u).dataCallEnabled = true
  records : ∃ rs, s'.connectLog = rs ++ s.connectLog ∧
    ∀ r ∈ rs, (s.holder r.apnType).dataCallEnabled = true

theorem Heeds.refl (s : Slot) : Heeds s s := ⟨fun _ hu => hu, [], rfl, fun _ hr => nomatch hr⟩

/-- No connection is requested. -/
theorem Heeds.silent (h : Heeds s s')
    (henabled : ∀ u, (s''.holder u).dataCallEnabled = true → (s'.holder u).dataCallEnabled = true)
    (hlog : s''.connectLog = s'.connectLog) : Heeds s s'' := by
  obtain ⟨rs, heq, hrs⟩ := h.records
  constructor
  · intro u hu
    have hbefore : (s'.holder u).dataCallEnabled = true := henabled u hu
    exact h.enabled u hbefore
  · exact ⟨rs, hlog.trans heq, hrs⟩

theorem Heeds.setApnState (h : Heeds s s') (t : ApnType) (st : ApnProfileState) :
    Heeds s (s'.setApnState t st) := by
  apply h.silent
  · intro u hu
    rwa [dataCallEnabled_setApnState] at hu
  · rfl

theorem Heeds.write (h : Heeds s s') (hw : Write env s' s'') : Heeds s s'' := by
  apply h.silent
  · exact fun u => hw.dataCallEnabled u
  · exact congrArg Core.connectLog hw.hidden.core

theorem Heeds.writes (h : Heeds s s') (hw : Writes env s' s'') : Heeds s s'' :=
  hw.invariant (fun _ _ h hw => h.write hw) h

theorem Heeds.push (h : Heeds s s') (t : ApnType) :
    Heeds s (s'.updateCellularDataConnectState t) := by
  have hpush : Write {} s' (s'.updateCellularDataConnectState t) := .push
  exact h.write hpush

theorem heeds_renewHolder (h : Heeds s s') (t : ApnType) : Heeds s (s'.renewHolder t) := by
  unfold renewHolder
  split_ifs
  · have hwrite : Write {} s' (s'.modifyHolder t fun h => h.initialApnRetryCount) :=
      .holder rfl rfl rfl rfl id
    have hcount : Heeds s (s'.modifyHolder t fun h => h.initialApnRetryCount) := h.write hwrite
    have hidle := hcount.setApnState t .idle
    exact hidle.silent (fun _ hu => hu) rfl
  · exact h.silent (fun _ hu => hu) rfl

theorem Heeds.op {C : Slot → Slot → Prop} (hC : ∀ a b, C a b → Heeds s a → Heeds s b)
    (h : Heeds s s') (hop : Op env C s' s'') : Heeds s s'' := by
  cases hop with
  | write hw => exact h.write hw
  | @disconnect t m params howner =>
    exact (h.setApnState t .disconnecting).silent (fun _ hu => hu) rfl
  | @reset t hstate => exact h.setApnState t .idle
  | @retry t id delay hidle hid henabled =>
    exact (h.setApnState t .retrying).silent (fun _ hu => hu) rfl
  | renew => exact renewHolders_invariant (fun _ t h => heeds_renewHolder h t) h
  | tell he => exact h.silent (fun _ hu => hu) rfl
  | search =>
    obtain ⟨d, c, heq⟩ := checkForCompatibleDataConnection_eq env s' _
    rw [heq]
    exact h.silent (fun _ hu => hu) rfl
  | connect hc => exact hC _ _ hc h

theorem Heeds.does {C : Slot → Slot → Prop} (hC : ∀ a b, C a b → Heeds s a → Heeds s b)
    (h : Heeds s s') (hd : Does env C s' s'') : Heeds s s'' :=
  hd.invariant (fun _ _ h hop => h.op hC hop) h

/-- A connection is requested for a holder that is enabled. -/
theorem Heeds.starts (ht : (s.holder t).dataCallEnabled = true) (h : Heeds s s')
    (hs : Starts env t s' s'') : Heeds s s'' := by
  cases hs with
  | @start apnItem hidle hopen hsingle =>
    obtain ⟨rs, heq, hrs⟩ := h.records
    have hfound : s'.findOrCreateCellularDataConnect.1.connectLog = s'.connectLog := by
      unfold findOrCreateCellularDataConnect
      split <;> rfl
    have hholder : ∀ u, s'.findOrCreateCellularDataConnect.1.holder u = s'.holder u :=
      fun u => by rw [holder_findOrCreateCellularDataConnect]
    generalize s'.findOrCreateCellularDataConnect = r at hfound hholder ⊢
    obtain ⟨s₁, m⟩ := r
    obtain ⟨params, -, hcore, -⟩ := core_startConnection env s₁ t m apnItem env.psRadioTech
    have hlog : (s₁.startConnection env t m apnItem env.psRadioTech).connectLog =
        s₁.connectRecord env t m :: s₁.connectLog := congrArg Core.connectLog hcore
    constructor
    · intro u hu
      dsimp only at hu
      rw [holder_startConnection] at hu
      apply h.enabled u
      rw [← hholder u]
      split_ifs at hu with hut
      · rw [hut]
        exact hu
      · exact hu
    · refine ⟨s₁.connectRecord env t m :: rs, ?_, ?_⟩
      · have hbefore : s₁.connectLog = rs ++ s.connectLog := hfound.trans heq
        dsimp only
        rw [hlog, hbefore]
        rfl
      · intro r hr
        rcases List.mem_cons.mp hr with rfl | hr
        · exact ht
        · exact hrs r hr

theorem Heeds.attempt (ht : (s.holder t).dataCallEnabled = true) (h : Heeds s s') :
    Heeds s (s'.attemptEstablishDataConnection env t) := by
  rcases attemptEstablishDataConnection_cases env s' t with hw | ⟨-, hd⟩
  · exact h.writes hw
  · exact h.does (fun _ _ hs h => h.starts ht hs) hd

theorem Heeds.establishIfConnectable (h : Heeds s s') (t : ApnType) :
    Heeds s (s'.establishIfConnectable env t) := by
  unfold Slot.establishIfConnectable
  split_ifs with henabled
  · have ht : (s.holder t).dataCallEnabled = true := h.enabled t henabled
    have hpush := h.push t
    have hdoes : Does env (fun _ _ => False) (s'.updateCellularDataConnectState t)
        ((s'.updateCellularDataConnectState t).releaseDataConnection t) := does_releaseDataConnection t
    have hrelease : Heeds s ((s'.updateCellularDataConnectState t).releaseDataConnection t) :=
      hpush.does (fun _ _ hfalse => hfalse.elim) hdoes
    apply Heeds.attempt ht
    split
    · exact hrelease
    · exact hrelease
    · exact hpush
  · exact h

theorem Heeds.establishes (h : Heeds s s') (he : Establishes env s' s'') : Heeds s s'' := by
  cases he with
  | @attempt t henabled =>
    have ht : (s.holder t).dataCallEnabled = true := h.enabled t henabled
    exact h.attempt ht
  | all =>
    have hwrite : Write env s' s'.clearAllApnBad := .clearBad
    have hclear : Heeds s s'.clearAllApnBad := h.write hwrite
    exact List.foldlRecOn _ _ hclear fun _ h t _ => h.establishIfConnectable t

theorem Heeds.event (h : Heeds s s') (hd : Does env (Establishes env) s' s'') : Heeds s s'' :=
  h.does (fun _ _ he h => h.establishes he) hd

theorem Heeds.dropResume (h : Heeds s s') :
    Heeds s (if t = .mms then s'.removeEvent isResumeDataPermittedTimeout else s') := by
  split_ifs
  · exact h.silent (fun _ hu => hu) rfl
  · exact h

theorem Heeds.releaseMachine {m : MachineRef} {info : SetupDataCallResultInfo} (h : Heeds s s') :
    Heeds s (s'.releaseMachine env t m info) := by
  unfold Slot.releaseMachine
  extract_lets menv s₁ s₂ s₃
  have hwrite : Write env s' s₁ := .machine fun _ =>
    CellularDataStateMachine.publishes_updateNetworkInfoFrom info
  have h₁ : Heeds s s₁ := h.write hwrite
  have h₂ : Heeds s s₂ := by
    dsimp only [s₂]
    split
    · exact h₁.silent (fun _ hu => hu) rfl
    · exact h₁
  have h₃ : Heeds s s₃ := by
    apply h₂.silent
    · intro u hu
      dsimp only [s₃] at hu
      rw [holder_modifyHolder] at hu
      split_ifs at hu with hut
      · rw [hut]
        exact hu
      · exact hu
    · rfl
  exact h₃.setApnState t .idle

/-- Every event but a request for a known network. -/
theorem Heeds.takes (h : Heeds s s') (ht : Takes env s' e s'')
    (hnone : ∀ request, e = .requestNetwork request true →
      findApnIdByCapability request.capability = none) : Heeds s s'' := by
  cases ht with
  | event he hd => exact h.event hd
  | request ht _ =>
    rw [hnone _ rfl] at ht
    cases ht
  | noCompletion hid => exact h.silent (fun _ hu => hu) rfl
  | @complete info t s₁ s₂ s₃ hid h₁ h₂ h₃ =>
    have hstart : Heeds s (s'.setApnActivateEnd env info) := h.silent (fun _ hu => hu) rfl
    have hcompleted : Heeds s s₁ := (hstart.setApnState t .connected).writes h₁
    have hs₂ : Heeds s s₂ := by
      refine Heeds.writes ?_ h₂
      split
      · exact hcompleted
      · exact hcompleted.setApnState t .idle
    exact ((hs₂.push t).writes h₃).dropResume
  | noEnd hid => exact h
  | @endWithoutMachine info t hid hm => exact h.setApnState t .idle
  | @finish info t m s₁ hid hm hd =>
    have hs₁ : Heeds s s₁ := (h.releaseMachine.push t).event hd
    unfold Slot.handleDisconnectDataCompleteForMmsType
    split_ifs
    · have hback : Write env s₁ (s₁.setDataPermittedForMms env false) := .giveBack
      exact (hs₁.write hback).silent (fun _ hu => hu) rfl
    · exact hs₁
  | update hw => exact h.writes hw

/-- A request enables the holder of its type and opens no connection. -/
theorem request_asks {request : NetRequest}
    (hw : Writes env (s.modifyHolder t fun h => h.requestCellularData request.capability) s') :
    s'.connectLog = s.connectLog ∧
      ∀ u, (s'.holder u).dataCallEnabled = true → t = u ∨ (s.holder u).dataCallEnabled = true := by
  constructor
  · exact congrArg Core.connectLog hw.hidden.core
  · intro u hu
    have hbefore := hw.dataCallEnabled u hu
    rw [holder_modifyHolder] at hbefore
    split_ifs at hbefore with hut
    · exact .inl hut.symm
    · exact .inr hbefore

/-! Steps -/

/-- A step that takes no request heeds those that stand; one that does opens no connection. -/
theorem Steps.asks (hs : Steps s l s') : Heeds s s' ∨ ∃ t, s.requested l = some t ∧
    s'.connectLog = s.connectLog ∧
      ∀ u, (s'.holder u).dataCallEnabled = true → t = u ∨ (s.holder u).dataCallEnabled = true := by
  have hrefl : Heeds s s := .refl s
  cases hs with
  | aside ha =>
    left
    apply hrefl.silent
    · intro u hu
      rwa [ha.holder u] at hu
    · exact congrArg (·.2.2.2.2.2.1) ha.frame
  | call hd => exact .inl (hrefl.event hd)
  | @take env e q hnext =>
    have hq : Heeds s { s with queue := q } := hrefl.silent (fun _ hu => hu) rfl
    have htaken : s.taken (.dispatchHandler env) = some e := by
      rw [taken, hnext]
      rfl
    have htakes := processEvent_takes env { s with queue := q } e
    by_cases hasked : ∃ request, e = .requestNetwork request true ∧
        findApnIdByCapability request.capability ≠ none
    · obtain ⟨request, rfl, hknown⟩ := hasked
      obtain ⟨t, ht⟩ := Option.ne_none_iff_exists'.mp hknown
      rcases msgRequestNetwork_cases env (s := { s with queue := q }) request with ⟨hnone, -⟩ | h
      · exact absurd hnone hknown
      · obtain ⟨t', ht', hw⟩ := h
        obtain ⟨hlog, henabled⟩ := request_asks hw
        refine .inr ⟨t', ?_, hlog, henabled⟩
        rw [requested, htaken]
        exact ht'
    · left
      apply hq.takes htakes
      intro request heq
      by_contra hknown
      exact hasked ⟨request, heq, hknown⟩

theorem dataCallEnabled_releaseAllNetworkRequest (s : Slot) (t : ApnType) :
    (s.releaseAllNetworkRequest.holder t).dataCallEnabled = false := by
  have hfold : ∀ (types : List ApnType) (s : Slot), t ∈ types ∨
      (s.holder t).dataCallEnabled = false → ((types.foldl (fun s t => s.modifyHolder t fun h =>
        h.releaseAllCellularData) s).holder t).dataCallEnabled = false := by
    intro types
    induction types with
    | nil =>
      intro s hs
      simpa using hs
    | cons u types ih =>
      intro s hs
      apply ih
      by_cases hu : t = u
      · right
        simp [hu, ApnHolder.releaseAllCellularData]
      · simpa [hu] using hs
  have hmem : t ∈ ApnType.all := by cases t <;> decide
  exact hfold ApnType.all s (.inl hmem)

theorem dataCallEnabled_msgReleaseNetwork {request : NetRequest}
    (ht : findApnIdByCapability request.capability = some t) :
    ((s.msgRequestNetwork request false).holder t).dataCallEnabled = false := by
  unfold msgRequestNetwork
  rw [ht]
  change ((s.modifyHolder t fun h => h.releaseAllCellularData).holder t).dataCallEnabled = false
  simp [ApnHolder.releaseAllCellularData]

/-- The removal of the SIM disables every holder. -/
theorem dataCallEnabled_simRemoved (hsim : env.simState = .notPresent) :
    ((s.handleSimEvent env .stateChange s.slotId).holder t).dataCallEnabled = false := by
  have hmine : ¬ (s.slotId ≠ s.slotId ∧ SimEvent.stateChange ≠ .nvRefreshFinished) := by simp
  unfold handleSimEvent
  rw [if_neg hmine]
  simp only [handleSimStateChanged, hsim]
  exact dataCallEnabled_releaseAllNetworkRequest _ t

theorem withdrawn_disables (hstep : system.step l s = some s') (hw : s.withdrawn l t = true) :
    (s'.holder t).dataCallEnabled = false := by
  cases l with
  | dispatchHandler env =>
    change s.dispatchHandler env = some s' at hstep
    unfold dispatchHandler at hstep
    simp only [withdrawn, taken] at hw
    cases hnext : s.queue.next with
    | none => simp [hnext] at hstep
    | some p =>
      obtain ⟨e, q⟩ := p
      simp only [hnext, Option.map_some, Option.some.injEq] at hstep hw
      subst hstep
      split at hw
      · rename_i request heq
        obtain rfl := Option.some.inj heq
        have ht : findApnIdByCapability request.capability = some t := of_decide_eq_true hw
        exact dataCallEnabled_msgReleaseNetwork ht
      · rename_i slotId heq
        obtain rfl := Option.some.inj heq
        obtain ⟨rfl, hsim⟩ := of_decide_eq_true hw
        exact dataCallEnabled_simRemoved (s := { s with queue := q }) hsim
      · cases hw
  | _ => cases hw

/-- A holder that is enabled after a step has been enabled before and its request not withdrawn, or
the step takes a request for it. -/
theorem enabled_step (hstep : system.step l s = some s') (ht : (s'.holder t).dataCallEnabled = true) :
    s.requested l = some t ∨ (s.holder t).dataCallEnabled = true ∧ ¬ s.withdrawn l t = true := by
  have hstands : ¬ s.withdrawn l t = true := by
    intro hw
    have hdisabled := withdrawn_disables hstep hw
    rw [hdisabled] at ht
    cases ht
  rcases (step_steps hstep).asks with hheeds | ⟨u, hu, -, hasked⟩
  · exact .inr ⟨hheeds.enabled t ht, hstands⟩
  · rcases hasked t ht with rfl | hbefore
    · exact .inl hu
    · exact .inr ⟨hbefore, hstands⟩

/-- A connection is opened for an enabled holder only. -/
theorem opened_step (hstep : system.step l s = some s') : ∃ rs, s'.connectLog = rs ++ s.connectLog ∧
    ∀ r ∈ rs, (s.holder r.apnType).dataCallEnabled = true := by
  rcases (step_steps hstep).asks with hheeds | ⟨u, -, hlog, -⟩
  · exact hheeds.records
  · exact ⟨[], hlog, fun _ hr => nomatch hr⟩

end Slot
end CellularData
