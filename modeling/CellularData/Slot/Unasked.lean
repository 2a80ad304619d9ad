import CellularData.Slot.Retries
import CellularData.Slot.SingleConnection

/-! Holders that no request has been for. -/
namespace CellularData
open Lib StateMachine Relation

namespace Slot

variable {env : Env} {s s' : Slot} {t u : ApnType} {l : Label} {h : List (Label × Slot)}
  {e : HandlerEvent}

/-- A holder as it has been since `Init`, but for its attributes. -/
structure Unasked (u : ApnType) (s : Slot) : Prop where
  disabled : (s.holder u).dataCallEnabled = false
  machine : (s.holder u).cellularDataStateMachine = none
  idle : (s.holder u).apnState = .idle

theorem Unasked.of_holder (h : Unasked u s) (hsame : s'.holder u = s.holder u) : Unasked u s' :=
  ⟨hsame ▸ h.disabled, hsame ▸ h.machine, hsame ▸ h.idle⟩

theorem Unasked.setApnState (h : Unasked u s) (hu : t ≠ u) (st : ApnProfileState) :
    Unasked u (s.setApnState t st) := by
  refine h.of_holder ?_
  unfold Slot.setApnState
  rw [holder_modifyHolder, if_neg hu.symm]

/-- A write enables no holder. -/
theorem Write.dataCallEnabled (h : Write env s s') (u : ApnType)
    (hu : (s'.holder u).dataCallEnabled = true) : (s.holder u).dataCallEnabled = true := by
  have hsame : s'.apnManager = s.apnManager → (s.holder u).dataCallEnabled = true := by
    intro hmanager
    unfold Slot.holder at hu ⊢
    rwa [hmanager] at hu
  cases h with
  | other h => exact hsame (congrArg (·.2.2.1) h)
  | @holder t f _ _ _ _ henabled =>
    rw [holder_modifyHolder] at hu
    split_ifs at hu with heq
    · rw [heq]
      exact henabled hu
    · exact hu
  | push => exact hsame (apnManager_updateCellularDataConnectState _)
  | machine _ => exact hsame (apnManager_callMachine _ _)
  | reuse _ => exact hsame (apnManager_callMachine _ _)
  | reload =>
    unfold applyApnReload at hu
    split at hu <;> exact hu
  | setBad =>
    unfold setApnBadState at hu
    split at hu <;> exact hu
  | lend =>
    unfold lendDataPermitted Slot.holder at hu
    rw [apnManager_setDataPermittedForMms true] at hu
    split_ifs at hu <;> exact hu
  | giveBack => exact hsame (apnManager_setDataPermittedForMms false)
  | _ => exact hu

theorem Writes.dataCallEnabled (h : Writes env s s') (u : ApnType)
    (hu : (s'.holder u).dataCallEnabled = true) : (s.holder u).dataCallEnabled = true := by
  induction h with
  | refl => exact hu
  | tail _ hw ih => exact ih (hw.dataCallEnabled u hu)

theorem Unasked.write (h : Unasked u s) (hw : Write env s s') : Unasked u s' := by
  refine ⟨?_, ?_, (hw.hidden.apnState u).trans h.idle⟩
  · rw [← Bool.not_eq_true]
    intro hu
    cases h.disabled.symm.trans (hw.dataCallEnabled u hu)
  · have howner : s'.core.owner = s.core.owner := congrArg Core.owner hw.hidden.core
    exact (congrFun howner u).trans h.machine

theorem Unasked.writes (h : Unasked u s) (hw : Writes env s s') : Unasked u s' :=
  hw.invariant (fun _ _ h hw => h.write hw) h

theorem Unasked.push (h : Unasked u s) (t : ApnType) :
    Unasked u (s.updateCellularDataConnectState t) := by
  refine h.of_holder ?_
  unfold Slot.holder
  rw [apnManager_updateCellularDataConnectState]

theorem unasked_renewHolder (h : Unasked u s) (t : ApnType) : Unasked u (s.renewHolder t) := by
  by_cases hu : t = u
  · subst hu
    have hnot : (s.holder t).apnState ≠ .retrying := by
      rw [h.idle]
      exact ApnProfileState.noConfusion
    unfold renewHolder
    rw [if_neg hnot]
    exact h.of_holder rfl
  · unfold renewHolder
    split_ifs
    · have hcount : Unasked u (s.modifyHolder t fun h => h.initialApnRetryCount) := by
        refine h.of_holder ?_
        rw [holder_modifyHolder, if_neg (Ne.symm hu)]
      exact (hcount.setApnState hu .idle).of_holder rfl
    · exact h.of_holder rfl

theorem Unasked.op {C : Slot → Slot → Prop} (hC : ∀ s s', C s s' → Unasked u s → Unasked u s')
    (h : Unasked u s) (hop : Op env C s s') : Unasked u s' := by
  cases hop with
  | write hw => exact h.write hw
  | @disconnect t m params howner =>
    have hne : t ≠ u := by
      rintro rfl
      cases h.machine.symm.trans howner
    exact (h.setApnState hne .disconnecting).of_holder rfl
  | @reset t hstate =>
    refine h.setApnState ?_ .idle
    rintro rfl
    rw [h.idle] at hstate
    rcases hstate with hstate | hstate <;> cases hstate
  | @retry t id delay hidle hid henabled =>
    have hne : t ≠ u := by
      rintro rfl
      cases h.disabled.symm.trans henabled
    exact (h.setApnState hne .retrying).of_holder rfl
  | renew => exact renewHolders_invariant (fun _ t h => unasked_renewHolder h t) h
  | tell _ => exact h.of_holder rfl
  | search =>
    obtain ⟨d, c, heq⟩ := checkForCompatibleDataConnection_eq env s _
    rw [heq]
    exact h.of_holder rfl
  | connect hc => exact hC _ _ hc h

theorem Unasked.does {C : Slot → Slot → Prop} (hC : ∀ s s', C s s' → Unasked u s → Unasked u s')
    (h : Unasked u s) (hd : Does env C s s') : Unasked u s' :=
  hd.invariant (fun _ _ h hop => h.op hC hop) h

theorem Unasked.starts (hu : t ≠ u) (h : Unasked u s) (hs : Starts env t s s') : Unasked u s' := by
  cases hs with
  | start hidle hopen hsingle =>
    refine h.of_holder ?_
    rw [holder_startConnection, if_neg hu.symm, holder_findOrCreateCellularDataConnect]

theorem Unasked.attempt (hu : t ≠ u) (h : Unasked u s) :
    Unasked u (s.attemptEstablishDataConnection env t) := by
  rcases attemptEstablishDataConnection_cases env s t with hw | ⟨-, hd⟩
  · exact h.writes hw
  · exact h.does (fun _ _ hs h => h.starts hu hs) hd

theorem Unasked.establishIfConnectable (h : Unasked u s) (t : ApnType) :
    Unasked u (s.establishIfConnectable env t) := by
  unfold Slot.establishIfConnectable
  split_ifs with henabled
  · have hne : t ≠ u := by
      rintro rfl
      cases h.disabled.symm.trans henabled
    have hpush : Unasked u (s.updateCellularDataConnectState t) := h.push t
    have hrelease : Unasked u ((s.updateCellularDataConnectState t).releaseDataConnection t) :=
      hpush.of_holder ((releaseDataConnection_frame _ t).2 u hne.symm)
    refine Unasked.attempt hne ?_
    split
    · exact hrelease
    · exact hrelease
    · exact hpush
  · exact h

theorem Unasked.establishes (h : Unasked u s) (he : Establishes env s s') : Unasked u s' := by
  cases he with
  | @attempt t henabled =>
    refine h.attempt ?_
    rintro rfl
    cases h.disabled.symm.trans henabled
  | all =>
    have hclear : Write env s _ := .clearBad
    exact List.foldlRecOn _ _ (h.write hclear) fun _ h t _ => h.establishIfConnectable t

theorem Unasked.dropResume (h : Unasked u s) :
    Unasked u (if t = .mms then s.removeEvent isResumeDataPermittedTimeout else s) := by
  split_ifs
  · exact h.of_holder rfl
  · exact h

@[simp] theorem dataCallEnabled_setApnState (t u : ApnType) (st : ApnProfileState) :
    ((s.setApnState t st).holder u).dataCallEnabled = (s.holder u).dataCallEnabled := by
  unfold Slot.setApnState
  rw [holder_modifyHolder]
  split_ifs with hu
  · rw [hu]
    unfold ApnHolder.setApnState
    split_ifs <;> rfl
  · rfl

/-- A holder without a machine that no request has been for goes back to idle. -/
theorem unasked_idle (hdisabled : (s.holder u).dataCallEnabled = false)
    (hmachine : (s.holder u).cellularDataStateMachine = none) :
    Unasked u (s.setApnState u .idle) := by
  refine ⟨?_, ?_, ?_⟩
  · rw [dataCallEnabled_setApnState]
    exact hdisabled
  · rw [machine_setApnState]
    exact hmachine
  · rw [apnState_setApnState, if_pos rfl]

/-- A completion leaves a holder without a machine idle. -/
theorem unasked_complete {info : SetupDataCallResultInfo} {s₁ s₂ : Slot} (h : Unasked u s)
    (h₁ : Writes env (s.completed env t info) s₁)
    (h₂ : Writes env (match (s.holder t).cellularDataStateMachine with
      | some _ => s₁
      | none => s₁.setApnState t .idle) s₂) : Unasked u s₂ := by
  by_cases hu : t = u
  · subst hu
    rw [h.machine] at h₂
    refine Unasked.writes (unasked_idle ?_ ?_) h₂
    · rw [← Bool.not_eq_true]
      intro henabled
      have hbefore := h₁.dataCallEnabled t henabled
      rw [completed, dataCallEnabled_setApnState] at hbefore
      cases h.disabled.symm.trans hbefore
    · have howner : s₁.core.owner = (s.completed env t info).core.owner :=
        congrArg Core.owner h₁.hidden.core
      refine (congrFun howner t).trans ?_
      exact (machine_setApnState t t .connected).trans h.machine
  · have hstart : Unasked u (s.setApnActivateEnd env info) := h.of_holder rfl
    have hs₁ : Unasked u s₁ := (hstart.setApnState hu .connected).writes h₁
    refine Unasked.writes ?_ h₂
    split
    · exact hs₁
    · exact hs₁.setApnState hu .idle

theorem unasked_release {m : MachineRef} {info : SetupDataCallResultInfo} (hu : t ≠ u)
    (h : Unasked u s) : Unasked u (s.releaseMachine env t m info) := by
  unfold releaseMachine
  extract_lets menv s₁ s₂ s₃
  have h₁ : Unasked u s₁ := by
    refine h.of_holder ?_
    unfold Slot.holder
    rw [apnManager_callMachine m]
  have h₂ : Unasked u s₂ := by
    dsimp only [s₂]
    split
    · exact h₁.of_holder rfl
    · exact h₁
  have h₃ : Unasked u s₃ := by
    refine h₂.of_holder ?_
    rw [holder_modifyHolder, if_neg (Ne.symm hu)]
  exact h₃.setApnState hu .idle

theorem Unasked.handleDisconnectDataCompleteForMmsType (h : Unasked u s) (t : ApnType) :
    Unasked u (s.handleDisconnectDataCompleteForMmsType env t) := by
  unfold Slot.handleDisconnectDataCompleteForMmsType
  split_ifs
  · exact (h.write .giveBack).of_holder rfl
  · exact h

theorem Unasked.takes (h : Unasked u s) (ht : Takes env s e s')
    (hasked : ∀ request, e = .requestNetwork request true →
      findApnIdByCapability request.capability ≠ some u) : Unasked u s' := by
  cases ht with
  | event he hd => exact h.does (fun _ _ he h => h.establishes he) hd
  | @request request t _ ht hw =>
    have hne : t ≠ u := fun heq => hasked request rfl (heq ▸ ht)
    have hother : Unasked u (s.modifyHolder t fun h => h.requestCellularData request.capability) := by
      refine h.of_holder ?_
      rw [holder_modifyHolder, if_neg hne.symm]
    exact hother.writes hw
  | noCompletion _ => exact h.of_holder rfl
  | @complete info t s₁ s₂ s₃ hid h₁ h₂ h₃ =>
    have hs₂ : Unasked u s₂ := unasked_complete h h₁ h₂
    have hpush : Unasked u (s₂.updateCellularDataConnectState t) := hs₂.push t
    exact (hpush.writes h₃).dropResume
  | noEnd _ => exact h
  | @endWithoutMachine info t hid hm =>
    by_cases hu : t = u
    · subst hu
      exact unasked_idle h.disabled h.machine
    · exact h.setApnState hu .idle
  | @finish info t m s₁ hid hm hd =>
    have hne : t ≠ u := by
      rintro rfl
      cases h.machine.symm.trans hm
    have hpush : Unasked u ((s.releaseMachine env t m info).updateCellularDataConnectState t) :=
      (unasked_release hne h).push t
    exact (hpush.does (fun _ _ he h => h.establishes he) hd).handleDisconnectDataCompleteForMmsType t
  | update hw => exact h.writes hw

/-! Runs -/

/-- The type for which the handler takes a request in the step. -/
def requested (s : Slot) (l : Label) : Option ApnType :=
  match s.taken l with
  | some (.requestNetwork request true) => findApnIdByCapability request.capability
  | _ => none

theorem Unasked.step (h : Unasked u s) (hs : Steps s l s') (hl : s.requested l ≠ some u) :
    Unasked u s' := by
  cases hs with
  | aside ha => exact h.of_holder (ha.holder u)
  | call hd => exact h.does (fun _ _ he h => h.establishes he) hd
  | @take env e q hnext =>
    have hq : Unasked u { s with queue := q } := h.of_holder rfl
    refine hq.takes (processEvent_takes env _ e) ?_
    rintro request rfl
    have htaken : s.taken (.dispatchHandler env) = some (.requestNetwork request true) := by
      rw [taken, hnext]
      rfl
    rwa [requested, htaken] at hl

theorem unasked_of_history (hh : system.History h s) (hl : ∀ p ∈ h, p.2.requested p.1 ≠ some u) :
    Unasked u s := by
  induction hh with
  | init hs =>
    have hholder : _ = _ := initial_holder hs u
    constructor <;> rw [hholder]
  | @step h l s s' hh hstep ih =>
    have hbefore : Unasked u s := ih fun p hp => hl p (List.mem_cons_of_mem _ hp)
    exact hbefore.step (step_steps hstep) (hl (l, s) List.mem_cons_self)

end Slot
end CellularData
