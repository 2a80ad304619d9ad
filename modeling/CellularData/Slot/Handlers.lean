import CellularData.Slot.Attempts

/-! What the reports of the machines do to the slot, and what the abstract slot sees of it. -/
namespace CellularData
open Lib StateMachine Relation

namespace Slot

variable {env : Env} {C : Slot → Slot → Prop} {s s' : Slot} {t : ApnType}

theorem isResumeDataPermittedTimeout_notice (e : HandlerEvent) (he : e.isNotice = true) :
    isResumeDataPermittedTimeout e = false := by
  cases e <;> first | rfl | cases he

/-! Completion -/

theorem writes_incallEvent (e : IncallEvent) : Writes env s (s.incallEvent e) := by
  unfold incallEvent
  split_ifs
  · exact writes_effect rfl
  · exact .refl s

theorem writes_updateApnInfo (profileId : Int) :
    Writes env s (s.updateApnInfo env profileId) := by
  unfold updateApnInfo
  split_ifs
  · exact .refl s
  · exact writes_effect rfl

theorem writes_updatePhysicalConnectionState (b : Bool) :
    Writes env s (s.updatePhysicalConnectionState b) := by
  unfold updatePhysicalConnectionState
  have hstate : Writes env s { s with physicalConnectionActiveState := !b } := writes_other rfl
  split_ifs
  · exact hstate.trans (writes_effect rfl)
  · exact .refl s

theorem writes_physicalConnectionActive :
    Writes env s (if s.physicalConnectionActiveState then s
      else { s with physicalConnectionActiveState := true }.effect
        (.dcPhysicalLinkActiveUpdate true)) := by
  have hstate : Writes env s { s with physicalConnectionActiveState := true } := writes_other rfl
  split_ifs
  · exact .refl s
  · exact hstate.trans (writes_effect rfl)

theorem writes_completeMachine (m : MachineRef) (info : SetupDataCallResultInfo)
    (proxyIpAddress : String) (menv : MachineEnv) :
    Writes env s (s.callMachine m fun x =>
      ((x.updateHttpProxy proxyIpAddress).getD x).updateNetworkInfoFrom menv info) := by
  refine (Write.machine fun x => ?_).writes
  exact (CellularDataStateMachine.publishes_updateHttpProxy proxyIpAddress).trans
    (CellularDataStateMachine.publishes_updateNetworkInfoFrom info)

/-- Only a holder without a machine leaves the state it has been set to; the state is pushed last. -/
theorem dataConnCompleteUpdateState_writes (env : Env) (s : Slot) (t : ApnType)
    (info : SetupDataCallResultInfo) : ∃ s₁ s₂,
      Writes env (match (s.holder t).cellularDataStateMachine with
        | some _ => s
        | none => s.setApnState t .idle) s₁ ∧
      Writes env (s₁.updateCellularDataConnectState t) s₂ ∧
      s.dataConnCompleteUpdateState env t info =
        if t = .mms then s₂.removeEvent isResumeDataPermittedTimeout else s₂ := by
  unfold dataConnCompleteUpdateState
  extract_lets proxyIpAddress s₀ menv s₁ s₂ s₃ s₄ s₅
  refine ⟨s₃, s₅, ?_, ?_, rfl⟩
  rotate_left
  · dsimp only [s₅]
    split_ifs
    · split
      · exact writes_updateApnInfo _
      · exact (Write.fault Crash.noConfusion).writes
    · exact .refl _
  have h₁ : Writes env (match (s.holder t).cellularDataStateMachine with
      | some _ => s
      | none => s.setApnState t .idle) s₁ := by
    dsimp only [s₁]
    cases (s.holder t).cellularDataStateMachine with
    | none => exact .refl _
    | some m =>
      have h₀ : Writes env s s₀ := by
        dsimp only [s₀]
        split_ifs
        · exact (Write.fault Crash.noConfusion).writes
        · exact .refl s
      exact h₀.trans (writes_completeMachine m info proxyIpAddress menv)
  have h₃ : Writes env s₁ s₃ := writes_physicalConnectionActive.trans (writes_incallEvent _)
  exact h₁.trans h₃

/-- The slot after a completion has set the state of its holder. -/
def completed (env : Env) (s : Slot) (t : ApnType) (info : SetupDataCallResultInfo) : Slot :=
  (s.setApnActivateEnd env info).setApnState t .connected

theorem establishDataConnectionComplete_writes (env : Env) (s : Slot)
    {info : SetupDataCallResultInfo} (ht : apnHolderByName info.flag = some t) : ∃ s₁ s₂ s₃,
      Writes env (s.completed env t info) s₁ ∧
      Writes env (match (s.holder t).cellularDataStateMachine with
        | some _ => s₁
        | none => s₁.setApnState t .idle) s₂ ∧
      Writes env (s₂.updateCellularDataConnectState t) s₃ ∧
      s.establishDataConnectionComplete env info =
        if t = .mms then s₃.removeEvent isResumeDataPermittedTimeout else s₃ := by
  simp only [establishDataConnectionComplete, ht]
  have hcount : Writes env (s.completed env t info)
      ((s.completed env t info).modifyHolder t fun h => h.initialApnRetryCount) :=
    (Write.holder rfl rfl rfl rfl id).writes
  have howner : (((s.completed env t info).modifyHolder t fun h =>
      h.initialApnRetryCount).holder t).cellularDataStateMachine =
        (s.holder t).cellularDataStateMachine := by
    rw [holder_modifyHolder, if_pos rfl]
    exact machine_setApnState t t .connected
  change ∃ s₁ s₂ s₃, _ ∧ _ ∧ _ ∧ dataConnCompleteUpdateState env (if t = .default_ then
    ((s.completed env t info).modifyHolder t fun h => h.initialApnRetryCount).sendEvent
      (.retryToSetupDatacall ApnType.internalDefault.id)
    else (s.completed env t info).modifyHolder t fun h => h.initialApnRetryCount) t info = _
  generalize (s.completed env t info).modifyHolder t (fun h => h.initialApnRetryCount) = s₁
    at hcount howner ⊢
  have hsend : Writes env s₁ (if t = .default_ then
      s₁.sendEvent (.retryToSetupDatacall ApnType.internalDefault.id) else s₁) := by
    split_ifs
    · exact (Write.send rfl).writes
    · exact .refl s₁
  have howner' : ((if t = .default_ then
      s₁.sendEvent (.retryToSetupDatacall ApnType.internalDefault.id) else s₁).holder
        t).cellularDataStateMachine = (s.holder t).cellularDataStateMachine := by
    rw [← howner]
    split_ifs <;> rfl
  generalize (if t = .default_ then
    s₁.sendEvent (.retryToSetupDatacall ApnType.internalDefault.id) else s₁) = s₂ at hsend howner' ⊢
  obtain ⟨s₃, s₄, hwrites, hlast, heq⟩ := dataConnCompleteUpdateState_writes env s₂ t info
  rw [howner'] at hwrites
  exact ⟨s₂, s₃, s₄, hcount.trans hsend, hwrites, hlast, heq⟩

theorem hidden_dropResume :
    Hidden s (if t = .mms then s.removeEvent isResumeDataPermittedTimeout else s) := by
  split_ifs
  · exact hidden_removeEvent isResumeDataPermittedTimeout_notice
  · exact .refl s

theorem setState_setState (k : Core) (t : ApnType) (st st' : ApnProfileState) :
    (k.setState t st).setState t st' = k.setState t st' := by
  simp only [Core.setState, Core.mk.injEq, and_true]
  funext u
  by_cases h : u = t <;> simp [h]

theorem Regular.setApnState (hr : s.Regular) (t : ApnType) (st : ApnProfileState) :
    (s.setApnState t st).Regular := ⟨hr.settled, hr.immediate, hr.delayed⟩

theorem establishDataConnectionComplete_spec (env : Env) (s : Slot)
    (info : SetupDataCallResultInfo) :
    (s.Regular → (s.establishDataConnectionComplete env info).Regular) ∧
      (s.establishDataConnectionComplete env info).core = s.core.complete info := by
  have h₀ : Hidden s (s.setApnActivateEnd env info) := .of_visible rfl
  unfold Core.complete
  cases ht : apnHolderByName info.flag with
  | none =>
    have heq : s.establishDataConnectionComplete env info = s.setApnActivateEnd env info := by
      simp only [establishDataConnectionComplete, ht]
    rw [heq]
    exact ⟨h₀.regular, h₀.core⟩
  | some t =>
    obtain ⟨s₁, s₂, s₃, h₁, h₂, h₃, heq⟩ := establishDataConnectionComplete_writes env s ht
    replace h₂ := h₂.trans (Write.push.writes.trans h₃)
    have hcore₁ : s₁.core = s.core.setState t .connected := by
      rw [h₁.hidden.core, completed, core_setApnState, h₀.core]
    have hregular₁ : s.Regular → s₁.Regular := fun hr =>
      h₁.hidden.regular ((h₀.regular hr).setApnState t _)
    have howner : s.core.owner t = (s.holder t).cellularDataStateMachine := rfl
    rw [heq]
    dsimp only
    rw [howner]
    cases hm : (s.holder t).cellularDataStateMachine with
    | some m =>
      rw [hm] at h₂
      refine ⟨fun hr => hidden_dropResume.regular (h₂.hidden.regular (hregular₁ hr)), ?_⟩
      rw [hidden_dropResume.core, h₂.hidden.core, hcore₁]
    | none =>
      rw [hm] at h₂
      refine ⟨fun hr => hidden_dropResume.regular
        (h₂.hidden.regular ((hregular₁ hr).setApnState t _)), ?_⟩
      rw [hidden_dropResume.core, h₂.hidden.core, core_setApnState, hcore₁, setState_setState]

/-! End of a connection -/

theorem does_retryOrClearConnection (hidle : (s.holder t).apnState = .idle)
    (henabled : (s.holder t).dataCallEnabled = true) (reason : DisConnectionReason)
    {info : SetupDataCallResultInfo} (hid : ApnType.ofId info.flag = some t) :
    Does env (EstablishesAll env) s (s.retryOrClearConnection env t reason info) := by
  unfold retryOrClearConnection
  split
  · exact (does_clearConnection t _).trans does_establishAllApnsIfConnectable
  · exact Write.setBad.writes.does.trans (does_clearConnection t _)
  · exact (Op.retry hidle hid henabled).does
  · exact .refl s

theorem writes_handleSortConnection : Writes env s s.handleSortConnection := by
  unfold handleSortConnection
  split
  · split
    · exact (Write.send rfl).writes
    · exact .refl s
  · split
    · exact (Write.send rfl).writes
    · exact .refl s
  · exact .refl s

theorem writes_handleIncallDataDisconnectComplete :
    Writes env s s.handleIncallDataDisconnectComplete := by
  unfold handleIncallDataDisconnectComplete
  split_ifs
  · exact .refl s
  · exact writes_incallEvent _

theorem hidden_handleDisconnectDataCompleteForMmsType (t : ApnType) :
    Hidden s (s.handleDisconnectDataCompleteForMmsType env t) := by
  unfold handleDisconnectDataCompleteForMmsType
  split_ifs
  · exact (hidden_setDataPermittedForMms false).trans
      (hidden_removeEvent isResumeDataPermittedTimeout_notice)
  · exact .refl s

/-- The release of a machine in terms of the abstract slot. -/
theorem releaseMachine_spec (env : Env) (s : Slot) (t : ApnType) (m : MachineRef)
    (info : SetupDataCallResultInfo) :
    (s.Regular → (s.releaseMachine env t m info).Regular) ∧
      (s.releaseMachine env t m info).core =
        ((s.core.unregister m).setOwner t none).setState t .idle := by
  unfold releaseMachine
  extract_lets menv s₁ s₂ s₃
  have h₁ : Hidden s s₁ :=
    hidden_callMachine m fun _ => CellularDataStateMachine.unchanged_updateNetworkInfoFrom info
  have hcontrol : s.core.controls[m]? = (s₁.machine? m).map CellularDataStateMachine.control := by
    rw [← h₁.core]
    exact List.getElem?_map
  have h₂ : (s₁.Regular → s₂.Regular) ∧ s₂.core = s.core.unregister m := by
    rw [Core.unregister, hcontrol, ← h₁.core]
    dsimp only [s₂]
    cases s₁.machine? m with
    | none => exact ⟨id, rfl⟩
    | some x => exact ⟨fun hr => ⟨hr.settled, hr.immediate, hr.delayed⟩, rfl⟩
  refine ⟨fun hr => ?_, ?_⟩
  · have hr₂ := h₂.1 (h₁.regular hr)
    exact ⟨hr₂.settled, hr₂.immediate, hr₂.delayed⟩
  · rw [core_setApnState, core_setOwner, h₂.2]

/-- The machine of the holder is released first; what follows is like any other event. -/
theorem disconnectDataComplete_does (env : Env) (s : Slot) {m : MachineRef}
    {info : SetupDataCallResultInfo} (ht : ApnType.ofId info.flag = some t)
    (hm : (s.holder t).cellularDataStateMachine = some m) : ∃ s₁,
      Does env (EstablishesAll env)
        ((s.releaseMachine env t m info).updateCellularDataConnectState t) s₁ ∧
      s.disconnectDataComplete env info = s₁.handleDisconnectDataCompleteForMmsType env t := by
  simp only [disconnectDataComplete, ht, hm]
  have hidle : ((s.releaseMachine env t m info).holder t).apnState = .idle := by
    simp only [releaseMachine, apnState_setApnState, if_true]
  generalize s.releaseMachine env t m info = s₁ at hidle ⊢
  have h₂ : Writes env s₁ (s₁.updateCellularDataConnectState t) :=
    writes_updateCellularDataConnectState t
  generalize s₁.updateCellularDataConnectState t = s₂ at h₂ ⊢
  have h₃ : Writes env s₂ (s₂.updatePhysicalConnectionState s₂.isNoActiveConnection) :=
    writes_updatePhysicalConnectionState _
  generalize s₂.updatePhysicalConnectionState s₂.isNoActiveConnection = s₃ at h₃ ⊢
  generalize ConnectionRetryPolicy.convertPdpErrorToDisconnReason info.reason = reason
  have h₄ : Does env (EstablishesAll env) s₃ (if (s₃.holder t).dataCallEnabled = true then
      s₃.retryOrClearConnection env t reason info else s₃) := by
    split_ifs with henabled
    · exact does_retryOrClearConnection (((h₂.trans h₃).apnState t).trans hidle) henabled reason ht
    · exact .refl s₃
  generalize (if (s₃.holder t).dataCallEnabled = true then
      s₃.retryOrClearConnection env t reason info else s₃) = s₄ at h₄ ⊢
  have h₅ : Writes env s₄ s₄.handleIncallDataDisconnectComplete :=
    writes_handleIncallDataDisconnectComplete
  generalize s₄.handleIncallDataDisconnectComplete = s₅ at h₅ ⊢
  refine ⟨_, ((h₃.does.trans h₄).trans h₅.does).trans ?_, rfl⟩
  split_ifs
  · exact writes_handleSortConnection.does
  · exact .refl s₅

theorem disconnectDataComplete_spec (env : Env) (s : Slot) (info : SetupDataCallResultInfo)
    (hr : s.Regular) : (s.disconnectDataComplete env info).Regular ∧
      ReflTransGen Core.Act (s.core.finish info) (s.disconnectDataComplete env info).core := by
  unfold Core.finish
  cases ht : ApnType.ofId info.flag with
  | none =>
    have heq : s.disconnectDataComplete env info = s := by
      simp only [disconnectDataComplete, ht]
    rw [heq]
    exact ⟨hr, .refl⟩
  | some t =>
    have howner : s.core.owner t = (s.holder t).cellularDataStateMachine := rfl
    dsimp only
    rw [howner]
    cases hm : (s.holder t).cellularDataStateMachine with
    | none =>
      have heq : s.disconnectDataComplete env info = s.setApnState t .idle := by
        simp only [disconnectDataComplete, ht, hm]
      rw [heq, core_setApnState]
      exact ⟨hr.setApnState t _, .refl⟩
    | some m =>
      obtain ⟨hregular, hcore⟩ := releaseMachine_spec env s t m info
      obtain ⟨s₁, hdoes, heq⟩ := disconnectDataComplete_does env s ht hm
      have hpush : Writes env (s.releaseMachine env t m info)
          ((s.releaseMachine env t m info).updateCellularDataConnectState t) :=
        writes_updateCellularDataConnectState t
      obtain ⟨hr₁, hacts⟩ := (hpush.does.trans hdoes).establishes.connects.acts (hregular hr)
      have hlast : Hidden s₁ (s₁.handleDisconnectDataCompleteForMmsType env t) :=
        hidden_handleDisconnectDataCompleteForMmsType t
      rw [heq, hlast.core]
      dsimp only
      rw [← hcore]
      exact ⟨hlast.regular hr₁, hacts⟩

end Slot
end CellularData
