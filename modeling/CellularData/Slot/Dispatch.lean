import CellularData.Slot.Handlers

/-! Every event that is no report of a machine, and every call, leads to acts of the handler. -/
namespace CellularData
open Lib StateMachine Relation

namespace Slot

variable {env : Env} {s s' : Slot} {t : ApnType}

theorem isReload_of_isRetryToCreateApn (e : HandlerEvent) (he : isRetryToCreateApn e = true) :
    e.isReload = true := by
  cases e <;> first | rfl | cases he

theorem isReload_of_isRetryToLoadSimAccount (e : HandlerEvent)
    (he : isRetryToLoadSimAccount e = true) : e.isReload = true := by
  cases e <;> first | rfl | cases he

/-! Link data, retries and requests -/

theorem writes_handleUpdateNetInfo (info : SetupDataCallResultInfo) :
    Writes env s (s.handleUpdateNetInfo env info) := by
  unfold handleUpdateNetInfo
  split
  · exact .refl s
  · split
    · exact (Write.machine fun _ =>
        CellularDataStateMachine.publishes_updateNetworkInfoFrom _).writes
    · exact (Write.machine fun _ =>
        CellularDataStateMachine.publishes_updateNetworkInfoFrom _).writes
    · exact .refl s

theorem does_retryToSetupDatacall (apnId : Int) :
    Does env (EstablishesAll env) s (s.retryToSetupDatacall apnId) := by
  unfold retryToSetupDatacall
  split
  · exact .refl s
  · split_ifs with h
    · exact .refl s
    · exact (Op.reset (.inr (not_not.mp h))).does.trans (Write.send rfl).writes.does

/-- An enabled holder is connected; the connection of any other is cleared. -/
theorem msgEstablishDataConnection_cases (env : Env) (C : Slot → Slot → Prop) (s : Slot) (id : Int)
    (b : Option BearType) :
    (∃ t, ApnType.ofId id = some t ∧ (s.holder t).dataCallEnabled = true ∧
        s.msgEstablishDataConnection env id b = s.attemptEstablishDataConnection env t) ∨
      (∀ t, ApnType.ofId id = some t → (s.holder t).dataCallEnabled = false) ∧
        Does env C s (s.msgEstablishDataConnection env id b) := by
  unfold msgEstablishDataConnection
  cases ht : ApnType.ofId id with
  | none => exact .inr ⟨fun _ h => (nomatch h), .refl s⟩
  | some t =>
    dsimp only
    split_ifs with h
    · exact .inl ⟨t, rfl, h, rfl⟩
    · right
      constructor
      · intro u hu
        obtain rfl := Option.some.inj hu
        simpa using h
      have hsingle : Writes env s (s.isSingleConnectionEnabled env env.psRadioTech).1 :=
        writes_isSingleConnectionEnabled
      generalize s.isSingleConnectionEnabled env env.psRadioTech = r at hsingle ⊢
      obtain ⟨s₁, single⟩ := r
      have hhandover (v : Bool) : Writes env s₁ { s₁ with isHandoverOccurred := v } :=
        writes_other rfl
      exact (hsingle.trans (hhandover _)).does.trans (does_clearConnection _ _)

theorem does_msgEstablishDataConnection (id : Int) (b : Option BearType) :
    Does env (Establishes env) s (s.msgEstablishDataConnection env id b) := by
  rcases msgEstablishDataConnection_cases env (Establishes env) s id b with
    ⟨t, -, henabled, heq⟩ | ⟨-, hdoes⟩
  · rw [heq]
    exact does_attempt henabled
  · exact hdoes

theorem writes_msgReleaseNetwork (request : NetRequest) :
    Writes env s (s.msgRequestNetwork request false) := by
  unfold msgRequestNetwork
  split
  · exact .refl s
  · refine Writes.trans ?_ (Write.send rfl).writes
    exact (Write.holder rfl rfl rfl rfl Bool.noConfusion).writes

/-- A request for a network is noted at the holder of its type. -/
theorem msgRequestNetwork_cases (env : Env) (request : NetRequest) :
    findApnIdByCapability request.capability = none ∧ s.msgRequestNetwork request true = s ∨
      ∃ t, findApnIdByCapability request.capability = some t ∧
        Writes env (s.modifyHolder t fun h => h.requestCellularData request.capability)
          (s.msgRequestNetwork request true) := by
  unfold msgRequestNetwork
  cases ht : findApnIdByCapability request.capability with
  | none => exact .inl ⟨rfl, rfl⟩
  | some t => exact .inr ⟨t, rfl, (Write.send rfl).writes⟩

theorem hidden_msgRequestNetwork (request : NetRequest) :
    Hidden s (s.msgRequestNetwork request true) := by
  rcases msgRequestNetwork_cases {} request with ⟨-, heq⟩ | ⟨t, -, hwrites⟩
  · rw [heq]
    exact .refl s
  · exact (hidden_requestCellularData t request.capability).trans hwrites.hidden

theorem writes_resumeDataPermittedTimerOut : Writes env s (s.resumeDataPermittedTimerOut env) := by
  unfold resumeDataPermittedTimerOut
  split_ifs
  · exact Write.giveBack.writes
  · exact .refl s

/-! APN table -/

theorem writes_readApnTable (n : Nat) (rs : List ApnReload) (s : Slot) :
    Writes env s (readApnTable n rs s).1 := by
  induction n generalizing rs s with
  | zero => exact .refl s
  | succ n ih =>
    cases rs with
    | nil => exact .refl s
    | cons r rs =>
      simp only [readApnTable]
      split_ifs
      · exact Write.reload.writes
      · exact Write.reload.writes.trans (ih rs _)

theorem writes_createApnItem : Writes env s (s.createApnItem env) := by
  have hread : Writes env s (s.readApnTable defaultReadApnTime env.apnReloads).1 :=
    writes_readApnTable _ _ _
  unfold createApnItem
  generalize s.readApnTable defaultReadApnTime env.apnReloads = r at hread ⊢
  obtain ⟨s₁, result⟩ := r
  have htimes (n : Nat) : Writes env s { s₁ with retryCreateApnTimes := n } :=
    hread.trans (writes_other rfl)
  dsimp only
  split_ifs
  · exact (htimes _).trans (Write.sendAfter rfl).writes
  · exact htimes 0
  · exact (htimes 0).trans (Write.remove isReload_of_isRetryToCreateApn).writes
  · exact hread

theorem writes_isBlockSetRilAttachApn : Writes env s (s.isBlockSetRilAttachApn env).1 := by
  unfold isBlockSetRilAttachApn
  split_ifs
  · exact .refl s
  · exact writes_other rfl

theorem writes_setRilAttachApn : Writes env s (s.setRilAttachApn env) := by
  have hblock : Writes env s (s.isBlockSetRilAttachApn env).1 := writes_isBlockSetRilAttachApn
  unfold setRilAttachApn
  generalize s.isBlockSetRilAttachApn env = r at hblock ⊢
  obtain ⟨s₁, blocked⟩ := r
  cases blocked with
  | true => exact hblock
  | false =>
    refine hblock.trans ?_
    dsimp only
    split_ifs
    · exact .refl s₁
    · exact writes_effect rfl
    · split
      · exact writes_effect rfl
      · exact .refl s₁

theorem does_clearConnectionsOnUpdateApns (reason : DisConnectionReason) :
    Does env (EstablishesAll env) s (s.clearConnectionsOnUpdateApns env reason) := by
  have hroaming : Writes env s (s.isCellularDataRoamingEnabled env).1 :=
    writes_isCellularDataRoamingEnabled
  unfold clearConnectionsOnUpdateApns
  generalize s.isCellularDataRoamingEnabled env = r at hroaming ⊢
  obtain ⟨s₁, isRoaming⟩ := r
  refine hroaming.does.trans ?_
  dsimp only
  generalize (s₁.apnManager.getRilAttachApn s₁.apnItem).map s₁.apnItem = apnItem
  cases apnItem with
  | none =>
    split_ifs
    · exact .refl s₁
    · exact (does_clearAllConnections reason).trans (Writes.does (writes_other rfl))
  | some item =>
    have hinfo : Writes env s₁ (s₁.updateApnInfo env item.attr.profileId) := writes_updateApnInfo _
    split_ifs
    · exact hinfo.does
    · exact hinfo.does.trans ((does_clearAllConnections reason).trans
        (Writes.does (writes_other rfl)))

theorem handleApnChanged_eq (env : Env) (s : Slot) : s.handleApnChanged env =
    (((s.createApnItem env).setRilAttachApn env).clearConnectionsOnUpdateApns env
      .clearConnection).clearAllApnBad.renewHolders := rfl

theorem does_handleApnChanged :
    Does env (EstablishesAll env) s (s.handleApnChanged env) := by
  have hattach : Writes env s ((s.createApnItem env).setRilAttachApn env) :=
    writes_createApnItem.trans writes_setRilAttachApn
  have hclear : Does env (EstablishesAll env) ((s.createApnItem env).setRilAttachApn env)
      (((s.createApnItem env).setRilAttachApn env).clearConnectionsOnUpdateApns env
        .clearConnection).clearAllApnBad :=
    (does_clearConnectionsOnUpdateApns _).trans Write.clearBad.writes.does
  rw [handleApnChanged_eq]
  exact (hattach.does.trans hclear).trans Op.renew.does

theorem does_clearConnectionIfRequired :
    Does env (EstablishesAll env) s (s.clearConnectionIfRequired env) := by
  unfold clearConnectionIfRequired
  refine Does.foldl (fun s t => ?_) _ _
  dsimp only
  split_ifs
  · exact .refl s
  · exact .refl s
  · exact (Write.holder rfl rfl rfl rfl id).writes.does
  · exact (Write.holder rfl rfl rfl rfl id).writes.does.trans (does_clearConnection t _)

/-! Configuration -/

/-- The clearing that depends on the overall state. -/
theorem does_clearIfConnecting (reason : DisConnectionReason) :
    Does env (EstablishesAll env) s (match s.apnManager.getOverallApnState with
      | .connecting | .connected => s.clearAllConnections env reason
      | _ => s) := by
  split
  · exact does_clearAllConnections _
  · exact does_clearAllConnections _
  · exact .refl s

theorem does_getDefaultDataRoamingConfig :
    Does env (EstablishesAll env) s (s.getDefaultDataRoamingConfig env) := by
  unfold getDefaultDataRoamingConfig
  extract_lets s₁
  have h₁ : Writes env s s₁ := writes_other rfl
  have hquery : Writes env s₁ (s₁.queryUserDataRoamingStatus env).1 := writes_queryUserDataRoamingStatus
  generalize s₁.queryUserDataRoamingStatus env = r at hquery ⊢
  obtain ⟨s₂, stored⟩ := r
  have h₂ : Writes env s s₂ := h₁.trans hquery
  cases stored with
  | some _ => exact h₂.does
  | none =>
    dsimp only
    have h₃ : Writes env s (s₂.modifySwitches fun d =>
        { d with userDataRoaming := s₂.defaultDataRoamingEnable }) := h₂.trans (writes_other rfl)
    split
    · exact h₂.does
    · split_ifs
      · exact (h₃.does.trans (does_clearIfConnecting _)).trans does_establishAllApnsIfConnectable
      · exact h₃.does

theorem writes_getDefaultDataEnableConfig : Writes env s (s.getDefaultDataEnableConfig env) := by
  unfold getDefaultDataEnableConfig
  split_ifs
  · exact .refl s
  · split
    · refine Writes.trans ?_ (writes_effect rfl)
      split
      · exact writes_setUserDataOn _
      · exact .refl s
    · exact .refl s

theorem does_getDefaultConfiguration :
    Does env (EstablishesAll env) s (s.getDefaultConfiguration env) := by
  have hmultiple : Writes env s
      { s with multipleConnectionsEnabled := env.defaultMultipleConnections } :=
    Write.configure.writes
  exact (hmultiple.trans writes_getSinglePdpEnabledFromOpCfg).does.trans
    (does_getDefaultDataRoamingConfig.trans writes_getDefaultDataEnableConfig.does)

/-! Radio -/

theorem does_establishAllNoMcc : Does env (EstablishesAll env) s
    (establishAllApnsIfConnectable env { s with isMccChanged := false }) := by
  have hmcc : Writes env s { s with isMccChanged := false } := writes_other rfl
  exact hmcc.does.trans does_establishAllApnsIfConnectable

theorem does_roamingStateOn : Does env (EstablishesAll env) s (s.roamingStateOn env) := by
  unfold roamingStateOn
  extract_lets s₁
  have hmcc : Writes env s s₁ := writes_other rfl
  split_ifs
  · have hquery : Writes env s₁ (s₁.isCellularDataRoamingEnabled env).1 :=
      writes_isCellularDataRoamingEnabled
    generalize s₁.isCellularDataRoamingEnabled env = r at hquery ⊢
    obtain ⟨s₂, enabled⟩ := r
    refine ((hmcc.trans hquery).does.trans ?_).trans does_establishAllApnsIfConnectable
    dsimp only
    split
    · split_ifs
      · exact .refl s₂
      · exact does_clearAllConnections _
    · split_ifs
      · exact .refl s₂
      · exact does_clearAllConnections _
    · exact .refl s₂
  · exact hmcc.does

theorem does_roamingStateOff : Does env (EstablishesAll env) s (s.roamingStateOff env) := by
  have hquery : Writes env s (s.isCellularDataRoamingEnabled env).1 :=
    writes_isCellularDataRoamingEnabled
  unfold roamingStateOff
  generalize s.isCellularDataRoamingEnabled env = r at hquery ⊢
  obtain ⟨s₁, enabled⟩ := r
  dsimp only
  split_ifs
  · exact hquery.does
  · exact (hquery.does.trans (does_clearIfConnecting _)).trans does_establishAllApnsIfConnectable

theorem does_psRadioEmergencyStateClose :
    Does env (EstablishesAll env) s (s.psRadioEmergencyStateClose env) := by
  unfold psRadioEmergencyStateClose
  split
  · exact does_establishAllApnsIfConnectable
  · exact does_establishAllApnsIfConnectable
  · exact .refl s

theorem does_handleRadioStateChanged (state : RadioState) :
    Does env (EstablishesAll env) s (s.handleRadioStateChanged env state) := by
  cases state <;> simp only [handleRadioStateChanged]
  · split_ifs
    · exact does_clearAllConnections _
    · exact .refl s
  · split_ifs
    · exact does_clearAllConnections _
    · exact .refl s
  · exact does_establishAllApnsIfConnectable
  · exact .refl s

theorem does_psDataRatChanged : Does env (EstablishesAll env) s (s.psDataRatChanged env) := by
  unfold psDataRatChanged
  split_ifs
  · exact .refl s
  · exact .refl s
  · exact does_clearConnectionIfRequired.trans does_establishAllApnsIfConnectable

theorem does_changeConnectionForDsds (enable : Bool) :
    Does env (EstablishesAll env) s (s.changeConnectionForDsds env enable) := by
  unfold changeConnectionForDsds
  extract_lets s₁
  have hswitch : Writes env s s₁ := writes_other rfl
  split_ifs
  · exact (hswitch.trans (Write.send rfl).writes).does
  · exact hswitch.does.trans (does_clearAllConnections _)

theorem does_handleDsdsModeChanged (mode : Int) :
    Does env (EstablishesAll env) s (s.handleDsdsModeChanged env mode) := by
  unfold handleDsdsModeChanged
  split
  · exact .refl s
  dsimp only
  split
  · exact .refl s
  have hquery : Writes env s (s.isCellularDataEnabled env).1 := writes_isCellularDataEnabled
  generalize s.isCellularDataEnabled env = r at hquery ⊢
  obtain ⟨s₁, enabled⟩ := r
  refine (hquery.does.trans (Does.foldl (fun s i => ?_) _ _)).trans (writes_incallEvent _).does
  have hother (s : Slot) : Writes env s (s.effect (.changeConnectionForDsds i true)) :=
    writes_effect rfl
  split_ifs
  · exact .refl s
  · exact (writes_setDataPermitted _ _).does
  · exact (writes_setDataPermitted _ _).does.trans (does_changeConnectionForDsds _)
  · exact ((writes_setDataPermitted _ _).trans (hother _)).does
  · exact does_changeConnectionForDsds _
  · exact (hother _).does

theorem writes_handleResidentNetworkChanged (plmn : String) :
    Writes env s (s.handleResidentNetworkChanged plmn) := by
  unfold handleResidentNetworkChanged
  split
  · exact .refl s
  · have hmcc : Writes env s { s with isMccChanged := true } := writes_other rfl
    have htimer : Writes env s (if s.lastMcc = "460" ∧ String.ofList (plmn.toList.take
        defaultMccSize) = "454" ∧ !s.dataSwitchSettings.userDataRoaming then
        { s with isMccChanged := true }.sendEventAfter .mccChangeActivateDelay
          mccChangeActivateDelay else s) := by
      split_ifs
      · exact hmcc.trans (Write.sendAfter rfl).writes
      · exact .refl s
    exact htimer.trans (writes_other rfl)

/-! Calls -/

theorem does_handleVoiceCallChanged (state : TelCallStatus) :
    Does env (EstablishesAll env) s (s.handleVoiceCallChanged env state) := by
  unfold handleVoiceCallChanged
  have hreason (r : DisConnectionReason) : Writes env s { s with disconnectionReason := r } :=
    writes_other rfl
  split_ifs
  · exact (hreason _).does
  · exact .refl s
  · exact (hreason _).does.trans does_establishAllApnsIfConnectable

theorem writes_handleImsCallChanged (state : TelCallStatus) :
    Writes env s (s.handleImsCallChanged state) := by
  unfold handleImsCallChanged
  have hcreate : Writes env s { s with hasIncallDataStateMachine := true } := Write.incall.writes
  split
  · exact hcreate.trans (writes_incallEvent _)
  · exact hcreate.trans (writes_incallEvent _)
  · exact writes_incallEvent _
  · exact writes_incallEvent _
  · exact .refl s

theorem does_handleCallChanged (state : TelCallStatus) :
    Does env (EstablishesAll env) s (s.handleCallChanged env state) := by
  unfold handleCallChanged
  have hcall : Writes env s { s with lastCallState := state } := writes_other rfl
  split
  · exact .refl s
  · dsimp only
    split
    · exact (hcall.trans (writes_handleImsCallChanged _)).does
    · exact hcall.does.trans (does_handleVoiceCallChanged _)

/-! SIM -/

theorem does_handleSimStateChanged :
    Does env (EstablishesAll env) s (s.handleSimStateChanged env) := by
  have hloaded : Writes env s { s with isSimAccountLoaded := false, isRilApnAttached := false } :=
    writes_other rfl
  unfold handleSimStateChanged
  split
  · split_ifs
    · exact does_establishAllApnsIfConnectable
    · exact .refl s
  · exact .refl s
  · dsimp only
    split_ifs
    · exact (hloaded.does.trans (does_clearAllConnections _)).trans
        (Writes.foldl (fun _ t => (Write.holder rfl rfl rfl rfl Bool.noConfusion).writes) _ _).does
    · exact hloaded.does.trans (does_clearAllConnections _)

theorem does_handleRecordsChanged :
    Does env (EstablishesAll env) s (s.handleRecordsChanged env) := by
  unfold handleRecordsChanged
  split
  · exact .refl s
  · extract_lets s₀ s₁ s₂ s₃ s₄ s₅
    have h₁ : Writes env s s₁ := by
      dsimp only [s₁]
      split_ifs
      · exact .refl s
      · exact writes_other rfl
    have h₂ : Does env (EstablishesAll env) s₁ s₂ := does_getDefaultConfiguration
    have h₄ : Writes env s₂ s₄ := writes_createApnItem.trans writes_setRilAttachApn
    have h₅ : Does env (EstablishesAll env) s₄ s₅ := does_clearConnectionsOnUpdateApns _
    exact (((h₁.does.trans h₂).trans h₄.does).trans h₅).trans does_establishAllApnsIfConnectable

theorem writes_startLoadSimAccountTimer (times : Int) :
    Writes env s (s.startLoadSimAccountTimer times) := by
  unfold startLoadSimAccountTimer
  split_ifs
  · exact .refl s
  · exact .refl s
  · exact (Write.sendAfter rfl).writes

theorem does_handleSimAccountLoaded :
    Does env (EstablishesAll env) s (s.handleSimAccountLoaded env) := by
  unfold handleSimAccountLoaded
  extract_lets s₁ s₂ s₃ s₄
  have h₁ : Writes env s s₁ := (Write.remove isReload_of_isRetryToLoadSimAccount).writes
  have h₂ : Writes env s₁ s₂ := writes_other rfl
  have h₄ : Writes env s s₄ := (h₁.trans h₂).trans (writes_loadSwitchValue.trans writes_createApnItem)
  split_ifs
  · exact (h₄.does.trans does_establishAllApnsIfConnectable).trans ((Op.tell rfl).does)
  · exact h₄.does.trans does_establishAllApnsIfConnectable
  · exact h₄.does.trans (does_clearAllConnections _)

theorem does_handleSimEvent (event : SimEvent) (slotId : Int) :
    Does env (EstablishesAll env) s (s.handleSimEvent env event slotId) := by
  have hload : Writes env s (s.loadSwitchValue env) := writes_loadSwitchValue
  unfold handleSimEvent
  split
  · exact .refl s
  · refine hload.does.trans ?_
    cases event
    · exact does_handleSimStateChanged
    · exact does_handleRecordsChanged
    · exact does_handleSimAccountLoaded
    · exact writes_setRilAttachApn.does

theorem does_handleRetryLoadSimAccount (times : Int) :
    Does env (EstablishesAll env) s (s.handleRetryLoadSimAccount env times) := by
  unfold handleRetryLoadSimAccount
  split_ifs
  · exact ((Write.remove isReload_of_isRetryToLoadSimAccount).writes.trans
      (writes_startLoadSimAccountTimer _)).does
  · exact does_handleSimAccountLoaded
  · exact .refl s

theorem writes_onDataShareReady : Writes env s s.onDataShareReady := by
  unfold onDataShareReady
  split_ifs
  · exact (Write.remove isReload_of_isRetryToLoadSimAccount).writes.trans
      (writes_startLoadSimAccountTimer _)
  · exact .refl s

theorem does_handleDefaultDataSubscriptionChanged :
    Does env (EstablishesAll env) s (s.handleDefaultDataSubscriptionChanged env) := by
  unfold handleDefaultDataSubscriptionChanged
  extract_lets s₁ s₂
  have h₁ : Writes env s s₁ := by
    dsimp only [s₁]
    split_ifs
    · exact .refl s
    · exact writes_setDataPermitted _ _
  have h₂ : Writes env s s₂ := h₁.trans writes_loadSwitchValue
  split_ifs
  · exact (h₂.trans (Write.send rfl).writes).does
  · exact h₂.does.trans (does_clearAllConnections _)

/-! Settings -/

theorem does_setPolicyDataOn (enable : Bool) :
    Does env (EstablishesAll env) s (s.setPolicyDataOn env enable) := by
  unfold setPolicyDataOn
  split
  · exact .refl s
  · extract_lets s₁
    have hswitch : Writes env s s₁ := writes_other rfl
    split_ifs
    · exact (hswitch.trans (Write.send rfl).writes).does
    · exact hswitch.does.trans (does_clearAllConnections _)

theorem does_handleDBSettingEnableChanged :
    Does env (EstablishesAll env) s (s.handleDBSettingEnableChanged env) := by
  have hquery : Writes env s (s.queryUserDataStatus env).1 := writes_queryUserDataStatus
  unfold handleDBSettingEnableChanged
  generalize s.queryUserDataStatus env = r at hquery ⊢
  obtain ⟨s₁, enabled⟩ := r
  dsimp only
  split_ifs
  · exact hquery.does
  · exact hquery.does.trans does_establishAllApnsIfConnectable
  · exact hquery.does
  · exact hquery.does.trans (does_clearAllConnections _)

theorem does_handleDBSettingRoamingChanged :
    Does env (EstablishesAll env) s (s.handleDBSettingRoamingChanged env) := by
  unfold handleDBSettingRoamingChanged
  split_ifs
  · exact does_establishAllApnsIfConnectable
  · exact does_clearAllConnections _
  · exact .refl s

theorem writes_handleFactoryReset : Writes env s (s.handleFactoryReset env) :=
  ((writes_setCellularDataEnable true).trans (writes_setCellularDataRoamingEnabled _)).trans
    (writes_effect rfl)

/-! The event loop -/

/-- Only the event that names a holder connects one on its own. -/
theorem does_processEvent_all {e : HandlerEvent} (he : e.isNotice = false)
    (hrequest : ∀ request, e ≠ .requestNetwork request true)
    (hestablish : ∀ id b, e ≠ .establishDataConnection id b) :
    Does env (EstablishesAll env) s (s.processEvent env e) := by
  cases e with
  | psConnectionAttached => exact does_establishAllNoMcc
  | psRoamingOpen => exact does_roamingStateOn
  | psRoamingClose => exact does_roamingStateOff
  | emergencyStateOpen => exact does_clearIfConnecting _
  | emergencyStateClose => exact does_psRadioEmergencyStateClose
  | establishDataConnectionComplete info => cases he
  | disconnectDataComplete info => cases he
  | establishDataConnection id bearType => exact absurd rfl (hestablish id bearType)
  | settingSwitch on => exact .refl s
  | requestNetwork request isRequest =>
    cases isRequest with
    | true => exact absurd rfl (hrequest request)
    | false => exact (writes_msgReleaseNetwork request).does
  | radioStateChanged state => exact does_handleRadioStateChanged state
  | dsdsModeChanged mode => exact does_handleDsdsModeChanged mode
  | sim event slotId => exact does_handleSimEvent event slotId
  | psRatChanged => exact does_psDataRatChanged
  | apnChanged =>
    simp only [processEvent]
    exact does_handleApnChanged
  | setRilAttachApn ok => exact Writes.does (writes_other rfl)
  | nrStateChanged => exact (Op.tell rfl).does
  | nrFrequencyChanged => exact (Op.tell rfl).does
  | dbSettingEnableChanged => exact does_handleDBSettingEnableChanged
  | dbSettingRoamingChanged => exact does_handleDBSettingRoamingChanged
  | dbSettingIncallChanged on => exact (writes_incallEvent _).does
  | incallDataComplete => exact (writes_incallEvent _).does
  | rilAdapterHostDied => exact (Op.tell rfl).does
  | factoryReset => exact writes_handleFactoryReset.does
  | cleanAllDataConnections => exact .refl s
  | dataCallListChanged info => cases he
  | retryToSetupDatacall id => exact does_retryToSetupDatacall id
  | establishAllApnsIfConnectable => exact does_establishAllApnsIfConnectable
  | resumeDataPermittedTimeout => exact writes_resumeDataPermittedTimerOut.does
  | retryToCreateApn =>
    simp only [processEvent]
    exact does_handleApnChanged
  | retryToLoadSimAccount times => exact does_handleRetryLoadSimAccount times
  | residentNetworkChange plmn => exact (writes_handleResidentNetworkChanged plmn).does
  | mccChangeActivateDelay => exact does_establishAllNoMcc

theorem does_processEvent {e : HandlerEvent} (he : e.isNotice = false)
    (hrequest : ∀ request, e ≠ .requestNetwork request true) :
    Does env (Establishes env) s (s.processEvent env e) := by
  by_cases hestablish : ∃ id b, e = .establishDataConnection id b
  · obtain ⟨id, b, rfl⟩ := hestablish
    exact does_msgEstablishDataConnection id b
  · exact (does_processEvent_all he hrequest fun id b heq => hestablish ⟨id, b, heq⟩).establishes

theorem does_call (c : Call) : Does env (EstablishesAll env) s (s.call env c) := by
  cases c with
  | setCellularDataEnable on => exact (writes_setCellularDataEnable on).does
  | setIntelligenceSwitchEnable on => exact (writes_setIntelligenceSwitchEnable on).does
  | setCellularDataRoamingEnabled on => exact (writes_setCellularDataRoamingEnabled on).does
  | isCellularDataEnabled => exact writes_isCellularDataEnabled.does
  | isCellularDataRoamingEnabled => exact writes_isCellularDataRoamingEnabled.does
  | getIntelligenceSwitchState => exact Writes.does (writes_other rfl)
  | clearAllConnections reason => exact does_clearAllConnections reason
  | changeConnectionForDsds enable => exact does_changeConnectionForDsds enable
  | setPolicyDataOn enable => exact does_setPolicyDataOn enable
  | updateNetworkInfo => exact (Op.tell rfl).does
  | callStateChanged state => exact does_handleCallChanged state
  | defaultDataSubscriptionChanged => exact does_handleDefaultDataSubscriptionChanged
  | operatorConfigChanged => exact does_getDefaultConfiguration
  | dataShareReady => exact writes_onDataShareReady.does
  | requestNet isRequest capabilities bearTypes => exact (Write.send rfl).writes.does

theorem does_init : Does env (EstablishesAll env) s (s.init env) := by
  have hload : Writes env s (s.loadSwitchValue env) := writes_loadSwitchValue
  exact hload.does.trans does_getDefaultConfiguration

/-- `Init` leads from a blank slot to an initial one. -/
theorem Initial.does (h : Initial s) : ∃ env slotId l, Does env (EstablishesAll env)
    { slotId, apnManager := { sortedApnHolders := l } } s := by
  obtain ⟨env, slotId, l, -, rfl⟩ := h
  exact ⟨env, slotId, l, does_init⟩

end Slot
end CellularData
