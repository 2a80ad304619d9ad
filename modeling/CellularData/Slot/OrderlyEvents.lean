import CellularData.Slot.DataState
import CellularData.Slot.Orderly

/-! Every event that the handler takes and every call leaves the order of the slot, and what follows
for whole runs. -/
namespace CellularData
open Lib StateMachine

namespace Slot

variable {env : Env} {s s' s'' : Slot} {t : ApnType}

/-! Reports of the machines -/

theorem discreet_incallEvent (e : IncallEvent) (s : Slot) : Discreet s (s.incallEvent e) := by
  unfold incallEvent
  split_ifs
  · exact discreet_effect rfl s
  · exact .refl s

theorem discreet_updateApnInfo (profileId : Int) (s : Slot) :
    Discreet s (s.updateApnInfo env profileId) := by
  unfold updateApnInfo
  split_ifs
  · exact .refl s
  · exact discreet_effect rfl s

theorem discreet_updatePhysicalConnectionState (noActiveConnection : Bool) (s : Slot) :
    Discreet s (s.updatePhysicalConnectionState noActiveConnection) := by
  unfold updatePhysicalConnectionState
  split_ifs with h
  · apply discreet_linkNotice
    rw [← h]
    cases noActiveConnection <;> simp
  · exact .refl s

/-- The link is told to be up unless it has been. -/
theorem discreet_linkUp (s : Slot) :
    Discreet s (if s.physicalConnectionActiveState then s
      else { s with physicalConnectionActiveState := true }.effect
        (.dcPhysicalLinkActiveUpdate true)) := by
  split_ifs with h
  · exact .refl s
  · exact discreet_linkNotice h

/-- The machine of a holder, if it has one, publishes what the modem has answered. -/
structure ReportsOwned (t : ApnType) (info : SetupDataCallResultInfo) (s s' : Slot) : Prop where
  unowned : (s.holder t).cellularDataStateMachine = none → Discreet s s'
  owned : ∀ m, (s.holder t).cellularDataStateMachine = some m →
    Reports m (decide (0 < info.active)) s s'

theorem ReportsOwned.tidy {info : SetupDataCallResultInfo} (h : ReportsOwned t info s s') :
    Tidy s s' := by
  cases howner : (s.holder t).cellularDataStateMachine with
  | none => exact (h.unowned howner).toTidy
  | some m => exact (h.owned m howner).toTidy

/-- The rest of the work on a completion follows the report of the machine. -/
theorem reports_dataConnCompleteUpdateState (t : ApnType) (info : SetupDataCallResultInfo)
    (s : Slot) : ReportsOwned t info s (s.dataConnCompleteUpdateState env t info) := by
  unfold dataConnCompleteUpdateState
  extract_lets proxyIpAddress s₀ menv s₁ s₂ s₃ s₄ s₅
  have h₂ : Discreet s₁ s₂ := discreet_linkUp s₁
  have h₃ : Discreet s₂ s₃ := discreet_incallEvent _ s₂
  have h₄ : Discreet s₃ s₄ := discreet_updateCellularDataConnectState t s₃
  have h₅ : Discreet s₄ s₅ := by
    dsimp only [s₅]
    split_ifs
    · split
      · exact discreet_updateApnInfo _ s₄
      · exact .of_worn rfl rfl
    · exact .refl s₄
  have hall : Discreet s₁ s₅ := ((h₂.trans h₃).trans h₄).trans h₅
  have hrest : Discreet s₁ (if t = .mms then s₅.removeEvent isResumeDataPermittedTimeout else s₅) := by
    split_ifs
    · exact hall.trans (discreet_removeEvent (fun _ _ => rfl) rfl s₅)
    · exact hall
  clear_value s₂ s₃ s₄ s₅
  constructor
  · intro howner
    have h₁ : s₁ = s.setApnState t .idle := by
      simp only [s₁, howner]
    rw [h₁] at hrest
    exact (discreet_setApnState t .idle s).trans hrest
  · intro m howner
    have h₀ : Discreet s s₀ ∧ s₀.machineData = s.machineData := by
      dsimp only [s₀]
      split_ifs
      · exact ⟨.of_worn rfl rfl, rfl⟩
      · exact ⟨.refl s, rfl⟩
    have h₁ : s₁ = s₀.callMachine m fun x =>
        ((x.updateHttpProxy proxyIpAddress).getD x).updateNetworkInfoFrom menv info := by
      simp only [s₁, howner]
    have hcall : Reports m (decide (0 < info.active)) s₀ s₁ := by
      rw [h₁]
      refine reports_callMachine (fun x => ?_) m s₀
      exact (CellularDataStateMachine.announces_updateNetworkInfoFrom info).of_proxy
    exact (hcall.after h₀.1 h₀.2).trans hrest

theorem reports_establishDataConnectionComplete {info : SetupDataCallResultInfo}
    (ht : apnHolderByName info.flag = some t) (s : Slot) :
    ReportsOwned t info s (s.establishDataConnectionComplete env info) := by
  simp only [establishDataConnectionComplete, ht]
  generalize hs₁ : ((s.setApnActivateEnd env info).setApnState t .connected).modifyHolder t _ = s₁
  have h₁ : Discreet s s₁ := by
    have hend : Discreet s (s.setApnActivateEnd env info) := .of_worn rfl rfl
    rw [← hs₁]
    exact hend.trans (.of_worn rfl rfl)
  generalize hs₂ : (if t = .default_ then _ else s₁) = s₂
  have h₂ : Discreet s s₂ := by
    rw [← hs₂]
    split_ifs
    · exact h₁.trans (discreet_sendEvent rfl s₁)
    · exact h₁
  have hmachines : s₂.machineData = s.machineData := by
    rw [← hs₂, ← hs₁]
    split_ifs <;> rfl
  have howner : (s₂.holder t).cellularDataStateMachine = (s.holder t).cellularDataStateMachine := by
    have hconnected : (s₁.holder t).cellularDataStateMachine =
        (s.holder t).cellularDataStateMachine := by
      rw [← hs₁, holder_modifyHolder, if_pos rfl]
      exact machine_setApnState t t .connected
    rw [← hconnected, ← hs₂]
    split_ifs <;> rfl
  have hupdate : ReportsOwned t info s₂ (s₂.dataConnCompleteUpdateState env t info) :=
    reports_dataConnCompleteUpdateState t info s₂
  constructor
  · intro hnone
    exact h₂.trans (hupdate.unowned (howner.trans hnone))
  · intro m hsome
    exact (hupdate.owned m (howner.trans hsome)).after h₂ hmachines

theorem discreet_setApnBadState (isBad : Bool) (t : ApnType) (s : Slot) :
    Discreet s (s.setApnBadState t isBad) := by
  unfold setApnBadState
  split <;> exact .of_worn rfl rfl

theorem discreet_retryOrClearConnection (t : ApnType) (reason : DisConnectionReason)
    (info : SetupDataCallResultInfo) (s : Slot) :
    Discreet s (s.retryOrClearConnection env t reason info) := by
  unfold retryOrClearConnection
  split
  · exact (discreet_clearConnection t _ s).trans (discreet_establishAllApnsIfConnectable _)
  · exact (discreet_setApnBadState true t s).trans (discreet_clearConnection t _ _)
  · exact (discreet_setApnState t .retrying s).trans (discreet_sendEventAfter rfl _ _)
  · exact .refl s

theorem discreet_handleSortConnection (s : Slot) : Discreet s s.handleSortConnection := by
  unfold handleSortConnection
  split
  · split
    · exact discreet_sendEvent rfl s
    · exact .refl s
  · split
    · exact discreet_sendEvent rfl s
    · exact .refl s
  · exact .refl s

theorem discreet_handleIncallDataDisconnectComplete (s : Slot) :
    Discreet s s.handleIncallDataDisconnectComplete := by
  unfold handleIncallDataDisconnectComplete
  split_ifs
  · exact .refl s
  · exact discreet_incallEvent _ s

theorem discreet_handleDisconnectDataCompleteForMmsType (t : ApnType) (s : Slot) :
    Discreet s (s.handleDisconnectDataCompleteForMmsType env t) := by
  unfold handleDisconnectDataCompleteForMmsType
  split_ifs
  · exact (discreet_setDataPermittedForMms false s).trans (discreet_removeEvent (fun _ _ => rfl) rfl _)
  · exact .refl s

theorem reports_releaseMachine (t : ApnType) (m : MachineRef) (info : SetupDataCallResultInfo)
    (s : Slot) : Reports m (decide (0 < info.active)) s (s.releaseMachine env t m info) := by
  unfold releaseMachine
  extract_lets menv s₁ s₂ s₃
  have h₁ : Reports m (decide (0 < info.active)) s s₁ :=
    reports_callMachine (fun x => CellularDataStateMachine.announces_updateNetworkInfoFrom info) m s
  have h₂ : Discreet s₁ s₂ := by
    dsimp only [s₂]
    split <;> exact .of_worn rfl rfl
  exact (h₁.trans h₂).trans (.of_worn rfl rfl)

theorem reports_disconnectDataComplete {info : SetupDataCallResultInfo}
    (ht : ApnType.ofId info.flag = some t) (s : Slot) :
    ReportsOwned t info s (s.disconnectDataComplete env info) := by
  unfold disconnectDataComplete
  split
  · rename_i hnone
    cases ht.symm.trans hnone
  rename_i u hu
  obtain rfl : t = u := Option.some.inj (ht.symm.trans hu)
  split
  · rename_i hnone
    refine ⟨fun _ => discreet_setApnState t .idle s, fun m howner => ?_⟩
    rw [hnone] at howner
    cases howner
  · rename_i m hm
    extract_lets reason s₁ s₂ s₃ s₄ s₅ s₆
    have h₁ : Reports m (decide (0 < info.active)) s s₁ := reports_releaseMachine t m info s
    have h₂ : Discreet s₁ s₂ := discreet_updateCellularDataConnectState t s₁
    have h₃ : Discreet s₂ s₃ := discreet_updatePhysicalConnectionState _ s₂
    have h₄ : Discreet s₃ s₄ := by
      dsimp only [s₄]
      split_ifs
      · exact discreet_retryOrClearConnection t _ info s₃
      · exact .refl s₃
    have h₅ : Discreet s₄ s₅ := discreet_handleIncallDataDisconnectComplete s₄
    have h₆ : Discreet s₅ s₆ := by
      dsimp only [s₆]
      split_ifs
      · exact discreet_handleSortConnection s₅
      · exact .refl s₅
    have hrest : Discreet s₁ (s₆.handleDisconnectDataCompleteForMmsType env t) :=
      ((((h₂.trans h₃).trans h₄).trans h₅).trans h₆).trans
        (discreet_handleDisconnectDataCompleteForMmsType t s₆)
    refine ⟨fun hnone => ?_, fun n howner => ?_⟩
    · rw [hm] at hnone
      cases hnone
    · obtain rfl := Option.some.inj (hm.symm.trans howner)
      exact h₁.trans hrest

theorem reports_handleUpdateNetInfo (info : SetupDataCallResultInfo) (s : Slot) :
    Discreet s (s.handleUpdateNetInfo env info) ∨ ∃ t m,
      (s.holder t).cellularDataStateMachine = some m ∧
        Reports m (decide (0 < info.active)) s (s.handleUpdateNetInfo env info) := by
  have hcall (m : MachineRef) : Reports m (decide (0 < info.active)) s
      (s.callMachine m fun x => x.updateNetworkInfoFrom (env.machineEnv s) info) :=
    reports_callMachine (fun x => CellularDataStateMachine.announces_updateNetworkInfoFrom info) m s
  unfold handleUpdateNetInfo
  split
  · exact .inl (.refl s)
  · rename_i t ht
    split
    · rename_i m hstate howner
      exact .inr ⟨t, m, howner, hcall m⟩
    · rename_i m hstate howner
      exact .inr ⟨t, m, howner, hcall m⟩
    · exact .inl (.refl s)

/-! Retries and requests -/

theorem discreet_retryToSetupDatacall (id : Int) (s : Slot) :
    Discreet s (s.retryToSetupDatacall id) := by
  unfold retryToSetupDatacall
  split
  · exact .refl s
  · split_ifs
    · exact .refl s
    · exact (discreet_setApnState _ .idle s).trans (discreet_sendEvent rfl _)

theorem discreet_msgEstablishDataConnection (id : Int) (b : Option BearType) (s : Slot) :
    Discreet s (s.msgEstablishDataConnection env id b) := by
  unfold msgEstablishDataConnection
  split
  · exact .refl s
  · rename_i t ht
    split_ifs
    · exact discreet_attemptEstablishDataConnection t s
    · have hsingle : Discreet s (s.isSingleConnectionEnabled env env.psRadioTech).1 :=
        discreet_isSingleConnectionEnabled _ s
      generalize s.isSingleConnectionEnabled env env.psRadioTech = r at hsingle ⊢
      obtain ⟨s₁, single⟩ := r
      have hhandover (v : Bool) : Discreet s { s₁ with isHandoverOccurred := v } :=
        hsingle.trans (.of_worn rfl rfl)
      exact (hhandover _).trans (discreet_clearConnection t _ _)

theorem discreet_msgRequestNetwork (request : NetRequest) (isRequest : Bool) (s : Slot) :
    Discreet s (s.msgRequestNetwork request isRequest) := by
  unfold msgRequestNetwork
  split
  · exact .refl s
  · refine Discreet.trans ?_ (discreet_sendEvent rfl _)
    split_ifs <;> exact .of_worn rfl rfl

theorem discreet_resumeDataPermittedTimerOut (s : Slot) :
    Discreet s (s.resumeDataPermittedTimerOut env) := by
  unfold resumeDataPermittedTimerOut
  split_ifs
  · exact discreet_setDataPermittedForMms false s
  · exact .refl s

/-! APN table -/

theorem discreet_applyApnReload (r : ApnReload) (s : Slot) : Discreet s (s.applyApnReload r) := by
  unfold applyApnReload
  split <;> exact .of_worn rfl rfl

theorem discreet_readApnTable (n : Nat) (rs : List ApnReload) (s : Slot) :
    Discreet s (readApnTable n rs s).1 := by
  induction n generalizing rs s with
  | zero => exact .refl s
  | succ n ih =>
    cases rs with
    | nil => exact .refl s
    | cons r rs =>
      have hreload : Discreet s (s.applyApnReload r) := discreet_applyApnReload r s
      simp only [readApnTable]
      split_ifs
      · exact hreload
      · exact hreload.trans (ih rs _)

theorem discreet_createApnItem (s : Slot) : Discreet s (s.createApnItem env) := by
  have hread : Discreet s (s.readApnTable defaultReadApnTime env.apnReloads).1 :=
    discreet_readApnTable _ _ s
  unfold createApnItem
  generalize s.readApnTable defaultReadApnTime env.apnReloads = r at hread ⊢
  obtain ⟨s₁, result⟩ := r
  have htimes (n : Nat) : Discreet s { s₁ with retryCreateApnTimes := n } :=
    hread.trans (.of_worn rfl rfl)
  dsimp only
  split_ifs
  · exact (htimes _).trans (discreet_sendEventAfter rfl _ _)
  · exact htimes 0
  · exact (htimes 0).trans (discreet_removeEvent (fun _ _ => rfl) rfl _)
  · exact hread

theorem discreet_setRilAttachApn (s : Slot) : Discreet s (s.setRilAttachApn env) := by
  have hblock : Discreet s (s.isBlockSetRilAttachApn env).1 := by
    unfold isBlockSetRilAttachApn
    split_ifs <;> exact .of_worn rfl rfl
  unfold setRilAttachApn
  generalize s.isBlockSetRilAttachApn env = r at hblock ⊢
  obtain ⟨s₁, blocked⟩ := r
  cases blocked with
  | true => exact hblock
  | false =>
    apply hblock.trans
    dsimp only
    split_ifs
    · exact .refl s₁
    · exact discreet_effect rfl s₁
    · split
      · exact discreet_effect rfl s₁
      · exact .refl s₁

theorem discreet_clearConnectionsOnUpdateApns (reason : DisConnectionReason) (s : Slot) :
    Discreet s (s.clearConnectionsOnUpdateApns env reason) := by
  have hroaming : Discreet s (s.isCellularDataRoamingEnabled env).1 :=
    discreet_isCellularDataRoamingEnabled s
  unfold clearConnectionsOnUpdateApns
  generalize s.isCellularDataRoamingEnabled env = r at hroaming ⊢
  obtain ⟨s₁, isRoaming⟩ := r
  apply hroaming.trans
  dsimp only
  generalize (s₁.apnManager.getRilAttachApn s₁.apnItem).map s₁.apnItem = apnItem
  cases apnItem with
  | none =>
    have hclear : Discreet s₁ (s₁.clearAllConnections env reason) :=
      discreet_clearAllConnections reason s₁
    split_ifs
    · exact .refl s₁
    · exact hclear.trans (.of_worn rfl rfl)
  | some item =>
    have hinfo : Discreet s₁ (s₁.updateApnInfo env item.attr.profileId) := discreet_updateApnInfo _ s₁
    have hclear (s : Slot) : Discreet s (s.clearAllConnections env reason) :=
      discreet_clearAllConnections reason s
    split_ifs
    · exact hinfo
    · exact (hinfo.trans (hclear _)).trans (.of_worn rfl rfl)

theorem discreet_handleApnChanged (s : Slot) : Discreet s (s.handleApnChanged env) := by
  unfold handleApnChanged
  extract_lets s₁ s₂ s₃ s₄
  have h₂ : Discreet s s₂ := (discreet_createApnItem s).trans (discreet_setRilAttachApn s₁)
  have h₃ : Discreet s s₃ := h₂.trans (discreet_clearConnectionsOnUpdateApns _ s₂)
  have h₄ : Discreet s s₄ := h₃.trans (discreet_clearAllApnBad s₃)
  refine h₄.trans (Discreet.foldl (fun s t => ?_) _ s₄)
  refine Discreet.trans ?_ (discreet_sendEventAfter rfl _ _)
  split_ifs
  · have hidle : Discreet s ((s.modifyHolder t fun h => h.initialApnRetryCount).setApnState t
        .idle) := .of_worn rfl rfl
    exact hidle.trans (discreet_removeEvent (fun _ _ => rfl) rfl _)
  · exact .refl s

theorem discreet_clearConnectionIfRequired (s : Slot) :
    Discreet s (s.clearConnectionIfRequired env) := by
  refine Discreet.foldl (fun s t => ?_) _ s
  dsimp only
  split_ifs
  · exact .refl s
  · exact .refl s
  · exact discreet_modifyHolder t _ s
  · exact (discreet_modifyHolder t _ s).trans (discreet_clearConnection t _ _)

/-! Configuration -/

theorem discreet_getDefaultDataRoamingConfig (s : Slot) :
    Discreet s (s.getDefaultDataRoamingConfig env) := by
  unfold getDefaultDataRoamingConfig
  extract_lets s₁
  have hdefault : Discreet s s₁ := .of_worn rfl rfl
  have hquery : Discreet s (s₁.queryUserDataRoamingStatus env).1 :=
    hdefault.trans (discreet_queryUserDataRoamingStatus s₁)
  generalize s₁.queryUserDataRoamingStatus env = r at hquery ⊢
  obtain ⟨s₂, stored⟩ := r
  cases stored with
  | some on => exact hquery
  | none =>
    dsimp only
    have hswitch : Discreet s (s₂.modifySwitches fun d =>
        { d with userDataRoaming := s₂.defaultDataRoamingEnable }) := hquery.trans (.of_worn rfl rfl)
    split
    · exact hquery
    · split_ifs
      · exact (hswitch.trans (discreet_clearIfConnecting _ _)).trans
          (discreet_establishAllApnsIfConnectable _)
      · exact hswitch

theorem discreet_getDefaultDataEnableConfig (s : Slot) :
    Discreet s (s.getDefaultDataEnableConfig env) := by
  unfold getDefaultDataEnableConfig
  split_ifs
  · exact .refl s
  · split
    · refine Discreet.trans ?_ (discreet_effect rfl _)
      split
      · exact discreet_setUserDataOn _ s
      · exact .refl s
    · exact .refl s

theorem discreet_getDefaultConfiguration (s : Slot) :
    Discreet s (s.getDefaultConfiguration env) := by
  have hmultiple : Discreet s { s with
      multipleConnectionsEnabled := env.defaultMultipleConnections } := .of_worn rfl rfl
  have hsingle (s : Slot) : Discreet s (s.getSinglePdpEnabledFromOpCfg env) :=
    discreet_getSinglePdpEnabledFromOpCfg s
  have hroaming (s : Slot) : Discreet s (s.getDefaultDataRoamingConfig env) :=
    discreet_getDefaultDataRoamingConfig s
  exact ((hmultiple.trans (hsingle _)).trans (hroaming _)).trans (discreet_getDefaultDataEnableConfig _)

/-! Radio -/

/-- The gate is opened, whatever is pending. -/
theorem discreet_openGate (s : Slot) : Discreet s { s with isMccChanged := false } :=
  ⟨⟨.silent rfl rfl (fun _ hmcc => Bool.noConfusion hmcc) (fun _ h => h) id rfl, fun _ => rfl, rfl⟩,
    mute_of_effects (List.forall_mem_nil _) rfl rfl⟩

/-- News for the machines wait until the machines take them. -/
theorem discreet_sendToMachines (e : MachineEvent) (s : Slot) : Discreet s (s.sendToMachines e) := by
  refine .of_worn rfl ?_
  unfold machineData sendToMachines
  dsimp only
  rw [List.map_map]
  exact List.map_congr_left fun _ _ => rfl

theorem discreet_roamingStateOn (s : Slot) : Discreet s (s.roamingStateOn env) := by
  unfold roamingStateOn
  extract_lets s₁
  have hgate : Discreet s s₁ := discreet_openGate s
  split_ifs
  · have hquery : Discreet s (s₁.isCellularDataRoamingEnabled env).1 :=
      hgate.trans (discreet_isCellularDataRoamingEnabled s₁)
    generalize s₁.isCellularDataRoamingEnabled env = r at hquery ⊢
    obtain ⟨s₂, enabled⟩ := r
    refine Discreet.trans ?_ (discreet_establishAllApnsIfConnectable _)
    split
    · split_ifs
      · exact hquery
      · exact hquery.trans (discreet_clearAllConnections _ s₂)
    · split_ifs
      · exact hquery
      · exact hquery.trans (discreet_clearAllConnections _ s₂)
    · exact hquery
  · exact hgate

theorem discreet_roamingStateOff (s : Slot) : Discreet s (s.roamingStateOff env) := by
  have hquery : Discreet s (s.isCellularDataRoamingEnabled env).1 :=
    discreet_isCellularDataRoamingEnabled s
  unfold roamingStateOff
  generalize s.isCellularDataRoamingEnabled env = r at hquery ⊢
  obtain ⟨s₁, enabled⟩ := r
  dsimp only
  split_ifs
  · exact hquery
  · exact (hquery.trans (discreet_clearIfConnecting _ s₁)).trans
      (discreet_establishAllApnsIfConnectable _)

theorem discreet_psRadioEmergencyStateClose (s : Slot) :
    Discreet s (s.psRadioEmergencyStateClose env) := by
  unfold psRadioEmergencyStateClose
  split
  · exact discreet_establishAllApnsIfConnectable s
  · exact discreet_establishAllApnsIfConnectable s
  · exact .refl s

theorem discreet_handleRadioStateChanged (state : RadioState) (s : Slot) :
    Discreet s (s.handleRadioStateChanged env state) := by
  cases state <;> simp only [handleRadioStateChanged]
  · split_ifs
    · exact discreet_clearAllConnections _ s
    · exact .refl s
  · split_ifs
    · exact discreet_clearAllConnections _ s
    · exact .refl s
  · exact discreet_establishAllApnsIfConnectable s
  · exact .refl s

theorem discreet_psDataRatChanged (s : Slot) : Discreet s (s.psDataRatChanged env) := by
  unfold psDataRatChanged
  split_ifs
  · exact .refl s
  · exact .refl s
  · exact (discreet_clearConnectionIfRequired s).trans (discreet_establishAllApnsIfConnectable _)

/-- The switch of internal data is set. -/
theorem orderly_changeConnectionForDsds (enable : Bool) (s : Slot) :
    Orderly s (s.changeConnectionForDsds env enable) ∧
      (s.Quiet → Mute s (s.changeConnectionForDsds env enable)) ∧
      (s.changeConnectionForDsds env enable).dataSwitchSettings.internalDataOn = enable := by
  unfold changeConnectionForDsds
  extract_lets s₁
  have hswitch : Orderly s s₁ := .silent rfl rfl id (fun _ h => h) id rfl
  have hmute : s.Quiet → Mute s s₁ := mute_of_effects (List.forall_mem_nil _) rfl rfl
  have hvalue : s₁.dataSwitchSettings.internalDataOn = enable := rfl
  have hafter (s' : Slot) (h : Discreet s₁ s') :
      Orderly s s' ∧ (s.Quiet → Mute s s') ∧ s'.dataSwitchSettings.internalDataOn = enable :=
    ⟨hswitch.trans h.toOrderly, fun hq => (hmute hq).trans (h.mute (hmute hq).quiet),
      h.internalDataOn.trans hvalue⟩
  split_ifs
  · exact hafter _ (discreet_sendEvent rfl s₁)
  · exact hafter _ (discreet_clearAllConnections _ s₁)

/-- In every step of the loop internal data is left as it is or ordered on. -/
theorem mild_handleDsdsModeChanged (mode : Int) (s : Slot) :
    Mild s (s.handleDsdsModeChanged env mode) := by
  unfold handleDsdsModeChanged
  split
  · exact (Discreet.refl s).mild
  dsimp only
  split
  · exact (Discreet.refl s).mild
  have hquery : Discreet s (s.isCellularDataEnabled env).1 := discreet_isCellularDataEnabled s
  generalize s.isCellularDataEnabled env = r at hquery ⊢
  obtain ⟨s₁, enabled⟩ := r
  refine Mild.trans ?_ (discreet_incallEvent _ _).mild
  refine hquery.mild.trans (Mild.foldl (fun s i => ?_) _ s₁)
  have hother (s : Slot) : Discreet s (s.effect (.changeConnectionForDsds i true)) :=
    discreet_effect rfl s
  have hown (s : Slot) : Mild s (s.changeConnectionForDsds env true) := by
    obtain ⟨horderly, hmute, hon⟩ := @orderly_changeConnectionForDsds env true s
    refine ⟨⟨horderly, fun hoff => ?_⟩, hmute⟩
    rw [hon] at hoff
    cases hoff
  split_ifs
  · exact (Discreet.refl s).mild
  · exact (discreet_setDataPermitted _ _ s).mild
  · exact (discreet_setDataPermitted _ _ s).mild.trans (hown _)
  · exact ((discreet_setDataPermitted _ _ s).trans (hother _)).mild
  · exact hown s
  · exact (hother s).mild

/-- The gate is shut only together with the event that opens it again. -/
theorem mild_handleResidentNetworkChanged (plmn : String) (s : Slot) :
    Mild s (s.handleResidentNetworkChanged plmn) := by
  unfold handleResidentNetworkChanged
  split
  · exact (Discreet.refl s).mild
  · extract_lets currentMcc s₁
    have hshut : Mild s s₁ := by
      dsimp only [s₁]
      split_ifs
      · have horderly : Orderly s { s.sendEventAfter .mccChangeActivateDelay mccChangeActivateDelay with
            isMccChanged := true } := by
          refine .silent rfl (EventQueue.restrict_sendEventAfter_of_neg rfl _) ?_
            (fun _ h => h.sendEventAfter _ _) id rfl
          intro _ _
          exact EventQueue.mem_pending_sendEventAfter.mpr (.inr rfl)
        exact ⟨⟨horderly, id⟩, mute_of_effects (List.forall_mem_nil _) rfl rfl⟩
      · exact (Discreet.refl s).mild
    have hlast : Discreet s₁ { s₁ with lastMcc := currentMcc } := .of_worn rfl rfl
    exact hshut.trans hlast.mild

/-! Calls of the telephone -/

theorem discreet_handleVoiceCallChanged (state : TelCallStatus) (s : Slot) :
    Discreet s (s.handleVoiceCallChanged env state) := by
  have hreason (r : DisConnectionReason) : Discreet s { s with disconnectionReason := r } :=
    .of_worn rfl rfl
  unfold handleVoiceCallChanged
  split_ifs
  · exact hreason _
  · exact .refl s
  · exact (hreason _).trans (discreet_establishAllApnsIfConnectable _)

theorem discreet_handleImsCallChanged (state : TelCallStatus) (s : Slot) :
    Discreet s (s.handleImsCallChanged state) := by
  have hcreate : Discreet s { s with hasIncallDataStateMachine := true } := .of_worn rfl rfl
  unfold handleImsCallChanged
  split
  · exact hcreate.trans (discreet_incallEvent _ _)
  · exact hcreate.trans (discreet_incallEvent _ _)
  · exact discreet_incallEvent _ s
  · exact discreet_incallEvent _ s
  · exact .refl s

theorem discreet_handleCallChanged (state : TelCallStatus) (s : Slot) :
    Discreet s (s.handleCallChanged env state) := by
  have hcall : Discreet s { s with lastCallState := state } := .of_worn rfl rfl
  unfold handleCallChanged
  split
  · exact .refl s
  · dsimp only
    split
    · exact hcall.trans (discreet_handleImsCallChanged state _)
    · exact hcall.trans (discreet_handleVoiceCallChanged state _)

/-! SIM -/

theorem discreet_handleSimStateChanged (s : Slot) : Discreet s (s.handleSimStateChanged env) := by
  have hloaded : Discreet s { s with isSimAccountLoaded := false, isRilApnAttached := false } :=
    .of_worn rfl rfl
  have hclear := hloaded.trans (discreet_clearAllConnections .clearConnection _ : Discreet _
    (clearAllConnections env _ .clearConnection))
  unfold handleSimStateChanged
  split
  · split_ifs
    · exact discreet_establishAllApnsIfConnectable s
    · exact .refl s
  · exact .refl s
  · dsimp only
    split_ifs
    · exact hclear.trans (Discreet.foldl (fun s t => discreet_modifyHolder t _ s) _ _)
    · exact hclear

theorem discreet_handleRecordsChanged (s : Slot) : Discreet s (s.handleRecordsChanged env) := by
  unfold handleRecordsChanged
  split
  · exact .refl s
  · extract_lets s₀ s₁ s₂ s₃ s₄ s₅
    have h₁ : Discreet s s₁ := by
      dsimp only [s₁]
      split_ifs <;> exact .of_worn rfl rfl
    have h₂ : Discreet s s₂ := h₁.trans (discreet_getDefaultConfiguration s₁)
    have h₄ : Discreet s s₄ :=
      (h₂.trans (discreet_createApnItem s₂)).trans (discreet_setRilAttachApn s₃)
    have h₅ : Discreet s s₅ := h₄.trans (discreet_clearConnectionsOnUpdateApns _ s₄)
    exact h₅.trans (discreet_establishAllApnsIfConnectable s₅)

theorem discreet_startLoadSimAccountTimer (times : Int) (s : Slot) :
    Discreet s (s.startLoadSimAccountTimer times) := by
  unfold startLoadSimAccountTimer
  split_ifs
  · exact .refl s
  · exact .refl s
  · exact discreet_sendEventAfter rfl _ s

theorem discreet_handleSimAccountLoaded (s : Slot) :
    Discreet s (s.handleSimAccountLoaded env) := by
  unfold handleSimAccountLoaded
  extract_lets s₁ s₂ s₃ s₄
  have h₂ : Discreet s s₂ := (discreet_removeEvent (fun _ _ => rfl) rfl s).trans (.of_worn rfl rfl)
  have h₄ : Discreet s s₄ := (h₂.trans (discreet_loadSwitchValue s₂)).trans
    (discreet_createApnItem s₃)
  have hestablish : Discreet s (s₄.establishAllApnsIfConnectable env) :=
    h₄.trans (discreet_establishAllApnsIfConnectable s₄)
  split_ifs
  · exact hestablish.trans (discreet_sendToMachines .updateNetworkInfo _)
  · exact hestablish
  · exact h₄.trans (discreet_clearAllConnections _ s₄)

theorem discreet_handleSimEvent (event : SimEvent) (slotId : Int) (s : Slot) :
    Discreet s (s.handleSimEvent env event slotId) := by
  have hload : Discreet s (s.loadSwitchValue env) := discreet_loadSwitchValue s
  unfold handleSimEvent
  split
  · exact .refl s
  · apply hload.trans
    cases event
    · exact discreet_handleSimStateChanged _
    · exact discreet_handleRecordsChanged _
    · exact discreet_handleSimAccountLoaded _
    · exact discreet_setRilAttachApn _

theorem discreet_handleRetryLoadSimAccount (times : Int) (s : Slot) :
    Discreet s (s.handleRetryLoadSimAccount env times) := by
  unfold handleRetryLoadSimAccount
  split_ifs
  · exact (discreet_removeEvent (fun _ _ => rfl) rfl s).trans (discreet_startLoadSimAccountTimer _ _)
  · exact discreet_handleSimAccountLoaded s
  · exact .refl s

theorem discreet_onDataShareReady (s : Slot) : Discreet s s.onDataShareReady := by
  unfold onDataShareReady
  split_ifs
  · exact (discreet_removeEvent (fun _ _ => rfl) rfl s).trans (discreet_startLoadSimAccountTimer _ _)
  · exact .refl s

theorem discreet_handleDefaultDataSubscriptionChanged (s : Slot) :
    Discreet s (s.handleDefaultDataSubscriptionChanged env) := by
  unfold handleDefaultDataSubscriptionChanged
  extract_lets s₁ s₂
  have h₁ : Discreet s s₁ := by
    dsimp only [s₁]
    split_ifs
    · exact .refl s
    · exact discreet_setDataPermitted _ _ s
  have h₂ : Discreet s s₂ := h₁.trans (discreet_loadSwitchValue s₁)
  split_ifs
  · exact h₂.trans (discreet_sendEvent rfl s₂)
  · exact h₂.trans (discreet_clearAllConnections _ s₂)

/-! Settings -/

theorem discreet_setPolicyDataOn (enable : Bool) (s : Slot) :
    Discreet s (s.setPolicyDataOn env enable) := by
  unfold setPolicyDataOn
  split
  · exact .refl s
  · extract_lets s₁
    have hswitch : Discreet s s₁ := .of_worn rfl rfl
    split_ifs
    · exact hswitch.trans (discreet_sendEvent rfl s₁)
    · exact hswitch.trans (discreet_clearAllConnections _ s₁)

theorem discreet_handleDBSettingEnableChanged (s : Slot) :
    Discreet s (s.handleDBSettingEnableChanged env) := by
  have hquery : Discreet s (s.queryUserDataStatus env).1 := discreet_queryUserDataStatus s
  unfold handleDBSettingEnableChanged
  generalize s.queryUserDataStatus env = r at hquery ⊢
  obtain ⟨s₁, enabled⟩ := r
  dsimp only
  split_ifs
  · exact hquery
  · exact hquery.trans (discreet_establishAllApnsIfConnectable s₁)
  · exact hquery
  · exact hquery.trans (discreet_clearAllConnections _ s₁)

theorem discreet_handleDBSettingRoamingChanged (s : Slot) :
    Discreet s (s.handleDBSettingRoamingChanged env) := by
  unfold handleDBSettingRoamingChanged
  split_ifs
  · exact discreet_establishAllApnsIfConnectable s
  · exact discreet_clearAllConnections _ s
  · exact .refl s

theorem discreet_handleFactoryReset (s : Slot) : Discreet s (s.handleFactoryReset env) := by
  have henable : Discreet s (s.setCellularDataEnable env true).1 :=
    discreet_setCellularDataEnable true s
  exact (henable.trans (discreet_setCellularDataRoamingEnabled _ _)).trans (discreet_effect rfl _)

/-! The event loop -/

/-- Events that are no reports of the machines. -/
theorem discreet_processEvent {e : HandlerEvent} (he : e.isNotice = false)
    (hdsds : ∀ mode, e ≠ .dsdsModeChanged mode) (hplmn : ∀ plmn, e ≠ .residentNetworkChange plmn)
    (s : Slot) : Discreet s (s.processEvent env e) := by
  have hattached : Discreet s (s.radioPsConnectionAttached env) :=
    (discreet_openGate s).trans (discreet_establishAllApnsIfConnectable _)
  cases e with
  | psConnectionAttached => exact hattached
  | psRoamingOpen => exact discreet_roamingStateOn s
  | psRoamingClose => exact discreet_roamingStateOff s
  | emergencyStateOpen => exact discreet_clearIfConnecting _ s
  | emergencyStateClose => exact discreet_psRadioEmergencyStateClose s
  | establishDataConnectionComplete info => cases he
  | disconnectDataComplete info => cases he
  | establishDataConnection id bearType => exact discreet_msgEstablishDataConnection id bearType s
  | settingSwitch on => exact .refl s
  | requestNetwork request isRequest => exact discreet_msgRequestNetwork request isRequest s
  | radioStateChanged state => exact discreet_handleRadioStateChanged state s
  | dsdsModeChanged mode => exact absurd rfl (hdsds mode)
  | sim event slotId => exact discreet_handleSimEvent event slotId s
  | psRatChanged => exact discreet_psDataRatChanged s
  | apnChanged =>
    simp only [processEvent]
    exact discreet_handleApnChanged s
  | setRilAttachApn ok => exact .of_worn rfl rfl
  | nrStateChanged => exact discreet_sendToMachines _ s
  | nrFrequencyChanged => exact discreet_sendToMachines _ s
  | dbSettingEnableChanged => exact discreet_handleDBSettingEnableChanged s
  | dbSettingRoamingChanged => exact discreet_handleDBSettingRoamingChanged s
  | dbSettingIncallChanged on => exact discreet_incallEvent _ s
  | incallDataComplete => exact discreet_incallEvent _ s
  | rilAdapterHostDied => exact discreet_sendToMachines _ s
  | factoryReset => exact discreet_handleFactoryReset s
  | cleanAllDataConnections => exact .refl s
  | dataCallListChanged info => cases he
  | retryToSetupDatacall id => exact discreet_retryToSetupDatacall id s
  | establishAllApnsIfConnectable => exact discreet_establishAllApnsIfConnectable s
  | resumeDataPermittedTimeout => exact discreet_resumeDataPermittedTimerOut s
  | retryToCreateApn =>
    simp only [processEvent]
    exact discreet_handleApnChanged s
  | retryToLoadSimAccount times => exact discreet_handleRetryLoadSimAccount times s
  | residentNetworkChange plmn => exact absurd rfl (hplmn plmn)
  | mccChangeActivateDelay => exact hattached

/-- The reports of the machines. -/
theorem tidy_notice {e : HandlerEvent} (he : e.isNotice = true) (s : Slot) :
    Tidy s (s.processEvent env e) := by
  cases e with
  | establishDataConnectionComplete info =>
    change Tidy s (s.establishDataConnectionComplete env info)
    cases ht : apnHolderByName info.flag with
    | none =>
      simp only [establishDataConnectionComplete, ht]
      exact .of_worn rfl
    | some t => exact (reports_establishDataConnectionComplete ht s).tidy
  | disconnectDataComplete info =>
    change Tidy s (s.disconnectDataComplete env info)
    cases ht : ApnType.ofId info.flag with
    | none =>
      simp only [disconnectDataComplete, ht]
      exact .refl s
    | some t => exact (reports_disconnectDataComplete ht s).tidy
  | dataCallListChanged info =>
    change Tidy s (s.handleUpdateNetInfo env info)
    rcases @reports_handleUpdateNetInfo env info s with hd | ⟨t, m, -, hreports⟩
    · exact hd.toTidy
    · exact hreports.toTidy
  | _ => cases he

/-- No event but the reports of the machines makes a machine say anything of its supplier. -/
theorem mild_processEvent {e : HandlerEvent} (he : e.isNotice = false) (s : Slot) :
    Mild s (s.processEvent env e) := by
  by_cases hdsds : ∃ mode, e = .dsdsModeChanged mode
  · obtain ⟨mode, rfl⟩ := hdsds
    exact mild_handleDsdsModeChanged mode s
  by_cases hplmn : ∃ plmn, e = .residentNetworkChange plmn
  · obtain ⟨plmn, rfl⟩ := hplmn
    exact mild_handleResidentNetworkChanged plmn s
  have hdiscreet : Discreet s (s.processEvent env e) := discreet_processEvent he
    (fun mode heq => hdsds ⟨mode, heq⟩) (fun plmn heq => hplmn ⟨plmn, heq⟩) s
  exact hdiscreet.mild

/-- No event switches internal data off. -/
theorem eases_processEvent (e : HandlerEvent) (s : Slot) : Eases s (s.processEvent env e) := by
  cases he : e.isNotice with
  | true => exact (tidy_notice he s).eases
  | false => exact (mild_processEvent he s).toEases

/-- The event of the gate's timer opens the gate itself. -/
theorem gateReopens_mccChangeActivateDelay (s : Slot) :
    (s.processEvent env .mccChangeActivateDelay).GateReopens := by
  have hopen : GateReopens { s with isMccChanged := false } := fun hmcc => Bool.noConfusion hmcc
  exact (discreet_establishAllApnsIfConnectable { s with isMccChanged := false }).reopens hopen

/-- A call of another thread; only a request for a network puts one into the queue. -/
theorem discreet_call {c : Call} (hdsds : ∀ enable, c ≠ .changeConnectionForDsds enable)
    (hrequest : ∀ isRequest caps bearTypes, c ≠ .requestNet isRequest caps bearTypes) (s : Slot) :
    Discreet s (s.call env c) := by
  cases c with
  | setCellularDataEnable on => exact discreet_setCellularDataEnable on s
  | setIntelligenceSwitchEnable on => exact discreet_setIntelligenceSwitchEnable on s
  | setCellularDataRoamingEnabled on => exact discreet_setCellularDataRoamingEnabled on s
  | isCellularDataEnabled => exact discreet_isCellularDataEnabled s
  | isCellularDataRoamingEnabled => exact discreet_isCellularDataRoamingEnabled s
  | getIntelligenceSwitchState => exact .of_worn rfl rfl
  | clearAllConnections reason => exact discreet_clearAllConnections reason s
  | changeConnectionForDsds enable => exact absurd rfl (hdsds enable)
  | setPolicyDataOn enable => exact discreet_setPolicyDataOn enable s
  | updateNetworkInfo => exact discreet_sendToMachines _ s
  | callStateChanged state => exact discreet_handleCallChanged state s
  | defaultDataSubscriptionChanged => exact discreet_handleDefaultDataSubscriptionChanged s
  | operatorConfigChanged => exact discreet_getDefaultConfiguration s
  | dataShareReady => exact discreet_onDataShareReady s
  | requestNet isRequest capabilities bearTypes => exact absurd rfl (hrequest _ _ _)

theorem orderly_call {c : Call}
    (hrequest : ∀ isRequest caps bearTypes, c ≠ .requestNet isRequest caps bearTypes) (s : Slot) :
    Orderly s (s.call env c) := by
  by_cases hdsds : ∃ enable, c = .changeConnectionForDsds enable
  · obtain ⟨enable, rfl⟩ := hdsds
    exact (orderly_changeConnectionForDsds enable s).1
  · exact (discreet_call (fun enable heq => hdsds ⟨enable, heq⟩) hrequest s).toOrderly

end Slot
end CellularData
