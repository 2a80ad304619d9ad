import CellularData.Slot.Completion

/-! Events of the radio, the SIM, the settings and the APN table, and the handler's event loop. -/
namespace CellularData
namespace Slot

variable (env : Env) (s : Slot)

/-! APN table -/

def applyApnReload (r : ApnReload) : Slot :=
  match r.items with
  | none => { s with apnManager := { s.apnManager with preferId := r.preferId } }
  | some items =>
    { s with
      apnItems := s.apnItems ++ items
      apnManager := { s.apnManager with
        allApnItem := List.range' s.apnItems.length items.length
        preferId := r.preferId } }

/-- The attempts to read the table; the last result is kept. -/
def readApnTable : Nat → List ApnReload → Slot → Slot × Nat
  | 0, _, s => (s, 0)
  | _, [], s => (s, 0)
  | n + 1, r :: rs, s =>
    let s := s.applyApnReload r
    if r.count ≠ 0 then (s, r.count) else readApnTable n rs s

def isRetryToCreateApn : HandlerEvent → Bool
  | .retryToCreateApn => true
  | _ => false

def createApnItem : Slot :=
  let (s, result) := s.readApnTable defaultReadApnTime env.apnReloads
  if result = 0 ∧ !s.queue.hasInnerEvent isRetryToCreateApn then
    if s.retryCreateApnTimes < apnCreateRetryTimes then
      { s with retryCreateApnTimes := s.retryCreateApnTimes + 1 }.sendEventAfter .retryToCreateApn
        retryDelayTime
    else { s with retryCreateApnTimes := 0 }
  else if result ≠ 0 then
    { s with retryCreateApnTimes := 0 }.removeEvent isRetryToCreateApn
  else s

def isBlockSetRilAttachApn : Slot × Bool :=
  if s.lastNumeric = "00101" ∧ env.operatorNumeric = "24681" then (s, env.psRadioTech = .nr)
  else ({ s with lastNumeric := env.operatorNumeric }, false)

def setRilAttachApn : Slot :=
  match s.isBlockSetRilAttachApn env with
  | (s, true) => s
  | (s, false) =>
    if !isSimStateReadyOrLoaded env then s
    else if env.operatorConfig.esmFlag = some 0 then s.effect (.setInitApnInfo 0)
    else
      match s.apnManager.getRilAttachApn s.apnItem with
      | some r => s.effect (.setInitApnInfo (s.apnItem r).attr.profileId)
      | none => s

def clearConnectionsOnUpdateApns (reason : DisConnectionReason) : Slot :=
  let (s, isRoaming) := s.isCellularDataRoamingEnabled env
  let apnItem := (s.apnManager.getRilAttachApn s.apnItem).map s.apnItem
  let s :=
    match apnItem with
    | some item => s.updateApnInfo env item.attr.profileId
    | none => s
  if ApnItem.isCompatibleApnItem s.lastApnItem apnItem (isRoaming.getD false) then s
  else
    let s := s.clearAllConnections env reason
    { s with lastApnItem := some (apnItem.getD (s.lastApnItem.getD {})) }

def isRetryToSetupDatacall : HandlerEvent → Bool
  | .retryToSetupDatacall _ => true
  | _ => false

/-- Every holder is asked to connect; the retries of all holders are removed with one holder's. -/
def handleApnChanged : Slot :=
  let s := s.createApnItem env
  let s := s.setRilAttachApn env
  let s := s.clearConnectionsOnUpdateApns env .clearConnection
  let s := s.clearAllApnBad
  ApnType.all.foldl (fun s t =>
    let s :=
      if (s.holder t).apnState = .retrying then
        ((s.modifyHolder t fun h => h.initialApnRetryCount).setApnState t .idle).removeEvent
          isRetryToSetupDatacall
      else s
    s.sendEventAfter (.establishDataConnection t.id none) establishDataConnectionDelay) s

/-- A holder whose matched APNs have changed loses its connection. -/
def clearConnectionIfRequired : Slot :=
  ApnType.all.foldl (fun s t =>
    let apnState := (s.holder t).apnState
    let roamingState := decide (0 < env.psRoamingState)
    let matchedApns := s.apnManager.filterMatchedApns s.apnItem roamingState t
    let oldApns := (s.holder t).retryPolicy.matchedApns
    let same := oldApns.length = matchedApns.length ∧ ∀ r ∈ matchedApns, ∃ o ∈ oldApns,
      ApnItem.isSameApnItem (s.apnItem r) (s.apnItem o) roamingState = true
    if matchedApns = [] then s
    else if oldApns ≠ [] ∧ same then s
    else
      let s := s.modifyHolder t fun h =>
        { h with retryPolicy :=
            h.retryPolicy.setMatchedApns (fun r => (s.apnItem r).attr.profileId) matchedApns }
      if apnState = .idle ∨ apnState = .failed then s else s.clearConnection t .retryConnection) s

/-! Configuration -/

def getDefaultDataRoamingConfig : Slot :=
  let s := { s with defaultDataRoamingEnable :=
    env.operatorConfig.defaultDataRoaming.getD env.defaultDataRoamingParameter }
  match s.queryUserDataRoamingStatus env with
  | (s, some _) => s
  | (s, none) =>
    if s.defaultDataRoamingEnable = s.dataSwitchSettings.userDataRoaming then s
    else
      let s := s.modifySwitches fun d => { d with userDataRoaming := s.defaultDataRoamingEnable }
      if 0 < env.psRoamingState then
        let s :=
          match s.apnManager.getOverallApnState with
          | .connecting | .connected => s.clearAllConnections env .retryConnection
          | _ => s
        s.establishAllApnsIfConnectable env
      else s

def getDefaultDataEnableConfig : Slot :=
  if env.defaultCellularDataSlotId ≠ s.slotId then s
  else
    match (env.getValue .anySimDetected).1 with
    | .databaseReadEmpty =>
      let s :=
        match env.operatorConfig.defaultDataEnable with
        | some dataEnabled => (s.setUserDataOn env dataEnabled).1
        | none => s
      s.setAnySimDetected
    | _ => s

def getDefaultConfiguration : Slot :=
  let s := { s with multipleConnectionsEnabled := env.defaultMultipleConnections }
  let s := s.getSinglePdpEnabledFromOpCfg env
  let s := s.getDefaultDataRoamingConfig env
  s.getDefaultDataEnableConfig env

/-! Radio -/

def radioPsConnectionAttached : Slot :=
  { s with isMccChanged := false }.establishAllApnsIfConnectable env

def handleMccChangeDelay : Slot :=
  { s with isMccChanged := false }.establishAllApnsIfConnectable env

def roamingStateOn : Slot :=
  let s := { s with isMccChanged := false }
  if ¬ 0 < env.psRoamingState then s
  else
    let (s, dataRoamingEnabled) := s.isCellularDataRoamingEnabled env
    let s :=
      match s.apnManager.getOverallApnState with
      | .connecting | .connected =>
        if dataRoamingEnabled.getD false then s else s.clearAllConnections env .retryConnection
      | _ => s
    s.establishAllApnsIfConnectable env

def roamingStateOff : Slot :=
  let (s, dataRoamingEnabled) := s.isCellularDataRoamingEnabled env
  if dataRoamingEnabled.getD false then s
  else
    let s :=
      match s.apnManager.getOverallApnState with
      | .connecting | .connected => s.clearAllConnections env .retryConnection
      | _ => s
    s.establishAllApnsIfConnectable env

def psRadioEmergencyStateOpen : Slot :=
  match s.apnManager.getOverallApnState with
  | .connecting | .connected => s.clearAllConnections env .clearConnection
  | _ => s

def psRadioEmergencyStateClose : Slot :=
  match s.apnManager.getOverallApnState with
  | .idle | .disconnecting => s.establishAllApnsIfConnectable env
  | _ => s

def handleRadioStateChanged : RadioState → Slot
  | .powerOff | .powerNotAvailable =>
    if s.apnManager.getOverallApnState ≠ .idle then s.clearAllConnections env .clearConnection
    else s
  | .powerOn => s.establishAllApnsIfConnectable env
  | .other _ => s

def psDataRatChanged : Slot :=
  if !s.dataSwitchSettings.userDataOn then s
  else if !env.psRegInService then s
  else (s.clearConnectionIfRequired env).establishAllApnsIfConnectable env

def changeConnectionForDsds (enable : Bool) : Slot :=
  let s := s.modifySwitches fun d => { d with internalDataOn := enable }
  if enable then s.sendEvent .establishAllApnsIfConnectable
  else s.clearAllConnections env .clearConnection

/-- The loop over the slots asks the slot itself and sends a request to the others. -/
def handleDsdsModeChanged (mode : Int) : Slot :=
  if mode = env.dsdsMode then s
  else
    let defSlotId := env.defaultCellularDataSlotId
    if getDsdsModeForSlots env defSlotId s.slotId mode < dsdsModeV2 then s
    else
      let (s, dataEnableStatus) := s.isCellularDataEnabled env
      let s := (List.range env.maxSimCount).foldl (fun s (i : Nat) =>
        if (i : Int) = vsimSlotId ∨ (env.tstsModeEnabled ∧ (i : Int) = cellDataSlotId3) then s
        else if defSlotId ≠ i ∧ getDsdsModeForSlots env defSlotId i mode = dsdsModeV2 then
          s.setDataPermitted env i false
        else
          let s := if dataEnableStatus.getD true then s.setDataPermitted env i true else s
          if (i : Int) = s.slotId then s.changeConnectionForDsds env true
          else s.effect (.changeConnectionForDsds i true)) s
      s.incallEvent .dsdsChanged

/-- An event that is passed on to every machine. -/
def sendToMachines (e : MachineEvent) : Slot :=
  { s with stateMachines := s.stateMachines.map fun x => x.post e }

def onRilAdapterHostDied : Slot := s.sendToMachines (.rilAdapterHostDied {})

def handleResidentNetworkChanged (plmn : String) : Slot :=
  if plmn.length < defaultMccSize then s
  else
    let currentMcc := String.ofList (plmn.toList.take defaultMccSize)
    let s :=
      if s.lastMcc = "460" ∧ currentMcc = "454" ∧ !s.dataSwitchSettings.userDataRoaming then
        { s with isMccChanged := true }.sendEventAfter .mccChangeActivateDelay
          mccChangeActivateDelay
      else s
    { s with lastMcc := currentMcc }

/-! Calls -/

def handleVoiceCallChanged (state : TelCallStatus) : Slot :=
  if state ≠ .idle ∧ state ≠ .disconnected then
    if s.apnManager.hasAnyConnectedState && env.psRadioTech = .gsm then
      { s with disconnectionReason := .gsmAndCallingOnly }
    else s
  else { s with disconnectionReason := .normal }.establishAllApnsIfConnectable env

def handleImsCallChanged (state : TelCallStatus) : Slot :=
  match state with
  | .dialing | .incoming => { s with hasIncallDataStateMachine := true }.incallEvent .callStarted
  | .disconnected | .idle => s.incallEvent .callEnded
  | _ => s

def handleCallChanged (state : TelCallStatus) : Slot :=
  if s.lastCallState = state then s
  else
    let s := { s with lastCallState := state }
    if env.imsRegistered ∨ (s.hasIncallDataStateMachine ∧ env.incallIsSecondaryActive) then
      s.handleImsCallChanged state
    else s.handleVoiceCallChanged env state

/-! SIM -/

def releaseAllNetworkRequest : Slot :=
  ApnType.all.foldl (fun s t => s.modifyHolder t fun h => h.releaseAllCellularData) s

def handleSimStateChanged : Slot :=
  match env.simState with
  | .ready =>
    if s.lastIccId ≠ "" ∧ s.lastIccId = env.iccId then s.establishAllApnsIfConnectable env else s
  | .loaded => s
  | simState =>
    let s := { s with isSimAccountLoaded := false, isRilApnAttached := false }
    let s := s.clearAllConnections env .clearConnection
    if simState = .notPresent then s.releaseAllNetworkRequest else s

def handleRecordsChanged : Slot :=
  if env.iccId = "" then s
  else
    let s :=
      if env.iccId = s.lastIccId then s
      else { s.modifySwitches fun d => { d with policyDataOn := true } with lastIccId := env.iccId }
    let s := s.getDefaultConfiguration env
    let s := s.createApnItem env
    let s := s.setRilAttachApn env
    let s := s.clearConnectionsOnUpdateApns env .changeConnection
    s.establishAllApnsIfConnectable env

def isRetryToLoadSimAccount : HandlerEvent → Bool
  | .retryToLoadSimAccount _ => true
  | _ => false

def isSimAccountLoadedEvent : HandlerEvent → Bool
  | .sim .accountLoaded _ => true
  | _ => false

def startLoadSimAccountTimer (times : Int) : Slot :=
  if times ≤ 0 then s
  else if s.queue.hasInnerEvent isRetryToLoadSimAccount then s
  else s.sendEventAfter (.retryToLoadSimAccount times) loadRetryDelayTime

def handleSimAccountLoaded : Slot :=
  let s := s.removeEvent isRetryToLoadSimAccount
  let s := { s with isSimAccountLoaded := env.registerNetSupplier }
  let s := s.loadSwitchValue env
  let s := s.createApnItem env
  if env.defaultCellularDataSlotId = s.slotId then
    let s := s.establishAllApnsIfConnectable env
    if env.registerNetSupplier ∧ s.apnManager.getOverallApnState = .connected then
      s.sendToMachines .updateNetworkInfo
    else s
  else s.clearAllConnections env .clearConnection

def handleSimEvent (event : SimEvent) (slotId : Int) : Slot :=
  if slotId ≠ s.slotId ∧ event ≠ .nvRefreshFinished then s
  else
    let s := s.loadSwitchValue env
    match event with
    | .stateChange => s.handleSimStateChanged env
    | .recordsLoaded => s.handleRecordsChanged env
    | .accountLoaded => s.handleSimAccountLoaded env
    | .nvRefreshFinished => s.setRilAttachApn env

def handleRetryLoadSimAccount (times : Int) : Slot :=
  if env.simId ≤ invalidSimId then
    (s.removeEvent isRetryToLoadSimAccount).startLoadSimAccountTimer (times - 1)
  else if !s.isSimAccountLoaded && !s.queue.hasInnerEvent isSimAccountLoadedEvent then
    s.handleSimAccountLoaded env
  else s

def onDataShareReady : Slot :=
  if !s.isSimAccountLoaded && !s.queue.hasInnerEvent isSimAccountLoadedEvent then
    (s.removeEvent isRetryToLoadSimAccount).startLoadSimAccountTimer loadRetryTimes
  else s

def handleDefaultDataSubscriptionChanged : Slot :=
  let s :=
    if s.slotId = cellDataSlotId3 ∧ env.tstsModeEnabled then s
    else s.setDataPermitted env s.slotId (s.checkDataPermittedByDsds env)
  let s := s.loadSwitchValue env
  if env.defaultCellularDataSlotId = s.slotId then s.sendEvent .establishAllApnsIfConnectable
  else s.clearAllConnections env .clearConnection

/-! Settings -/

def setPolicyDataOn (enable : Bool) : Slot :=
  if s.dataSwitchSettings.policyDataOn = enable then s
  else
    let s := s.modifySwitches fun d => { d with policyDataOn := enable }
    if enable then s.sendEvent .establishAllApnsIfConnectable
    else s.clearAllConnections env .clearConnection

def handleDBSettingEnableChanged : Slot :=
  let (s, dataEnabled) := s.queryUserDataStatus env
  if dataEnabled.getD true && env.defaultCellularDataSlotId = s.slotId then
    if env.mobileDataPolicyDisallow then s else s.establishAllApnsIfConnectable env
  else
    if env.mobileDataPolicyForceOpen then s else s.clearAllConnections env .clearConnection

def handleDBSettingRoamingChanged : Slot :=
  if 0 < env.psRoamingState then
    if s.dataSwitchSettings.userDataRoaming then s.establishAllApnsIfConnectable env
    else s.clearAllConnections env .clearConnection
  else s

def handleFactoryReset : Slot :=
  let s := (s.setCellularDataEnable env true).1
  let s := (s.setCellularDataRoamingEnabled env s.defaultDataRoamingEnable).1
  s.effect .resetApns

/-! The event loop -/

def processEvent : HandlerEvent → Slot
  | .psConnectionAttached => s.radioPsConnectionAttached env
  | .psRoamingOpen => s.roamingStateOn env
  | .psRoamingClose => s.roamingStateOff env
  | .emergencyStateOpen => s.psRadioEmergencyStateOpen env
  | .emergencyStateClose => s.psRadioEmergencyStateClose env
  | .establishDataConnectionComplete info => s.establishDataConnectionComplete env info
  | .disconnectDataComplete info => s.disconnectDataComplete env info
  | .establishDataConnection id bearType => s.msgEstablishDataConnection env id bearType
  | .settingSwitch _ => s
  | .requestNetwork request isRequest => s.msgRequestNetwork request isRequest
  | .radioStateChanged state => s.handleRadioStateChanged env state
  | .dsdsModeChanged mode => s.handleDsdsModeChanged env mode
  | .sim event slotId => s.handleSimEvent env event slotId
  | .psRatChanged => s.psDataRatChanged env
  | .apnChanged => s.handleApnChanged env
  | .setRilAttachApn ok => { s with isRilApnAttached := ok }
  | .nrStateChanged => s.sendToMachines .nrStateChanged
  | .nrFrequencyChanged => s.sendToMachines .nrFrequencyChanged
  | .dbSettingEnableChanged => s.handleDBSettingEnableChanged env
  | .dbSettingRoamingChanged => s.handleDBSettingRoamingChanged env
  | .dbSettingIncallChanged on => s.incallEvent (if on then .settingsOn else .settingsOff)
  | .incallDataComplete => s.incallEvent .deInit
  | .rilAdapterHostDied => s.onRilAdapterHostDied
  | .factoryReset => s.handleFactoryReset env
  | .cleanAllDataConnections => s
  | .dataCallListChanged info => s.handleUpdateNetInfo env info
  | .retryToSetupDatacall id => s.retryToSetupDatacall id
  | .establishAllApnsIfConnectable => s.establishAllApnsIfConnectable env
  | .resumeDataPermittedTimeout => s.resumeDataPermittedTimerOut env
  | .retryToCreateApn => s.handleApnChanged env
  | .retryToLoadSimAccount times => s.handleRetryLoadSimAccount env times
  | .residentNetworkChange plmn => s.handleResidentNetworkChanged plmn
  | .mccChangeActivateDelay => s.handleMccChangeDelay env

/-- Methods that other threads of the service call on the handler. -/
inductive Call
  | setCellularDataEnable (on : Bool)
  | setIntelligenceSwitchEnable (on : Bool)
  | setCellularDataRoamingEnabled (on : Bool)
  | isCellularDataEnabled
  | isCellularDataRoamingEnabled
  | getIntelligenceSwitchState
  | clearAllConnections (reason : DisConnectionReason)
  | changeConnectionForDsds (enable : Bool)
  | setPolicyDataOn (enable : Bool)
  | updateNetworkInfo
  | callStateChanged (state : TelCallStatus)
  | defaultDataSubscriptionChanged
  | operatorConfigChanged
  | dataShareReady
  | requestNet (isRequest : Bool) (capabilities : List NetCap) (bearTypes : BearType)
deriving DecidableEq, Repr

def call : Call → Slot
  | .setCellularDataEnable on => (s.setCellularDataEnable env on).1
  | .setIntelligenceSwitchEnable on => (s.setIntelligenceSwitchEnable env on).1
  | .setCellularDataRoamingEnabled on => (s.setCellularDataRoamingEnabled env on).1
  | .isCellularDataEnabled => (s.isCellularDataEnabled env).1
  | .isCellularDataRoamingEnabled => (s.isCellularDataRoamingEnabled env).1
  | .getIntelligenceSwitchState => (s.queryIntelligenceSwitchStatus env).1
  | .clearAllConnections reason => s.clearAllConnections env reason
  | .changeConnectionForDsds enable => s.changeConnectionForDsds env enable
  | .setPolicyDataOn enable => s.setPolicyDataOn env enable
  | .updateNetworkInfo => s.sendToMachines .updateNetworkInfo
  | .callStateChanged state => s.handleCallChanged env state
  | .defaultDataSubscriptionChanged => s.handleDefaultDataSubscriptionChanged env
  | .operatorConfigChanged => s.getDefaultConfiguration env
  | .dataShareReady => s.onDataShareReady
  | .requestNet isRequest capabilities bearTypes =>
    s.sendEvent (.requestNetwork ⟨findBestCapability capabilities, bearTypes⟩ isRequest)

/-- `Init`. -/
def init : Slot := (s.loadSwitchValue env).getDefaultConfiguration env

end Slot
end CellularData
