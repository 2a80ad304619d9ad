import CellularData.Slot.State

/-! Data switches of a slot and the checks of the activation gate. -/
namespace CellularData
namespace Slot

variable (env : Env) (s : Slot)

def modifySwitches (f : DataSwitchSettings → DataSwitchSettings) : Slot :=
  { s with dataSwitchSettings := f s.dataSwitchSettings }

/-! `DataSwitchSettings` -/

/-- `none` when the query fails; the cached flag then keeps its value. -/
def queryUserDataStatus : Slot × Option Bool :=
  if s.slotId = vsimSlotId then (s.modifySwitches fun d => { d with userDataOn := true }, some true)
  else
    match env.getValue .dataEnable with
    | (.success, v) =>
      let on := decide (v.getD 1 = 1)
      (s.modifySwitches fun d => { d with lastQryRet := .success, userDataOn := on }, some on)
    | (err, _) => (s.modifySwitches fun d => { d with lastQryRet := err }, none)

def queryUserDataRoamingStatus : Slot × Option Bool :=
  if s.slotId = vsimSlotId then
    (s.modifySwitches fun d => { d with userDataRoaming := true }, some true)
  else if env.simId ≤ invalidSimId then (s, none)
  else
    match env.getValue (.dataRoaming env.simId) with
    | (.success, v) =>
      let on := decide (v.getD 0 = 1)
      (s.modifySwitches fun d => { d with userDataRoaming := on }, some on)
    | _ => (s, none)

/-- The query reports success also when the store could not be read. -/
def queryIntelligenceSwitchStatus : Slot × Bool :=
  let on := decide ((env.getValue .intelligenceSwitch).2.getD 0 = 1)
  (s.modifySwitches fun d => { d with intelliSwitchOn := on }, on)

def loadSwitchValue : Slot :=
  ((s.queryUserDataStatus env).1.queryUserDataRoamingStatus env).1

def putValue (key : SettingsKey) (on : Bool) : Slot := s.effect (.putValue key (if on then 1 else 0))

def setUserDataOn (on : Bool) : Slot × TelephonyError :=
  if s.slotId = vsimSlotId then (s, .success)
  else
    let s := s.putValue .dataEnable on
    match env.putValue .dataEnable with
    | .success => (s.modifySwitches fun d => { d with userDataOn := on }, .success)
    | err => (s, err)

def setIntelliSwitchOn (on : Bool) : Slot × TelephonyError :=
  let s := s.putValue .intelligenceSwitch on
  match env.putValue .intelligenceSwitch with
  | .success => (s.modifySwitches fun d => { d with intelliSwitchOn := on }, .success)
  | err => (s, err)

def setUserDataRoamingOn (on : Bool) : Slot × TelephonyError :=
  if s.slotId = vsimSlotId then (s, .success)
  else if env.simId ≤ invalidSimId then (s, .slotIdInvalid)
  else
    let s := s.putValue (.dataRoaming env.simId) on
    match env.putValue (.dataRoaming env.simId) with
    | .success => (s.modifySwitches fun d => { d with userDataRoaming := on }, .success)
    | err => (s, err)

def setAnySimDetected : Slot := s.putValue .anySimDetected true

def isAllowActiveData : Bool :=
  s.dataSwitchSettings.userDataOn && s.dataSwitchSettings.policyDataOn &&
    s.dataSwitchSettings.internalDataOn

/-! Setters of the handler -/

def setCellularDataEnable (userDataOn : Bool) : Slot × TelephonyError :=
  match s.queryUserDataStatus env with
  | (s, none) => (s, .localPtrNull)
  | (s, some dataEnabled) =>
    if dataEnabled = userDataOn then (s, .success) else s.setUserDataOn env userDataOn

def setIntelligenceSwitchEnable (userSwitchOn : Bool) : Slot × TelephonyError :=
  let (s, switchEnabled) := s.queryIntelligenceSwitchStatus env
  if switchEnabled = userSwitchOn then (s, .success) else s.setIntelliSwitchOn env userSwitchOn

def isCellularDataEnabled : Slot × Option Bool :=
  if s.dataSwitchSettings.lastQryRet ≠ .success then s.queryUserDataStatus env
  else (s, some s.dataSwitchSettings.userDataOn)

/-- `none` for an invalid SIM; a failed query answers with the configured default. -/
def isCellularDataRoamingEnabled : Slot × Option Bool :=
  if s.slotId ≠ vsimSlotId ∧ env.simId ≤ invalidSimId then (s, none)
  else
    let (s', dataRoamingEnabled) := s.queryUserDataRoamingStatus env
    (s', some (dataRoamingEnabled.getD s.defaultDataRoamingEnable))

def setCellularDataRoamingEnabled (dataRoamingEnabled : Bool) : Slot × TelephonyError :=
  let (s', current) := s.queryUserDataRoamingStatus env
  if current.getD s.defaultDataRoamingEnable = dataRoamingEnabled then (s', .success)
  else s'.setUserDataRoamingOn env dataRoamingEnabled

/-! Checks -/

/-- DSDS mode of a pair of slots: a field of four bits. -/
def getDsdsModeForSlots (slotId1 slotId2 dsdsModeValue : Int) : Int :=
  if env.tstsModeEnabled then
    let lo := min slotId1 slotId2
    let hi := max slotId1 slotId2
    if lo = 0 ∧ hi = 3 then dsdsModeValue / 2 ^ 8 % 16
    else if lo = 1 ∧ hi = 3 then dsdsModeValue / 2 ^ 12 % 16
    else dsdsModeValue / 2 ^ 4 % 16
  else dsdsModeValue % 16

def checkDataPermittedByDsds : Bool :=
  !(env.defaultCellularDataSlotId ≠ s.slotId &&
    getDsdsModeForSlots env env.defaultCellularDataSlotId s.slotId env.dsdsMode = dsdsModeV2)

def setDataPermitted (slotId : Int) (dataPermitted : Bool) : Slot :=
  if env.maxSimCount ≤ 1 then s
  else if !env.hasSimCard slotId then s
  else s.effect (.setDataPermitted slotId dataPermitted)

/-- The default slot is another slot here. -/
def setDataPermittedForMms (dataPermittedForMms : Bool) : Slot :=
  if s.hasIncallDataStateMachine then s
  else if s.slotId = cellDataSlotId3 && env.tstsModeEnabled then s
  else if s.checkDataPermittedByDsds env then s
  else
    let defSlotId := env.defaultCellularDataSlotId
    let s := s.setDataPermitted env defSlotId !dataPermittedForMms
    let s := s.setDataPermitted env s.slotId dataPermittedForMms
    s.effect (.changeConnectionForDsds defSlotId !dataPermittedForMms)

section
variable {α : Type*} {env s} (g : Slot → α)

/-- A permission is a request to another component. -/
theorem apply_setDataPermitted
    (hg : ∀ (s : Slot) slotId b, g (s.effect (.setDataPermitted slotId b)) = g s) (slotId : Int)
    (b : Bool) : g (s.setDataPermitted env slotId b) = g s := by
  unfold setDataPermitted
  split_ifs
  · rfl
  · rfl
  · exact hg s slotId b

theorem apply_setDataPermittedForMms
    (hg : ∀ (s : Slot) slotId b, g (s.effect (.setDataPermitted slotId b)) = g s)
    (hchange : ∀ (s : Slot) slotId b, g (s.effect (.changeConnectionForDsds slotId b)) = g s)
    (b : Bool) : g (s.setDataPermittedForMms env b) = g s := by
  unfold setDataPermittedForMms
  split_ifs
  · rfl
  · rfl
  · rfl
  · refine (hchange _ _ _).trans ?_
    exact (apply_setDataPermitted g hg _ _).trans (apply_setDataPermitted g hg _ _)

end

def checkCellularDataSlotId (t : ApnType) : Bool :=
  !(env.defaultCellularDataSlotId ≠ s.slotId && (t = .internalDefault || t = .default_))

def isSimStateReadyOrLoaded : Bool := env.simState = .ready || env.simState = .loaded

def isResumeDataPermittedTimeout : HandlerEvent → Bool
  | .resumeDataPermittedTimeout => true
  | _ => false

/-- No holder is of emergency type. -/
def checkAttachAndSimState (t : ApnType) : Slot × Bool :=
  if s.isMccChanged then (s, false)
  else if t = .mms && isSimStateReadyOrLoaded env && !env.psRegInService then
    let s :=
      if s.queue.hasInnerEvent isResumeDataPermittedTimeout then s
      else s.sendEventAfter .resumeDataPermittedTimeout resumeDataPermittedTimeout
    (s.setDataPermittedForMms env true, false)
  else (s, env.psRegInService && isSimStateReadyOrLoaded env)

def isRestrictedMode : Bool :=
  s.lastCallState ≠ .idle && s.lastCallState ≠ .disconnected && env.psRadioTech = .gsm

def checkRoamingState (t : ApnType) : Bool :=
  let isAllowActiveData :=
    if 0 < env.psRoamingState && !s.dataSwitchSettings.userDataRoaming then false
    else if t = .mms || t = .bip then true
    else s.isAllowActiveData
  isAllowActiveData && !s.isRestrictedMode env

/-! `multipleConnectionsEnabled_` is a member that each query rewrites -/

def getSinglePdpEnabledFromOpCfg : Slot :=
  match env.operatorConfig.singlePdpEnabled with
  | some v => { s with multipleConnectionsEnabled := !v }
  | none => s

def isSingleConnectionEnabled (radioTech : RadioTech) : Slot × Bool :=
  if radioTech ∈ env.operatorConfig.singlePdpRadioType then
    ({ s with multipleConnectionsEnabled := false }, true)
  else
    let s := s.getSinglePdpEnabledFromOpCfg env
    (s, !s.multipleConnectionsEnabled)

end Slot
end CellularData
