import CellularData.Apn.Manager
import CellularData.Machine.States

/-! The state of one slot: the handler, its switches and APN holders, and the connection machines. -/
namespace CellularData
open Lib StateMachine

inductive TelephonyError
  | success | localPtrNull | slotIdInvalid | databaseReadFail | databaseReadEmpty
  | databaseWriteFail | other (code : Int)
deriving DecidableEq, Repr

/-- Keys of the settings store. -/
inductive SettingsKey
  | dataEnable | dataRoaming (simId : Int) | anySimDetected | intelligenceSwitch
deriving DecidableEq, Repr

/-- What a reload of the APN table leaves behind: the new items, unless it stopped before it
cleared the list, the preferred profile and the number of items returned. A new item is not marked
as bad. -/
structure ApnReload where
  items : Option (List ApnItem) := none
  preferId : Int := invalidProfileId
  count : Nat := 0
  unmarked : ∀ item ∈ items.getD [], item.badApn = false := by decide

structure OperatorConfig where
  esmFlag : Option Int := none
  singlePdpEnabled : Option Bool := none
  singlePdpRadioType : List RadioTech := []
  defaultDataEnable : Option Bool := none
  defaultDataRoaming : Option Bool := none

/-- What a step of the handler reads from the core service, the stores and the clock. -/
structure Env where
  airplaneModeOn : Bool := false
  psRegInService : Bool := true
  simState : SimState := .loaded
  psRoamingState : Int := 0
  psRadioTech : RadioTech := .other 0
  simId : Int := 1
  iccId : String := ""
  operatorNumeric : String := ""
  defaultCellularDataSlotId : Int := 0
  primarySlotId : Int := 0
  dsdsMode : Int := dsdsModeV2
  maxSimCount : Nat := 2
  hasSimCard : Int → Bool := fun _ => true
  tstsModeEnabled : Bool := false
  imsRegistered : Bool := false
  incallIsSecondaryActive : Bool := false
  operatorConfig : OperatorConfig := {}
  defaultMultipleConnections : Bool := true
  defaultDataRoamingParameter : Bool := false
  mobileDataPolicyDisallow : Bool := false
  mobileDataPolicyForceOpen : Bool := false
  /-- Result of a read of the store and the value it has written, also where the text read is only
  begun by a number. -/
  getValue : SettingsKey → TelephonyError × Option Int := fun _ => (.databaseReadEmpty, none)
  putValue : SettingsKey → TelephonyError := fun _ => .success
  deactivatePdpResult : TelephonyError := .success
  /-- Profile id of the stored preferred APN; 0 when there is none. -/
  currentApnId : Int := 0
  apnReloads : List ApnReload := []
  registerNetSupplier : Bool := true
  retryDelays : ConnectionRetryPolicy.Delays := {}
  currentTime : Int := 0
  tcpBufferByRadioTech : RadioTech → String := fun _ => ""
  bandwidthsByRadioTech : RadioTech → Nat × Nat := fun _ => (14, 14)
  mtuSizeString : String := ""
  strToInt : String → Option Int := fun _ => none

structure DataSwitchSettings where
  internalDataOn : Bool := true
  userDataOn : Bool := true
  userDataRoaming : Bool := false
  policyDataOn : Bool := true
  intelliSwitchOn : Bool := false
  lastQryRet : TelephonyError := .other (-1)
deriving DecidableEq, Repr

structure NetRequest where
  capability : NetCap
  bearTypes : BearType
deriving DecidableEq, Repr

inductive SimEvent
  | stateChange | recordsLoaded | accountLoaded | nvRefreshFinished
deriving DecidableEq, Repr

inductive HandlerEvent
  | psConnectionAttached
  | psRoamingOpen
  | psRoamingClose
  | emergencyStateOpen
  | emergencyStateClose
  | establishDataConnectionComplete (info : SetupDataCallResultInfo)
  | disconnectDataComplete (info : SetupDataCallResultInfo)
  | establishDataConnection (id : Int) (disconnectBearType : Option BearType)
  | settingSwitch (on : Bool)
  | requestNetwork (request : NetRequest) (isRequest : Bool)
  | radioStateChanged (state : RadioState)
  | dsdsModeChanged (mode : Int)
  | sim (event : SimEvent) (slotId : Int)
  | psRatChanged
  | apnChanged
  | setRilAttachApn (ok : Bool)
  | nrStateChanged
  | nrFrequencyChanged
  | dbSettingEnableChanged
  | dbSettingRoamingChanged
  | dbSettingIncallChanged (on : Bool)
  | incallDataComplete
  | rilAdapterHostDied
  | factoryReset
  | cleanAllDataConnections
  | dataCallListChanged (info : SetupDataCallResultInfo)
  | retryToSetupDatacall (id : Int)
  | establishAllApnsIfConnectable
  | resumeDataPermittedTimeout
  | retryToCreateApn
  | retryToLoadSimAccount (times : Int)
  | residentNetworkChange (plmn : String)
  | mccChangeActivateDelay
deriving DecidableEq, Repr

structure ApnActivateInfo where
  actSuccTime : Int
  duration : Option Int
  reason : PdpErrorReason
  apnId : Int
deriving DecidableEq, Repr

/-- Events sent to the in-call machine. -/
inductive IncallEvent
  | callStarted | callEnded | dataConnected | dataDisconnected | settingsOn | settingsOff
  | dsdsChanged | deInit
deriving DecidableEq, Repr

/-- Requests of the handler to other components. -/
inductive Effect
  | machine (m : MachineRef) (o : MachineOutput)
  | setDataPermitted (slotId : Int) (dataPermitted : Bool)
  | changeConnectionForDsds (slotId : Int) (enable : Bool)
  | updateCellularDataConnectState (state : ApnProfileState)
  | deactivatePdpAfterHandover
  | updateApnInfo (profileId : Int)
  | setInitApnInfo (profileId : Int)
  | dcPhysicalLinkActiveUpdate (active : Bool)
  | incallEvent (e : IncallEvent)
  | putValue (key : SettingsKey) (value : Int)
  | resetApns
deriving DecidableEq, Repr

/-- What ends the process in the middle of a step. -/
inductive Crash
  | nullApnItem | nullCurrentApn | proxyPort
deriving DecidableEq, Repr

/-- The inputs of the activation gate when `MSG_SM_CONNECT` is posted. `storedDataRoaming` is what
the settings store answers in that step. -/
structure ConnectRecord where
  apnType : ApnType
  machine : MachineRef
  airplaneModeOn : Bool
  isMccChanged : Bool
  psRegInService : Bool
  simState : SimState
  psRoamingState : Int
  psRadioTech : RadioTech
  switches : DataSwitchSettings
  storedDataRoaming : Option Bool
  lastCallState : TelCallStatus
deriving DecidableEq, Repr

/-- What happened to data calls, as far as the machines took part in it. -/
inductive CallEvent
  | setupAnswer (m : MachineRef) (info : SetupDataCallResultInfo)
  | accepted (m : MachineRef) (cid : Int)
  | deactivateRequest (m : MachineRef) (cid : Int)
  | reportedDown (cid : Int)
  | hostDied (m : MachineRef)
deriving DecidableEq, Repr

/-- `connectLog` and `callLog` record history for the statements about it, and `crash` a step that
the process does not survive; nothing reads them. -/
structure Slot where
  slotId : Int := 0
  queue : EventQueue HandlerEvent := {}
  apnManager : ApnManager := {}
  apnItems : List ApnItem := []
  dataSwitchSettings : DataSwitchSettings := {}
  stateMachines : List CellularDataStateMachine := []
  cidActiveConnectionMap : List (Int × MachineRef) := []
  lastIccId : String := ""
  lastNumeric : String := ""
  lastMcc : String := ""
  lastCallState : TelCallStatus := .idle
  disconnectionReason : DisConnectionReason := .normal
  physicalConnectionActiveState : Bool := false
  multipleConnectionsEnabled : Bool := false
  defaultDataRoamingEnable : Bool := false
  isRilApnAttached : Bool := false
  isSimAccountLoaded : Bool := false
  isHandoverOccurred : Bool := false
  isMccChanged : Bool := false
  hasIncallDataStateMachine : Bool := false
  lastApnItem : Option ApnItem := some {}
  apnActivateChrList : List ApnActivateInfo := []
  defaultApnActTime : Int := 0
  internalApnActTime : Int := 0
  retryCreateApnTimes : Nat := 0
  effects : List Effect := []
  connectLog : List ConnectRecord := []
  callLog : List CallEvent := []
  crash : Option Crash := none

namespace Slot

variable (s : Slot)

def holder (t : ApnType) : ApnHolder := s.apnManager.holder t

def modifyHolder (t : ApnType) (f : ApnHolder → ApnHolder) : Slot :=
  { s with apnManager := s.apnManager.setHolder t (f (s.apnManager.holder t)) }

def setApnState (t : ApnType) (state : ApnProfileState) : Slot :=
  s.modifyHolder t fun h => h.setApnState state

def apnItem (r : ItemRef) : ApnItem := s.apnItems.getD r {}

def machine? (m : MachineRef) : Option CellularDataStateMachine := s.stateMachines[m]?

def modifyMachine (m : MachineRef) (f : CellularDataStateMachine → CellularDataStateMachine) : Slot :=
  { s with stateMachines := s.stateMachines.modify m f }

def postMachine (m : MachineRef) (e : MachineEvent) : Slot := s.modifyMachine m fun x => x.post e

def sendEvent (e : HandlerEvent) : Slot := { s with queue := s.queue.sendEvent e }

def sendEventAfter (e : HandlerEvent) (delay : Int) : Slot :=
  { s with queue := s.queue.sendEventAfter e delay }

def removeEvent (p : HandlerEvent → Bool) : Slot := { s with queue := s.queue.removeEvent p }

def effect (e : Effect) : Slot := { s with effects := e :: s.effects }

def setCrash (c : Crash) : Slot := { s with crash := s.crash.or (some c) }

def logCall (e : CallEvent) : Slot := { s with callLog := e :: s.callLog }

/-! `DataConnectionManager` -/

def addActiveConnectionByCid (cid : Int) (m : MachineRef) : Slot :=
  { s with cidActiveConnectionMap := (cid, m) :: s.cidActiveConnectionMap.filter fun p => p.1 ≠ cid }

def getActiveConnectionByCid (cid : Int) : Option MachineRef :=
  (s.cidActiveConnectionMap.find? fun p => p.1 = cid).map (·.2)

def removeActiveConnectionByCid (cid : Int) : Slot :=
  { s with cidActiveConnectionMap := s.cidActiveConnectionMap.filter fun p => p.1 ≠ cid }

def isNoActiveConnection : Bool := s.cidActiveConnectionMap.isEmpty

end Slot

def Env.machineEnv (env : Env) (s : Slot) : MachineEnv where
  psRadioTech := env.psRadioTech
  psRoaming := 0 < env.psRoamingState
  currentTime := env.currentTime
  isDefaultSlot := s.slotId = env.defaultCellularDataSlotId
  currentApn t := (s.holder t).apnItem.map s.apnItem
  tcpBufferByRadioTech := env.tcpBufferByRadioTech
  bandwidthsByRadioTech := env.bandwidthsByRadioTech
  mtuSizeString := env.mtuSizeString
  strToInt := env.strToInt

end CellularData
