import CellularData.StateMachine.Framework
import CellularData.Apn.Item
import CellularData.Text.Address

/-! The connection state machine: one data call from the request to the modem to its release. -/
namespace CellularData
open StateMachine

inductive ConnState
  | default_ | inactive | activating | active | disconnecting
deriving DecidableEq, Repr

/-- Fields in the order of the constructor's parameters. -/
structure DataConnectionParams where
  apnHolder : ApnType
  profileId : Int
  rat : RadioTech
  nonTrafficUseOnly : Bool
  roamingState : Bool
  userRoaming : Bool
deriving DecidableEq, Repr

structure DataDisconnectParams where
  apnType : ApnType
  reason : DisConnectionReason
deriving DecidableEq, Repr

/-- What the event of a set-up answer carries. -/
inductive SetupAnswer
  | resultInfo (info : SetupDataCallResultInfo)
  | rilInfo (info : RadioResponseInfo)
  | empty
deriving DecidableEq, Repr

inductive MachineEvent
  | stateMachineInit
  | stateMachineQuit
  | connect (params : DataConnectionParams)
  | disconnect (params : DataDisconnectParams)
  | disconnectAll (params : DataDisconnectParams)
  | lostConnection (info : SetupDataCallResultInfo)
  | rilAdapterHostDied (info : SetupDataCallResultInfo)
  | setupDataCall (answer : SetupAnswer)
  | deactivateDataCall (rilInfo : Option RadioResponseInfo)
  | connectTimeoutCheck (connectId : Int)
  | disconnectTimeoutCheck (connectId : Int)
  | drsOrRatChanged
  | getRilBandwidth
  | getLastFailDone
  | linkCapabilityChanged (upBandwidth downBandwidth : Nat)
  | dataRoamOn
  | dataRoamOff
  | voiceCallStarted
  | voiceCallEnded
  | nrStateChanged
  | nrFrequencyChanged
  | updateNetworkInfo
  | other (code : Nat)
deriving DecidableEq, Repr

structure DataProfile where
  profileId : Int
  apn : String
  protocol : String
  verType : Int
  userName : String
  password : String
  roamingProtocol : String
  supportedApnTypesBitmap : Nat
deriving DecidableEq, Repr

structure ActivateDataParam where
  param : Int
  radioTechnology : RadioTech
  allowRoaming : Bool
  isRoaming : Bool
  dataProfile : DataProfile
deriving DecidableEq, Repr

structure DeactivateDataParam where
  param : Int
  cid : Int
  reason : DisConnectionReason
deriving DecidableEq, Repr

structure NetSupplierInfo where
  isAvailable : Bool := false
  isRoaming : Bool := false
  linkUpBandwidthKbps : Nat := 0
  linkDownBandwidthKbps : Nat := 0
  score : Int := 0
deriving DecidableEq, Repr

structure NetLinkInfo where
  ifaceName : String := ""
  mtu : Int := 0
  tcpBufferSizes : String := ""
  netAddrList : List AddressInfo := []
  dnsList : List AddressInfo := []
  routeList : List AddressInfo := []
  httpProxy : HttpProxy := {}
deriving DecidableEq, Repr

/-- What a machine sends to the handler, the connection manager, the modem and the net manager. -/
inductive MachineOutput
  | establishDataConnectionComplete (info : SetupDataCallResultInfo)
  | disconnectDataComplete (info : SetupDataCallResultInfo)
  | addActiveConnectionByCid (cid : Int)
  | activatePdpContext (param : ActivateDataParam)
  | deactivatePdpContext (param : DeactivateDataParam)
  | updateNetSupplierInfo (capability : NetCap) (info : NetSupplierInfo)
  | updateNetLinkInfo (capability : NetCap) (info : NetLinkInfo)
  | setReuseSupplierId (capability reuseApnCap : NetCap) (isReused : Bool)
  | registerSlotType (capability : NetCap) (radioTech : RadioTech)
  | restartRadio
deriving DecidableEq, Repr

/-- Members that describe the link to the net manager; no transition depends on them. -/
structure LinkData where
  capability : NetCap := .unset
  apnItem : Option ApnItem := none
  reuseApnCap : NetCap := .end_
  cause : PdpErrorReason := .none_
  ipType : String := ""
  upBandwidth : Nat := 0
  downBandwidth : Nat := 0
  tcpBuffer : String := ""
  netLinkInfo : NetLinkInfo := {}
  netSupplierInfo : NetSupplierInfo := {}
deriving DecidableEq, Repr

/-- Members of the machine and of its states; `outbox` is what the current step has sent. -/
structure MachineData where
  currentState : Option ConnState := none
  cid : Int := 0
  apnId : Int := 0
  connectId : Int := 0
  startTimeConnectTimeoutTask : Int := 0
  ifName : String := ""
  deActiveApnTypeId : Int := errorApnId
  resultInfo : Option SetupDataCallResultInfo := none
  rilSetChdataErrCnt : Nat := 0
  link : LinkData := {}
  outbox : List MachineOutput := []

/-- What a step of a machine reads from outside. -/
structure MachineEnv where
  psRadioTech : RadioTech := .other 0
  psRoaming : Bool := false
  currentTime : Int := 0
  isDefaultSlot : Bool := true
  currentApn : ApnType → Option ApnItem := fun _ => none
  tcpBufferByRadioTech : RadioTech → String := fun _ => ""
  bandwidthsByRadioTech : RadioTech → Nat × Nat := fun _ => (14, 14)
  mtuSizeString : String := ""
  strToInt : String → Option Int := fun _ => none

abbrev CellularDataStateMachine := EventHandler ConnState MachineEvent MachineData

namespace CellularDataStateMachine

variable (env : MachineEnv) (m : CellularDataStateMachine)

abbrev modifyData (f : MachineData → MachineData) : CellularDataStateMachine :=
  EventHandler.modifyData m f

abbrev transitionTo (st : ConnState) : CellularDataStateMachine := EventHandler.transitionTo m st

abbrev deferEvent (e : MachineEvent) : CellularDataStateMachine := EventHandler.deferEvent m e

abbrev setActive (st : ConnState) (b : Bool) : CellularDataStateMachine :=
  EventHandler.setActive m st b

abbrev sendEventAfter (e : MachineEvent) (delay : Int) : CellularDataStateMachine :=
  EventHandler.sendEventAfter m e delay

abbrev removeEvent (p : MachineEvent → Bool) : CellularDataStateMachine :=
  EventHandler.removeEvent m p

def isInactiveState : Bool := m.data.currentState = some .inactive
def isActivatingState : Bool := m.data.currentState = some .activating
def isActiveState : Bool := m.data.currentState = some .active
def isDisconnectingState : Bool := m.data.currentState = some .disconnecting

def emit (o : MachineOutput) : CellularDataStateMachine :=
  m.modifyData fun d => { d with outbox := d.outbox ++ [o] }

def modifyLink (f : LinkData → LinkData) : CellularDataStateMachine :=
  m.modifyData fun d => { d with link := f d.link }

def setCurrentState (st : ConnState) : CellularDataStateMachine :=
  m.modifyData fun d => { d with currentState := some st }

def setCid (cid : Int) : CellularDataStateMachine := m.modifyData fun d => { d with cid }

def setDeActiveApnTypeId (id : Int) : CellularDataStateMachine :=
  m.modifyData fun d => { d with deActiveApnTypeId := id }

def setDataCallResultInfo (info : SetupDataCallResultInfo) : CellularDataStateMachine :=
  m.modifyData fun d => { d with resultInfo := some info }

def setPdpErrorReason (reason : PdpErrorReason) : CellularDataStateMachine :=
  m.setDataCallResultInfo { reason }

def setCapability (capability : NetCap) : CellularDataStateMachine :=
  m.modifyLink fun l => { l with capability }

def setReuseApnCap (reuseApnCap : NetCap) : CellularDataStateMachine :=
  m.modifyLink fun l => { l with reuseApnCap }

def setIfReuseSupplierId (isReused : Bool) : CellularDataStateMachine :=
  if m.data.link.reuseApnCap = .end_ then m
  else m.emit (.setReuseSupplierId m.data.link.capability m.data.link.reuseApnCap isReused)

/-- The reuse set for the machine's supplier is taken back. -/
def clearReuse : CellularDataStateMachine :=
  if m.data.link.reuseApnCap = .end_ then m
  else (m.setIfReuseSupplierId false).setReuseApnCap .end_

def netScore : Int := if env.isDefaultSlot then defaultInternetConnectionScore else otherConnectionScore

def publishSupplier : CellularDataStateMachine :=
  m.emit (.updateNetSupplierInfo m.data.link.capability m.data.link.netSupplierInfo)

def publishLink : CellularDataStateMachine :=
  m.emit (.updateNetLinkInfo m.data.link.capability m.data.link.netLinkInfo)

def publish : CellularDataStateMachine :=
  if m.data.link.netSupplierInfo.isAvailable then m.publishSupplier.publishLink
  else m.publishSupplier

/-- `UpdateNetworkInfo(dataCallInfo)`. -/
def updateNetworkInfoFrom (info : SetupDataCallResultInfo) : CellularDataStateMachine :=
  let ipInfoArray := parseIpAddr isDecValue info.address
  let ipType := getIpType ipInfoArray
  let mtu := getMtuSizeFromOpCfg env.strToInt env.mtuSizeString ipType
    (if info.maxTransferUnit = 0 then defaultMtu else info.maxTransferUnit)
  publish ((m.modifyData fun d => { d with ifName := info.netPortName }).modifyLink fun l =>
    { l with
      ipType
      cause := info.reason
      netLinkInfo := { l.netLinkInfo with
        ifaceName := info.netPortName
        mtu
        tcpBufferSizes := l.tcpBuffer
        netAddrList := ipInfoArray
        dnsList := parseNormalIpAddr info.dns ++ parseNormalIpAddr info.dnsSec
        routeList := parseNormalIpAddr info.gateway }
      netSupplierInfo := { l.netSupplierInfo with
        isAvailable := 0 < info.active
        isRoaming := env.psRoaming
        linkUpBandwidthKbps := l.upBandwidth
        linkDownBandwidthKbps := l.downBandwidth
        score := netScore env } })

/-- `UpdateNetworkInfo()`. -/
def updateNetworkInfo : CellularDataStateMachine :=
  publish (m.modifyLink fun l =>
    { l with
      netLinkInfo := { l.netLinkInfo with tcpBufferSizes := l.tcpBuffer }
      netSupplierInfo := { l.netSupplierInfo with
        linkUpBandwidthKbps := l.upBandwidth
        linkDownBandwidthKbps := l.downBandwidth
        score := netScore env } })

/-- `none` when the port of the proxy makes `std::stoi` throw. -/
def updateHttpProxy (proxyIpAddress : String) : Option CellularDataStateMachine :=
  (splitProxyIpAddress isDecValue proxyIpAddress).map fun httpProxy =>
    m.modifyLink fun l => { l with netLinkInfo := { l.netLinkInfo with httpProxy } }

def fillActivateDataParam (apn : ApnItem) (bitMap : Nat) : DataProfile where
  profileId := apn.attr.profileId
  apn := apn.attr.apn
  protocol := apn.attr.protocol
  verType := apn.attr.authType
  userName := apn.attr.user
  password := apn.attr.password
  roamingProtocol := apn.attr.roamingProtocol
  supportedApnTypesBitmap := bitMap

/-- Network slicing is disabled. -/
def doConnect (params : DataConnectionParams) : CellularDataStateMachine :=
  let apn := env.currentApn params.apnHolder
  let m := (m.modifyData fun d => { d with apnId := params.apnHolder.id }).modifyLink fun l =>
    { l with apnItem := apn }
  match apn with
  | none => m
  | some apn =>
    let m := m.emit (.activatePdpContext
      { param := m.data.connectId
        radioTechnology := env.psRadioTech
        allowRoaming := params.roamingState
        isRoaming := params.userRoaming
        dataProfile := fillActivateDataParam apn params.apnHolder.bitmap })
    let m := m.modifyData fun d => { d with startTimeConnectTimeoutTask := env.currentTime }
    m.sendEventAfter (.connectTimeoutCheck m.data.connectId) connectionTimeout

def freeConnection (params : DataDisconnectParams) : CellularDataStateMachine :=
  let m := m.emit (.deactivatePdpContext
    { param := m.data.connectId, cid := m.data.cid, reason := params.reason })
  m.sendEventAfter (.disconnectTimeoutCheck m.data.connectId) disconnectionTimeout

def isConnectTimeoutCheck : MachineEvent → Bool
  | .connectTimeoutCheck _ => true
  | _ => false

def isDisconnectTimeoutCheck : MachineEvent → Bool
  | .disconnectTimeoutCheck _ => true
  | _ => false

def onInterfaceLinkStateChanged (ifName : String) (up : Bool) : CellularDataStateMachine :=
  if ifName ≠ m.data.ifName then m
  else if !up && m.queue.hasInnerEvent isDisconnectTimeoutCheck then
    (m.removeEvent isDisconnectTimeoutCheck).sendEventAfter
      (.disconnectTimeoutCheck m.data.connectId) interfaceDownTimeout
  else m

end CellularDataStateMachine
end CellularData
