import CellularData.Machine.Model

/-! The states of the connection machine: entry and exit actions and the events they process. -/
namespace CellularData
open StateMachine

/-- Reason under which `Active` reports a requested disconnection; a missing key gives 0. -/
def disconnReasonPdpError : DisConnectionReason → PdpErrorReason
  | .normal => .toNormal
  | .gsmAndCallingOnly => .toGsmAndCallingOnly
  | .retryConnection => .retry
  | .clearConnection => .toClearConnection
  | .changeConnection => .toChangeConnection
  | .permanentReject => .toPermanentReject
  | .handoverConnection => .none_

namespace CellularDataStateMachine

variable (env : MachineEnv) (m : CellularDataStateMachine)

/-! Entry and exit -/

/-- The report of the end of a call that `Inactive` sends to the handler. -/
def disconnectInfo : SetupDataCallResultInfo :=
  match m.data.resultInfo with
  | some info => { cid := m.data.cid, flag := m.data.deActiveApnTypeId, active := 0,
                   reason := info.reason, retryTime := info.retryTime, retryScene := info.retryScene }
  | none => { cid := m.data.cid, flag := m.data.deActiveApnTypeId, active := 0 }

def inactiveBegin : CellularDataStateMachine :=
  let m := m.modifyData fun d => { d with connectId := (d.connectId + 1).bmod (2 ^ 32) }
  let m := m.setActive .inactive true
  let m :=
    if m.data.deActiveApnTypeId = errorApnId then m
    else
      let m := m.modifyLink fun l =>
        { l with netSupplierInfo := { l.netSupplierInfo with isAvailable := false } }
      (m.emit (.disconnectDataComplete m.disconnectInfo)).modifyData fun d =>
        { d with deActiveApnTypeId := errorApnId, resultInfo := none }
  m.setCurrentState .inactive

def refreshTcpBufferSizes : CellularDataStateMachine :=
  m.modifyLink fun l => { l with tcpBuffer := env.tcpBufferByRadioTech env.psRadioTech }

def setConnectionBandwidth (upBandwidth downBandwidth : Nat) : CellularDataStateMachine :=
  m.modifyLink fun l => { l with upBandwidth, downBandwidth }

def refreshConnectionBandwidths : CellularDataStateMachine :=
  m.setConnectionBandwidth (env.bandwidthsByRadioTech env.psRadioTech).1
    (env.bandwidthsByRadioTech env.psRadioTech).2

def activeBegin : CellularDataStateMachine :=
  ((m.setActive .active true).refreshTcpBufferSizes env).refreshConnectionBandwidths env
    |>.setCurrentState .active

def stateBegin : ConnState → CellularDataStateMachine → CellularDataStateMachine
  | .default_, m => m.setActive .default_ true
  | .inactive, m => m.inactiveBegin
  | .activating, m => (m.setActive .activating true).setCurrentState .activating
  | .active, m => m.activeBegin env
  | .disconnecting, m => (m.setActive .disconnecting true).setCurrentState .disconnecting

/-- `Active` leaves its flag set. -/
def stateEnd : ConnState → CellularDataStateMachine → CellularDataStateMachine
  | .active, m => m
  | st, m => m.setActive st false

/-! Events -/

def defaultProcess : MachineEvent → CellularDataStateMachine → Bool × CellularDataStateMachine
  | .disconnect params, m => (true, m.deferEvent (.disconnect params))
  | .disconnectAll params, m => (true, m.deferEvent (.disconnectAll params))
  | .drsOrRatChanged, m =>
    let m := m.publishSupplier
    let m := if m.isActiveState || m.isActivatingState then m.publishLink else m
    (false, m.emit (.registerSlotType m.data.link.capability env.psRadioTech))
  | .updateNetworkInfo, m => (true, m.updateNetworkInfo env)
  | _, m => (false, m)

def inactiveProcess : MachineEvent → CellularDataStateMachine → Bool × CellularDataStateMachine
  | .connect params, m => (true, (m.doConnect env params).transitionTo .activating)
  | .disconnect _, m => (true, m)
  | .disconnectAll _, m => (true, m)
  | _, m => (false, m)

def rilErrorResponse (rilInfo : RadioResponseInfo) : Bool × CellularDataStateMachine :=
  if m.data.connectId ≠ rilInfo.flag then (false, m)
  else
    let m :=
      if rilInfo.error = .setChdataFail then
        if maxErrSetChdataCnt ≤ m.data.rilSetChdataErrCnt + 1 then
          (m.modifyData fun d => { d with rilSetChdataErrCnt := 0 }).emit .restartRadio
        else m.modifyData fun d => { d with rilSetChdataErrCnt := d.rilSetChdataErrCnt + 1 }
      else m
    (true, ((m.setPdpErrorReason .retry).setDeActiveApnTypeId m.data.apnId).transitionTo .inactive)

def rilActivatePdpContextDone : SetupAnswer → Bool × CellularDataStateMachine
  | .resultInfo info =>
    let m := m.modifyData fun d => { d with rilSetChdataErrCnt := 0 }
    if m.data.connectId ≠ info.flag then (false, m)
    else
      let m := m.setCid info.cid
      if info.reason ≠ .none_ ∨ info.active = 0 then
        (true, ((m.setDataCallResultInfo { info with retryScene := .setupData }).setDeActiveApnTypeId
          m.data.apnId).transitionTo .inactive)
      else
        (true, ((m.emit (.addActiveConnectionByCid info.cid)).deferEvent
          (.setupDataCall (.resultInfo info))).transitionTo .active)
  | .rilInfo info => m.rilErrorResponse info
  | .empty => (false, m)

def processConnectTimeout (connectId : Int) : CellularDataStateMachine :=
  if connectId ≠ m.data.connectId then m
  else if env.currentTime - m.data.startTimeConnectTimeoutTask < connectionTaskTime then m
  else ((m.setDeActiveApnTypeId m.data.apnId).setPdpErrorReason .retry).transitionTo .inactive

def activatingProcess : MachineEvent → CellularDataStateMachine → Bool × CellularDataStateMachine
  | .drsOrRatChanged, m => (true, m.deferEvent .drsOrRatChanged)
  | .connect params, m => (true, m.deferEvent (.connect params))
  | .setupDataCall answer, m => m.rilActivatePdpContextDone answer
  | .getLastFailDone, m => (true, m.transitionTo .inactive)
  | .getRilBandwidth, m => (false, m.deferEvent .getRilBandwidth)
  | .connectTimeoutCheck connectId, m => (true, m.processConnectTimeout env connectId)
  | _, m => (false, m)

def activeDisconnect (params : DataDisconnectParams) : CellularDataStateMachine :=
  ((m.clearReuse.setPdpErrorReason (disconnReasonPdpError params.reason)).freeConnection
    params).transitionTo .disconnecting

def processLostConnection (info : SetupDataCallResultInfo) : CellularDataStateMachine :=
  ((m.clearReuse.setDeActiveApnTypeId m.data.apnId).setDataCallResultInfo info).transitionTo .inactive

/-- The answer is taken without a look at its flag or its result. -/
def processDataConnectionComplete (info : SetupDataCallResultInfo) : CellularDataStateMachine :=
  let info := { info with flag := m.data.apnId }
  (m.removeEvent isConnectTimeoutCheck).emit (.establishDataConnectionComplete info)

def processLinkCapabilityChanged (upBandwidth downBandwidth : Nat) : CellularDataStateMachine :=
  let m :=
    if upBandwidth = 0 ∨ downBandwidth = 0 then m.refreshConnectionBandwidths env
    else m.setConnectionBandwidth upBandwidth downBandwidth
  m.updateNetworkInfo env

def activeProcess : MachineEvent → CellularDataStateMachine → Bool × CellularDataStateMachine
  | .connect _, m => (true, m)
  | .disconnect params, m => (true, m.activeDisconnect params)
  | .disconnectAll params, m => (true, m.activeDisconnect params)
  | .lostConnection info, m => (true, m.processLostConnection info)
  | .rilAdapterHostDied info, m => (true, m.processLostConnection info)
  | .linkCapabilityChanged up down, m => (true, m.processLinkCapabilityChanged env up down)
  | .dataRoamOn, m => (true, m.publishSupplier)
  | .dataRoamOff, m => (true, m.publishSupplier)
  | .voiceCallStarted, m => (true, m.publishSupplier)
  | .voiceCallEnded, m => (true, m.publishSupplier)
  | .nrStateChanged, m =>
    (true, ((m.refreshTcpBufferSizes env).refreshConnectionBandwidths env).updateNetworkInfo env)
  | .nrFrequencyChanged, m => (true, (m.refreshConnectionBandwidths env).updateNetworkInfo env)
  | .setupDataCall (.resultInfo info), m => (true, m.processDataConnectionComplete info)
  | _, m => (false, m)

/-- The call is over, with the result recorded when the disconnection was requested. -/
def endCall : CellularDataStateMachine :=
  (m.setDeActiveApnTypeId m.data.apnId).transitionTo .inactive

def processDisconnectTimeout (connectId : Int) : CellularDataStateMachine :=
  if connectId ≠ m.data.connectId then m else (m.setPdpErrorReason .retry).endCall

def processRilDeactivateDataCall : Option RadioResponseInfo → CellularDataStateMachine
  | none => (m.removeEvent isDisconnectTimeoutCheck).endCall
  | some rilInfo =>
    if m.data.connectId ≠ rilInfo.flag then m
    else (m.removeEvent isDisconnectTimeoutCheck).endCall

def disconnectingProcess : MachineEvent → CellularDataStateMachine → Bool × CellularDataStateMachine
  | .connect params, m => (true, m.deferEvent (.connect params))
  | .deactivateDataCall rilInfo, m => (true, m.processRilDeactivateDataCall rilInfo)
  | .disconnectTimeoutCheck connectId, m => (true, m.processDisconnectTimeout connectId)
  | .rilAdapterHostDied _, m => (true, (m.setPdpErrorReason .retry).endCall)
  | _, m => (false, m)

def stateProcess :
    ConnState → MachineEvent → CellularDataStateMachine → Bool × CellularDataStateMachine
  | .default_ => defaultProcess env
  | .inactive => inactiveProcess env
  | .activating => activatingProcess env
  | .active => activeProcess env
  | .disconnecting => disconnectingProcess

def states : States ConnState MachineEvent MachineData where
  ancestors st := if st = .default_ then [] else [.default_]
  stateBegin := stateBegin env
  stateEnd := stateEnd
  stateProcess := stateProcess env
  isInit e := e = .stateMachineInit
  isQuit e := e = .stateMachineQuit

/-! The machine -/

/-- `Init`: the first event enters the inactive state. -/
def create : CellularDataStateMachine where
  originalState := some .inactive
  queue := { immediate := [.stateMachineInit] }
  data := {}

def process (e : MachineEvent) : CellularDataStateMachine := m.processEvent (states env) e

/-- The machine's event loop processes its next event. -/
def dispatch : Option (MachineEvent × CellularDataStateMachine) :=
  EventHandler.dispatch m (states env)

def post (e : MachineEvent) : CellularDataStateMachine := EventHandler.sendEvent m e

/-- A timer expires. -/
def fire (i : Nat) : Option CellularDataStateMachine :=
  (m.queue.expire i).map fun q => { m with queue := q }

/-- What the step has sent is taken over by its receivers. -/
def clearOutbox : CellularDataStateMachine := m.modifyData fun d => { d with outbox := [] }

end CellularDataStateMachine
end CellularData
