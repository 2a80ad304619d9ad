import CellularData.Apn.Constants
import CellularData.Lib.TransitionSystem

/-! The connection monitor of a slot: traffic statistics, stall detection and data recovery. -/
namespace CellularData

inductive RecoveryState
  | requestContextList | cleanupConnections | reregisterNetwork | radioStatusRestart
deriving DecidableEq, Repr

inductive CellDataFlowType
  | none_ | down | up | upDown | dormant
deriving DecidableEq, Repr

/-- Events of the monitor. `setPreferredNetworkMode` is the answer to the setting of the mode and
`getPreferredNetworkMode` carries the mode that was read, unless the answer is empty. -/
inductive MonitorEvent
  | runMonitorTask
  | stallDetection
  | dataCallListChanged
  | getPreferredNetworkMode (networkType : Option Int)
  | setPreferredNetworkMode
  | radioOff
  | radioOn
deriving DecidableEq, Repr

/-- What the monitor asks of the core service and tells the observers. -/
inductive MonitorOutput
  | getPdpContextList
  | clearAllConnections (reason : DisConnectionReason)
  | getPreferredNetworkPara
  | setPreferredNetworkPara (networkType : Int)
  | setRadioState (radioOn : Bool)
  | onUpDataFlowtype (dataFlowType : CellDataFlowType)
deriving DecidableEq, Repr

/-- Requests of the connection manager about stall detection. -/
inductive StallRequest
  | start | stop
deriving DecidableEq, Repr

/-- Packets of the interface of the default data call, as counted last. -/
structure TrafficManagement where
  sendPackets : Int := 0
  recvPackets : Int := 0
deriving DecidableEq, Repr

/-- What a step of the monitor reads from outside. `ifacePackets` is absent without an interface.
`clearAllConnectionsReached` holds when the service is permitted, has a controller of the slot and
no deactivation after a handover fails; `userDataOn` is the switch that the handler reads then. -/
structure MonitorEnv where
  defaultCellularDataSlotId : Int := 0
  isVsimEnabled : Bool := false
  ifacePackets : Option TrafficManagement := none
  dataConnected : Bool := true
  clearAllConnectionsReached : Bool := true
  userDataOn : Bool := true
  reRegisterNetworkProcessed : Bool := false

/-- `events` are the events sent and not yet handled, with their delays; they have different
priorities, so they are in no order. `stallRequest` records the last request of the connection
manager. -/
structure DataConnectionMonitor where
  slotId : Int
  trafficManager : TrafficManagement := {}
  stallDetectionTrafficManager : TrafficManagement := {}
  updateNetStat : Bool := false
  stallDetectionEnabled : Bool := false
  isScreenOn : Bool := false
  noRecvPackets : Int := 0
  dataRecoveryState : RecoveryState := .requestContextList
  dataFlowType : CellDataFlowType := .none_
  callState : TelCallStatus := .idle
  events : List (MonitorEvent × Int) := []
  outputs : List MonitorOutput := []
  stallRequest : Option StallRequest := none
deriving DecidableEq, Repr

abbrev dataStallAlarmAggressiveDelay : Int := 10000
abbrev dataStallAlarmNonAggressiveDelay : Int := 600000
abbrev defaultNetStatisticsPeriod : Int := 3000
abbrev recoveryTriggerPacket : Int := 10

def TrafficManagement.updatePacketData (env : MonitorEnv) (t : TrafficManagement) :
    TrafficManagement :=
  env.ifacePackets.getD t

namespace DataConnectionMonitor

variable (env : MonitorEnv) (m : DataConnectionMonitor)

def hasInnerEvent (e : MonitorEvent) : Bool := m.events.any fun p => p.1 = e

def sendEvent (e : MonitorEvent) (delay : Int) : DataConnectionMonitor :=
  { m with events := m.events ++ [(e, delay)] }

def removeEvent (e : MonitorEvent) : DataConnectionMonitor :=
  { m with events := m.events.filter fun p => p.1 ≠ e }

def emit (o : MonitorOutput) : DataConnectionMonitor := { m with outputs := m.outputs ++ [o] }

/-! Statistics -/

def setDataFlowType (dataFlowType : CellDataFlowType) : DataConnectionMonitor :=
  if m.dataFlowType ≠ dataFlowType then
    { m with dataFlowType }.emit (.onUpDataFlowtype dataFlowType)
  else m

def flowTypeOf (previous current : TrafficManagement) : CellDataFlowType :=
  let sentPackets := current.sendPackets - previous.sendPackets
  let recvPackets := current.recvPackets - previous.recvPackets
  if 0 < sentPackets ∧ recvPackets = 0 then .up
  else if sentPackets = 0 ∧ 0 < recvPackets then .down
  else if 0 < sentPackets ∧ 0 < recvPackets then .upDown
  else .none_

/-- The first packets counted do not change the type. -/
def updateDataFlowType : DataConnectionMonitor :=
  let previous := m.trafficManager
  let current := previous.updatePacketData env
  let m := { m with trafficManager := current }
  if previous.sendPackets ≠ 0 ∨ previous.recvPackets ≠ 0 then
    m.setDataFlowType (flowTypeOf previous current)
  else m

def updateNetTrafficState : DataConnectionMonitor :=
  if !m.hasInnerEvent .runMonitorTask && m.updateNetStat then
    (m.updateDataFlowType env).sendEvent .runMonitorTask defaultNetStatisticsPeriod
  else m

def beginNetStatistics : DataConnectionMonitor :=
  { m with updateNetStat := true }.updateNetTrafficState env

def endNetStatistics : DataConnectionMonitor :=
  let m := { m.removeEvent .runMonitorTask with updateNetStat := false }
  m.setDataFlowType .none_

def updateCallState (state : TelCallStatus) : DataConnectionMonitor := { m with callState := state }

/-! Stall detection -/

def isAggressiveRecovery : Bool :=
  m.dataRecoveryState = .cleanupConnections || m.dataRecoveryState = .reregisterNetwork ||
    m.dataRecoveryState = .radioStatusRestart

def getStallDetectionPeriod : Int :=
  if m.isScreenOn || m.isAggressiveRecovery then dataStallAlarmAggressiveDelay
  else dataStallAlarmNonAggressiveDelay

def startStallDetectionTimer : DataConnectionMonitor :=
  let m := { m with stallDetectionEnabled := true }
  if !m.hasInnerEvent .stallDetection then m.sendEvent .stallDetection m.getStallDetectionPeriod
  else m

def stopStallDetectionTimer : DataConnectionMonitor :=
  { m with stallDetectionEnabled := false }.removeEvent .stallDetection

/-- The end of a detection and of a recovery: polling goes on while it is enabled. -/
def continueStallDetection : DataConnectionMonitor :=
  if !m.hasInnerEvent .stallDetection && m.stallDetectionEnabled then
    m.sendEvent .stallDetection m.getStallDetectionPeriod
  else m

/-- The connection manager asks for stall detection to begin or to end. -/
def request : StallRequest → DataConnectionMonitor
  | .start => { m with stallRequest := some .start }.startStallDetectionTimer
  | .stop => { m with stallRequest := some .stop }.stopStallDetectionTimer

/-- `ClearAllConnections` of the service reaches the handler, which has the connection manager stop
this monitor. -/
def clearAllConnections (reason : DisConnectionReason) : DataConnectionMonitor :=
  let m := m.emit (.clearAllConnections reason)
  if env.clearAllConnectionsReached then
    let m := (m.request .stop).endNetStatistics
    if env.userDataOn then m else m.setDataFlowType .none_
  else m

def reregisterNetwork : DataConnectionMonitor :=
  if env.reRegisterNetworkProcessed then m else m.emit .getPreferredNetworkPara

def updateFlowInfo : DataConnectionMonitor :=
  let previous := m.stallDetectionTrafficManager
  let current := previous.updatePacketData env
  let sentPackets := current.sendPackets - previous.sendPackets
  let recvPackets := current.recvPackets - previous.recvPackets
  let m := { m with stallDetectionTrafficManager := current }
  if 0 < sentPackets ∧ recvPackets = 0 then
    { m with noRecvPackets := m.noRecvPackets + sentPackets }
  else if (0 < sentPackets ∧ 0 < recvPackets) ∨ (sentPackets = 0 ∧ 0 < recvPackets) then
    { m with noRecvPackets := 0, dataRecoveryState := .requestContextList }
  else m

def handleRecovery : DataConnectionMonitor :=
  if m.callState ≠ .idle ∧ m.callState ≠ .disconnected then
    { m with dataRecoveryState := .requestContextList }
  else
    match m.dataRecoveryState with
    | .requestContextList =>
      { m with dataRecoveryState := .cleanupConnections }.emit .getPdpContextList
    | .cleanupConnections =>
      { m with dataRecoveryState := .reregisterNetwork }.clearAllConnections env .retryConnection
    | .reregisterNetwork =>
      { m with dataRecoveryState := .radioStatusRestart }.reregisterNetwork env
    | .radioStatusRestart =>
      ({ m with dataRecoveryState := .requestContextList }.clearAllConnections env
        .retryConnection).emit (.setRadioState false)

def onStallDetectionTimer : DataConnectionMonitor :=
  let m := m.updateFlowInfo env
  let m :=
    if recoveryTriggerPacket < m.noRecvPackets ∨
        !env.dataConnected ∧ m.dataRecoveryState = .radioStatusRestart then
      { m.handleRecovery env with noRecvPackets := 0 }
    else m
  m.continueStallDetection

def isNeedDoRecovery (needDoRecovery : Bool) : DataConnectionMonitor :=
  let m :=
    if needDoRecovery then m.handleRecovery env
    else { m with dataRecoveryState := .requestContextList }
  m.continueStallDetection

def handleScreenStateChanged (isScreenOn : Bool) : DataConnectionMonitor :=
  if m.isScreenOn = isScreenOn then m
  else
    let m := { m with isScreenOn }
    if m.slotId ≠ env.defaultCellularDataSlotId ∧ !env.isVsimEnabled then m
    else m.stopStallDetectionTimer.startStallDetectionTimer

def setPreferredNetworkPara : Option Int → DataConnectionMonitor
  | none => m
  | some networkType => m.emit (.setPreferredNetworkPara networkType)

def processEvent : MonitorEvent → DataConnectionMonitor
  | .runMonitorTask => m.updateNetTrafficState env
  | .stallDetection => m.onStallDetectionTimer env
  | .getPreferredNetworkMode networkType => m.setPreferredNetworkPara networkType
  | .radioOff => m.emit (.setRadioState true)
  | .dataCallListChanged | .setPreferredNetworkMode | .radioOn => m

/-! Runs -/

/-- Calls of the connection manager, with the request it makes; `radio` is an answer of the core
service that arrives, and `deliver` hands over an event of the monitor. -/
inductive Label
  | request (r : StallRequest)
  | beginNetStatistics
  | endNetStatistics
  | updateCallState (state : TelCallStatus)
  | setDataFlowType (dataFlowType : CellDataFlowType)
  | screenStateChanged (isScreenOn : Bool)
  | isNeedDoRecovery (needDoRecovery : Bool)
  | radio (e : MonitorEvent)
  | deliver (i : Nat)
deriving DecidableEq, Repr

/-- The monitor alone sends itself the events of its timers. -/
def isTimer : MonitorEvent → Bool
  | .runMonitorTask | .stallDetection => true
  | _ => false

def step (l : MonitorEnv × Label) (m : DataConnectionMonitor) : Option DataConnectionMonitor :=
  match l.2 with
  | .request r => some (m.request r)
  | .beginNetStatistics => some (m.beginNetStatistics l.1)
  | .endNetStatistics => some m.endNetStatistics
  | .updateCallState state => some (m.updateCallState state)
  | .setDataFlowType dataFlowType => some (m.setDataFlowType dataFlowType)
  | .screenStateChanged isScreenOn => some (m.handleScreenStateChanged l.1 isScreenOn)
  | .isNeedDoRecovery needDoRecovery => some (m.isNeedDoRecovery l.1 needDoRecovery)
  | .radio e => if isTimer e then none else some (m.sendEvent e 0)
  | .deliver i =>
    m.events[i]?.map fun p => { m with events := m.events.eraseIdx i }.processEvent l.1 p.1

def system (slotId : Int) : Lib.TransitionSystem DataConnectionMonitor (MonitorEnv × Label) where
  init m := m = { slotId }
  step := step

end DataConnectionMonitor
end CellularData
