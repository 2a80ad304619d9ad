import CellularData.Machine.States

/-! The connection machine as a flat automaton: state, queues, identifiers and the messages that
other components wait for. The hierarchical machine refines it. -/
namespace CellularData
open Lib StateMachine

/-- Outputs on which the handler, the connection manager or the modem's calls depend. -/
def MachineOutput.isSignal : MachineOutput → Bool
  | .establishDataConnectionComplete _ | .disconnectDataComplete _ | .addActiveConnectionByCid _
  | .deactivatePdpContext _ => true
  | _ => false

/-- The part of a machine's state that its transitions depend on. -/
structure Control where
  state : Option ConnState := none
  queue : EventQueue MachineEvent := {}
  deferred : List MachineEvent := []
  cid : Int := 0
  apnId : Int := 0
  connectId : Int := 0
  startTime : Int := 0
  resultInfo : Option SetupDataCallResultInfo := none

namespace Control

variable (env : MachineEnv) (c : Control)

def moveTo (st : ConnState) : Control :=
  { c with
    state := some st
    queue := c.queue.sendImmediateEvents c.deferred
    deferred := [] }

def nextConnectId (id : Int) : Int := (id + 1).bmod (2 ^ 32)

def disconnectInfo : SetupDataCallResultInfo :=
  match c.resultInfo with
  | some info => { cid := c.cid, flag := c.apnId, active := 0,
                   reason := info.reason, retryTime := info.retryTime, retryScene := info.retryScene }
  | none => { cid := c.cid, flag := c.apnId, active := 0 }

/-- The attempt or the call is over and the handler is told so. -/
def endCall : Control × List MachineOutput :=
  ({ c.moveTo .inactive with connectId := nextConnectId c.connectId, resultInfo := none },
    [.disconnectDataComplete c.disconnectInfo])

def endWith (reason : PdpErrorReason) : Control × List MachineOutput :=
  { c with resultInfo := some { reason } }.endCall

def boot : Control :=
  { c with state := some .inactive, connectId := nextConnectId c.connectId }

def defer (e : MachineEvent) : Control := { c with deferred := c.deferred ++ [e] }

def connect (params : DataConnectionParams) : Control :=
  let c := { c with apnId := params.apnHolder.id }
  match env.currentApn params.apnHolder with
  | none => c.moveTo .activating
  | some _ =>
    { c with
      startTime := env.currentTime
      queue := c.queue.sendEventAfter (.connectTimeoutCheck c.connectId)
        connectionTimeout }.moveTo .activating

def setupSucceeds (info : SetupDataCallResultInfo) : Bool :=
  info.reason = .none_ && info.active ≠ 0

def setupAnswer : SetupAnswer → Control × List MachineOutput
  | .resultInfo info =>
    if c.connectId ≠ info.flag then (c, [])
    else if setupSucceeds info then
      (({ c with cid := info.cid }.defer (.setupDataCall (.resultInfo info))).moveTo .active,
        [.addActiveConnectionByCid info.cid])
    else { c with cid := info.cid, resultInfo := some { info with retryScene := .setupData } }.endCall
  | .rilInfo info => if c.connectId ≠ info.flag then (c, []) else c.endWith .retry
  | .empty => (c, [])

def connectTimeout (connectId : Int) : Control × List MachineOutput :=
  if connectId ≠ c.connectId then (c, [])
  else if env.currentTime - c.startTime < connectionTaskTime then (c, [])
  else c.endWith .retry

def disconnect (params : DataDisconnectParams) : Control × List MachineOutput :=
  ({ c with
      resultInfo := some { reason := disconnReasonPdpError params.reason }
      queue := c.queue.sendEventAfter (.disconnectTimeoutCheck c.connectId)
        disconnectionTimeout }.moveTo .disconnecting,
    [.deactivatePdpContext { param := c.connectId, cid := c.cid, reason := params.reason }])

def complete (info : SetupDataCallResultInfo) : Control × List MachineOutput :=
  ({ c with queue := c.queue.removeEvent CellularDataStateMachine.isConnectTimeoutCheck },
    [.establishDataConnectionComplete { info with flag := c.apnId }])

def release : Control × List MachineOutput :=
  { c with
    queue := c.queue.removeEvent CellularDataStateMachine.isDisconnectTimeoutCheck }.endCall

def processActivating : MachineEvent → Control × List MachineOutput
  | .connect params => (c.defer (.connect params), [])
  | .disconnect params => (c.defer (.disconnect params), [])
  | .disconnectAll params => (c.defer (.disconnectAll params), [])
  | .drsOrRatChanged => (c.defer .drsOrRatChanged, [])
  | .getRilBandwidth => (c.defer .getRilBandwidth, [])
  | .setupDataCall answer => c.setupAnswer answer
  | .connectTimeoutCheck connectId => c.connectTimeout env connectId
  | .getLastFailDone =>
    ({ c.moveTo .inactive with connectId := nextConnectId c.connectId }, [])
  | _ => (c, [])

def processActive : MachineEvent → Control × List MachineOutput
  | .disconnect params => c.disconnect params
  | .disconnectAll params => c.disconnect params
  | .lostConnection info => { c with resultInfo := some info }.endCall
  | .rilAdapterHostDied info => { c with resultInfo := some info }.endCall
  | .setupDataCall (.resultInfo info) => c.complete info
  | _ => (c, [])

def processDisconnecting : MachineEvent → Control × List MachineOutput
  | .connect params => (c.defer (.connect params), [])
  | .disconnect params => (c.defer (.disconnect params), [])
  | .disconnectAll params => (c.defer (.disconnectAll params), [])
  | .deactivateDataCall none => c.release
  | .deactivateDataCall (some rilInfo) =>
    if c.connectId ≠ rilInfo.flag then (c, []) else c.release
  | .disconnectTimeoutCheck connectId =>
    if connectId ≠ c.connectId then (c, []) else c.endWith .retry
  | .rilAdapterHostDied _ => c.endWith .retry
  | _ => (c, [])

def process (e : MachineEvent) : Control × List MachineOutput :=
  match c.state with
  | none => if e = .stateMachineInit then (c.boot, []) else (c, [])
  | some .inactive =>
    match e with
    | .connect params => (c.connect env params, [])
    | _ => (c, [])
  | some .activating => c.processActivating env e
  | some .active => c.processActive e
  | some .disconnecting => c.processDisconnecting e
  | some .default_ => (c, [])

/-- The next event is taken and processed. -/
def dispatch : Option (MachineEvent × Control × List MachineOutput) :=
  match c.queue.next with
  | some (e, queue) => some (e, { c with queue }.process env e)
  | none => none

end Control

namespace CellularDataStateMachine

variable {env : MachineEnv} {m : CellularDataStateMachine} {e : MachineEvent}

def control (m : CellularDataStateMachine) : Control where
  state := m.curState
  queue := m.queue
  deferred := m.deferEvents
  cid := m.data.cid
  apnId := m.data.apnId
  connectId := m.data.connectId
  startTime := m.data.startTimeConnectTimeoutTask
  resultInfo := m.data.resultInfo

def signals (m : CellularDataStateMachine) : List MachineOutput :=
  m.data.outbox.filter MachineOutput.isSignal

/-- What holds of a machine between two steps. -/
structure Settled (m : CellularDataStateMachine) : Prop where
  originalState : m.originalState = some .inactive
  destState : m.destState = m.curState
  currentState : m.data.currentState = m.curState
  notQuit : m.isQuit = false
  leaf : m.curState ≠ some .default_
  apnId : m.data.apnId ≠ errorApnId
  deActiveApnTypeId : m.data.deActiveApnTypeId = errorApnId
  outbox : m.data.outbox = []

theorem create_settled : create.Settled := by
  constructor <;> first | rfl | simp [create, errorApnId]

end CellularDataStateMachine
end CellularData
