import CellularData.Slot.Switches

/-! The in-call machine: mobile data moves to the secondary card during a call on it. -/
namespace CellularData
open StateMachine

abbrev invalidSlotId : Int := -1
abbrev cellDataSlotId0 : Int := 0
abbrev cellDataSlotId1 : Int := 1
abbrev dsdsModeV3 : Int := 1

inductive IncallState
  | idle | secondaryActive | activatingSecondary | activatedSecondary | deactivatingSecondary
deriving DecidableEq, Repr

/-- `Init` makes new state objects; those of another generation are other objects. -/
structure StateObject where
  generation : Nat
  state : IncallState
deriving DecidableEq, Repr

inductive IncallMachineEvent
  | stateMachineInit
  | callStarted
  | callEnded
  | dataConnected
  | dataDisconnected
  | settingsOn
  | settingsOff
  | dsdsChanged
deriving DecidableEq, Repr

/-- What the machine sends to the handler and to the core service. -/
inductive IncallOutput
  | incallDataComplete
  | setDefaultCellularDataSlotId (slotId : Int)
deriving DecidableEq, Repr

/-- What a step of the machine reads from outside, with what the APN manager answers.
`isWcdmaOrLte` is WCDMA, HSPA, HSPAP, LTE and LTE_CA. -/
structure IncallEnv extends Env where
  intelligenceNetwork : TelephonyError × Option Int := (.databaseReadEmpty, none)
  hasAnyConnectedState : Bool := false
  isWcdmaOrLte : RadioTech → Bool := fun _ => false

/-- Members of the machine. `objects` is the generation of its state objects, `none` when they are
null, `generation` the last one made and `outbox` what the current step has sent. -/
structure IncallData where
  generation : Nat := 0
  objects : Option Nat := none
  currentState : Option StateObject := none
  cellularDataHandler : Bool := false
  apnManager : Bool := false
  slotId : Int := invalidSlotId
  callState : TelCallStatus := .idle
  outbox : List IncallOutput := []

abbrev IncallDataStateMachine := EventHandler StateObject IncallMachineEvent IncallData

namespace IncallDataStateMachine

variable (env : IncallEnv) (m : IncallDataStateMachine)

abbrev modifyData (f : IncallData → IncallData) : IncallDataStateMachine :=
  EventHandler.modifyData m f

abbrev setActive (st : StateObject) (b : Bool) : IncallDataStateMachine :=
  EventHandler.setActive m st b

def emit (o : IncallOutput) : IncallDataStateMachine :=
  m.modifyData fun d => { d with outbox := d.outbox ++ [o] }

def setCurrentState (st : StateObject) : IncallDataStateMachine :=
  m.modifyData fun d => { d with currentState := some st }

/-- A null destination is not recorded. -/
def transitionTo (st : IncallState) : IncallDataStateMachine :=
  match m.data.objects with
  | some generation => EventHandler.transitionTo m ⟨generation, st⟩
  | none => m

/-- Nothing is sent after the handler has been reset. -/
def sendIncallDataComplete : IncallDataStateMachine :=
  if m.data.cellularDataHandler then m.emit .incallDataComplete else m

def updateCallState (state : TelCallStatus) : IncallDataStateMachine :=
  m.modifyData fun d => { d with callState := state }

def isCallOver : Bool := m.data.callState = .idle || m.data.callState = .disconnected

/-! Checks -/

def getTargetDataSlotId (defSlotId : Int) : Int :=
  if m.data.slotId = cellDataSlotId3 ∧ env.tstsModeEnabled then
    if defSlotId = cellDataSlotId1 then cellDataSlotId0 else cellDataSlotId1
  else m.data.slotId

def hasAnyConnectedState : Bool := m.data.apnManager && env.hasAnyConnectedState

def isIncallDataSwitchOn : Bool :=
  if env.intelligenceNetwork.1 ≠ .success then false
  else if (env.getValue .intelligenceSwitch).1 ≠ .success then false
  else env.intelligenceNetwork.2.getD 0 = 1 && (env.getValue .intelligenceSwitch).2.getD 0 = 1

def canActiveDataByRadioTech : Bool :=
  env.isWcdmaOrLte env.psRadioTech || env.psRadioTech = .nr

def isSecondaryCanActiveData : Bool :=
  if dsdsModeV3 ≤
      Slot.getDsdsModeForSlots env.toEnv env.primarySlotId m.data.slotId env.dsdsMode then false
  else if env.primarySlotId = invalidSlotId ∨ env.primarySlotId = m.data.slotId then false
  else if !env.hasSimCard env.primarySlotId then false
  else if !env.imsRegistered then false
  else if m.isCallOver then false
  else canActiveDataByRadioTech env

/-! Entry and exit -/

def idleBegin (st : StateObject) : IncallDataStateMachine :=
  let m := (m.setActive st true).setCurrentState st
  if m.isCallOver then m.sendIncallDataComplete else m

/-- The second check may ask for the transition again. -/
def deactivatingBegin (st : StateObject) : IncallDataStateMachine :=
  let m := (m.setActive st true).setCurrentState st
  let m :=
    if env.defaultCellularDataSlotId ≠ env.primarySlotId then
      m.emit (.setDefaultCellularDataSlotId env.primarySlotId)
    else m.transitionTo .idle
  if !m.hasAnyConnectedState env then m.transitionTo .idle else m

def stateBegin (st : StateObject) : IncallDataStateMachine :=
  match st.state with
  | .idle => m.idleBegin st
  | .secondaryActive => m.setActive st true
  | .activatingSecondary => (m.setActive st true).setCurrentState st
  | .activatedSecondary => (m.setActive st true).setCurrentState st
  | .deactivatingSecondary => m.deactivatingBegin env st

/-! Events -/

/-- The step that the three events which can start the switch share. -/
def activateSecondary : IncallDataStateMachine :=
  if isIncallDataSwitchOn env && m.isSecondaryCanActiveData env then
    let targetSlotId := m.getTargetDataSlotId env env.defaultCellularDataSlotId
    if env.defaultCellularDataSlotId ≠ targetSlotId then
      (m.transitionTo .activatingSecondary).emit (.setDefaultCellularDataSlotId targetSlotId)
    else m
  else m

def idleProcessCallStarted : IncallDataStateMachine := m.activateSecondary env

def idleProcessSettingsOn : IncallDataStateMachine := m.activateSecondary env

def idleProcessDsdsChanged : IncallDataStateMachine := m.activateSecondary env

def isDsdsChanged : IncallMachineEvent → Bool
  | .dsdsChanged => true
  | _ => false

def idleProcessCallEnded : IncallDataStateMachine :=
  let m : IncallDataStateMachine :=
    if m.queue.hasInnerEvent isDsdsChanged then m.removeEvent isDsdsChanged else m
  m.sendIncallDataComplete

def idleProcess : IncallMachineEvent → Bool × IncallDataStateMachine
  | .callStarted => (true, m.idleProcessCallStarted env)
  | .callEnded => (true, m.idleProcessCallEnded)
  | .settingsOn => (true, m.idleProcessSettingsOn env)
  | .dsdsChanged => (true, m.idleProcessDsdsChanged env)
  | _ => (false, m)

/-- The step that the two events which can end the switch share. -/
def deactivateSecondary : IncallDataStateMachine :=
  if env.defaultCellularDataSlotId ≠ env.primarySlotId then m.transitionTo .deactivatingSecondary
  else m.transitionTo .idle

def secondaryActiveProcessCallEnded : IncallDataStateMachine :=
  if m.isCallOver then m.deactivateSecondary env else m

def secondaryActiveProcessSettingsOff : IncallDataStateMachine :=
  if !isIncallDataSwitchOn env then m.deactivateSecondary env else m

def secondaryActiveProcess : IncallMachineEvent → Bool × IncallDataStateMachine
  | .settingsOn => (true, m)
  | .callEnded => (true, m.secondaryActiveProcessCallEnded env)
  | .settingsOff => (true, m.secondaryActiveProcessSettingsOff env)
  | .dsdsChanged => (true, m)
  | _ => (false, m)

def activatingSecondaryProcess : IncallMachineEvent → Bool × IncallDataStateMachine
  | .dataConnected => (true, m.transitionTo .activatedSecondary)
  | _ => (false, m)

def deactivatingSecondaryProcess : IncallMachineEvent → Bool × IncallDataStateMachine
  | .dataDisconnected =>
    (true, if m.data.slotId ≠ env.primarySlotId then m.transitionTo .idle else m)
  | .settingsOn => (true, m)
  | _ => (false, m)

def stateProcess (st : StateObject) (e : IncallMachineEvent) : Bool × IncallDataStateMachine :=
  match st.state with
  | .idle => m.idleProcess env e
  | .secondaryActive => m.secondaryActiveProcess env e
  | .activatingSecondary => m.activatingSecondaryProcess e
  | .activatedSecondary => (false, m)
  | .deactivatingSecondary => m.deactivatingSecondaryProcess env e

/-- Nothing stops the machine. -/
def states : States StateObject IncallMachineEvent IncallData where
  ancestors st :=
    match st.state with
    | .activatingSecondary | .activatedSecondary => [⟨st.generation, .secondaryActive⟩]
    | _ => []
  stateBegin st m := stateBegin env m st
  stateEnd st m := m.setActive st false
  stateProcess st e m := stateProcess env m st e
  isInit e := e = .stateMachineInit
  isQuit _ := false

def process (e : IncallMachineEvent) : IncallDataStateMachine :=
  EventHandler.processEvent m (states env) e

def dispatch : Option (IncallMachineEvent × IncallDataStateMachine) :=
  EventHandler.dispatch m (states env)

/-! `Init` and `DeInit` -/

def create : IncallDataStateMachine := { data := {} }

/-- The state that the event handler is in is kept, and so is the record of the current state. -/
def init (callState : TelCallStatus) (slotId : Int) : IncallDataStateMachine :=
  { m with
    originalState := some ⟨m.data.generation + 1, .idle⟩
    queue := m.queue.sendImmediateEvent .stateMachineInit
    data := { m.data with
      generation := m.data.generation + 1
      objects := some (m.data.generation + 1)
      cellularDataHandler := true
      apnManager := true
      slotId
      callState } }

def deInit : IncallDataStateMachine :=
  m.modifyData fun d => { d with
    objects := none
    currentState := none
    cellularDataHandler := false
    apnManager := false
    slotId := invalidSlotId
    callState := .idle }

end IncallDataStateMachine
end CellularData
