import CellularData.Agent.Model
import CellularData.Slot.DataState
import CellularData.Slot.ReportDelivery
import CellularData.Text.Address

/-! The service: calls of other processes and of the net manager on their way through the controllers
to the handlers of the slots. -/
namespace CellularData
open Lib

inductive Permission
  | getTelephonyState | setTelephonyState | getNetworkInfo
deriving DecidableEq, Repr

structure Caller where
  isSystemApp : Bool := true
  permissions : List Permission := [.getTelephonyState, .setTelephonyState, .getNetworkInfo]

/-- What a call of the service reads outside of the device. -/
structure CallEnv where
  slot : Int → Env := fun _ => {}
  caller : Caller := {}
  defaultCellularDataSlotId : Int := 0
  dataPolicy : String := ""
  hasSimCard : Int → Bool := fun _ => true
  isSimActive : Int → Bool := fun _ => true
  isVSimEnabled : Bool := false
  powerSaveMode : Bool := false
  simSlotCount : Nat := 2
  /-- SIM id of the account in a slot. -/
  simAccount : Int → Option Int := fun _ => none

/-- `dataRespond` and `requestNet` are the codes of `DataRespondCode` and `RequestNetCode`;
`handlerError` stands for the error of a query that failed. -/
inductive ServiceCode
  | success | handlerError | illegalUseOfSystemApi | permissionErr | localPtrNull | slotIdInvalid
  | policyDisabled | noSimCard | fail | invalidParam
  | setting (result : TelephonyError)
  | dataRespond (success : Bool)
  | requestNet (success : Bool)
deriving DecidableEq, Repr

inductive ServiceValue
  | flag (on : Bool)
  | dataState (state : DataConnectionStatus)
  | apnState (state : ApnProfileState)
  | apn (attr : Attribute)
  | ipType (ipType : String)
  | number (n : Int)
deriving DecidableEq, Repr

structure ServiceReply where
  code : ServiceCode
  value : Option ServiceValue := none
deriving DecidableEq, Repr

abbrev defaultSimSlotId : Int := 0

/-- A string of the net manager, as the list of its bytes. -/
def identPrefix : List Char := ['s', 'i', 'm', 'I', 'd']

/-- An order that the handler of one slot gives another to switch its internal data. -/
structure SwitchOrder where
  giver : Int
  receiver : Int
  enable : Bool
deriving DecidableEq, Repr

/-- The service with its controllers and the agent of the net manager. `orderLog` records history for
the statements about it, the last order first; nothing reads it. A handler that switches its own slot
on, which `HandleDsdsModeChanged` does, gives no order. -/
structure Device where
  service : CellularDataService
  netAgent : CellularDataNetAgent := {}
  orderLog : List SwitchOrder := []

namespace Device

variable (e : CallEnv) (slotId : Int) (d : Device)

def handler : Option Slot := d.service.handler slotId

def setHandler (s : Slot) : Device :=
  { d with service := d.service.setController slotId { cellularDataHandler := some s } }

/-- What a slot has asked of other components between two states, the first request first. -/
def newEffects (before after : Slot) : List Effect :=
  (after.effects.take (after.effects.length - before.effects.length)).reverse

/-- `ChangeConnectionForDsds`. -/
def changeConnectionForDsds (slotId : Int) (enable : Bool) (d : Device) : Device × ServiceReply :=
  match d.service.getCellularDataController slotId with
  | none => (d, { code := .invalidParam })
  | some c =>
    match c.cellularDataHandler with
    | none => (d, { code := .requestNet false })
    | some s =>
      (d.setHandler slotId (s.changeConnectionForDsds (e.slot slotId) enable),
        { code := .requestNet true })

/-- A handler orders this of another slot in the middle of its own work; the other slot gives no
orders on that account. -/
def deliver (giver : Int) (d : Device) : Effect → Device
  | .changeConnectionForDsds slotId enable =>
    let d := (changeConnectionForDsds e slotId enable d).1
    { d with orderLog := { giver, receiver := slotId, enable } :: d.orderLog }
  | _ => d

/-- The handler of the slot goes from one state to another. -/
def settle (before after : Slot) : Device :=
  (newEffects before after).foldl (deliver e slotId) (d.setHandler slotId after)

/-- The checks with which most calls begin. -/
def checked (systemApi : Bool) (p : Permission) (call : Device × ServiceReply) :
    Device × ServiceReply :=
  if systemApi && !e.caller.isSystemApp then (d, { code := .illegalUseOfSystemApi })
  else if p ∉ e.caller.permissions then (d, { code := .permissionErr })
  else call

def withController (missing : ServiceCode) (call : CellularDataController → Device × ServiceReply) :
    Device × ServiceReply :=
  match d.service.getCellularDataController slotId with
  | none => (d, { code := missing })
  | some c => call c

/-- What the methods of the controller have in common: `failed` is the answer without a handler. -/
def callHandler (failed : ServiceReply) (call : Slot → Slot × ServiceReply)
    (c : CellularDataController) : Device × ServiceReply :=
  match c.cellularDataHandler with
  | none => (d, failed)
  | some s => (d.settle e slotId s (call s).1, (call s).2)

/-! Switches -/

def enableCellularData (enable : Bool) : Device × ServiceReply :=
  d.checked e true .setTelephonyState <|
    d.withController defaultSimSlotId .localPtrNull fun c =>
      if e.dataPolicy = "force_open" ∧ !enable then (d, { code := .policyDisabled })
      else if e.dataPolicy = "disallow" ∧ enable then (d, { code := .policyDisabled })
      else
        d.callHandler e defaultSimSlotId { code := .localPtrNull }
          (fun s => ((s.setCellularDataEnable (e.slot defaultSimSlotId) enable).1,
            { code := .setting (s.setCellularDataEnable (e.slot defaultSimSlotId) enable).2 })) c

def enableIntelligenceSwitch (enable : Bool) : Device × ServiceReply :=
  d.checked e true .setTelephonyState <|
    d.withController defaultSimSlotId .localPtrNull <|
      d.callHandler e defaultSimSlotId { code := .localPtrNull } fun s =>
        ((s.setIntelligenceSwitchEnable (e.slot defaultSimSlotId) enable).1,
          { code := .setting (s.setIntelligenceSwitchEnable (e.slot defaultSimSlotId) enable).2 })

def enableCellularDataRoaming (enable : Bool) : Device × ServiceReply :=
  d.checked e true .setTelephonyState <|
    d.withController slotId .slotIdInvalid <|
      d.callHandler e slotId { code := .localPtrNull } fun s =>
        ((s.setCellularDataRoamingEnabled (e.slot slotId) enable).1,
          { code := .setting (s.setCellularDataRoamingEnabled (e.slot slotId) enable).2 })

/-- The answer to a query of a switch. -/
def flagReply : Option Bool → ServiceReply
  | some on => { code := .success, value := some (.flag on) }
  | none => { code := .handlerError }

def isCellularDataEnabled : Device × ServiceReply :=
  d.checked e false .getNetworkInfo <|
    d.withController defaultSimSlotId .localPtrNull <|
      d.callHandler e defaultSimSlotId { code := .localPtrNull } fun s =>
        ((s.isCellularDataEnabled (e.slot defaultSimSlotId)).1,
          flagReply (s.isCellularDataEnabled (e.slot defaultSimSlotId)).2)

def getIntelligenceSwitchState : Device × ServiceReply :=
  d.checked e true .getTelephonyState <|
    d.withController defaultSimSlotId .localPtrNull <|
      d.callHandler e defaultSimSlotId { code := .localPtrNull } fun s =>
        ((s.queryIntelligenceSwitchStatus (e.slot defaultSimSlotId)).1,
          flagReply (some (s.queryIntelligenceSwitchStatus (e.slot defaultSimSlotId)).2))

def isCellularDataRoamingEnabled : Device × ServiceReply :=
  d.checked e false .getNetworkInfo <|
    d.withController slotId .invalidParam <|
      d.callHandler e slotId { code := .localPtrNull } fun s =>
        ((s.isCellularDataRoamingEnabled (e.slot slotId)).1,
          flagReply (s.isCellularDataRoamingEnabled (e.slot slotId)).2)

/-! Queries -/

def getCellularDataState : Device × ServiceReply :=
  d.checked e false .getNetworkInfo <|
    let slotId := if e.isVSimEnabled then vsimSlotId else e.defaultCellularDataSlotId
    d.withController slotId .invalidParam <|
      d.callHandler e slotId { code := .success, value := some (.dataState .disconnected) } fun s =>
        (s, { code := .success, value := some (.dataState (s.getCellularDataState (e.slot slotId))) })

/-- `GetCellularDataState` of the handler, for a type by its name. -/
def apnStateByName (s : Slot) (apnType : String) : ApnProfileState :=
  match ApnType.all.find? fun t => t.name = apnType with
  | some t => (s.holder t).apnState
  | none => .idle

def getApnState (apnType : String) : Device × ServiceReply :=
  d.checked e false .getTelephonyState <|
    d.withController slotId .invalidParam <|
      d.callHandler e slotId { code := .success, value := some (.apnState .failed) } fun s =>
        (s, { code := .success, value := some (.apnState (apnStateByName s apnType)) })

/-- The attributes of the first enabled holder that has a current APN. -/
def dataConnApnAttr (s : Slot) : Attribute :=
  ((ApnType.all.filter fun t => (s.holder t).dataCallEnabled).findSome? fun t =>
    (s.holder t).apnItem.map fun r => (s.apnItem r).attr).getD {}

def getDataConnApnAttr : Device × ServiceReply :=
  d.checked e false .getTelephonyState <|
    d.withController slotId .invalidParam <|
      d.callHandler e slotId { code := .success, value := some (.apn {}) } fun s =>
        (s, { code := .success, value := some (.apn (dataConnApnAttr s)) })

def dataConnIpType (s : Slot) : String :=
  ((ApnType.all.filter fun t => (s.holder t).dataCallEnabled).findSome? fun t =>
    ((s.holder t).cellularDataStateMachine.bind s.machine?).map fun x => x.data.link.ipType).getD ""

def getDataConnIpType : Device × ServiceReply :=
  d.checked e false .getTelephonyState <|
    d.withController slotId .invalidParam <|
      d.callHandler e slotId { code := .success, value := some (.ipType "") } fun s =>
        (s, { code := .success, value := some (.ipType (dataConnIpType s)) })

def hasInternetCapability (cid : Int) : Device × ServiceReply :=
  d.withController slotId .invalidParam <|
    d.callHandler e slotId { code := .success, value := some (.flag false) } fun s =>
      (s, { code := .success, value := some (.flag
        (((s.getActiveConnectionByCid cid).bind s.machine?).any fun x =>
          x.data.link.capability = .internet)) })

def getIfSupportDunApn : Device × ServiceReply :=
  d.checked e false .getTelephonyState <|
    d.withController e.defaultCellularDataSlotId .invalidParam <|
      d.callHandler e e.defaultCellularDataSlotId { code := .success, value := some (.flag false) }
        fun s =>
          let roamingState := decide (0 < (e.slot e.defaultCellularDataSlotId).psRoamingState)
          (s, { code := .success, value := some (.flag
            (s.apnManager.fetchDunApns s.apnItem roamingState ≠ [] &&
              s.apnManager.getOverallDefaultApnState = .connected)) })

/-- The capabilities that are numbers of the net manager's enumeration. -/
def getCellularDataSupplierId (mms snssai6 capability : Nat) : Device × ServiceReply :=
  d.checked e false .getTelephonyState <|
    if capability < mms ∨ snssai6 < capability then (d, { code := .invalidParam })
    else (d, { code := .success, value := some (.number (d.netAgent.getSupplierId slotId capability)) })

def getSupplierRegisterState (supplierId : Nat) : Device × ServiceReply :=
  d.checked e false .getTelephonyState <|
    match d.netAgent.netSuppliers.find? fun x => x.supplierId = supplierId with
    | some x => (d, { code := .success, value := some (.number x.regState) })
    | none => (d, { code := .fail })

/-! Orders -/

def handleApnChanged : Device × ServiceReply :=
  d.checked e false .setTelephonyState <|
    d.withController slotId .invalidParam <|
      d.callHandler e slotId { code := .dataRespond false } fun s =>
        (s.sendEvent .apnChanged, { code := .dataRespond true })

def clearAllConnections (reason : DisConnectionReason) : Device × ServiceReply :=
  d.checked e false .setTelephonyState <|
    d.withController slotId .invalidParam <|
      d.callHandler e slotId { code := .requestNet false } fun s =>
        (s.clearAllConnections (e.slot slotId) reason, { code := .requestNet true })

def establishAllApnsIfConnectable : Device × ServiceReply :=
  d.checked e false .setTelephonyState <|
    d.withController slotId .invalidParam fun c =>
      if !e.hasSimCard slotId then (d, { code := .noSimCard })
      else if !e.isSimActive slotId then (d, { code := .slotIdInvalid })
      else
        d.callHandler e slotId { code := .fail }
          (fun s => (s.sendEvent .establishAllApnsIfConnectable, { code := .success })) c

/-- A default network that is up keeps its supplier. -/
def correctNetSupplierNoAvailable : Device × ServiceReply :=
  d.checked e false .setTelephonyState <|
    d.withController slotId .invalidParam <|
      d.callHandler e slotId { code := .fail } fun s =>
        if (s.holder .default_).apnState = .connected then (s, { code := .fail })
        else (s.sendToMachines .updateNetworkInfo, { code := .success })

/-- `AddNetSupplier`: a controller that is there already is kept, and its suppliers are added again. -/
def addNetSupplier (netCapabilities : List Nat) : Device :=
  let controller := (d.service.cellularDataControllers slotId).or (some ⟨none⟩)
  let netSuppliers := netCapabilities.map fun capability => { slotId, capability }
  { d with
    service.cellularDataControllers := fun i =>
      if i = slotId then controller else d.service.cellularDataControllers i
    netAgent.netSuppliers := d.netAgent.netSuppliers ++ netSuppliers }

/-- The virtual SIM gets its controller late, with suppliers of the two capabilities of a default
network. -/
def initCellularDataController (internet internalDefault : Nat) : Device × ServiceReply :=
  d.checked e false .setTelephonyState <|
    if slotId ≠ vsimSlotId then (d, { code := .invalidParam })
    else (d.addNetSupplier slotId [internet, internalDefault], { code := .success })

/-! Calls of the net manager -/

/-- `NetRequest` as the net manager's callback gets it. -/
structure NetworkRequest where
  ident : List Char
  netCaps : List NetCap
  bearTypes : BearType
deriving DecidableEq, Repr

/-- The SIM id behind the prefix, whatever the prefix is. -/
inductive IdentSimId
  | invalid | outOfRange | simId (simId : Int)
deriving DecidableEq, Repr

/-- The first part of `RequestNet` and `ReleaseNet`; `std::stoi` takes no number beyond an `int32_t`. -/
def identSimId (ident : List Char) : IdentSimId :=
  if ident.length < identPrefix.length then .invalid
  else
    let requestIdent := ident.drop identPrefix.length
    if !isDecValue (String.ofList requestIdent) then .invalid
    else if 2 ^ 31 ≤ decimalValue requestIdent then .outOfRange
    else .simId (decimalValue requestIdent)

/-- `RequestNet` and `ReleaseNet`. A handler takes no request while the phone saves power. -/
def requestNet (isRequest : Bool) (simId : Int) (netCaps : List NetCap) (bearTypes : BearType) :
    Device × ServiceReply :=
  let slotId := d.netAgent.getSlotId simId
  d.withController slotId .invalidParam <|
    d.callHandler e slotId { code := .requestNet false } fun s =>
      if isRequest && e.powerSaveMode then (s, { code := .requestNet false })
      else
        (s.sendEvent (.requestNetwork ⟨findBestCapability netCaps, bearTypes⟩ isRequest),
          { code := .requestNet true })

/-- `RequestNetwork` and `ReleaseNetwork` of the callback. An ident whose number is out of range ends
the process. -/
def networkCallback (isRequest : Bool) (request : NetworkRequest) : Option (Device × ServiceReply) :=
  if request.netCaps = [] then some (d, { code := .invalidParam })
  else
    match identSimId request.ident with
    | .invalid => some (d, { code := .invalidParam })
    | .outOfRange => none
    | .simId simId => some (d.requestNet e isRequest simId request.netCaps request.bearTypes)

def strategySwitch (enable : Bool) : Device × ServiceReply :=
  d.withController slotId .invalidParam <|
    d.callHandler e slotId { code := .dataRespond true } fun s =>
      (s.setPolicyDataOn (e.slot slotId) enable, { code := .dataRespond true })

/-- The first slot whose account has the SIM id; a number out of range counts as 0. -/
def netStrategySwitch (simId : List Char) (enable : Bool) : Device × ServiceReply :=
  if !isDecValue (String.ofList simId) then (d, { code := .invalidParam })
  else
    let netSimId : Int := if decimalValue simId < 2 ^ 31 then decimalValue simId else 0
    match (List.range e.simSlotCount).find? fun (i : Nat) => e.simAccount i = some netSimId with
    | some i => d.strategySwitch e i enable
    | none => (d, { code := .invalidParam })

end Device
end CellularData
