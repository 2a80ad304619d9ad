import CellularData.Agent.Consistency
import CellularData.Device.Service
import CellularData.Slot.StandingOrder

/-! The device as a transition system: the slots, the callers of the service and the net manager take
steps in any order. -/
namespace CellularData
open Lib

/-- Numbers of the net manager's capabilities. -/
structure CapabilityNumbers where
  mms : Nat
  internet : Nat
  internalDefault : Nat
  snssai6 : Nat

namespace CellularDataNetAgent

/-- Calls of the agent in their order, with the answer of the last registration. -/
def serve (snssai6 : Nat) (env : AgentEnv) (calls : List AgentLabel) (a : CellularDataNetAgent) :
    CellularDataNetAgent × Bool :=
  calls.foldl (fun r c =>
    match c with
    | .register slotId => r.1.registerNetSupplier snssai6 env slotId
    | .unregisterForSimUpdate slotId => (r.1.unregisterNetSupplierForSimUpdate env slotId, r.2))
    (a, false)

end CellularDataNetAgent

namespace Slot

open CellularDataNetAgent

/-- What the handler asks of the agent while it processes an event. -/
def netAgentCalls (env : Env) (s : Slot) : HandlerEvent → List AgentLabel
  | .sim .accountLoaded slotId =>
    if slotId = s.slotId then [.unregisterForSimUpdate s.slotId, .register s.slotId] else []
  | .sim .stateChange slotId =>
    if slotId = s.slotId ∧ env.simState = .notPresent then [.unregisterForSimUpdate s.slotId] else []
  | .retryToLoadSimAccount _ =>
    if env.simId ≤ invalidSimId then []
    else if !s.isSimAccountLoaded && !s.queue.hasInnerEvent isSimAccountLoadedEvent then
      [.unregisterForSimUpdate s.slotId, .register s.slotId]
    else []
  | _ => []

/-- The same for the event that comes next. -/
def nextAgentCalls (env : Env) (s : Slot) : List AgentLabel :=
  match s.queue.next with
  | some (event, queue) => netAgentCalls env { s with queue } event
  | none => []

end Slot

/-- Calls of the handler that do not come through the service. -/
def Slot.Call.isOwn : Slot.Call → Bool
  | .callStateChanged _ | .defaultDataSubscriptionChanged | .operatorConfigChanged
  | .dataShareReady => true
  | _ => false

/-- Steps of a slot that need neither the service nor the agent. -/
def Label.isOwn : Label → Bool
  | .dispatchHandler _ => false
  | .call _ c => c.isOwn
  | _ => true

/-- Calls of other processes. -/
inductive ServiceCall
  | enableCellularData (enable : Bool)
  | enableIntelligenceSwitch (enable : Bool)
  | enableCellularDataRoaming (slotId : Int) (enable : Bool)
  | isCellularDataEnabled
  | getIntelligenceSwitchState
  | isCellularDataRoamingEnabled (slotId : Int)
  | getCellularDataState
  | getApnState (slotId : Int) (apnType : String)
  | getDataConnApnAttr (slotId : Int)
  | getDataConnIpType (slotId : Int)
  | hasInternetCapability (slotId cid : Int)
  | getIfSupportDunApn
  | getCellularDataSupplierId (slotId : Int) (capability : Nat)
  | getSupplierRegisterState (supplierId : Nat)
  | handleApnChanged (slotId : Int)
  | clearAllConnections (slotId : Int) (reason : DisConnectionReason)
  | establishAllApnsIfConnectable (slotId : Int)
  | correctNetSupplierNoAvailable (slotId : Int)
  | initCellularDataController (slotId : Int)
deriving DecidableEq, Repr

inductive DeviceLabel
  | asynchronousRegister (slotId : Int) (env : Env) (sortedApnHolders : List ApnType)
  | dispatchHandler (slotId : Int) (env : Env) (e : CallEnv) (a : AgentEnv)
  | slot (slotId : Int) (l : Label) (e : CallEnv)
  | netConnManagerAdded (slotId : Int) (e : CallEnv) (a : AgentEnv)
  | service (c : ServiceCall) (e : CallEnv)
  | networkCallback (isRequest : Bool) (request : Device.NetworkRequest) (e : CallEnv)
  | netStrategySwitch (simId : List Char) (enable : Bool) (e : CallEnv)

instance : DecidablePred Slot.SortedByPriority :=
  fun l => inferInstanceAs (Decidable (l.Perm ApnType.all ∧ l.Pairwise fun t u => u.priority ≤ t.priority))

namespace Device

variable (caps : CapabilityNumbers)

def serve (e : CallEnv) (d : Device) : ServiceCall → Device × ServiceReply
  | .enableCellularData enable => d.enableCellularData e enable
  | .enableIntelligenceSwitch enable => d.enableIntelligenceSwitch e enable
  | .enableCellularDataRoaming slotId enable => d.enableCellularDataRoaming e slotId enable
  | .isCellularDataEnabled => d.isCellularDataEnabled e
  | .getIntelligenceSwitchState => d.getIntelligenceSwitchState e
  | .isCellularDataRoamingEnabled slotId => d.isCellularDataRoamingEnabled e slotId
  | .getCellularDataState => d.getCellularDataState e
  | .getApnState slotId apnType => d.getApnState e slotId apnType
  | .getDataConnApnAttr slotId => d.getDataConnApnAttr e slotId
  | .getDataConnIpType slotId => d.getDataConnIpType e slotId
  | .hasInternetCapability slotId cid => d.hasInternetCapability e slotId cid
  | .getIfSupportDunApn => d.getIfSupportDunApn e
  | .getCellularDataSupplierId slotId capability =>
    d.getCellularDataSupplierId e slotId caps.mms caps.snssai6 capability
  | .getSupplierRegisterState supplierId => d.getSupplierRegisterState e supplierId
  | .handleApnChanged slotId => d.handleApnChanged e slotId
  | .clearAllConnections slotId reason => d.clearAllConnections e slotId reason
  | .establishAllApnsIfConnectable slotId => d.establishAllApnsIfConnectable e slotId
  | .correctNetSupplierNoAvailable slotId => d.correctNetSupplierNoAvailable e slotId
  | .initCellularDataController slotId =>
    d.initCellularDataController e slotId caps.internet caps.internalDefault

/-- `AsynchronousRegister` once the core service is up: the controller makes its handler. -/
def asynchronousRegister (slotId : Int) (env : Env) (sortedApnHolders : List ApnType) (d : Device) :
    Option Device :=
  match d.service.getCellularDataController slotId with
  | some ⟨none⟩ =>
    if Slot.SortedByPriority sortedApnHolders then
      some (d.setHandler slotId (Slot.init env { slotId, apnManager := { sortedApnHolders } }))
    else none
  | _ => none

/-- The handler takes its next event; its calls of the agent come before its other requests. -/
def dispatchHandler (slotId : Int) (env : Env) (e : CallEnv) (a : AgentEnv) (d : Device) :
    Option Device :=
  (d.handler slotId).bind fun s =>
    let (netAgent, registerNetSupplier) :=
      d.netAgent.serve caps.snssai6 { a with simId := env.simId } (s.nextAgentCalls env)
    (s.dispatchHandler { env with registerNetSupplier }).map fun s' =>
      { d with netAgent }.settle e slotId s s'

/-- The net manager has started: the suppliers of the slot are registered, and its machines tell it
what they know. -/
def netConnManagerAdded (slotId : Int) (e : CallEnv) (a : AgentEnv) (d : Device) : Option Device :=
  (d.handler slotId).map fun s =>
    let netAgent := (d.netAgent.registerNetSupplier caps.snssai6
      { a with simId := (e.slot slotId).simId } slotId).1
    { d with netAgent }.settle e slotId s (s.call (e.slot slotId) .updateNetworkInfo)

def step : DeviceLabel → Device → Option Device
  | .asynchronousRegister slotId env sortedApnHolders, d =>
    d.asynchronousRegister slotId env sortedApnHolders
  | .dispatchHandler slotId env e a, d => d.dispatchHandler caps slotId env e a
  | .slot slotId l e, d =>
    if l.isOwn then
      (d.handler slotId).bind fun s => (Slot.step l s).map fun s' => d.settle e slotId s s'
    else none
  | .netConnManagerAdded slotId e a, d => d.netConnManagerAdded caps slotId e a
  | .service c e, d => some (d.serve caps e c).1
  | .networkCallback isRequest request e, d => (d.networkCallback e isRequest request).map Prod.fst
  | .netStrategySwitch simId enable e, d => some (d.netStrategySwitch e simId enable).1

/-- The slots of `InitModule`: that of the virtual SIM comes later. -/
def moduleSlots (simNum : Nat) (tstsModeEnabled : Bool) : List Int :=
  (((List.range simNum).map fun (i : Nat) => (i : Int)).filter fun i => i ≠ vsimSlotId) ++
    if tstsModeEnabled then [cellDataSlotId3] else []

/-- The device after `Init` of the service, before any controller has its handler. -/
def init (slots : List Int) (netCapabilities : List Nat) : Device where
  service := { cellularDataControllers := fun i => if i ∈ slots then some ⟨none⟩ else none }
  netAgent := .initModule slots netCapabilities

def system : TransitionSystem Device DeviceLabel where
  init d := ∃ simNum tstsModeEnabled netCapabilities,
    d = init (moduleSlots simNum tstsModeEnabled) netCapabilities
  step := step caps

/-! A phone with two slots and one SIM in service -/

def serviceCaps : CapabilityNumbers := { mms := 0, internet := 12, internalDefault := 17, snssai6 := 25 }

def serviceCall : CallEnv where
  slot := fun _ => Slot.serviceEnv

def start : Device := init (moduleSlots 2 false) [12, 0]

theorem start_init : (system serviceCaps).init start := ⟨2, false, [12, 0], rfl⟩

/-- Slot 0 has its handler, its APN table and its suppliers. -/
def registeredLabels : List DeviceLabel :=
  [.asynchronousRegister 0 Slot.serviceEnv Slot.sortedHolders,
    .slot 0 (.postHandler (.sim .recordsLoaded 0)) serviceCall,
    .dispatchHandler 0 Slot.serviceEnv serviceCall CellularDataNetAgent.acceptingEnv,
    .netConnManagerAdded 0 serviceCall CellularDataNetAgent.acceptingEnv]

/-- The net manager has requested the default network of SIM 1 and the handler has taken the request. -/
def requestedLabels : List DeviceLabel :=
  registeredLabels ++
    [.networkCallback true ⟨identPrefix ++ ['1'], [.internet], .other 0⟩ serviceCall,
      .dispatchHandler 0 Slot.serviceEnv serviceCall CellularDataNetAgent.acceptingEnv]

theorem exists_history (labels : List DeviceLabel) {p : List (DeviceLabel × Device) → Device → Bool}
    (hp : ((system serviceCaps).trace labels [] start).any (fun r => p r.1 r.2) = true) :
    ∃ H d, (system serviceCaps).History H d ∧ p H d = true :=
  TransitionSystem.exists_history start_init labels hp

end Device
end CellularData
