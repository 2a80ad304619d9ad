import CellularData.Lib.TransitionSystem
import CellularData.Slot.Events

/-! One slot as a transition system: event loops, timers, the modem and the callers of the handler
take steps in any order. -/
namespace CellularData
open Lib

/-- Events that other components post to the handler. -/
def HandlerEvent.isExternal : HandlerEvent → Bool
  | .establishDataConnectionComplete _ | .disconnectDataComplete _ | .establishDataConnection _ _
  | .requestNetwork _ _ | .dataCallListChanged _ | .retryToSetupDatacall _
  | .resumeDataPermittedTimeout | .retryToCreateApn | .retryToLoadSimAccount _
  | .mccChangeActivateDelay => false
  | _ => true

/-- Events that the modem posts to a machine. -/
def MachineEvent.isExternal : MachineEvent → Bool
  | .setupDataCall _ | .deactivateDataCall _ | .drsOrRatChanged | .getRilBandwidth | .other _ => true
  | _ => false

inductive Label
  | postHandler (e : HandlerEvent)
  | dispatchHandler (env : Env)
  | fireHandler (i : Nat)
  | call (env : Env) (c : Slot.Call)
  | postMachine (m : MachineRef) (e : MachineEvent)
  | dispatchMachine (env : Env) (m : MachineRef)
  | fireMachine (m : MachineRef) (i : Nat)
  | linkStateChanged (m : MachineRef) (ifName : String) (up : Bool)
  | dataCallListChanged (dcList : List SetupDataCallResultInfo)
  | linkCapabilityChanged (upBandwidth downBandwidth : Nat)

namespace Slot

variable (s : Slot)

/-- What a machine has sent reaches its receiver. -/
def receive (m : MachineRef) : MachineOutput → Slot
  | .establishDataConnectionComplete info => s.sendEvent (.establishDataConnectionComplete info)
  | .disconnectDataComplete info => s.sendEvent (.disconnectDataComplete info)
  | .addActiveConnectionByCid cid => (s.addActiveConnectionByCid cid m).logCall (.accepted m cid)
  | .deactivatePdpContext param =>
    (s.effect (.machine m (.deactivatePdpContext param))).logCall (.deactivateRequest m param.cid)
  | o => s.effect (.machine m o)

/-- History of the event a machine is about to process. An answer that is replayed from the
immediate events has been recorded before. -/
def logMachineEvent (m : MachineRef) (x : CellularDataStateMachine) : MachineEvent → Slot
  | .setupDataCall (.resultInfo info) =>
    if x.queue.immediate = [] then s.logCall (.setupAnswer m info) else s
  | .rilAdapterHostDied _ => if x.isActiveState then s.logCall (.hostDied m) else s
  | _ => s

def dispatchMachine (env : Env) (m : MachineRef) : Option Slot :=
  match s.machine? m with
  | none => none
  | some x =>
    match x.dispatch (env.machineEnv s) with
    | none => none
    | some (e, x') =>
      let s := { s.logMachineEvent m x e with
        stateMachines := s.stateMachines.set m x'.clearOutbox }
      some (x'.data.outbox.foldl (fun s o => s.receive m o) s)

def dispatchHandler (env : Env) : Option Slot :=
  match s.queue.next with
  | some (e, queue) => some ({ s with queue }.processEvent env e)
  | none => none

/-- `UpdateNetworkInfo` of the connection manager: a report goes to the handler under the APN id of
the machine registered for its cid. -/
def relayDataCall (info : SetupDataCallResultInfo) : Slot :=
  match (s.getActiveConnectionByCid info.cid).bind s.machine? with
  | some x => s.sendEvent (.dataCallListChanged { info with flag := x.data.apnId })
  | none => s

def lostInfo (info : SetupDataCallResultInfo) : SetupDataCallResultInfo :=
  { cid := info.cid, reason := info.reason, retryTime := info.retryTime,
    retryScene := .modemDeactivate }

/-- A registered machine whose call is reported as down loses its connection. -/
def loseConnection (dcList : List SetupDataCallResultInfo) (m : MachineRef) : Slot :=
  match s.machine? m with
  | none => s
  | some x =>
    match dcList.find? fun info => info.cid = x.data.cid ∧ info.active ≤ 0 with
    | some info => s.postMachine m (.lostConnection (lostInfo info))
    | none => s

def logDown (dcList : List SetupDataCallResultInfo) : Slot :=
  dcList.foldl (fun s info => if info.active ≤ 0 then s.logCall (.reportedDown info.cid) else s) s

def radioDataCallListChanged (dcList : List SetupDataCallResultInfo) : Slot :=
  let registered := s.cidActiveConnectionMap.map (·.2)
  let s := dcList.foldl (fun s info => s.relayDataCall info) s
  let s := registered.foldl (fun s m => s.loseConnection dcList m) s
  s.logDown dcList

def radioLinkCapabilityChanged (upBandwidth downBandwidth : Nat) : Slot :=
  (s.cidActiveConnectionMap.map (·.2)).foldl
    (fun s m => s.postMachine m (.linkCapabilityChanged upBandwidth downBandwidth)) s

def step : Label → Slot → Option Slot
  | .postHandler e, s => if e.isExternal then some (s.sendEvent e) else none
  | .dispatchHandler env, s => s.dispatchHandler env
  | .fireHandler i, s => (s.queue.expire i).map fun queue => { s with queue }
  | .call env c, s => some (s.call env c)
  | .postMachine m e, s =>
    if e.isExternal ∧ m < s.stateMachines.length then some (s.postMachine m e) else none
  | .dispatchMachine env m, s => s.dispatchMachine env m
  | .fireMachine m i, s =>
    (s.machine? m).bind fun x => (x.fire i).map fun x' =>
      { s with stateMachines := s.stateMachines.set m x' }
  | .linkStateChanged m ifName up, s =>
    if m < s.stateMachines.length then
      some (s.modifyMachine m fun x => x.onInterfaceLinkStateChanged ifName up)
    else none
  | .dataCallListChanged dcList, s => some (s.radioDataCallListChanged dcList)
  | .linkCapabilityChanged up down, s => some (s.radioLinkCapabilityChanged up down)

/-- Holders in the order that a sort by priority may give. -/
def SortedByPriority (l : List ApnType) : Prop :=
  l.Perm ApnType.all ∧ l.Pairwise fun t u => u.priority ≤ t.priority

/-- A slot after `Init`. -/
def Initial (s : Slot) : Prop :=
  ∃ env slotId l, SortedByPriority l ∧
    s = init env { slotId, apnManager := { sortedApnHolders := l } }

def system : TransitionSystem Slot Label where
  init := Initial
  step := step

/-! A slot in service with one APN for every type -/

def sortedHolders : List ApnType :=
  [.ia, .mms, .xcap, .dun, .supl, .bip, .snssai1, .snssai2, .snssai3, .snssai4, .snssai5, .snssai6,
    .default_, .internalDefault]

def serviceEnv : Env where
  iccId := "8986"
  apnReloads :=
    [{ items := some [{ attr := { profileId := 1, apn := "cmnet" }, apnTypes := ["*"] }], count := 1 }]

def start : Slot := init serviceEnv { apnManager := { sortedApnHolders := sortedHolders } }

theorem start_initial : system.init start :=
  ⟨serviceEnv, 0, sortedHolders, ⟨by decide +kernel, by decide +kernel⟩, rfl⟩

/-- The APN table is loaded. -/
def loadLabels : List Label :=
  [.postHandler (.sim .recordsLoaded 0), .dispatchHandler serviceEnv]

/-- A network is requested and the request reaches the machine. -/
def requestLabels (capability : NetCap) (m : MachineRef) : List Label :=
  [.call serviceEnv (.requestNet true [capability] (.other 0)), .dispatchHandler serviceEnv,
    .dispatchHandler serviceEnv, .dispatchMachine serviceEnv m]

/-- The default holder is connecting and its machine waits for the modem. -/
def askedLabels : List Label :=
  loadLabels ++ requestLabels .internet 0 ++ [.dispatchMachine serviceEnv 0]

def clearLabel : Label := .call serviceEnv (.clearAllConnections .clearConnection)

/-- The modem reports the call as up and the machine takes the answer. -/
def answeredLabels : List Label :=
  [.postMachine 0 (.setupDataCall (.resultInfo { cid := 5, flag := 1, active := 1 })),
    .dispatchMachine serviceEnv 0]

/-- The default holder is connected with the call 5. -/
def connectedLabels : List Label :=
  askedLabels ++ answeredLabels ++ [.dispatchMachine serviceEnv 0, .dispatchHandler serviceEnv,
    .dispatchHandler serviceEnv]

/-- The modem refuses the request and the default holder waits for a retry. -/
def refusedLabels : List Label :=
  askedLabels ++ [.postMachine 0 (.setupDataCall (.rilInfo { flag := 1 })),
    .dispatchMachine serviceEnv 0, .dispatchHandler serviceEnv]

/-- A run that ends in a state with the property. -/
theorem exists_run (labels : List Label) {p : Slot → Bool}
    (h : (system.run labels start).any p = true) :
    ∃ s, system.run labels start = some s ∧ system.Reachable s ∧ p s = true := by
  obtain ⟨s, hs, hp⟩ := (Option.any_eq_true _ _).mp h
  exact ⟨s, hs, TransitionSystem.Reachable.run (.init start_initial) hs, hp⟩

end Slot
end CellularData
