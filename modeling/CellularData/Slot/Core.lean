import Mathlib.Data.List.Basic
import CellularData.Machine.System
import CellularData.Slot.System

/-! The abstract slot: which holder owns which machine, the automata of the machines, the registry of
active calls and the reports on their way to the handler. -/
namespace CellularData
open Lib StateMachine

/-- Reports that only machines and the connection manager send to the handler. -/
def HandlerEvent.isNotice : HandlerEvent → Bool
  | .establishDataConnectionComplete _ | .disconnectDataComplete _ | .dataCallListChanged _ => true
  | _ => false

/-- Events that the handler passes on to every machine. -/
def MachineEvent.isNews : MachineEvent → Bool
  | .rilAdapterHostDied _ | .nrStateChanged | .nrFrequencyChanged | .updateNetworkInfo
  | .linkCapabilityChanged _ _ => true
  | _ => false

namespace ConnectRecord

variable (r : ConnectRecord)

/-- What has to hold when `MSG_SM_CONNECT` is posted. -/
structure Gate : Prop where
  airplaneModeOn : r.airplaneModeOn = false
  isMccChanged : r.isMccChanged = false
  psRegInService : r.psRegInService = true
  simState : r.simState = .ready ∨ r.simState = .loaded
  roaming : ¬ (0 < r.psRoamingState ∧ r.switches.userDataRoaming = false)
  switches : r.switches.userDataOn = true ∧ r.switches.policyDataOn = true ∧
      r.switches.internalDataOn = true ∨ r.apnType = .mms ∨ r.apnType = .bip
  restricted : ¬ (r.lastCallState ≠ .idle ∧ r.lastCallState ≠ .disconnected ∧ r.psRadioTech = .gsm)

/-- While roaming, the search for a compatible machine has read that data roaming is off. -/
def RoamingReadOff : Prop :=
  0 < r.psRoamingState ∧ r.apnType ≠ .default_ ∧ r.apnType ≠ .internalDefault ∧
    r.storedDataRoaming = some false

end ConnectRecord

structure Core where
  state : ApnType → ApnProfileState
  owner : ApnType → Option MachineRef
  controls : List Control
  registry : List (Int × MachineRef)
  notices : List HandlerEvent
  connectLog : List ConnectRecord
  callLog : List CallEvent

namespace Core

variable (k : Core)

def setState (t : ApnType) (st : ApnProfileState) : Core :=
  { k with state := fun u => if u = t then st else k.state u }

def setOwner (t : ApnType) (m : Option MachineRef) : Core :=
  { k with owner := fun u => if u = t then m else k.owner u }

def modifyControl (m : MachineRef) (f : Control → Control) : Core :=
  { k with controls := k.controls.modify m f }

def post (m : MachineRef) (e : MachineEvent) : Core := k.modifyControl m fun c => c.post e

def notify (e : HandlerEvent) : Core := { k with notices := k.notices ++ [e] }

def logCall (e : CallEvent) : Core := { k with callLog := e :: k.callLog }

def disconnect (t : ApnType) (m : MachineRef) (params : DataDisconnectParams) : Core :=
  (k.setState t .disconnecting).post m (.disconnect params)

def connect (t : ApnType) (m : MachineRef) (params : DataConnectionParams)
    (record : ConnectRecord) : Core :=
  { ((k.setState t .connecting).setOwner t (some m)).post m (.connect params) with
    connectLog := record :: k.connectLog }

/-- The record of a request made for `t`. -/
structure Records (record : ConnectRecord) (t : ApnType) (m : MachineRef) : Prop where
  apnType : record.apnType = t
  machine : record.machine = m
  gate : record.Gate ↔ ¬ record.RoamingReadOff

/-- The holder of a request and its two roaming flags, as the constructor's parameters place them. -/
structure Carries (params : DataConnectionParams) (t : ApnType) (record : ConnectRecord) : Prop where
  apnHolder : params.apnHolder = t
  roamingState : params.roamingState = record.switches.userDataRoaming
  userRoaming : params.userRoaming = true

/-- What the handler does to holders and machines within one event. -/
inductive Act : Core → Core → Prop
  | disconnect {k : Core} {t : ApnType} {m : MachineRef} {params : DataDisconnectParams}
      (howner : k.owner t = some m) : Act k (k.disconnect t m params)
  | reset {k : Core} {t : ApnType} (h : k.state t = .failed ∨ k.state t = .retrying) :
      Act k (k.setState t .idle)
  | retry {k : Core} {t : ApnType} (h : k.state t = .idle) : Act k (k.setState t .retrying)
  | connect {k : Core} {t : ApnType} {m : MachineRef} {c : Control}
      {params : DataConnectionParams} {record : ConnectRecord} (hidle : k.state t = .idle)
      (hm : k.controls[m]? = some c) (hinactive : c.state = some .inactive)
      (hfree : ∀ u, k.owner u ≠ some m) (hparams : Carries params t record)
      (hrecord : Records record t m) : Act k (k.connect t m params record)
  | create {k : Core} {t : ApnType} {params : DataConnectionParams} {record : ConnectRecord}
      (hidle : k.state t = .idle)
      (hbusy : ∀ m c, k.controls[m]? = some c → c.state ≠ some .inactive ∨ ∃ u, k.owner u = some m)
      (hparams : Carries params t record) (hrecord : Records record t k.controls.length) :
      Act k ({ k with controls := k.controls ++
        [CellularDataStateMachine.create.control] }.connect t k.controls.length params record)
  | tell {k : Core} {e : MachineEvent} (he : e.isNews = true) :
      Act k { k with controls := k.controls.map fun c => c.post e }

/-! What the machines and the connection manager do -/

def receive (m : MachineRef) : MachineOutput → Core
  | .establishDataConnectionComplete info => k.notify (.establishDataConnectionComplete info)
  | .disconnectDataComplete info => k.notify (.disconnectDataComplete info)
  | .addActiveConnectionByCid cid =>
    { k with registry := (cid, m) :: k.registry.filter fun p => p.1 ≠ cid }.logCall (.accepted m cid)
  | .deactivatePdpContext param => k.logCall (.deactivateRequest m param.cid)
  | _ => k

def logMachineEvent (m : MachineRef) (c : Control) : MachineEvent → Core
  | .setupDataCall (.resultInfo info) =>
    if c.queue.immediate = [] then k.logCall (.setupAnswer m info) else k
  | .rilAdapterHostDied _ => if c.state = some .active then k.logCall (.hostDied m) else k
  | _ => k

def registered (cid : Int) : Option MachineRef :=
  (k.registry.find? fun p => p.1 = cid).map (·.2)

def relayDataCall (info : SetupDataCallResultInfo) : Core :=
  match (k.registered info.cid).bind fun m => k.controls[m]? with
  | some c => k.notify (.dataCallListChanged { info with flag := c.apnId })
  | none => k

def loseConnection (dcList : List SetupDataCallResultInfo) (m : MachineRef) : Core :=
  match k.controls[m]? with
  | none => k
  | some c =>
    match dcList.find? fun info => info.cid = c.cid ∧ info.active ≤ 0 with
    | some info => k.post m (.lostConnection (Slot.lostInfo info))
    | none => k

def logDown (dcList : List SetupDataCallResultInfo) : Core :=
  dcList.foldl (fun k info => if info.active ≤ 0 then k.logCall (.reportedDown info.cid) else k) k

def radioDataCallListChanged (dcList : List SetupDataCallResultInfo) : Core :=
  let lost := k.registry.map (·.2)
  let k := dcList.foldl (fun k info => k.relayDataCall info) k
  let k := lost.foldl (fun k m => k.loseConnection dcList m) k
  k.logDown dcList

def radioLinkCapabilityChanged (up down : Nat) : Core :=
  (k.registry.map (·.2)).foldl (fun k m => k.post m (.linkCapabilityChanged up down)) k

/-- The handler has processed a completion. -/
def complete (info : SetupDataCallResultInfo) : Core :=
  match apnHolderByName info.flag with
  | none => k
  | some t =>
    match k.owner t with
    | some _ => k.setState t .connected
    | none => k.setState t .idle

/-- The registration under the cid that the machine has stored is removed. -/
def unregister (m : MachineRef) : Core :=
  match k.controls[m]? with
  | some c => { k with registry := k.registry.filter fun p => p.1 ≠ c.cid }
  | none => k

/-- The handler has released the machine of a holder. -/
def finish (info : SetupDataCallResultInfo) : Core :=
  match ApnType.ofId info.flag with
  | none => k
  | some t =>
    match k.owner t with
    | none => k.setState t .idle
    | some m => ((k.unregister m).setOwner t none).setState t .idle

/-- What a step takes up first: an event of the handler, a machine, a report, or nothing that
matters here. -/
inductive Cue
  | other
  | handler (e : HandlerEvent)
  | machine (m : MachineRef)
  | report (dcList : List SetupDataCallResultInfo)

/-- The first part of a step; the handler's acts follow. -/
inductive Trigger : Cue → Core → Core → Prop
  | skip {cue : Cue} {k : Core} (h : ∀ e, cue = .handler e → e.isNotice = false) : Trigger cue k k
  | complete {k : Core} {info : SetupDataCallResultInfo} {rest : List HandlerEvent}
      (h : k.notices = .establishDataConnectionComplete info :: rest) :
      Trigger (.handler (.establishDataConnectionComplete info)) k
        ({ k with notices := rest }.complete info)
  | finish {k : Core} {info : SetupDataCallResultInfo} {rest : List HandlerEvent}
      (h : k.notices = .disconnectDataComplete info :: rest) :
      Trigger (.handler (.disconnectDataComplete info)) k ({ k with notices := rest }.finish info)
  | update {k : Core} {info : SetupDataCallResultInfo} {rest : List HandlerEvent}
      (h : k.notices = .dataCallListChanged info :: rest) :
      Trigger (.handler (.dataCallListChanged info)) k { k with notices := rest }
  | answer {k : Core} {m : MachineRef} {e : MachineEvent} (he : e.isExternal = true) :
      Trigger .other k (k.post m e)
  | dispatch {env : MachineEnv} {k : Core} {m : MachineRef} {c c' : Control} {e : MachineEvent}
      {q : EventQueue MachineEvent} {os : List MachineOutput} (hm : k.controls[m]? = some c)
      (hnext : c.queue.next = some (e, q))
      (ht : Control.Transition env { c with queue := q } e c' os) :
      Trigger (.machine m) k (os.foldl (fun k o => k.receive m o)
        { k.logMachineEvent m c e with controls := k.controls.set m c' })
  | fire {k : Core} {m : MachineRef} {c : Control} {i : Nat} {q : EventQueue MachineEvent}
      (hm : k.controls[m]? = some c) (h : c.queue.expire i = some q) :
      Trigger .other k { k with controls := k.controls.set m { c with queue := q } }
  | rearm {k : Core} {m : MachineRef} : Trigger .other k (k.modifyControl m Control.rearm)
  | report {k : Core} {dcList : List SetupDataCallResultInfo} :
      Trigger (.report dcList) k (k.radioDataCallListChanged dcList)
  | capability {k : Core} {up down : Nat} : Trigger .other k (k.radioLinkCapabilityChanged up down)

/-- A step of the abstract slot. -/
def Next (cue : Cue) (k k' : Core) : Prop :=
  ∃ k₀, Trigger cue k k₀ ∧ Relation.ReflTransGen Act k₀ k'

end Core
end CellularData
