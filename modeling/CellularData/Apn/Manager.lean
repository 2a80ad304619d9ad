import CellularData.Apn.Item

/-! APN holders with their retry policies, and the manager that owns them. -/
namespace CellularData

/-- APN items are shared objects; a reference is an index into the slot's items. -/
abbrev ItemRef := Nat

/-- A connection machine is named by its index among the machines of the connection manager. -/
abbrev MachineRef := Nat

structure ConnectionRetryPolicy where
  matchedApns : List ItemRef := []
  tryCount : Nat := 0
  maxCount : Nat := 5
  currentApnIndex : Nat := 0
deriving DecidableEq, Repr

namespace ConnectionRetryPolicy

variable (isBadApn : ItemRef → Bool) (p : ConnectionRetryPolicy)

def isAllBadApn : Bool := p.matchedApns.all isBadApn

/-- The recursion of `GetNextRetryApnItem`, at most `fuel` calls deep. -/
def nextRetryApnItem : Nat → ConnectionRetryPolicy → Option ItemRef × ConnectionRetryPolicy
  | 0, p => (none, p)
  | fuel + 1, p =>
    let p :=
      if p.matchedApns.length ≤ p.currentApnIndex then { p with currentApnIndex := 0, tryCount := 0 }
      else p
    match p.matchedApns[p.currentApnIndex]? with
    | none => (none, p)
    | some apnItem =>
      let p := { p with tryCount := p.tryCount + 1 }
      if isBadApn apnItem ∨ p.maxCount < p.tryCount then
        nextRetryApnItem fuel { p with tryCount := 0, currentApnIndex := p.currentApnIndex + 1 }
      else (some apnItem, p)

/-- Every item is passed at most once before and once after the index starts again. -/
def getNextRetryApnItem : Option ItemRef × ConnectionRetryPolicy :=
  if p.matchedApns = [] ∨ p.isAllBadApn isBadApn then (none, p)
  else p.nextRetryApnItem isBadApn (2 * p.matchedApns.length + 2)

/-- The index is kept where the new list has the same profile ids in the same order. -/
def setMatchedApns (profileId : ItemRef → Int) (apns : List ItemRef) : ConnectionRetryPolicy :=
  if p.matchedApns.map profileId = apns.map profileId then { p with matchedApns := apns }
  else { p with currentApnIndex := 0, matchedApns := apns }

def clearRetryApns : ConnectionRetryPolicy := { p with matchedApns := [] }

def initialRetryCountValue : ConnectionRetryPolicy := { p with tryCount := 0 }

def convertPdpErrorToDisconnReason : PdpErrorReason → DisConnectionReason
  | .toNormal => .normal
  | .toGsmAndCallingOnly => .gsmAndCallingOnly
  | .toClearConnection => .clearConnection
  | .toChangeConnection => .changeConnection
  | .toPermanentReject | .operatorDeterminedBarring | .missingOrUnknownApn | .unknownPdpAddrOrType
  | .userVerification | .activationRejectedGgsn | .serviceOptionNotSupported
  | .requestedServiceOptionNotSubscribed | .nsapiAlreadyUsed | .ipv4OnlyAllowed | .ipv6OnlyAllowed
  | .protocolErrors => .permanentReject
  | .none_ | .retry | .other _ => .retryConnection

/-- The parts of `GetNextRetryDelay` that come from parameters and from chance. -/
structure Delays where
  random : Int := 0
  setupFail : Int := 3000
  modemDend : Int := 3000

def getNextRetryDelay (d : Delays) (apnType : ApnType) (scene : RetryScene)
    (isDefaultApnRetrying : Bool) : Int :=
  match apnType with
  | .internalDefault => d.random + if isDefaultApnRetrying then 60000 else 5000
  | .default_ => d.random + if scene = .modemDeactivate then d.modemDend else d.setupFail
  | _ => d.random + 2000

end ConnectionRetryPolicy

structure ApnHolder where
  apnState : ApnProfileState := .idle
  dataCallEnabled : Bool := false
  capability : NetCap := .unset
  apnItem : Option ItemRef := none
  cellularDataStateMachine : Option MachineRef := none
  retryPolicy : ConnectionRetryPolicy := {}
deriving DecidableEq, Repr

namespace ApnHolder

variable (h : ApnHolder)

def setApnState (state : ApnProfileState) : ApnHolder :=
  if state = .failed then { h with apnState := state, retryPolicy := h.retryPolicy.clearRetryApns }
  else { h with apnState := state }

def requestCellularData (capability : NetCap) : ApnHolder :=
  { h with capability, dataCallEnabled := true }

def releaseAllCellularData : ApnHolder := { h with dataCallEnabled := false }

def initialApnRetryCount : ApnHolder :=
  { h with retryPolicy := h.retryPolicy.initialRetryCountValue }

end ApnHolder

/-- `sortedApnHolders` keeps the order that sorting by priority gave at start. -/
structure ApnManager where
  holder : ApnType → ApnHolder := fun _ => {}
  sortedApnHolders : List ApnType := ApnType.all
  allApnItem : List ItemRef := []
  preferId : Int := invalidProfileId

namespace ApnManager

variable (a : ApnManager)

def setHolder (t : ApnType) (h : ApnHolder) : ApnManager :=
  { a with holder := fun u => if u = t then h else a.holder u }

def hasAnyConnectedState : Bool :=
  ApnType.all.any fun t =>
    (a.holder t).apnState = .connected || (a.holder t).apnState = .disconnecting

def getOverallApnState : ApnProfileState :=
  if a.hasAnyConnectedState then .connected
  else if ApnType.all.any fun t =>
      (a.holder t).apnState = .connecting || (a.holder t).apnState = .retrying then .connecting
  else if ApnType.all.any fun t => (a.holder t).apnState = .idle then .idle
  else .failed

/-- The first state of `apnStateArr_` that one of the two default holders is in. -/
def getOverallDefaultApnState : ApnProfileState :=
  let states := [(a.holder .default_).apnState, (a.holder .internalDefault).apnState]
  ([ApnProfileState.connected, .disconnecting, .connecting, .idle, .retrying, .failed].find?
    fun st => st ∈ states).getD .idle

def isDataConnectionNotUsed (m : MachineRef) : Bool :=
  ApnType.all.all fun t => (a.holder t).cellularDataStateMachine ≠ some m

variable (item : ItemRef → ApnItem)

def getApnItemById (id : Int) : Option ItemRef :=
  a.allApnItem.find? fun r => id = (item r).attr.profileId

def getRilAttachApn : Option ItemRef :=
  if a.preferId ≠ invalidProfileId then a.allApnItem.head?
  else
    ((a.allApnItem.find? fun r => (item r).canDealWithType .ia).or
      (a.allApnItem.find? fun r => (item r).canDealWithType .default_)).or a.allApnItem.head?

def isPreferredApnUserEdited : Bool :=
  match a.getApnItemById item a.preferId with
  | some r => (item r).attr.isEdited
  | none => false

def fetchBipApns : List ItemRef :=
  (a.allApnItem.find? fun r => (item r).canDealWithType .bip).toList

def fetchDunApns (roamingState : Bool) : List ItemRef :=
  if roamingState && !a.isPreferredApnUserEdited item then []
  else
    match (a.getApnItemById item a.preferId).filter fun r => (item r).canDealWithType .dun with
    | some r => [r]
    | none => a.allApnItem.filter fun r => (item r).canDealWithType .dun

def filterMatchedApns (roamingState : Bool) : ApnType → List ItemRef
  | .dun => a.fetchDunApns item roamingState
  | .bip => a.fetchBipApns item
  | t => a.allApnItem.filter fun r => (item r).canDealWithType t

end ApnManager
end CellularData
