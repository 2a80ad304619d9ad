/-! Enumerations and constants shared by the handler and the connection machines. -/
namespace CellularData

inductive ApnProfileState
  | idle | connecting | connected | disconnecting | failed | retrying
deriving DecidableEq, Repr

inductive DisConnectionReason
  | normal | gsmAndCallingOnly | retryConnection | clearConnection | changeConnection
  | permanentReject | handoverConnection
deriving DecidableEq, Repr

/-- The APN types for which `InitApnHolders` makes a holder. -/
inductive ApnType
  | default_ | mms | internalDefault | xcap | dun | ia | supl | bip
  | snssai1 | snssai2 | snssai3 | snssai4 | snssai5 | snssai6
deriving DecidableEq, Repr

/-- Capabilities of the net manager; `unset` is the fields' initial value. -/
inductive NetCap
  | internet | mms | internalDefault | xcap | dun | ia | supl | bip
  | snssai1 | snssai2 | snssai3 | snssai4 | snssai5 | snssai6
  | end_ | unset
deriving DecidableEq, Repr

inductive RetryScene
  | setupData | modemDeactivate | others
deriving DecidableEq, Repr

/-- Causes of a PDP error that the code tells apart; `none_` is the value 0 of a call that is up. -/
inductive PdpErrorReason
  | none_ | toNormal | toGsmAndCallingOnly | retry | toClearConnection | toChangeConnection
  | toPermanentReject | operatorDeterminedBarring | missingOrUnknownApn | unknownPdpAddrOrType
  | userVerification | activationRejectedGgsn | serviceOptionNotSupported
  | requestedServiceOptionNotSubscribed | nsapiAlreadyUsed | ipv4OnlyAllowed | ipv6OnlyAllowed
  | protocolErrors | other (code : Int)
deriving DecidableEq, Repr

inductive RadioTech
  | invalid | gsm | nr | other (code : Nat)
deriving DecidableEq, Repr

inductive ErrType
  | none_ | setChdataFail | other (code : Int)
deriving DecidableEq, Repr

inductive SimState
  | unknown | notPresent | ready | loaded | other (code : Nat)
deriving DecidableEq, Repr

inductive TelCallStatus
  | unknown | active | holding | dialing | alerting | incoming | waiting | disconnected
  | disconnecting | idle
deriving DecidableEq, Repr

inductive RadioState
  | powerOff | powerNotAvailable | powerOn | other (code : Int)
deriving DecidableEq, Repr

inductive BearType
  | wifi | other (code : Nat)
deriving DecidableEq, Repr

/-- A data call as the modem reports it. -/
structure SetupDataCallResultInfo where
  reason : PdpErrorReason := .none_
  retryTime : Int := 0
  cid : Int := 0
  active : Int := 0
  flag : Int := 0
  retryScene : RetryScene := .setupData
  netPortName : String := ""
  address : String := ""
  dns : String := ""
  dnsSec : String := ""
  gateway : String := ""
  maxTransferUnit : Int := 0
deriving DecidableEq, Repr

structure RadioResponseInfo where
  flag : Int := 0
  error : ErrType := .none_
deriving DecidableEq, Repr

abbrev establishDataConnectionDelay : Int := 1000
abbrev connectionTimeout : Int := 180000
abbrev disconnectionTimeout : Int := 90000
abbrev connectionTaskTime : Int := 170000
abbrev interfaceDownTimeout : Int := 2000
abbrev resumeDataPermittedTimeout : Int := 30000
abbrev retryDelayTime : Int := 5000
abbrev loadRetryDelayTime : Int := 10000
abbrev mccChangeActivateDelay : Int := 35000
abbrev loadRetryTimes : Int := 3
abbrev apnCreateRetryTimes : Nat := 30
abbrev defaultReadApnTime : Nat := 2
abbrev maxErrSetChdataCnt : Nat := 5
abbrev errorApnId : Int := -1
abbrev defaultMtu : Int := 1500
abbrev defaultInternetConnectionScore : Int := 60
abbrev otherConnectionScore : Int := 55
abbrev vsimSlotId : Int := 2
abbrev cellDataSlotId3 : Int := 3
abbrev invalidSimId : Int := 0
abbrev invalidProfileId : Int := -1
abbrev dsdsModeV2 : Int := 0
abbrev defaultMccSize : Nat := 3

namespace ApnType

def all : List ApnType :=
  [.default_, .mms, .internalDefault, .xcap, .dun, .ia, .supl, .bip,
    .snssai1, .snssai2, .snssai3, .snssai4, .snssai5, .snssai6]

/-- The text of the type, as the APN table writes it. -/
def name : ApnType → String
  | default_ => "default"
  | mms => "mms"
  | internalDefault => "internal_default"
  | xcap => "xcap"
  | dun => "dun"
  | ia => "ia"
  | supl => "supl"
  | bip => "bip"
  | snssai1 => "snssai1"
  | snssai2 => "snssai2"
  | snssai3 => "snssai3"
  | snssai4 => "snssai4"
  | snssai5 => "snssai5"
  | snssai6 => "snssai6"

/-- `DataContextRolesId`. -/
def id : ApnType → Int
  | default_ => 1
  | mms => 2
  | supl => 3
  | dun => 4
  | ia => 6
  | internalDefault => 8
  | xcap => 9
  | bip => 10
  | snssai1 => 11
  | snssai2 => 12
  | snssai3 => 13
  | snssai4 => 14
  | snssai5 => 15
  | snssai6 => 16

/-- `DataContextPriority` of the holder. -/
def priority : ApnType → Nat
  | internalDefault => 0
  | default_ => 1
  | ia => 3
  | _ => 2

/-- Bit of the type in `ApnTypes`. -/
def bitmap : ApnType → Nat
  | default_ => 1
  | mms => 2
  | supl => 4
  | dun => 8
  | ia => 256
  | xcap => 2048
  | internalDefault => 4096
  | bip => 8192
  | snssai1 => 16384
  | snssai2 => 32768
  | snssai3 => 65536
  | snssai4 => 131072
  | snssai5 => 262144
  | snssai6 => 524288

/-- The holder that `FindApnHolderById` returns. -/
def ofId (id : Int) : Option ApnType := all.find? fun t => t.id = id

theorem mem_all (t : ApnType) : t ∈ all := by cases t <;> decide

theorem ofId_id (t : ApnType) : ofId t.id = some t := by cases t <;> decide

theorem id_of_ofId {i : Int} {t : ApnType} (h : ofId i = some t) : t.id = i := by
  simpa using List.find?_some h

theorem id_injective {t u : ApnType} (h : t.id = u.id) : t = u := by
  have := ofId_id t
  rw [h, ofId_id u] at this
  exact (Option.some.inj this).symm

theorem id_ne_errorApnId (t : ApnType) : t.id ≠ errorApnId := by cases t <;> decide

end ApnType

/-- `FindApnNameByApnId` followed by `GetApnHolder`: an unknown id stands for the default type, and
the types ims, emergency and * have no holder. -/
def apnHolderByName (id : Int) : Option ApnType :=
  if id = 5 ∨ id = 7 then none else (ApnType.ofId id).or (if id = 0 then none else some .default_)

def findApnIdByCapability : NetCap → Option ApnType
  | .internet => some .default_
  | .mms => some .mms
  | .internalDefault => some .internalDefault
  | .ia => some .ia
  | .xcap => some .xcap
  | .supl => some .supl
  | .dun => some .dun
  | .bip => some .bip
  | .snssai1 => some .snssai1
  | .snssai2 => some .snssai2
  | .snssai3 => some .snssai3
  | .snssai4 => some .snssai4
  | .snssai5 => some .snssai5
  | .snssai6 => some .snssai6
  | _ => none

/-- The last capability of the request in the order of the checks. -/
def findBestCapability (capabilities : List NetCap) : NetCap :=
  [NetCap.internet, .internalDefault, .mms, .supl, .dun, .xcap, .ia, .bip, .snssai1, .snssai2,
    .snssai3, .snssai4, .snssai5, .snssai6].foldl
    (fun netCap c => if c ∈ capabilities then c else netCap) .end_

end CellularData
