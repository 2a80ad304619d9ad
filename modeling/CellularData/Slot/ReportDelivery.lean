import CellularData.Lib.Channel
import CellularData.Slot.ActReport

/-! The report of activation attempts on its way to a caller in another process: handler, controller,
service, parcel and client. -/
namespace CellularData
open Lib

inductive ServiceError
  | success | fail | permissionErr | invalidParam | ipcConnectStubFail | ipc (code : Int)
deriving DecidableEq, Repr

/-- The words of `ApnActivateReportInfoIpc`. -/
structure ApnActivateReportInfoIpc where
  actTimes : Int := 0
  averDuration : Int := 0
  topReason : Int := 0
  actSuccTimes : Int := 0
deriving DecidableEq, Repr

namespace ApnActivateReportInfo

/-- The report in memory: an average that has not been set is what its word holds. -/
def stored (word : Int) (info : ApnActivateReportInfo) : ApnActivateReportInfo :=
  { info with averDuration := some (info.averDuration.getD word) }

/-- A report of which nothing has been set. -/
def uninitialized (word : Int) : ApnActivateReportInfo where
  actTimes := word.toNat
  averDuration := none
  topReason := word.toNat
  actSuccTimes := word.toNat

end ApnActivateReportInfo

/-! Parcel -/

inductive ReportParcelType
  | uint32
deriving DecidableEq

abbrev ReportParcel (P : Type) := Channel ReportParcelType (fun _ => Int) P

namespace ApnActivateReportInfoIpc

variable {P : Type} (parcel : ReportParcel P)

def ofReportInfo (word : Int) (obj : ApnActivateReportInfo) : ApnActivateReportInfoIpc where
  actTimes := obj.actTimes
  averDuration := obj.averDuration.getD word
  topReason := obj.topReason
  actSuccTimes := obj.actSuccTimes

def transferToReportInfo (infoIpc : ApnActivateReportInfoIpc) : ApnActivateReportInfo where
  actTimes := infoIpc.actTimes.toNat
  averDuration := some infoIpc.averDuration
  topReason := infoIpc.topReason.toNat
  actSuccTimes := infoIpc.actSuccTimes.toNat

def marshalling (info : ApnActivateReportInfoIpc) : StateT P Option Unit := do
  parcel.write .uint32 info.actTimes
  parcel.write .uint32 info.averDuration
  parcel.write .uint32 info.topReason
  parcel.write .uint32 info.actSuccTimes

/-- `none` is the null pointer. -/
def unmarshalling : StateT P Option ApnActivateReportInfoIpc := do
  let actTimes ← parcel.read .uint32
  let averDuration ← parcel.read .uint32
  let topReason ← parcel.read .uint32
  let actSuccTimes ← parcel.read .uint32
  return { actTimes, averDuration, topReason, actSuccTimes }

/-- A report written into a parcel and read from it. -/
def throughParcel (p : P) (info : ApnActivateReportInfoIpc) : Option ApnActivateReportInfoIpc :=
  (do
    info.marshalling parcel
    unmarshalling parcel).run' p

variable {parcel} {contents : P → List (Sigma fun _ : ReportParcelType => Int)}

/-- The words in the order in which both sides treat them. -/
def words (info : ApnActivateReportInfoIpc) : List (Sigma fun _ : ReportParcelType => Int) :=
  [⟨.uint32, info.actTimes⟩, ⟨.uint32, info.averDuration⟩, ⟨.uint32, info.topReason⟩,
    ⟨.uint32, info.actSuccTimes⟩]

theorem marshalling_writes (hp : parcel.Fifo contents) (info : ApnActivateReportInfoIpc) :
    Channel.Writes contents (info.marshalling parcel) info.words := by
  unfold marshalling
  iterate 3 refine Channel.Writes.bind (hp.writes _ _) ?_
  exact hp.writes _ _

theorem unmarshalling_reads (hp : parcel.Fifo contents) (info : ApnActivateReportInfoIpc) :
    Channel.Reads contents (unmarshalling parcel) info.words info := by
  unfold unmarshalling
  iterate 4 refine Channel.Reads.bind (hp.reads _ _) ?_
  exact Channel.Reads.pure _

theorem throughParcel_eq {p : P} (hp : parcel.Fifo contents) (hempty : contents p = [])
    (info : ApnActivateReportInfoIpc) : throughParcel parcel p info = some info := by
  obtain ⟨q, hq, -⟩ := Channel.reads_of_writes hempty (marshalling_writes hp info)
    (unmarshalling_reads hp info)
  unfold throughParcel
  rw [StateT.run'_eq, hq]
  rfl

end ApnActivateReportInfoIpc

/-! Controller -/

/-- What a query reads outside of the handler. -/
structure ReportEnv where
  env : Env := {}
  errorCode : PdpErrorReason → Nat := fun _ => 1
  permitted : Bool := true
  /-- What a word of memory holds that has not been set. -/
  word : Int := 0

structure CellularDataController where
  cellularDataHandler : Option Slot

namespace CellularDataController

variable (e : ReportEnv) (c : CellularDataController) (info : ApnActivateReportInfo)

/-- The answer of the handler is copied to the caller's report. -/
def actReportInfo (report : Slot → Slot × ApnActivateReportInfo) :
    CellularDataController × Bool × ApnActivateReportInfo :=
  match c.cellularDataHandler with
  | none => (c, false, info)
  | some s =>
    let (s, reportInfo) := report s
    ({ cellularDataHandler := some s }, true,
      { actTimes := reportInfo.actTimes
        averDuration := reportInfo.averDuration
        topReason := reportInfo.topReason
        actSuccTimes := reportInfo.actSuccTimes })

def getDefaultActReportInfo : CellularDataController × Bool × ApnActivateReportInfo :=
  c.actReportInfo info fun s => s.getDefaultActReportInfo e.env e.errorCode

def getInternalActReportInfo : CellularDataController × Bool × ApnActivateReportInfo :=
  c.actReportInfo info fun s => s.getInternalActReportInfo e.env e.errorCode

end CellularDataController

/-! Service -/

structure CellularDataService where
  isInitSuccess : Bool := true
  cellularDataControllers : Int → Option CellularDataController

/-- A call of the service with its out-parameter. -/
abbrev ReportCall :=
  CellularDataService → ApnActivateReportInfoIpc →
    CellularDataService × ServiceError × ApnActivateReportInfoIpc

namespace CellularDataService

variable (e : ReportEnv) (slotId : Int)

def getCellularDataController (service : CellularDataService) : Option CellularDataController :=
  if slotId < 0 ∨ !service.isInitSuccess then none else service.cellularDataControllers slotId

def setController (service : CellularDataService) (c : CellularDataController) :
    CellularDataService :=
  { service with cellularDataControllers := fun i =>
      if i = slotId then some c else service.cellularDataControllers i }

/-- The handler that a query is for. -/
def handler (service : CellularDataService) : Option Slot :=
  (service.getCellularDataController slotId).bind CellularDataController.cellularDataHandler

def getDefaultActReportInfo : ReportCall := fun service infoIpc =>
  if !e.permitted then (service, .permissionErr, infoIpc)
  else
    match service.getCellularDataController slotId with
    | none => (service, .invalidParam, infoIpc)
    | some c =>
      let (c, result, info) := c.getDefaultActReportInfo e (.uninitialized e.word)
      (service.setController slotId c, if result then .success else .fail, .ofReportInfo e.word info)

/-- The report is not copied to the out-parameter. -/
def getInternalActReportInfo : ReportCall := fun service infoIpc =>
  if !e.permitted then (service, .permissionErr, infoIpc)
  else
    match service.getCellularDataController slotId with
    | none => (service, .invalidParam, infoIpc)
    | some c =>
      let (c, result, _) := c.getInternalActReportInfo e (.uninitialized e.word)
      (service.setController slotId c, if result then .success else .fail, infoIpc)

variable {e slotId} {service : CellularDataService} {infoIpc : ApnActivateReportInfoIpc}

theorem getDefaultActReportInfo_success
    (h : (getDefaultActReportInfo e slotId service infoIpc).2.1 = .success) :
    ∃ s, service.handler slotId = some s ∧ (getDefaultActReportInfo e slotId service infoIpc).2.2 =
      .ofReportInfo e.word (s.getDefaultActReportInfo e.env e.errorCode).2 := by
  unfold handler
  unfold getDefaultActReportInfo at h ⊢
  split_ifs at h ⊢ with hpermitted
  cases hc : service.getCellularDataController slotId with
  | none =>
    rw [hc] at h
    cases h
  | some c =>
    obtain ⟨handler⟩ := c
    cases handler with
    | none =>
      rw [hc] at h
      cases h
    | some s => exact ⟨s, rfl, rfl⟩

theorem getInternalActReportInfo_success
    (h : (getInternalActReportInfo e slotId service infoIpc).2.1 = .success) :
    ∃ s, service.handler slotId = some s ∧
      (getInternalActReportInfo e slotId service infoIpc).2.2 = infoIpc := by
  unfold handler
  unfold getInternalActReportInfo at h ⊢
  split_ifs at h ⊢ with hpermitted
  cases hc : service.getCellularDataController slotId with
  | none =>
    rw [hc] at h
    cases h
  | some c =>
    obtain ⟨handler⟩ := c
    cases handler with
    | none =>
      rw [hc] at h
      cases h
    | some s => exact ⟨s, rfl, rfl⟩

end CellularDataService

/-! Client -/

/-- What the generated proxy and stub make of a call of the service: on success the stub has given it
a fresh out-parameter, which the caller receives through the parcel of the reply. -/
def Delivers {P : Type} (parcel : ReportParcel P) (p : P) (invoke : ReportCall → ReportCall) : Prop :=
  ∀ (call : ReportCall) (service : CellularDataService) (out : ApnActivateReportInfoIpc),
    (invoke call service out).2.1 = .success → (call service {}).2.1 = .success ∧
      (call service {}).2.2.throughParcel parcel p = some (invoke call service out).2.2

namespace CellularDataClient

variable (e : ReportEnv) (proxy : Option (ReportCall → ReportCall)) (service : CellularDataService)
  (slotId : Int) (info : ApnActivateReportInfo)

/-- The code that both queries share; the report given by the caller is only overwritten. -/
def actReportInfo (call : ReportCall) : ServiceError × ApnActivateReportInfo :=
  match proxy with
  | none => (.ipcConnectStubFail, info)
  | some invoke =>
    let (_, ret, infoIpc) := invoke call service (.ofReportInfo e.word info)
    (ret, infoIpc.transferToReportInfo)

def getDefaultActReportInfo : ServiceError × ApnActivateReportInfo :=
  actReportInfo e proxy service info (CellularDataService.getDefaultActReportInfo e slotId)

def getInternalActReportInfo : ServiceError × ApnActivateReportInfo :=
  actReportInfo e proxy service info (CellularDataService.getInternalActReportInfo e slotId)

end CellularDataClient

namespace CellularDataClient

variable {P : Type} {parcel : ReportParcel P} {p : P}
  {contents : P → List (Sigma fun _ : ReportParcelType => Int)} {invoke : ReportCall → ReportCall}
  {e : ReportEnv} {proxy : Option (ReportCall → ReportCall)} {service : CellularDataService}
  {slotId : Int} {info : ApnActivateReportInfo}

/-- A caller that succeeds has what the service has put into a fresh out-parameter. -/
theorem actReportInfo_success (hp : parcel.Fifo contents) (hempty : contents p = [])
    (hproxy : ∀ invoke ∈ proxy, Delivers parcel p invoke) {call : ReportCall}
    (h : (actReportInfo e proxy service info call).1 = .success) :
    (call service {}).2.1 = .success ∧ (actReportInfo e proxy service info call).2 =
      (call service {}).2.2.transferToReportInfo := by
  unfold actReportInfo at h ⊢
  cases proxy with
  | none => cases h
  | some invoke =>
    obtain ⟨hcall, hparcel⟩ := hproxy invoke rfl call service _ h
    rw [ApnActivateReportInfoIpc.throughParcel_eq hp hempty] at hparcel
    refine ⟨hcall, ?_⟩
    rw [Option.some.inj hparcel]

end CellularDataClient

namespace Slot

variable {env : Env} {errorCode : PdpErrorReason → Nat} {s : Slot} {t : ApnType}

theorem foldl_add_of_none {apnId : Int} {l : List ApnActivateInfo}
    (h : ∀ info ∈ l, info.apnId ≠ apnId) (a : ActTotals) :
    l.foldl (ActTotals.add errorCode apnId) a = a := by
  induction l with
  | nil => rfl
  | cons info l ih =>
    have hhead : ActTotals.add errorCode apnId a info = a := if_pos (h info List.mem_cons_self)
    rw [List.foldl_cons, hhead]
    exact ih fun x hx => h x (List.mem_cons_of_mem _ hx)

/-- The handler reports nothing exactly where no record of the type is left. -/
theorem getApnActReportInfo_blank_iff (errorCode : PdpErrorReason → Nat) (word : Int) :
    (s.getApnActReportInfo env errorCode t.id).2.stored word =
        ApnActivateReportInfoIpc.transferToReportInfo {} ↔
      (s.eraseApnActivateList env).recorded t = 0 := by
  constructor
  · intro h
    have htimes : (s.getApnActReportInfo env errorCode t.id).2.actTimes = 0 :=
      congrArg ApnActivateReportInfo.actTimes h
    unfold getApnActReportInfo at htimes
    dsimp only [ActTotals.reportInfo] at htimes
    rw [times_foldl_add] at htimes
    unfold recorded
    omega
  · intro h
    have hnone : ∀ info ∈ (s.eraseApnActivateList env).apnActivateChrList, info.apnId ≠ t.id := by
      intro info hinfo hid
      exact List.countP_eq_zero.mp h info hinfo (decide_eq_true hid)
    unfold getApnActReportInfo
    dsimp only
    rw [foldl_add_of_none hnone]
    rfl

end Slot

namespace CellularDataClient

variable {P : Type} {parcel : ReportParcel P} {p : P}
  {contents : P → List (Sigma fun _ : ReportParcelType => Int)}

/-- A client that succeeds has the default report of the handler; it has the internal one exactly
where the handler has no record of that type. -/
theorem report_delivered_iff (hp : parcel.Fifo contents) (hempty : contents p = [])
    (e : ReportEnv) (proxy : Option (ReportCall → ReportCall))
    (hproxy : ∀ invoke ∈ proxy, Delivers parcel p invoke) (service : CellularDataService)
    (slotId : Int) (info : ApnActivateReportInfo) :
    ((getDefaultActReportInfo e proxy service slotId info).1 = .success →
      ∃ s, service.handler slotId = some s ∧
        (getDefaultActReportInfo e proxy service slotId info).2 =
          (s.getDefaultActReportInfo e.env e.errorCode).2.stored e.word) ∧
    ((getInternalActReportInfo e proxy service slotId info).1 = .success →
      ∃ s, service.handler slotId = some s ∧
        ((getInternalActReportInfo e proxy service slotId info).2 =
            (s.getInternalActReportInfo e.env e.errorCode).2.stored e.word ↔
          (s.eraseApnActivateList e.env).recorded .internalDefault = 0)) := by
  constructor
  · intro h
    obtain ⟨hservice, hreport⟩ := actReportInfo_success hp hempty hproxy h
    obtain ⟨s, hs, hinfo⟩ := CellularDataService.getDefaultActReportInfo_success hservice
    refine ⟨s, hs, ?_⟩
    rw [hinfo] at hreport
    exact hreport
  · intro h
    obtain ⟨hservice, hreport⟩ := actReportInfo_success hp hempty hproxy h
    obtain ⟨s, hs, hinfo⟩ := CellularDataService.getInternalActReportInfo_success hservice
    refine ⟨s, hs, ?_⟩
    rw [hinfo] at hreport
    rw [← Slot.getApnActReportInfo_blank_iff e.errorCode e.word]
    unfold getInternalActReportInfo
    rw [hreport]
    exact eq_comm

/-! An attempt of the internal default holder that the caller does not hear of -/

/-- The internal default holder is connected. -/
def internalLabels : List Label :=
  Slot.loadLabels ++ Slot.requestLabels .internalDefault 0 ++ [.dispatchMachine Slot.serviceEnv 0] ++
    Slot.answeredLabels ++ [.dispatchMachine Slot.serviceEnv 0, .dispatchHandler Slot.serviceEnv]

/-- Stub and proxy over a queue of words. -/
def queueProxy : ReportCall → ReportCall := fun call service out =>
  match call service {} with
  | (service, .success, infoIpc) =>
    match infoIpc.throughParcel Channel.queue [] with
    | some infoIpc => (service, .success, infoIpc)
    | none => (service, .ipc 1, out)
  | (service, ret, _) => (service, ret, out)

theorem delivers_queueProxy : Delivers Channel.queue [] queueProxy := by
  intro call service out h
  have hparcel : ∀ infoIpc : ApnActivateReportInfoIpc,
      infoIpc.throughParcel Channel.queue [] = some infoIpc :=
    ApnActivateReportInfoIpc.throughParcel_eq Channel.queue_fifo rfl
  unfold queueProxy at h ⊢
  generalize call service {} = reply at h ⊢
  obtain ⟨service', ret, infoIpc⟩ := reply
  cases ret with
  | success =>
    dsimp only
    rw [hparcel]
    exact ⟨rfl, rfl⟩
  | _ => cases h

/-- A service whose slot 0 has the handler. -/
def serviceOf (s : Slot) : CellularDataService where
  cellularDataControllers := fun i => if i = 0 then some ⟨some s⟩ else none

/-- The client asks for the default report and receives it. -/
theorem report_delivered_connected : ∃ s, Slot.system.Reachable s ∧
    (getDefaultActReportInfo {} (some queueProxy) (serviceOf s) 0 (.uninitialized 7)).1 =
      .success ∧
    ∃ s', (serviceOf s).handler 0 = some s' ∧
      (getDefaultActReportInfo {} (some queueProxy) (serviceOf s) 0 (.uninitialized 7)).2 =
        (s'.getDefaultActReportInfo {} fun _ => 1).2.stored 0 := by
  obtain ⟨s, -, hs, hp⟩ := Slot.exists_run Slot.connectedLabels
    (p := fun s => (getDefaultActReportInfo {} (some queueProxy) (serviceOf s) 0
      (.uninitialized 7)).1 = .success) (by decide +kernel)
  have hsuccess := of_decide_eq_true hp
  refine ⟨s, hs, hsuccess, ?_⟩
  exact (report_delivered_iff Channel.queue_fifo rfl {} (some queueProxy)
    (fun invoke hinvoke => Option.some.inj hinvoke ▸ delivers_queueProxy) (serviceOf s) 0
    (.uninitialized 7)).1 hsuccess

/-- The handler has counted one attempt, which succeeded, and the client succeeds with zeros. -/
theorem internal_report_lost : ∃ s, Slot.system.Reachable s ∧ s.crash = none ∧
    (getInternalActReportInfo {} (some queueProxy) (serviceOf s) 0 (.uninitialized 7)).1 =
      .success ∧
    (getInternalActReportInfo {} (some queueProxy) (serviceOf s) 0 (.uninitialized 7)).2.actTimes =
      0 ∧
    (s.getInternalActReportInfo {} fun _ => 1).2.actTimes = 1 := by
  obtain ⟨s, -, hs, hp⟩ := Slot.exists_run internalLabels
    (p := fun s => s.crash = none ∧
      (getInternalActReportInfo {} (some queueProxy) (serviceOf s) 0 (.uninitialized 7)).1 =
        .success ∧
      (getInternalActReportInfo {} (some queueProxy) (serviceOf s) 0
        (.uninitialized 7)).2.actTimes = 0 ∧
      (s.getInternalActReportInfo {} fun _ => 1).2.actTimes = 1) (by decide +kernel)
  exact ⟨s, hs, of_decide_eq_true hp⟩

end CellularDataClient
end CellularData
