import CellularData.Slot.Connect

/-! Reports of the machines: completion, end of a connection, link data, and the retries. -/
namespace CellularData
namespace Slot

variable (env : Env) (s : Slot)

abbrev keepApnActivatePeriod : Int := 30000

/-- The age is an unsigned difference. -/
def eraseApnActivateList : Slot :=
  { s with apnActivateChrList := s.apnActivateChrList.filter fun info =>
      !(keepApnActivatePeriod < (env.currentTime - info.actSuccTime) % 2 ^ 64) }

/-- The duration is only set for the two default types. -/
def setApnActivateEnd (resultInfo : SetupDataCallResultInfo) : Slot :=
  let duration : Option Int :=
    if resultInfo.flag = ApnType.default_.id ∧ s.defaultApnActTime ≠ 0 then
      some ((env.currentTime - s.defaultApnActTime) % 2 ^ 32)
    else if resultInfo.flag = ApnType.internalDefault.id ∧ s.internalApnActTime ≠ 0 then
      some ((env.currentTime - s.internalApnActTime) % 2 ^ 32)
    else none
  let s := s.eraseApnActivateList env
  { s with apnActivateChrList := s.apnActivateChrList ++
      [⟨env.currentTime, duration, resultInfo.reason, resultInfo.flag⟩] }

def updateApnInfo (profileId : Int) : Slot :=
  if env.simId ≤ invalidSimId then s else s.effect (.updateApnInfo profileId)

def incallEvent (e : IncallEvent) : Slot :=
  if s.hasIncallDataStateMachine then s.effect (.incallEvent e) else s

def updatePhysicalConnectionState (noActiveConnection : Bool) : Slot :=
  if noActiveConnection = s.physicalConnectionActiveState then
    { s with physicalConnectionActiveState := !noActiveConnection }.effect
      (.dcPhysicalLinkActiveUpdate !noActiveConnection)
  else s

/-! Completion -/

def dataConnCompleteUpdateState (t : ApnType) (resultInfo : SetupDataCallResultInfo) : Slot :=
  let s :=
    match (s.holder t).cellularDataStateMachine with
    | some m =>
      let proxyIpAddress :=
        match s.apnManager.getRilAttachApn s.apnItem with
        | some r => (s.apnItem r).attr.proxyIpAddress
        | none => ""
      let s := if splitProxyIpAddress isDecValue proxyIpAddress = none then s.setCrash .proxyPort else s
      let menv := env.machineEnv s
      s.callMachine m fun x =>
        ((x.updateHttpProxy proxyIpAddress).getD x).updateNetworkInfoFrom menv resultInfo
    | none => s.setApnState t .idle
  let s :=
    if s.physicalConnectionActiveState then s
    else { s with physicalConnectionActiveState := true }.effect (.dcPhysicalLinkActiveUpdate true)
  let s := s.incallEvent .dataConnected
  let s := s.updateCellularDataConnectState t
  let s :=
    if t = .default_ then
      match (s.holder t).apnItem with
      | some r => s.updateApnInfo env (s.apnItem r).attr.profileId
      | none => s.setCrash .nullCurrentApn
    else s
  if t = .mms then s.removeEvent isResumeDataPermittedTimeout else s

/-- The state of the holder is not looked at. -/
def establishDataConnectionComplete (resultInfo : SetupDataCallResultInfo) : Slot :=
  let s := s.setApnActivateEnd env resultInfo
  match apnHolderByName resultInfo.flag with
  | none => s
  | some t =>
    let s := s.setApnState t .connected
    let s := s.modifyHolder t fun h => h.initialApnRetryCount
    let s :=
      if t = .default_ then s.sendEvent (.retryToSetupDatacall ApnType.internalDefault.id) else s
    s.dataConnCompleteUpdateState env t resultInfo

/-! End of a connection -/

def setApnBadState (t : ApnType) (isBad : Bool) : Slot :=
  match (s.holder t).apnItem with
  | some r =>
    { s with apnItems := s.apnItems.modify r fun item => { item with badApn := isBad } }
  | none => s

def retryOrClearConnection (t : ApnType) (reason : DisConnectionReason)
    (netInfo : SetupDataCallResultInfo) : Slot :=
  match reason with
  | .clearConnection => (s.clearConnection t reason).establishAllApnsIfConnectable env
  | .permanentReject => (s.setApnBadState t true).clearConnection t .clearConnection
  | .retryConnection =>
    let s := s.setApnState t .retrying
    let isRetrying := decide (s.apnManager.getOverallDefaultApnState = .retrying)
    let delayTime := ConnectionRetryPolicy.getNextRetryDelay env.retryDelays t netInfo.retryScene
      isRetrying
    s.sendEventAfter (.retryToSetupDatacall netInfo.flag) delayTime
  | _ => s

def handleSortConnection : Slot :=
  match s.apnManager.getOverallApnState with
  | .idle | .failed =>
    match s.apnManager.sortedApnHolders.find? fun t => (s.holder t).dataCallEnabled with
    | some t => s.sendEvent (.establishDataConnection t.id none)
    | none => s
  | _ => s

def handleIncallDataDisconnectComplete : Slot :=
  if s.apnManager.hasAnyConnectedState then s else s.incallEvent .dataDisconnected

def handleDisconnectDataCompleteForMmsType (t : ApnType) : Slot :=
  if t = .mms then (s.setDataPermittedForMms env false).removeEvent isResumeDataPermittedTimeout
  else s

/-- The registration is removed under the cid the machine has stored. -/
def releaseMachine (t : ApnType) (m : MachineRef) (netInfo : SetupDataCallResultInfo) : Slot :=
  let menv := env.machineEnv s
  let s := s.callMachine m fun x => x.updateNetworkInfoFrom menv netInfo
  let s :=
    match s.machine? m with
    | some x => s.removeActiveConnectionByCid x.data.cid
    | none => s
  let s := s.modifyHolder t fun h => { h with cellularDataStateMachine := none }
  s.setApnState t .idle

theorem apply_releaseMachine {α : Type*} {env s} (g : Slot → α) {t : ApnType} {m : MachineRef}
    {netInfo : SetupDataCallResultInfo}
    (hcall : ∀ menv, g (s.callMachine m fun x => x.updateNetworkInfoFrom menv netInfo) = g s)
    (hrelease : ∀ (s : Slot) registry,
      g (({ s with cidActiveConnectionMap := registry }.modifyHolder t fun h =>
        { h with cellularDataStateMachine := none }).setApnState t .idle) = g s) :
    g (s.releaseMachine env t m netInfo) = g s := by
  unfold releaseMachine
  extract_lets menv s₁ s₂ s₃
  refine Eq.trans ?_ (hcall menv)
  dsimp only [s₃, s₂]
  split
  · exact hrelease s₁ _
  · exact hrelease s₁ s₁.cidActiveConnectionMap

def disconnectDataComplete (netInfo : SetupDataCallResultInfo) : Slot :=
  match ApnType.ofId netInfo.flag with
  | none => s
  | some t =>
    match (s.holder t).cellularDataStateMachine with
    | none => s.setApnState t .idle
    | some m =>
      let reason := ConnectionRetryPolicy.convertPdpErrorToDisconnReason netInfo.reason
      let s := s.releaseMachine env t m netInfo
      let s := s.updateCellularDataConnectState t
      let s := s.updatePhysicalConnectionState s.isNoActiveConnection
      let s :=
        if (s.holder t).dataCallEnabled then s.retryOrClearConnection env t reason netInfo else s
      let s := s.handleIncallDataDisconnectComplete
      let s := if reason = .changeConnection then s.handleSortConnection else s
      s.handleDisconnectDataCompleteForMmsType env t

/-! Link data -/

/-- The report goes to the holder's machine while the holder is connecting or connected. -/
def handleUpdateNetInfo (netInfo : SetupDataCallResultInfo) : Slot :=
  match ApnType.ofId netInfo.flag with
  | none => s
  | some t =>
    match (s.holder t).apnState, (s.holder t).cellularDataStateMachine with
    | .connecting, some m | .connected, some m =>
      let menv := env.machineEnv s
      s.callMachine m fun x => x.updateNetworkInfoFrom menv netInfo
    | _, _ => s

/-! Retries and requests -/

def retryToSetupDatacall (apnId : Int) : Slot :=
  match ApnType.ofId apnId with
  | none => s
  | some t =>
    if (s.holder t).apnState ≠ .retrying then s
    else (s.setApnState t .idle).sendEvent (.establishDataConnection apnId none)

/-- The reason for which a request's connection is cleared, and whether a handover has occurred. -/
def findDisConnectionReason (t : ApnType) (disconnectBearType : Option BearType)
    (single : Bool) : DisConnectionReason × Option Bool :=
  let reason : DisConnectionReason :=
    match disconnectBearType with
    | none => if single then .changeConnection else .clearConnection
    | some b =>
      if t = .internalDefault then .handoverConnection
      else if b = .wifi then .handoverConnection
      else .clearConnection
  if reason = .handoverConnection ∧ t = .default_ then
    if s.slotId ≠ env.primarySlotId then (.clearConnection, some false) else (reason, some true)
  else (reason, none)

def msgEstablishDataConnection (id : Int) (disconnectBearType : Option BearType) : Slot :=
  match ApnType.ofId id with
  | none => s
  | some t =>
    if (s.holder t).dataCallEnabled then s.attemptEstablishDataConnection env t
    else
      let (s, single) := s.isSingleConnectionEnabled env env.psRadioTech
      let (reason, handover) := s.findDisConnectionReason env t disconnectBearType single
      let s := { s with isHandoverOccurred := handover.getD s.isHandoverOccurred }
      s.clearConnection t reason

def msgRequestNetwork (request : NetRequest) (isRequest : Bool) : Slot :=
  match findApnIdByCapability request.capability with
  | none => s
  | some t =>
    let s :=
      if isRequest then s.modifyHolder t fun h => h.requestCellularData request.capability
      else s.modifyHolder t fun h => h.releaseAllCellularData
    s.sendEvent (.establishDataConnection t.id (some request.bearTypes))

def resumeDataPermittedTimerOut : Slot :=
  if (s.holder .mms).apnState = .idle then s.setDataPermittedForMms env false else s

end Slot
end CellularData
