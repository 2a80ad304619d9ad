import CellularData.Slot.Switches

/-! Opening and clearing of data connections: the functions through which every event goes. -/
namespace CellularData
namespace Slot

variable (env : Env) (s : Slot)

/-- A method of a machine called by the handler; what it sends leaves the machine at once. -/
def callMachine (m : MachineRef) (f : CellularDataStateMachine → CellularDataStateMachine) : Slot :=
  match s.machine? m with
  | some x =>
    { s with
      stateMachines := s.stateMachines.set m (f x).clearOutbox
      effects := ((f x).data.outbox.map (Effect.machine m)).reverse ++ s.effects }
  | none => s

def updateCellularDataConnectState (t : ApnType) : Slot :=
  if t = .default_ ∨ t = .internalDefault then
    s.effect (.updateCellularDataConnectState s.apnManager.getOverallDefaultApnState)
  else s

section
variable {α : Type*} {s} (g : Slot → α)

/-- A call writes the machines and the log. -/
theorem apply_callMachine
    (hg : ∀ (s : Slot) l es, g { s with stateMachines := l, effects := es } = g s)
    (m : MachineRef) (f : CellularDataStateMachine → CellularDataStateMachine) :
    g (s.callMachine m f) = g s := by
  unfold callMachine
  split
  · exact hg s _ _
  · rfl

theorem apply_updateCellularDataConnectState
    (hg : ∀ (s : Slot) state, g (s.effect (.updateCellularDataConnectState state)) = g s)
    (t : ApnType) : g (s.updateCellularDataConnectState t) = g s := by
  unfold updateCellularDataConnectState
  split_ifs
  · exact hg s _
  · rfl

theorem apply_foldl {β : Type*} {f : Slot → β → Slot} (hf : ∀ s b, g (f s b) = g s) (l : List β)
    (s : Slot) : g (l.foldl f s) = g s :=
  List.foldlRecOn l f (motive := fun s' => g s' = g s) rfl fun s' hs' b _ => (hf s' b).trans hs'

end

/-! Clearing -/

def clearConnection (t : ApnType) (reason : DisConnectionReason) : Slot :=
  match (s.holder t).cellularDataStateMachine with
  | none => s
  | some m =>
    match (s.holder t).apnState with
    | .idle | .disconnecting | .retrying => s
    | _ => (s.setApnState t .disconnecting).postMachine m (.disconnect ⟨t, reason⟩)

def clearHolders (reason : DisConnectionReason) : Slot :=
  ApnType.all.foldl (fun s t => if t = .mms then s else s.clearConnection t reason) s

/-- Nothing is cleared when the deactivation after a handover fails. -/
def clearAllConnections (reason : DisConnectionReason) : Slot :=
  if s.isHandoverOccurred then
    let s := s.effect .deactivatePdpAfterHandover
    if env.deactivatePdpResult ≠ .success then s
    else { s with isHandoverOccurred := false }.clearHolders reason
  else s.clearHolders reason

section
variable {α : Type*} {env s} (g : Slot → α)

theorem apply_clearConnection
    (hg : ∀ (s : Slot) t m params,
      g ((s.setApnState t .disconnecting).postMachine m (.disconnect params)) = g s)
    (t : ApnType) (reason : DisConnectionReason) : g (s.clearConnection t reason) = g s := by
  unfold clearConnection
  split
  · rfl
  · split
    · rfl
    · rfl
    · rfl
    · exact hg s t _ _

/-- Besides the holders and machines, clearing writes what a handover leaves behind. -/
theorem apply_clearAllConnections
    (hg : ∀ (s : Slot) t m params,
      g ((s.setApnState t .disconnecting).postMachine m (.disconnect params)) = g s)
    (hhandover : ∀ (s : Slot) occurred,
      g { s.effect .deactivatePdpAfterHandover with isHandoverOccurred := occurred } = g s)
    (reason : DisConnectionReason) : g (s.clearAllConnections env reason) = g s := by
  have hclear : ∀ s : Slot, g (s.clearHolders reason) = g s := by
    refine apply_foldl g (fun s t => ?_) ApnType.all
    split_ifs
    · rfl
    · exact apply_clearConnection g hg t reason
  unfold clearAllConnections
  split_ifs
  · exact hhandover s s.isHandoverOccurred
  · exact (hclear _).trans (hhandover s false)
  · exact hclear s

end

def releaseDataConnection (t : ApnType) : Slot :=
  match (s.holder t).cellularDataStateMachine with
  | none => s
  | some m =>
    (s.modifyHolder t fun h => { h with apnState := .disconnecting }).postMachine m
      (.disconnect ⟨t, .clearConnection⟩)

/-! Checks of the holder -/

def isEstablishDataConnection : HandlerEvent → Bool
  | .establishDataConnection _ _ => true
  | _ => false

def checkApnState (t : ApnType) : Slot × Bool :=
  if (s.holder t).apnState = .disconnecting ∧ !s.queue.hasInnerEvent isEstablishDataConnection then
    (s.sendEventAfter (.establishDataConnection t.id none) establishDataConnectionDelay, false)
  else if (s.holder t).apnState = .retrying then (s, false)
  else
    let s := if (s.holder t).apnState = .failed then s.setApnState t .idle else s
    if (s.holder t).apnState ≠ .idle then (s, false)
    else
      match s.apnManager.filterMatchedApns s.apnItem (0 < env.psRoamingState) t with
      | [] => (s, false)
      | matchedApns =>
        (s.modifyHolder t fun h =>
          { h with retryPolicy :=
              h.retryPolicy.setMatchedApns (fun r => (s.apnItem r).attr.profileId) matchedApns },
          true)

def isMultiDefaultApn (t : ApnType) : Bool := t = .bip || t = .dun

/-- The answer of the check is only logged. -/
def checkMultiApnState (t : ApnType) : Slot :=
  if t ≠ .default_ then s
  else
    ApnType.all.foldl (fun s u =>
      if isMultiDefaultApn u then
        match (s.holder u).apnState with
        | .connected | .connecting => s.releaseDataConnection u
        | _ => s
      else s) s

def hasAnyHigherPriorityConnection (t : ApnType) : Bool :=
  s.apnManager.sortedApnHolders.any fun u =>
    t.priority < u.priority && (s.holder u).dataCallEnabled &&
      ((s.holder u).apnState = .connected || (s.holder u).apnState = .connecting ||
        (s.holder u).apnState = .disconnecting)

/-! Choice of the machine -/

/-- The search over the machines; a null APN item is dereferenced when there is no DUN list. -/
def searchCompatible (t : ApnType) (dunApnList : List ApnItem) (isRoaming : Bool) :
    List CellularDataStateMachine → MachineRef → Option MachineRef → Bool →
      Option MachineRef × Bool
  | [], _, potentialDc, fault => (potentialDc, fault)
  | curDc :: rest, m, potentialDc, fault =>
    let apnItem := curDc.data.link.apnItem
    let fault := fault || (dunApnList = [] && apnItem = none)
    let compatible :=
      if dunApnList = [] then apnItem.any fun item => item.canDealWithType t
      else dunApnList.any fun dunItem => ApnItem.isCompatibleApnItem apnItem (some dunItem) isRoaming
    if compatible && curDc.isActiveState then (some m, fault)
    else
      let potentialDc :=
        if compatible && curDc.isActivatingState then some m
        else if compatible && curDc.isDisconnectingState then potentialDc.or (some m)
        else potentialDc
      searchCompatible t dunApnList isRoaming rest (m + 1) potentialDc fault

def checkForCompatibleDataConnection (t : ApnType) : Slot × Option MachineRef :=
  let dunApnList :=
    if t = .dun then
      (s.apnManager.fetchDunApns s.apnItem (0 < env.psRoamingState)).map s.apnItem
    else []
  let (s, isRoaming) := s.isCellularDataRoamingEnabled env
  let (potentialDc, fault) :=
    searchCompatible t dunApnList (isRoaming.getD false) s.stateMachines 0 none false
  (if fault then s.setCrash .nullApnItem else s, potentialDc)

def findIdleCellularDataConnection : Option MachineRef :=
  (List.range s.stateMachines.length).find? fun m =>
    (s.machine? m).any (·.isInactiveState) && s.apnManager.isDataConnectionNotUsed m

/-- An idle machine, else a new one that the connection manager takes over. -/
def findOrCreateCellularDataConnect : Slot × MachineRef :=
  match s.findIdleCellularDataConnection with
  | some m => (s, m)
  | none =>
    ({ s with stateMachines := s.stateMachines ++ [CellularDataStateMachine.create] },
      s.stateMachines.length)

/-! Establishing -/

def setApnActivateStart (t : ApnType) : Slot :=
  match t with
  | .default_ => { s with defaultApnActTime := env.currentTime }
  | .internalDefault => { s with internalApnActTime := env.currentTime }
  | _ => s

variable {env s} in
/-- Only the times at which activations began are written. -/
theorem apply_setApnActivateStart {α : Type*} (f : Slot → α)
    (hf : ∀ (s : Slot) d i, f { s with defaultApnActTime := d, internalApnActTime := i } = f s)
    (t : ApnType) : f (s.setApnActivateStart env t) = f s := by
  cases t with
  | default_ => exact hf s env.currentTime s.internalApnActTime
  | internalDefault => exact hf s s.defaultApnActTime env.currentTime
  | _ => rfl

def connectRecord (t : ApnType) (m : MachineRef) : ConnectRecord where
  apnType := t
  machine := m
  airplaneModeOn := env.airplaneModeOn
  isMccChanged := s.isMccChanged
  psRegInService := env.psRegInService
  simState := env.simState
  psRoamingState := env.psRoamingState
  psRadioTech := env.psRadioTech
  switches := s.dataSwitchSettings
  storedDataRoaming := (s.queryUserDataRoamingStatus env).2
  lastCallState := s.lastCallState

/-- `MSG_SM_CONNECT` is posted to the machine given to the holder. -/
def sendConnect (t : ApnType) (m : MachineRef) (params : DataConnectionParams) : Slot :=
  { s.postMachine m (.connect params) with connectLog := s.connectRecord env t m :: s.connectLog }

/-- The end of `EstablishDataConnection`. The arguments of `DataConnectionParams` stand in the
places where the code puts them. -/
def startConnection (t : ApnType) (m : MachineRef) (apnItem : ItemRef) (radioTech : RadioTech) :
    Slot :=
  let s := s.callMachine m fun x => x.setCapability (s.holder t).capability
  let s := s.modifyHolder t fun h => { h with apnItem := some apnItem }
  let s := s.setApnState t .connecting
  let s := s.modifyHolder t fun h => { h with cellularDataStateMachine := some m }
  let s := s.updateCellularDataConnectState t
  let s := s.sendConnect env t m ⟨t, (s.apnItem apnItem).attr.profileId, radioTech,
    0 < env.psRoamingState, s.dataSwitchSettings.userDataRoaming, true⟩
  s.setApnActivateStart env t

def handleCompatibleDataConnection (m : MachineRef) (t : ApnType) : Slot × Bool :=
  if (s.machine? m).any (·.isActiveState) then
    let s := s.modifyHolder t fun h => h.releaseAllCellularData
    (s.callMachine m fun x =>
      (x.setReuseApnCap (s.holder t).capability).setIfReuseSupplierId true, true)
  else
    let newApnId := ((findApnIdByCapability (s.holder t).capability).map (·.id)).getD (-1)
    (s.sendEventAfter (.establishDataConnection newApnId none) establishDataConnectionDelay, false)

/-- The preferred APN of the store, else the holder's next one to try. -/
def chooseApnItem (t : ApnType) : Slot × Option ItemRef :=
  match s.apnManager.getApnItemById s.apnItem env.currentApnId with
  | some r => (s, some r)
  | none =>
    let (r, retryPolicy) :=
      (s.holder t).retryPolicy.getNextRetryApnItem fun r => (s.apnItem r).badApn
    (s.modifyHolder t fun h => { h with retryPolicy }, r)

/-- A connection that is no part of another one; in single-connection mode it may have to wait. -/
def establishOwnConnection (t : ApnType) (apnItem : ItemRef) (radioTech : RadioTech) :
    Slot × Bool :=
  let (s, single) := s.isSingleConnectionEnabled env radioTech
  if single && s.hasAnyHigherPriorityConnection t then (s, false)
  else if single && (s.apnManager.getOverallApnState = .connecting ||
      s.apnManager.getOverallApnState = .connected) then
    (s.clearAllConnections env .changeConnection, false)
  else
    let (s, m) := s.findOrCreateCellularDataConnect
    (s.startConnection env t m apnItem radioTech, true)

def establishDataConnection (t : ApnType) (radioTech : RadioTech) : Slot × Bool :=
  match s.chooseApnItem env t with
  | (s, none) => (s, false)
  | (s, some apnItem) =>
    if t = .default_ ∨ t = .internalDefault then s.establishOwnConnection env t apnItem radioTech
    else
      match s.checkForCompatibleDataConnection env t with
      | (s, some m) => s.handleCompatibleDataConnection m t
      | (s, none) => s.establishOwnConnection env t apnItem radioTech

def attemptEstablishDataConnection (t : ApnType) : Slot :=
  if env.airplaneModeOn then s
  else if !s.checkCellularDataSlotId env t then s
  else
    match s.checkAttachAndSimState env t with
    | (s, false) => s
    | (s, true) =>
      if !s.checkRoamingState env t then s
      else
        match s.checkApnState env t with
        | (s, false) => s
        | (s, true) =>
          let s := s.checkMultiApnState t
          match s.establishDataConnection env t env.psRadioTech with
          | (s, true) => { s with isHandoverOccurred := false }
          | (s, false) => s

def clearAllApnBad : Slot :=
  { s with apnItems := ApnType.all.foldl (fun items t =>
      match (s.holder t).apnItem with
      | some r => items.modify r fun item => { item with badApn := false }
      | none => items) s.apnItems }

def establishIfConnectable (t : ApnType) : Slot :=
  if (s.holder t).dataCallEnabled then
    let s := s.updateCellularDataConnectState t
    let s :=
      match (s.holder t).apnState with
      | .failed | .retrying => s.releaseDataConnection t
      | _ => s
    s.attemptEstablishDataConnection env t
  else s

def establishAllApnsIfConnectable : Slot :=
  s.clearAllApnBad.apnManager.sortedApnHolders.foldl
    (fun s t => s.establishIfConnectable env t) s.clearAllApnBad

end Slot
end CellularData
