import CellularData.StateMachine.Entries
import CellularData.Machine.Refinement

/-! The connection machine records the states it is in: no entry action asks for a transition. -/
namespace CellularData
open StateMachine

namespace CellularDataStateMachine

variable {env : MachineEnv} {m m' m'' : CellularDataStateMachine} {st : ConnState}

/-- A state of the machine that has a record; `Default` is only a parent. -/
def isLeaf (st : ConnState) : Bool := st ≠ .default_

/-- Most of the code leaves these members alone, also what runs between two events. -/
structure Outside (m m' : CellularDataStateMachine) : Prop where
  originalState : m'.originalState = m.originalState
  curState : m'.curState = m.curState
  destState : m'.destState = m.destState
  isQuit : m'.isQuit = m.isQuit
  currentState : m'.data.currentState = m.data.currentState

theorem Outside.refl (m : CellularDataStateMachine) : Outside m m := ⟨rfl, rfl, rfl, rfl, rfl⟩

theorem Outside.trans (h : Outside m m') (h' : Outside m' m'') : Outside m m'' where
  originalState := h'.originalState.trans h.originalState
  curState := h'.curState.trans h.curState
  destState := h'.destState.trans h.destState
  isQuit := h'.isQuit.trans h.isQuit
  currentState := h'.currentState.trans h.currentState

theorem Unchanged.outside (h : Unchanged m m') : Outside m m' :=
  ⟨h.originalState, congrArg Control.state h.control, h.destState, h.isQuit, h.currentState⟩

namespace Outside

theorem modifyData (h : Outside m m') {f : MachineData → MachineData}
    (hf : (f m'.data).currentState = m'.data.currentState) : Outside m (m'.modifyData f) :=
  h.trans ⟨rfl, rfl, rfl, rfl, hf⟩

theorem emit (h : Outside m m') {o : MachineOutput} : Outside m (m'.emit o) :=
  h.trans ⟨rfl, rfl, rfl, rfl, rfl⟩

theorem modifyLink (h : Outside m m') {f : LinkData → LinkData} : Outside m (m'.modifyLink f) :=
  h.trans ⟨rfl, rfl, rfl, rfl, rfl⟩

theorem setActive (h : Outside m m') {st : ConnState} {b : Bool} : Outside m (m'.setActive st b) :=
  h.trans ⟨rfl, rfl, rfl, rfl, rfl⟩

theorem setPdpErrorReason (h : Outside m m') {reason : PdpErrorReason} :
    Outside m (m'.setPdpErrorReason reason) :=
  h.trans ⟨rfl, rfl, rfl, rfl, rfl⟩

theorem setDataCallResultInfo (h : Outside m m') {info : SetupDataCallResultInfo} :
    Outside m (m'.setDataCallResultInfo info) :=
  h.trans ⟨rfl, rfl, rfl, rfl, rfl⟩

theorem setDeActiveApnTypeId (h : Outside m m') {id : Int} :
    Outside m (m'.setDeActiveApnTypeId id) :=
  h.trans ⟨rfl, rfl, rfl, rfl, rfl⟩

theorem setCid (h : Outside m m') {cid : Int} : Outside m (m'.setCid cid) :=
  h.trans ⟨rfl, rfl, rfl, rfl, rfl⟩

theorem sendEventAfter (h : Outside m m') {e : MachineEvent} {delay : Int} :
    Outside m (m'.sendEventAfter e delay) :=
  h.trans ⟨rfl, rfl, rfl, rfl, rfl⟩

theorem removeEvent (h : Outside m m') {p : MachineEvent → Bool} :
    Outside m (m'.removeEvent p) :=
  h.trans ⟨rfl, rfl, rfl, rfl, rfl⟩

theorem deferEvent (h : Outside m m') {e : MachineEvent} : Outside m (m'.deferEvent e) :=
  h.trans ⟨rfl, rfl, rfl, rfl, rfl⟩

theorem freeConnection (h : Outside m m') (params : DataDisconnectParams) :
    Outside m (m'.freeConnection params) := by
  unfold CellularDataStateMachine.freeConnection
  exact h.emit.sendEventAfter

end Outside

/-- What a state does with an event: at most it asks for a leaf. -/
structure Moves (m m' : CellularDataStateMachine) : Prop where
  originalState : m'.originalState = m.originalState
  curState : m'.curState = m.curState
  currentState : m'.data.currentState = m.data.currentState
  destState : m'.destState = m.destState ∨ ∃ st, isLeaf st = true ∧ m'.destState = some st

theorem Outside.moves (h : Outside m m') : Moves m m' :=
  ⟨h.originalState, h.curState, h.currentState, .inl h.destState⟩

theorem Moves.refl (m : CellularDataStateMachine) : Moves m m := (Outside.refl m).moves

theorem Outside.transitionTo (h : Outside m m') (hst : isLeaf st = true) :
    Moves m (m'.transitionTo st) :=
  ⟨h.originalState, h.curState, h.currentState, .inr ⟨st, hst, rfl⟩⟩

theorem Outside.endCall (h : Outside m m') : Moves m m'.endCall :=
  h.setDeActiveApnTypeId.transitionTo rfl

/-- An attempt that has failed goes back to `Inactive`. -/
theorem Outside.fail (h : Outside m m') {reason : PdpErrorReason} {id : Int} :
    Moves m (((m'.setPdpErrorReason reason).setDeActiveApnTypeId id).transitionTo .inactive) :=
  h.setPdpErrorReason.setDeActiveApnTypeId.transitionTo rfl

/-! Events -/

theorem moves_defaultProcess (e : MachineEvent) (m : CellularDataStateMachine) :
    Moves m (defaultProcess env e m).2 := by
  cases e with
  | drsOrRatChanged =>
    have hsupplier : Outside m m.publishSupplier := unchanged_publishSupplier.outside
    have hlink : Outside m m.publishSupplier.publishLink :=
      hsupplier.trans unchanged_publishLink.outside
    show Moves m (emit (if m.publishSupplier.isActiveState || m.publishSupplier.isActivatingState
      then m.publishSupplier.publishLink else m.publishSupplier) _)
    split_ifs
    · exact hlink.emit.moves
    · exact hsupplier.emit.moves
  | updateNetworkInfo => exact unchanged_updateNetworkInfo.outside.moves
  | disconnect params => exact (Outside.refl m).deferEvent.moves
  | disconnectAll params => exact (Outside.refl m).deferEvent.moves
  | _ => exact .refl m

theorem outside_doConnect (params : DataConnectionParams) :
    Outside m (m.doConnect env params) := by
  unfold doConnect
  dsimp only
  generalize hm : ((m.modifyData fun d => { d with apnId := params.apnHolder.id }).modifyLink
    fun l => { l with apnItem := env.currentApn params.apnHolder }) = m'
  have hapn : Outside m m' := hm ▸ ((Outside.refl m).modifyData rfl).modifyLink
  cases env.currentApn params.apnHolder with
  | none => exact hapn
  | some apn => exact (hapn.emit.modifyData rfl).sendEventAfter

theorem moves_inactiveProcess (e : MachineEvent) (m : CellularDataStateMachine) :
    Moves m (inactiveProcess env e m).2 := by
  cases e with
  | connect params => exact (outside_doConnect params).transitionTo rfl
  | _ => exact .refl m

theorem moves_rilErrorResponse (rilInfo : RadioResponseInfo) :
    Moves m (m.rilErrorResponse rilInfo).2 := by
  have hm : Outside m m := .refl m
  unfold rilErrorResponse
  split_ifs
  · exact hm.moves
  · exact (hm.modifyData rfl).emit.fail
  · exact (hm.modifyData rfl).fail
  · exact hm.fail

theorem moves_rilActivatePdpContextDone (answer : SetupAnswer) :
    Moves m (m.rilActivatePdpContextDone answer).2 := by
  cases answer with
  | resultInfo info =>
    have hcount : Outside m (m.modifyData fun d => { d with rilSetChdataErrCnt := 0 }) :=
      (Outside.refl m).modifyData rfl
    unfold rilActivatePdpContextDone
    dsimp only
    split_ifs
    · exact hcount.moves
    · exact hcount.setCid.setDataCallResultInfo.setDeActiveApnTypeId.transitionTo rfl
    · exact hcount.setCid.emit.deferEvent.transitionTo rfl
  | rilInfo info => exact moves_rilErrorResponse info
  | empty => exact .refl m

theorem moves_processConnectTimeout (connectId : Int) :
    Moves m (m.processConnectTimeout env connectId) := by
  have hm : Outside m m := .refl m
  unfold processConnectTimeout
  split_ifs
  · exact hm.moves
  · exact hm.moves
  · exact hm.setDeActiveApnTypeId.setPdpErrorReason.transitionTo rfl

theorem moves_activatingProcess (e : MachineEvent) (m : CellularDataStateMachine) :
    Moves m (activatingProcess env e m).2 := by
  have hm : Outside m m := .refl m
  cases e with
  | setupDataCall answer => exact moves_rilActivatePdpContextDone answer
  | connectTimeoutCheck connectId => exact moves_processConnectTimeout connectId
  | getLastFailDone => exact hm.transitionTo rfl
  | drsOrRatChanged => exact hm.deferEvent.moves
  | connect params => exact hm.deferEvent.moves
  | getRilBandwidth => exact hm.deferEvent.moves
  | _ => exact hm.moves

theorem moves_activeDisconnect (params : DataDisconnectParams) :
    Moves m (m.activeDisconnect params) := by
  have hclear : Outside m m.clearReuse := unchanged_clearReuse.outside
  exact (hclear.setPdpErrorReason.freeConnection params).transitionTo rfl

theorem moves_processLostConnection (info : SetupDataCallResultInfo) :
    Moves m (m.processLostConnection info) := by
  have hclear : Outside m m.clearReuse := unchanged_clearReuse.outside
  exact hclear.setDeActiveApnTypeId.setDataCallResultInfo.transitionTo rfl

theorem moves_activeProcess (e : MachineEvent) (m : CellularDataStateMachine) :
    Moves m (activeProcess env e m).2 := by
  have hsupplier : Moves m m.publishSupplier := unchanged_publishSupplier.outside.moves
  cases e with
  | disconnect params => exact moves_activeDisconnect params
  | disconnectAll params => exact moves_activeDisconnect params
  | lostConnection info => exact moves_processLostConnection info
  | rilAdapterHostDied info => exact moves_processLostConnection info
  | linkCapabilityChanged up down =>
    exact (unchanged_processLinkCapabilityChanged up down).outside.moves
  | dataRoamOn => exact hsupplier
  | dataRoamOff => exact hsupplier
  | voiceCallStarted => exact hsupplier
  | voiceCallEnded => exact hsupplier
  | nrStateChanged =>
    have hrefresh : Unchanged m ((m.refreshTcpBufferSizes env).refreshConnectionBandwidths env) :=
      unchanged_refreshTcpBufferSizes.trans unchanged_refreshConnectionBandwidths
    exact (hrefresh.trans unchanged_updateNetworkInfo).outside.moves
  | nrFrequencyChanged =>
    have hrefresh : Unchanged m (m.refreshConnectionBandwidths env) :=
      unchanged_refreshConnectionBandwidths
    exact (hrefresh.trans unchanged_updateNetworkInfo).outside.moves
  | setupDataCall answer =>
    cases answer with
    | resultInfo info => exact (Outside.refl m).removeEvent.emit.moves
    | _ => exact .refl m
  | _ => exact .refl m

theorem moves_processRilDeactivateDataCall (rilInfo : Option RadioResponseInfo) :
    Moves m (m.processRilDeactivateDataCall rilInfo) := by
  have hend : Moves m (m.removeEvent isDisconnectTimeoutCheck).endCall :=
    (Outside.refl m).removeEvent.endCall
  cases rilInfo with
  | none => exact hend
  | some info =>
    show Moves m (if m.data.connectId ≠ info.flag then m
      else (m.removeEvent isDisconnectTimeoutCheck).endCall)
    split_ifs
    · exact .refl m
    · exact hend

theorem moves_disconnectingProcess (e : MachineEvent) (m : CellularDataStateMachine) :
    Moves m (disconnectingProcess e m).2 := by
  have hm : Outside m m := .refl m
  have hretry : Moves m (m.setPdpErrorReason .retry).endCall := hm.setPdpErrorReason.endCall
  cases e with
  | connect params => exact hm.deferEvent.moves
  | deactivateDataCall rilInfo => exact moves_processRilDeactivateDataCall rilInfo
  | disconnectTimeoutCheck connectId =>
    show Moves m (if connectId ≠ m.data.connectId then m else (m.setPdpErrorReason .retry).endCall)
    split_ifs
    · exact hm.moves
    · exact hretry
  | rilAdapterHostDied info => exact hretry
  | _ => exact hm.moves

theorem moves_stateProcess (st : ConnState) (e : MachineEvent) (m : CellularDataStateMachine) :
    Moves m (stateProcess env st e m).2 := by
  cases st with
  | default_ => exact moves_defaultProcess e m
  | inactive => exact moves_inactiveProcess e m
  | activating => exact moves_activatingProcess e m
  | active => exact moves_activeProcess e m
  | disconnecting => exact moves_disconnectingProcess e m

/-! Entry and exit -/

theorem inactiveBegin_marks (m : CellularDataStateMachine) :
    m.inactiveBegin.originalState = m.originalState ∧ m.inactiveBegin.destState = m.destState ∧
      m.inactiveBegin.data.currentState = some .inactive := by
  have hid : Outside m (m.modifyData fun d =>
      { d with connectId := (d.connectId + 1).bmod (2 ^ 32) }) := (Outside.refl m).modifyData rfl
  unfold inactiveBegin
  generalize (m.modifyData fun d => { d with connectId := (d.connectId + 1).bmod (2 ^ 32) }) = m'
    at hid ⊢
  have hrecorded {m'' : CellularDataStateMachine} (h : Outside m m'') :
      (m''.setCurrentState .inactive).originalState = m.originalState ∧
        (m''.setCurrentState .inactive).destState = m.destState ∧
        (m''.setCurrentState .inactive).data.currentState = some .inactive :=
    ⟨h.originalState, h.destState, rfl⟩
  dsimp only
  split_ifs
  · exact hrecorded hid.setActive
  · exact hrecorded (hid.setActive.modifyLink.emit.modifyData rfl)

theorem activeBegin_marks (env : MachineEnv) (m : CellularDataStateMachine) :
    (m.activeBegin env).originalState = m.originalState ∧
      (m.activeBegin env).destState = m.destState ∧
      (m.activeBegin env).data.currentState = some .active := by
  have hrefresh : Outside m (((m.setActive .active true).refreshTcpBufferSizes
      env).refreshConnectionBandwidths env) := by
    have htcp : Unchanged (m.setActive .active true)
        ((m.setActive .active true).refreshTcpBufferSizes env) := unchanged_refreshTcpBufferSizes
    exact ((Outside.refl m).setActive.trans htcp.outside).trans
      unchanged_refreshConnectionBandwidths.outside
  exact ⟨hrefresh.originalState, hrefresh.destState, rfl⟩

theorem stateBegin_marks (env : MachineEnv) (st : ConnState) (m : CellularDataStateMachine) :
    (stateBegin env st m).originalState = m.originalState ∧
      (stateBegin env st m).destState = m.destState ∧
      (stateBegin env st m).data.currentState =
        if isLeaf st then some st else m.data.currentState := by
  cases st with
  | inactive => exact inactiveBegin_marks m
  | active => exact activeBegin_marks env m
  | _ => exact ⟨rfl, rfl, rfl⟩

theorem stateEnd_marks (st : ConnState) (m : CellularDataStateMachine) :
    (stateEnd st m).originalState = m.originalState ∧ (stateEnd st m).curState = m.curState ∧
      (stateEnd st m).destState = m.destState ∧
      (stateEnd st m).data.currentState = m.data.currentState := by
  cases st <;> exact ⟨rfl, rfl, rfl, rfl⟩

theorem recording (env : MachineEnv) :
    Recording (states env) isLeaf fun d => d.currentState where
  ancestor {st a} ha := by
    have hsplit : (states env).ancestors st = if st = .default_ then [] else [.default_] := rfl
    rw [hsplit] at ha
    split_ifs at ha
    · cases ha
    · rw [List.mem_singleton.mp ha]
      rfl
  begin_record {st} hst m := by
    have hmarks := (stateBegin_marks env st m).2.2
    rw [hst, if_pos rfl] at hmarks
    exact hmarks
  ancestor_record {st} hst m := by
    have hmarks := (stateBegin_marks env st m).2.2
    rw [hst, if_neg Bool.false_ne_true] at hmarks
    exact hmarks
  ancestor_destState _ m := (stateBegin_marks env _ m).2.1
  end_record st m := (stateEnd_marks st m).2.2.2
  end_curState st m := (stateEnd_marks st m).2.1
  end_destState st m := (stateEnd_marks st m).2.2.1
  process_record st e m := (moves_stateProcess st e m).currentState
  process_curState st e m := (moves_stateProcess st e m).curState
  process_destState st e m := (moves_stateProcess st e m).destState

theorem original_respects (env : MachineEnv) :
    (states env).Respects fun m m' => m'.originalState = m.originalState where
  refl _ := rfl
  trans hl hr := hr.trans hl
  stateBegin st m := (stateBegin_marks env st m).1
  stateEnd st m := (stateEnd_marks st m).1
  stateProcess st e m := (moves_stateProcess st e m).originalState
  destState _ _ := rfl
  curState _ _ := rfl
  deferred _ := rfl
  stop _ _ := rfl

theorem straight (env : MachineEnv) (e : MachineEvent) (m : CellularDataStateMachine) :
    EventHandler.Straight (states env) e m :=
  (recording env).straight (original_respects env)
    fun st m' _ _ _ hdest => (stateBegin_marks env st m').2.1.trans hdest

/-! Runs of a machine -/

theorem steady : Steady states (Outside create) Outside (fun _ _ _ => True) isLeaf
    (fun d => d.currentState) .inactive where
  recording := recording
  isLeaf := rfl
  stays env m := (stateBegin_marks env .inactive m).2.1
  original := original_respects
  init_not_quit env e he := by
    cases e with
    | stateMachineInit => rfl
    | _ => cases he
  made_original hmade := hmade.originalState
  made_running hmade := hmade.isQuit
  outside_same ho := ⟨ho.originalState, ho.curState, ho.destState, ho.currentState⟩
  init_straight env _ m _ _ _ := straight env _ m
  straight env _ m _ _ _ _ _ := straight env _ m

end CellularDataStateMachine
end CellularData
