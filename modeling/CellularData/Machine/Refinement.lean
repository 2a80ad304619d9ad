import CellularData.Machine.Control

/-! The hierarchical machine refines the flat automaton: one event of the framework, with its exit and
entry actions, is one step of the automaton, and it sends the same signals. -/
namespace CellularData
open Lib StateMachine

namespace CellularDataStateMachine

variable {env : MachineEnv} {m : CellularDataStateMachine} {e : MachineEvent} {st : ConnState}

/-- A step of the machine agrees with a step of the automaton. -/
structure Refines (m : CellularDataStateMachine) (r : Control × List MachineOutput) : Prop where
  control : m.control = r.1
  signals : m.signals = r.2
  settled : m.clearOutbox.Settled

/-- The event goes to the leaf and, if it is not processed there, to `Default`. -/
def handle (env : MachineEnv) (st : ConnState) (e : MachineEvent) (m : CellularDataStateMachine) :
    CellularDataStateMachine :=
  match stateProcess env st e m with
  | (true, m') => m'
  | (false, m') => (defaultProcess env e m').2

theorem process_eq_handle (hm : m.Settled) (hcur : m.curState = some st)
    (hinit : e ≠ .stateMachineInit) (hquit : e ≠ .stateMachineQuit) :
    m.process env e = EventHandler.processTransitions (handle env st e m) (states env) := by
  have hst : st ≠ .default_ := fun h => hm.leaf (h ▸ hcur)
  have hpath : EventHandler.processMsg m (states env) e = handle env st e m := by
    simp only [EventHandler.processMsg, hcur, states, hst, if_false, EventHandler.processPath, handle]
    cases hleaf : stateProcess env st e m with
    | mk processed m' =>
      cases processed with
      | true => rfl
      | false =>
        simp only [stateProcess]
        cases defaultProcess env e m' with
        | mk processed m'' => cases processed <;> rfl
  simp only [process, EventHandler.processEvent, hm.notQuit, states, hinit, hquit, decide_false,
    Bool.false_eq_true, if_false]
  exact congrArg (fun x => EventHandler.processTransitions x (states env)) hpath

/-! Link data and reports to the net manager do not matter to the automaton -/

structure Unchanged (m m' : CellularDataStateMachine) : Prop where
  control : m'.control = m.control
  signals : m'.signals = m.signals
  originalState : m'.originalState = m.originalState
  destState : m'.destState = m.destState
  isQuit : m'.isQuit = m.isQuit
  currentState : m'.data.currentState = m.data.currentState
  deActiveApnTypeId : m'.data.deActiveApnTypeId = m.data.deActiveApnTypeId

theorem Unchanged.refl (m : CellularDataStateMachine) : Unchanged m m :=
  ⟨rfl, rfl, rfl, rfl, rfl, rfl, rfl⟩

theorem Unchanged.trans {m' m'' : CellularDataStateMachine} (h : Unchanged m m')
    (h' : Unchanged m' m'') : Unchanged m m'' :=
  ⟨h'.control.trans h.control, h'.signals.trans h.signals, h'.originalState.trans h.originalState,
    h'.destState.trans h.destState, h'.isQuit.trans h.isQuit,
    h'.currentState.trans h.currentState, h'.deActiveApnTypeId.trans h.deActiveApnTypeId⟩

theorem unchanged_modifyLink (f : LinkData → LinkData) : Unchanged m (m.modifyLink f) :=
  ⟨rfl, rfl, rfl, rfl, rfl, rfl, rfl⟩

theorem unchanged_emit {o : MachineOutput} (ho : o.isSignal = false) : Unchanged m (m.emit o) := by
  refine ⟨rfl, ?_, rfl, rfl, rfl, rfl, rfl⟩
  simp only [signals, emit, EventHandler.modifyData, List.filter_append, List.filter_singleton, ho,
    cond_false, List.append_nil]

theorem unchanged_publishSupplier : Unchanged m m.publishSupplier := unchanged_emit rfl

theorem unchanged_publishLink : Unchanged m m.publishLink := unchanged_emit rfl

theorem unchanged_publish : Unchanged m m.publish := by
  unfold publish
  split_ifs
  · exact unchanged_publishSupplier.trans unchanged_publishLink
  · exact unchanged_publishSupplier

theorem unchanged_updateNetworkInfoFrom (info : SetupDataCallResultInfo) :
    Unchanged m (m.updateNetworkInfoFrom env info) := by
  have hport : Unchanged m (m.modifyData fun d => { d with ifName := info.netPortName }) :=
    ⟨rfl, rfl, rfl, rfl, rfl, rfl, rfl⟩
  exact hport.trans ((unchanged_modifyLink _).trans unchanged_publish)

theorem unchanged_updateNetworkInfo : Unchanged m (m.updateNetworkInfo env) :=
  (unchanged_modifyLink _).trans unchanged_publish

theorem unchanged_updateHttpProxy {m' : CellularDataStateMachine} {proxyIpAddress : String}
    (h : m.updateHttpProxy proxyIpAddress = some m') : Unchanged m m' := by
  obtain ⟨httpProxy, -, rfl⟩ := Option.map_eq_some_iff.mp h
  exact unchanged_modifyLink _

theorem unchanged_setIfReuseSupplierId (isReused : Bool) :
    Unchanged m (m.setIfReuseSupplierId isReused) := by
  unfold setIfReuseSupplierId
  split_ifs
  · exact .refl m
  · exact unchanged_emit rfl

theorem unchanged_clearReuse : Unchanged m m.clearReuse := by
  unfold clearReuse
  split_ifs
  · exact .refl m
  · exact (unchanged_setIfReuseSupplierId false).trans (unchanged_modifyLink _)

theorem unchanged_refreshTcpBufferSizes : Unchanged m (m.refreshTcpBufferSizes env) :=
  unchanged_modifyLink _

theorem unchanged_setConnectionBandwidth (up down : Nat) :
    Unchanged m (m.setConnectionBandwidth up down) := unchanged_modifyLink _

theorem unchanged_refreshConnectionBandwidths :
    Unchanged m (m.refreshConnectionBandwidths env) := unchanged_setConnectionBandwidth _ _

theorem unchanged_processLinkCapabilityChanged (up down : Nat) :
    Unchanged m (m.processLinkCapabilityChanged env up down) := by
  unfold processLinkCapabilityChanged
  split_ifs
  · exact unchanged_refreshConnectionBandwidths.trans unchanged_updateNetworkInfo
  · exact (unchanged_modifyLink _).trans unchanged_updateNetworkInfo

/-! Machines in the middle of a step -/

/-- A machine in `st` that has sent `os` and has not yet decided to leave. -/
structure Settling (m : CellularDataStateMachine) (st : ConnState) (os : List MachineOutput) :
    Prop where
  curState : m.curState = some st
  destState : m.destState = some st
  originalState : m.originalState = some .inactive
  notQuit : m.isQuit = false
  leaf : st ≠ .default_
  apnId : m.data.apnId ≠ errorApnId
  currentState : m.data.currentState = some st
  deActiveApnTypeId : m.data.deActiveApnTypeId = errorApnId
  signals : m.signals = os

theorem Settled.settling (hm : m.Settled) (hcur : m.curState = some st) : m.Settling st [] where
  curState := hcur
  destState := hm.destState.trans hcur
  originalState := hm.originalState
  notQuit := hm.notQuit
  leaf := fun h => hm.leaf (h ▸ hcur)
  apnId := hm.apnId
  currentState := hm.currentState.trans hcur
  deActiveApnTypeId := hm.deActiveApnTypeId
  signals := by rw [signals, hm.outbox, List.filter_nil]

variable {os : List MachineOutput}

theorem Settling.unchanged {m' : CellularDataStateMachine} (hm : m.Settling st os)
    (h : Unchanged m m') : m'.Settling st os where
  curState := (congrArg Control.state h.control).trans hm.curState
  destState := h.destState.trans hm.destState
  originalState := h.originalState.trans hm.originalState
  notQuit := h.isQuit.trans hm.notQuit
  leaf := hm.leaf
  apnId := (congrArg Control.apnId h.control).trans_ne hm.apnId
  currentState := h.currentState.trans hm.currentState
  deActiveApnTypeId := h.deActiveApnTypeId.trans hm.deActiveApnTypeId
  signals := h.signals.trans hm.signals

theorem Settling.emit (hm : m.Settling st os) {o : MachineOutput} (ho : o.isSignal = true) :
    (m.emit o).Settling st (os ++ [o]) := by
  obtain ⟨hcur, hds, horig, hquit, hleaf, hapn, hcurrent, hid, hsignals⟩ := hm
  refine ⟨hcur, hds, horig, hquit, hleaf, hapn, hcurrent, hid, ?_⟩
  rw [← hsignals]
  simp only [CellularDataStateMachine.signals, CellularDataStateMachine.emit,
    EventHandler.modifyData, List.filter_append, List.filter_singleton, ho, cond_true]

theorem Settling.withQueue (hm : m.Settling st os) (queue : EventQueue MachineEvent) :
    Settling { m with queue } st os := { hm with }

theorem Settling.defer (hm : m.Settling st os) (e : MachineEvent) :
    (m.deferEvent e).Settling st os := { hm with }

theorem Settling.withCid (hm : m.Settling st os) (cid : Int) : (m.setCid cid).Settling st os :=
  { hm with }

theorem Settling.withResult (hm : m.Settling st os) (info : SetupDataCallResultInfo) :
    (m.setDataCallResultInfo info).Settling st os := { hm with }

/-! Transitions -/

def next (env : MachineEnv) (m : CellularDataStateMachine) : CellularDataStateMachine :=
  EventHandler.processTransitions m (states env)

theorem exitState_eq (env : MachineEnv) (hcur : m.curState = some st) (hleaf : st ≠ .default_) :
    ∃ f, m.exitState (states env) = { m with isActive := f } := by
  have hexit : m.exitState (states env) = stateEnd st (stateEnd .default_ m) := by
    simp only [EventHandler.exitState, hcur, states, hleaf, if_false, List.foldl_cons,
      List.foldl_nil]
  rw [hexit]
  cases st <;> exact ⟨_, rfl⟩

theorem enterState_eq {dest : ConnState} (hds : m.destState = some dest)
    (hdest : dest ≠ .default_) :
    m.enterState (states env) = stateBegin env dest (m.setActive .default_ true) := by
  have hkeep : (stateBegin env .default_ m).destState = some dest := hds
  simp only [EventHandler.enterState, hds, states, hdest, if_false, List.foldl_cons, List.foldl_nil,
    hkeep]
  rfl

/-- A transition ends the old states, begins the new ones and replays what has been deferred. -/
theorem next_of_ne (m : CellularDataStateMachine) (env : MachineEnv) {dest : ConnState}
    (hcur : m.curState = some st)
    (hds : m.destState = some dest) (hleaf : st ≠ .default_) (hdest : dest ≠ .default_)
    (hne : st ≠ dest) : ∃ f, m.next env =
      { stateBegin env dest { m with isActive := f } with
        curState := (stateBegin env dest { m with isActive := f }).destState }.sendDeferredEvent := by
  obtain ⟨f, hexit⟩ := exitState_eq env hcur hleaf
  refine ⟨fun x => if x = .default_ then true else f x, ?_⟩
  have hmove : ¬ m.curState = m.destState := by
    rw [hcur, hds]
    exact fun h => hne (Option.some.inj h)
  have henter : EventHandler.enterState { m with isActive := f } (states env) = _ :=
    enterState_eq hds hdest
  simp only [next, EventHandler.processTransitions, hmove, if_false, hexit]
  rw [henter]
  rfl

theorem Settling.stay (env : MachineEnv) (hm : m.Settling st os) :
    Refines (m.next env) (m.control, os) := by
  have hnext : m.next env = m := by
    simp only [next, EventHandler.processTransitions, hm.curState, hm.destState, if_true]
  have hleaf : m.curState ≠ some .default_ := by
    rw [hm.curState]
    exact fun h => hm.leaf (Option.some.inj h)
  rw [hnext]
  exact ⟨rfl, hm.signals, ⟨hm.originalState, hm.destState.trans hm.curState.symm,
    hm.currentState.trans hm.curState.symm, hm.notQuit, hleaf, hm.apnId, hm.deActiveApnTypeId,
    rfl⟩⟩

theorem Settling.move (dest : ConnState) (env : MachineEnv) (hm : m.Settling st os)
    (hne : st ≠ dest) (hdest : dest ≠ .default_) (hinactive : dest ≠ .inactive) :
    Refines ((m.transitionTo dest).next env) (m.control.moveTo dest, os) := by
  obtain ⟨hcur, -, horig, hquit, hleaf, hapn, -, hid, hsignals⟩ := hm
  obtain ⟨f, hnext⟩ := next_of_ne (m.transitionTo dest) env hcur rfl hleaf hdest hne
  have hleaf' : some dest ≠ some ConnState.default_ := fun h => hdest (Option.some.inj h)
  rw [hnext]
  cases dest with
  | default_ => exact absurd rfl hdest
  | inactive => exact absurd rfl hinactive
  | activating => exact ⟨rfl, hsignals, ⟨horig, rfl, rfl, hquit, hleaf', hapn, hid, rfl⟩⟩
  | active => exact ⟨rfl, hsignals, ⟨horig, rfl, rfl, hquit, hleaf', hapn, hid, rfl⟩⟩
  | disconnecting => exact ⟨rfl, hsignals, ⟨horig, rfl, rfl, hquit, hleaf', hapn, hid, rfl⟩⟩

/-- The attempt ends and nobody is told. -/
theorem Settling.quietEnd (env : MachineEnv) (hm : m.Settling st os) (hne : st ≠ .inactive) :
    Refines ((m.transitionTo .inactive).next env)
      ({ m.control.moveTo .inactive with connectId := Control.nextConnectId m.data.connectId },
        os) := by
  obtain ⟨hcur, -, horig, hquit, hleaf, hapn, -, hid, hsignals⟩ := hm
  obtain ⟨f, hnext⟩ := next_of_ne (m.transitionTo .inactive) env hcur rfl hleaf (by decide) hne
  have hleaf' : some ConnState.inactive ≠ some ConnState.default_ := by decide
  rw [hnext]
  simp only [stateBegin, inactiveBegin, EventHandler.modifyData, EventHandler.setActive,
    EventHandler.transitionTo, hid, if_true]
  exact ⟨rfl, hsignals, ⟨horig, rfl, rfl, hquit, hleaf', hapn, rfl, rfl⟩⟩

/-- The report of the end is due and `Inactive` is next. -/
def ending (m : CellularDataStateMachine) : CellularDataStateMachine :=
  (m.setDeActiveApnTypeId m.data.apnId).transitionTo .inactive

theorem Settling.ends (env : MachineEnv) (hm : m.Settling st os) (hne : st ≠ .inactive) :
    Refines (m.ending.next env) (m.control.endCall.1, os ++ m.control.endCall.2) := by
  obtain ⟨hcur, -, horig, hquit, hleaf, hapn, -, -, hsignals⟩ := hm
  obtain ⟨f, hnext⟩ := next_of_ne (m.ending) env hcur rfl hleaf (by decide) hne
  have hleaf' : some ConnState.inactive ≠ some ConnState.default_ := by decide
  rw [hnext]
  simp only [stateBegin, inactiveBegin, EventHandler.modifyData, EventHandler.setActive,
    EventHandler.transitionTo, ending, setDeActiveApnTypeId, hapn, if_false]
  refine ⟨rfl, ?_, ⟨horig, rfl, rfl, hquit, hleaf', hapn, rfl, rfl⟩⟩
  rw [← hsignals]
  simp only [CellularDataStateMachine.signals, CellularDataStateMachine.emit,
    EventHandler.modifyData, setCurrentState, modifyLink, EventHandler.sendDeferredEvent,
    List.filter_append, disconnectInfo]
  rfl

/-! The leaves -/

theorem unchanged_defaultProcess (hd : ∀ params, e ≠ .disconnect params)
    (ha : ∀ params, e ≠ .disconnectAll params) : Unchanged m (defaultProcess env e m).2 := by
  cases e with
  | disconnect params => exact absurd rfl (hd params)
  | disconnectAll params => exact absurd rfl (ha params)
  | drsOrRatChanged =>
    simp only [defaultProcess]
    split_ifs
    · exact (unchanged_publishSupplier.trans unchanged_publishLink).trans (unchanged_emit rfl)
    · exact unchanged_publishSupplier.trans (unchanged_emit rfl)
  | updateNetworkInfo => exact unchanged_updateNetworkInfo
  | _ => exact .refl m

/-- A leaf that does not process an event leaves it to `Default`. -/
theorem Settling.default_stay (hm : m.Settling st os) (hd : ∀ params, e ≠ .disconnect params)
    (ha : ∀ params, e ≠ .disconnectAll params) :
    Refines ((defaultProcess env e m).2.next env) (m.control, os) := by
  have h : Unchanged m (defaultProcess env e m).2 := unchanged_defaultProcess hd ha
  have hr := (hm.unchanged h).stay env
  rwa [h.control] at hr

theorem doConnect_control (params : DataConnectionParams) :
    (m.doConnect env params).control.moveTo .activating = m.control.connect env params := by
  unfold doConnect Control.connect
  cases env.currentApn params.apnHolder with
  | none => rfl
  | some apn => rfl

theorem Settling.doConnect (env : MachineEnv) (hm : m.Settling st os)
    (params : DataConnectionParams) : (m.doConnect env params).Settling st os := by
  have hapn : params.apnHolder.id ≠ errorApnId := params.apnHolder.id_ne_errorApnId
  unfold CellularDataStateMachine.doConnect
  generalize env.currentApn params.apnHolder = apn
  have hstart : ((m.modifyData fun d => { d with apnId := params.apnHolder.id }).modifyLink fun l =>
      { l with apnItem := apn }).Settling st os := { hm with apnId := hapn }
  cases apn with
  | none => exact hstart
  | some apn => exact { hstart.unchanged (unchanged_emit rfl) with }

theorem inactive_refines (hm : m.Settling .inactive []) :
    Refines ((handle env .inactive e m).next env) (m.control.process env e) := by
  have hstate : m.control.state = some .inactive := hm.curState
  simp only [Control.process, hstate]
  cases e with
  | connect params =>
    have hr := (hm.doConnect env params).move .activating env (by decide) (by decide) (by decide)
    rwa [doConnect_control] at hr
  | disconnect params => exact hm.stay env
  | disconnectAll params => exact hm.stay env
  | _ => exact hm.default_stay (by simp) (by simp)

theorem handle_setupDataCall (answer : SetupAnswer) :
    handle env .activating (.setupDataCall answer) m = (m.rilActivatePdpContextDone answer).2 := by
  simp only [handle, stateProcess, activatingProcess]
  cases m.rilActivatePdpContextDone answer with
  | mk processed m' => cases processed <;> rfl

theorem rilErrorResponse_refines (hm : m.Settling .activating []) (rilInfo : RadioResponseInfo) :
    Refines ((m.rilErrorResponse rilInfo).2.next env) (m.control.setupAnswer (.rilInfo rilInfo)) := by
  by_cases hflag : m.data.connectId ≠ rilInfo.flag
  · have hleft : m.rilErrorResponse rilInfo = (false, m) := if_pos hflag
    have hright : m.control.setupAnswer (.rilInfo rilInfo) = (m.control, []) := if_pos hflag
    rw [hleft, hright]
    exact hm.stay env
  · have hright : m.control.setupAnswer (.rilInfo rilInfo) = m.control.endWith .retry := if_neg hflag
    -- counting the failures of the data channel changes nothing that the automaton sees
    have hcount : ∃ m', Unchanged m m' ∧
        (m.rilErrorResponse rilInfo).2 = (m'.setPdpErrorReason .retry).ending := by
      rw [rilErrorResponse, if_neg hflag]
      refine ⟨_, ?_, rfl⟩
      have hcounter : ∀ n, Unchanged m (m.modifyData fun d => { d with rilSetChdataErrCnt := n }) :=
        fun _ => ⟨rfl, rfl, rfl, rfl, rfl, rfl, rfl⟩
      split_ifs
      · exact (hcounter 0).trans (unchanged_emit rfl)
      · exact hcounter _
      · exact .refl m
    obtain ⟨m', hm', heq⟩ := hcount
    have hr := ((hm.unchanged hm').withResult { reason := .retry }).ends env (by decide)
    have hcontrol : (m'.setDataCallResultInfo { reason := .retry }).control =
        { m.control with resultInfo := some { reason := .retry } } := by
      rw [← hm'.control]
      rfl
    rw [hcontrol] at hr
    rw [hright, heq]
    exact hr

theorem setupSucceeds_eq_false (info : SetupDataCallResultInfo) :
    Control.setupSucceeds info = false ↔ info.reason ≠ .none_ ∨ info.active = 0 := by
  simp only [Control.setupSucceeds, Bool.and_eq_false_iff, decide_eq_false_iff_not, ne_eq, not_not]

theorem setupAnswer_refines (hm : m.Settling .activating []) (answer : SetupAnswer) :
    Refines ((m.rilActivatePdpContextDone answer).2.next env) (m.control.setupAnswer answer) := by
  cases answer with
  | empty => exact hm.stay env
  | rilInfo info => exact rilErrorResponse_refines hm info
  | resultInfo info =>
    have hreset : Unchanged m (m.modifyData fun d => { d with rilSetChdataErrCnt := 0 }) :=
      ⟨rfl, rfl, rfl, rfl, rfl, rfl, rfl⟩
    have hm' := hm.unchanged hreset
    by_cases hflag : m.data.connectId ≠ info.flag
    · have hleft : (m.rilActivatePdpContextDone (.resultInfo info)).2 = _ :=
        congrArg Prod.snd (if_pos hflag)
      have hright : m.control.setupAnswer (.resultInfo info) = (m.control, []) := if_pos hflag
      rw [hleft, hright]
      exact hm'.stay env
    · have hleft : (m.rilActivatePdpContextDone (.resultInfo info)).2 = _ :=
        congrArg Prod.snd (if_neg hflag)
      have hright : m.control.setupAnswer (.resultInfo info) = _ := if_neg hflag
      rw [hleft, hright]
      cases hs : Control.setupSucceeds info with
      | false =>
        rw [if_pos ((setupSucceeds_eq_false info).mp hs), if_neg Bool.false_ne_true]
        exact ((hm'.withCid info.cid).withResult _).ends env (by decide)
      | true =>
        rw [if_neg (fun h => Bool.false_ne_true (((setupSucceeds_eq_false info).mpr h).symm.trans hs)),
          if_pos rfl]
        exact (((hm'.withCid info.cid).emit rfl).defer _).move .active env (by decide) (by decide)
          (by decide)

theorem connectTimeout_refines (hm : m.Settling .activating []) (connectId : Int) :
    Refines ((m.processConnectTimeout env connectId).next env)
      (m.control.connectTimeout env connectId) := by
  unfold processConnectTimeout
  by_cases hid : connectId ≠ m.data.connectId
  · have hright : m.control.connectTimeout env connectId = (m.control, []) := if_pos hid
    rw [if_pos hid, hright]
    exact hm.stay env
  · rw [if_neg hid]
    by_cases helapsed : env.currentTime - m.data.startTimeConnectTimeoutTask < connectionTaskTime
    · have hright : m.control.connectTimeout env connectId = (m.control, []) :=
        (if_neg hid).trans (if_pos helapsed)
      rw [if_pos helapsed, hright]
      exact hm.stay env
    · have hright : m.control.connectTimeout env connectId = m.control.endWith .retry :=
        (if_neg hid).trans (if_neg helapsed)
      rw [if_neg helapsed, hright]
      exact (hm.withResult { reason := .retry }).ends env (by decide)

theorem activating_refines (hm : m.Settling .activating []) :
    Refines ((handle env .activating e m).next env) (m.control.process env e) := by
  have hstate : m.control.state = some .activating := hm.curState
  simp only [Control.process, hstate]
  cases e with
  | connect params => exact (hm.defer _).stay env
  | disconnect params => exact (hm.defer _).stay env
  | disconnectAll params => exact (hm.defer _).stay env
  | drsOrRatChanged => exact (hm.defer _).stay env
  | getRilBandwidth => exact (hm.defer _).stay env
  | setupDataCall answer =>
    rw [handle_setupDataCall]
    exact setupAnswer_refines hm answer
  | connectTimeoutCheck connectId => exact connectTimeout_refines hm connectId
  | getLastFailDone => exact hm.quietEnd env (by decide)
  | _ => exact hm.default_stay (by simp) (by simp)

theorem activeDisconnect_refines (hm : m.Settling .active []) (params : DataDisconnectParams) :
    Refines ((m.activeDisconnect params).next env) (m.control.disconnect params) := by
  have hclear : Unchanged m m.clearReuse := unchanged_clearReuse
  have hm' := hm.unchanged hclear
  rw [← hclear.control, activeDisconnect]
  generalize m.clearReuse = x at hm' ⊢
  have hsent : ((x.setPdpErrorReason (disconnReasonPdpError params.reason)).emit
      (.deactivatePdpContext ⟨x.data.connectId, x.data.cid, params.reason⟩)).Settling .active _ :=
    (hm'.withResult _).emit rfl
  exact (hsent.withQueue (x.queue.sendEventAfter (.disconnectTimeoutCheck x.data.connectId)
    disconnectionTimeout)).move .disconnecting env (by decide) (by decide) (by decide)

theorem lostConnection_refines (hm : m.Settling .active []) (info : SetupDataCallResultInfo) :
    Refines ((m.processLostConnection info).next env)
      { m.control with resultInfo := some info }.endCall := by
  have hclear : Unchanged m m.clearReuse := unchanged_clearReuse
  have hm' := hm.unchanged hclear
  have hid : m.clearReuse.data.apnId = m.data.apnId := congrArg Control.apnId hclear.control
  rw [← hclear.control, processLostConnection, ← hid]
  exact (hm'.withResult info).ends env (by decide)

theorem dataConnectionComplete_refines (hm : m.Settling .active [])
    (info : SetupDataCallResultInfo) :
    Refines ((m.processDataConnectionComplete info).next env) (m.control.complete info) :=
  ((hm.withQueue (m.queue.removeEvent isConnectTimeoutCheck)).emit rfl).stay env

theorem active_refines (hm : m.Settling .active []) :
    Refines ((handle env .active e m).next env) (m.control.process env e) := by
  have hstate : m.control.state = some .active := hm.curState
  have hstay : ∀ {m'}, Unchanged m m' → Refines (m'.next env) (m.control, []) := by
    intro m' h
    have hr := (hm.unchanged h).stay env
    rwa [h.control] at hr
  simp only [Control.process, hstate]
  cases e with
  | connect params => exact hm.stay env
  | disconnect params => exact activeDisconnect_refines hm params
  | disconnectAll params => exact activeDisconnect_refines hm params
  | lostConnection info => exact lostConnection_refines hm info
  | rilAdapterHostDied info => exact lostConnection_refines hm info
  | setupDataCall answer =>
    cases answer with
    | resultInfo info => exact dataConnectionComplete_refines hm info
    | rilInfo info => exact hm.stay env
    | empty => exact hm.stay env
  | linkCapabilityChanged up down => exact hstay (unchanged_processLinkCapabilityChanged up down)
  | dataRoamOn => exact hstay unchanged_publishSupplier
  | dataRoamOff => exact hstay unchanged_publishSupplier
  | voiceCallStarted => exact hstay unchanged_publishSupplier
  | voiceCallEnded => exact hstay unchanged_publishSupplier
  | nrStateChanged =>
    exact hstay ((unchanged_refreshTcpBufferSizes.trans
      unchanged_refreshConnectionBandwidths).trans unchanged_updateNetworkInfo)
  | nrFrequencyChanged =>
    exact hstay (unchanged_refreshConnectionBandwidths.trans unchanged_updateNetworkInfo)
  | _ => exact hm.default_stay (by simp) (by simp)

theorem release_refines (hm : m.Settling .disconnecting []) :
    Refines (((m.removeEvent isDisconnectTimeoutCheck).endCall).next env) m.control.release :=
  (hm.withQueue (m.queue.removeEvent isDisconnectTimeoutCheck)).ends env (by decide)

theorem deactivateDataCall_refines (hm : m.Settling .disconnecting [])
    (rilInfo : Option RadioResponseInfo) :
    Refines ((m.processRilDeactivateDataCall rilInfo).next env)
      (m.control.processDisconnecting (.deactivateDataCall rilInfo)) := by
  cases rilInfo with
  | none => exact release_refines hm
  | some rilInfo =>
    simp only [processRilDeactivateDataCall]
    by_cases hflag : m.data.connectId ≠ rilInfo.flag
    · have hright : m.control.processDisconnecting (.deactivateDataCall (some rilInfo)) =
        (m.control, []) := if_pos hflag
      rw [if_pos hflag, hright]
      exact hm.stay env
    · have hright : m.control.processDisconnecting (.deactivateDataCall (some rilInfo)) =
        m.control.release := if_neg hflag
      rw [if_neg hflag, hright]
      exact release_refines hm

theorem disconnectTimeout_refines (hm : m.Settling .disconnecting []) (connectId : Int) :
    Refines ((m.processDisconnectTimeout connectId).next env)
      (m.control.processDisconnecting (.disconnectTimeoutCheck connectId)) := by
  unfold processDisconnectTimeout
  by_cases hid : connectId ≠ m.data.connectId
  · have hright : m.control.processDisconnecting (.disconnectTimeoutCheck connectId) =
      (m.control, []) := if_pos hid
    rw [if_pos hid, hright]
    exact hm.stay env
  · have hright : m.control.processDisconnecting (.disconnectTimeoutCheck connectId) =
      m.control.endWith .retry := if_neg hid
    rw [if_neg hid, hright]
    exact (hm.withResult { reason := .retry }).ends env (by decide)

theorem disconnecting_refines (hm : m.Settling .disconnecting []) :
    Refines ((handle env .disconnecting e m).next env) (m.control.process env e) := by
  have hstate : m.control.state = some .disconnecting := hm.curState
  simp only [Control.process, hstate]
  cases e with
  | connect params => exact (hm.defer _).stay env
  | disconnect params => exact (hm.defer _).stay env
  | disconnectAll params => exact (hm.defer _).stay env
  | deactivateDataCall rilInfo => exact deactivateDataCall_refines hm rilInfo
  | disconnectTimeoutCheck connectId => exact disconnectTimeout_refines hm connectId
  | rilAdapterHostDied info => exact (hm.withResult { reason := .retry }).ends env (by decide)
  | _ => exact hm.default_stay (by simp) (by simp)

/-! The machine -/

/-- The first event of a machine enters `Inactive`. -/
theorem init_refines (hm : m.Settled) (hcur : m.curState = none) :
    Refines (m.process env .stateMachineInit) (m.control.boot, []) := by
  obtain ⟨orig, ds, cur, deferred, quit, act, queue, data⟩ := m
  obtain rfl : orig = some .inactive := hm.originalState
  obtain rfl : quit = false := hm.notQuit
  have hid : data.deActiveApnTypeId = errorApnId := hm.deActiveApnTypeId
  have hout : data.outbox = [] := hm.outbox
  have hleaf : some ConnState.inactive ≠ some ConnState.default_ := by decide
  simp only [process, EventHandler.processEvent, states, EventHandler.initCmdEnter, stateBegin,
    inactiveBegin, EventHandler.setActive, EventHandler.modifyData, hid, setCurrentState,
    EventHandler.processMsg, EventHandler.processPath, stateProcess, inactiveProcess, defaultProcess,
    EventHandler.processTransitions, Bool.false_eq_true, if_false, if_true, reduceCtorEq,
    decide_false, decide_true, List.reverse_cons, List.reverse_nil, List.nil_append,
    List.cons_append, List.foldl_cons, List.foldl_nil]
  refine ⟨rfl, ?_, ⟨rfl, rfl, rfl, rfl, hleaf, hm.apnId, rfl, rfl⟩⟩
  simp only [signals, hout, List.filter_nil]

/-- A machine that has not been initialised ignores every other event. -/
theorem process_new (hm : m.Settled) (hcur : m.curState = none) (hinit : e ≠ .stateMachineInit)
    (hquit : e ≠ .stateMachineQuit) : m.process env e = m := by
  simp only [process, EventHandler.processEvent, hm.notQuit, states, hquit, hinit, decide_false,
    Bool.false_eq_true, if_false, EventHandler.processMsg, hcur, EventHandler.processTransitions,
    hm.destState, if_true]

/-- One event of the hierarchical machine is one step of the automaton. -/
theorem process_refines (hm : m.Settled) (hquit : e ≠ .stateMachineQuit)
    (hinit : e = .stateMachineInit → m.curState = none) :
    Refines (m.process env e) (m.control.process env e) := by
  cases hcur : m.curState with
  | none =>
    by_cases he : e = .stateMachineInit
    · subst he
      have hright : m.control.process env .stateMachineInit = (m.control.boot, []) := by
        simp only [Control.process, control, hcur, if_true]
      rw [hright]
      exact init_refines hm hcur
    · have hleft : m.process env e = m := process_new hm hcur he hquit
      have hright : m.control.process env e = (m.control, []) := by
        simp only [Control.process, control, hcur, he, if_false]
      rw [hleft, hright]
      refine ⟨rfl, by rw [signals, hm.outbox, List.filter_nil], ?_⟩
      exact { hm with outbox := rfl }
  | some st =>
    have hs := hm.settling hcur
    have he : e ≠ .stateMachineInit := fun h => by simp [hinit h] at hcur
    rw [process_eq_handle hm hcur he hquit]
    cases st with
    | default_ => exact absurd hcur hm.leaf
    | inactive => exact inactive_refines hs
    | activating => exact activating_refines hs
    | active => exact active_refines hs
    | disconnecting => exact disconnecting_refines hs

end CellularDataStateMachine
end CellularData
