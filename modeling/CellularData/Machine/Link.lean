import CellularData.Machine.Transition
import CellularData.StateMachine.Rules

/-! Capability, APN item and reuse of a machine: `Inactive` takes the item with a request, `Active`
takes the reuse back when it is left, and no other action of the states writes them. -/
namespace CellularData
open Lib StateMachine

def MachineOutput.isReuse : MachineOutput → Bool
  | .setReuseSupplierId _ _ _ => true
  | _ => false

/-- Events with which `Active` is left. -/
def MachineEvent.leavesActive (e : MachineEvent) : Bool := e.isDisconnect || e.isLoss

namespace CellularDataStateMachine

variable {env : MachineEnv} {m m' : CellularDataStateMachine} {e : MachineEvent} {st : ConnState}

/-- The reuses that the current step has set or taken back. -/
def reuseCalls (m : CellularDataStateMachine) : List MachineOutput :=
  m.data.outbox.filter MachineOutput.isReuse

structure Bound (m m' : CellularDataStateMachine) : Prop where
  capability : m'.data.link.capability = m.data.link.capability
  apnItem : m'.data.link.apnItem = m.data.link.apnItem
  reuseApnCap : m'.data.link.reuseApnCap = m.data.link.reuseApnCap
  reuseCalls : m'.reuseCalls = m.reuseCalls

theorem Bound.refl (m : CellularDataStateMachine) : Bound m m := ⟨rfl, rfl, rfl, rfl⟩

theorem Bound.trans {m'' : CellularDataStateMachine} (h : Bound m m') (h' : Bound m' m'') :
    Bound m m'' :=
  ⟨h'.capability.trans h.capability, h'.apnItem.trans h.apnItem,
    h'.reuseApnCap.trans h.reuseApnCap, h'.reuseCalls.trans h.reuseCalls⟩

theorem bound_emit {o : MachineOutput} (ho : o.isReuse = false) : Bound m (m.emit o) := by
  refine ⟨rfl, rfl, rfl, ?_⟩
  simp only [reuseCalls, emit, EventHandler.modifyData, List.filter_append, List.filter_singleton,
    ho, cond_false, List.append_nil]

theorem bound_publish : Bound m m.publish := by
  have hsupplier : Bound m m.publishSupplier := bound_emit rfl
  unfold publish
  split_ifs
  · exact hsupplier.trans (bound_emit rfl)
  · exact hsupplier

theorem bound_updateNetworkInfoFrom (info : SetupDataCallResultInfo) :
    Bound m (m.updateNetworkInfoFrom env info) := by
  unfold updateNetworkInfoFrom
  refine Bound.trans ?_ bound_publish
  exact ⟨rfl, rfl, rfl, rfl⟩

theorem bound_updateNetworkInfo : Bound m (m.updateNetworkInfo env) := by
  unfold updateNetworkInfo
  refine Bound.trans ?_ bound_publish
  exact ⟨rfl, rfl, rfl, rfl⟩

theorem bound_updateHttpProxy {proxyIpAddress : String}
    (h : m.updateHttpProxy proxyIpAddress = some m') : Bound m m' := by
  obtain ⟨httpProxy, -, rfl⟩ := Option.map_eq_some_iff.mp h
  exact ⟨rfl, rfl, rfl, rfl⟩

theorem bound_defaultProcess : Bound m (defaultProcess env e m).2 := by
  cases e with
  | drsOrRatChanged =>
    have hsupplier : Bound m m.publishSupplier := bound_emit rfl
    simp only [defaultProcess]
    split_ifs
    · exact (hsupplier.trans (bound_emit rfl)).trans (bound_emit rfl)
    · exact hsupplier.trans (bound_emit rfl)
  | updateNetworkInfo => exact bound_updateNetworkInfo
  | _ => exact ⟨rfl, rfl, rfl, rfl⟩

theorem bound_inactiveProcess (he : ∀ params, e ≠ .connect params) :
    Bound m (inactiveProcess env e m).2 := by
  cases e with
  | connect params => exact absurd rfl (he params)
  | _ => exact .refl m

theorem bound_rilErrorResponse (info : RadioResponseInfo) : Bound m (m.rilErrorResponse info).2 := by
  unfold rilErrorResponse
  extract_lets m₁
  have h : Bound m m₁ := by
    dsimp only [m₁]
    split_ifs
    · have hcount : Bound m (m.modifyData fun d => { d with rilSetChdataErrCnt := 0 }) :=
        ⟨rfl, rfl, rfl, rfl⟩
      exact hcount.trans (bound_emit rfl)
    · exact ⟨rfl, rfl, rfl, rfl⟩
    · exact .refl m
  split_ifs
  · exact .refl m
  · exact h.trans ⟨rfl, rfl, rfl, rfl⟩

theorem bound_rilActivatePdpContextDone (answer : SetupAnswer) :
    Bound m (m.rilActivatePdpContextDone answer).2 := by
  cases answer with
  | resultInfo info =>
    simp only [rilActivatePdpContextDone]
    split_ifs
    · exact ⟨rfl, rfl, rfl, rfl⟩
    · exact ⟨rfl, rfl, rfl, rfl⟩
    · have hcid : Bound m ((m.modifyData fun d => { d with rilSetChdataErrCnt := 0 }).setCid
          info.cid) := ⟨rfl, rfl, rfl, rfl⟩
      exact (hcid.trans (bound_emit (o := .addActiveConnectionByCid info.cid) rfl)).trans
        ⟨rfl, rfl, rfl, rfl⟩
  | rilInfo info => exact bound_rilErrorResponse info
  | empty => exact .refl m

theorem bound_activatingProcess : Bound m (activatingProcess env e m).2 := by
  cases e with
  | setupDataCall answer => exact bound_rilActivatePdpContextDone answer
  | connectTimeoutCheck connectId =>
    simp only [activatingProcess, processConnectTimeout]
    split_ifs <;> exact ⟨rfl, rfl, rfl, rfl⟩
  | _ => exact ⟨rfl, rfl, rfl, rfl⟩

theorem bound_processLinkCapabilityChanged (up down : Nat) :
    Bound m (m.processLinkCapabilityChanged env up down) := by
  unfold processLinkCapabilityChanged
  refine Bound.trans ?_ bound_updateNetworkInfo
  split_ifs <;> exact ⟨rfl, rfl, rfl, rfl⟩

theorem bound_activeProcess (he : e.leavesActive = false) : Bound m (activeProcess env e m).2 := by
  cases e with
  | disconnect params => cases he
  | disconnectAll params => cases he
  | lostConnection info => cases he
  | rilAdapterHostDied info => cases he
  | linkCapabilityChanged up down => exact bound_processLinkCapabilityChanged up down
  | dataRoamOn => exact bound_emit rfl
  | dataRoamOff => exact bound_emit rfl
  | voiceCallStarted => exact bound_emit rfl
  | voiceCallEnded => exact bound_emit rfl
  | nrStateChanged =>
    have hrefresh : Bound m ((m.refreshTcpBufferSizes env).refreshConnectionBandwidths env) :=
      ⟨rfl, rfl, rfl, rfl⟩
    exact hrefresh.trans bound_updateNetworkInfo
  | nrFrequencyChanged =>
    have hrefresh : Bound m (m.refreshConnectionBandwidths env) := ⟨rfl, rfl, rfl, rfl⟩
    exact hrefresh.trans bound_updateNetworkInfo
  | setupDataCall answer =>
    cases answer with
    | resultInfo info =>
      have htimer : Bound m (m.removeEvent isConnectTimeoutCheck) := ⟨rfl, rfl, rfl, rfl⟩
      exact htimer.trans (bound_emit rfl)
    | rilInfo info => exact .refl m
    | empty => exact .refl m
  | _ => exact .refl m

theorem bound_disconnectingProcess : Bound m (disconnectingProcess e m).2 := by
  cases e with
  | deactivateDataCall rilInfo =>
    cases rilInfo with
    | none => exact ⟨rfl, rfl, rfl, rfl⟩
    | some rilInfo =>
      simp only [disconnectingProcess, processRilDeactivateDataCall]
      split_ifs <;> exact ⟨rfl, rfl, rfl, rfl⟩
  | disconnectTimeoutCheck connectId =>
    simp only [disconnectingProcess, processDisconnectTimeout]
    split_ifs <;> exact ⟨rfl, rfl, rfl, rfl⟩
  | _ => exact ⟨rfl, rfl, rfl, rfl⟩

/-- The state takes the event to write capability, item or reuse. -/
def binds : ConnState → MachineEvent → Bool
  | .inactive, .connect _ => true
  | .active, e => e.leavesActive
  | _, _ => false

theorem bound_stateProcess (h : binds st e = false) : Bound m (stateProcess env st e m).2 := by
  cases st with
  | default_ => exact bound_defaultProcess
  | inactive =>
    apply bound_inactiveProcess
    intro params he
    rw [he] at h
    cases h
  | activating => exact bound_activatingProcess
  | active => exact bound_activeProcess h
  | disconnecting => exact bound_disconnectingProcess

/-! The event handler -/

theorem bound_inactiveBegin : Bound m m.inactiveBegin := by
  unfold inactiveBegin
  extract_lets m₁ m₂ m₃ m₄
  have h₂ : Bound m m₂ := ⟨rfl, rfl, rfl, rfl⟩
  have h₄ : Bound m₂ m₄ := by
    dsimp only [m₄]
    split_ifs
    · exact .refl m₂
    · have h₃ : Bound m₂ m₃ := ⟨rfl, rfl, rfl, rfl⟩
      have hreport : Bound m₃ (m₃.emit (.disconnectDataComplete m₃.disconnectInfo)) := bound_emit rfl
      exact (h₃.trans hreport).trans ⟨rfl, rfl, rfl, rfl⟩
  exact (h₂.trans h₄).trans ⟨rfl, rfl, rfl, rfl⟩

theorem bound_stateBegin (env : MachineEnv) (st : ConnState) (m : CellularDataStateMachine) :
    Bound m (stateBegin env st m) := by
  cases st with
  | inactive => exact bound_inactiveBegin
  | _ => exact ⟨rfl, rfl, rfl, rfl⟩

/-- The states without the processing of events. -/
def entries (env : MachineEnv) : States ConnState MachineEvent MachineData :=
  { states env with stateProcess := fun _ _ m => (false, m) }

theorem entries_respects (env : MachineEnv) : (entries env).Respects Bound where
  refl := Bound.refl
  trans := Bound.trans
  stateBegin := bound_stateBegin env
  stateEnd st m := by cases st <;> exact ⟨rfl, rfl, rfl, rfl⟩
  stateProcess _ _ m := .refl m
  destState _ _ := ⟨rfl, rfl, rfl, rfl⟩
  curState _ _ := ⟨rfl, rfl, rfl, rfl⟩
  deferred _ := ⟨rfl, rfl, rfl, rfl⟩
  stop _ _ := ⟨rfl, rfl, rfl, rfl⟩

theorem bound_next : Bound m (m.next env) := (entries_respects env).processTransitions m

theorem bound_processMsg (h : ∀ st, m.curState = some st → binds st e = false) :
    Bound m (EventHandler.processMsg m (states env) e) := by
  unfold EventHandler.processMsg
  cases hcur : m.curState with
  | none => exact .refl m
  | some st =>
    have hleaf : Bound m (stateProcess env st e m).2 := bound_stateProcess (h st hcur)
    have hpath : ∀ x : CellularDataStateMachine,
        Bound x (EventHandler.processPath (states env) e ((states env).ancestors st) x) := by
      intro x
      simp only [states]
      split_ifs
      · exact .refl x
      · rw [EventHandler.processPath_singleton]
        exact bound_defaultProcess
    change Bound m (EventHandler.processPath (states env) e (st :: (states env).ancestors st) m)
    have hr : ∀ r : Bool × CellularDataStateMachine, (states env).stateProcess st e m = r →
        Bound m r.2 → Bound m (EventHandler.processPath (states env) e
          (st :: (states env).ancestors st) m) := by
      rintro ⟨processed, x⟩ heq hx
      cases processed with
      | true =>
        unfold EventHandler.processPath
        rw [heq]
        exact hx
      | false =>
        rw [EventHandler.processPath_cons_of_left heq]
        exact hx.trans (hpath x)
    exact hr _ rfl hleaf

theorem quitPath_entries (l : List ConnState) (m : CellularDataStateMachine) :
    EventHandler.quitPath (states env) l m = EventHandler.quitPath (entries env) l m := by
  induction l generalizing m with
  | nil => rfl
  | cons st l ih =>
    simp only [EventHandler.quitPath, ih]
    rfl

theorem bound_quit (he : (states env).isQuit e = true) :
    Bound m (EventHandler.quit m (states env)) := by
  have hquit : EventHandler.quit m (states env) = EventHandler.quit m (entries env) := by
    unfold EventHandler.quit
    cases m.curState with
    | none => rfl
    | some st => exact quitPath_entries _ m
  rw [hquit]
  exact (entries_respects env).quit (e := e) he m

/-- Nothing else binds the machine. -/
theorem bound_process (h : ∀ st, m.curState = some st → binds st e = false) :
    Bound m (m.process env e) := by
  have hmove : ∀ x : CellularDataStateMachine, Bound x (x.processTransitions (states env)) :=
    fun x => (entries_respects env).processTransitions x
  unfold process EventHandler.processEvent
  split_ifs with hquit he hinit
  · exact .refl m
  · exact bound_quit he
  · have hother : ∀ st, binds st e = false := by
      intro st
      obtain rfl : e = .stateMachineInit := of_decide_eq_true hinit
      cases st <;> rfl
    have hdest : Bound m { m with destState := m.originalState } := ⟨rfl, rfl, rfl, rfl⟩
    have henter := hdest.trans ((entries_respects env).initCmdEnter _)
    exact (henter.trans (bound_processMsg fun st _ => hother st)).trans (hmove _)
  · exact (bound_processMsg h).trans (hmove _)

variable (env) in
/-- A request takes the item of its holder. -/
theorem apnItem_connect (hx : m.Settled) (hcur : m.curState = some .inactive)
    (params : DataConnectionParams) :
    (m.process env (.connect params)).data.link.apnItem = env.currentApn params.apnHolder ∧
      (m.process env (.connect params)).data.link.capability = m.data.link.capability ∧
      (m.process env (.connect params)).data.link.reuseApnCap = m.data.link.reuseApnCap ∧
      (m.process env (.connect params)).reuseCalls = [] := by
  rw [process_eq_handle hx hcur MachineEvent.noConfusion MachineEvent.noConfusion]
  have hnext : Bound ((m.doConnect env params).transitionTo .activating)
      (((m.doConnect env params).transitionTo .activating).next env) := bound_next
  have hconnect : (m.doConnect env params).data.link.apnItem = env.currentApn params.apnHolder ∧
      (m.doConnect env params).data.link.capability = m.data.link.capability ∧
      (m.doConnect env params).data.link.reuseApnCap = m.data.link.reuseApnCap ∧
      (m.doConnect env params).reuseCalls = m.reuseCalls := by
    unfold doConnect
    cases env.currentApn params.apnHolder with
    | none => exact ⟨rfl, rfl, rfl, rfl⟩
    | some apn =>
      refine ⟨rfl, rfl, rfl, ?_⟩
      simp only [reuseCalls, modifyLink, emit, EventHandler.modifyData,
        EventHandler.sendEventAfter, List.filter_append, List.filter_singleton,
        MachineOutput.isReuse, cond_false, List.append_nil]
  obtain ⟨hitem, hcap, hreuse, hcalls⟩ := hconnect
  refine ⟨hnext.apnItem.trans hitem, hnext.capability.trans hcap, hnext.reuseApnCap.trans hreuse, ?_⟩
  have hout : m.reuseCalls = [] := by
    unfold reuseCalls
    rw [hx.outbox]
    rfl
  exact hnext.reuseCalls.trans (hcalls.trans hout)

/-- What a machine that leaves `Active` says about a reuse. -/
def cancelled (m : CellularDataStateMachine) : List MachineOutput :=
  if m.data.link.reuseApnCap = .end_ then []
  else [.setReuseSupplierId m.data.link.capability m.data.link.reuseApnCap false]

theorem reuseCalls_clearReuse : m.clearReuse.reuseCalls = m.reuseCalls ++ m.cancelled ∧
    m.clearReuse.data.link.reuseApnCap = .end_ ∧
    m.clearReuse.data.link.capability = m.data.link.capability ∧
    m.clearReuse.data.link.apnItem = m.data.link.apnItem := by
  unfold clearReuse cancelled
  split_ifs with h
  · exact ⟨(List.append_nil _).symm, h, rfl, rfl⟩
  · have hset : m.setIfReuseSupplierId false =
        m.emit (.setReuseSupplierId m.data.link.capability m.data.link.reuseApnCap false) := if_neg h
    rw [hset]
    refine ⟨?_, rfl, rfl, rfl⟩
    simp only [reuseCalls, setReuseApnCap, modifyLink, emit, EventHandler.modifyData,
      List.filter_append, List.filter_singleton, MachineOutput.isReuse, cond_true]

theorem bound_activeDisconnect (params : DataDisconnectParams) :
    Bound m.clearReuse (m.activeDisconnect params) := by
  unfold activeDisconnect
  generalize m.clearReuse = x
  have hreason : Bound x (x.setPdpErrorReason (disconnReasonPdpError params.reason)) :=
    ⟨rfl, rfl, rfl, rfl⟩
  refine hreason.trans (Bound.trans ?_ ⟨rfl, rfl, rfl, rfl⟩)
  unfold freeConnection
  extract_lets y
  have hy : Bound (x.setPdpErrorReason (disconnReasonPdpError params.reason)) y := bound_emit rfl
  exact hy.trans ⟨rfl, rfl, rfl, rfl⟩

theorem bound_processLostConnection (info : SetupDataCallResultInfo) :
    Bound m.clearReuse (m.processLostConnection info) := by
  unfold processLostConnection
  generalize m.clearReuse = x
  exact ⟨rfl, rfl, rfl, rfl⟩

variable (env) in
/-- `Active` is left with the reuse taken back. -/
theorem reuse_leave (hx : m.Settled) (hcur : m.curState = some .active)
    (he : e.leavesActive = true) :
    (m.process env e).reuseCalls = m.cancelled ∧
      (m.process env e).data.link.reuseApnCap = .end_ ∧
      (m.process env e).data.link.capability = m.data.link.capability ∧
      (m.process env e).data.link.apnItem = m.data.link.apnItem := by
  have hinit : e ≠ .stateMachineInit := fun h => by rw [h] at he; cases he
  have hquit : e ≠ .stateMachineQuit := fun h => by rw [h] at he; cases he
  have hbound : Bound m.clearReuse (handle env .active e m) := by
    cases e with
    | disconnect params => exact bound_activeDisconnect params
    | disconnectAll params => exact bound_activeDisconnect params
    | lostConnection info => exact bound_processLostConnection info
    | rilAdapterHostDied info => exact bound_processLostConnection info
    | _ => cases he
  have h : Bound m.clearReuse (m.process env e) := by
    rw [process_eq_handle hx hcur hinit hquit]
    exact hbound.trans bound_next
  have hout : m.reuseCalls = [] := by
    unfold reuseCalls
    rw [hx.outbox]
    rfl
  obtain ⟨hcalls, hreuse, hcap, hitem⟩ := reuseCalls_clearReuse (m := m)
  rw [hout, List.nil_append] at hcalls
  exact ⟨h.reuseCalls.trans hcalls, h.reuseApnCap.trans hreuse, h.capability.trans hcap,
    h.apnItem.trans hitem⟩

/-! Methods of the handler -/

/-- A method that only reports to the net manager. -/
structure Publishes (m m' : CellularDataStateMachine) : Prop where
  unchanged : Unchanged m m'
  bound : Bound m m'

theorem Publishes.trans {m'' : CellularDataStateMachine} (h : Publishes m m')
    (h' : Publishes m' m'') : Publishes m m'' :=
  ⟨h.unchanged.trans h'.unchanged, h.bound.trans h'.bound⟩

theorem publishes_updateNetworkInfoFrom (info : SetupDataCallResultInfo) :
    Publishes m (m.updateNetworkInfoFrom env info) :=
  ⟨unchanged_updateNetworkInfoFrom info, bound_updateNetworkInfoFrom info⟩

theorem publishes_updateHttpProxy (proxyIpAddress : String) :
    Publishes m ((m.updateHttpProxy proxyIpAddress).getD m) := by
  cases h : m.updateHttpProxy proxyIpAddress with
  | none => exact ⟨.refl m, .refl m⟩
  | some m' => exact ⟨unchanged_updateHttpProxy h, bound_updateHttpProxy h⟩

end CellularDataStateMachine
end CellularData
