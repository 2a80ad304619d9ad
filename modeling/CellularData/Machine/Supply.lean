import CellularData.Machine.States
import CellularData.StateMachine.Rules

/-! What a machine tells the net manager of its supplier: by itself nothing new, and on the handler's
word whether the data call is up. -/
namespace CellularData
open Lib StateMachine

def MachineOutput.isSupplierInfo : MachineOutput → Bool
  | .updateNetSupplierInfo _ _ => true
  | _ => false

namespace CellularDataStateMachine

variable {env : MachineEnv} {m m' m'' : CellularDataStateMachine} {e : MachineEvent} {st : ConnState}

/-- Whether the machine holds its supplier for available. -/
def isAvailable (m : CellularDataStateMachine) : Bool := m.data.link.netSupplierInfo.isAvailable

/-- The supplier is not made available, and nothing else is said of it. -/
structure Honest (m m' : CellularDataStateMachine) : Prop where
  capability : m'.data.link.capability = m.data.link.capability
  available : m'.isAvailable = true → m.isAvailable = true
  tells : ∃ os, m'.data.outbox = m.data.outbox ++ os ∧
    ∀ cap info, .updateNetSupplierInfo cap info ∈ os →
      cap = m.data.link.capability ∧ (info.isAvailable = true → m.isAvailable = true)

theorem Honest.silent (hcap : m'.data.link.capability = m.data.link.capability)
    (havailable : m'.isAvailable = true → m.isAvailable = true)
    (houtbox : m'.data.outbox = m.data.outbox) : Honest m m' :=
  ⟨hcap, havailable, [], by rw [houtbox, List.append_nil], fun _ _ h => nomatch h⟩

theorem Honest.refl (m : CellularDataStateMachine) : Honest m m := .silent rfl id rfl

theorem Honest.trans (h : Honest m m') (h' : Honest m' m'') : Honest m m'' := by
  obtain ⟨os, hos, hall⟩ := h.tells
  obtain ⟨os', hos', hall'⟩ := h'.tells
  refine ⟨h'.capability.trans h.capability, fun ha => h.available (h'.available ha), os ++ os', ?_, ?_⟩
  · rw [hos', hos, List.append_assoc]
  · intro cap info hmem
    rcases List.mem_append.mp hmem with hmem | hmem
    · exact hall cap info hmem
    · obtain ⟨hcap, ha⟩ := hall' cap info hmem
      exact ⟨hcap.trans h.capability, fun hi => h.available (ha hi)⟩

theorem honest_emit {o : MachineOutput} (ho : o.isSupplierInfo = false) : Honest m (m.emit o) := by
  refine ⟨rfl, id, [o], rfl, ?_⟩
  intro cap info hmem
  obtain rfl := List.mem_singleton.mp hmem
  cases ho

theorem honest_publishSupplier : Honest m m.publishSupplier := by
  refine ⟨rfl, id, [_], rfl, ?_⟩
  intro cap info hmem
  obtain ⟨rfl, rfl⟩ := MachineOutput.updateNetSupplierInfo.inj (List.mem_singleton.mp hmem)
  exact ⟨rfl, id⟩

theorem honest_publishLink : Honest m m.publishLink := honest_emit rfl

theorem honest_publish : Honest m m.publish := by
  unfold publish
  split_ifs
  · exact honest_publishSupplier.trans honest_publishLink
  · exact honest_publishSupplier

theorem honest_updateNetworkInfo : Honest m (m.updateNetworkInfo env) := by
  unfold updateNetworkInfo
  refine Honest.trans ?_ honest_publish
  exact .silent rfl id rfl

theorem honest_setIfReuseSupplierId (b : Bool) : Honest m (m.setIfReuseSupplierId b) := by
  unfold setIfReuseSupplierId
  split_ifs
  · exact .refl m
  · exact honest_emit rfl

theorem honest_clearReuse : Honest m m.clearReuse := by
  unfold clearReuse
  split_ifs
  · exact .refl m
  · exact (honest_setIfReuseSupplierId false).trans (.silent rfl id rfl)

/-! Events -/

theorem honest_defaultProcess : Honest m (defaultProcess env e m).2 := by
  cases e with
  | drsOrRatChanged =>
    simp only [defaultProcess]
    split_ifs
    · exact (honest_publishSupplier.trans honest_publishLink).trans (honest_emit rfl)
    · exact honest_publishSupplier.trans (honest_emit rfl)
  | updateNetworkInfo => exact honest_updateNetworkInfo
  | _ => exact .silent rfl id rfl

theorem honest_doConnect (params : DataConnectionParams) : Honest m (m.doConnect env params) := by
  unfold doConnect
  extract_lets apn m₁
  have h₁ : Honest m m₁ := .silent rfl id rfl
  clear_value m₁
  cases apn with
  | none => exact h₁
  | some apn => exact (h₁.trans (honest_emit rfl)).trans (.silent rfl id rfl)

theorem honest_inactiveProcess : Honest m (inactiveProcess env e m).2 := by
  cases e with
  | connect params => exact (honest_doConnect params).trans (.silent rfl id rfl)
  | _ => exact .refl m

theorem honest_rilErrorResponse (info : RadioResponseInfo) :
    Honest m (m.rilErrorResponse info).2 := by
  unfold rilErrorResponse
  extract_lets m₁
  have h₁ : Honest m m₁ := by
    dsimp only [m₁]
    split_ifs
    · have hcount : Honest m (m.modifyData fun d => { d with rilSetChdataErrCnt := 0 }) :=
        .silent rfl id rfl
      exact hcount.trans (honest_emit rfl)
    · exact .silent rfl id rfl
    · exact .refl m
  split_ifs
  · exact .refl m
  · exact h₁.trans (.silent rfl id rfl)

theorem honest_rilActivatePdpContextDone (answer : SetupAnswer) :
    Honest m (m.rilActivatePdpContextDone answer).2 := by
  cases answer with
  | resultInfo info =>
    simp only [rilActivatePdpContextDone]
    split_ifs
    · exact .silent rfl id rfl
    · exact .silent rfl id rfl
    · have hcid : Honest m ((m.modifyData fun d => { d with rilSetChdataErrCnt := 0 }).setCid
          info.cid) := .silent rfl id rfl
      have hadd := hcid.trans (honest_emit (o := .addActiveConnectionByCid info.cid) rfl)
      exact hadd.trans (.silent rfl id rfl)
  | rilInfo info => exact honest_rilErrorResponse info
  | empty => exact .refl m

theorem honest_activatingProcess : Honest m (activatingProcess env e m).2 := by
  cases e with
  | setupDataCall answer => exact honest_rilActivatePdpContextDone answer
  | connectTimeoutCheck connectId =>
    simp only [activatingProcess, processConnectTimeout]
    split_ifs <;> exact .silent rfl id rfl
  | _ => exact .silent rfl id rfl

theorem honest_activeDisconnect (params : DataDisconnectParams) :
    Honest m (m.activeDisconnect params) := by
  have hreason : Honest m (m.clearReuse.setPdpErrorReason (disconnReasonPdpError params.reason)) :=
    honest_clearReuse.trans (.silent rfl id rfl)
  unfold activeDisconnect freeConnection
  exact (hreason.trans (honest_emit rfl)).trans (.silent rfl id rfl)

theorem honest_processLostConnection (info : SetupDataCallResultInfo) :
    Honest m (m.processLostConnection info) :=
  honest_clearReuse.trans (.silent rfl id rfl)

theorem honest_processLinkCapabilityChanged (up down : Nat) :
    Honest m (m.processLinkCapabilityChanged env up down) := by
  unfold processLinkCapabilityChanged
  refine Honest.trans ?_ honest_updateNetworkInfo
  split_ifs <;> exact .silent rfl id rfl

theorem honest_activeProcess : Honest m (activeProcess env e m).2 := by
  cases e with
  | disconnect params => exact honest_activeDisconnect params
  | disconnectAll params => exact honest_activeDisconnect params
  | lostConnection info => exact honest_processLostConnection info
  | rilAdapterHostDied info => exact honest_processLostConnection info
  | linkCapabilityChanged up down => exact honest_processLinkCapabilityChanged up down
  | dataRoamOn => exact honest_publishSupplier
  | dataRoamOff => exact honest_publishSupplier
  | voiceCallStarted => exact honest_publishSupplier
  | voiceCallEnded => exact honest_publishSupplier
  | nrStateChanged =>
    have hrefresh : Honest m ((m.refreshTcpBufferSizes env).refreshConnectionBandwidths env) :=
      .silent rfl id rfl
    exact hrefresh.trans honest_updateNetworkInfo
  | nrFrequencyChanged =>
    have hrefresh : Honest m (m.refreshConnectionBandwidths env) := .silent rfl id rfl
    exact hrefresh.trans honest_updateNetworkInfo
  | setupDataCall answer =>
    cases answer with
    | resultInfo info =>
      have htimer : Honest m (m.removeEvent isConnectTimeoutCheck) := .silent rfl id rfl
      exact htimer.trans (honest_emit rfl)
    | rilInfo info => exact .refl m
    | empty => exact .refl m
  | _ => exact .refl m

theorem honest_disconnectingProcess : Honest m (disconnectingProcess e m).2 := by
  cases e with
  | deactivateDataCall rilInfo =>
    cases rilInfo with
    | none => exact .silent rfl id rfl
    | some rilInfo =>
      simp only [disconnectingProcess, processRilDeactivateDataCall]
      split_ifs <;> exact .silent rfl id rfl
  | disconnectTimeoutCheck connectId =>
    simp only [disconnectingProcess, processDisconnectTimeout]
    split_ifs <;> exact .silent rfl id rfl
  | _ => exact .silent rfl id rfl

theorem honest_stateProcess (env : MachineEnv) (st : ConnState) (e : MachineEvent)
    (m : CellularDataStateMachine) : Honest m (stateProcess env st e m).2 := by
  cases st with
  | default_ => exact honest_defaultProcess
  | inactive => exact honest_inactiveProcess
  | activating => exact honest_activatingProcess
  | active => exact honest_activeProcess
  | disconnecting => exact honest_disconnectingProcess

/-! The event handler -/

/-- An ended attempt makes the supplier unavailable; the handler will publish it. -/
theorem honest_inactiveBegin : Honest m m.inactiveBegin := by
  unfold inactiveBegin
  extract_lets m₁ m₂ m₃ m₄
  have h₂ : Honest m m₂ := .silent rfl id rfl
  have h₄ : Honest m₂ m₄ := by
    dsimp only [m₄]
    split_ifs
    · exact .refl m₂
    · have h₃ : Honest m₂ m₃ := .silent rfl (fun h => Bool.noConfusion h) rfl
      have hreport : Honest m₃ (m₃.emit (.disconnectDataComplete m₃.disconnectInfo)) := honest_emit rfl
      exact (h₃.trans hreport).trans (.silent rfl id rfl)
  exact (h₂.trans h₄).trans (.silent rfl id rfl)

theorem honest_stateBegin (env : MachineEnv) (st : ConnState) (m : CellularDataStateMachine) :
    Honest m (stateBegin env st m) := by
  cases st with
  | inactive => exact honest_inactiveBegin
  | _ => exact .silent rfl id rfl

theorem states_respects (env : MachineEnv) : (states env).Respects Honest where
  refl := Honest.refl
  trans := Honest.trans
  stateBegin := honest_stateBegin env
  stateEnd st m := by cases st <;> exact .silent rfl id rfl
  stateProcess := honest_stateProcess env
  destState _ _ := .silent rfl id rfl
  curState _ _ := .silent rfl id rfl
  deferred _ := .silent rfl id rfl
  stop _ _ := .silent rfl id rfl

theorem honest_process : Honest m (m.process env e) := (states_respects env).processEvent m

/-! Methods of the handler -/

/-- The supplier is published as available or not. -/
structure Announces (on : Bool) (m m' : CellularDataStateMachine) : Prop where
  capability : m'.data.link.capability = m.data.link.capability
  available : m'.isAvailable = on
  tells : ∃ info os, info.isAvailable = on ∧
    m'.data.outbox = m.data.outbox ++ .updateNetSupplierInfo m.data.link.capability info :: os ∧
      ∀ o ∈ os, o.isSupplierInfo = false

theorem announces_publish : Announces m.isAvailable m m.publish := by
  unfold publish
  split_ifs
  · refine ⟨rfl, rfl, m.data.link.netSupplierInfo, [.updateNetLinkInfo m.data.link.capability
      m.data.link.netLinkInfo], rfl, ?_, ?_⟩
    · simp [publishLink, publishSupplier, emit, EventHandler.modifyData]
    · intro o ho
      obtain rfl := List.mem_singleton.mp ho
      rfl
  · exact ⟨rfl, rfl, m.data.link.netSupplierInfo, [], rfl, rfl, fun _ ho => nomatch ho⟩

/-- The report of the modem decides. -/
theorem announces_updateNetworkInfoFrom (info : SetupDataCallResultInfo) :
    Announces (decide (0 < info.active)) m (m.updateNetworkInfoFrom env info) := by
  unfold updateNetworkInfoFrom
  extract_lets ipInfoArray ipType mtu
  generalize hx : (m.modifyData fun d => { d with ifName := info.netPortName }).modifyLink _ = x
  have hcap : x.data.link.capability = m.data.link.capability := by
    rw [← hx]
    rfl
  have hon : x.isAvailable = decide (0 < info.active) := by
    rw [← hx]
    rfl
  have houtbox : x.data.outbox = m.data.outbox := by
    rw [← hx]
    rfl
  obtain ⟨hcap', hon', i, os, hi, htells, hos⟩ := announces_publish (m := x)
  refine ⟨hcap'.trans hcap, hon'.trans hon, i, os, hi.trans hon, ?_, hos⟩
  rw [htells, houtbox, hcap]

/-- The proxy says nothing of the supplier. -/
theorem Announces.of_proxy {on : Bool} {proxyIpAddress : String}
    (h : Announces on ((m.updateHttpProxy proxyIpAddress).getD m) m') : Announces on m m' := by
  cases hproxy : m.updateHttpProxy proxyIpAddress with
  | none =>
    rw [hproxy] at h
    exact h
  | some x =>
    rw [hproxy] at h
    obtain ⟨httpProxy, -, rfl⟩ := Option.map_eq_some_iff.mp hproxy
    exact ⟨h.capability, h.available, h.tells⟩

end CellularDataStateMachine
end CellularData
