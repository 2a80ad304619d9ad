import CellularData.Machine.Records
import CellularData.Slot.ActivationGate
import CellularData.Slot.Holding
import CellularData.Slot.Steps

/-! What the modem is asked for when a machine takes its request, and what the handler has put into
the request. -/
namespace CellularData
open Lib StateMachine Relation

namespace CellularDataStateMachine

variable {env : MachineEnv} {x x' : CellularDataStateMachine} {params : DataConnectionParams}
  {p : ActivateDataParam}

/-- What a request makes of a machine, as far as its outbox goes. -/
theorem outbox_connect (hx : x.Settled) (env : MachineEnv) (params : DataConnectionParams) :
    (x.process env (.connect params)).data.outbox = [] ∨
      (x.process env (.connect params)).data.outbox = (x.doConnect env params).data.outbox := by
  have hinit : MachineEvent.connect params ≠ .stateMachineInit := MachineEvent.noConfusion
  have hquit : MachineEvent.connect params ≠ .stateMachineQuit := MachineEvent.noConfusion
  cases hcur : x.curState with
  | none =>
    left
    rw [process_new hx hcur hinit hquit]
    exact hx.outbox
  | some st =>
    rw [process_eq_handle hx hcur hinit hquit]
    have hstay : ∀ y : CellularDataStateMachine, y.curState = x.curState →
        y.destState = x.destState → y.data.outbox = [] →
        (EventHandler.processTransitions y (states env)).data.outbox = [] := by
      intro y hc hd hout
      have heq : y.curState = y.destState := hc.trans (hx.destState.symm.trans hd.symm)
      simp only [EventHandler.processTransitions, heq, if_true, hout]
    cases st with
    | default_ => exact absurd hcur hx.leaf
    | inactive =>
      right
      have hcur' : ((x.doConnect env params).transitionTo .activating).curState = some .inactive :=
        (outside_doConnect params).curState.trans hcur
      change (next env ((x.doConnect env params).transitionTo .activating)).data.outbox =
        (x.doConnect env params).data.outbox
      generalize x.doConnect env params = y at hcur' ⊢
      obtain ⟨f, hnext⟩ := next_of_ne (y.transitionTo .activating) env hcur' rfl (by decide)
        (by decide) (by decide)
      rw [hnext]
      rfl
    | activating => exact .inl (hstay _ rfl rfl hx.outbox)
    | active => exact .inl (hstay _ rfl rfl hx.outbox)
    | disconnecting => exact .inl (hstay _ rfl rfl hx.outbox)

/-- What is sent to the modem comes from the holder's APN and from the request. -/
theorem activation_of_dispatch (hx : x.Settled)
    (h : x.dispatch env = some (.connect params, x'))
    (hmem : .activatePdpContext p ∈ x'.data.outbox) : ∃ apn,
      env.currentApn params.apnHolder = some apn ∧
        p.dataProfile = fillActivateDataParam apn params.apnHolder.bitmap ∧
        p.allowRoaming = params.roamingState ∧ p.isRoaming = params.userRoaming := by
  obtain ⟨q, hnext, rfl⟩ := dispatch_eq_some h
  rcases outbox_connect (hx.withQueue q) env params with hout | hout
  · rw [hout] at hmem
    cases hmem
  · rw [hout] at hmem
    unfold doConnect at hmem
    cases hapn : env.currentApn params.apnHolder with
    | none =>
      rw [hapn] at hmem
      have hempty : .activatePdpContext p ∈ x.data.outbox := hmem
      rw [hx.outbox] at hempty
      cases hempty
    | some apn =>
      rw [hapn] at hmem
      have hsent : MachineOutput.activatePdpContext p ∈ x.data.outbox ++ _ := hmem
      rw [hx.outbox] at hsent
      obtain rfl := MachineOutput.activatePdpContext.inj (List.mem_singleton.mp hsent)
      exact ⟨apn, rfl, rfl, rfl, rfl⟩

end CellularDataStateMachine

namespace Control

variable {c : Control} {params : DataConnectionParams}

/-- A machine works for the holder of any request on its way. -/
theorem Single.attempt_connect (hs : c.Single) (hw : c.WellFormed)
    (hmem : .connect params ∈ c.events) : c.attempt = some params.apnHolder.id := by
  have htimer : MachineEvent.connect params ∉ c.queue.delayed := fun h =>
    Bool.false_ne_true (hw.delayed _ h)
  have himm : MachineEvent.connect params ∉ c.queue.immediate := fun h =>
    Bool.noConfusion (hs.immediate _ h)
  rw [mem_events] at hmem
  cases hb : c.isBusy with
  | true =>
    have hup := hs.upcoming
    rw [upcoming_busy hb] at hup
    exfalso
    rcases hmem with h | h | h | h
    · exact himm h
    · cases hup _ (List.mem_append_right _ h)
    · exact htimer h
    · cases hup _ (List.mem_append_left _ (List.mem_append_right _ h))
  | false =>
    have hup := hs.upcoming
    rw [upcoming_idle hb] at hup
    have hdeferred : c.deferred = [] := by
      apply hw.idle
      · intro hst
        rw [isBusy_iff.mpr (.inl hst)] at hb
        cases hb
      · intro hst
        rw [isBusy_iff.mpr (.inr (.inr hst))] at hb
        cases hb
    rw [attempt_idle hb]
    apply afterRequest_spec hup
    rcases hmem with h | h | h | h
    · exact absurd h himm
    · exact h
    · exact absurd h htimer
    · rw [hdeferred] at h
      cases h

end Control

namespace Core

variable {k k' : Core} {cue : Cue} {t : ApnType}

/-- The records of the requests made for a holder, the last one first. -/
def recordsOf (k : Core) (t : ApnType) : List ConnectRecord :=
  k.connectLog.filter fun r => r.apnType = t

/-- The request has been made from the last record of its holder. -/
def Current (k : Core) (params : DataConnectionParams) : Prop :=
  ∃ r, (k.recordsOf params.apnHolder).head? = some r ∧ Carries params params.apnHolder r

/-- The holder of a request owns the machine that the request is on its way to. -/
theorem Owned.owner_connect (h : k.Owned) (hw : k.WellFormed) {m : MachineRef} {c : Control}
    (hm : k.controls[m]? = some c) {params : DataConnectionParams}
    (hmem : .connect params ∈ c.events) : k.owner params.apnHolder = some m := by
  have hc := List.mem_of_getElem? hm
  have hattempt := (h.sound c hc).single.attempt_connect (hw c hc) hmem
  have hsome : c.attempt ≠ none := by
    rw [hattempt]
    exact Option.some_ne_none _
  obtain ⟨u, howner⟩ := h.owned m c hm hsome
  have hid : some params.apnHolder.id = some u.id :=
    hattempt.symm.trans (h.attempt howner hm hsome).2
  obtain rfl : params.apnHolder = u := ApnType.id_injective (Option.some.inj hid)
  exact howner

/-- A new request leaves the last records of the other holders as they are. -/
theorem Current.connect {params : DataConnectionParams} (h : k.Current params)
    {record : ConnectRecord} {m : MachineRef} (hrecord : Records record t m)
    (hne : params.apnHolder ≠ t) (hlog : k'.connectLog = record :: k.connectLog) :
    k'.Current params := by
  have hkeep : k'.recordsOf params.apnHolder = k.recordsOf params.apnHolder := by
    unfold recordsOf
    rw [hlog]
    apply List.filter_cons_of_neg
    simpa [hrecord.apnType] using hne.symm
  unfold Current
  rw [hkeep]
  exact h

theorem Current.new {params : DataConnectionParams} {record : ConnectRecord} {m : MachineRef}
    (hrecord : Records record t m) (hparams : Carries params t record)
    {log : List ConnectRecord} (hlog : k'.connectLog = record :: log) : k'.Current params := by
  obtain rfl := hparams.apnHolder
  refine ⟨record, ?_, hparams⟩
  unfold recordsOf
  rw [hlog, List.filter_cons_of_pos (by simp [hrecord.apnType])]
  rfl

/-- A holder that is connected has no other request on its way. -/
theorem Owned.others (h : k.Owned) (hw : k.WellFormed) (hidle : k.state t = .idle)
    (hc : k.Requested fun _ params => k.Current params) :
    k.Requested fun _ params => k.Current params ∧ params.apnHolder ≠ t := by
  intro m c hm params hmem
  refine ⟨hc m c hm params hmem, ?_⟩
  rintro rfl
  have howner := h.owner_connect hw hm hmem
  have hfree := ((h.linked params.apnHolder).of_not_engaged (by rw [hidle]; rfl)).1
  cases hfree.symm.trans howner

theorem Owned.current (h : k.Owned) (hw : k.WellFormed)
    (hc : k.Requested fun _ params => k.Current params) (ha : Act k k') :
    k'.Requested fun _ params => k'.Current params := by
  cases ha with
  | @disconnect t m params howner =>
    exact Requested.post (k := k.setState t .disconnecting) hc m fun _ heq => nomatch heq
  | reset hstate => exact hc
  | retry hstate => exact hc
  | connect hidle hm hinactive hfree hparams hrecord =>
    refine Requested.connect ((h.others hw hidle hc).mono fun _ params hp => ?_) _ ?_
    · exact hp.1.connect hrecord hp.2 rfl
    · exact .new hrecord hparams rfl
  | create hidle hbusy hparams hrecord =>
    refine Requested.connect (Requested.create ((h.others hw hidle hc).mono fun _ params hp => ?_))
      _ ?_
    · exact hp.1.connect hrecord hp.2 rfl
    · exact .new hrecord hparams rfl
  | tell he => exact Requested.tell hc he

end Core

namespace Slot

variable {env : Env} {s s' : Slot} {t : ApnType} {i : ItemRef} {r : ConnectRecord}
  {p : ActivateDataParam}

/-- The records of the requests made for a holder, the last one first. -/
def recordsOf (s : Slot) (t : ApnType) : List ConnectRecord :=
  s.connectLog.filter fun r => r.apnType = t

/-- A request on its way carries what its holder's last record says. -/
theorem reachable_current (h : system.Reachable s) {m : MachineRef} {x : CellularDataStateMachine}
    (hm : s.machine? m = some x) {params : DataConnectionParams}
    (hmem : .connect params ∈ x.queue.pending ∨ .connect params ∈ x.deferEvents) :
    ∃ r, (s.recordsOf params.apnHolder).head? = some r ∧
      Core.Carries params params.apnHolder r := by
  have hcurrent : s.core.Owned ∧ s.core.Requested fun _ params => s.core.Current params := by
    refine core_invariant (P := fun k => k.Owned ∧ k.Requested fun _ params => k.Current params) h
      ⟨Core.blank_owned, fun _ _ hc => nomatch hc⟩ (fun k k' hw hp ha => ?_) ?_
    · exact ⟨hp.1.act hw ha, hp.1.current hw hp.2 ha⟩
    · rintro l s k - hw ⟨howned, hcurrent⟩ - ht
      refine ⟨howned.trigger hw ht, (hcurrent.trigger ht).mono fun _ params hp => ?_⟩
      unfold Core.Current Core.recordsOf
      rw [ht.connectLog]
      exact hp
  have hc : s.core.controls[m]? = some x.control := by
    rw [controls_getElem?, hm, Option.map_some]
  exact hcurrent.2 m x.control hc params (Control.mem_events_iff.mpr hmem)

/-! The item of a holder between two of its requests -/

/-- Records are only added; with a new record the holder has an item, and without one it keeps the
item it has. -/
def Keeps (t : ApnType) (s s' : Slot) : Prop :=
  ∃ records, s'.recordsOf t = records ++ s.recordsOf t ∧
    (records = [] → (s'.holder t).apnItem = (s.holder t).apnItem) ∧
    (records ≠ [] → (s'.holder t).apnItem ≠ none)

theorem Keeps.same (hlog : s'.connectLog = s.connectLog)
    (hitem : (s'.holder t).apnItem = (s.holder t).apnItem) : Keeps t s s' :=
  ⟨[], by rw [recordsOf, hlog, recordsOf, List.nil_append], fun _ => hitem, fun h => absurd rfl h⟩

theorem Keeps.refl (s : Slot) : Keeps t s s := .same rfl rfl

theorem Keeps.trans {s'' : Slot} (h : Keeps t s s') (h' : Keeps t s' s'') : Keeps t s s'' := by
  obtain ⟨records, heq, hitem, hsome⟩ := h
  obtain ⟨records', heq', hitem', hsome'⟩ := h'
  refine ⟨records' ++ records, by rw [heq', heq, List.append_assoc], fun hnil => ?_, fun hne => ?_⟩
  · obtain ⟨hnil', hnil⟩ := List.append_eq_nil_iff.mp hnil
    exact (hitem' hnil').trans (hitem hnil)
  · by_cases hnil' : records' = []
    · rw [hitem' hnil']
      apply hsome
      rwa [hnil', List.nil_append] at hne
    · exact hsome' hnil'

theorem Keeps.foldl {α : Type} {f : Slot → α → Slot} (hf : ∀ s a, Keeps t s (f s a)) (l : List α)
    (s : Slot) : Keeps t s (l.foldl f s) := by
  induction l generalizing s with
  | nil => exact .refl s
  | cons a l ih => exact (hf s a).trans (ih _)

/-- Nothing is left to know where no request has been made. -/
theorem Keeps.item (h : Keeps t s s') (hsame : s'.recordsOf t = s.recordsOf t) :
    (s'.holder t).apnItem = (s.holder t).apnItem := by
  obtain ⟨records, heq, hitem, -⟩ := h
  apply hitem
  have hlength := congrArg List.length (heq.symm.trans hsame)
  rw [List.length_append] at hlength
  apply List.eq_nil_of_length_eq_zero
  omega

theorem apnItem_setApnState (t u : ApnType) (st : ApnProfileState) :
    ((s.setApnState t st).holder u).apnItem = (s.holder u).apnItem := by
  by_cases h : u = t
  · subst h
    by_cases hst : st = .failed <;> simp [setApnState, ApnHolder.setApnState, hst]
  · simp [setApnState, h]

theorem connectLog_of_hidden (h : Hidden s s') : s'.connectLog = s.connectLog :=
  congrArg Core.connectLog h.core

theorem apnItem_of_apnManager (h : s'.apnManager = s.apnManager) :
    (s'.holder t).apnItem = (s.holder t).apnItem := by
  unfold holder
  rw [h]

theorem Write.apnItem (h : Write env s s') (t : ApnType) :
    (s'.holder t).apnItem = (s.holder t).apnItem := by
  cases h with
  | other h => exact apnItem_of_apnManager (congrArg (·.2.2.1) h)
  | @holder u f _ _ hitem _ _ =>
    rw [holder_modifyHolder]
    split_ifs with hu
    · rw [hu, hitem]
    · rfl
  | push => exact apnItem_of_apnManager (apnManager_updateCellularDataConnectState _)
  | machine _ => exact apnItem_of_apnManager (apnManager_callMachine _ _)
  | reuse _ => exact apnItem_of_apnManager (apnManager_callMachine _ _)
  | reload =>
    unfold applyApnReload
    split <;> rfl
  | setBad =>
    unfold setApnBadState
    split <;> rfl
  | lend =>
    unfold lendDataPermitted
    refine (apnItem_of_apnManager (apnManager_setDataPermittedForMms true)).trans ?_
    split_ifs <;> rfl
  | giveBack => exact apnItem_of_apnManager (apnManager_setDataPermittedForMms false)
  | _ => rfl

theorem keeps_setApnState (u : ApnType) (st : ApnProfileState) : Keeps t s (s.setApnState u st) :=
  .same rfl (apnItem_setApnState u t st)

theorem keeps_renewHolder (s : Slot) (u : ApnType) : Keeps t s (s.renewHolder u) := by
  unfold renewHolder
  split_ifs
  · have hcount : Keeps t s (s.modifyHolder u fun h => h.initialApnRetryCount) := by
      refine .same rfl ?_
      rw [holder_modifyHolder]
      split_ifs with hu
      · rw [hu]
        rfl
      · rfl
    refine hcount.trans ((keeps_setApnState u .idle).trans ?_)
    exact .same rfl rfl
  · exact .same rfl rfl

theorem keeps_startConnection (u : ApnType) (m : MachineRef) (apnItem : ItemRef)
    (radioTech : RadioTech) : Keeps t s (s.startConnection env u m apnItem radioTech) := by
  obtain ⟨params, -, hcore, -⟩ := core_startConnection env s u m apnItem radioTech
  have hlog : (s.startConnection env u m apnItem radioTech).connectLog =
      s.connectRecord env u m :: s.connectLog := congrArg Core.connectLog hcore
  by_cases hu : t = u
  · subst hu
    refine ⟨[s.connectRecord env t m], ?_, fun h => (nomatch h), fun _ => ?_⟩
    rotate_left
    · rw [holder_startConnection, if_pos rfl]
      exact Option.some_ne_none _
    unfold recordsOf
    rw [hlog]
    have htype : (s.connectRecord env t m).apnType = t := rfl
    exact List.filter_cons_of_pos (decide_eq_true htype)
  · refine ⟨[], ?_, fun _ => by rw [holder_startConnection, if_neg hu], fun h => absurd rfl h⟩
    unfold recordsOf
    rw [hlog, List.filter_cons_of_neg, List.nil_append]
    exact fun h => hu (of_decide_eq_true h).symm

theorem Op.keeps (h : Op env (Connects env) s s') : Keeps t s s' := by
  cases h with
  | write h => exact .same (connectLog_of_hidden h.hidden) (h.apnItem t)
  | disconnect howner => exact (keeps_setApnState _ _).trans (.same rfl rfl)
  | reset h => exact keeps_setApnState _ _
  | @retry u id delay hidle hid henabled => exact (keeps_setApnState u .retrying).trans (.same rfl rfl)
  | renew => exact Keeps.foldl keeps_renewHolder _ _
  | tell he => exact .same rfl rfl
  | search =>
    obtain ⟨d, c, h⟩ := checkForCompatibleDataConnection_eq env s _
    rw [h]
    exact .same rfl rfl
  | connect hc =>
    obtain ⟨u, hc⟩ := hc
    cases hc with
    | @start apnItem hidle hopen hsingle =>
      have hfind : Keeps t s s.findOrCreateCellularDataConnect.1 := by
        refine .same (connectLog_of_scene scene_findOrCreateCellularDataConnect) ?_
        rw [holder_findOrCreateCellularDataConnect]
      exact hfind.trans (keeps_startConnection u _ apnItem _)

theorem Does.keeps (h : Does env (Connects env) s s') : Keeps t s s' := by
  induction h with
  | refl => exact .refl s
  | tail _ hop ih => exact ih.trans hop.keeps

theorem Writes.keeps (h : Writes env s s') : Keeps t s s' := by
  have hdoes : Does env (Connects env) s s' := h.does
  exact hdoes.keeps

theorem keeps_callMachine (m : MachineRef)
    (f : CellularDataStateMachine → CellularDataStateMachine) : Keeps t s (s.callMachine m f) := by
  unfold callMachine
  split
  · exact .same rfl rfl
  · exact .refl s

theorem keeps_releaseMachine (u : ApnType) (m : MachineRef) (info : SetupDataCallResultInfo) :
    Keeps t s (s.releaseMachine env u m info) := by
  unfold releaseMachine
  extract_lets menv s₁ s₂ s₃
  have h₁ : Keeps t s s₁ := keeps_callMachine m _
  have h₂ : Keeps t s₁ s₂ := by
    dsimp only [s₂]
    split
    · exact .same rfl rfl
    · exact .refl s₁
  have h₃ : Keeps t s₂ s₃ := by
    refine .same rfl ?_
    dsimp only [s₃]
    rw [holder_modifyHolder]
    split_ifs with hu
    · rw [hu]
    · rfl
  exact ((h₁.trans h₂).trans h₃).trans (keeps_setApnState u .idle)

theorem keeps_handleDisconnectDataCompleteForMmsType (u : ApnType) :
    Keeps t s (s.handleDisconnectDataCompleteForMmsType env u) := by
  refine .same (connectLog_of_hidden (hidden_handleDisconnectDataCompleteForMmsType u))
    (apnItem_of_apnManager ?_)
  unfold handleDisconnectDataCompleteForMmsType
  split_ifs
  · exact apnManager_setDataPermittedForMms false
  · rfl

theorem Takes.keeps {e : HandlerEvent} (h : Takes env s e s') : Keeps t s s' := by
  cases h with
  | event he hd => exact hd.connects.keeps
  | @request request u _ ht hw =>
    have hask : Keeps t s (s.modifyHolder u fun h => h.requestCellularData request.capability) := by
      refine .same rfl ?_
      rw [holder_modifyHolder]
      split_ifs with hu
      · rw [hu]
        rfl
      · rfl
    exact hask.trans hw.keeps
  | noCompletion _ => exact .same rfl rfl
  | @complete info u s₁ s₂ s₃ hu h₁ h₂ h₃ =>
    replace h₂ := h₂.trans (Write.push.writes.trans h₃)
    have hcompleted : Keeps t s (s.completed env u info) := keeps_setApnState u .connected
    have hlast : Keeps t s₁ s₃ := by
      cases hm : (s.holder u).cellularDataStateMachine with
      | some m =>
        rw [hm] at h₂
        exact h₂.keeps
      | none =>
        rw [hm] at h₂
        exact (keeps_setApnState u .idle).trans h₂.keeps
    refine (hcompleted.trans h₁.keeps).trans (hlast.trans ?_)
    split_ifs <;> exact .same rfl rfl
  | noEnd hid => exact .refl s
  | endWithoutMachine hid hm => exact keeps_setApnState _ _
  | @finish info u m s₁ hid hm hd =>
    replace hd := (Op.write Write.push).does.trans hd
    exact ((keeps_releaseMachine u m info).trans hd.connects.keeps).trans
      (keeps_handleDisconnectDataCompleteForMmsType u)
  | update hw => exact hw.keeps

theorem step_keeps {l : Label} (h : step l s = some s') : Keeps t s s' := by
  cases step_steps h with
  | aside ha =>
    exact .same (congrArg (·.2.2.2.2.2.1) ha.frame) (congrArg ApnHolder.apnItem (ha.holder t))
  | call hd => exact hd.connects.keeps
  | @take env e q hnext =>
    have hqueue : Keeps t s { s with queue := q } := .same rfl rfl
    exact hqueue.trans (processEvent_takes env { s with queue := q } e).keeps

theorem path_keeps {ok : Label → Slot → Prop}
    (hpath : ReflTransGen (system.StepWhen ok) s s') : Keeps t s s' := by
  induction hpath with
  | refl => exact .refl s
  | tail _ hstep ih =>
    obtain ⟨l, -, hl⟩ := hstep
    exact ih.trans (step_keeps hl)

/-! The request of the modem -/

/-- In this state a machine takes a request of the holder and asks the modem for a call. -/
def Activates (env : Env) (s : Slot) (t : ApnType) (p : ActivateDataParam) : Prop :=
  ∃ m x params x', s.machine? m = some x ∧
    x.dispatch (env.machineEnv s) = some (.connect params, x') ∧ params.apnHolder = t ∧
    .activatePdpContext p ∈ x'.data.outbox

/-- What is asked for is what the item says, under the roaming state and the switch on record. -/
structure Faithful (item : ApnItem) (t : ApnType) (r : ConnectRecord) (p : ActivateDataParam) :
    Prop where
  profileId : p.dataProfile.profileId = item.attr.profileId
  apn : p.dataProfile.apn = item.attr.apn
  protocol : p.dataProfile.protocol = item.attr.protocol
  roamingProtocol : p.dataProfile.roamingProtocol = item.attr.roamingProtocol
  verType : p.dataProfile.verType = item.attr.authType
  userName : p.dataProfile.userName = item.attr.user
  password : p.dataProfile.password = item.attr.password
  bitmap : p.dataProfile.supportedApnTypesBitmap = t.bitmap
  isRoaming : p.isRoaming = true ↔ 0 < r.psRoamingState
  allowRoaming : p.allowRoaming = r.switches.userDataRoaming

/-- The modem is asked for the holder's item; that the slot is roaming is said in any case. -/
theorem Activates.request (hs : system.Reachable s) (h : Activates env s t p) :
    ∃ i r, (s.holder t).apnItem = some i ∧ (s.recordsOf t).head? = some r ∧
      p.dataProfile = CellularDataStateMachine.fillActivateDataParam (s.apnItem i) t.bitmap ∧
      p.allowRoaming = r.switches.userDataRoaming ∧ p.isRoaming = true := by
  obtain ⟨m, x, params, x', hm, hdispatch, rfl, hmem⟩ := h
  obtain ⟨hr, -⟩ := reachable_regular hs
  have hx : x.Settled := hr.settled x (List.mem_of_getElem? hm)
  obtain ⟨apn, hapn, hprofile, hallow, hroaming⟩ :=
    CellularDataStateMachine.activation_of_dispatch hx hdispatch hmem
  obtain ⟨i, hi, rfl⟩ := Option.map_eq_some_iff.mp hapn
  have hpending : .connect params ∈ x.queue.pending := by
    obtain ⟨q, hnext, -⟩ := CellularDataStateMachine.dispatch_eq_some hdispatch
    exact (EventQueue.mem_pending_next hnext).mpr (.inl rfl)
  obtain ⟨r, hrecord, hcarries⟩ := reachable_current hs hm (.inl hpending)
  exact ⟨i, r, hi, hrecord, hprofile, hallow.trans hcarries.roamingState,
    hroaming.trans hcarries.userRoaming⟩

/-- From the attempt of a holder to the request of the modem: the request is faithful exactly when
the slot was roaming at the attempt. -/
theorem activation_faithful_iff (hs : system.Reachable s) (hitem : (s.holder t).apnItem = some i)
    (hrecord : (s.recordsOf t).head? = some r)
    (hpath : ReflTransGen (system.StepWhen fun _ _ => True) s s')
    (hsame : s'.recordsOf t = s.recordsOf t) (h : Activates env s' t p) :
    Faithful (s'.apnItem i) t r p ↔ 0 < r.psRoamingState := by
  obtain ⟨i', r', hitem', hrecord', hprofile, hallow, hroaming⟩ := h.request (hs.path hpath)
  obtain rfl : i' = i :=
    Option.some.inj (hitem'.symm.trans (((path_keeps hpath).item hsame).trans hitem))
  obtain rfl : r' = r := by
    rw [hsame] at hrecord'
    exact Option.some.inj (hrecord'.symm.trans hrecord)
  constructor
  · intro hf
    exact hf.isRoaming.mp hroaming
  · intro hr
    refine ⟨?_, ?_, ?_, ?_, ?_, ?_, ?_, ?_, iff_of_true hroaming hr, hallow⟩
    all_goals
      rw [hprofile]
      rfl

/-! A request made while roaming and one made at home -/

def isRequestFor (t : ApnType) : MachineEvent → Bool
  | .connect params => params.apnHolder = t
  | _ => false

/-- The machine takes a request of the holder and asks the modem with these parameters. -/
def activates (env : Env) (s : Slot) (t : ApnType) (p : ActivateDataParam) (m : MachineRef) : Bool :=
  (s.machine? m).any fun x => (x.dispatch (env.machineEnv s)).any fun r =>
    isRequestFor t r.1 && decide (.activatePdpContext p ∈ r.2.data.outbox)

theorem activates_of_machine {m : MachineRef} (h : activates env s t p m = true) :
    Activates env s t p := by
  obtain ⟨x, hm, hx⟩ := (Option.any_eq_true _ _).mp h
  obtain ⟨⟨e, x'⟩, hdispatch, hr⟩ := (Option.any_eq_true _ _).mp hx
  obtain ⟨htype, hmem⟩ := Bool.and_eq_true_iff.mp hr
  cases e with
  | connect params =>
    exact ⟨m, x, params, x', hm, hdispatch, of_decide_eq_true htype, of_decide_eq_true hmem⟩
  | _ => cases htype

/-- The request for the APN of the slot in service. -/
def cmnetParam (t : ApnType) (allowRoaming : Bool) : ActivateDataParam where
  param := 1
  radioTechnology := .other 0
  allowRoaming
  isRoaming := true
  dataProfile := CellularDataStateMachine.fillActivateDataParam
    { attr := { profileId := 1, apn := "cmnet" } } t.bitmap

/-- From the attempt made while roaming to the machine that takes the request. -/
theorem activation_faithful_roaming : ∃ s s' r,
    system.run (roamingLabels 1) start = some s ∧ (s.recordsOf .mms).head? = some r ∧
      r.psRoamingState = 1 ∧ system.run [.dispatchMachine (storeEnv 1 1) 0] s = some s' ∧
      Activates (storeEnv 1 1) s' .mms (cmnetParam .mms true) ∧
      Faithful (s'.apnItem 0) .mms r (cmnetParam .mms true) := by
  obtain ⟨s, hrun, hs, hp⟩ := exists_run (roamingLabels 1)
    (p := fun s => (s.holder .mms).apnItem = some 0 ∧
      (s.recordsOf .mms).head?.any (fun r => r.psRoamingState = 1) ∧
      (system.runIf (fun _ _ => true) [.dispatchMachine (storeEnv 1 1) 0] s).any fun s' =>
        s'.recordsOf .mms = s.recordsOf .mms ∧
          activates (storeEnv 1 1) s' .mms (cmnetParam .mms true) 0 = true) (by decide +kernel)
  obtain ⟨hitem, hrecord, hafter⟩ := of_decide_eq_true hp
  obtain ⟨r, hr, hroaming⟩ := (Option.any_eq_true _ _).mp hrecord
  obtain ⟨s', hrun', hs'⟩ := (Option.any_eq_true _ _).mp hafter
  obtain ⟨hsame, hact⟩ := of_decide_eq_true hs'
  have hroaming' : r.psRoamingState = 1 := of_decide_eq_true hroaming
  refine ⟨s, s', r, hrun, hr, hroaming', hrun', activates_of_machine hact, ?_⟩
  refine (activation_faithful_iff hs hitem hr (TransitionSystem.path_of_runIf (fun _ _ _ => trivial)
    hrun') hsame (activates_of_machine hact)).mpr ?_
  rw [hroaming']
  decide

/-- At home the modem is told that the slot is roaming. -/
theorem home_request_roaming : ∃ s r,
    system.run (loadLabels ++ requestLabels .internet 0) start = some s ∧ s.crash = none ∧
      (s.holder .default_).apnItem = some 0 ∧ (s.recordsOf .default_).head? = some r ∧
      r.psRoamingState = 0 ∧ Activates serviceEnv s .default_ (cmnetParam .default_ false) ∧
      ¬ Faithful (s.apnItem 0) .default_ r (cmnetParam .default_ false) := by
  obtain ⟨s, hrun, -, hp⟩ := exists_run (loadLabels ++ requestLabels .internet 0)
    (p := fun s => s.crash = none ∧ (s.holder .default_).apnItem = some 0 ∧
      (s.recordsOf .default_).head?.any (fun r => r.psRoamingState = 0) ∧
      activates serviceEnv s .default_ (cmnetParam .default_ false) 0 = true) (by decide +kernel)
  obtain ⟨hcrash, hitem, hrecord, hact⟩ := of_decide_eq_true hp
  obtain ⟨r, hr, hroaming⟩ := (Option.any_eq_true _ _).mp hrecord
  have hhome : r.psRoamingState = 0 := of_decide_eq_true hroaming
  refine ⟨s, r, hrun, hcrash, hitem, hr, hhome, activates_of_machine hact, fun hf => ?_⟩
  have hr := hf.isRoaming.mp rfl
  omega

end Slot
end CellularData
