import CellularData.Slot.Holding

/-! Machines and holders in every reachable state: each machine has at most one holder, and a holder
that waits has a message on its way or a machine at work for it. -/
namespace CellularData
open Lib StateMachine Relation

/-- Events that some component sends to a machine. -/
def MachineEvent.isSent : MachineEvent → Bool
  | .disconnectAll _ | .getLastFailDone | .stateMachineQuit => false
  | _ => true

namespace Core

variable {k k' : Core} {cue : Cue}

def Sent (k : Core) : Prop := ∀ c ∈ k.controls, ∀ e ∈ c.events, e.isSent = true

theorem isSent_of_isTimer {e : MachineEvent} (he : e.isTimer = true) : e.isSent = true := by
  cases e <;> first | rfl | cases he

theorem isSent_of_isNews {e : MachineEvent} (he : e.isNews = true) : e.isSent = true := by
  cases e <;> first | rfl | cases he

theorem isSent_of_isExternal {e : MachineEvent} (he : e.isExternal = true) : e.isSent = true := by
  cases e <;> first | rfl | cases he

theorem Sent.post (h : k.Sent) (m : MachineRef) {e : MachineEvent} (he : e.isSent = true) :
    (k.post m e).Sent :=
  forall_mem_modify h (fun _ hc x hx => (Control.mem_events_post.mp hx).elim (hc x)
    fun heq => heq ▸ he) m

theorem Sent.set (h : k.Sent) {m : MachineRef} {c : Control}
    (hc : ∀ e ∈ c.events, e.isSent = true) : Sent { k with controls := k.controls.set m c } :=
  fun x hx => (List.mem_or_eq_of_mem_set hx).elim (h x) fun heq => heq ▸ hc

theorem Sent.act (h : k.Sent) (ha : Act k k') : k'.Sent := by
  cases ha with
  | disconnect howner => exact Sent.post (k := k.setState _ _) h _ rfl
  | reset hstate => exact h
  | retry hstate => exact h
  | connect hidle hm hinactive hfree hparams hrecord =>
    exact Sent.post (k := (k.setState _ _).setOwner _ _) h _ rfl
  | create hidle hbusy hparams hrecord =>
    refine forall_mem_modify (fun c hc => ?_) (fun _ hc x hx =>
      (Control.mem_events_post.mp hx).elim (hc x) fun heq => heq ▸ rfl) _
    rcases List.mem_append.mp hc with hc | hc
    · exact h c hc
    · intro e he
      rw [List.mem_singleton.mp hc] at he
      rw [List.mem_singleton.mp he]
      rfl
  | tell he =>
    intro c hc x hx
    obtain ⟨c₀, hc₀, rfl⟩ := List.mem_map.mp hc
    exact (Control.mem_events_post.mp hx).elim (h c₀ hc₀ x) fun heq => heq ▸ isSent_of_isNews he

theorem Sent.trigger (h : k.Sent) (ht : Trigger cue k k') : k'.Sent := by
  have hcongr : ∀ {k₁ k₂ : Core}, k₂.controls = k₁.controls → k₁.Sent → k₂.Sent :=
    fun heq h c hc => h c (heq ▸ hc)
  cases ht with
  | skip hcue => exact h
  | complete hnotices => exact hcongr (controls_complete _ _) h
  | finish hnotices => exact hcongr (controls_finish _ _) h
  | update hnotices => exact h
  | answer he => exact h.post _ (isSent_of_isExternal he)
  | dispatch hm hnext ht =>
    refine hcongr (controls_foldl_receive _ _ _) (Sent.set h fun e he => ?_)
    exact (Control.mem_events_dispatch hnext ht he).elim (h _ (List.mem_of_getElem? hm) e)
      isSent_of_isTimer
  | fire hm hq =>
    exact h.set fun e he => h _ (List.mem_of_getElem? hm) e ((Control.mem_events_fire hq).mp he)
  | rearm =>
    exact forall_mem_modify h (fun _ hc x hx => (Control.mem_events_rearm hx).elim (hc x)
      isSent_of_isTimer) _
  | report =>
    refine report_invariant (P := Sent) (fun k info _ hk => hcongr (controls_relayDataCall k info) hk)
      (fun k m _ hk => ?_) (fun _ _ hk => hk) h
    exact loseConnection_invariant hk (fun _ => hk.post _ rfl) _
  | capability => exact foldl_invariant (P := Sent) (fun k m hk => hk.post m rfl) _ h

end Core

namespace Slot

variable {s : Slot} {ok : Label → Slot → Prop}

theorem reachable_sent (h : system.ReachableWhen ok s) : s.core.Sent :=
  core_invariant h (fun _ hc => nomatch hc) (fun _ _ _ hp ha => hp.act ha)
    fun _ _ _ _ _ hp _ ht => hp.trigger ht

theorem control_of_machine {m : MachineRef} {x : CellularDataStateMachine}
    (h : s.machine? m = some x) : s.core.controls[m]? = some x.control := by
  rw [controls_getElem?, h, Option.map_some]

theorem machine_of_control {m : MachineRef} {c : Control} (h : s.core.controls[m]? = some c) :
    ∃ x, s.machine? m = some x ∧ x.control = c := by
  rw [controls_getElem?] at h
  exact Option.map_eq_some_iff.mp h

/-! Ownership -/

/-- The machine is in `Inactive` and no request is on its way to it. -/
def Rests (x : CellularDataStateMachine) : Prop :=
  x.curState = some .inactive ∧ x.isInactiveState = true ∧
    ∀ params, .connect params ∉ x.queue.pending ∧ .connect params ∉ x.deferEvents

structure MachinesOwned (s : Slot) : Prop where
  exclusive : ∀ t u m, (s.holder t).cellularDataStateMachine = some m →
    (s.holder u).cellularDataStateMachine = some m → t = u
  idle : ∀ t, (s.holder t).apnState = .idle ∨ (s.holder t).apnState = .retrying →
    (s.holder t).cellularDataStateMachine = none
  engaged : ∀ t, (s.holder t).apnState = .connecting ∨ (s.holder t).apnState = .connected ∨
    (s.holder t).apnState = .disconnecting →
    ∃ m x, (s.holder t).cellularDataStateMachine = some m ∧ s.machine? m = some x
  unheld : ∀ m x, s.machine? m = some x →
    (∀ t, (s.holder t).cellularDataStateMachine ≠ some m) → Rests x
  found : ∀ m, s.findIdleCellularDataConnection = some m → ∃ x, s.machine? m = some x ∧ Rests x
  count : s.stateMachines.length ≤ ApnType.all.length

/-- A machine without an attempt has no request on its way. -/
theorem rests_of_attempt {x : CellularDataStateMachine} (hx : x.Settled)
    (hw : x.control.WellFormed) (hs : x.control.Single)
    (hstate : x.control.state = some .inactive) (ha : x.control.attempt = none) : Rests x := by
  have hb : x.control.isBusy = false := by simp [Control.isBusy, hstate]
  rw [Control.attempt_idle hb] at ha
  refine ⟨hstate, (isInactiveState_iff hx).mpr hstate, fun params => ⟨fun hmem => ?_, fun hmem => ?_⟩⟩
  · rcases EventQueue.mem_pending.mp hmem with h | h | h
    · cases hs.immediate _ h
    · cases Control.findSome?_requestId_eq_none ha _ h
    · cases hw.delayed _ h
  · have hdef : x.control.deferred = [] := hw.idle (by simp [hstate]) (by simp [hstate])
    have hmem' : .connect params ∈ x.control.deferred := hmem
    rw [hdef] at hmem'
    cases hmem'

theorem reachable_machinesOwned (h : system.Reachable s) : s.MachinesOwned := by
  obtain ⟨hr, hw⟩ := reachable_regular h
  have ho := reachable_owned h
  have hunheld : ∀ m x, s.machine? m = some x →
      (∀ t, (s.holder t).cellularDataStateMachine ≠ some m) → Rests x := by
    intro m x hm hfree
    have hc := control_of_machine hm
    have hmem := List.mem_of_getElem? hc
    obtain ⟨hstate, ha⟩ := ho.idle hw hc hfree
    exact rests_of_attempt (hr.settled x (List.mem_of_getElem? hm)) (hw _ hmem)
      (ho.sound _ hmem).single hstate ha
  refine ⟨ho.injective, fun t ht => ?_, fun t ht => ?_, hunheld, fun m hm => ?_, ?_⟩
  · refine ((ho.linked t).of_not_engaged ?_).1
    have hst : s.core.state t = (s.holder t).apnState := rfl
    rw [hst]
    rcases ht with ht | ht <;> rw [ht] <;> rfl
  · have hst : (s.core.state t).isEngaged = true := by
      have heq : s.core.state t = (s.holder t).apnState := rfl
      rw [heq]
      rcases ht with ht | ht | ht <;> rw [ht] <;> rfl
    cases ho.linked t with
    | free _ _ hno => simp [hst] at hno
    | ended howner hm =>
      obtain ⟨x, hx, -⟩ := machine_of_control hm
      exact ⟨_, x, howner, hx⟩
    | held howner hm =>
      obtain ⟨x, hx, -⟩ := machine_of_control hm
      exact ⟨_, x, howner, hx⟩
  · obtain ⟨x, hx, -, hfree⟩ := findIdle_some hm
    exact ⟨x, hx, hunheld m x hx hfree⟩
  · have hlength : s.core.controls.length = s.stateMachines.length := List.length_map _
    exact hlength ▸ ho.size

/-- The default holder is connecting with the first machine. -/
theorem machinesOwned_connecting : ∃ s,
    system.run (loadLabels ++ requestLabels .internet 0) start = some s ∧
      (s.holder .default_).apnState = .connecting ∧
      (s.holder .default_).cellularDataStateMachine = some 0 ∧ s.MachinesOwned := by
  obtain ⟨s, hrun, hs, hp⟩ := exists_run (loadLabels ++ requestLabels .internet 0)
    (p := fun s => (s.holder .default_).apnState = .connecting ∧
      (s.holder .default_).cellularDataStateMachine = some 0) (by decide +kernel)
  obtain ⟨hstate, howner⟩ := of_decide_eq_true hp
  exact ⟨s, hrun, hstate, howner, reachable_machinesOwned hs⟩

/-! Waiting holders -/

/-- What a connecting holder waits for. -/
def ConnectUnderWay (s : Slot) (t : ApnType) (x : CellularDataStateMachine) : Prop :=
  (∃ params, .connect params ∈ x.queue.ready ∧ params.apnHolder = t) ∨
    x.isActivatingState = true ∨
    (x.isActiveState = true ∧ ∃ info, .setupDataCall (.resultInfo info) ∈ x.queue.immediate ∧
      info.flag = x.data.connectId) ∨
    ∃ info, info.flag = t.id ∧ (.establishDataConnectionComplete info ∈ s.queue.pending ∨
      .disconnectDataComplete info ∈ s.queue.pending)

/-- What a disconnecting holder waits for. -/
def DisconnectUnderWay (s : Slot) (t : ApnType) (x : CellularDataStateMachine) : Prop :=
  (∃ params, .disconnect params ∈ x.queue.pending ∨ .disconnect params ∈ x.deferEvents) ∨
    x.isDisconnectingState = true ∨
    ∃ info, info.flag = t.id ∧ .disconnectDataComplete info ∈ s.queue.pending

structure NoHolderHangs (s : Slot) : Prop where
  connecting : ∀ t, (s.holder t).apnState = .connecting → ∃ m x,
    (s.holder t).cellularDataStateMachine = some m ∧ s.machine? m = some x ∧ s.ConnectUnderWay t x
  disconnecting : ∀ t, (s.holder t).apnState = .disconnecting → ∃ m x,
    (s.holder t).cellularDataStateMachine = some m ∧ s.machine? m = some x ∧
      s.DisconnectUnderWay t x

theorem mem_pending_of_notice {e : HandlerEvent} (h : e ∈ s.core.notices) : e ∈ s.queue.pending :=
  EventQueue.mem_pending.mpr (.inr (.inl (List.mem_filter.mp h).1))

theorem notice_of_mem_pending (hr : s.Regular) {e : HandlerEvent} (he : e.isNotice = true)
    (h : e ∈ s.queue.pending) : e ∈ s.core.notices := by
  rcases EventQueue.mem_pending.mp h with h | h | h
  · simp [hr.immediate] at h
  · exact List.mem_filter.mpr ⟨h, he⟩
  · rw [hr.delayed e h] at he
    cases he

/-- A report that is counted is pending. -/
theorem exists_end {t : ApnType} (h : s.core.ends t = 1) :
    ∃ info : SetupDataCallResultInfo, info.flag = t.id ∧
      .disconnectDataComplete info ∈ s.queue.pending := by
  have hpos : 0 < s.core.notices.countP (HandlerEvent.isEnd t.id) := by
    have heq : s.core.notices.countP (HandlerEvent.isEnd t.id) = 1 := h
    omega
  obtain ⟨e, he, hend⟩ := List.countP_pos_iff.mp hpos
  cases e with
  | disconnectDataComplete info =>
    exact ⟨info, of_decide_eq_true hend, mem_pending_of_notice he⟩
  | _ => cases hend

theorem exists_completion {t : ApnType} (h : s.core.Completes t) :
    ∃ info : SetupDataCallResultInfo, info.flag = t.id ∧
      .establishDataConnectionComplete info ∈ s.queue.pending := by
  obtain ⟨e, he, hc⟩ := h
  cases e with
  | establishDataConnectionComplete info =>
    exact ⟨info, of_decide_eq_true hc, mem_pending_of_notice he⟩
  | _ => cases hc

/-- An idle machine that has an attempt has the request of its holder queued. -/
theorem exists_connect {t : ApnType} {l : List MachineEvent}
    (h : l.findSome? MachineEvent.requestId = some t.id) :
    ∃ params : DataConnectionParams, .connect params ∈ l ∧ params.apnHolder = t := by
  obtain ⟨e, he, hid⟩ := List.exists_of_findSome?_eq_some h
  cases e with
  | connect params => exact ⟨params, he, ApnType.id_injective (Option.some.inj hid)⟩
  | _ => cases hid

theorem exists_disconnect {x : CellularDataStateMachine} (hsent : ∀ e ∈ x.control.events,
    e.isSent = true) {e : MachineEvent} (he : e ∈ x.control.upcoming)
    (hd : e.isDisconnect = true) :
    ∃ params, .disconnect params ∈ x.queue.pending ∨ .disconnect params ∈ x.deferEvents := by
  have hmem : e ∈ x.control.events := by
    rw [Control.mem_events]
    cases hb : x.control.isBusy with
    | true =>
      rw [Control.upcoming_busy hb] at he
      simp only [List.mem_append] at he
      rcases he with (he | he) | he
      · exact .inl he
      · exact .inr (.inr (.inr he))
      · exact .inr (.inl he)
    | false =>
      rw [Control.upcoming_idle hb] at he
      exact .inr (.inl (Control.afterRequest_subset _ he))
  cases e with
  | disconnect params => exact ⟨params, List.mem_append.mp hmem⟩
  | disconnectAll params => cases hsent _ hmem
  | _ => cases hd

theorem reachable_noHolderHangs (h : system.Reachable s) : s.NoHolderHangs := by
  obtain ⟨hr, -⟩ := reachable_regular h
  have hsent := reachable_sent h
  have ho := reachable_owned h
  constructor
  · intro t ht
    have hst : s.core.state t = .connecting := ht
    cases ho.linked t with
    | free _ _ hno => simp [hst, ApnProfileState.isEngaged] at hno
    | ended howner hm hends =>
      obtain ⟨x, hx, rfl⟩ := machine_of_control hm
      obtain ⟨info, hflag, hinfo⟩ := exists_end hends
      exact ⟨_, x, howner, hx, .inr (.inr (.inr ⟨info, hflag, .inr hinfo⟩))⟩
    | held howner hm hends _ ha hc =>
      obtain ⟨x, hx, rfl⟩ := machine_of_control hm
      have hsettled := hr.settled x (List.mem_of_getElem? hx)
      refine ⟨_, x, howner, hx, ?_⟩
      rcases (hc hst).2 with hwaits | hcompletes
      · rcases hwaits with hb | hact | ⟨hact, e, he, hreplay⟩
        · rw [Control.attempt_idle hb] at ha
          exact .inl (exists_connect ha)
        · exact .inr (.inl (decide_eq_true ((hsettled.isState_iff _).mpr hact)))
        · obtain ⟨info, rfl, hreplay⟩ := hreplay
          exact .inr (.inr (.inl ⟨decide_eq_true ((hsettled.isState_iff _).mpr hact), info, he,
            hreplay.flag⟩))
      · obtain ⟨info, hflag, hinfo⟩ := exists_completion hcompletes
        exact .inr (.inr (.inr ⟨info, hflag, .inl hinfo⟩))
  · intro t ht
    have hst : s.core.state t = .disconnecting := ht
    cases ho.linked t with
    | free _ _ hno => simp [hst, ApnProfileState.isEngaged] at hno
    | ended howner hm hends =>
      obtain ⟨x, hx, rfl⟩ := machine_of_control hm
      exact ⟨_, x, howner, hx, .inr (.inr (exists_end hends))⟩
    | held howner hm hends _ ha _ hd =>
      obtain ⟨x, hx, rfl⟩ := machine_of_control hm
      have hsettled := hr.settled x (List.mem_of_getElem? hx)
      refine ⟨_, x, howner, hx, ?_⟩
      rcases hd hst with hdis | ⟨e, he, hed⟩
      · exact .inr (.inl (decide_eq_true ((hsettled.isState_iff _).mpr hdis)))
      · exact .inl (exists_disconnect (hsent _ (List.mem_of_getElem? hm)) he hed)

/-- The clear reaches the machine while it is still in `Activating`. -/
theorem noHolderHangs_disconnecting : ∃ s,
    system.run (loadLabels ++ requestLabels .internet 0 ++ [.dispatchMachine serviceEnv 0,
      .call serviceEnv (.clearAllConnections .clearConnection), .dispatchMachine serviceEnv 0])
        start = some s ∧
      (s.holder .default_).apnState = .disconnecting ∧
      (s.machine? 0).any (·.isActivatingState) = true ∧ s.NoHolderHangs := by
  obtain ⟨s, hrun, hs, hp⟩ := exists_run (loadLabels ++ requestLabels .internet 0 ++
      [.dispatchMachine serviceEnv 0, .call serviceEnv (.clearAllConnections .clearConnection),
        .dispatchMachine serviceEnv 0])
    (p := fun s => (s.holder .default_).apnState = .disconnecting ∧
      (s.machine? 0).any (·.isActivatingState) = true) (by decide +kernel)
  obtain ⟨hstate, hmachine⟩ := of_decide_eq_true hp
  exact ⟨s, hrun, hstate, hmachine, reachable_noHolderHangs hs⟩

end Slot
end CellularData
