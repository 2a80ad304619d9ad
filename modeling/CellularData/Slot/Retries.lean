import CellularData.Slot.Steps
import CellularData.Slot.Invariant

/-! Every holder that waits for a retry has its wake-up pending. -/
namespace CellularData
open Lib StateMachine Relation

namespace Slot

variable {env : Env} {s s' : Slot} {t : ApnType} {e : HandlerEvent}

/-- Only the events that reload something are taken out of the queue. -/
theorem Write.pending (h : Write env s s') (he : e.isReload = false) (hx : e ∈ s.queue.pending) :
    e ∈ s'.queue.pending := by
  cases h with
  | other h =>
    have hqueue : s'.queue = s.queue := congrArg (·.2.1) h
    rwa [hqueue]
  | effect _ => exact hx
  | single _ => exact hx
  | configure => exact hx
  | holder _ _ _ _ _ => exact hx
  | fault _ => exact hx
  | push => rwa [queue_of_setting (setting_updateCellularDataConnectState _)]
  | machine _ => rwa [queue_of_setting (setting_callMachine _ _)]
  | reuse _ => rwa [queue_of_setting (setting_callMachine _ _)]
  | reload =>
    unfold applyApnReload
    split <;> exact hx
  | clearBad => exact hx
  | setBad =>
    unfold setApnBadState
    split <;> exact hx
  | send _ => exact EventQueue.mem_pending_sendEvent.mpr (.inl hx)
  | sendAfter _ => exact EventQueue.mem_pending_sendEventAfter.mpr (.inl hx)
  | @remove p hp =>
    refine EventQueue.mem_pending_removeEvent.mpr ⟨hx, ?_⟩
    by_contra hne
    rw [hp e (by simpa using hne)] at he
    cases he
  | lend =>
    unfold lendDataPermitted
    rw [queue_of_setting (setting_setDataPermittedForMms true)]
    split_ifs
    · exact hx
    · exact EventQueue.mem_pending_sendEventAfter.mpr (.inl hx)
  | giveBack => rwa [queue_of_setting (setting_setDataPermittedForMms false)]
  | incall => exact hx

/-! Holders' states -/

theorem apnState_releaseMachine (u t : ApnType) (m : MachineRef) (info : SetupDataCallResultInfo) :
    ((s.releaseMachine env t m info).holder u).apnState =
      if u = t then .idle else (s.holder u).apnState := by
  have hcore := (releaseMachine_spec env s t m info).2
  have hunregister : (s.core.unregister m).state = s.core.state := by
    unfold Core.unregister
    split <;> rfl
  have hstate := congrFun (congrArg Core.state hcore) u
  simp only [Core.setState, Core.setOwner, hunregister] at hstate
  exact hstate

theorem not_retrying_renewHolders (s : Slot) (t : ApnType) :
    (s.renewHolders.holder t).apnState ≠ .retrying := by
  have hfold : ∀ (l : List ApnType) (s : Slot),
      (t ∈ l ∨ (s.holder t).apnState ≠ .retrying) →
        ((l.foldl renewHolder s).holder t).apnState ≠ .retrying := by
    intro l
    induction l with
    | nil => exact fun s h => h.resolve_left List.not_mem_nil
    | cons u l ih =>
      intro s h
      refine ih _ ?_
      by_cases hu : t = u
      · right
        rw [apnState_renewHolder, hu]
        split_ifs with hretrying
        · exact ApnProfileState.noConfusion
        · simpa using hretrying
      · rcases h with h | h
        · exact .inl ((List.mem_cons.mp h).resolve_left hu)
        · right
          rw [apnState_renewHolder, if_neg fun heq => hu heq.1]
          exact h
  exact hfold _ _ (.inl t.mem_all)

/-! Retries -/

/-- Every holder that retries has its wake-up in the queue. -/
def Waits (s : Slot) : Prop :=
  ∀ t, (s.holder t).apnState = .retrying → .retryToSetupDatacall t.id ∈ s.queue.pending

theorem Waits.of_frame (h : s.Waits)
    (hstate : ∀ t, (s'.holder t).apnState = .retrying → (s.holder t).apnState = .retrying)
    (hpending : ∀ t : ApnType, .retryToSetupDatacall t.id ∈ s.queue.pending →
      .retryToSetupDatacall t.id ∈ s'.queue.pending) : s'.Waits :=
  fun t ht => hpending t (h t (hstate t ht))

theorem Waits.setApnState (h : s.Waits) (t : ApnType) {st : ApnProfileState}
    (hst : st ≠ .retrying) : (s.setApnState t st).Waits := by
  refine h.of_frame (fun u hu => ?_) fun _ hx => hx
  rw [apnState_setApnState] at hu
  split_ifs at hu
  · exact absurd hu hst
  · exact hu

theorem Waits.write (h : s.Waits) (hw : Write env s s') : s'.Waits :=
  h.of_frame (fun t ht => (hw.hidden.apnState t).symm.trans ht) fun _ hx => hw.pending rfl hx

theorem Waits.writes (h : s.Waits) (hw : Writes env s s') : s'.Waits :=
  hw.invariant (fun _ _ h hw => h.write hw) h

theorem Waits.op (h : s.Waits) (hop : Op env (Connects env) s s') : s'.Waits := by
  cases hop with
  | write hw => exact h.write hw
  | disconnect howner => exact h.setApnState _ ApnProfileState.noConfusion
  | reset _ => exact h.setApnState _ ApnProfileState.noConfusion
  | @retry t id delay hidle hid henabled =>
    intro u hu
    refine EventQueue.mem_pending_sendEventAfter.mpr ?_
    by_cases heq : u = t
    · right
      rw [heq, ApnType.id_of_ofId hid]
    · left
      refine h u ?_
      have hstate := apnState_setApnState (s := s) t u .retrying
      rw [if_neg heq] at hstate
      exact hstate.symm.trans hu
  | renew => exact fun t ht => absurd ht (not_retrying_renewHolders s t)
  | tell he => exact h
  | search =>
    obtain ⟨d, c, heq⟩ := checkForCompatibleDataConnection_eq env s _
    rw [heq]
    exact h
  | connect hc =>
    obtain ⟨t, hidle, -, -⟩ := hc
    refine h.of_frame (fun u hu => ?_) fun u hx => ?_
    · rw [apnState_startConnection, holder_findOrCreateCellularDataConnect] at hu
      split_ifs at hu
      exact hu
    · rwa [queue_of_setting (setting_startConnection _ _ _ _),
        queue_of_setting setting_findOrCreateCellularDataConnect]

theorem Waits.does (h : s.Waits) (hd : Does env (Establishes env) s s') : s'.Waits :=
  hd.connects.invariant (fun _ _ h hop => h.op hop) h

theorem Waits.dropResume (h : s.Waits) : (s.removeEvent isResumeDataPermittedTimeout).Waits :=
  h.of_frame (fun _ ht => ht) fun _ hx => EventQueue.mem_pending_removeEvent.mpr ⟨hx, rfl⟩

theorem Waits.handleDisconnectDataCompleteForMmsType (h : s.Waits) (t : ApnType) :
    (s.handleDisconnectDataCompleteForMmsType env t).Waits := by
  unfold Slot.handleDisconnectDataCompleteForMmsType
  split_ifs
  · exact (h.write .giveBack).dropResume
  · exact h

/-- The wake-up that is taken lets its holder try again. -/
theorem Waits.retryToSetupDatacall {q : EventQueue HandlerEvent} {id : Int} (h : s.Waits)
    (hnext : s.queue.next = some (.retryToSetupDatacall id, q)) :
    (Slot.retryToSetupDatacall { s with queue := q } id).Waits := by
  have hrest : ∀ t : ApnType, t.id ≠ id → (s.holder t).apnState = .retrying →
      .retryToSetupDatacall t.id ∈ q.pending := by
    intro t ht hretrying
    refine ((EventQueue.mem_pending_next hnext).mp (h t hretrying)).resolve_left fun heq => ?_
    exact ht (HandlerEvent.retryToSetupDatacall.inj heq)
  unfold Slot.retryToSetupDatacall
  cases hid : ApnType.ofId id with
  | none =>
    refine fun t ht => hrest t (fun heq => ?_) ht
    rw [← heq, ApnType.ofId_id] at hid
    cases hid
  | some t =>
    have hne : ∀ u : ApnType, u ≠ t → u.id ≠ id := by
      intro u hu heq
      exact hu (ApnType.id_injective (heq.trans (ApnType.id_of_ofId hid).symm))
    dsimp only
    split_ifs with hretrying
    · refine fun u hu => hrest u (hne u fun heq => ?_) hu
      exact hretrying (heq ▸ hu)
    · intro u hu
      refine EventQueue.mem_pending_sendEvent.mpr (.inl ?_)
      have hstate := apnState_setApnState (s := { s with queue := q }) t u .idle
      by_cases heq : u = t
      · rw [if_pos heq] at hstate
        cases hstate.symm.trans hu
      · rw [if_neg heq] at hstate
        exact hrest u (hne u heq) (hstate.symm.trans hu)

theorem Waits.takes (h : s.Waits) (ht : Takes env s e s') : s'.Waits := by
  cases ht with
  | event he hd => exact h.does hd
  | @request request u _ hu hw =>
    have hasked : (s.modifyHolder u fun h => h.requestCellularData request.capability).Waits := by
      refine h.of_frame (fun t ht => ?_) fun _ hx => hx
      exact ((hidden_requestCellularData u request.capability).apnState t).symm.trans ht
    exact hasked.writes hw
  | noCompletion _ => exact h
  | @complete info t s₁ s₂ s₃ ht h₁ h₂ h₃ =>
    replace h₂ := h₂.trans (Write.push.writes.trans h₃)
    have hcompleted : (s.completed env t info).Waits :=
      Waits.setApnState (s := s.setApnActivateEnd env info) h t ApnProfileState.noConfusion
    have hs₁ : s₁.Waits := hcompleted.writes h₁
    have hs₃ : s₃.Waits := by
      refine Waits.writes ?_ h₂
      split
      · exact hs₁
      · exact hs₁.setApnState t ApnProfileState.noConfusion
    split_ifs
    · exact hs₃.dropResume
    · exact hs₃
  | noEnd _ => exact h
  | endWithoutMachine _ _ => exact h.setApnState _ ApnProfileState.noConfusion
  | @finish info t m s₁ ht hm hd =>
    replace hd := (Op.write Write.push).does.trans hd
    have hrelease : (s.releaseMachine env t m info).Waits := by
      refine h.of_frame (fun u hu => ?_) fun u hx => ?_
      · rw [apnState_releaseMachine] at hu
        split_ifs at hu
        exact hu
      · rwa [queue_of_setting (setting_releaseMachine t m info)]
    exact (hrelease.does hd).handleDisconnectDataCompleteForMmsType t
  | update hw => exact h.writes hw

theorem Waits.step {l : Label} (h : s.Waits) (hs : Steps s l s') : s'.Waits := by
  cases hs with
  | aside ha => exact h.of_frame (fun t ht => ha.holder t ▸ ht) fun t hx => ha.pending _ hx
  | call hd => exact h.does hd
  | @take env e q hnext =>
    by_cases he : ∃ id, e = .retryToSetupDatacall id
    · obtain ⟨id, rfl⟩ := he
      exact h.retryToSetupDatacall hnext
    · refine Waits.takes (s := { s with queue := q }) (fun t ht => ?_)
        (processEvent_takes env { s with queue := q } e)
      exact ((EventQueue.mem_pending_next hnext).mp (h t ht)).resolve_left fun heq => he ⟨t.id, heq.symm⟩

/-- A retrying holder is woken up: its retry is pending in every reachable state. -/
theorem retrying_wakeUp (h : system.Reachable s) (ht : (s.holder t).apnState = .retrying) :
    .retryToSetupDatacall t.id ∈ s.queue.pending := by
  refine TransitionSystem.Reachable.invariant (P := Waits) (fun s hs => ?_) ?_ h t ht
  · obtain ⟨env, slotId, l, hinit⟩ := Initial.does hs
    refine Waits.does (fun t ht => ?_) hinit.establishes
    cases ht
  · exact fun l s s' _ h hstep => h.step (step_steps hstep)

theorem retrying_wakeUp_refused : ∃ s, system.run refusedLabels start = some s ∧
    (s.holder .default_).apnState = .retrying ∧
      .retryToSetupDatacall ApnType.default_.id ∈ s.queue.pending := by
  obtain ⟨s, hrun, hs, hp⟩ := exists_run refusedLabels
    (p := fun s => (s.holder .default_).apnState = .retrying) (by decide +kernel)
  have hretrying : (s.holder .default_).apnState = .retrying := of_decide_eq_true hp
  exact ⟨s, hrun, hretrying, retrying_wakeUp hs hretrying⟩

end Slot
end CellularData
