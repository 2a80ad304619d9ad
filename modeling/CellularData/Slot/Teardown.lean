import CellularData.Slot.Holding

/-! Completion against teardown: a holder that is disconnecting, and a completion that comes late. -/
namespace CellularData
open Lib StateMachine Relation

namespace Core

variable {k k' : Core} {cue : Cue} {t : ApnType}

theorem Act.disconnecting (ha : Act k k') (h : k.state t = .disconnecting) :
    k'.state t = .disconnecting := by
  have hother : ∀ {u st}, k.state u ≠ .disconnecting → (k.setState u st).state t = .disconnecting := by
    intro u st hu
    have hne : t ≠ u := by
      rintro rfl
      exact hu h
    exact (setState_of_ne hne).trans h
  cases ha with
  | @disconnect u m params howner =>
    by_cases hu : t = u
    · subst hu
      exact setState_self
    · exact (setState_of_ne hu).trans h
  | reset hst => exact hother (by rcases hst with hst | hst <;> simp [hst])
  | retry hst => exact hother (by simp [hst])
  | connect hidle hm hinactive hfree hparams hrecord => exact hother (by simp [hidle])
  | create hidle hbusy hparams hrecord => exact hother (by simp [hidle])
  | tell he => exact h

theorem state_relayDataCall (k : Core) (info : SetupDataCallResultInfo) :
    (k.relayDataCall info).state = k.state :=
  relayDataCall_invariant (P := fun k' => k'.state = k.state) rfl fun _ => rfl

theorem state_loseConnection (k : Core) (dcList : List SetupDataCallResultInfo) (m : MachineRef) :
    (k.loseConnection dcList m).state = k.state :=
  loseConnection_invariant (P := fun k' => k'.state = k.state) rfl (fun _ => rfl) dcList

theorem state_complete {info : SetupDataCallResultInfo} {u : ApnType}
    (hname : apnHolderByName info.flag = some u) (t : ApnType) :
    (k.complete info).state t =
      if t = u then (if k.owner u = none then .idle else .connected) else k.state t := by
  unfold Core.complete
  rw [hname]
  dsimp only
  split
  · rename_i howner
    rw [if_neg (c := k.owner u = none) (by simp [howner])]
    rfl
  · rename_i howner
    rw [if_pos (c := k.owner u = none) howner]
    rfl

theorem state_finish {info : SetupDataCallResultInfo} {u : ApnType}
    (hid : ApnType.ofId info.flag = some u) (t : ApnType) :
    (k.finish info).state t = if t = u then .idle else k.state t := by
  unfold Core.finish
  rw [hid]
  dsimp only
  split
  · rfl
  · exact if_congr Iff.rfl rfl (congrFun (unregister_frame _ _).1 t)

/-- Only a completion and the end of the connection change the state of a holder. -/
theorem Trigger.state (ht : Trigger cue k k') (t : ApnType) : k'.state t = k.state t ∨
    (∃ info, cue = .handler (.establishDataConnectionComplete info) ∧
      apnHolderByName info.flag = some t ∧
      k'.state t = if k.owner t = none then .idle else .connected) ∨
    ∃ info, cue = .handler (.disconnectDataComplete info) ∧ info.flag = t.id ∧
      k'.state t = .idle := by
  cases ht with
  | skip hcue => exact .inl rfl
  | @complete _ info rest hnotices =>
    cases hname : apnHolderByName info.flag with
    | none =>
      left
      simp only [Core.complete, hname]
    | some u =>
      rw [state_complete hname]
      by_cases hu : t = u
      · subst hu
        exact .inr (.inl ⟨info, rfl, hname, if_pos rfl⟩)
      · exact .inl (if_neg hu)
  | @finish _ info rest hnotices =>
    cases hid : ApnType.ofId info.flag with
    | none =>
      left
      simp only [Core.finish, hid]
    | some u =>
      rw [state_finish hid]
      by_cases hu : t = u
      · subst hu
        exact .inr (.inr ⟨info, rfl, (ApnType.id_of_ofId hid).symm, if_pos rfl⟩)
      · exact .inl (if_neg hu)
  | update hnotices => exact .inl rfl
  | answer he => exact .inl rfl
  | @dispatch _ _ m c c' e q os hm hnext ht =>
    obtain ⟨k', heq, hstate, -⟩ := dispatch_frame k m c c' e os
    rw [← heq]
    exact .inl (congrFun hstate t)
  | fire hm hq => exact .inl rfl
  | rearm => exact .inl rfl
  | report =>
    left
    refine report_invariant (P := fun k' => k'.state t = k.state t) (fun k info _ hk => ?_)
      (fun k m _ hk => ?_) (fun _ _ hk => hk) rfl
    · exact (congrFun (state_relayDataCall k info) t).trans hk
    · exact (congrFun (state_loseConnection k _ m) t).trans hk
  | @capability _ up down =>
    left
    have hpost : ∀ (k' : Core) (m : MachineRef), k'.state t = k.state t →
        (k'.post m (.linkCapabilityChanged up down)).state t = k.state t := fun _ _ hk => hk
    exact foldl_invariant (P := fun k' => k'.state t = k.state t) hpost _ rfl

end Core

namespace Slot

variable {s s' : Slot} {t : ApnType} {l : Label}

/-- No holder is ever put into the state of a failure. -/
theorem reachable_not_failed (h : system.Reachable s) (t : ApnType) :
    (s.holder t).apnState ≠ .failed := by
  refine core_invariant (P := fun k => ∀ t, k.state t ≠ .failed) h
    (fun _ => ApnProfileState.noConfusion)
    (fun k k' _ hk ha => ?_) (fun l s k _ _ hk _ ht => ?_) t
  · have hset : ∀ {u st}, st ≠ .failed → ∀ t, (k.setState u st).state t ≠ .failed := by
      intro u st hst t
      unfold Core.setState
      dsimp only
      split_ifs
      · exact hst
      · exact hk t
    cases ha with
    | disconnect howner => exact hset ApnProfileState.noConfusion
    | reset _ => exact hset ApnProfileState.noConfusion
    | retry _ => exact hset ApnProfileState.noConfusion
    | connect _ _ _ _ _ _ => exact hset ApnProfileState.noConfusion
    | create _ _ _ _ => exact hset ApnProfileState.noConfusion
    | tell _ => exact hk
  · intro t
    rcases ht.state t with hsame | ⟨info, -, -, hst⟩ | ⟨info, -, -, hst⟩
    · rw [hsame]
      exact hk t
    · rw [hst]
      split_ifs <;> exact ApnProfileState.noConfusion
    · rw [hst]
      exact ApnProfileState.noConfusion

/-- The handler takes the report of the end of the holder's connection. -/
def TakesEnd (t : ApnType) (l : Label) (s : Slot) : Prop :=
  ∃ info, s.taken l = some (.disconnectDataComplete info) ∧ info.flag = t.id

/-- The handler takes a completion for the holder while the holder is disconnecting. -/
def TakesLateCompletion (t : ApnType) (l : Label) (s : Slot) : Prop :=
  (s.holder t).apnState = .disconnecting ∧
    ∃ info, s.taken l = some (.establishDataConnectionComplete info) ∧
      apnHolderByName info.flag = some t

theorem disconnecting_step (hs : system.Reachable s) (hstep : system.step l s = some s')
    (hend : ¬ TakesEnd t l s) (hlate : ¬ TakesLateCompletion t l s)
    (h : (s.holder t).apnState = .disconnecting) : (s'.holder t).apnState = .disconnecting := by
  obtain ⟨hr, hw⟩ := reachable_regular hs
  obtain ⟨-, k, ht, hacts⟩ := step_refines hr hw hstep
  have hk : k.state t = .disconnecting := by
    rcases ht.state t with hsame | ⟨info, hcue, hname, -⟩ | ⟨info, hcue, hflag, -⟩
    · exact hsame.trans h
    · exact absurd ⟨h, info, taken_of_cue hcue, hname⟩ hlate
    · exact absurd ⟨info, taken_of_cue hcue, hflag⟩ hend
  exact reflTransGen_invariant (P := fun k => k.state t = .disconnecting)
    (fun _ _ hk ha => ha.disconnecting hk) hacts hk

/-- Without a late completion a holder stays in `DISCONNECTING` until its connection has ended. -/
theorem disconnecting_kept (hs : system.Reachable s)
    (hpath : ReflTransGen (system.StepWhen fun l s =>
      ¬ TakesEnd t l s ∧ ¬ TakesLateCompletion t l s) s s')
    (h : (s.holder t).apnState = .disconnecting) : (s'.holder t).apnState = .disconnecting := by
  induction hpath with
  | refl => exact h
  | tail hpath hstep ih =>
    obtain ⟨l, ⟨hend, hlate⟩, hl⟩ := hstep
    exact disconnecting_step (hs.path hpath) hl hend hlate ih

/-! A clear before and a clear after the answer of the modem -/

/-- No report reaches the handler in the step. -/
def isUnreported (l : Label) (s : Slot) : Bool := (s.taken l).all fun e => !e.isNotice

theorem not_takes_of_isUnreported (l : Label) (s : Slot) (h : isUnreported l s = true) :
    ¬ TakesEnd t l s ∧ ¬ TakesLateCompletion t l s := by
  constructor
  · rintro ⟨info, htaken, -⟩
    rw [isUnreported, htaken] at h
    cases h
  · rintro ⟨-, info, htaken, -⟩
    rw [isUnreported, htaken] at h
    cases h

theorem disconnecting_kept_answered : ∃ s s',
    system.run (askedLabels ++ [clearLabel, .dispatchMachine serviceEnv 0]) start = some s ∧
      system.runIf isUnreported answeredLabels s = some s' ∧
      (s.holder .default_).apnState = .disconnecting ∧
      (s'.machine? 0).any (·.isActiveState) = true ∧
      (s'.holder .default_).apnState = .disconnecting := by
  obtain ⟨s, hrun, hs, hp⟩ := exists_run
    (askedLabels ++ [clearLabel, .dispatchMachine serviceEnv 0])
    (p := fun s => (s.holder .default_).apnState = .disconnecting ∧
      (system.runIf isUnreported answeredLabels s).any fun s' =>
        (s'.machine? 0).any (·.isActiveState)) (by decide +kernel)
  obtain ⟨hdis, hafter⟩ := of_decide_eq_true hp
  obtain ⟨s', hrun', hactive⟩ := (Option.any_eq_true _ _).mp hafter
  exact ⟨s, s', hrun, hrun', hdis, hactive, disconnecting_kept hs
    (TransitionSystem.path_of_runIf not_takes_of_isUnreported hrun') hdis⟩

/-- The completion was posted before the clear, and the holder is connected again. -/
theorem late_completion_reconnects : ∃ s s' info,
    system.run (askedLabels ++ answeredLabels ++ [.dispatchMachine serviceEnv 0, clearLabel])
        start = some s ∧
      (s.holder .default_).apnState = .disconnecting ∧
      s.taken (.dispatchHandler serviceEnv) = some (.establishDataConnectionComplete info) ∧
      system.step (.dispatchHandler serviceEnv) s = some s' ∧
      (s'.holder .default_).apnState = .connected ∧ s'.crash = none := by
  obtain ⟨s, hrun, -, hp⟩ := exists_run
    (askedLabels ++ answeredLabels ++ [.dispatchMachine serviceEnv 0, clearLabel])
    (p := fun s => (s.holder .default_).apnState = .disconnecting ∧
      s.taken (.dispatchHandler serviceEnv) = some (.establishDataConnectionComplete
        { cid := 5, flag := ApnType.default_.id, active := 1 }) ∧
      (system.step (.dispatchHandler serviceEnv) s).any fun s' =>
        (s'.holder .default_).apnState = .connected ∧ s'.crash = none) (by decide +kernel)
  obtain ⟨hdis, htaken, hafter⟩ := of_decide_eq_true hp
  obtain ⟨s', hstep, hstate⟩ := (Option.any_eq_true _ _).mp hafter
  obtain ⟨hconnected, hcrash⟩ := of_decide_eq_true hstate
  exact ⟨s, s', _, hrun, hdis, htaken, hstep, hconnected, hcrash⟩

end Slot
end CellularData
