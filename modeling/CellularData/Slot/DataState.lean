import CellularData.Slot.Teardown

/-! The state of the data connection that a slot reports, and the holders it stands for. -/
namespace CellularData
open Lib StateMachine Relation

inductive DataConnectionStatus
  | disconnected | connecting | connected | suspended
deriving DecidableEq, Repr

/-- A connection counts until its teardown has ended. -/
def cellularDataStateAdapter : ApnProfileState → DataConnectionStatus
  | .connecting => .connecting
  | .connected | .disconnecting => .connected
  | .failed | .retrying | .idle => .disconnected

/-- `GetCellularDataState` of the service, for the controller of this slot. -/
def Slot.getCellularDataState (env : Env) (s : Slot) : DataConnectionStatus :=
  let dataState := cellularDataStateAdapter s.apnManager.getOverallApnState
  if s.disconnectionReason = .gsmAndCallingOnly ∧ s.isRestrictedMode env then .suspended
  else dataState

namespace Core

variable {k k' : Core} {t : ApnType}

/-- No act of the handler connects a holder. -/
theorem Act.connected (ha : Act k k') (h : k'.state t = .connected) : k.state t = .connected := by
  have hother : ∀ {u st}, st ≠ .connected → (k.setState u st).state t = .connected →
      k.state t = .connected := by
    intro u st hst h
    simp only [Core.setState] at h
    split_ifs at h
    · exact absurd h hst
    · exact h
  cases ha with
  | disconnect howner => exact hother (by simp) h
  | reset hst => exact hother (by simp) h
  | retry hidle => exact hother (by simp) h
  | connect hidle hm hinactive hfree hparams hrecord => exact hother (by simp) h
  | create hidle hbusy hparams hrecord => exact hother (by simp) h
  | tell he => exact h

theorem connected_of_acts (ha : ReflTransGen Act k k') (h : k'.state t = .connected) :
    k.state t = .connected := by
  induction ha with
  | refl => exact h
  | tail _ ha ih => exact ih (ha.connected h)

end Core

namespace Slot

variable {env : Env} {s s' : Slot} {t : ApnType} {l : Label} {h : List (Label × Slot)}

/-- The handler takes a completion for the holder, which has a machine. -/
def CompletesSetup (t : ApnType) (l : Label) (s : Slot) : Prop :=
  ∃ info, s.taken l = some (.establishDataConnectionComplete info) ∧
    apnHolderByName info.flag = some t ∧ (s.holder t).cellularDataStateMachine ≠ none

theorem connected_step (hs : system.Reachable s) (hstep : system.step l s = some s')
    (hconnected : (s'.holder t).apnState = .connected) :
    CompletesSetup t l s ∨ (s.holder t).apnState = .connected := by
  obtain ⟨hr, hw⟩ := reachable_regular hs
  obtain ⟨-, k, ht, hacts⟩ := step_refines hr hw hstep
  have hk : k.state t = .connected := Core.connected_of_acts hacts hconnected
  rcases ht.state t with hsame | ⟨info, hcue, hname, hstate⟩ | ⟨info, hcue, hflag, hidle⟩
  · exact .inr (hsame.symm.trans hk)
  · left
    refine ⟨info, taken_of_cue hcue, hname, fun hnone => ?_⟩
    rw [hk] at hstate
    rw [if_pos (show s.core.owner t = none from hnone)] at hstate
    cases hstate
  · cases hidle.symm.trans hk

/-- A connected holder has completed a set-up and has been connected ever since. -/
theorem connected_since (hh : system.History h s) (hconnected : (s.holder t).apnState = .connected) :
    Since (CompletesSetup t) (fun s => (s.holder t).apnState = .connected) h := by
  induction hh with
  | init hs =>
    have hblank : Core.blank.state t = .connected :=
      Core.connected_of_acts (initial_refines hs).2 hconnected
    cases hblank
  | step hh hstep ih =>
    rcases connected_step hh.reachable hstep hconnected with hcompletes | hbefore
    · exact .inl hcompletes
    · exact .inr ⟨hbefore, ih hbefore⟩

/-- A connection is reported only for a holder that is connected or disconnecting. -/
theorem getCellularDataState_connected (h : s.getCellularDataState env = .connected) :
    ∃ t, (s.holder t).apnState = .connected ∨ (s.holder t).apnState = .disconnecting := by
  have hany : s.apnManager.hasAnyConnectedState = true := by
    by_contra hnone
    simp only [getCellularDataState, ApnManager.getOverallApnState] at h
    rw [if_neg hnone] at h
    split_ifs at h <;> cases h
  obtain ⟨t, -, ht⟩ := List.any_eq_true.mp hany
  refine ⟨t, ?_⟩
  rw [Bool.or_eq_true, decide_eq_true_eq, decide_eq_true_eq] at ht
  exact ht

/-- The connection reported is one that a holder has completed, or a teardown under way. -/
theorem reported_connection (hh : system.History h s)
    (hreported : s.getCellularDataState env = .connected) : ∃ t,
      ((s.holder t).apnState = .connected ∧
        Since (CompletesSetup t) (fun s => (s.holder t).apnState = .connected) h) ∨
      ((s.holder t).apnState = .disconnecting ∧
        (s.holder t).cellularDataStateMachine ≠ none) := by
  obtain ⟨t, hconnected | hdisconnecting⟩ := getCellularDataState_connected hreported
  · exact ⟨t, .inl ⟨hconnected, connected_since hh hconnected⟩⟩
  · refine ⟨t, .inr ⟨hdisconnecting, fun hnone => ?_⟩⟩
    obtain ⟨-, hfree⟩ := ((reachable_owned hh.reachable).linked t).of_owner_none hnone
    have hstate : s.core.state t = .disconnecting := hdisconnecting
    rw [hstate] at hfree
    cases hfree

theorem exists_history (labels : List Label) {p : List (Label × Slot) → Slot → Bool}
    (hp : (system.trace labels [] start).any (fun r => p r.1 r.2) = true) :
    ∃ h s, system.History h s ∧ p h s = true :=
  TransitionSystem.exists_history start_initial labels hp

theorem reported_connection_up : ∃ h s, system.History h s ∧
    s.getCellularDataState serviceEnv = .connected ∧ ∃ t,
      ((s.holder t).apnState = .connected ∧
        Since (CompletesSetup t) (fun s => (s.holder t).apnState = .connected) h) ∨
      ((s.holder t).apnState = .disconnecting ∧
        (s.holder t).cellularDataStateMachine ≠ none) := by
  obtain ⟨h, s, hh, hp⟩ := exists_history connectedLabels
    (p := fun _ s => s.getCellularDataState serviceEnv = .connected) (by decide +kernel)
  have hreported := of_decide_eq_true hp
  exact ⟨h, s, hh, hreported, reported_connection hh hreported⟩

/-- No completion is taken in the step. -/
def takesNoCompletion (l : Label) (s : Slot) : Bool :=
  match s.taken l with
  | some (.establishDataConnectionComplete _) => false
  | _ => true

/-- An attempt that is torn down before the modem has answered is reported as a connection. -/
theorem unanswered_reported : ∃ h s, system.History h s ∧
    s.getCellularDataState serviceEnv = .connected ∧ s.crash = none ∧
    ∀ t, ¬ Since (CompletesSetup t) (fun s => (s.holder t).apnState ≠ .idle) h := by
  obtain ⟨h, s, hh, hp⟩ := exists_history (askedLabels ++ [clearLabel])
    (p := fun h s => s.getCellularDataState serviceEnv = .connected ∧ s.crash = none ∧
      h.all fun p => takesNoCompletion p.1 p.2) (by decide +kernel)
  obtain ⟨hreported, hcrash, hall⟩ := of_decide_eq_true hp
  refine ⟨h, s, hh, hreported, hcrash, fun t hsince => ?_⟩
  obtain ⟨p, hp, info, htaken, -⟩ := hsince.exists_mem
  have hno := List.all_eq_true.mp hall p hp
  rw [takesNoCompletion, htaken] at hno
  cases hno

end Slot
end CellularData
