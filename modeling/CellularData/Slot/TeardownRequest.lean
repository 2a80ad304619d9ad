import CellularData.Slot.DataState

/-! A holder that is wanted again while its connection is torn down: the attempt that
`CheckApnState` puts off. -/
namespace CellularData
open Lib

namespace Slot

variable {env : Env} {s : Slot} {t : ApnType}

/-- An attempt for the holder waits in the queue. -/
def AttemptPending (s : Slot) (t : ApnType) : Prop :=
  ∃ bearType, .establishDataConnection t.id bearType ∈ s.queue.pending

/-- An attempt for some holder waits in the queue. -/
def SomeAttemptPending (s : Slot) : Prop := ∃ e ∈ s.queue.pending, isEstablishDataConnection e = true

theorem AttemptPending.some (h : s.AttemptPending t) : s.SomeAttemptPending := by
  obtain ⟨bearType, hmem⟩ := h
  exact ⟨_, hmem, rfl⟩

/-- The attempt is put off only where no attempt of any holder is pending. -/
theorem checkApnState_disconnecting (env : Env) (h : (s.holder t).apnState = .disconnecting) :
    (s.SomeAttemptPending ∧ (s.checkApnState env t).1 = s) ∨
      ¬ s.SomeAttemptPending ∧ (s.checkApnState env t).1 =
        s.sendEventAfter (.establishDataConnection t.id none) establishDataConnectionDelay := by
  have hpending : s.queue.hasInnerEvent isEstablishDataConnection = true ↔ s.SomeAttemptPending :=
    EventQueue.hasInnerEvent_iff
  unfold checkApnState
  rw [← hpending]
  cases s.queue.hasInnerEvent isEstablishDataConnection with
  | true =>
    left
    simp [h]
  | false =>
    right
    simp [h]

/-- The request survives exactly where no attempt is pending, or one of this holder. -/
theorem attemptPending_checkApnState_iff (h : (s.holder t).apnState = .disconnecting) :
    (s.checkApnState env t).1.AttemptPending t ↔ ¬ s.SomeAttemptPending ∨ s.AttemptPending t := by
  rcases checkApnState_disconnecting env h with ⟨hsome, heq⟩ | ⟨hnone, heq⟩
  · rw [heq]
    exact ⟨.inr, fun hp => hp.resolve_left fun hnone => hnone hsome⟩
  · rw [heq]
    refine ⟨fun _ => .inl hnone, fun _ => ⟨none, ?_⟩⟩
    exact EventQueue.mem_pending_sendEventAfter.mpr (.inr rfl)

/-- The default holder is torn down. -/
def clearedLabels : List Label := connectedLabels ++ [clearLabel]

theorem attempt_put_off : ∃ s, system.run clearedLabels start = some s ∧
    (s.holder .default_).apnState = .disconnecting ∧
    ((s.checkApnState serviceEnv .default_).1.AttemptPending .default_ ↔
      ¬ s.SomeAttemptPending ∨ s.AttemptPending .default_) := by
  obtain ⟨s, hrun, -, hp⟩ := exists_run clearedLabels
    (p := fun s => (s.holder .default_).apnState = .disconnecting) (by decide +kernel)
  have hstate : (s.holder .default_).apnState = .disconnecting := of_decide_eq_true hp
  exact ⟨s, hrun, hstate, attemptPending_checkApnState_iff hstate⟩

/-- A message is to be sent while the default holder is torn down. -/
def messageLabels : List Label :=
  clearedLabels ++ [.call serviceEnv (.requestNet true [.mms] (.other 0)), .dispatchHandler serviceEnv]

/-- The attempt that waits for the message makes the handler drop the one of the default holder. -/
theorem attempt_dropped : ∃ s, system.Reachable s ∧
    (s.holder .default_).apnState = .disconnecting ∧ (s.holder .default_).dataCallEnabled = true ∧
    ¬ (s.checkApnState serviceEnv .default_).1.AttemptPending .default_ := by
  obtain ⟨s, -, hs, hp⟩ := exists_run messageLabels
    (p := fun s => (s.holder .default_).apnState = .disconnecting ∧
      (s.holder .default_).dataCallEnabled = true ∧
      ∀ e ∈ (s.checkApnState serviceEnv .default_).1.queue.pending,
        isEstablishDataConnection e = true →
          e = .establishDataConnection ApnType.mms.id (some (.other 0)))
    (by decide +kernel)
  obtain ⟨hstate, henabled, hmms⟩ := of_decide_eq_true hp
  refine ⟨s, hs, hstate, henabled, ?_⟩
  rintro ⟨bearType, hmem⟩
  have hattempt := hmms _ hmem rfl
  injection hattempt with hid
  exact absurd hid (by decide)

end Slot
end CellularData
