import Mathlib.Data.List.Basic

/-! Ledgers of keys that are set and taken back, the last entry first. -/
namespace Lib

/-- A key with whether it is set or taken back. -/
abbrev Ledger (κ : Type*) := List (κ × Bool)

namespace Ledger

variable {κ : Type*} {L : Ledger κ} {k : κ} {e : κ × Bool}

/-- The entries since a key was last taken back. -/
def sets (L : Ledger κ) : Ledger κ := L.takeWhile (·.2)

theorem sets_set : sets ((k, true) :: L) = (k, true) :: sets L := rfl

theorem sets_of_head (h : L.head?.all (!·.2) = true) : L.sets = [] := by
  cases L with
  | nil => rfl
  | cons e L =>
    obtain ⟨k, b⟩ := e
    cases b with
    | true => cases h
    | false => rfl

variable [DecidableEq κ]

/-- The last entry of the key sets it. -/
def Outstanding (L : Ledger κ) (k : κ) : Prop := L.find? (fun e => e.1 = k) = some (k, true)

instance (L : Ledger κ) (k : κ) : Decidable (L.Outstanding k) :=
  inferInstanceAs (Decidable (_ = _))

/-- Only what is outstanding is taken back. -/
def Founded : Ledger κ → Prop
  | [] => True
  | e :: L => (e.2 = false → Outstanding L e.1) ∧ Founded L

/-- What is outstanding has been set since a key was last taken back. -/
def Contained (L : Ledger κ) : Prop := ∀ k, L.Outstanding k → (k, true) ∈ L.sets

theorem outstanding_set : Outstanding ((k, true) :: L) k :=
  List.find?_cons_of_pos (decide_eq_true rfl)

theorem not_outstanding_cancel : ¬ Outstanding ((k, false) :: L) k := by
  intro h
  have hfind : ((k, false) :: L).find? (fun e => e.1 = k) = some (k, false) :=
    List.find?_cons_of_pos (decide_eq_true rfl)
  cases hfind.symm.trans h

theorem outstanding_cons_of_ne (h : e.1 ≠ k) : Outstanding (e :: L) k ↔ Outstanding L k := by
  have hfind : (e :: L).find? (fun e => e.1 = k) = L.find? (fun e => e.1 = k) := by
    apply List.find?_cons_of_neg
    simpa using h
  unfold Outstanding
  rw [hfind]

theorem outstanding_of_mem_sets (h : e ∈ L.sets) : L.Outstanding e.1 := by
  induction L with
  | nil => cases h
  | cons d L ih =>
    obtain ⟨k, b⟩ := d
    cases b with
    | false => cases h
    | true =>
      by_cases hk : k = e.1
      · rw [hk]
        exact outstanding_set
      · rw [outstanding_cons_of_ne hk]
        rcases List.mem_cons.mp h with rfl | h
        · exact absurd rfl hk
        · exact ih h

theorem contained_nil : Contained ([] : Ledger κ) := fun _ h => nomatch h

theorem Contained.set (h : L.Contained) : Contained ((k, true) :: L) := by
  intro k' hk'
  rw [sets_set, List.mem_cons]
  by_cases hk : k = k'
  · exact .inl (by rw [hk])
  · exact .inr (h k' ((outstanding_cons_of_ne hk).mp hk'))

/-- Nothing is left when all that is outstanding has the key that is taken back. -/
theorem Contained.cancel (h : L.Contained) (hsame : ∀ e ∈ L.sets, e.1 = k) :
    Contained ((k, false) :: L) := by
  intro k' hk'
  by_cases hk : k = k'
  · rw [hk] at hk'
    exact absurd hk' not_outstanding_cancel
  · exact absurd (hsame _ (h k' ((outstanding_cons_of_ne hk).mp hk'))).symm hk

theorem Contained.not_outstanding (h : L.Contained) (hsets : L.sets = []) (k : κ) :
    ¬ L.Outstanding k := by
  intro hk
  have hmem := h k hk
  rw [hsets] at hmem
  cases hmem

/-- The key that is taken back is the only one where nothing is left. -/
theorem eq_of_not_outstanding (h : ∀ k', ¬ Outstanding ((k, false) :: L) k') (he : e ∈ L.sets) :
    e.1 = k := by
  by_contra hne
  exact h e.1 ((outstanding_cons_of_ne (Ne.symm hne)).mpr (outstanding_of_mem_sets he))

end Ledger
end Lib
