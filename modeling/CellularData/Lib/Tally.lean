import Mathlib.Data.List.Pairwise
import Mathlib.Order.Lattice

/-! Counting the elements of a list in an ordered map, and the first of its entries with the highest
count. -/
namespace Lib
namespace Tally

variable {κ : Type*}

/-- The later of two entries wins only by a higher count. -/
def top (m : List (κ × ℕ)) (start : κ × ℕ) : κ × ℕ :=
  m.foldl (fun top e => if top.2 < e.2 then e else top) start

/-- It is the first entry with the highest count, unless no count exceeds the one to start from. -/
theorem top_cases (m : List (κ × ℕ)) (start : κ × ℕ) :
    (top m start = start ∧ ∀ e ∈ m, e.2 ≤ start.2) ∨
      ∃ m₁ m₂, m = m₁ ++ top m start :: m₂ ∧ start.2 < (top m start).2 ∧
        (∀ e ∈ m₁, e.2 < (top m start).2) ∧ ∀ e ∈ m₂, e.2 ≤ (top m start).2 := by
  induction m generalizing start with
  | nil => exact .inl ⟨rfl, fun e he => by cases he⟩
  | cons a m ih =>
    have hstep : top (a :: m) start = top m (if start.2 < a.2 then a else start) := rfl
    by_cases ha : start.2 < a.2
    · rw [if_pos ha] at hstep
      rw [hstep]
      right
      rcases ih a with ⟨htop, hle⟩ | ⟨m₁, m₂, hm, hlt, hbefore, hafter⟩
      · rw [htop]
        exact ⟨[], m, rfl, ha, fun e he => (by cases he), hle⟩
      · refine ⟨a :: m₁, m₂, congrArg (a :: ·) hm, Nat.lt_trans ha hlt, ?_, hafter⟩
        intro e he
        rcases List.mem_cons.mp he with rfl | he
        · exact hlt
        · exact hbefore e he
    · rw [if_neg ha] at hstep
      rw [hstep]
      rcases ih start with ⟨htop, hle⟩ | ⟨m₁, m₂, hm, hlt, hbefore, hafter⟩
      · refine .inl ⟨htop, fun e he => ?_⟩
        rcases List.mem_cons.mp he with rfl | he
        · exact Nat.le_of_not_lt ha
        · exact hle e he
      · refine .inr ⟨a :: m₁, m₂, congrArg (a :: ·) hm, hlt, ?_, hafter⟩
        intro e he
        rcases List.mem_cons.mp he with rfl | he
        · exact Nat.lt_of_le_of_lt (Nat.le_of_not_lt ha) hlt
        · exact hbefore e he

variable [LinearOrder κ]

/-- The entry of a key is counted up, or made in its place. -/
def count (x : κ) : List (κ × ℕ) → List (κ × ℕ)
  | [] => [(x, 1)]
  | (k, n) :: m =>
    if x < k then (x, 1) :: (k, n) :: m
    else if x = k then (k, n + 1) :: m
    else (k, n) :: count x m

def countOf (x : κ) : List (κ × ℕ) → ℕ
  | [] => 0
  | (k, n) :: m => if x = k then n else countOf x m

/-- The entries are the keys that occur in the list, in order, each with its count. -/
structure IsTally (m : List (κ × ℕ)) (l : List κ) : Prop where
  sorted : m.Pairwise fun a b => a.1 < b.1
  mem_iff : ∀ e, e ∈ m ↔ 0 < e.2 ∧ l.count e.1 = e.2

/-- The least of the most frequent elements. -/
def IsTopKey (l : List κ) (k : κ) : Prop :=
  k ∈ l ∧ ∀ j ∈ l, l.count j < l.count k ∨ l.count j = l.count k ∧ k ≤ j

variable {x k : κ} {m : List (κ × ℕ)} {l l' : List κ} {e start : κ × ℕ}

theorem countOf_eq_zero (h : ∀ e ∈ m, x ≠ e.1) : countOf x m = 0 := by
  induction m with
  | nil => rfl
  | cons e m ih =>
    have htail := ih fun e he => h e (List.mem_cons_of_mem _ he)
    simp only [countOf, h e List.mem_cons_self, if_false, htail]

theorem countOf_eq_zero_of_lt (h : ∀ e ∈ m, x < e.1) : countOf x m = 0 :=
  countOf_eq_zero fun e he => (h e he).ne

/-- The entry of the key counts one more and the other entries stay. -/
theorem mem_count (hm : m.Pairwise fun a b => a.1 < b.1) :
    e ∈ count x m ↔ e.1 ≠ x ∧ e ∈ m ∨ e = (x, countOf x m + 1) := by
  induction m with
  | nil => simp [count, countOf]
  | cons a m ih =>
    obtain ⟨k, n⟩ := a
    obtain ⟨hk, hm⟩ := List.pairwise_cons.mp hm
    rcases lt_trichotomy x k with hx | rfl | hx
    · have hlt : ∀ e ∈ (k, n) :: m, x < e.1 := by
        intro e he
        rcases List.mem_cons.mp he with rfl | he
        · exact hx
        · exact hx.trans (hk e he)
      have hne : ∀ e ∈ (k, n) :: m, e.1 ≠ x := fun e he => (hlt e he).ne'
      simp only [count, hx, if_true, countOf_eq_zero_of_lt hlt, Nat.zero_add]
      rw [List.mem_cons, or_comm]
      exact or_congr_left (iff_and_self.mpr (hne e))
    · have hne : ∀ e ∈ m, e.1 ≠ x := fun e he => (hk e he).ne'
      simp only [count, countOf, lt_irrefl, if_false, if_true]
      rw [List.mem_cons, List.mem_cons, or_comm]
      refine or_congr_left ?_
      constructor
      · exact fun he => ⟨hne e he, .inr he⟩
      · rintro ⟨hx, rfl | he⟩
        · exact absurd rfl hx
        · exact he
    · simp only [count, countOf, hx.not_gt, hx.ne', if_false]
      rw [List.mem_cons, List.mem_cons, ih hm, and_or_left, or_assoc]
      refine or_congr_left (iff_and_self.mpr ?_)
      rintro rfl
      exact hx.ne

theorem key_mem_count (he : e ∈ count x m) : e.1 = x ∨ ∃ a ∈ m, a.1 = e.1 := by
  induction m with
  | nil =>
    rw [List.mem_singleton.mp he]
    exact .inl rfl
  | cons a m ih =>
    obtain ⟨k, n⟩ := a
    simp only [count] at he
    split_ifs at he with hlt heq
    · rcases List.mem_cons.mp he with rfl | he
      · exact .inl rfl
      · exact .inr ⟨e, he, rfl⟩
    · rcases List.mem_cons.mp he with rfl | he
      · exact .inl heq.symm
      · exact .inr ⟨e, List.mem_cons_of_mem _ he, rfl⟩
    · rcases List.mem_cons.mp he with rfl | he
      · exact .inr ⟨_, List.mem_cons_self, rfl⟩
      · rcases ih he with hx | ⟨a, ha, hae⟩
        · exact .inl hx
        · exact .inr ⟨a, List.mem_cons_of_mem _ ha, hae⟩

theorem sorted_count (hm : m.Pairwise fun a b => a.1 < b.1) :
    (count x m).Pairwise fun a b => a.1 < b.1 := by
  induction m with
  | nil => exact List.pairwise_singleton _ _
  | cons a m ih =>
    obtain ⟨k, n⟩ := a
    obtain ⟨hk, htail⟩ := List.pairwise_cons.mp hm
    simp only [count]
    split_ifs with hlt heq
    · refine List.pairwise_cons.mpr ⟨fun e he => ?_, hm⟩
      rcases List.mem_cons.mp he with rfl | he
      · exact hlt
      · exact hlt.trans (hk e he)
    · exact List.pairwise_cons.mpr ⟨hk, htail⟩
    · refine List.pairwise_cons.mpr ⟨fun e he => ?_, ih htail⟩
      rcases key_mem_count he with hx | ⟨a, ha, hae⟩
      · rw [hx]
        exact lt_of_le_of_ne (not_lt.mp hlt) (Ne.symm heq)
      · rw [← hae]
        exact hk a ha

theorem isTally_nil : IsTally ([] : List (κ × ℕ)) [] where
  sorted := List.Pairwise.nil
  mem_iff e := by
    simp only [List.not_mem_nil, List.count_nil, false_iff, not_and]
    exact fun hpos => Nat.ne_of_lt hpos

theorem countOf_of_mem {n : ℕ} (hm : m.Pairwise fun a b => a.1 < b.1) (hx : (x, n) ∈ m) :
    countOf x m = n := by
  induction m with
  | nil => cases hx
  | cons a m ih =>
    obtain ⟨hk, htail⟩ := List.pairwise_cons.mp hm
    rcases List.mem_cons.mp hx with rfl | hx
    · simp only [countOf, if_true]
    · simp only [countOf, (hk _ hx).ne', if_false]
      exact ih htail hx

theorem IsTally.countOf_eq (h : IsTally m l) (x : κ) : countOf x m = l.count x := by
  by_cases hx : l.count x = 0
  · rw [hx]
    refine countOf_eq_zero fun e he heq => ?_
    obtain ⟨hpos, hcount⟩ := (h.mem_iff e).mp he
    rw [← hcount, ← heq, hx] at hpos
    exact Nat.lt_irrefl 0 hpos
  · exact countOf_of_mem h.sorted ((h.mem_iff _).mpr ⟨Nat.pos_of_ne_zero hx, rfl⟩)

/-- One more element. -/
theorem IsTally.count (h : IsTally m l) (x : κ) : IsTally (count x m) (x :: l) where
  sorted := sorted_count h.sorted
  mem_iff e := by
    rw [mem_count h.sorted, h.mem_iff, h.countOf_eq]
    obtain ⟨k, n⟩ := e
    by_cases hx : k = x
    · subst hx
      simp only [ne_eq, not_true_eq_false, false_and, false_or, Prod.mk.injEq, true_and,
        List.count_cons_self]
      omega
    · have hne : (k, n) ≠ (x, l.count x + 1) := fun heq => hx (congrArg Prod.fst heq)
      simp only [ne_eq, hx, not_false_eq_true, true_and, hne, or_false]
      rw [List.count_cons_of_ne (Ne.symm hx)]

theorem IsTally.of_perm (h : IsTally m l) (hl : l.Perm l') : IsTally m l' where
  sorted := h.sorted
  mem_iff e := by rw [h.mem_iff, hl.count_eq]

/-- Counting all elements of a list, from an empty map. -/
theorem isTally_foldl (l : List κ) : IsTally (l.foldl (fun m x => count x m) []) l := by
  have hfold : ∀ (l l' : List κ) (m : List (κ × ℕ)), IsTally m l' →
      IsTally (l.foldl (fun m x => Tally.count x m) m) (l.reverse ++ l') := by
    intro l
    induction l with
    | nil => exact fun l' m h => h
    | cons x l ih =>
      intro l' m h
      rw [List.reverse_cons, List.append_assoc]
      exact ih (x :: l') _ (h.count x)
  have htally := hfold l [] [] isTally_nil
  rw [List.append_nil] at htally
  exact htally.of_perm (List.reverse_perm l)

/-- From a count of zero the entry chosen is that of the least of the most frequent elements. -/
theorem IsTally.isTopKey_top (h : IsTally m l) (hl : l ≠ []) (hstart : start.2 = 0) :
    IsTopKey l (top m start).1 := by
  obtain ⟨x, hx⟩ := List.exists_mem_of_ne_nil l hl
  have hpos : 0 < l.count x := List.count_pos_iff.mpr hx
  have hentry : (x, l.count x) ∈ m := (h.mem_iff _).mpr ⟨hpos, rfl⟩
  rcases top_cases m start with ⟨-, hle⟩ | ⟨m₁, m₂, hm, -, hbefore, hafter⟩
  · have hzero := hle _ hentry
    rw [hstart] at hzero
    exact absurd hpos (Nat.not_lt.mpr hzero)
  · generalize top m start = t at hm hbefore hafter ⊢
    have hmem : t ∈ m := by
      rw [hm]
      exact List.mem_append_right _ List.mem_cons_self
    obtain ⟨htop, hcount⟩ := (h.mem_iff _).mp hmem
    have hsorted := h.sorted
    rw [hm] at hsorted
    obtain ⟨-, hrest, -⟩ := List.pairwise_append.mp hsorted
    refine ⟨List.count_pos_iff.mp (hcount ▸ htop), fun j hj => ?_⟩
    have hj' : (j, l.count j) ∈ m := (h.mem_iff _).mpr ⟨List.count_pos_iff.mpr hj, rfl⟩
    rw [hm] at hj'
    rw [hcount]
    rcases List.mem_append.mp hj' with hj' | hj'
    · exact .inl (hbefore _ hj')
    · rcases List.mem_cons.mp hj' with heq | hj'
      · exact .inr ⟨congrArg Prod.snd heq, (congrArg Prod.fst heq).ge⟩
      · rcases Nat.lt_or_eq_of_le (hafter _ hj') with hlt | heq
        · exact .inl hlt
        · exact .inr ⟨heq, ((List.pairwise_cons.mp hrest).1 _ hj').le⟩

/-- An empty list has no entry to choose. -/
theorem IsTally.top_nil (h : IsTally m []) : top m start = start := by
  have hm : m = [] := by
    refine List.eq_nil_iff_forall_not_mem.mpr fun e he => ?_
    obtain ⟨hpos, hcount⟩ := (h.mem_iff e).mp he
    rw [← hcount] at hpos
    exact Nat.lt_irrefl 0 hpos
  rw [hm]
  rfl

end Tally
end Lib
