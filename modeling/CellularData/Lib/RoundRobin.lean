import Mathlib.Data.List.GetD
import Mathlib.Data.List.Nodup
import Mathlib.Logic.Function.Iterate
import Mathlib.Tactic.SplitIfs

/-! Going round seats in order: some seats are passed over, and each other one is served a quota of
times before the next. -/
namespace Lib

/-- The seat at which a round stands, and how often it has been served. -/
structure Turn where
  seat : Nat := 0
  count : Nat := 0
deriving DecidableEq, Repr

namespace Turn

variable (n : Nat) (skip : Nat → Bool) (quota : Nat)

/-- The next turn, where at most `fuel` seats are looked at. -/
def next : Nat → Turn → Option Turn
  | 0, _ => none
  | fuel + 1, t =>
    let t := if n ≤ t.seat then {} else t
    if skip t.seat = true ∨ quota < t.count + 1 then next fuel ⟨t.seat + 1, 0⟩
    else some ⟨t.seat, t.count + 1⟩

/-- The seats from `i` on that are served. -/
def seatsFrom (i : Nat) : List Nat := (List.range' i (n - i)).filter fun j => !skip j

def seats : List Nat := seatsFrom n skip 0

/-- The seat served first from `i` on, going round. -/
def servedFrom (i : Nat) : Nat := (seatsFrom n skip i ++ seats n skip).headD 0

/-- The turn after `t`, without a bound on the seats looked at. -/
def after (t : Turn) : Turn :=
  if n ≤ t.seat then ⟨servedFrom n skip 0, 1⟩
  else if skip t.seat = true ∨ quota ≤ t.count then ⟨servedFrom n skip (t.seat + 1), 1⟩
  else ⟨t.seat, t.count + 1⟩

/-- The turn number `k` of a round that begins with the first seat served. -/
def turnAt (k : Nat) : Turn :=
  ⟨(seats n skip).getD (k / quota % (seats n skip).length) 0, k % quota + 1⟩

variable {n skip quota} {i j k : Nat} {t : Turn}

theorem seatsFrom_of_le (h : n ≤ i) : seatsFrom n skip i = [] := by
  unfold seatsFrom
  rw [Nat.sub_eq_zero_of_le h]
  rfl

theorem seatsFrom_of_lt (h : i < n) : seatsFrom n skip i =
    if skip i then seatsFrom n skip (i + 1) else i :: seatsFrom n skip (i + 1) := by
  unfold seatsFrom
  obtain ⟨m, hm⟩ : ∃ m, n - i = m + 1 := ⟨n - i - 1, by omega⟩
  have hm' : n - (i + 1) = m := by omega
  rw [hm, hm', List.range'_succ, List.filter_cons]
  cases skip i <;> rfl

theorem mem_seatsFrom : j ∈ seatsFrom n skip i ↔ i ≤ j ∧ j < n ∧ skip j = false := by
  have hrange : i ≤ j ∧ j < i + (n - i) ↔ i ≤ j ∧ j < n := by omega
  rw [seatsFrom, List.mem_filter, List.mem_range'_1, hrange, and_assoc, Bool.not_eq_true']

theorem mem_seats : j ∈ seats n skip ↔ j < n ∧ skip j = false := by
  simp only [seats, mem_seatsFrom, Nat.zero_le, true_and]

theorem seats_nodup : (seats n skip).Nodup := by
  unfold seats seatsFrom
  exact List.Nodup.filter _ List.nodup_range'

theorem pos_of_seats (h : seats n skip ≠ []) : 0 < n := by
  obtain ⟨j, hj⟩ := List.exists_mem_of_ne_nil _ h
  exact Nat.zero_lt_of_lt (mem_seats.mp hj).1

/-! The turn that is found -/

/-- Behind the last seat the search begins again. -/
theorem next_of_le {fuel : Nat} (hn : 0 < n) (h : n ≤ t.seat) :
    next n skip quota fuel t = next n skip quota fuel {} := by
  cases fuel with
  | zero => rfl
  | succ fuel =>
    have h0 : ¬ n ≤ (0 : Nat) := by omega
    simp only [next, if_pos h, if_neg h0]

theorem next_of_seatsFrom {js : List Nat} {fuel : Nat} (hquota : 1 ≤ quota)
    (h : seatsFrom n skip i = j :: js) (hfuel : n - i ≤ fuel) :
    next n skip quota fuel ⟨i, 0⟩ = some ⟨j, 1⟩ := by
  have hi : i < n := by
    by_contra hi
    rw [seatsFrom_of_le (by omega)] at h
    cases h
  induction fuel generalizing i with
  | zero => omega
  | succ fuel ih =>
    have hn : ¬ n ≤ i := by omega
    have hcount : ¬ quota < 0 + 1 := by omega
    rw [seatsFrom_of_lt hi] at h
    simp only [next, if_neg hn, hcount, or_false]
    split_ifs at h with hskip
    · have hi' : i + 1 < n := by
        by_contra hi'
        rw [seatsFrom_of_le (by omega)] at h
        cases h
      rw [if_pos hskip]
      exact ih h (by omega) hi'
    · obtain ⟨rfl, -⟩ := List.cons.inj h
      rw [if_neg hskip]

/-- From a seat that has not been served the search goes round once at most. -/
theorem next_of_zero {fuel : Nat} (hquota : 1 ≤ quota) (h : seats n skip ≠ [])
    (hfuel : n - i + n ≤ fuel) :
    next n skip quota fuel ⟨i, 0⟩ = some ⟨servedFrom n skip i, 1⟩ := by
  unfold servedFrom
  cases hfrom : seatsFrom n skip i with
  | cons j js => exact next_of_seatsFrom hquota hfrom (by omega)
  | nil =>
    obtain ⟨j, js, hseats⟩ := List.exists_cons_of_ne_nil h
    rw [List.nil_append, hseats]
    have hn := pos_of_seats h
    induction fuel generalizing i with
    | zero => omega
    | succ fuel ih =>
      by_cases hi : n ≤ i
      · rw [next_of_le hn hi]
        exact next_of_seatsFrom hquota hseats (by omega)
      · have hi' : i < n := by omega
        rw [seatsFrom_of_lt hi'] at hfrom
        split_ifs at hfrom with hskip
        simp only [next, if_neg hi, hskip, true_or, if_true]
        exact ih (by omega) hfrom

/-- The search ends, and finds the turn after. -/
theorem next_eq_after {fuel : Nat} (hquota : 1 ≤ quota) (h : seats n skip ≠ [])
    (hfuel : 2 * n + 1 ≤ fuel) : next n skip quota fuel t = some (after n skip quota t) := by
  have hn := pos_of_seats h
  unfold after
  by_cases hseat : n ≤ t.seat
  · rw [if_pos hseat, next_of_le hn hseat]
    exact next_of_zero hquota h (by omega)
  · obtain ⟨fuel, rfl⟩ : ∃ m, fuel = m + 1 := ⟨fuel - 1, by omega⟩
    have hcount : quota < t.count + 1 ↔ quota ≤ t.count := by omega
    simp only [next, if_neg hseat, hcount]
    split_ifs
    · exact next_of_zero hquota h (by omega)
    · rfl

/-! What is served -/

theorem servedFrom_mem (h : seats n skip ≠ []) : servedFrom n skip i ∈ seats n skip := by
  unfold servedFrom
  cases hfrom : seatsFrom n skip i with
  | nil =>
    obtain ⟨j, js, hseats⟩ := List.exists_cons_of_ne_nil h
    rw [List.nil_append, hseats]
    exact List.mem_cons_self
  | cons j js =>
    have hj : j ∈ seatsFrom n skip i := by
      rw [hfrom]
      exact List.mem_cons_self
    exact mem_seats.mpr (mem_seatsFrom.mp hj).2

/-- A seat is served within its quota. -/
theorem after_served (hquota : 1 ≤ quota) (h : seats n skip ≠ []) :
    (after n skip quota t).seat ∈ seats n skip ∧ (after n skip quota t).count ≤ quota := by
  unfold after
  split_ifs with hseat hpass
  · exact ⟨servedFrom_mem h, hquota⟩
  · exact ⟨servedFrom_mem h, hquota⟩
  · obtain ⟨hskip, hcount⟩ := not_or.mp hpass
    constructor
    · exact mem_seats.mpr ⟨Nat.lt_of_not_le hseat, Bool.not_eq_true _ ▸ hskip⟩
    · exact Nat.lt_of_not_le hcount

theorem drop_seatsFrom (hk : k < (seatsFrom n skip i).length) :
    (seatsFrom n skip i).drop (k + 1) =
      seatsFrom n skip ((seatsFrom n skip i).getD k 0 + 1) := by
  induction hm : n - i generalizing i k with
  | zero =>
    rw [seatsFrom_of_le (by omega)] at hk
    cases hk
  | succ m ih =>
    rw [seatsFrom_of_lt (by omega)] at hk ⊢
    split_ifs at hk ⊢ with hskip
    · exact ih hk (by omega)
    · cases k with
      | zero => rfl
      | succ k =>
        rw [List.drop_succ_cons, List.getD_cons_succ]
        exact ih (by simpa using hk) (by omega)

/-- After the last seat that is served comes the first one. -/
theorem servedFrom_succ (hk : k < (seats n skip).length) :
    servedFrom n skip ((seats n skip).getD k 0 + 1) =
      (seats n skip).getD ((k + 1) % (seats n skip).length) 0 := by
  have hdrop : seatsFrom n skip ((seats n skip).getD k 0 + 1) = (seats n skip).drop (k + 1) :=
    (drop_seatsFrom hk).symm
  unfold servedFrom
  rw [hdrop]
  by_cases hlast : k + 1 < (seats n skip).length
  · rw [Nat.mod_eq_of_lt hlast, List.drop_eq_getElem_cons hlast, List.cons_append,
      List.headD_cons, List.getD_eq_getElem _ _ hlast]
  · have heq : k + 1 = (seats n skip).length := by omega
    rw [heq, List.drop_length, List.nil_append, Nat.mod_self]
    cases seats n skip <;> rfl

theorem getD_mod_mem (h : seats n skip ≠ []) (k : Nat) :
    (seats n skip).getD (k % (seats n skip).length) 0 ∈ seats n skip := by
  have hlt : k % (seats n skip).length < (seats n skip).length :=
    Nat.mod_lt k (List.length_pos_iff.mpr h)
  rw [List.getD_eq_getElem _ _ hlt]
  exact List.getElem_mem hlt

/-- The quotient and the remainder of the next number. -/
theorem succ_div_mod (hquota : 1 ≤ quota) (k : Nat) :
    if k % quota + 1 < quota then (k + 1) / quota = k / quota ∧ (k + 1) % quota = k % quota + 1
    else (k + 1) / quota = k / quota + 1 ∧ (k + 1) % quota = 0 := by
  have hk := Nat.mod_add_div k quota
  have hmod : k % quota < quota := Nat.mod_lt k hquota
  split_ifs with h
  · apply (Nat.div_mod_unique hquota).mpr
    omega
  · apply (Nat.div_mod_unique hquota).mpr
    rw [Nat.mul_succ]
    omega

/-- The turns of a round follow one another. -/
theorem after_turnAt (hquota : 1 ≤ quota) (h : seats n skip ≠ []) (k : Nat) :
    after n skip quota (turnAt n skip quota k) = turnAt n skip quota (k + 1) := by
  obtain ⟨hlt, hgood⟩ := mem_seats.mp (getD_mod_mem h (k / quota))
  have hpos := List.length_pos_iff.mpr h
  have hnext := succ_div_mod hquota k
  unfold after
  rw [if_neg (show ¬ n ≤ (turnAt n skip quota k).seat from Nat.not_le.mpr hlt)]
  simp only [turnAt, hgood, Bool.false_eq_true, false_or]
  by_cases hlast : k % quota + 1 < quota
  · rw [if_pos hlast] at hnext
    rw [if_neg (by omega), hnext.1, hnext.2]
  · rw [if_neg hlast] at hnext
    rw [if_pos (by omega), hnext.1, hnext.2, servedFrom_succ (Nat.mod_lt _ hpos), Nat.mod_add_mod]

theorem servedFrom_zero : servedFrom n skip 0 = (seats n skip).getD 0 0 := by
  change (seats n skip ++ seats n skip).headD 0 = _
  cases seats n skip <;> rfl

theorem turnAt_zero : turnAt n skip quota 0 = ⟨(seats n skip).getD 0 0, 1⟩ := by
  unfold turnAt
  rw [Nat.zero_div, Nat.zero_mod, Nat.zero_mod]

/-- What has been counted at the first seat counts against it, unless it is passed over. -/
theorem after_first (hquota : 1 ≤ quota) (h : seats n skip ≠ []) {c : Nat} (hc : c ≤ quota) :
    after n skip quota ⟨0, c⟩ = turnAt n skip quota (if skip 0 then 0 else c) := by
  have hn := pos_of_seats h
  have hseats : seats n skip =
      if skip 0 then seatsFrom n skip 1 else 0 :: seatsFrom n skip 1 := seatsFrom_of_lt hn
  unfold after
  rw [if_neg (show ¬ n ≤ (0 : Nat) from Nat.not_le.mpr hn)]
  cases hskip : skip 0 with
  | true =>
    rw [hskip, if_pos rfl] at hseats
    rw [if_pos (Or.inl rfl), if_pos rfl, turnAt_zero, ← servedFrom_zero]
    simp only [servedFrom, ← hseats]
    rfl
  | false =>
    rw [hskip, if_neg Bool.false_ne_true] at hseats
    have hfirst : (seats n skip).getD 0 0 = 0 := by
      rw [hseats]
      rfl
    rw [if_neg Bool.false_ne_true]
    by_cases hlast : quota ≤ c
    · obtain rfl : c = quota := Nat.le_antisymm hc hlast
      have hnext := servedFrom_succ (List.length_pos_iff.mpr h)
      rw [hfirst] at hnext
      rw [if_pos (Or.inr (Nat.le_refl c)), turnAt, Nat.div_self hquota, Nat.mod_self, hnext]
    · have hlt : c < quota := Nat.lt_of_not_le hlast
      have hpass : ¬ (false = true ∨ quota ≤ c) := by
        rw [not_or]
        exact ⟨Bool.false_ne_true, hlast⟩
      rw [if_neg hpass, turnAt, Nat.div_eq_of_lt hlt, Nat.mod_eq_of_lt hlt, Nat.zero_mod, hfirst]

/-- A round of turns, each found after the one before. -/
theorem iterate_after (hquota : 1 ≤ quota) (h : seats n skip ≠ []) (m k : Nat) :
    (after n skip quota)^[k] (turnAt n skip quota m) = turnAt n skip quota (m + k) := by
  induction k with
  | zero => rfl
  | succ k ih => rw [Function.iterate_succ_apply', ih, after_turnAt hquota h, Nat.add_assoc]

/-! Seats that are the places of a list -/

/-- The entries at the seats that are served are those that are not passed over. -/
theorem map_seats {α : Type*} (l : List α) (pass : α → Bool) (d : α) :
    (seats l.length fun i => pass (l.getD i d)).map (fun i => l.getD i d) =
      l.filter fun a => !pass a := by
  have hl : (List.range l.length).map (fun i => l.getD i d) = l := by
    apply List.ext_getElem
    · simp
    · intro i hi hi'
      rw [List.getElem_map, List.getElem_range, List.getD_eq_getElem _ _ hi']
  have hfilter := congrArg (List.filter fun a => !pass a) hl
  rw [List.filter_map] at hfilter
  unfold seats seatsFrom
  rw [Nat.sub_zero, ← List.range_eq_range']
  exact hfilter

end Turn
end Lib
