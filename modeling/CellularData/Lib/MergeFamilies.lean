import CellularData.Lib.MergePass
import Mathlib.Data.List.Forall2
import Mathlib.Data.Nat.Find
import Mathlib.Logic.Function.Basic

/-! Families of inputs: what a merging pass makes of a vector when it merges no marked element. -/
namespace Lib

/-- What decides over the merging of inputs. An input that displaces takes over the element it is
merged into, which is left in its place; a marked input belongs to no family. -/
structure Grouping (β : Type*) where
  alike : List β → List β → Prop
  displaces : β → Bool
  marked : β → Bool

namespace Grouping

variable {β : Type*} (G : Grouping β) (ps : List β) (family : ℕ → ℕ)

/-- The input at place `k` belongs to the family of place `i`. -/
def joins (k i : ℕ) : Bool := decide (family k = i) && ps[k]?.any fun b => !G.marked b

/-- The members of the family before place `j`. -/
def members (i j : ℕ) : List β :=
  ((List.range j).filter fun k => G.joins ps family k i).filterMap (ps[·]?)

def isHead (i : ℕ) : Bool := G.joins ps family i i

/-- What stands at place `j` for the families of the places from `i` on. -/
def standing (i j : ℕ) (b : β) : List β :=
  if !G.marked b && family j < i && G.displaces b then G.members ps family (family j) j else [b]

/-- Each input is the head of a family or fits the members before it. -/
def Own (j : ℕ) : Prop := ∀ b, ps[j]? = some b → G.marked b = false →
  family j = j ∨ family j < j ∧ G.isHead ps family (family j) = true ∧
    G.alike (G.members ps family (family j) j) [b]

/-- The inputs fall into families: each fits the members of its own family before it, and what stands
at its place fits the members before it of no other one. -/
structure Families : Prop where
  own : ∀ j, G.Own ps family j
  apart : ∀ i j b, G.isHead ps family i = true → i < j → ps[j]? = some b →
    G.joins ps family j i = false →
      ¬ G.alike (G.members ps family i j) (G.standing ps family i j b)

/-- Each of the first `n` inputs is in the first family that it fits. -/
structure FirstFit (n : ℕ) : Prop where
  own : ∀ j < n, G.Own ps family j
  first : ∀ i j b, G.isHead ps family i = true → i < j → j < n → ps[j]? = some b →
    G.marked b = false → i < family j → ¬ G.alike (G.members ps family i j) [b]

/-- No two families fit each other, each taken as a whole. -/
def Apart : Prop := ∀ i j, i < j → G.isHead ps family i = true → G.isHead ps family j = true →
  ¬ G.alike (G.members ps family i ps.length) (G.members ps family j ps.length)

/-- From place `j` on nothing fits the family of `i` that belongs to an earlier one or to none. -/
def Spares (i j : ℕ) : Prop := ∀ k b, j ≤ k → ps[k]? = some b →
  G.marked b = true ∨ family k < i →
    ¬ G.alike (G.members ps family i k) (G.standing ps family i k b)

variable {G ps family} {i j k n : ℕ} {b : β}

theorem joins_iff (hb : ps[k]? = some b) :
    G.joins ps family k i = true ↔ family k = i ∧ G.marked b = false := by
  unfold joins
  rw [hb, Bool.and_eq_true, decide_eq_true_eq, Option.any_some, Bool.not_eq_true']

theorem exists_of_joins (h : G.joins ps family k i = true) :
    ∃ b, ps[k]? = some b ∧ family k = i ∧ G.marked b = false := by
  cases hb : ps[k]? with
  | none =>
    unfold joins at h
    rw [hb, Option.any_none, Bool.and_false] at h
    cases h
  | some b => exact ⟨b, rfl, (joins_iff hb).mp h⟩

theorem members_succ (hb : ps[j]? = some b) : G.members ps family i (j + 1) =
    G.members ps family i j ++ if G.joins ps family j i then [b] else [] := by
  unfold members
  rw [List.range_succ, List.filter_append, List.filterMap_append]
  congr 1
  split_ifs with h
  · simp [h, hb]
  · simp [h]

theorem members_congr {family' : ℕ → ℕ} (h : ∀ k < j, family k = family' k) :
    G.members ps family i j = G.members ps family' i j := by
  unfold members
  congr 1
  apply List.filter_congr
  intro k hk
  unfold joins
  rw [h k (List.mem_range.mp hk)]

theorem isHead_congr {family' : ℕ → ℕ} (h : family i = family' i) :
    G.isHead ps family i = G.isHead ps family' i := by
  unfold isHead joins
  rw [h]

theorem own_congr {family' : ℕ → ℕ} (h : ∀ k ≤ j, family k = family' k) (hj : G.Own ps family j) :
    G.Own ps family' j := by
  intro b hb hmarked
  rcases hj b hb hmarked with heq | ⟨hlt, hhead, halike⟩
  · exact .inl ((h j (Nat.le_refl j)).symm.trans heq)
  · rw [h j (Nat.le_refl j)] at hlt hhead halike
    refine .inr ⟨hlt, ?_, ?_⟩
    · rw [← isHead_congr (h _ (Nat.le_of_lt hlt))]
      exact hhead
    · rw [← members_congr fun k hk => h k (Nat.le_of_lt hk)]
      exact halike

theorem FirstFit.congr {family' : ℕ → ℕ} (h : ∀ k < n, family k = family' k)
    (hfit : G.FirstFit ps family n) : G.FirstFit ps family' n where
  own j hj := own_congr (fun k hk => h k (by omega)) (hfit.own j hj)
  first i j b hhead hij hj hb hmarked hlt := by
    rw [← members_congr fun k hk => h k (by omega)]
    rw [← isHead_congr (h i (by omega))] at hhead
    rw [← h j hj] at hlt
    exact hfit.first i j b hhead hij hj hb hmarked hlt

/-- The next input goes to the first family that it fits, or is the head of a new one. -/
theorem FirstFit.succ (hfit : G.FirstFit ps family n) : ∃ family', G.FirstFit ps family' (n + 1) := by
  have hextend : ∀ v, (∀ b, ps[n]? = some b → G.marked b = false →
      v = n ∨ v < n ∧ G.isHead ps family v = true ∧ G.alike (G.members ps family v n) [b]) →
      (∀ i b, G.isHead ps family i = true → i < n → ps[n]? = some b → G.marked b = false → i < v →
        ¬ G.alike (G.members ps family i n) [b]) →
      G.FirstFit ps (Function.update family n v) (n + 1) := by
    intro v hown hfirst
    have hsame : ∀ k < n, family k = Function.update family n v k := by
      intro k hk
      exact (Function.update_of_ne (Nat.ne_of_lt hk) v family).symm
    have hlast : Function.update family n v n = v := Function.update_self n v family
    have hold := hfit.congr hsame
    constructor
    · intro j hj
      by_cases hjn : j < n
      · exact hold.own j hjn
      · obtain rfl : j = n := by omega
        intro b hb hmarked
        rw [hlast]
        rcases hown b hb hmarked with heq | ⟨hlt, hhead, halike⟩
        · exact .inl heq
        · refine .inr ⟨hlt, ?_, ?_⟩
          · rw [← isHead_congr (hsame v hlt)]
            exact hhead
          · rw [← members_congr hsame]
            exact halike
    · intro i j b hhead hij hj hb hmarked hlt
      by_cases hjn : j < n
      · exact hold.first i j b hhead hij hjn hb hmarked hlt
      · obtain rfl : j = n := by omega
        rw [hlast] at hlt
        rw [← members_congr hsame]
        rw [← isHead_congr (hsame i hij)] at hhead
        exact hfirst i b hhead hij hb hmarked hlt
  cases hb : ps[n]? with
  | none =>
    refine ⟨_, hextend n (fun b hb' => ?_) fun i b _ _ hb' => ?_⟩
    · cases hb.symm.trans hb'
    · cases hb.symm.trans hb'
  | some b =>
    by_cases hfits : ∃ i, i < n ∧ G.isHead ps family i = true ∧ G.alike (G.members ps family i n) [b]
    · classical
      obtain ⟨hlt, hhead, halike⟩ := Nat.find_spec hfits
      refine ⟨_, hextend (Nat.find hfits) (fun b' hb' _ => ?_) fun i b' hi hin hb' _ hlt' => ?_⟩
      · obtain rfl := Option.some.inj (hb.symm.trans hb')
        exact .inr ⟨hlt, hhead, halike⟩
      · obtain rfl := Option.some.inj (hb.symm.trans hb')
        exact fun halike' => Nat.find_min hfits hlt' ⟨hin, hi, halike'⟩
    · refine ⟨_, hextend n (fun _ _ _ => .inl rfl) fun i b' hi hin hb' _ _ => ?_⟩
      obtain rfl := Option.some.inj (hb.symm.trans hb')
      exact fun halike => hfits ⟨i, hin, hi, halike⟩

theorem exists_firstFit (G : Grouping β) (ps : List β) (n : ℕ) : ∃ family, G.FirstFit ps family n := by
  induction n with
  | zero =>
    refine ⟨id, fun j hj => ?_, fun i j b _ _ hj => ?_⟩
    · omega
    · omega
  | succ n ih =>
    obtain ⟨family, hfit⟩ := ih
    exact hfit.succ

theorem Families.firstFit (hf : G.Families ps family) : G.FirstFit ps family n where
  own j _ := hf.own j
  first i j b hhead hij _ hb hmarked hlt := by
    have hother : G.joins ps family j i = false := by
      rw [← Bool.not_eq_true, joins_iff hb]
      omega
    have hstands : G.standing ps family i j b = [b] := by
      unfold standing
      simp [Nat.not_lt.mpr (Nat.le_of_lt hlt)]
    have hapart := hf.apart i j b hhead hij hb hother
    rwa [hstands] at hapart

theorem Families.spares (hf : G.Families ps family) (hhead : G.isHead ps family i = true)
    (hij : i < j) : G.Spares ps family i j := by
  intro k b hjk hb hgone
  apply hf.apart i k b hhead (by omega) hb
  rw [← Bool.not_eq_true, joins_iff hb]
  rintro ⟨hfamily, hmarked⟩
  rcases hgone with hgone | hgone
  · exact absurd (hgone.symm.trans hmarked) (by decide)
  · omega

/-- First fit gives families when no input fits a later family either. -/
theorem FirstFit.families (hfit : G.FirstFit ps family ps.length)
    (hspares : ∀ i, G.isHead ps family i = true → G.Spares ps family i (i + 1)) :
    G.Families ps family where
  own j b hb := hfit.own j (List.getElem?_eq_some_iff.mp hb).1 b hb
  apart i j b hhead hij hb hother := by
    have hj := (List.getElem?_eq_some_iff.mp hb).1
    cases hmarked : G.marked b with
    | true => exact hspares i hhead j b hij hb (.inl hmarked)
    | false =>
      have hne : family j ≠ i := by
        intro heq
        rw [(joins_iff hb).mpr ⟨heq, hmarked⟩] at hother
        cases hother
      rcases Nat.lt_or_gt_of_ne hne with hlt | hlt
      · exact hspares i hhead j b hij hb (.inr hlt)
      · have hstands : G.standing ps family i j b = [b] := by
          unfold standing
          simp [Nat.not_lt.mpr (Nat.le_of_lt hlt)]
        rw [hstands]
        exact hfit.first i j b hhead hij hj hb hmarked hlt

theorem members_self (hfit : G.FirstFit ps family ps.length) (i : ℕ) :
    G.members ps family i i = [] := by
  unfold members
  rw [List.filterMap_eq_nil_iff]
  intro k hk
  obtain ⟨hrange, hjoins⟩ := List.mem_filter.mp hk
  obtain ⟨b, hb, hfamily, hmarked⟩ := exists_of_joins hjoins
  have hki := List.mem_range.mp hrange
  rcases hfit.own k (List.getElem?_eq_some_iff.mp hb).1 b hb hmarked with heq | ⟨hlt, -⟩
  · omega
  · omega

theorem standing_of_gone {i' : ℕ} (h : G.marked b = true ∨ family j < i) (hi : i ≤ i') :
    G.standing ps family i' j b = G.standing ps family i j b := by
  unfold standing
  rcases h with hmarked | hlt
  · simp [hmarked]
  · simp [hlt, Nat.lt_of_lt_of_le hlt hi]

theorem standing_of_le (h : i ≤ family j) : G.standing ps family i j b = [b] := by
  unfold standing
  simp [Nat.not_lt.mpr h]

theorem spares_iff (hb : ps[j]? = some b) : G.Spares ps family i j ↔
    (G.marked b = true ∨ family j < i →
      ¬ G.alike (G.members ps family i j) (G.standing ps family i j b)) ∧
    G.Spares ps family i (j + 1) := by
  constructor
  · intro h
    exact ⟨h j b (Nat.le_refl j) hb, fun k b' hk => h k b' (by omega)⟩
  · rintro ⟨hhere, hlater⟩ k b' hk hb'
    rcases Nat.eq_or_lt_of_le hk with rfl | hlt
    · obtain rfl := Option.some.inj (hb.symm.trans hb')
      exact hhere
    · exact hlater k b' hlt hb'

/-- The places of the heads from `i` on. -/
def headsFrom (G : Grouping β) (ps : List β) (family : ℕ → ℕ) (i : ℕ) : List ℕ :=
  (List.range' i (ps.length - i)).filter fun i => G.isHead ps family i

theorem headsFrom_of_lt (h : i < ps.length) : G.headsFrom ps family i =
    if G.isHead ps family i then i :: G.headsFrom ps family (i + 1)
    else G.headsFrom ps family (i + 1) := by
  unfold headsFrom
  have hlength : ps.length - i = ps.length - (i + 1) + 1 := by omega
  rw [hlength, List.range'_succ, List.filter_cons]

theorem headsFrom_length : G.headsFrom ps family ps.length = [] := by
  unfold headsFrom
  rw [Nat.sub_self]
  rfl

theorem mem_heads : i ∈ G.headsFrom ps family 0 ↔ G.isHead ps family i = true := by
  unfold headsFrom
  rw [List.mem_filter, and_iff_right_iff_imp, List.mem_range'_1]
  intro hhead
  obtain ⟨b, hb, -⟩ := exists_of_joins hhead
  have hlt := (List.getElem?_eq_some_iff.mp hb).1
  omega

theorem apart_iff : G.Apart ps family ↔ (G.headsFrom ps family 0).Pairwise fun i j =>
    ¬ G.alike (G.members ps family i ps.length) (G.members ps family j ps.length) := by
  have hsorted : (G.headsFrom ps family 0).Pairwise (· < ·) := by
    have hrange : (List.range' 0 (ps.length - 0)).Pairwise (· < ·) := List.pairwise_lt_range'
    exact hrange.filter _
  constructor
  · intro hapart
    refine hsorted.imp_of_mem fun {i j} hi hj hlt => ?_
    exact hapart i j hlt (mem_heads.mp hi) (mem_heads.mp hj)
  · intro hpairwise i j hlt hi hj
    have hforward : (G.headsFrom ps family 0).Pairwise fun i j => i < j →
        ¬ G.alike (G.members ps family i ps.length) (G.members ps family j ps.length) :=
      hpairwise.imp fun {i j} h (_ : i < j) => h
    have hback := hsorted.imp (S := flip fun i j => i < j →
        ¬ G.alike (G.members ps family i ps.length) (G.members ps family j ps.length))
      fun {i j} h h' => absurd h' (Nat.lt_asymm h)
    have hall := hforward.forall_of_forall_of_flip (fun i _ h => absurd h (Nat.lt_irrefl i)) hback
    exact hall (mem_heads.mpr hi) (mem_heads.mpr hj) hlt

end Grouping

namespace Merging

variable {α β σ : Type*} {M : Merging α σ} {G : Grouping β}

/-- What the elements of the vector are made of decides over their similarity. `Faithful` holds of the
elements that show what their parts are. -/
structure Groups (M : Merging α σ) (G : Grouping β) (start : β → α) (parts : α → List β)
    (Faithful : α → Prop) : Prop where
  alike {S S' T T' : List β} (hS : S.Perm S') (hT : T.Perm T') (h : G.alike S T) : G.alike S' T'
  start (b : β) : Faithful (start b) ∧ parts (start b) = [b] ∧ M.isMarked (start b) = G.marked b
  similar {x y : α} (hx : Faithful x) (hy : Faithful y) :
    M.similar x y = true ↔ G.alike (parts x) (parts y)
  merge {p q : α} {b : β} {s : σ} (hp : ¬ M.isMarked p = true) (hq : M.isMarked q = false)
    (hpf : Faithful p) (hqf : Faithful q) (hpq : M.similar p q = true) (hb : parts q = [b]) :
    ¬ M.isMarked (M.merge p q s).1 = true ∧ Faithful (M.merge p q s).1 ∧
      (parts (M.merge p q s).1).Perm (parts p ++ [b])
  left {p q : α} {b : β} {s : σ} (hp : ¬ M.isMarked p = true) (hq : M.isMarked q = false)
    (hpf : Faithful p) (hqf : Faithful q) (hpq : M.similar p q = true) (hb : parts q = [b]) :
    M.isMarked (M.mark (M.merge p q s).2.1) = true ∧ Faithful (M.mark (M.merge p q s).2.1) ∧
      parts (M.mark (M.merge p q s).2.1) = if G.displaces b then parts p else [b]

/-- A merge of an unmarked element. -/
abbrev Unspent (M : Merging α σ) (_ : List α) (_ q : α) (_ : σ) : Prop := M.isMarked q = false

variable {start : β → α} {parts : α → List β} {Faithful : α → Prop} {ps : List β} {family : ℕ → ℕ}
  {i j k fuel : ℕ} {b : β} {x p q : α} {xs qs : List α} {s : σ}

section Run

variable (M G parts Faithful ps family)

/-- The element is what stands at place `k` when the families before `i` are complete. -/
def Stands (i k : ℕ) (x : α) : Prop := ∃ b, ps[k]? = some b ∧ Faithful x ∧
  M.isMarked x = (G.marked b || decide (family k < i)) ∧
    (parts x).Perm (G.standing ps family i k b)

/-- The vector from place `k` on when the families before `i` are complete. -/
def VectorAt (i : ℕ) : ℕ → List α → Prop
  | k, [] => k = ps.length
  | k, x :: xs => Stands M G parts Faithful ps family i k x ∧ VectorAt i (k + 1) xs

/-- The element is made of the family of the place. -/
def MadeOf (i : ℕ) (x : α) : Prop :=
  Faithful x ∧ (parts x).Perm (G.members ps family i ps.length)

end Run

theorem VectorAt.length_eq (h : VectorAt M G parts Faithful ps family i k xs) :
    k + xs.length = ps.length := by
  induction xs generalizing k with
  | nil => exact h
  | cons x xs ih =>
    have hlength := ih h.2
    rw [List.length_cons]
    omega

theorem Groups.vectorAt_start (hM : M.Groups G start parts Faithful) :
    VectorAt M G parts Faithful ps family 0 0 (ps.map start) := by
  have hfrom : ∀ before after, ps = before ++ after →
      VectorAt M G parts Faithful ps family 0 before.length (after.map start) := by
    intro before after
    induction after generalizing before with
    | nil =>
      rintro hps
      show before.length = ps.length
      rw [hps, List.append_nil]
    | cons b after ih =>
      intro hps
      obtain ⟨hfaithful, hparts, hmarked⟩ := hM.start b
      have hb : ps[before.length]? = some b := by
        rw [hps, List.getElem?_append_right (Nat.le_refl _), Nat.sub_self, List.getElem?_cons_zero]
      refine ⟨⟨b, hb, hfaithful, ?_, ?_⟩, ?_⟩
      · rw [hmarked]
        simp
      · rw [hparts, Grouping.standing_of_le (Nat.zero_le _)]
      · have hnext := ih (before ++ [b]) (by rw [hps, List.append_assoc]; rfl)
        rwa [List.length_append] at hnext
  exact hfrom [] ps rfl

/-- The next place when no family begins at place `i`. -/
theorem VectorAt.skip (hfit : G.FirstFit ps family ps.length)
    (hhead : G.isHead ps family i = false) (hik : i < k)
    (h : VectorAt M G parts Faithful ps family i k xs) :
    VectorAt M G parts Faithful ps family (i + 1) k xs := by
  induction xs generalizing k with
  | nil => exact h
  | cons x xs ih =>
    obtain ⟨⟨b, hb, hfaithful, hmarked, hparts⟩, hrest⟩ := h
    refine ⟨?_, ih (by omega) hrest⟩
    have hgone : G.marked b = true ∨ family k < i ∨ i + 1 ≤ family k := by
      cases hb' : G.marked b with
      | true => exact .inl rfl
      | false =>
        have hne : family k ≠ i := by
          rintro rfl
          rcases hfit.own k (List.getElem?_eq_some_iff.mp hb).1 b hb hb' with heq | ⟨-, hhead', -⟩
          · omega
          · cases hhead.symm.trans hhead'
        omega
    rcases hgone with hmark | hlt | hle
    · refine ⟨b, hb, hfaithful, by simp [hmarked, hmark], ?_⟩
      rwa [Grouping.standing_of_gone (.inl hmark) (Nat.le_succ i)]
    · refine ⟨b, hb, hfaithful, ?_, ?_⟩
      · rw [hmarked, decide_eq_true hlt, decide_eq_true (Nat.lt_succ_of_lt hlt)]
      · rwa [Grouping.standing_of_gone (.inr hlt) (Nat.le_succ i)]
    · rw [Grouping.standing_of_le (Nat.le_of_succ_le hle)] at hparts
      refine ⟨b, hb, hfaithful, ?_, ?_⟩
      · rw [hmarked, decide_eq_false (by omega), decide_eq_false (by omega)]
      · rwa [Grouping.standing_of_le hle]

section Inner

variable (M G parts Faithful ps family)

/-- The inner loop at the head of family `i`, from place `j` on: it merges no marked element exactly
when the family spares what has gone, and then it merges the rest of the family. -/
def Completes (i j : ℕ) (left : List α) (p : α) (s : σ) (qs : List α) : Prop :=
  (M.AtMergesBehind (Unspent M) left p s qs ↔ G.Spares ps family i j) ∧
    (M.AtMergesBehind (Unspent M) left p s qs →
      ¬ M.isMarked (M.behind p s qs).1 = true ∧
        MadeOf G parts Faithful ps family i (M.behind p s qs).1 ∧
        VectorAt M G parts Faithful ps family (i + 1) j (M.behind p s qs).2.1)

end Inner

/-- The loop passes over an element: what stands at its place stays. -/
theorem Completes.pass {left : List α} (hb : ps[j]? = some b) (h : ¬ M.similar p q = true)
    (hgone : G.marked b = true ∨ family j < i →
      ¬ G.alike (G.members ps family i j) (G.standing ps family i j b))
    (hstands : Stands M G parts Faithful ps family (i + 1) j q)
    (hrest : Completes M G parts Faithful ps family i (j + 1)
      (if M.isMarked q then left else q :: left) p s qs) :
    Completes M G parts Faithful ps family i j left p s (q :: qs) := by
  obtain ⟨hiff, hafter⟩ := hrest
  unfold Completes AtMergesBehind
  rw [if_neg h, behind_cons_of_not_similar h, hiff, Grouping.spares_iff hb, and_iff_right hgone]
  refine ⟨Iff.rfl, fun hspares => ?_⟩
  obtain ⟨hm, hmade, hvector⟩ := hafter (hiff.mpr hspares)
  exact ⟨hm, hmade, hstands, hvector⟩

/-- The loop merges a marked element, which the family does not spare. -/
theorem Completes.spent {left : List α} (hb : ps[j]? = some b) (h : M.similar p q = true)
    (hmarked : M.isMarked q = true) (hgone : G.marked b = true ∨ family j < i)
    (halike : G.alike (G.members ps family i j) (G.standing ps family i j b)) :
    Completes M G parts Faithful ps family i j left p s (q :: qs) := by
  have hspent : ¬ Unspent M left p q s := fun hunspent => by cases hunspent.symm.trans hmarked
  unfold Completes AtMergesBehind
  rw [if_pos h]
  refine ⟨iff_of_false (fun hmerges => hspent hmerges.1) fun hspares => ?_,
    fun hmerges => absurd hmerges.1 hspent⟩
  exact ((Grouping.spares_iff hb).mp hspares).1 hgone halike

/-- The loop merges an unmarked element. -/
theorem Completes.merge {left : List α} (hb : ps[j]? = some b) (h : M.similar p q = true)
    (hunmarked : M.isMarked q = false) (hgone : ¬ (G.marked b = true ∨ family j < i))
    (hstands : Stands M G parts Faithful ps family (i + 1) j (M.mark (M.merge p q s).2.1))
    (hrest : Completes M G parts Faithful ps family i (j + 1) left (M.merge p q s).1
      (M.merge p q s).2.2 qs) :
    Completes M G parts Faithful ps family i j left p s (q :: qs) := by
  obtain ⟨hiff, hafter⟩ := hrest
  unfold Completes AtMergesBehind
  rw [if_pos h, behind_cons_of_similar h, Grouping.spares_iff hb, hiff]
  refine ⟨and_congr (iff_of_true hunmarked fun hno => absurd hno hgone) Iff.rfl, fun hmerges => ?_⟩
  obtain ⟨hm, hmade, hvector⟩ := hafter (hiff.mpr hmerges.2)
  exact ⟨hm, hmade, hstands, hvector⟩

/-- What has gone stands at its place as before. -/
theorem Stands.gone (hb : ps[j]? = some b) (hgone : G.marked b = true ∨ family j < i)
    (h : Stands M G parts Faithful ps family i j x) : M.isMarked x = true ∧
      Stands M G parts Faithful ps family (i + 1) j x := by
  obtain ⟨b', hb', hfaithful, hmarked, hparts⟩ := h
  obtain rfl := Option.some.inj (hb.symm.trans hb')
  have hgoes : ∀ i', i ≤ i' → (G.marked b || decide (family j < i')) = true := by
    intro i' hi
    rcases hgone with hmark | hlt
    · simp [hmark]
    · simp [Nat.lt_of_lt_of_le hlt hi]
  rw [hgoes i (Nat.le_refl i)] at hmarked
  refine ⟨hmarked, b, hb, hfaithful, ?_, ?_⟩
  · rw [hmarked, hgoes (i + 1) (Nat.le_succ i)]
  · rwa [Grouping.standing_of_gone hgone (Nat.le_succ i)]

/-- A member that is merged into its family leaves itself, or what it displaces. -/
theorem Groups.stands_left (hM : M.Groups G start parts Faithful) (hb : ps[j]? = some b)
    (hmark : G.marked b = false) (hfamily : family j = i) (hp : ¬ M.isMarked p = true)
    (hq : M.isMarked q = false) (hpf : Faithful p) (hqf : Faithful q)
    (hpq : M.similar p q = true) (hqb : parts q = [b])
    (hparts : (parts p).Perm (G.members ps family i j)) :
    Stands M G parts Faithful ps family (i + 1) j (M.mark (M.merge p q s).2.1) := by
  obtain ⟨hm, hf, hleft⟩ := hM.left (s := s) hp hq hpf hqf hpq hqb
  refine ⟨b, hb, hf, ?_, ?_⟩
  · rw [hm, hfamily, decide_eq_true (Nat.lt_succ_self i), Bool.or_true]
  · rw [hleft]
    unfold Grouping.standing
    rw [hmark, hfamily]
    cases G.displaces b with
    | true => simpa using hparts
    | false => simp

/-- The inner loop at the head of a family: it merges no marked element exactly when the family spares
what has gone, and then it merges the family. -/
theorem Groups.behind (hM : M.Groups G start parts Faithful) (left : List α) (s : σ)
    (hfit : G.FirstFit ps family ps.length) (hhead : G.isHead ps family i = true) (hij : i < j)
    (hp : ¬ M.isMarked p = true) (hpf : Faithful p)
    (hparts : (parts p).Perm (G.members ps family i j))
    (hqs : VectorAt M G parts Faithful ps family i j qs) :
    Completes M G parts Faithful ps family i j left p s qs := by
  induction qs generalizing left p s j with
  | nil =>
    obtain rfl : j = ps.length := hqs
    refine ⟨iff_of_true trivial fun k b hk hb => ?_, fun _ => ⟨hp, ⟨hpf, hparts⟩, rfl⟩⟩
    have hlt := (List.getElem?_eq_some_iff.mp hb).1
    omega
  | cons q qs ih =>
    obtain ⟨hstands, hrest⟩ := hqs
    obtain ⟨b, hb, hqf, hqm, hqp⟩ := hstands
    have hsimilar : M.similar p q = true ↔
        G.alike (G.members ps family i j) (G.standing ps family i j b) :=
      (hM.similar hpf hqf).trans ⟨hM.alike hparts hqp, hM.alike hparts.symm hqp.symm⟩
    -- The rest of the loop after an element that is passed over.
    have hnext (hother : G.joins ps family j i = false) :
        Completes M G parts Faithful ps family i (j + 1)
          (if M.isMarked q then left else q :: left) p s qs := by
      have hmembers : G.members ps family i (j + 1) = G.members ps family i j := by
        rw [Grouping.members_succ hb, hother]
        exact List.append_nil _
      exact ih _ s (by omega) hp hpf (hmembers ▸ hparts) hrest
    by_cases hgone : G.marked b = true ∨ family j < i
    · obtain ⟨hqmarked, hstays⟩ := Stands.gone hb hgone ⟨b, hb, hqf, hqm, hqp⟩
      by_cases h : M.similar p q = true
      · exact .spent hb h hqmarked hgone (hsimilar.mp h)
      · refine .pass hb h (fun _ halike => h (hsimilar.mpr halike)) hstays (hnext ?_)
        rw [← Bool.not_eq_true, Grouping.joins_iff hb]
        rintro ⟨hfamily, hmark⟩
        rcases hgone with hmarked | hlt
        · cases hmark.symm.trans hmarked
        · omega
    · obtain ⟨hmark, hle⟩ := not_or.mp hgone
      rw [Bool.not_eq_true] at hmark
      rw [not_lt] at hle
      have hj := (List.getElem?_eq_some_iff.mp hb).1
      have hqunmarked : M.isMarked q = false := by
        rw [hqm, hmark, decide_eq_false (Nat.not_lt.mpr hle)]
        rfl
      rw [Grouping.standing_of_le hle] at hqp hsimilar
      rcases Nat.eq_or_lt_of_le hle with heq | hlt
      · -- A member of the family.
        have hown : G.alike (G.members ps family i j) [b] := by
          rcases hfit.own j hj b hb hmark with hself | ⟨-, -, halike⟩
          · omega
          · rwa [← heq] at halike
        have h : M.similar p q = true := hsimilar.mpr hown
        have hqb : parts q = [b] := List.perm_singleton.mp hqp
        obtain ⟨hm, hmf, hmp⟩ := hM.merge (s := s) hp hqunmarked hpf hqf h hqb
        have hmembers : G.members ps family i (j + 1) = G.members ps family i j ++ [b] := by
          rw [Grouping.members_succ hb, (Grouping.joins_iff hb).mpr ⟨heq.symm, hmark⟩]
          rfl
        refine .merge hb h hqunmarked hgone
          (hM.stands_left hb hmark heq.symm hp hqunmarked hpf hqf h hqb hparts) ?_
        exact ih left _ (by omega) hm hmf (hmembers ▸ hmp.trans (hparts.append_right [b])) hrest
      · -- A member of a later family.
        have happart : ¬ G.alike (G.members ps family i j) [b] :=
          hfit.first i j b hhead hij hj hb hmark hlt
        refine .pass hb (fun h => happart (hsimilar.mp h)) (fun h => absurd h hgone)
          ⟨b, hb, hqf, ?_, ?_⟩ (hnext ?_)
        · rw [hqunmarked, hmark, decide_eq_false (by omega)]
          rfl
        · rwa [Grouping.standing_of_le hlt]
        · rw [← Bool.not_eq_true, Grouping.joins_iff hb]
          omega

/-- The outer loop from place `i` on. -/
theorem Groups.outer (hM : M.Groups G start parts Faithful) (results : List α) (s : σ)
    (hfit : G.FirstFit ps family ps.length) (hfuel : xs.length ≤ fuel)
    (hxs : VectorAt M G parts Faithful ps family i i xs) :
    (M.AtMergesOuter (Unspent M) fuel results s xs ↔
      ∀ h, i ≤ h → G.isHead ps family h = true → G.Spares ps family h (h + 1)) ∧
    (M.AtMergesOuter (Unspent M) fuel results s xs →
      List.Forall₂ (MadeOf G parts Faithful ps family) (G.headsFrom ps family i)
        (M.outer fuel s xs).1) := by
  have hbeyond {h : ℕ} (hlength : ps.length ≤ h) : ¬ G.isHead ps family h = true := by
    intro hhead
    obtain ⟨b, hb, -⟩ := Grouping.exists_of_joins hhead
    have hlt := (List.getElem?_eq_some_iff.mp hb).1
    omega
  induction fuel generalizing results s xs i with
  | zero =>
    obtain rfl := List.length_eq_zero_iff.mp (Nat.le_zero.mp hfuel)
    obtain rfl : i = ps.length := hxs
    refine ⟨iff_of_true trivial fun h hle hhead => absurd hhead (hbeyond hle), fun _ => ?_⟩
    rw [Grouping.headsFrom_length]
    exact .nil
  | succ fuel ih =>
    cases xs with
    | nil =>
      obtain rfl : i = ps.length := hxs
      refine ⟨iff_of_true trivial fun h hle hhead => absurd hhead (hbeyond hle), fun _ => ?_⟩
      rw [Grouping.headsFrom_length]
      exact .nil
    | cons x xs =>
      obtain ⟨⟨b, hb, hxf, hxm, hxp⟩, hrest⟩ := hxs
      have hi := (List.getElem?_eq_some_iff.mp hb).1
      have hlength : xs.length ≤ fuel := Nat.le_of_succ_le_succ hfuel
      unfold AtMergesOuter
      cases hhead : G.isHead ps family i with
      | false =>
        have hmarked : M.isMarked x = true := by
          rw [hxm]
          cases hmark : G.marked b with
          | true => rfl
          | false =>
            rcases hfit.own i hi b hb hmark with hself | ⟨hlt, -⟩
            · cases hhead.symm.trans ((Grouping.joins_iff hb).mpr ⟨hself, hmark⟩)
            · simp [hlt]
        obtain ⟨hiff, hafter⟩ := ih results s hlength
          (hrest.skip hfit hhead (Nat.lt_succ_self i))
        rw [if_pos hmarked, outer_cons_of_marked hmarked, Grouping.headsFrom_of_lt hi, hhead, hiff]
        refine ⟨⟨fun hall h hle hh => ?_, fun hall h hle => hall h (by omega)⟩,
          fun hall => hafter (hiff.mpr hall)⟩
        rcases Nat.eq_or_lt_of_le hle with rfl | hlt
        · cases hhead.symm.trans hh
        · exact hall h hlt hh
      | true =>
        obtain ⟨hself, hmark⟩ := (Grouping.joins_iff hb).mp hhead
        have hunmarked : ¬ M.isMarked x = true := by
          rw [hxm, hmark, hself]
          simp
        rw [Grouping.standing_of_le (Nat.le_of_eq hself.symm)] at hxp
        have hmembers : G.members ps family i (i + 1) = [b] := by
          have hjoins : G.joins ps family i i = true := hhead
          rw [Grouping.members_succ hb, Grouping.members_self hfit, hjoins]
          rfl
        obtain ⟨hiff, hafter⟩ := hM.behind results s hfit hhead
          (Nat.lt_succ_self i) hunmarked hxf (hmembers ▸ hxp) hrest
        rw [if_neg hunmarked, outer_cons_of_unmarked hunmarked, Grouping.headsFrom_of_lt hi, hhead]
        by_cases hmerges : M.AtMergesBehind (Unspent M) results x s xs
        · obtain ⟨-, hmade, hvector⟩ := hafter hmerges
          have hlength' := Nat.le_trans (Nat.le_of_eq (length_behind (M := M) x s xs)) hlength
          obtain ⟨hiff', hafter'⟩ := ih ((M.behind x s xs).1 :: results)
            (M.behind x s xs).2.2 hlength' hvector
          rw [and_iff_right hmerges, hiff']
          refine ⟨⟨fun hall h hle hh => ?_, fun hall h hle => hall h (by omega)⟩,
            fun hall => .cons hmade (hafter' (hiff'.mpr hall))⟩
          rcases Nat.eq_or_lt_of_le hle with rfl | hlt
          · exact hiff.mp hmerges
          · exact hall h hlt hh
        · refine ⟨iff_of_false (fun hboth => hmerges hboth.1) fun hall => ?_,
            fun hboth => absurd hboth.1 hmerges⟩
          exact hmerges (hiff.mpr (hall i (Nat.le_refl i) hhead))

/-- No marked element is merged exactly when the inputs fall into families. -/
theorem Groups.atMerges_iff (hM : M.Groups G start parts Faithful) (ps : List β) (s : σ) :
    M.AtMerges (Unspent M) s (ps.map start) ↔ ∃ family, G.Families ps family := by
  have hpass : ∀ family, G.FirstFit ps family ps.length →
      (M.AtMerges (Unspent M) s (ps.map start) ↔
        ∀ h, G.isHead ps family h = true → G.Spares ps family h (h + 1)) := by
    intro family hfit
    have houter := (hM.outer [] s hfit (Nat.le_refl (ps.map start).length)
      hM.vectorAt_start).1
    unfold AtMerges
    rw [houter]
    exact forall_congr' fun h => forall_prop_of_true (Nat.zero_le h)
  constructor
  · intro hmerges
    obtain ⟨family, hfit⟩ := Grouping.exists_firstFit G ps ps.length
    exact ⟨family, hfit.families ((hpass family hfit).mp hmerges)⟩
  · rintro ⟨family, hf⟩
    exact (hpass family hf.firstFit).mpr fun h hhead => hf.spares hhead (Nat.lt_succ_self h)

/-- The results are made of the families. -/
theorem Groups.pass (hM : M.Groups G start parts Faithful) (hf : G.Families ps family) (s : σ) :
    List.Forall₂ (MadeOf G parts Faithful ps family) (G.headsFrom ps family 0)
      (M.pass s (ps.map start)).1 := by
  obtain ⟨hiff, hafter⟩ := hM.outer [] s hf.firstFit
    (Nat.le_refl (ps.map start).length) hM.vectorAt_start
  exact hafter (hiff.mpr fun h _ hhead => hf.spares hhead (Nat.lt_succ_self h))

theorem forall_mem_iff_of_forall₂ {γ : Type*} {R : γ → α → Prop} {P : γ → Prop} {Q : α → Prop}
    {is : List γ} {xs : List α} (h : List.Forall₂ R is xs)
    (hiff : ∀ i x, R i x → (P i ↔ Q x)) : (∀ i ∈ is, P i) ↔ ∀ x ∈ xs, Q x := by
  induction h with
  | nil => simp
  | cons hix _ ih => rw [List.forall_mem_cons, List.forall_mem_cons, hiff _ _ hix, ih]

theorem exists_mem_iff_of_forall₂ {γ : Type*} {R : γ → α → Prop} {P : γ → Prop} {Q : α → Prop}
    {is : List γ} {xs : List α} (h : List.Forall₂ R is xs)
    (hiff : ∀ i x, R i x → (P i ↔ Q x)) : (∃ i ∈ is, P i) ↔ ∃ x ∈ xs, Q x := by
  have hforall := forall_mem_iff_of_forall₂ h fun i x hix => not_congr (hiff i x hix)
  rw [← not_iff_not]
  push Not
  exact hforall

theorem pairwise_iff_of_forall₂ {γ : Type*} {R : γ → α → Prop} {P : γ → γ → Prop}
    {Q : α → α → Prop} {is : List γ} {xs : List α} (h : List.Forall₂ R is xs)
    (hiff : ∀ i j x y, R i x → R j y → (P i j ↔ Q x y)) : is.Pairwise P ↔ xs.Pairwise Q := by
  induction h with
  | nil => exact iff_of_true .nil .nil
  | @cons i x is xs hix hrest ih =>
    rw [List.pairwise_cons, List.pairwise_cons, ih,
      forall_mem_iff_of_forall₂ hrest fun j y hjy => hiff i j x y hix hjy]

/-- No two results are similar exactly when no two families fit each other. -/
theorem Groups.apart_iff (hM : M.Groups G start parts Faithful) (hf : G.Families ps family) (s : σ) :
    (M.pass s (ps.map start)).1.Pairwise (fun x y => M.similar x y = false) ↔
      G.Apart ps family := by
  rw [Grouping.apart_iff]
  symm
  apply pairwise_iff_of_forall₂ (hM.pass hf s)
  rintro i j x y ⟨hx, hxp⟩ ⟨hy, hyp⟩
  rw [← Bool.not_eq_true, hM.similar hx hy]
  exact not_congr ⟨hM.alike hxp.symm hyp.symm, hM.alike hxp hyp⟩

end Merging
end Lib
