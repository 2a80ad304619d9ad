import Mathlib.Data.List.Perm.Basic
import Mathlib.Tactic.SplitIfs

/-! Vectors merged in place: what is similar to an element and stands behind it is merged into it
and marked, by two nested loops. -/
namespace Lib

/-- `merge` gives the merged element, what is left of the other one, and the new state. -/
structure Merging (α σ : Type*) where
  similar : α → α → Bool
  merge : α → α → σ → α × α × σ
  isMarked : α → Bool
  mark : α → α

namespace Merging

variable {α β σ : Type*} (M : Merging α σ)

/-- The inner loop. It does not look at the marks. -/
def behind (p : α) (s : σ) : List α → α × List α × σ
  | [] => (p, [], s)
  | q :: qs =>
    if M.similar p q then
      let (m, old, s) := M.merge p q s
      let (m, qs, s) := behind m s qs
      (m, M.mark old :: qs, s)
    else
      let (p, qs, s) := behind p s qs
      (p, q :: qs, s)

/-- The outer loop, at most `fuel` elements long. It drops what is marked. -/
def outer : Nat → σ → List α → List α × σ
  | 0, s, xs => (xs, s)
  | _, s, [] => ([], s)
  | fuel + 1, s, p :: ps =>
    if M.isMarked p then outer fuel s ps
    else
      let (p, ps, s) := M.behind p s ps
      let (ps, s) := outer fuel s ps
      (p :: ps, s)

def pass (s : σ) (xs : List α) : List α × σ := M.outer xs.length s xs

variable (Q : List α → α → α → σ → Prop)

/-- Each merge of the inner loop has the property; `left` are the results so far and the unmarked
elements that this loop has passed over. -/
def AtMergesBehind (left : List α) (p : α) (s : σ) : List α → Prop
  | [] => True
  | q :: qs =>
    if M.similar p q then
      Q left p q s ∧ AtMergesBehind left (M.merge p q s).1 (M.merge p q s).2.2 qs
    else AtMergesBehind (if M.isMarked q then left else q :: left) p s qs

def AtMergesOuter : Nat → List α → σ → List α → Prop
  | 0, _, _, _ => True
  | _, _, _, [] => True
  | fuel + 1, results, s, p :: ps =>
    if M.isMarked p then AtMergesOuter fuel results s ps
    else
      M.AtMergesBehind Q results p s ps ∧
        AtMergesOuter fuel ((M.behind p s ps).1 :: results) (M.behind p s ps).2.2
          (M.behind p s ps).2.1

/-- Each merge of the pass has the property. -/
def AtMerges (s : σ) (xs : List α) : Prop := M.AtMergesOuter Q xs.length [] s xs

instance AtMergesBehind.decidable [∀ left p q s, Decidable (Q left p q s)] (left : List α) (p : α)
    (s : σ) : (qs : List α) → Decidable (M.AtMergesBehind Q left p s qs)
  | [] => isTrue trivial
  | q :: qs =>
    have := AtMergesBehind.decidable left (M.merge p q s).1 (M.merge p q s).2.2 qs
    have := AtMergesBehind.decidable (if M.isMarked q then left else q :: left) p s qs
    inferInstanceAs (Decidable (if M.similar p q then _ else _))

instance AtMergesOuter.decidable [∀ left p q s, Decidable (Q left p q s)] :
    (fuel : Nat) → (results : List α) → (s : σ) → (xs : List α) →
      Decidable (M.AtMergesOuter Q fuel results s xs)
  | 0, _, _, _ => isTrue trivial
  | _ + 1, _, _, [] => isTrue trivial
  | fuel + 1, results, s, p :: ps =>
    have := AtMergesOuter.decidable fuel results s ps
    have := AtMergesOuter.decidable fuel ((M.behind p s ps).1 :: results) (M.behind p s ps).2.2
      (M.behind p s ps).2.1
    inferInstanceAs (Decidable (if M.isMarked p then _ else _))

instance AtMerges.decidable [∀ left p q s, Decidable (Q left p q s)] (s : σ) (xs : List α) :
    Decidable (M.AtMerges Q s xs) :=
  AtMergesOuter.decidable M Q xs.length [] s xs

variable {M Q}

/-! The loops unfolded -/

theorem behind_cons_of_similar {p q : α} (h : M.similar p q = true) (s : σ) (qs : List α) :
    M.behind p s (q :: qs) =
      ((M.behind (M.merge p q s).1 (M.merge p q s).2.2 qs).1,
        M.mark (M.merge p q s).2.1 :: (M.behind (M.merge p q s).1 (M.merge p q s).2.2 qs).2.1,
        (M.behind (M.merge p q s).1 (M.merge p q s).2.2 qs).2.2) :=
  if_pos h

theorem behind_cons_of_not_similar {p q : α} (h : ¬ M.similar p q = true) (s : σ) (qs : List α) :
    M.behind p s (q :: qs) =
      ((M.behind p s qs).1, q :: (M.behind p s qs).2.1, (M.behind p s qs).2.2) :=
  if_neg h

theorem outer_cons_of_marked {p : α} (h : M.isMarked p = true) (fuel : Nat) (s : σ) (ps : List α) :
    M.outer (fuel + 1) s (p :: ps) = M.outer fuel s ps :=
  if_pos h

theorem outer_cons_of_unmarked {p : α} (h : ¬ M.isMarked p = true) (fuel : Nat) (s : σ)
    (ps : List α) : M.outer (fuel + 1) s (p :: ps) =
      ((M.behind p s ps).1 :: (M.outer fuel (M.behind p s ps).2.2 (M.behind p s ps).2.1).1,
        (M.outer fuel (M.behind p s ps).2.2 (M.behind p s ps).2.1).2) :=
  if_neg h

theorem length_behind (p : α) (s : σ) (qs : List α) : (M.behind p s qs).2.1.length = qs.length := by
  induction qs generalizing p s with
  | nil => rfl
  | cons q qs ih =>
    by_cases h : M.similar p q = true
    · rw [behind_cons_of_similar h, List.length_cons, List.length_cons, ih]
    · rw [behind_cons_of_not_similar h, List.length_cons, List.length_cons, ih]

/-! Invariants of the vector -/

/-- A property of the vector, whatever its order, that is kept by the merges with `Q`. -/
structure KeptWhere (M : Merging α σ) (Q : List α → α → α → σ → Prop)
    (I : List α → σ → Prop) : Prop where
  perm {xs ys : List α} {s : σ} (h : xs.Perm ys) (hi : I xs s) : I ys s
  merge {left : List α} {p q : α} {rest : List α} {s : σ} (hp : ¬ M.isMarked p = true)
    (hpq : M.similar p q = true) (hq : Q left p q s) (hi : I (p :: q :: rest) s) :
    ¬ M.isMarked (M.merge p q s).1 = true ∧
      I ((M.merge p q s).1 :: M.mark (M.merge p q s).2.1 :: rest) (M.merge p q s).2.2

/-- A property kept by all merges. -/
abbrev Kept (M : Merging α σ) (I : List α → σ → Prop) : Prop := M.KeptWhere (fun _ _ _ _ => True) I

variable {I : List α → σ → Prop}

theorem KeptWhere.behind (hk : M.KeptWhere Q I) {left rest : List α} {p : α} {s : σ} {qs : List α}
    (hp : ¬ M.isMarked p = true) (hq : M.AtMergesBehind Q left p s qs)
    (hi : I (p :: (qs ++ rest)) s) : ¬ M.isMarked (M.behind p s qs).1 = true ∧
      I ((M.behind p s qs).1 :: ((M.behind p s qs).2.1 ++ rest)) (M.behind p s qs).2.2 := by
  induction qs generalizing left rest p s with
  | nil => exact ⟨hp, hi⟩
  | cons q qs ih =>
    unfold AtMergesBehind at hq
    by_cases h : M.similar p q = true
    · rw [if_pos h] at hq
      rw [behind_cons_of_similar h]
      obtain ⟨hm, hi'⟩ := hk.merge hp h hq.1 hi
      have hmoved : I ((M.merge p q s).1 :: (qs ++ M.mark (M.merge p q s).2.1 :: rest))
          (M.merge p q s).2.2 := hk.perm (List.perm_middle.symm.cons _) hi'
      obtain ⟨hm', hi''⟩ := ih hm hq.2 hmoved
      exact ⟨hm', hk.perm (List.perm_middle.cons _) hi''⟩
    · rw [if_neg h] at hq
      rw [behind_cons_of_not_similar h]
      have hmoved : I (p :: (qs ++ q :: rest)) s := hk.perm (List.perm_middle.symm.cons _) hi
      obtain ⟨hm', hi''⟩ := ih hp hq hmoved
      exact ⟨hm', hk.perm (List.perm_middle.cons _) hi''⟩

/-- What the pass leaves of a vector: its results, which are unmarked, and marked elements. -/
def Leaves (I : List α → σ → Prop) (M : Merging α σ) (rest : List α) (r : List α × σ) : Prop :=
  (∀ x ∈ r.1, ¬ M.isMarked x = true) ∧
    ∃ dropped, (∀ x ∈ dropped, M.isMarked x = true) ∧ I (r.1 ++ (dropped ++ rest)) r.2

theorem Leaves.cons {p : α} {rest ps : List α} {s : σ} (hp : ¬ M.isMarked p = true)
    (hk : ∀ {xs ys s}, xs.Perm ys → I xs s → I ys s) (h : Leaves I M (p :: rest) (ps, s)) :
    Leaves I M rest (p :: ps, s) := by
  obtain ⟨hunmarked, dropped, hdropped, hi⟩ := h
  constructor
  · intro x hx
    rcases List.mem_cons.mp hx with rfl | hx
    · exact hp
    · exact hunmarked x hx
  · refine ⟨dropped, hdropped, hk ?_ hi⟩
    rw [← List.append_assoc]
    exact List.perm_middle.trans (.of_eq (congrArg (p :: ·) (List.append_assoc _ _ _)))

theorem Leaves.dropped {p : α} {rest : List α} {r : List α × σ} (hp : M.isMarked p = true)
    (hk : ∀ {xs ys s}, xs.Perm ys → I xs s → I ys s) (h : Leaves I M (p :: rest) r) :
    Leaves I M rest r := by
  obtain ⟨hunmarked, dropped, hdropped, hi⟩ := h
  refine ⟨hunmarked, p :: dropped, ?_, hk ?_ hi⟩
  · intro x hx
    rcases List.mem_cons.mp hx with rfl | hx
    · exact hp
    · exact hdropped x hx
  · exact List.perm_middle.append_left r.1

theorem KeptWhere.outer (hk : M.KeptWhere Q I) {fuel : Nat} {results rest : List α} {s : σ}
    {xs : List α} (hfuel : xs.length ≤ fuel) (hq : M.AtMergesOuter Q fuel results s xs)
    (hi : I (xs ++ rest) s) : Leaves I M rest (M.outer fuel s xs) := by
  induction fuel generalizing results rest s xs with
  | zero =>
    obtain rfl := List.length_eq_zero_iff.mp (Nat.le_zero.mp hfuel)
    exact ⟨fun _ hx => absurd hx List.not_mem_nil, [], fun _ hx => absurd hx List.not_mem_nil, hi⟩
  | succ fuel ih =>
    cases xs with
    | nil =>
      exact ⟨fun _ hx => absurd hx List.not_mem_nil, [], fun _ hx => absurd hx List.not_mem_nil, hi⟩
    | cons p ps =>
      have hlength : ps.length ≤ fuel := Nat.le_of_succ_le_succ hfuel
      unfold AtMergesOuter at hq
      by_cases hp : M.isMarked p = true
      · rw [if_pos hp] at hq
        rw [outer_cons_of_marked hp]
        exact (ih hlength hq (hk.perm List.perm_middle.symm hi)).dropped hp hk.perm
      · rw [if_neg hp] at hq
        rw [outer_cons_of_unmarked hp]
        obtain ⟨hm, hi'⟩ := hk.behind hp hq.1 hi
        have hnext := ih (Nat.le_trans (Nat.le_of_eq (length_behind p s ps)) hlength) hq.2
          (hk.perm List.perm_middle.symm hi')
        exact hnext.cons hm hk.perm

theorem KeptWhere.pass (hk : M.KeptWhere Q I) {s : σ} {xs : List α} (hq : M.AtMerges Q s xs)
    (hi : I xs s) : Leaves I M [] (M.pass s xs) :=
  hk.outer (Nat.le_refl _) hq ((List.append_nil xs).symm ▸ hi)

/-- All merges of a pass are covered by a property without a condition. -/
theorem atMergesBehind_true (left : List α) (p : α) (s : σ) (qs : List α) :
    M.AtMergesBehind (fun _ _ _ _ => True) left p s qs := by
  induction qs generalizing left p s with
  | nil => trivial
  | cons q qs ih =>
    unfold AtMergesBehind
    split_ifs
    · exact ⟨trivial, ih _ _ _⟩
    · exact ih _ _ _
    · exact ih _ _ _

theorem atMergesOuter_true (fuel : Nat) (results : List α) (s : σ) (xs : List α) :
    M.AtMergesOuter (fun _ _ _ _ => True) fuel results s xs := by
  induction fuel generalizing results s xs with
  | zero => trivial
  | succ fuel ih =>
    cases xs with
    | nil => trivial
    | cons p ps =>
      unfold AtMergesOuter
      split_ifs
      · exact ih _ _ _
      · exact ⟨atMergesBehind_true _ _ _ _, ih _ _ _⟩

theorem Kept.pass (hk : M.Kept I) {s : σ} {xs : List α} (hi : I xs s) :
    Leaves I M [] (M.pass s xs) :=
  KeptWhere.pass hk (atMergesOuter_true _ _ _ _) hi

/-! Properties that a pass keeps exactly when all its merges satisfy `Q` -/

/-- A merge without `Q` takes the vector from `I` to `J`, and no merge takes it out of `J`. -/
structure Decides (M : Merging α σ) (Q : List α → α → α → σ → Prop) (I J : List α → σ → Prop) :
    Prop where
  kept : M.KeptWhere Q I
  spoilt : M.Kept J
  merge {left : List α} {p q : α} {rest : List α} {s : σ} (hp : ¬ M.isMarked p = true)
    (hpq : M.similar p q = true) (hq : ¬ Q left p q s) (hi : I (p :: q :: rest) s) :
    ¬ M.isMarked (M.merge p q s).1 = true ∧
      J ((M.merge p q s).1 :: M.mark (M.merge p q s).2.1 :: rest) (M.merge p q s).2.2

variable {J : List α → σ → Prop}

theorem Decides.behind (hd : M.Decides Q I J) {left rest : List α} {p : α} {s : σ} {qs : List α}
    (hp : ¬ M.isMarked p = true) (hq : ¬ M.AtMergesBehind Q left p s qs)
    (hi : I (p :: (qs ++ rest)) s) : ¬ M.isMarked (M.behind p s qs).1 = true ∧
      J ((M.behind p s qs).1 :: ((M.behind p s qs).2.1 ++ rest)) (M.behind p s qs).2.2 := by
  induction qs generalizing left rest p s with
  | nil => exact absurd trivial hq
  | cons q qs ih =>
    unfold AtMergesBehind at hq
    by_cases h : M.similar p q = true
    · rw [if_pos h] at hq
      rw [behind_cons_of_similar h]
      by_cases hqq : Q left p q s
      · obtain ⟨hm, hi'⟩ := hd.kept.merge hp h hqq hi
        have hmoved : I ((M.merge p q s).1 :: (qs ++ M.mark (M.merge p q s).2.1 :: rest))
            (M.merge p q s).2.2 := hd.kept.perm (List.perm_middle.symm.cons _) hi'
        obtain ⟨hm', hj⟩ := ih hm (fun hrest => hq ⟨hqq, hrest⟩) hmoved
        exact ⟨hm', hd.spoilt.perm (List.perm_middle.cons _) hj⟩
      · obtain ⟨hm, hj⟩ := hd.merge hp h hqq hi
        have hmoved : J ((M.merge p q s).1 :: (qs ++ M.mark (M.merge p q s).2.1 :: rest))
            (M.merge p q s).2.2 := hd.spoilt.perm (List.perm_middle.symm.cons _) hj
        obtain ⟨hm', hj'⟩ := hd.spoilt.behind hm (atMergesBehind_true left _ _ _) hmoved
        exact ⟨hm', hd.spoilt.perm (List.perm_middle.cons _) hj'⟩
    · rw [if_neg h] at hq
      rw [behind_cons_of_not_similar h]
      have hmoved : I (p :: (qs ++ q :: rest)) s := hd.kept.perm (List.perm_middle.symm.cons _) hi
      obtain ⟨hm', hj⟩ := ih hp hq hmoved
      exact ⟨hm', hd.spoilt.perm (List.perm_middle.cons _) hj⟩

theorem Decides.outer (hd : M.Decides Q I J) {fuel : Nat} {results rest : List α} {s : σ}
    {xs : List α} (hfuel : xs.length ≤ fuel) (hq : ¬ M.AtMergesOuter Q fuel results s xs)
    (hi : I (xs ++ rest) s) : Leaves J M rest (M.outer fuel s xs) := by
  induction fuel generalizing results rest s xs with
  | zero => exact absurd trivial hq
  | succ fuel ih =>
    cases xs with
    | nil => exact absurd trivial hq
    | cons p ps =>
      have hlength : ps.length ≤ fuel := Nat.le_of_succ_le_succ hfuel
      unfold AtMergesOuter at hq
      by_cases hp : M.isMarked p = true
      · rw [if_pos hp] at hq
        rw [outer_cons_of_marked hp]
        exact (ih hlength hq (hd.kept.perm List.perm_middle.symm hi)).dropped hp hd.spoilt.perm
      · rw [if_neg hp] at hq
        rw [outer_cons_of_unmarked hp]
        have hlength' := Nat.le_trans (Nat.le_of_eq (length_behind (M := M) p s ps)) hlength
        by_cases hbehind : M.AtMergesBehind Q results p s ps
        · obtain ⟨hm, hi'⟩ := hd.kept.behind hp hbehind hi
          have hnext := ih hlength' (fun houter => hq ⟨hbehind, houter⟩)
            (hd.kept.perm List.perm_middle.symm hi')
          exact hnext.cons hm hd.spoilt.perm
        · obtain ⟨hm, hj⟩ := hd.behind hp hbehind hi
          have hnext := hd.spoilt.outer hlength' (atMergesOuter_true _ [] _ _)
            (hd.spoilt.perm List.perm_middle.symm hj)
          exact hnext.cons hm hd.spoilt.perm

theorem Decides.pass (hd : M.Decides Q I J) {s : σ} {xs : List α} (hq : ¬ M.AtMerges Q s xs)
    (hi : I xs s) : Leaves J M [] (M.pass s xs) :=
  hd.outer (Nat.le_refl _) hq ((List.append_nil xs).symm ▸ hi)

/-! Properties of the single elements -/

/-- A property of the elements that the merges keep. -/
structure KeepsEach (M : Merging α σ) (P : α → Prop) : Prop where
  merge {p q : α} {s : σ} (hp : P p) (hq : P q) (hpq : M.similar p q = true) :
    P (M.merge p q s).1 ∧ P (M.mark (M.merge p q s).2.1)

variable {P : α → Prop}

theorem KeepsEach.behind (hk : M.KeepsEach P) {p : α} {s : σ} {qs : List α} (hp : P p)
    (hqs : ∀ q ∈ qs, P q) : P (M.behind p s qs).1 ∧ ∀ x ∈ (M.behind p s qs).2.1, P x := by
  induction qs generalizing p s with
  | nil => exact ⟨hp, hqs⟩
  | cons q qs ih =>
    obtain ⟨hq, hrest⟩ := List.forall_mem_cons.mp hqs
    by_cases h : M.similar p q = true
    · rw [behind_cons_of_similar h]
      obtain ⟨hm, hold⟩ := hk.merge (s := s) hp hq h
      obtain ⟨hp', hqs'⟩ := ih (s := (M.merge p q s).2.2) hm hrest
      exact ⟨hp', List.forall_mem_cons.mpr ⟨hold, hqs'⟩⟩
    · rw [behind_cons_of_not_similar h]
      obtain ⟨hp', hqs'⟩ := ih (s := s) hp hrest
      exact ⟨hp', List.forall_mem_cons.mpr ⟨hq, hqs'⟩⟩

theorem KeepsEach.outer (hk : M.KeepsEach P) {fuel : Nat} {s : σ} {xs : List α}
    (hxs : ∀ x ∈ xs, P x) : ∀ x ∈ (M.outer fuel s xs).1, P x := by
  induction fuel generalizing s xs with
  | zero => exact hxs
  | succ fuel ih =>
    cases xs with
    | nil => exact hxs
    | cons p ps =>
      obtain ⟨hp, hps⟩ := List.forall_mem_cons.mp hxs
      by_cases hmarked : M.isMarked p = true
      · rw [outer_cons_of_marked hmarked]
        exact ih hps
      · rw [outer_cons_of_unmarked hmarked]
        obtain ⟨hp', hps'⟩ := hk.behind (s := s) hp hps
        exact List.forall_mem_cons.mpr ⟨hp', ih hps'⟩

theorem KeepsEach.pass (hk : M.KeepsEach P) {s : σ} {xs : List α} (hxs : ∀ x ∈ xs, P x) :
    ∀ x ∈ (M.pass s xs).1, P x :=
  hk.outer hxs

/-! What is left apart -/

/-- A property of the elements under which nothing becomes similar to an element because it is
merged. -/
structure KeepsApart (M : Merging α σ) (P : α → Prop) : Prop extends KeepsEach M P where
  symm (x y : α) : M.similar x y = M.similar y x
  marked (x : α) : M.isMarked (M.mark x) = true
  apart {x p q : α} {s : σ} (hx : P x) (hp : P p) (hq : P q) (hpq : M.similar p q = true)
    (hxp : M.similar x p = false) : M.similar x (M.merge p q s).1 = false

theorem KeepsApart.behind (hk : M.KeepsApart P) {p : α} {s : σ} {qs : List α} (hp : P p)
    (hqs : ∀ q ∈ qs, P q) :
    (∀ x, P x → M.similar x p = false → M.similar x (M.behind p s qs).1 = false) ∧
      ∀ x ∈ (M.behind p s qs).2.1, M.isMarked x = false →
        x ∈ qs ∧ M.similar x (M.behind p s qs).1 = false := by
  induction qs generalizing p s with
  | nil => exact ⟨fun _ _ h => h, fun _ hx => absurd hx List.not_mem_nil⟩
  | cons q qs ih =>
    obtain ⟨hq, hrest⟩ := List.forall_mem_cons.mp hqs
    by_cases h : M.similar p q = true
    · rw [behind_cons_of_similar h]
      have hm := (hk.merge (s := s) hp hq h).1
      obtain ⟨hapart, hpassed⟩ := ih (s := (M.merge p q s).2.2) hm hrest
      refine ⟨fun x hx hxp => ?_, fun x hx hunmarked => ?_⟩
      · exact hapart x hx (hk.apart hx hp hq h hxp)
      · rcases List.mem_cons.mp hx with rfl | hx
        · cases hunmarked.symm.trans (hk.marked _)
        · obtain ⟨hmem, hxp⟩ := hpassed x hx hunmarked
          exact ⟨List.mem_cons_of_mem q hmem, hxp⟩
    · rw [behind_cons_of_not_similar h]
      obtain ⟨hapart, hpassed⟩ := ih (s := s) hp hrest
      refine ⟨hapart, fun x hx hunmarked => ?_⟩
      rcases List.mem_cons.mp hx with rfl | hx
      · refine ⟨List.mem_cons_self, hapart x hq ?_⟩
        rw [hk.symm]
        exact Bool.eq_false_iff.mpr h
      · obtain ⟨hmem, hxp⟩ := hpassed x hx hunmarked
        exact ⟨List.mem_cons_of_mem q hmem, hxp⟩

theorem KeepsApart.outer (hk : M.KeepsApart P) {fuel : Nat} {s : σ} {xs : List α}
    (hfuel : xs.length ≤ fuel) (hxs : ∀ x ∈ xs, P x) :
    (M.outer fuel s xs).1.Pairwise (fun x y => M.similar x y = false) ∧
      ∀ x, P x → (∀ y ∈ xs, M.isMarked y = false → M.similar x y = false) →
        ∀ y ∈ (M.outer fuel s xs).1, M.similar x y = false := by
  induction fuel generalizing s xs with
  | zero =>
    obtain rfl := List.length_eq_zero_iff.mp (Nat.le_zero.mp hfuel)
    exact ⟨.nil, fun _ _ _ _ hy => absurd hy List.not_mem_nil⟩
  | succ fuel ih =>
    cases xs with
    | nil => exact ⟨.nil, fun _ _ _ _ hy => absurd hy List.not_mem_nil⟩
    | cons p ps =>
      have hlength : ps.length ≤ fuel := Nat.le_of_succ_le_succ hfuel
      obtain ⟨hp, hps⟩ := List.forall_mem_cons.mp hxs
      by_cases hmarked : M.isMarked p = true
      · rw [outer_cons_of_marked hmarked]
        obtain ⟨hpairwise, hapart⟩ := ih (s := s) hlength hps
        exact ⟨hpairwise, fun x hx h => hapart x hx fun y hy => h y (List.mem_cons_of_mem p hy)⟩
      · rw [outer_cons_of_unmarked hmarked]
        obtain ⟨hp', hps'⟩ := hk.toKeepsEach.behind (s := s) hp hps
        obtain ⟨hkept, hpassed⟩ := hk.behind (s := s) hp hps
        have hlength' := Nat.le_trans (Nat.le_of_eq (length_behind (M := M) p s ps)) hlength
        obtain ⟨hpairwise, hapart⟩ := ih (s := (M.behind p s ps).2.2) hlength' hps'
        constructor
        · rw [List.pairwise_cons]
          refine ⟨hapart _ hp' fun y hy hunmarked => ?_, hpairwise⟩
          rw [hk.symm]
          exact (hpassed y hy hunmarked).2
        · intro x hx h y hy
          rcases List.mem_cons.mp hy with rfl | hy
          · exact hkept x hx (h p List.mem_cons_self (Bool.eq_false_iff.mpr hmarked))
          · refine hapart x hx (fun z hz hunmarked => ?_) y hy
            exact h z (List.mem_cons_of_mem p (hpassed z hz hunmarked).1) hunmarked

/-- No two results are similar when no merge makes its element similar to another. -/
theorem KeepsApart.pass (hk : M.KeepsApart P) {s : σ} {xs : List α} (hxs : ∀ x ∈ xs, P x) :
    (M.pass s xs).1.Pairwise fun x y => M.similar x y = false :=
  (hk.outer (Nat.le_refl _) hxs).1

/-- Nothing is merged where no two elements are similar. -/
theorem atMerges_of_apart {s : σ} {xs : List α} (h : xs.Pairwise fun x y => M.similar x y = false) :
    M.AtMerges Q s xs := by
  have hbehind : ∀ {left : List α} {p : α} {s : σ} {qs : List α},
      (∀ q ∈ qs, M.similar p q = false) →
        M.AtMergesBehind Q left p s qs ∧ M.behind p s qs = (p, qs, s) := by
    intro left p s qs hqs
    induction qs generalizing left with
    | nil => exact ⟨trivial, rfl⟩
    | cons q qs ih =>
      have hq : ¬ M.similar p q = true := Bool.eq_false_iff.mp (hqs q List.mem_cons_self)
      have hrest : ∀ q ∈ qs, M.similar p q = false := fun x hx => hqs x (List.mem_cons_of_mem q hx)
      unfold AtMergesBehind
      rw [if_neg hq, behind_cons_of_not_similar hq]
      have hnext : M.AtMergesBehind Q (if M.isMarked q then left else q :: left) p s qs ∧
          M.behind p s qs = (p, qs, s) := ih hrest
      obtain ⟨hmerges, heq⟩ := hnext
      rw [heq]
      exact ⟨hmerges, rfl⟩
  have houter : ∀ fuel (results : List α) (s : σ) (xs : List α),
      xs.Pairwise (fun x y => M.similar x y = false) → M.AtMergesOuter Q fuel results s xs := by
    intro fuel
    induction fuel with
    | zero => exact fun _ _ _ _ => trivial
    | succ fuel ih =>
      intro results s xs h
      cases xs with
      | nil => trivial
      | cons p ps =>
        obtain ⟨hp, hps⟩ := List.pairwise_cons.mp h
        have hinner : M.AtMergesBehind Q results p s ps ∧ M.behind p s ps = (p, ps, s) := hbehind hp
        obtain ⟨hmerges, heq⟩ := hinner
        unfold AtMergesOuter
        rw [heq]
        split_ifs
        · exact ih results s ps hps
        · exact ⟨hmerges, ih (p :: results) s ps hps⟩
  exact houter _ [] s xs h

/-! Vectors with more data -/

/-- The merging of the larger elements does to the smaller ones what `M` does. -/
structure Maps (f : β → α) (N : Merging β σ) (M : Merging α σ) : Prop where
  similar (p q : β) : N.similar p q = M.similar (f p) (f q)
  merge (p q : β) (s : σ) : M.merge (f p) (f q) s =
    (f (N.merge p q s).1, f (N.merge p q s).2.1, (N.merge p q s).2.2)
  isMarked (p : β) : N.isMarked p = M.isMarked (f p)
  mark (p : β) : f (N.mark p) = M.mark (f p)

variable {f : β → α} {N : Merging β σ}

theorem Maps.behind (hf : Maps f N M) (p : β) (s : σ) (qs : List β) :
    M.behind (f p) s (qs.map f) =
      (f (N.behind p s qs).1, (N.behind p s qs).2.1.map f, (N.behind p s qs).2.2) := by
  induction qs generalizing p s with
  | nil => rfl
  | cons q qs ih =>
    rw [List.map_cons]
    by_cases h : N.similar p q = true
    · have h' : M.similar (f p) (f q) = true := hf.similar p q ▸ h
      rw [behind_cons_of_similar h, behind_cons_of_similar h', hf.merge]
      dsimp only
      rw [ih, List.map_cons, hf.mark]
    · have h' : ¬ M.similar (f p) (f q) = true := hf.similar p q ▸ h
      rw [behind_cons_of_not_similar h, behind_cons_of_not_similar h', ih, List.map_cons]

theorem Maps.outer (hf : Maps f N M) (fuel : Nat) (s : σ) (xs : List β) :
    M.outer fuel s (xs.map f) = ((N.outer fuel s xs).1.map f, (N.outer fuel s xs).2) := by
  induction fuel generalizing s xs with
  | zero => rfl
  | succ fuel ih =>
    cases xs with
    | nil => rfl
    | cons p ps =>
      rw [List.map_cons]
      by_cases hp : N.isMarked p = true
      · have hp' : M.isMarked (f p) = true := hf.isMarked p ▸ hp
        rw [outer_cons_of_marked hp, outer_cons_of_marked hp', ih]
      · have hp' : ¬ M.isMarked (f p) = true := hf.isMarked p ▸ hp
        rw [outer_cons_of_unmarked hp, outer_cons_of_unmarked hp', hf.behind]
        dsimp only
        rw [ih, List.map_cons]

theorem Maps.pass (hf : Maps f N M) (s : σ) (xs : List β) :
    M.pass s (xs.map f) = ((N.pass s xs).1.map f, (N.pass s xs).2) := by
  unfold Merging.pass
  rw [List.length_map]
  exact hf.outer _ s xs

theorem Maps.atMergesBehind (hf : Maps f N M) (left : List β) (p : β) (s : σ) (qs : List β) :
    M.AtMergesBehind Q (left.map f) (f p) s (qs.map f) ↔
      N.AtMergesBehind (fun left p q s => Q (left.map f) (f p) (f q) s) left p s qs := by
  induction qs generalizing left p s with
  | nil => rfl
  | cons q qs ih =>
    rw [List.map_cons]
    unfold AtMergesBehind
    rw [hf.merge, ← hf.similar, ← hf.isMarked]
    split_ifs
    · exact and_congr_right fun _ => ih left _ _
    · exact ih left p s
    · exact ih (q :: left) p s

theorem Maps.atMergesOuter (hf : Maps f N M) (fuel : Nat) (results : List β) (s : σ)
    (xs : List β) : M.AtMergesOuter Q fuel (results.map f) s (xs.map f) ↔
      N.AtMergesOuter (fun left p q s => Q (left.map f) (f p) (f q) s) fuel results s xs := by
  induction fuel generalizing results s xs with
  | zero => rfl
  | succ fuel ih =>
    cases xs with
    | nil => rfl
    | cons p ps =>
      rw [List.map_cons]
      unfold AtMergesOuter
      rw [hf.behind, ← hf.isMarked]
      split_ifs
      · exact ih results s ps
      · exact and_congr (hf.atMergesBehind results p s ps) (ih (_ :: results) _ _)

theorem Maps.atMerges (hf : Maps f N M) (s : σ) (xs : List β) :
    M.AtMerges Q s (xs.map f) ↔
      N.AtMerges (fun left p q s => Q (left.map f) (f p) (f q) s) s xs := by
  unfold AtMerges
  rw [List.length_map]
  exact hf.atMergesOuter _ [] s xs

end Merging
end Lib
