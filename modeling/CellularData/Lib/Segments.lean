import Mathlib.Data.List.Basic
import Mathlib.Tactic.SplitIfs

/-! The segments of a list between delimiters, when a delimiter at the end opens no further
segment. -/
namespace Lib

variable {α : Type*} [DecidableEq α] {d : α} {xs ys segment : List α}

theorem notMem_of_mem_splitOn (h : segment ∈ xs.splitOn d) : d ∉ segment := by
  induction xs generalizing segment with
  | nil => simp_all
  | cons x xs ih =>
    rw [List.splitOn_cons_eq_if_modifyHead] at h
    obtain ⟨first, rest, hrest⟩ := List.exists_cons_of_ne_nil (List.splitOn_ne_nil d xs)
    split_ifs at h with hx
    · rcases List.mem_cons.mp h with rfl | hmem
      · exact List.not_mem_nil
      · exact ih hmem
    · rw [hrest, List.modifyHead_cons, List.mem_cons] at h
      rw [hrest] at ih
      rcases h with rfl | hmem
      · have hfirst : d ∉ first := ih List.mem_cons_self
        have hne : d ≠ x := fun heq => hx (beq_iff_eq.mpr heq.symm)
        rw [List.mem_cons, not_or]
        exact ⟨hne, hfirst⟩
      · exact ih (List.mem_cons_of_mem _ hmem)

theorem length_splitOn (d : α) (xs : List α) : (xs.splitOn d).length = xs.count d + 1 := by
  induction xs with
  | nil => rfl
  | cons x xs ih =>
    rw [List.splitOn_cons_eq_if_modifyHead, List.count_cons]
    split_ifs with hx
    · rw [List.length_cons, ih]
    · rw [List.length_modifyHead, ih, Nat.add_zero]

/-- The segments before each delimiter, and the rest unless it is empty. -/
def segments (d : α) (xs : List α) : List (List α) :=
  if xs = [] then []
  else if xs.getLast? = some d then xs.dropLast.splitOn d
  else xs.splitOn d

@[simp] theorem segments_nil : segments d [] = [] := rfl

theorem segments_concat (d : α) (xs : List α) : segments d (xs ++ [d]) = xs.splitOn d := by
  unfold segments
  rw [if_neg (by simp), if_pos (by simp), List.dropLast_concat]

theorem segments_of_getLast?_ne (hne : xs ≠ []) (hlast : xs.getLast? ≠ some d) :
    segments d xs = xs.splitOn d := by
  unfold segments
  rw [if_neg hne, if_neg hlast]

/-- A list is empty, ends with the delimiter, or ends with something else. -/
theorem segments_cases (d : α) (xs : List α) :
    xs = [] ∨ (∃ ys, xs = ys ++ [d]) ∨ xs ≠ [] ∧ xs.getLast? ≠ some d := by
  by_cases hne : xs = []
  · exact .inl hne
  by_cases hlast : xs.getLast? = some d
  · exact .inr (.inl (List.getLast?_eq_some_iff.mp hlast))
  · exact .inr (.inr ⟨hne, hlast⟩)

theorem segments_of_notMem (h : d ∉ xs) : segments d xs = if xs = [] then [] else [xs] := by
  split_ifs with hne
  · rw [hne, segments_nil]
  · have hlast : xs.getLast? ≠ some d := fun heq => h (List.mem_of_getLast? heq)
    rw [segments_of_getLast?_ne hne hlast, List.splitOn_eq_singleton h]

theorem segments_append (d : α) (xs ys : List α) :
    segments d (xs ++ d :: ys) = xs.splitOn d ++ segments d ys := by
  rcases segments_cases d ys with rfl | ⟨zs, rfl⟩ | ⟨hne, hlast⟩
  · rw [segments_concat, segments_nil, List.append_nil]
  · have hassoc : xs ++ d :: (zs ++ [d]) = (xs ++ d :: zs) ++ [d] := by simp
    rw [hassoc, segments_concat, segments_concat, List.splitOn_append_cons_self]
  · have hlast' : (xs ++ d :: ys).getLast? ≠ some d := by
      rwa [List.getLast?_append_cons, List.getLast?_cons_of_ne_nil hne]
    rw [segments_of_getLast?_ne hne hlast, segments_of_getLast?_ne (by simp) hlast',
      List.splitOn_append_cons_self]

theorem segments_append_cons (h : d ∉ xs) :
    segments d (xs ++ d :: ys) = xs :: segments d ys := by
  rw [segments_append, List.splitOn_eq_singleton h, List.singleton_append]

/-- Only an empty piece at the end is no segment. -/
theorem splitOn_eq_segments (d : α) (xs : List α) :
    xs.splitOn d = segments d xs ∨ xs.splitOn d = segments d xs ++ [[]] := by
  rcases segments_cases d xs with rfl | ⟨ys, rfl⟩ | ⟨hne, hlast⟩
  · right
    rfl
  · right
    rw [segments_concat, List.splitOn_append_cons_self, List.splitOn_nil]
  · left
    rw [segments_of_getLast?_ne hne hlast]

theorem notMem_of_mem_segments (h : segment ∈ segments d xs) : d ∉ segment := by
  unfold segments at h
  split_ifs at h with hne hlast
  · simp at h
  · exact notMem_of_mem_splitOn h
  · exact notMem_of_mem_splitOn h

theorem length_segments (d : α) (xs : List α) : (segments d xs).length =
    if xs = [] then 0 else if xs.getLast? = some d then xs.count d else xs.count d + 1 := by
  rcases segments_cases d xs with rfl | ⟨ys, rfl⟩ | ⟨hne, hlast⟩
  · rfl
  · rw [segments_concat, length_splitOn, if_neg (by simp), if_pos (by simp), List.count_append,
      List.count_singleton_self]
  · rw [segments_of_getLast?_ne hne hlast, length_splitOn, if_neg hne, if_neg hlast]

/-- Joining the segments gives the list back up to the delimiter at its end. -/
theorem intercalate_segments (d : α) (xs : List α) :
    [d].intercalate (segments d xs) ++ (if xs.getLast? = some d then [d] else []) = xs := by
  rcases segments_cases d xs with rfl | ⟨ys, rfl⟩ | ⟨hne, hlast⟩
  · rfl
  · rw [segments_concat, List.intercalate_splitOn, if_pos (by simp)]
  · rw [segments_of_getLast?_ne hne hlast, List.intercalate_splitOn, if_neg hlast,
      List.append_nil]

omit [DecidableEq α] in
theorem mem_intercalate {x : α} {pieces : List (List α)} (h : segment ∈ pieces) (hx : x ∈ segment) :
    x ∈ xs.intercalate pieces := by
  induction pieces with
  | nil => exact absurd h List.not_mem_nil
  | cons piece pieces ih =>
    cases pieces with
    | nil =>
      rw [List.mem_singleton] at h
      subst h
      simpa using hx
    | cons next rest =>
      rw [List.intercalate_cons_cons, List.append_assoc, List.mem_append, List.mem_append]
      rcases List.mem_cons.mp h with rfl | h
      · exact .inl hx
      · exact .inr (.inr (ih h))

/-- What stands in a segment stands in the list. -/
theorem mem_of_mem_segments {x : α} (h : segment ∈ segments d xs) (hx : x ∈ segment) : x ∈ xs := by
  have hjoined := intercalate_segments d xs
  have hmem : x ∈ [d].intercalate (segments d xs) := mem_intercalate h hx
  rw [← hjoined]
  exact List.mem_append_left _ hmem

/-- The text of `n` equal segments, each ended by a delimiter. -/
theorem segments_flatten_replicate (h : d ∉ xs) (n : Nat) :
    segments d (List.replicate n (xs ++ [d])).flatten = List.replicate n xs := by
  induction n with
  | zero => rfl
  | succ n ih =>
    rw [List.replicate_succ, List.flatten_cons, List.append_assoc, List.singleton_append,
      segments_append_cons h, ih, List.replicate_succ]

omit [DecidableEq α] in
/-- What holds no delimiter stands on one side of it. -/
theorem infix_append_cons_iff (h : d ∉ segment) :
    segment <:+: xs ++ d :: ys ↔ segment <:+: xs ∨ segment <:+: ys := by
  constructor
  · rintro ⟨before, after, heq⟩
    rcases List.append_eq_append_iff.mp heq with ⟨rest, hxs, hafter⟩ | ⟨rest, hbefore, hrest⟩
    · exact .inl ⟨before, rest, hxs.symm⟩
    · cases rest with
      | nil => exact .inl ⟨before, [], by rw [List.append_nil, hbefore, List.append_nil]⟩
      | cons c rest =>
        obtain ⟨rfl, rfl⟩ := List.cons.inj hrest
        rcases List.append_eq_append_iff.mp hbefore with ⟨rest', -, hmem⟩ | ⟨rest', -, hrest'⟩
        · rw [hmem] at h
          exact absurd (List.mem_append_right rest' List.mem_cons_self) h
        · cases rest' with
          | nil =>
            rw [← List.nil_append segment, ← hrest'] at h
            exact absurd List.mem_cons_self h
          | cons c' rest' =>
            obtain ⟨-, rfl⟩ := List.cons.inj hrest'
            exact .inr ⟨rest', after, rfl⟩
  · rintro (⟨before, after, rfl⟩ | ⟨before, after, rfl⟩)
    · exact ⟨before, after ++ d :: ys, by simp⟩
    · exact ⟨xs ++ d :: before, after, by simp⟩

end Lib
