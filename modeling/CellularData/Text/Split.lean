import CellularData.Lib.Segments
import CellularData.Text.Address

/-! `Split`: the loop over the positions of the delimiter, and what the segments are. -/
namespace CellularData
open Lib

/-- `input.find(flag, start)`, given the text from `start` on. -/
def findFrom (flag : List Char) : List Char → Nat → Option Nat
  | [], start => if flag = [] then some start else none
  | c :: cs, start =>
    if flag.isPrefixOf (c :: cs) then some start else findFrom flag cs (start + 1)

/-- The loop of `Split`; `none` when it has not ended after `fuel` searches. -/
def splitLoop (input flag : List Char) : Nat → Nat → List String → Option (List String)
  | 0, _, _ => none
  | fuel + 1, start, vec =>
    match findFrom flag (input.drop start) start with
    | some pos =>
      let segment := (input.drop start).take (pos - start)
      splitLoop input flag fuel (pos + flag.length) (vec ++ [String.ofList segment])
    | none =>
      if start ≠ input.length then some (vec ++ [String.ofList (input.drop start)]) else some vec

/-- `Split` with a delimiter text of any length. -/
def splitWithin (fuel : Nat) (input flag : String) : Option (List String) :=
  if input = "" then some [] else splitLoop input.toList flag.toList fuel 0 []

variable {input : String} {flag c : Char} {cs xs ys : List Char} {start fuel : Nat}

theorem splitFrom_cons (flag : Char) (segment : List Char) (c : Char) (cs : List Char) :
    splitFrom flag segment (c :: cs) =
      if c = flag then String.ofList segment.reverse :: splitFrom flag [] cs
      else splitFrom flag (c :: segment) cs :=
  rfl

theorem splitFrom_eq_segments {segment : List Char} (hsegment : flag ∉ segment) :
    splitFrom flag segment cs = (segments flag (segment.reverse ++ cs)).map String.ofList := by
  induction cs generalizing segment with
  | nil =>
    have hreverse : flag ∉ segment.reverse := by rwa [List.mem_reverse]
    rw [List.append_nil, segments_of_notMem hreverse]
    unfold splitFrom
    by_cases hnil : segment = []
    · rw [if_pos hnil, if_pos (List.reverse_eq_nil_iff.mpr hnil)]
      rfl
    · rw [if_neg hnil, if_neg fun h => hnil (List.reverse_eq_nil_iff.mp h)]
      rfl
  | cons c cs ih =>
    rw [splitFrom_cons]
    split_ifs with hc
    · subst hc
      have hreverse : c ∉ segment.reverse := by rwa [List.mem_reverse]
      rw [ih List.not_mem_nil, segments_append_cons hreverse, List.map_cons]
      rfl
    · have hmem : flag ∉ c :: segment := by
        rw [List.mem_cons, not_or]
        exact ⟨fun heq => hc heq.symm, hsegment⟩
      rw [ih hmem, List.reverse_cons, List.append_assoc, List.singleton_append]

theorem split_eq_segments (input : String) (flag : Char) :
    split input flag = (segments flag input.toList).map String.ofList :=
  splitFrom_eq_segments List.not_mem_nil

theorem findFrom_singleton_cons (flag c : Char) (cs : List Char) (start : Nat) :
    findFrom [flag] (c :: cs) start =
      if flag = c then some start else findFrom [flag] cs (start + 1) := by
  simp [findFrom, List.isPrefixOf]

theorem findFrom_of_notMem (h : flag ∉ cs) : findFrom [flag] cs start = none := by
  induction cs generalizing start with
  | nil => rfl
  | cons c cs ih =>
    rw [List.mem_cons, not_or] at h
    rw [findFrom_singleton_cons, if_neg h.1, ih h.2]

theorem findFrom_append_cons (h : flag ∉ xs) :
    findFrom [flag] (xs ++ flag :: ys) start = some (start + xs.length) := by
  induction xs generalizing start with
  | nil => rw [List.nil_append, findFrom_singleton_cons, if_pos rfl, List.length_nil, Nat.add_zero]
  | cons x xs ih =>
    rw [List.mem_cons, not_or] at h
    rw [List.cons_append, findFrom_singleton_cons, if_neg h.1, ih h.2, List.length_cons,
      Nat.add_assoc, Nat.add_comm 1]

/-- One search a delimiter and one that finds none. -/
theorem splitLoop_eq_segments (input : List Char) (start : Nat) (vec : List String)
    (hfuel : (input.drop start).count flag < fuel) (hstart : start ≤ input.length) :
    splitLoop input [flag] fuel start vec =
      some (vec ++ (segments flag (input.drop start)).map String.ofList) := by
  induction fuel generalizing start vec with
  | zero => omega
  | succ fuel ih =>
    unfold splitLoop
    by_cases hmem : flag ∈ input.drop start
    · obtain ⟨xs, ys, hrest, hxs⟩ := List.eq_append_cons_of_mem hmem
      have hnext : input.drop (start + xs.length + 1) = ys := by
        rw [Nat.add_assoc, ← List.drop_drop, hrest]
        simp
      have hlength := congrArg List.length hrest
      rw [List.length_drop, List.length_append, List.length_cons] at hlength
      rw [hrest, List.count_append, List.count_cons_self] at hfuel
      rw [hrest, findFrom_append_cons hxs]
      show splitLoop input [flag] fuel (start + xs.length + 1) (vec ++ [_]) = _
      rw [ih _ _ (by rw [hnext]; omega) (by omega), hnext, segments_append_cons hxs,
        Nat.add_sub_cancel_left, List.take_left, List.map_cons, List.append_assoc,
        List.singleton_append]
    · rw [findFrom_of_notMem hmem, segments_of_notMem hmem]
      simp only [List.drop_eq_nil_iff]
      by_cases hend : start = input.length
      · simp [hend]
      · rw [if_pos hend, if_neg (by omega), List.map_singleton]

theorem splitWithin_eq_split (hfuel : input.toList.count flag < fuel) :
    splitWithin fuel input (String.singleton flag) = some (split input flag) := by
  unfold splitWithin
  rw [split_eq_segments]
  split_ifs with hinput
  · subst hinput
    rfl
  · have hsearches : (input.toList.drop 0).count flag < fuel := by rwa [List.drop_zero]
    rw [String.toList_singleton, splitLoop_eq_segments input.toList 0 [] hsearches (Nat.zero_le _),
      List.nil_append, List.drop_zero]

/-- With an empty delimiter each search finds the position where it starts. -/
theorem splitLoop_empty_flag (input : List Char) (fuel start : Nat) (vec : List String) :
    splitLoop input [] fuel start vec = none := by
  induction fuel generalizing start vec with
  | zero => rfl
  | succ fuel ih =>
    have hfind : findFrom [] (input.drop start) start = some start := by
      cases input.drop start with
      | nil => rfl
      | cons c cs => rfl
    unfold splitLoop
    rw [hfind]
    exact ih _ _

/-- The input can be put together again from the segments. -/
structure Inverts (input : String) (flag : Char) (segments : List String) : Prop where
  flag_free : ∀ segment ∈ segments, flag ∉ segment.toList
  joined : (String.singleton flag).intercalate segments ++
    (if input.toList.getLast? = some flag then String.singleton flag else "") = input
  count : segments.length =
    if input = "" then 0
    else if input.toList.getLast? = some flag then input.toList.count flag
    else input.toList.count flag + 1

theorem flag_notMem_of_mem_split {segment : String} (h : segment ∈ split input flag) :
    flag ∉ segment.toList := by
  rw [split_eq_segments] at h
  obtain ⟨chars, hchars, rfl⟩ := List.mem_map.mp h
  rw [String.toList_ofList]
  exact notMem_of_mem_segments hchars

theorem mem_of_mem_split {segment : String} (h : segment ∈ split input flag)
    (hc : c ∈ segment.toList) : c ∈ input.toList := by
  rw [split_eq_segments] at h
  obtain ⟨chars, hchars, rfl⟩ := List.mem_map.mp h
  rw [String.toList_ofList] at hc
  exact mem_of_mem_segments hchars hc

theorem intercalate_split (input : String) (flag : Char) :
    (String.singleton flag).intercalate (split input flag) ++
      (if input.toList.getLast? = some flag then String.singleton flag else "") = input := by
  rw [← String.toList_inj, String.toList_append, String.toList_intercalate, split_eq_segments,
    List.map_map, String.toList_singleton]
  have hid : String.toList ∘ String.ofList = id := funext fun cs => String.toList_ofList
  have hlast : (if input.toList.getLast? = some flag then String.singleton flag else "").toList =
      if input.toList.getLast? = some flag then [flag] else [] := by
    split_ifs
    · exact String.toList_singleton flag
    · rfl
  rw [hid, List.map_id, hlast]
  exact intercalate_segments flag input.toList

theorem length_split (input : String) (flag : Char) : (split input flag).length =
    if input = "" then 0
    else if input.toList.getLast? = some flag then input.toList.count flag
    else input.toList.count flag + 1 := by
  rw [split_eq_segments, List.length_map, length_segments]
  simp only [String.toList_eq_nil_iff]

/-- The loop ends after one search more than there are delimiters, and nothing is lost. -/
theorem split_invertible (input : String) (flag : Char) : ∃ segments,
    (∀ n, splitWithin (input.toList.count flag + 1 + n) input (String.singleton flag) =
      some segments) ∧ Inverts input flag segments := by
  refine ⟨split input flag, ?_, ?_⟩
  · intro n
    apply splitWithin_eq_split
    omega
  · exact ⟨fun _ => flag_notMem_of_mem_split, intercalate_split input flag,
      length_split input flag⟩

/-! The segments of a joined text -/

theorem split_join (a b : String) :
    split (a ++ "," ++ b) ',' = split a ',' ++ split b ',' ∨
      split (a ++ "," ++ b) ',' = split a ',' ++ [""] ++ split b ',' := by
  have htext : (a ++ "," ++ b).toList = a.toList ++ ',' :: b.toList := by simp
  simp only [split_eq_segments]
  rw [htext, segments_append, List.map_append]
  rcases splitOn_eq_segments ',' a.toList with heq | heq
  · left
    rw [heq]
  · right
    rw [heq, List.map_append]
    rfl

theorem mem_split_join_of {a b t : String} (h : t ∈ split a ',' ∨ t ∈ split b ',') :
    t ∈ split (a ++ "," ++ b) ',' := by
  rcases split_join a b with heq | heq
  · rw [heq]
    exact List.mem_append.mpr h
  · rw [heq, List.append_assoc, List.mem_append, List.mem_append]
    exact h.imp_right .inr

theorem of_mem_split_join {a b t : String} (ht : t ≠ "") (h : t ∈ split (a ++ "," ++ b) ',') :
    t ∈ split a ',' ∨ t ∈ split b ',' := by
  rcases split_join a b with heq | heq
  · rw [heq] at h
    exact List.mem_append.mp h
  · rw [heq, List.append_assoc, List.mem_append, List.mem_append, List.mem_singleton] at h
    exact h.imp_right fun h => h.resolve_left ht

end CellularData
