import CellularData.Text.Split

/-! The MTU of the operator configuration: an entry whose number does not parse takes over the
number of the entry before it. -/
namespace CellularData
namespace MtuConfig

/-- The parts of `iptype:number`. -/
def parts (entry : String) : Option (String × String) :=
  match split entry ':' with
  | [type, number] => if type = "" ∨ number = "" then none else some (type, number)
  | _ => none

/-- The results up to the first element without one. -/
def leading {α β : Type} (f : α → Option β) : List α → List β
  | [] => []
  | x :: xs => (f x).elim [] fun y => y :: leading f xs

section leading
variable {α β γ : Type} {f : α → Option β} {x : α} {xs : List α} {y : β}

theorem leading_cons_none (h : f x = none) : leading f (x :: xs) = [] := by
  unfold leading
  rw [h]
  rfl

theorem leading_cons_some (h : f x = some y) : leading f (x :: xs) = y :: leading f xs := by
  rw [leading, h]
  rfl

end leading

variable (strToInt : String → Option Int)

/-- What a well-formed entry says. -/
def valueOf (entry : String) : Option (String × Int) :=
  (parts entry).bind fun (type, number) =>
    (strToInt number).bind fun value => if value = -1 then none else some (type, value)

/-- An entry that does not end the loop once a number has been parsed: its own number is missing
where it does not parse. -/
def readAs (entry : String) : Option (String × Option Int) :=
  (parts entry).bind fun (type, number) =>
    if strToInt number = some (-1) then none else some (type, strToInt number)

/-- The last number for an ip type. -/
def lastFor (ipType : String) (values : List (String × Int)) : Option Int :=
  ((values.filter fun p => p.1 = ipType).map Prod.snd).getLast?

/-- The last number for the ip type before the first malformed entry. -/
def configuredMtu (mtuString ipType : String) : Option Int :=
  lastFor ipType (leading (valueOf strToInt) (split mtuString ';'))

/-- The assignments to `mtuSize`, each with the number's text in its entry. -/
def writes (ipType : String) : List String → Int → List (String × Int)
  | [], _ => []
  | entry :: rest, mtuValue =>
    (parts entry).elim [] fun (type, number) =>
      let value := (strToInt number).getD mtuValue
      if value = -1 then []
      else if type = ipType then (number, value) :: writes ipType rest value
      else writes ipType rest value

/-- The MTU is that of the configuration, and no entry sets it whose number does not parse. -/
structure Follows (mtuString ipType : String) : Prop where
  value : ∀ mtuSize, getMtuSizeFromOpCfg strToInt mtuString ipType mtuSize =
    (configuredMtu strToInt mtuString ipType).getD mtuSize
  parsed : ∀ write ∈ writes strToInt ipType (split mtuString ';') (-1), strToInt write.1 ≠ none

/-- Of the entries that the loop can read, those for the ip type have numbers, and the last of them
has the number of the last one before the first malformed entry. -/
def ReadsRightly (ipType : String) (entries : List String) : Prop :=
  leading (valueOf strToInt) entries = [] ∨
    (∀ e ∈ leading (readAs strToInt) entries, e.1 = ipType → e.2 ≠ none) ∧
      lastFor ipType ((leading (readAs strToInt) entries).filterMap fun e => e.2.map (e.1, ·)) =
        lastFor ipType (leading (valueOf strToInt) entries)

variable {strToInt} {ipType entry type number : String} {entries rest : List String}
  {mtuValue mtuSize value : Int}

/-! The loop and its assignments -/

theorem mtuFromEntries_of_parts_none (h : parts entry = none) :
    mtuFromEntries strToInt ipType (entry :: rest) mtuValue mtuSize = mtuSize := by
  unfold parts at h
  unfold mtuFromEntries
  split
  · rename_i type number hsplit
    simp only [hsplit] at h
    split_ifs at h with hempty
    rw [if_pos hempty]
  · rfl

theorem mtuFromEntries_of_parts_some (h : parts entry = some (type, number)) :
    mtuFromEntries strToInt ipType (entry :: rest) mtuValue mtuSize =
      if (strToInt number).getD mtuValue = -1 then mtuSize
      else mtuFromEntries strToInt ipType rest ((strToInt number).getD mtuValue)
        (if type = ipType then (strToInt number).getD mtuValue else mtuSize) := by
  unfold parts at h
  split at h
  · rename_i type' number' hsplit
    split_ifs at h with hempty
    rw [Option.some.injEq, Prod.mk.injEq] at h
    obtain ⟨rfl, rfl⟩ := h
    rw [mtuFromEntries, hsplit]
    simp only [if_neg hempty]
  · simp at h

theorem writes_of_parts_none (h : parts entry = none) :
    writes strToInt ipType (entry :: rest) mtuValue = [] := by
  rw [writes, h]
  rfl

theorem writes_of_parts_some (h : parts entry = some (type, number)) :
    writes strToInt ipType (entry :: rest) mtuValue =
      if (strToInt number).getD mtuValue = -1 then []
      else if type = ipType then
        (number, (strToInt number).getD mtuValue) ::
          writes strToInt ipType rest ((strToInt number).getD mtuValue)
      else writes strToInt ipType rest ((strToInt number).getD mtuValue) := by
  rw [writes, h]
  rfl

/-- The loop ends with the last assignment. -/
theorem mtuFromEntries_eq_writes :
    mtuFromEntries strToInt ipType entries mtuValue mtuSize =
      ((writes strToInt ipType entries mtuValue).map Prod.snd).getLast?.getD mtuSize := by
  induction entries generalizing mtuValue mtuSize with
  | nil => rfl
  | cons entry rest ih =>
    cases hparts : parts entry with
    | none =>
      rw [mtuFromEntries_of_parts_none hparts, writes_of_parts_none hparts]
      rfl
    | some p =>
      rw [mtuFromEntries_of_parts_some hparts, writes_of_parts_some hparts]
      split_ifs with hstop htype
      · rfl
      · rw [ih, List.map_cons, List.getLast?_cons, Option.getD_some]
      · exact ih

/-! One entry -/

theorem valueOf_of_parts_some (h : parts entry = some (type, number)) : valueOf strToInt entry =
    (strToInt number).bind fun value => if value = -1 then none else some (type, value) := by
  rw [valueOf, h]
  rfl

theorem readAs_of_parts_some (h : parts entry = some (type, number)) : readAs strToInt entry =
    if strToInt number = some (-1) then none else some (type, strToInt number) := by
  rw [readAs, h]
  rfl

theorem parts_of_valueOf (h : valueOf strToInt entry = some (type, value)) :
    ∃ number, parts entry = some (type, number) ∧ strToInt number = some value := by
  unfold valueOf at h
  obtain ⟨⟨type', number⟩, hparts, h⟩ := Option.bind_eq_some_iff.mp h
  obtain ⟨value', hnumber, h⟩ := Option.bind_eq_some_iff.mp h
  split_ifs at h
  rw [Option.some.injEq, Prod.mk.injEq] at h
  obtain ⟨rfl, rfl⟩ := h
  exact ⟨number, hparts, hnumber⟩

theorem writes_of_readAs_none (h : readAs strToInt entry = none) :
    writes strToInt ipType (entry :: rest) mtuValue = [] := by
  cases hparts : parts entry with
  | none => exact writes_of_parts_none hparts
  | some p =>
    rw [readAs_of_parts_some hparts] at h
    split_ifs at h with hstop
    rw [writes_of_parts_some hparts, hstop, Option.getD_some, if_pos rfl]

/-- An entry read after a number sets the MTU for its own ip type alone, if need be to the number
before it. -/
theorem writes_of_readAs_some {read : Option Int} (ipType : String) (rest : List String)
    (h : readAs strToInt entry = some (type, read)) (hvalue : mtuValue ≠ -1) :
    read.getD mtuValue ≠ -1 ∧ ∃ number, strToInt number = read ∧
      writes strToInt ipType (entry :: rest) mtuValue =
        (if type = ipType then [(number, read.getD mtuValue)] else []) ++
          writes strToInt ipType rest (read.getD mtuValue) := by
  cases hparts : parts entry with
  | none => simp [readAs, hparts] at h
  | some p =>
    obtain ⟨type', number⟩ := p
    rw [readAs_of_parts_some hparts] at h
    split_ifs at h with hstop
    rw [Option.some.injEq, Prod.mk.injEq] at h
    obtain ⟨rfl, rfl⟩ := h
    have hgoes : (strToInt number).getD mtuValue ≠ -1 := by
      cases hnumber : strToInt number with
      | none => exact hvalue
      | some value =>
        rw [hnumber, Option.some.injEq] at hstop
        exact hstop
    refine ⟨hgoes, number, rfl, ?_⟩
    rw [writes_of_parts_some hparts, if_neg hgoes]
    split_ifs
    · rfl
    · rfl

/-! The whole configuration -/

theorem writes_parsed_iff (mtuValue : Int) (hvalue : mtuValue ≠ -1) :
    (∀ write ∈ writes strToInt ipType entries mtuValue, strToInt write.1 ≠ none) ↔
      ∀ e ∈ leading (readAs strToInt) entries, e.1 = ipType → e.2 ≠ none := by
  induction entries generalizing mtuValue with
  | nil => simp [writes, leading]
  | cons entry rest ih =>
    cases hread : readAs strToInt entry with
    | none =>
      rw [writes_of_readAs_none hread, leading_cons_none hread]
      simp
    | some e =>
      obtain ⟨type, read⟩ := e
      obtain ⟨hgoes, number, hnumber, hwrites⟩ :=
        writes_of_readAs_some ipType rest hread hvalue
      rw [hwrites, leading_cons_some hread, List.forall_mem_append, List.forall_mem_cons,
        ih _ hgoes]
      apply and_congr_left
      intro _
      split_ifs with htype
      · simp [hnumber, htype]
      · simp [htype]

/-- Where each entry for the ip type has a number, the numbers assigned are these. -/
theorem writes_values (mtuValue : Int) (hvalue : mtuValue ≠ -1)
    (h : ∀ e ∈ leading (readAs strToInt) entries, e.1 = ipType → e.2 ≠ none) :
    ((writes strToInt ipType entries mtuValue).map Prod.snd).getLast? =
      lastFor ipType ((leading (readAs strToInt) entries).filterMap fun e => e.2.map (e.1, ·)) := by
  unfold lastFor
  congr 1
  induction entries generalizing mtuValue with
  | nil => rfl
  | cons entry rest ih =>
    cases hread : readAs strToInt entry with
    | none =>
      rw [writes_of_readAs_none hread, leading_cons_none hread]
      rfl
    | some e =>
      obtain ⟨type, read⟩ := e
      obtain ⟨hgoes, number, hnumber, hwrites⟩ :=
        writes_of_readAs_some ipType rest hread hvalue
      rw [leading_cons_some hread, List.forall_mem_cons] at h
      rw [hwrites, leading_cons_some hread, List.map_append, ih _ hgoes h.2]
      by_cases htype : type = ipType
      · obtain ⟨value, rfl⟩ := Option.ne_none_iff_exists'.mp (h.1 htype)
        simp [htype]
      · cases read with
        | none => simp [htype]
        | some value => simp [htype]

/-- The first number does not depend on what the variable held before. -/
theorem writes_of_valueOf_some (h : leading (valueOf strToInt) entries ≠ []) (mtuValue' : Int) :
    writes strToInt ipType entries mtuValue = writes strToInt ipType entries mtuValue' := by
  cases entries with
  | nil => exact absurd rfl h
  | cons entry rest =>
    cases hentry : valueOf strToInt entry with
    | none => exact absurd (leading_cons_none hentry) h
    | some p =>
      obtain ⟨number, hparts, hnumber⟩ := parts_of_valueOf hentry
      rw [writes_of_parts_some hparts, writes_of_parts_some hparts, hnumber]
      rfl

theorem writes_of_malformed (h : leading (valueOf strToInt) entries = []) :
    writes strToInt ipType entries (-1) = [] := by
  cases entries with
  | nil => rfl
  | cons entry rest =>
    cases hparts : parts entry with
    | none => exact writes_of_parts_none hparts
    | some p =>
      obtain ⟨type, number⟩ := p
      rw [writes_of_parts_some hparts]
      cases hnumber : strToInt number with
      | none => exact if_pos rfl
      | some value =>
        by_cases hvalue : value = -1
        · exact if_pos hvalue
        · have hentry : valueOf strToInt entry = some (type, value) := by
            rw [valueOf_of_parts_some hparts, hnumber, Option.bind_some, if_neg hvalue]
          rw [leading_cons_some hentry] at h
          exact absurd h (List.cons_ne_nil _ _)

theorem getD_inj {a b : Option Int} (h : ∀ x, a.getD x = b.getD x) : a = b := by
  cases a with
  | none =>
    cases b with
    | none => rfl
    | some y =>
      have hy : y + 1 = y := h (y + 1)
      omega
  | some x =>
    cases b with
    | none =>
      have hx : x = x + 1 := h (x + 1)
      omega
    | some y => rw [show x = y from h 0]

variable (strToInt)

theorem follows_iff (mtuString ipType : String) :
    Follows strToInt mtuString ipType ↔ ReadsRightly strToInt ipType (split mtuString ';') := by
  have hvalue : (∀ mtuSize, getMtuSizeFromOpCfg strToInt mtuString ipType mtuSize =
      (configuredMtu strToInt mtuString ipType).getD mtuSize) ↔
        ((writes strToInt ipType (split mtuString ';') (-1)).map Prod.snd).getLast? =
          lastFor ipType (leading (valueOf strToInt) (split mtuString ';')) := by
    constructor
    · intro h
      apply getD_inj
      intro mtuSize
      rw [← mtuFromEntries_eq_writes]
      exact h mtuSize
    · intro h mtuSize
      unfold getMtuSizeFromOpCfg configuredMtu
      rw [mtuFromEntries_eq_writes, h]
  by_cases hfirst : leading (valueOf strToInt) (split mtuString ';') = []
  · have hnothing : writes strToInt ipType (split mtuString ';') (-1) = [] :=
      writes_of_malformed hfirst
    refine iff_of_true ⟨hvalue.mpr ?_, ?_⟩ (.inl hfirst)
    · rw [hnothing, hfirst]
      rfl
    · rw [hnothing]
      simp
  · have hany : writes strToInt ipType (split mtuString ';') (-1) =
        writes strToInt ipType (split mtuString ';') 0 := writes_of_valueOf_some hfirst 0
    unfold ReadsRightly
    rw [or_iff_right hfirst, ← writes_parsed_iff 0 (by decide), ← hany]
    constructor
    · intro h
      have hreads := (writes_parsed_iff 0 (by decide)).mp (hany ▸ h.parsed)
      refine ⟨h.parsed, ?_⟩
      rw [← writes_values 0 (by decide) hreads, ← hany]
      exact hvalue.mp h.value
    · intro h
      have hreads := (writes_parsed_iff 0 (by decide)).mp (hany ▸ h.1)
      refine ⟨hvalue.mpr ?_, h.1⟩
      rw [hany, writes_values 0 (by decide) hreads]
      exact h.2

/-- Decimal texts alone are numbers. -/
def decimalInt (s : String) : Option Int :=
  if isDecValue s then some (decimalValue s.toList) else none

/-- The entry for IPv6 has no number, and the one of the entry for IPv4 is taken. -/
theorem number_of_other_type_taken :
    getMtuSizeFromOpCfg decimalInt "IPV4:1400;IPV6:x" "IPV6" 1500 = 1400 ∧
      configuredMtu decimalInt "IPV4:1400;IPV6:x" "IPV6" = none ∧
      ¬ Follows decimalInt "IPV4:1400;IPV6:x" "IPV6" := by
  refine ⟨by decide, by decide, ?_⟩
  intro h
  exact absurd (h.value 1500) (by decide)

end MtuConfig
end CellularData
