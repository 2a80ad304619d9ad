import CellularData.Machine.Slicing

/-! Slice descriptors with missing keys: the lookup inserts an empty text, which for two of the four
fields is not the text that stands for nothing. -/
namespace CellularData
open Lib

/-- The `std::map` that the slice client fills. -/
abbrev SliceParas := String → Option (List UInt8)

namespace SliceParas

variable {paras : SliceParas} {key key' : String}

/-- What `operator[]` gives. -/
def value (paras : SliceParas) (key : String) : List UInt8 := (paras key).getD []

/-- The map after `operator[]`, which inserts an empty text under a missing key. -/
def ensure (paras : SliceParas) (key : String) : SliceParas :=
  fun k => if k = key then some (paras.value key) else paras k

def lookup (key : String) : StateM SliceParas (List UInt8) :=
  fun paras => (paras.value key, paras.ensure key)

@[simp] theorem value_ensure : (paras.ensure key).value key' = paras.value key' := by
  unfold ensure
  by_cases h : key' = key
  · subst h
    simp [value]
  · simp [value, h]

@[simp] theorem ensure_ensure : (paras.ensure key).ensure key = paras.ensure key := by
  funext k
  by_cases h : k = key
  · simp [ensure, value, h]
  · simp [ensure, h]

theorem value_of_none (h : paras key = none) : paras.value key = [] := by
  unfold value
  rw [h]
  rfl

/-- The four texts that are read. -/
def routeSelection (paras : SliceParas) : RouteSelection where
  sscmode := paras.value "sscmode"
  snssai := paras.value "snssai"
  dnn := paras.value "dnn"
  pdusessiontype := paras.value "pdusessiontype"

end SliceParas

namespace SliceItem
open SliceParas

/-- One field: the text under the key is looked up twice. -/
def fillUnless (key : String) (nothing : List UInt8) (write : List UInt8 → SliceItem → SliceItem)
    (apn : SliceItem) : StateM SliceParas SliceItem := do
  if (← lookup key) ≠ nothing then
    return write (← lookup key) apn
  else return apn

def setSscMode (value : List UInt8) (apn : SliceItem) : SliceItem :=
  { apn with sscMode := .ofInt (leadingInt value) }

def setSnssai (value : List UInt8) (apn : SliceItem) : SliceItem :=
  { apn with snssai := filledText value }

def setApn (value : List UInt8) (apn : SliceItem) : SliceItem :=
  { apn with attr := { apn.attr with apn := filledText value } }

def setProtocol (value : List UInt8) (apn : SliceItem) : SliceItem :=
  { apn with attr := { apn.attr with protocol := filledText value } }

/-- `FillRSDFromNetCap` with its map. -/
def fillRSDFromMap (apn : SliceItem) : StateM SliceParas SliceItem := do
  let apn ← fillUnless "sscmode" zeroText setSscMode apn
  let apn ← fillUnless "snssai" [] setSnssai apn
  let apn ← fillUnless "dnn" [] setApn apn
  fillUnless "pdusessiontype" zeroText setProtocol apn

variable {paras : SliceParas} {apn apn' : SliceItem} {b b' : ApnText} {s : List UInt8}

theorem run_bind_eq {α β : Type} (x : StateM SliceParas α) (f : α → StateM SliceParas β)
    (paras : SliceParas) : (x >>= f).run paras = (f (x.run paras).1).run (x.run paras).2 :=
  rfl

theorem run_lookup (key : String) (paras : SliceParas) :
    (lookup key).run paras = (paras.value key, paras.ensure key) :=
  rfl

theorem run_fillUnless (key : String) (nothing : List UInt8)
    (write : List UInt8 → SliceItem → SliceItem) (apn : SliceItem) (paras : SliceParas) :
    (fillUnless key nothing write apn).run paras =
      (if paras.value key ≠ nothing then write (paras.value key) apn else apn,
        paras.ensure key) := by
  unfold fillUnless
  rw [run_bind_eq, run_lookup]
  dsimp only
  split_ifs
  · rw [run_bind_eq, run_lookup, value_ensure, ensure_ensure]
    rfl
  · rfl

theorem ite_setSscMode (p : Prop) [Decidable p] : (if p then setSscMode s apn else apn) =
    { apn with sscMode := if p then .ofInt (leadingInt s) else apn.sscMode } := by
  split_ifs
  · rfl
  · rfl

theorem ite_setSnssai (p : Prop) [Decidable p] : (if p then setSnssai s apn else apn) =
    { apn with snssai := if p then filledText s else apn.snssai } := by
  split_ifs
  · rfl
  · rfl

theorem ite_setApn (p : Prop) [Decidable p] : (if p then setApn s apn else apn) =
    { apn with attr := { apn.attr with apn := if p then filledText s else apn.attr.apn } } := by
  split_ifs
  · rfl
  · rfl

theorem ite_setProtocol (p : Prop) [Decidable p] : (if p then setProtocol s apn else apn) =
    { apn with
      attr := { apn.attr with protocol := if p then filledText s else apn.attr.protocol } } := by
  split_ifs
  · rfl
  · rfl

/-- The insertions change nothing that is read later. -/
theorem fillRSDFromMap_eq (apn : SliceItem) (paras : SliceParas) :
    ((fillRSDFromMap apn).run paras).1 = apn.fillRSDFromNetCap paras.routeSelection := by
  unfold fillRSDFromMap
  simp only [run_bind_eq, run_fillUnless, value_ensure, ite_setSscMode, ite_setSnssai, ite_setApn,
    ite_setProtocol]
  rfl

/-- The buffer begins with at most 255 bytes of the text and a NUL. -/
def Holds (b : ApnText) (s : List UInt8) : Prop := s.take 255 ++ [0] <+: b.bytes

/-- The buffer keeps its value, or the key is there and its text has been copied. -/
def TextChange (value : Option (List UInt8)) (b b' : ApnText) : Prop :=
  b' = b ∨ ∃ s, value = some s ∧ Holds b' s

/-- Only what the map names is changed. -/
structure ChangesNamed (paras : SliceParas) (apn apn' : SliceItem) : Prop where
  sscMode : paras "sscmode" = none → apn'.sscMode = apn.sscMode
  snssai : TextChange (paras "snssai") apn.snssai apn'.snssai
  dnn : TextChange (paras "dnn") apn.attr.apn apn'.attr.apn
  protocol : TextChange (paras "pdusessiontype") apn.attr.protocol apn'.attr.protocol
  others : apn'.attr = { apn.attr with apn := apn'.attr.apn, protocol := apn'.attr.protocol }

/-- The two keys whose absence is not recognised are there, or the fields hold nothing already. -/
def NamesResetFields (paras : SliceParas) (apn : SliceItem) : Prop :=
  (paras "sscmode" ≠ none ∨ apn.sscMode = 0) ∧
    (paras "pdusessiontype" ≠ none ∨ apn.attr.protocol = .zero _)

theorem filledText_holds (s : List UInt8) : Holds (filledText s) s :=
  CharBuffer.prefix_zero_copy s (by decide)

theorem filledText_nil : filledText [] = .zero _ := rfl

/-- Where nothing is the empty text, a missing key changes nothing. -/
theorem textChange_of_nil (paras : SliceParas) (key : String) (b : ApnText) :
    TextChange (paras key) b
      (if paras.value key ≠ [] then filledText (paras.value key) else b) := by
  split_ifs with h
  · cases hkey : paras key with
    | none => exact absurd (value_of_none hkey) h
    | some s =>
      right
      refine ⟨s, rfl, ?_⟩
      have hvalue : paras.value key = s := by simp [value, hkey]
      rw [hvalue]
      exact filledText_holds s
  · exact .inl rfl

theorem textChange_of_zeroText_iff (paras : SliceParas) (key : String) (b : ApnText) :
    TextChange (paras key) b
      (if paras.value key ≠ zeroText then filledText (paras.value key) else b) ↔
      paras key ≠ none ∨ b = .zero _ := by
  cases hkey : paras key with
  | none =>
    have hvalue : paras.value key = [] := value_of_none hkey
    rw [hvalue, if_pos (by decide), filledText_nil]
    unfold TextChange
    simp [eq_comm]
  | some s =>
    have hvalue : paras.value key = s := by simp [value, hkey]
    refine iff_of_true ?_ (.inl (Option.some_ne_none s))
    rw [hvalue]
    split_ifs
    · exact .inr ⟨s, rfl, filledText_holds s⟩
    · exact .inl rfl

theorem sscMode_kept_iff (paras : SliceParas) (mode : UInt8) :
    (paras "sscmode" = none → (if paras.value "sscmode" ≠ zeroText then
      .ofInt (leadingInt (paras.value "sscmode")) else mode) = mode) ↔
      paras "sscmode" ≠ none ∨ mode = 0 := by
  cases hkey : paras "sscmode" with
  | none =>
    have hvalue : paras.value "sscmode" = [] := value_of_none hkey
    have hzero : UInt8.ofInt (leadingInt []) = 0 := by decide
    rw [hvalue, if_pos (by decide), hzero]
    simp [eq_comm]
  | some s => simp

/-- A descriptor changes only what it names exactly when it names the mode and the session type, or
there is nothing to reset. -/
theorem fillRSDFromMap_changesNamed_iff (apn : SliceItem) (paras : SliceParas) :
    ChangesNamed paras apn ((fillRSDFromMap apn).run paras).1 ↔ NamesResetFields paras apn := by
  rw [fillRSDFromMap_eq]
  constructor
  · intro h
    constructor
    · exact (sscMode_kept_iff paras apn.sscMode).mp h.sscMode
    · exact (textChange_of_zeroText_iff paras "pdusessiontype" apn.attr.protocol).mp h.protocol
  · intro h
    constructor
    · exact (sscMode_kept_iff paras apn.sscMode).mpr h.1
    · exact textChange_of_nil paras "snssai" apn.snssai
    · exact textChange_of_nil paras "dnn" apn.attr.apn
    · exact (textChange_of_zeroText_iff paras "pdusessiontype" apn.attr.protocol).mpr h.2
    · rfl

/-- No parameters at all reset the mode and the protocol. -/
theorem missing_keys_reset :
    let apn : SliceItem := { attr := { protocol := filledText (bytes "IPV4V6") }, sscMode := 1 }
    let after := ((fillRSDFromMap apn).run fun _ => none).1
    after.sscMode = 0 ∧ after.attr.protocol.cString = [] ∧
      ¬ ChangesNamed (fun _ => none) apn after := by
  refine ⟨by decide, by decide, ?_⟩
  intro h
  exact absurd (h.sscMode rfl) (by decide)

end SliceItem
end CellularData
