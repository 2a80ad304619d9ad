import CellularData.Text.Split
import Mathlib.Data.List.Forall2

/-! The two parsers of address texts: one goes by dots and skips empty pieces, the other goes by
colons and keeps them. -/
namespace CellularData

def IpType.bits : IpType → Nat
  | .ipv4 => 32
  | .ipv6 => 128

/-- The family of an address by its dots. -/
def dottedType (ipItem : String) : IpType :=
  if '.' ∈ ipItem.toList ∧ (split ((split ipItem '/').headD "") '.').length ≤ 4 then .ipv4
  else .ipv6

/-- The family of an address by its colons. -/
def colonType (ipItem : String) : IpType := if ':' ∈ ipItem.toList then .ipv6 else .ipv4

/-- An address whose prefix is that of its family. -/
def addressOf (type : IpType) (ip : String) : AddressInfo := { ip, type, prefixLen := type.bits }

variable {isValidDecValue : String → Bool} {input ip address : String} {flag : Char}

theorem split_eq_nil_iff : split input flag = [] ↔ input = "" := by
  constructor
  · intro hnil
    by_contra hne
    have hlength := length_split input flag
    rw [hnil, if_neg hne, List.length_nil] at hlength
    split_ifs at hlength with hlast
    have hmem : flag ∈ input.toList := List.mem_of_getLast? hlast
    have hpos : 0 < input.toList.count flag := List.count_pos_iff.mpr hmem
    omega
  · rintro rfl
    rfl

theorem split_of_notMem (hne : input ≠ "") (h : flag ∉ input.toList) :
    split input flag = [input] := by
  have hchars : input.toList ≠ [] := fun hnil => hne (String.toList_eq_nil_iff.mp hnil)
  rw [split_eq_segments, Lib.segments_of_notMem h, if_neg hchars, List.map_singleton,
    String.ofList_toList]

/-! Single addresses -/

/-- The prefix length that the text behind the first slash gives. -/
def prefixFrom (isValidDecValue : String → Bool) (bits : Nat) : List String → Nat
  | [] => bits
  | len :: _ => if isValidDecValue len then convertStrToUint len bits else bits

theorem addressOf_dottedType {first : String} {rest : List String}
    (hsplit : split ip '/' = first :: rest) :
    addressOf (dottedType ip) first =
      if '.' ∈ ip.toList then
        if 4 < (split first '.').length then { ip := first, type := .ipv6, prefixLen := 128 }
        else { ip := first, type := .ipv4, prefixLen := 32 }
      else { ip := first, type := .ipv6, prefixLen := 128 } := by
  unfold dottedType
  rw [hsplit, List.headD_cons]
  by_cases hdot : '.' ∈ ip.toList
  · by_cases hparts : 4 < (split first '.').length
    · rw [if_neg (by omega), if_pos hdot, if_pos hparts]
      rfl
    · rw [if_pos ⟨hdot, by omega⟩, if_pos hdot, if_neg hparts]
      rfl
  · rw [if_neg (fun h => hdot h.1), if_neg hdot]
    rfl

theorem parseIpItem_of_split {first : String} {rest : List String}
    (hsplit : split ip '/' = first :: rest) :
    parseIpItem isValidDecValue ip = some { addressOf (dottedType ip) first with
      prefixLen := prefixFrom isValidDecValue (dottedType ip).bits rest } := by
  unfold parseIpItem
  rw [hsplit]
  simp only [← addressOf_dottedType hsplit]
  cases rest with
  | nil => rfl
  | cons len rest =>
    by_cases hlen : isValidDecValue len = true
    · simp only [prefixFrom, if_pos hlen]
      rfl
    · simp only [prefixFrom, if_neg hlen]
      rfl

theorem parseIpItem_of_ne (hne : ip ≠ "") :
    ∃ info, parseIpItem isValidDecValue ip = some info ∧ info.type = dottedType ip := by
  have hsplit : split ip '/' ≠ [] := mt split_eq_nil_iff.mp hne
  obtain ⟨first, rest, hsplit⟩ := List.exists_cons_of_ne_nil hsplit
  exact ⟨_, parseIpItem_of_split hsplit, rfl⟩

theorem parseIpItem_of_noSlash (hne : ip ≠ "") (hslash : '/' ∉ ip.toList) :
    parseIpItem isValidDecValue ip = some (addressOf (dottedType ip) ip) :=
  parseIpItem_of_split (split_of_notMem hne hslash)

/-! Address texts -/

theorem parseIpAddr_of_noSlash (hslash : '/' ∉ address.toList) :
    parseIpAddr isValidDecValue address =
      ((split address ' ').filter fun ip => ip ≠ "").map fun ip => addressOf (dottedType ip) ip := by
  have hpieces : ∀ ip ∈ split address ' ', '/' ∉ ip.toList := by
    intro ip hip hmem
    exact hslash (mem_of_mem_split hip hmem)
  unfold parseIpAddr
  rw [← List.filterMap_eq_map', List.filterMap_filter]
  apply List.filterMap_congr
  intro ip hip
  by_cases hne : ip = ""
  · subst hne
    rfl
  · rw [parseIpItem_of_noSlash hne (hpieces ip hip)]
    simp [hne]

theorem parseNormalIpAddr_eq (address : String) : parseNormalIpAddr address =
    (split address ' ').map fun ip => addressOf (colonType ip) ip := by
  unfold parseNormalIpAddr
  apply List.map_congr_left
  intro ip _
  unfold colonType
  split_ifs
  · rfl
  · rfl

/-- The entries agree on what the caller reads. -/
def Agrees (a b : AddressInfo) : Prop :=
  a.ip = b.ip ∧ a.type = b.type ∧ a.prefixLen = b.prefixLen

instance (a b : AddressInfo) : Decidable (Agrees a b) := inferInstanceAs (Decidable (_ ∧ _))

/-- Entry for entry, so that the lists are equally long. -/
def ParsersAgree (isValidDecValue : String → Bool) (address : String) : Prop :=
  List.Forall₂ Agrees (parseIpAddr isValidDecValue address) (parseNormalIpAddr address)

instance (address : String) : Decidable (ParsersAgree isValidDecValue address) :=
  inferInstanceAs (Decidable (List.Forall₂ Agrees _ _))

/-- A piece has a colon exactly when it is no dotted text of at most four parts. -/
def IsPlain (ip : String) : Prop :=
  ip ≠ "" ∧ (':' ∈ ip.toList ↔ ¬ ('.' ∈ ip.toList ∧ (split ip '.').length ≤ 4))

theorem agrees_addressOf_iff {type type' : IpType} :
    Agrees (addressOf type ip) (addressOf type' ip) ↔ type = type' := by
  constructor
  · intro h
    exact h.2.1
  · rintro rfl
    exact ⟨rfl, rfl, rfl⟩

theorem dottedType_eq_colonType_iff (hne : ip ≠ "") (hslash : '/' ∉ ip.toList) :
    dottedType ip = colonType ip ↔ IsPlain ip := by
  unfold dottedType colonType IsPlain
  rw [split_of_notMem hne hslash, List.headD_cons]
  by_cases hdotted : '.' ∈ ip.toList ∧ (split ip '.').length ≤ 4
  · by_cases hcolon : ':' ∈ ip.toList
    · simp [hdotted, hcolon]
    · simp [hdotted, hcolon, hne]
  · by_cases hcolon : ':' ∈ ip.toList
    · simp [hdotted, hcolon, hne]
    · simp [hdotted, hcolon]

/-- The parsers agree exactly on texts without an empty piece whose pieces are all plain. -/
theorem parsersAgree_iff (isValidDecValue : String → Bool) (address : String)
    (hslash : '/' ∉ address.toList) :
    ParsersAgree isValidDecValue address ↔ ∀ ip ∈ split address ' ', IsPlain ip := by
  have hpieces : ∀ ip ∈ split address ' ', '/' ∉ ip.toList := by
    intro ip hip hmem
    exact hslash (mem_of_mem_split hip hmem)
  unfold ParsersAgree
  rw [parseIpAddr_of_noSlash hslash, parseNormalIpAddr_eq]
  constructor
  · intro h ip hip
    have hlength := h.length_eq
    rw [List.length_map, List.length_map, List.length_filter_eq_length_iff] at hlength
    rw [List.filter_eq_self.mpr hlength, List.forall₂_map_left_iff, List.forall₂_map_right_iff,
      List.forall₂_same] at h
    have hne : ip ≠ "" := of_decide_eq_true (hlength ip hip)
    exact (dottedType_eq_colonType_iff hne (hpieces ip hip)).mp
      (agrees_addressOf_iff.mp (h ip hip))
  · intro h
    have hkept : ∀ ip ∈ split address ' ', decide (ip ≠ "") = true := by
      intro ip hip
      exact decide_eq_true (h ip hip).1
    rw [List.filter_eq_self.mpr hkept, List.forall₂_map_left_iff, List.forall₂_map_right_iff,
      List.forall₂_same]
    intro ip hip
    rw [agrees_addressOf_iff, dottedType_eq_colonType_iff (h ip hip).1 (hpieces ip hip)]
    exact h ip hip

theorem parsersAgree_iff_dual : '/' ∉ "10.0.0.1 fe80::1".toList ∧
    (ParsersAgree isDecValue "10.0.0.1 fe80::1" ↔
      ∀ ip ∈ split "10.0.0.1 fe80::1" ' ', IsPlain ip) :=
  ⟨by decide, parsersAgree_iff isDecValue "10.0.0.1 fe80::1" (by decide)⟩

/-- A mapped address, an IPv6 address in dotted form and a blank at the start. -/
theorem parsers_differ : '/' ∉ "::ffff:1.2.3.4".toList ∧
    ¬ ParsersAgree isDecValue "::ffff:1.2.3.4" ∧
    ¬ ParsersAgree isDecValue "32.1.13.184.0.0.0.0.0.0.0.0.0.0.0.1" ∧
    ¬ ParsersAgree isDecValue " 1.2.3.4" := by
  decide

end CellularData
