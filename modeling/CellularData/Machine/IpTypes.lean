import CellularData.Machine.Model
import CellularData.Text.AddressParsers

/-! The ip type recorded for a data call: the scan of the families ends at the length of the list
taken as eight bits. -/
namespace CellularData

/-- Which families there are, as the machine writes it. -/
def familySummary (families : List IpType) : String :=
  if .ipv4 ∈ families then if .ipv6 ∈ families then "IPV4V6" else "IPV4"
  else if .ipv6 ∈ families then "IPV6"
  else ""

/-- The families of the addresses that a text lists. -/
def addressFamilies (address : String) : List IpType :=
  ((split address ' ').filter fun ip => ip ≠ "").map dottedType

/-- The part of a list that an index of eight bits runs over. -/
def scanned (families : List IpType) : List IpType := families.take (families.length % 256)

variable {families families' : List IpType} {infos : List AddressInfo} {address : String}
  {type : IpType}

theorem hasMatchedIpTypeAddrs_iff :
    hasMatchedIpTypeAddrs type infos = true ↔ type ∈ scanned (infos.map AddressInfo.type) := by
  unfold hasMatchedIpTypeAddrs scanned
  rw [List.any_eq_true, List.length_map, ← List.map_take, List.mem_map]
  simp only [decide_eq_true_eq]

theorem getIpType_eq_summary (infos : List AddressInfo) :
    getIpType infos = familySummary (scanned (infos.map AddressInfo.type)) := by
  unfold getIpType familySummary
  simp only [Bool.and_eq_true, hasMatchedIpTypeAddrs_iff]
  by_cases hv4 : .ipv4 ∈ scanned (infos.map AddressInfo.type)
  · simp [hv4]
  · simp [hv4]

theorem ipv4_mem_iff :
    .ipv4 ∈ families ↔ familySummary families = "IPV4V6" ∨ familySummary families = "IPV4" := by
  unfold familySummary
  split_ifs with hv4 hv6 hv6
  · simp [hv4]
  · simp [hv4]
  · simp [hv4]
  · simp [hv4]

theorem ipv6_mem_iff :
    .ipv6 ∈ families ↔ familySummary families = "IPV4V6" ∨ familySummary families = "IPV6" := by
  unfold familySummary
  split_ifs with hv4 hv6 hv6
  · simp [hv6]
  · simp [hv6]
  · simp [hv6]
  · simp [hv6]

/-- The text says which families there are. -/
theorem familySummary_eq_iff : familySummary families = familySummary families' ↔
    ∀ type, type ∈ families ↔ type ∈ families' := by
  constructor
  · intro h type
    cases type with
    | ipv4 => rw [ipv4_mem_iff, ipv4_mem_iff, h]
    | ipv6 => rw [ipv6_mem_iff, ipv6_mem_iff, h]
  · intro h
    unfold familySummary
    simp only [h]

theorem familySummary_scanned_iff : familySummary (scanned families) = familySummary families ↔
    ∀ type ∈ families, type ∈ scanned families := by
  rw [familySummary_eq_iff]
  constructor
  · intro h type htype
    exact (h type).mpr htype
  · intro h type
    exact ⟨fun htype => List.mem_of_mem_take htype, h type⟩

theorem scanned_of_length_lt (h : families.length < 256) : scanned families = families := by
  unfold scanned
  rw [Nat.mod_eq_of_lt h, List.take_length]

theorem map_type_parseIpAddr (isValidDecValue : String → Bool) (address : String) :
    (parseIpAddr isValidDecValue address).map AddressInfo.type = addressFamilies address := by
  unfold parseIpAddr addressFamilies
  rw [List.map_filterMap, ← List.filterMap_eq_map', List.filterMap_filter]
  apply List.filterMap_congr
  intro ip _
  by_cases hne : ip = ""
  · subst hne
    rfl
  · obtain ⟨info, hinfo, htype⟩ := @parseIpItem_of_ne isValidDecValue ip hne
    rw [hinfo, Option.map_some, htype]
    simp [hne]

namespace CellularDataStateMachine

variable (env : MachineEnv) (m : CellularDataStateMachine) (info : SetupDataCallResultInfo)

theorem ipType_publish : m.publish.data.link.ipType = m.data.link.ipType := by
  unfold publish
  split_ifs
  · rfl
  · rfl

theorem ipType_updateNetworkInfoFrom : (m.updateNetworkInfoFrom env info).data.link.ipType =
    getIpType (parseIpAddr isDecValue info.address) := by
  unfold updateNetworkInfoFrom
  rw [ipType_publish]
  rfl

theorem ipType_of_length_lt (h : (addressFamilies info.address).length < 256) :
    (m.updateNetworkInfoFrom env info).data.link.ipType =
      familySummary ((parseIpAddr isDecValue info.address).map AddressInfo.type) := by
  rw [ipType_updateNetworkInfoFrom, getIpType_eq_summary, map_type_parseIpAddr,
    scanned_of_length_lt h]

/-- The ip type recorded is that of the list exactly when each family has an address in the part
scanned. -/
theorem ipType_summarizes_iff : (m.updateNetworkInfoFrom env info).data.link.ipType =
    familySummary ((parseIpAddr isDecValue info.address).map AddressInfo.type) ↔
      ∀ type ∈ addressFamilies info.address, type ∈ scanned (addressFamilies info.address) := by
  rw [ipType_updateNetworkInfoFrom, getIpType_eq_summary, map_type_parseIpAddr,
    familySummary_scanned_iff]

/-- 256 times the same address. -/
def crowdedAddress : String :=
  String.ofList (List.replicate 256 ("1.1.1.1".toList ++ [' '])).flatten

theorem addressFamilies_crowdedAddress :
    addressFamilies crowdedAddress = List.replicate 256 .ipv4 := by
  have hblank : ' ' ∉ "1.1.1.1".toList := by decide
  have hsplit : split crowdedAddress ' ' = List.replicate 256 "1.1.1.1" := by
    unfold crowdedAddress
    rw [split_eq_segments, String.toList_ofList, Lib.segments_flatten_replicate hblank,
      List.map_replicate, String.ofList_toList]
  have htype : dottedType "1.1.1.1" = .ipv4 := by decide
  unfold addressFamilies
  rw [hsplit, List.filter_replicate_of_pos (by decide), List.map_replicate, htype]

theorem scanned_crowdedAddress : scanned (addressFamilies crowdedAddress) = [] := by
  unfold scanned
  rw [addressFamilies_crowdedAddress, List.length_replicate, List.take_zero]

/-- The length 256 is taken as 0, so that no address is looked at. -/
theorem ipType_crowdedAddress :
    (∀ env m, (updateNetworkInfoFrom env m { address := crowdedAddress }).data.link.ipType = "") ∧
      familySummary ((parseIpAddr isDecValue crowdedAddress).map AddressInfo.type) = "IPV4" := by
  constructor
  · intro env m
    rw [ipType_updateNetworkInfoFrom, getIpType_eq_summary, map_type_parseIpAddr,
      scanned_crowdedAddress]
    rfl
  · have hv4 : .ipv4 ∈ List.replicate 256 IpType.ipv4 :=
      List.mem_replicate.mpr ⟨by decide, rfl⟩
    have hv6 : .ipv6 ∉ List.replicate 256 IpType.ipv4 := by
      intro h
      exact absurd (List.eq_of_mem_replicate h) (by decide)
    rw [map_type_parseIpAddr, addressFamilies_crowdedAddress]
    unfold familySummary
    rw [if_pos hv4, if_neg hv6]

end CellularDataStateMachine
end CellularData
