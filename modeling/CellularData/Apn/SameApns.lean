import CellularData.Lib.Matching
import CellularData.Slot.Events

/-! The comparison of a holder's matched APNs with a new list: a bijection between equal items. -/
namespace CellularData
open Lib

namespace ApnItem

/-- The fields that `IsSameApnItem` compares. -/
def comparedFields (item : ApnItem) (roamingState : Bool) :=
  (item.protocolInForce roamingState, item.attr.profileId, item.attr.authType,
    item.attr.isRoamingApn, item.attr.isEdited, item.attr.types, item.attr.numeric, item.attr.apn,
    item.attr.apnName, item.attr.user, item.attr.password, item.attr.homeUrl,
    item.attr.proxyIpAddress, item.attr.mmsIpAddress)

theorem isSameApnItem_iff {new old : ApnItem} {roamingState : Bool} :
    new.isSameApnItem old roamingState = true ↔
      new.comparedFields roamingState = old.comparedFields roamingState := by
  simp only [isSameApnItem, isCompatibleApnItem, comparedFields, Bool.and_eq_true,
    decide_eq_true_eq, Prod.mk.injEq]
  tauto

theorem profileId_of_isSameApnItem {new old : ApnItem} {roamingState : Bool}
    (h : new.isSameApnItem old roamingState = true) : new.attr.profileId = old.attr.profileId :=
  congrArg (·.2.1) (isSameApnItem_iff.mp h)

theorem isSameApnItem_comm (new old : ApnItem) (roamingState : Bool) :
    new.isSameApnItem old roamingState = old.isSameApnItem new roamingState := by
  rw [Bool.eq_iff_iff, isSameApnItem_iff, isSameApnItem_iff, eq_comm]

end ApnItem

namespace ApnHolder

variable (item : ItemRef → ApnItem) (h : ApnHolder)

def isSameMatchedApns (newMatchedApns : List ItemRef) (roamingState : Bool) : Bool :=
  let currentMatchedApns := h.retryPolicy.matchedApns
  if currentMatchedApns = [] ∨ newMatchedApns = [] then false
  else if currentMatchedApns.length ≠ newMatchedApns.length then false
  else newMatchedApns.all fun new => currentMatchedApns.any fun old =>
    ApnItem.isSameApnItem (item new) (item old) roamingState

variable {item h} {new new' : List ItemRef} {roamingState : Bool}

/-- Both lists have items, as many of them, and each new item is the same as an old one. -/
theorem isSameMatchedApns_eq_true : h.isSameMatchedApns item new roamingState = true ↔
    new ≠ [] ∧ h.retryPolicy.matchedApns ≠ [] ∧ h.retryPolicy.matchedApns.length = new.length ∧
      ∀ r ∈ new, ∃ o ∈ h.retryPolicy.matchedApns,
        ApnItem.isSameApnItem (item r) (item o) roamingState = true := by
  unfold isSameMatchedApns
  dsimp only
  split_ifs with hempty hlength
  · refine iff_of_false id fun hall => ?_
    rcases hempty with hold | hnew
    · exact hall.2.1 hold
    · exact hall.1 hnew
  · exact iff_of_false id fun hall => hlength hall.2.2.1
  · obtain ⟨hold, hnew⟩ := not_or.mp hempty
    simp only [List.all_eq_true, List.any_eq_true, hold, hnew, not_not.mp hlength, ne_eq,
      not_false_eq_true, true_and]

/-- Only which items the lists hold matters, and how many. -/
theorem isSameMatchedApns_perm {h' : ApnHolder} (hnew : new'.Perm new)
    (hold : h'.retryPolicy.matchedApns.Perm h.retryPolicy.matchedApns) :
    h'.isSameMatchedApns item new' roamingState = h.isSameMatchedApns item new roamingState := by
  rw [Bool.eq_iff_iff, isSameMatchedApns_eq_true, isSameMatchedApns_eq_true, hnew.length_eq,
    hold.length_eq]
  simp only [hnew.mem_iff, hold.mem_iff, ne_eq, ← List.length_eq_zero_iff, hnew.length_eq,
    hold.length_eq]

/-- Without a profile id that occurs twice the comparison asks for a bijection. -/
theorem isSameMatchedApns_iff_matching (hnew : new ≠ [])
    (hids : (new.map fun r => (item r).attr.profileId).Nodup) :
    h.isSameMatchedApns item new roamingState = true ↔
      Matching (fun r o => ApnItem.isSameApnItem (item r) (item o) roamingState = true) new
        h.retryPolicy.matchedApns := by
  rw [isSameMatchedApns_eq_true]
  constructor
  · rintro ⟨-, -, hlength, hall⟩
    exact Matching.of_keys (fun _ _ => ApnItem.profileId_of_isSameApnItem) hids hlength.symm hall
  · intro hmatching
    have hlength := hmatching.length_eq
    refine ⟨hnew, fun hold => hnew ?_, hlength.symm, fun r hr => hmatching.exists_of_mem hr⟩
    rw [hold] at hlength
    exact List.length_eq_zero_iff.mp hlength

/-- The comparison is a test for equality up to the order, the same in both directions. -/
theorem isSameMatchedApns_permutation {h' : ApnHolder} (hnew : new ≠ [])
    (hold : h.retryPolicy.matchedApns ≠ [])
    (hids : (new.map fun r => (item r).attr.profileId).Nodup)
    (hids' : (h.retryPolicy.matchedApns.map fun r => (item r).attr.profileId).Nodup) :
    (h.isSameMatchedApns item new roamingState = true ↔
      ∃ e : Fin new.length ≃ Fin h.retryPolicy.matchedApns.length, ∀ i,
        ApnItem.isSameApnItem (item (new.get i)) (item (h.retryPolicy.matchedApns.get (e i)))
          roamingState = true) ∧
    (new'.Perm new → h'.retryPolicy.matchedApns.Perm h.retryPolicy.matchedApns →
      h'.isSameMatchedApns item new' roamingState = h.isSameMatchedApns item new roamingState) ∧
    (h'.retryPolicy.matchedApns = new →
      h'.isSameMatchedApns item h.retryPolicy.matchedApns roamingState =
        h.isSameMatchedApns item new roamingState) := by
  refine ⟨isSameMatchedApns_iff_matching hnew hids, isSameMatchedApns_perm, fun heq => ?_⟩
  rw [Bool.eq_iff_iff, isSameMatchedApns_iff_matching hnew hids,
    isSameMatchedApns_iff_matching hold hids', heq]
  have hsymm : ∀ r o, ApnItem.isSameApnItem (item r) (item o) roamingState = true →
      ApnItem.isSameApnItem (item o) (item r) roamingState = true := by
    intro r o hsame
    rw [ApnItem.isSameApnItem_comm]
    exact hsame
  exact ⟨Matching.symm hsymm, Matching.symm hsymm⟩

def numberedItem (r : ItemRef) : ApnItem := { attr := { profileId := r } }

theorem isSameMatchedApns_swapped :
    ({ retryPolicy := { matchedApns := [2, 1] } } : ApnHolder).isSameMatchedApns numberedItem [1, 2]
        true =
      ({ retryPolicy := { matchedApns := [1, 2] } } : ApnHolder).isSameMatchedApns numberedItem [2, 1]
        true := by
  have hsame := @isSameMatchedApns_permutation numberedItem { retryPolicy := { matchedApns := [1, 2] } }
    [2, 1] [] true { retryPolicy := { matchedApns := [2, 1] } } (by decide) (by decide) (by decide)
    (by decide)
  exact hsame.2.2 rfl

end ApnHolder

/-- The decision of `ClearConnectionIfRequired`. -/
theorem Slot.clearConnectionIfRequired_eq (env : Env) (s : Slot) :
    s.clearConnectionIfRequired env = ApnType.all.foldl (fun s t =>
      let matchedApns := s.apnManager.filterMatchedApns s.apnItem (0 < env.psRoamingState) t
      if matchedApns = [] ∨
          (s.holder t).isSameMatchedApns s.apnItem matchedApns (0 < env.psRoamingState) = true then s
      else
        let apnState := (s.holder t).apnState
        let s := s.modifyHolder t fun h =>
          { h with retryPolicy :=
              h.retryPolicy.setMatchedApns (fun r => (s.apnItem r).attr.profileId) matchedApns }
        if apnState = .idle ∨ apnState = .failed then s
        else s.clearConnection t .retryConnection) s := by
  unfold clearConnectionIfRequired
  congr 1
  funext s t
  dsimp only
  simp only [ApnHolder.isSameMatchedApns_eq_true]
  by_cases hmatched : s.apnManager.filterMatchedApns s.apnItem (0 < env.psRoamingState) t = []
  · rw [if_pos hmatched, if_pos (Or.inl hmatched)]
  · simp only [hmatched, if_false, false_or, ne_eq, not_false_eq_true, true_and]

end CellularData
