import CellularData.Slot.Dispatch

/-! The APN in force: which changes of the attach APN make the slot give up its connections. -/
namespace CellularData

namespace ApnItem

/-- The fields that `IsCompatibleApnItem` compares besides the protocol. -/
def linkFields (item : ApnItem) :=
  (item.attr.profileId, item.attr.authType, item.attr.types, item.attr.numeric, item.attr.apn,
    item.attr.apnName, item.attr.user, item.attr.password, item.attr.proxyIpAddress,
    item.attr.mmsIpAddress)

theorem isCompatibleApnItem_iff {new old : ApnItem} {roamingState : Bool} :
    isCompatibleApnItem (some new) (some old) roamingState = true ↔
      new.linkFields = old.linkFields ∧
        new.protocolInForce roamingState = old.protocolInForce roamingState := by
  simp only [isCompatibleApnItem, linkFields, Bool.and_eq_true, decide_eq_true_eq, Prod.mk.injEq]
  tauto

theorem isCompatibleApnItem_refl (item : ApnItem) (roamingState : Bool) :
    isCompatibleApnItem (some item) (some item) roamingState = true :=
  isCompatibleApnItem_iff.mpr ⟨rfl, rfl⟩

/-- What a connection over the APN is made of differs while the slot roams, or does not. -/
def InForceChanged (last item : ApnItem) (psRoaming : Bool) : Prop :=
  last.linkFields ≠ item.linkFields ∨
    last.protocolInForce psRoaming ≠ item.protocolInForce psRoaming

theorem not_inForceChanged {last item : ApnItem} {psRoaming : Bool} :
    ¬ last.InForceChanged item psRoaming ↔
      isCompatibleApnItem (some last) (some item) psRoaming = true := by
  rw [isCompatibleApnItem_iff, InForceChanged, not_or, not_not, not_not]

instance (last item : ApnItem) (psRoaming : Bool) :
    Decidable (last.InForceChanged item psRoaming) :=
  decidable_of_iff _ (not_congr not_inForceChanged.symm |>.trans not_not)

/-- The comparison does not depend on which of the two protocols is looked at. -/
def RoamingImmaterial (last item : ApnItem) : Prop :=
  last.linkFields ≠ item.linkFields ∨
    (last.attr.protocol = item.attr.protocol ↔ last.attr.roamingProtocol = item.attr.roamingProtocol)

theorem roamingImmaterial_iff {last item : ApnItem} : last.RoamingImmaterial item ↔
    isCompatibleApnItem (some last) (some item) true =
      isCompatibleApnItem (some last) (some item) false := by
  rw [Bool.eq_iff_iff, isCompatibleApnItem_iff, isCompatibleApnItem_iff, RoamingImmaterial]
  have hroaming : ∀ item : ApnItem, item.protocolInForce true = item.attr.roamingProtocol :=
    fun _ => rfl
  have hhome : ∀ item : ApnItem, item.protocolInForce false = item.attr.protocol := fun _ => rfl
  rw [hroaming, hroaming, hhome, hhome]
  by_cases hfields : last.linkFields = item.linkFields
  · simp only [hfields, ne_eq, not_true_eq_false, false_or, true_and]
    exact iff_comm
  · simp only [hfields, ne_eq, not_false_eq_true, true_or, false_and]

/-- Two readings of the roaming state lead to the same answer. -/
theorem isCompatibleApnItem_eq_iff {last item : ApnItem} {p q : Bool} :
    isCompatibleApnItem (some last) (some item) p = isCompatibleApnItem (some last) (some item) q ↔
      p = q ∨ last.RoamingImmaterial item := by
  rw [roamingImmaterial_iff]
  cases p <;> cases q
  · simp only [true_or]
  · simp only [Bool.false_eq_true, false_or, eq_comm]
  · simp only [Bool.true_eq_false, false_or]
  · simp only [true_or]

end ApnItem

namespace Slot

variable {env : Env} {s : Slot} {reason : DisConnectionReason} {last item : ApnItem}

/-- The attach APN chosen from the table, with its fields. -/
def attachApn (s : Slot) : Option ApnItem := (s.apnManager.getRilAttachApn s.apnItem).map s.apnItem

/-- The roaming switch has been read and the profile id of the attach APN stored. -/
def updatedFor (env : Env) (s : Slot) (item : ApnItem) : Slot :=
  (s.isCellularDataRoamingEnabled env).1.updateApnInfo env item.attr.profileId

/-- The value handed to `IsCompatibleApnItem`: the user's switch, off when it cannot be read. -/
def roamingRead (env : Env) (s : Slot) : Bool := (s.isCellularDataRoamingEnabled env).2.getD false

theorem lastApnItem_updatedFor : (s.updatedFor env item).lastApnItem = s.lastApnItem := by
  have hquery : (s.isCellularDataRoamingEnabled env).1.lastApnItem = s.lastApnItem := by
    rw [isCellularDataRoamingEnabled_fst]
    rcases queryUserDataRoamingStatus_cases env s with ⟨on, h⟩ | h
    · rw [h]
      rfl
    · rw [h]
  unfold updatedFor updateApnInfo
  split_ifs
  · exact hquery
  · exact hquery

theorem clearConnectionsOnUpdateApns_eq (hlast : s.lastApnItem = some last)
    (hitem : s.attachApn = some item) :
    s.clearConnectionsOnUpdateApns env reason =
      if ApnItem.isCompatibleApnItem (some last) (some item) (s.roamingRead env) = true then
        s.updatedFor env item
      else
        { (s.updatedFor env item).clearAllConnections env reason with lastApnItem := some item } := by
  have hitem' : (s.isCellularDataRoamingEnabled env).1.attachApn = some item := by
    rw [← hitem, isCellularDataRoamingEnabled_fst]
    rcases queryUserDataRoamingStatus_cases env s with ⟨on, h⟩ | h
    · rw [h]
      rfl
    · rw [h]
  have hupdated : ((s.isCellularDataRoamingEnabled env).1.updateApnInfo env
      item.attr.profileId).lastApnItem = some last :=
    lastApnItem_updatedFor.trans hlast
  unfold attachApn at hitem'
  unfold clearConnectionsOnUpdateApns
  simp only [hitem', hupdated, Option.getD_some]
  rfl

/-- A change of the APN table gives up the connections exactly when the APN in force has changed,
wherever the roaming switch agrees with the network or does not matter. -/
theorem clears_on_change_iff (hlast : s.lastApnItem = some last)
    (hitem : s.attachApn = some item) :
    (s.clearConnectionsOnUpdateApns env reason =
      if last.InForceChanged item (0 < env.psRoamingState) then
        { (s.updatedFor env item).clearAllConnections env reason with lastApnItem := some item }
      else s.updatedFor env item) ↔
    (s.roamingRead env = decide (0 < env.psRoamingState) ∨ last.RoamingImmaterial item) := by
  rw [← ApnItem.isCompatibleApnItem_eq_iff, clearConnectionsOnUpdateApns_eq hlast hitem]
  have hkept : (s.updatedFor env item).lastApnItem = some last :=
    lastApnItem_updatedFor.trans hlast
  -- The two outcomes differ in the recorded APN as soon as one of the two readings sees a change.
  have hdistinct : ∀ p, ApnItem.isCompatibleApnItem (some last) (some item) p = false →
      s.updatedFor env item ≠
        { (s.updatedFor env item).clearAllConnections env reason with lastApnItem := some item } := by
    intro p hp heq
    have hsame : last = item := Option.some.inj (hkept.symm.trans (congrArg Slot.lastApnItem heq))
    rw [hsame, ApnItem.isCompatibleApnItem_refl] at hp
    cases hp
  by_cases hnetwork :
      ApnItem.isCompatibleApnItem (some last) (some item) (decide (0 < env.psRoamingState)) = true
  · rw [if_neg (ApnItem.not_inForceChanged.mpr hnetwork), hnetwork]
    by_cases hread : ApnItem.isCompatibleApnItem (some last) (some item) (s.roamingRead env) = true
    · simp only [hread, if_true]
    · rw [if_neg hread]
      exact iff_of_false (hdistinct _ (Bool.eq_false_iff.mpr hread)).symm hread
  · rw [if_pos (not_not.mp (mt ApnItem.not_inForceChanged.mp hnetwork)),
      Bool.eq_false_iff.mpr hnetwork]
    by_cases hread : ApnItem.isCompatibleApnItem (some last) (some item) (s.roamingRead env) = true
    · rw [if_pos hread, hread]
      exact iff_of_false (hdistinct _ (Bool.eq_false_iff.mpr hnetwork)) Bool.true_eq_false.mp
    · rw [if_neg hread, Bool.eq_false_iff.mpr hread]
      exact iff_of_true rfl rfl

def homeItem (protocol : String) : ApnItem :=
  { attr := { profileId := 1, apn := "cmnet", protocol := protocol }, apnTypes := ["*"] }

/-- At home the table names another home protocol; the roaming switch is on or off. -/
def protocolEnv (on : Bool) : Env :=
  { serviceEnv with
    getValue := fun _ => (.success, some (if on then 1 else 0))
    apnReloads := [{ items := some [homeItem "IPV6"], count := 1 }] }

/-- The slot when `ClearConnectionsOnUpdateApns` is reached after a change of the table. -/
def reloaded (env : Env) (s : Slot) : Slot := (s.createApnItem env).setRilAttachApn env

theorem clears_on_change_switch_off : ∃ s, system.run connectedLabels start = some s ∧
    (s.reloaded (protocolEnv false)).clearConnectionsOnUpdateApns (protocolEnv false)
        .clearConnection =
      { ((s.reloaded (protocolEnv false)).updatedFor (protocolEnv false)
          (homeItem "IPV6")).clearAllConnections (protocolEnv false) .clearConnection with
        lastApnItem := some (homeItem "IPV6") } := by
  obtain ⟨s, hs, -, hp⟩ := exists_run connectedLabels
    (p := fun s => (s.reloaded (protocolEnv false)).lastApnItem = some (homeItem "") ∧
      (s.reloaded (protocolEnv false)).attachApn = some (homeItem "IPV6") ∧
      (s.reloaded (protocolEnv false)).roamingRead (protocolEnv false) = false) (by decide +kernel)
  obtain ⟨hlast, hitem, hread⟩ := of_decide_eq_true hp
  refine ⟨s, hs, ((clears_on_change_iff hlast hitem).mpr (.inl (hread.trans ?_))).trans ?_⟩
  · decide
  · rw [if_pos]
    decide

/-- A connected slot keeps its connection although the home protocol in force has changed. -/
theorem home_protocol_change_missed : ∃ s, system.run connectedLabels start = some s ∧
    (s.reloaded (protocolEnv true)).lastApnItem = some (homeItem "") ∧
    (s.reloaded (protocolEnv true)).attachApn = some (homeItem "IPV6") ∧
    (homeItem "").InForceChanged (homeItem "IPV6") (0 < (protocolEnv true).psRoamingState) ∧
    (s.reloaded (protocolEnv true)).clearConnectionsOnUpdateApns (protocolEnv true)
        .clearConnection ≠
      { ((s.reloaded (protocolEnv true)).updatedFor (protocolEnv true)
          (homeItem "IPV6")).clearAllConnections (protocolEnv true) .clearConnection with
        lastApnItem := some (homeItem "IPV6") } ∧
    (((s.reloaded (protocolEnv true)).clearConnectionsOnUpdateApns (protocolEnv true)
      .clearConnection).holder .default_).apnState = .connected := by
  obtain ⟨s, hs, -, hp⟩ := exists_run connectedLabels
    (p := fun s => (s.reloaded (protocolEnv true)).lastApnItem = some (homeItem "") ∧
      (s.reloaded (protocolEnv true)).attachApn = some (homeItem "IPV6") ∧
      ((s.reloaded (protocolEnv true)).clearConnectionsOnUpdateApns (protocolEnv true)
        .clearConnection).lastApnItem = some (homeItem "") ∧
      (((s.reloaded (protocolEnv true)).clearConnectionsOnUpdateApns (protocolEnv true)
        .clearConnection).holder .default_).apnState = .connected) (by decide +kernel)
  obtain ⟨hlast, hitem, hkept, hconnected⟩ := of_decide_eq_true hp
  refine ⟨s, hs, hlast, hitem, by decide, fun heq => ?_, hconnected⟩
  have hrecorded := congrArg Slot.lastApnItem heq
  rw [hkept] at hrecorded
  exact absurd (Option.some.inj hrecorded) (by decide)

end Slot
end CellularData
