import CellularData.Slot.Frame

/-! The activation gate: what the checks of an attempt have established when the attempt posts
`MSG_SM_CONNECT`. -/
namespace CellularData
open Lib StateMachine

namespace Slot

variable {env : Env} {s s' : Slot} {t : ApnType}

/-- The members that the gate reads. -/
def gateInputs (s : Slot) := (s.slotId, s.isMccChanged, s.dataSwitchSettings, s.lastCallState)

/-- What an attempt leaves alone until it posts its request. -/
def scene (s : Slot) :=
  (s.gateInputs, s.apnItems, s.apnManager.allApnItem, s.apnManager.preferId, s.connectLog)

theorem gateInputs_of_scene (h : s'.scene = s.scene) : s'.gateInputs = s.gateInputs :=
  congrArg (·.1) h

theorem connectLog_of_scene (h : s'.scene = s.scene) : s'.connectLog = s.connectLog :=
  congrArg (·.2.2.2.2) h

/-- What a query of the roaming switch reads does not depend on the switches. -/
theorem stored_congr (h : s'.slotId = s.slotId) :
    (s'.queryUserDataRoamingStatus env).2 = (s.queryUserDataRoamingStatus env).2 := by
  simp only [queryUserDataRoamingStatus, h]
  split_ifs <;> first | rfl | (split <;> rfl)

theorem connectRecord_congr (h : s'.gateInputs = s.gateInputs) (t : ApnType) (m : MachineRef) :
    s'.connectRecord env t m = s.connectRecord env t m := by
  simp only [gateInputs, Prod.mk.injEq] at h
  obtain ⟨hslot, hmcc, hswitches, hcall⟩ := h
  simp only [connectRecord, hmcc, hswitches, hcall, stored_congr hslot]

/-- A request made for `t` now has passed the gate. -/
def GateOpen (env : Env) (s : Slot) (t : ApnType) : Prop :=
  ∀ m, Core.Records (s.connectRecord env t m) t m

theorem GateOpen.congr (h : GateOpen env s t) (hs : s'.gateInputs = s.gateInputs) :
    GateOpen env s' t := fun m => connectRecord_congr hs t m ▸ h m

/-- What the checks before `CheckApnState` have found. -/
structure Checked (env : Env) (s : Slot) (t : ApnType) : Prop where
  airplaneModeOn : env.airplaneModeOn = false
  isMccChanged : s.isMccChanged = false
  psRegInService : env.psRegInService = true
  simState : isSimStateReadyOrLoaded env = true
  roamingState : s.checkRoamingState env t = true

theorem checkRoamingState_congr (h : s'.gateInputs = s.gateInputs) (t : ApnType) :
    s'.checkRoamingState env t = s.checkRoamingState env t := by
  simp only [gateInputs, Prod.mk.injEq] at h
  obtain ⟨-, -, hswitches, hcall⟩ := h
  simp only [checkRoamingState, isAllowActiveData, isRestrictedMode, hswitches, hcall]

theorem Checked.congr (h : Checked env s t) (hs : s'.gateInputs = s.gateInputs) :
    Checked env s' t := by
  have hmcc : s'.isMccChanged = s.isMccChanged := congrArg (·.2.1) hs
  exact ⟨h.airplaneModeOn, hmcc ▸ h.isMccChanged, h.psRegInService, h.simState,
    (checkRoamingState_congr hs t).trans h.roamingState⟩

theorem checkAttachAndSimState_true (h : s.checkAttachAndSimState env t = (s', true)) :
    s' = s ∧ s.isMccChanged = false ∧ env.psRegInService = true ∧
      isSimStateReadyOrLoaded env = true := by
  simp only [checkAttachAndSimState] at h
  split_ifs at h with hmcc hmms
  · cases (Prod.mk.inj h).2
  · cases (Prod.mk.inj h).2
  · cases (Prod.mk.inj h).2
  · obtain ⟨rfl, hs⟩ := Prod.mk.inj h
    rw [Bool.and_eq_true] at hs
    exact ⟨rfl, by simpa using hmcc, hs.1, hs.2⟩

/-- What the roaming check lets through. -/
theorem checkRoamingState_true (h : s.checkRoamingState env t = true) :
    ¬ (0 < env.psRoamingState ∧ s.dataSwitchSettings.userDataRoaming = false) ∧
      (s.isAllowActiveData = true ∨ t = .mms ∨ t = .bip) ∧ s.isRestrictedMode env = false := by
  simp only [checkRoamingState, Bool.and_eq_true, Bool.not_eq_true'] at h
  obtain ⟨hallow, hrestricted⟩ := h
  split_ifs at hallow with hroaming htype
  · refine ⟨fun hr => hroaming (by simp [hr.1, hr.2]), .inr (by simpa using htype), hrestricted⟩
  · exact ⟨fun hr => hroaming (by simp [hr.1, hr.2]), .inl hallow, hrestricted⟩

/-- The gate when the request is posted, where only the roaming switch has been read again. -/
theorem Checked.connectRecord_gate (h : Checked env s t) (s' : Slot) (m : MachineRef) (on : Bool)
    (hmcc : s'.isMccChanged = s.isMccChanged) (hcall : s'.lastCallState = s.lastCallState)
    (hswitches : s'.dataSwitchSettings = { s.dataSwitchSettings with userDataRoaming := on }) :
    (s'.connectRecord env t m).Gate ↔ ¬ (0 < env.psRoamingState ∧ on = false) := by
  obtain ⟨hroaming, hallow, hrestricted⟩ := checkRoamingState_true h.roamingState
  have hon : (s'.connectRecord env t m).switches.userDataRoaming = on := by
    simp only [connectRecord, hswitches]
  constructor
  · intro hg
    rw [← hon]
    exact hg.roaming
  · intro hr
    refine ⟨h.airplaneModeOn, hmcc.trans h.isMccChanged, h.psRegInService, ?_, hon ▸ hr, ?_, ?_⟩
    · simpa [isSimStateReadyOrLoaded, connectRecord] using h.simState
    · rcases hallow with hallow | htype
      · left
        simpa [connectRecord, hswitches, isAllowActiveData, and_assoc] using hallow
      · exact .inr htype
    · have hfree : ¬ s.isRestrictedMode env = true := by simp [hrestricted]
      simpa [isRestrictedMode, connectRecord, hcall, and_assoc] using hfree

/-- The gate of the two default types is judged by the switches it has been checked with. -/
theorem Checked.gateOpen_default (h : Checked env s t) (ht : t = .default_ ∨ t = .internalDefault) :
    GateOpen env s t := by
  intro m
  refine ⟨rfl, rfl, ?_⟩
  have hgate := h.connectRecord_gate s m s.dataSwitchSettings.userDataRoaming rfl rfl rfl
  have hopen := (checkRoamingState_true h.roamingState).1
  refine iff_of_true (hgate.mpr hopen) ?_
  rintro ⟨-, hd, hi, -⟩
  rcases ht with ht | ht
  · exact hd ht
  · exact hi ht

/-- A query of the roaming switch caches what it has read. -/
theorem queryUserDataRoamingStatus_cases (env : Env) (s : Slot) :
    (∃ on, s.queryUserDataRoamingStatus env =
        (s.modifySwitches fun d => { d with userDataRoaming := on }, some on)) ∨
      s.queryUserDataRoamingStatus env = (s, none) := by
  unfold queryUserDataRoamingStatus
  split_ifs
  · exact .inl ⟨true, rfl⟩
  · exact .inr rfl
  · split
    · exact .inl ⟨_, rfl⟩
    · exact .inr rfl

theorem apnManager_queryUserDataRoamingStatus :
    (s.queryUserDataRoamingStatus env).1.apnManager = s.apnManager := by
  rcases queryUserDataRoamingStatus_cases env s with ⟨on, h⟩ | h
  · rw [h]
    rfl
  · rw [h]

theorem isCellularDataRoamingEnabled_fst :
    (s.isCellularDataRoamingEnabled env).1 = (s.queryUserDataRoamingStatus env).1 := by
  unfold isCellularDataRoamingEnabled
  split_ifs with h
  · simp only [queryUserDataRoamingStatus, h.1, h.2, if_false, if_true]
  · rfl

/-- The search for a compatible machine only reads the roaming switch again, where it survives. -/
theorem checkForCompatibleDataConnection_eq (env : Env) (s : Slot) (t : ApnType) : ∃ d c,
    (s.checkForCompatibleDataConnection env t).1 =
      { s with dataSwitchSettings := d, crash := c } := by
  have hquery : ∃ d, (s.isCellularDataRoamingEnabled env).1 = { s with dataSwitchSettings := d } := by
    rw [isCellularDataRoamingEnabled_fst]
    rcases queryUserDataRoamingStatus_cases env s with ⟨on, h⟩ | h
    · exact ⟨_, congrArg Prod.fst h⟩
    · exact ⟨s.dataSwitchSettings, congrArg Prod.fst h⟩
  obtain ⟨d, hd⟩ := hquery
  unfold checkForCompatibleDataConnection
  dsimp only
  rw [hd]
  split_ifs
  all_goals exact ⟨d, _, rfl⟩

theorem scene_checkForCompatibleDataConnection (env : Env) (s : Slot) (t : ApnType) :
    (s.checkForCompatibleDataConnection env t).1.scene =
      (s.isCellularDataRoamingEnabled env).1.scene := by
  unfold checkForCompatibleDataConnection
  dsimp only
  split_ifs <;> rfl

theorem hidden_checkForCompatibleDataConnection (t : ApnType) :
    Hidden s (s.checkForCompatibleDataConnection env t).1 := by
  obtain ⟨d, c, h⟩ := checkForCompatibleDataConnection_eq env s t
  rw [h]
  exact .of_visible rfl

/-- For the other types the search for a compatible machine has read the roaming switch again. -/
theorem Checked.gateOpen_other (h : Checked env s t) (hd : t ≠ .default_)
    (hi : t ≠ .internalDefault) : GateOpen env (s.isCellularDataRoamingEnabled env).1 t := by
  have hopen := (checkRoamingState_true h.roamingState).1
  intro m
  refine ⟨rfl, rfl, ?_⟩
  rw [isCellularDataRoamingEnabled_fst]
  rcases queryUserDataRoamingStatus_cases env s with ⟨on, hq⟩ | hq
  · have hstored : ((s.queryUserDataRoamingStatus env).1.connectRecord env t m).storedDataRoaming =
        some on := by
      have hslot : (s.queryUserDataRoamingStatus env).1.slotId = s.slotId := by
        rw [hq]
        rfl
      exact (stored_congr hslot).trans (congrArg Prod.snd hq)
    rw [hq] at hstored ⊢
    refine (h.connectRecord_gate (s.modifySwitches fun d => { d with userDataRoaming := on }) m on rfl rfl
      rfl).trans (not_congr ⟨fun ⟨hr, hon⟩ => ⟨hr, hd, hi, hon ▸ hstored⟩, ?_⟩)
    rintro ⟨hr, -, -, hoff⟩
    exact ⟨hr, Option.some.inj (hstored.symm.trans hoff)⟩
  · have hstored : (s.connectRecord env t m).storedDataRoaming = none := congrArg Prod.snd hq
    rw [hq]
    refine iff_of_true ((h.connectRecord_gate s m s.dataSwitchSettings.userDataRoaming rfl rfl rfl).mpr
      hopen) ?_
    rintro ⟨-, -, -, hoff⟩
    cases hstored.symm.trans hoff

end Slot
end CellularData
