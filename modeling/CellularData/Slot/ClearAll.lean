import CellularData.Slot.GateClosing
import CellularData.Slot.Teardown

/-! Clearing all connections: which holders give up their connection and which machines are told. -/
namespace CellularData
namespace Slot
open Lib

variable {env : Env} {s s' : Slot} {t u : ApnType} {m : MachineRef} {x : CellularDataStateMachine}
  {reason : DisConnectionReason}

/-- The holders of which `ClearAllConnections` makes something. -/
def Clears (s : Slot) (t : ApnType) : Prop :=
  t ≠ .mms ∧ ((s.holder t).apnState = .connecting ∨ (s.holder t).apnState = .connected)

/-- All connections but that of the MMS holder are given up; the machine of each holder that had one
is told so once, and no other machine is told anything. -/
structure ClearsAll (reason : DisConnectionReason) (s s' : Slot) : Prop where
  cleared : ∀ t, t ≠ .mms →
    (s'.holder t).apnState ≠ .connecting ∧ (s'.holder t).apnState ≠ .connected
  told : ∀ t, s.Clears t → ∃ m x, (s.holder t).cellularDataStateMachine = some m ∧
    s.machine? m = some x ∧ s'.machine? m = some (x.post (.disconnect ⟨t, reason⟩))
  others : ∀ m, (∀ t, s.Clears t → (s.holder t).cellularDataStateMachine ≠ some m) →
    s'.machine? m = s.machine? m

/-- Each machine has one holder, and a holder with a connection has a machine. -/
structure DistinctMachines (s : Slot) : Prop where
  exclusive : ∀ t u m, (s.holder t).cellularDataStateMachine = some m →
    (s.holder u).cellularDataStateMachine = some m → t = u
  manned : ∀ t, (s.holder t).apnState.isLinked = true →
    ∃ m x, (s.holder t).cellularDataStateMachine = some m ∧ s.machine? m = some x
  notFailed : ∀ t, (s.holder t).apnState ≠ .failed

/-! One holder -/

theorem isLinked_iff {st : ApnProfileState} :
    st.isLinked = true ↔ st = .connecting ∨ st = .connected := by
  cases st <;> simp [ApnProfileState.isLinked]

/-- Nothing is done for a holder that has neither a connection nor failed. -/
theorem clearConnection_of_not_clears (hfailed : (s.holder t).apnState ≠ .failed)
    (hlinked : ¬ ((s.holder t).apnState = .connecting ∨ (s.holder t).apnState = .connected)) :
    s.clearConnection t reason = s := by
  unfold clearConnection
  split
  · rfl
  · cases hst : (s.holder t).apnState with
    | idle => rfl
    | disconnecting => rfl
    | retrying => rfl
    | connecting => exact absurd (.inl hst) hlinked
    | connected => exact absurd (.inr hst) hlinked
    | failed => exact absurd hst hfailed

theorem clearConnection_of_clears (hm : (s.holder t).cellularDataStateMachine = some m)
    (hlinked : (s.holder t).apnState = .connecting ∨ (s.holder t).apnState = .connected) :
    s.clearConnection t reason =
      (s.setApnState t .disconnecting).postMachine m (.disconnect ⟨t, reason⟩) := by
  unfold clearConnection
  rw [hm]
  rcases hlinked with hst | hst
  · rw [hst]
  · rw [hst]

theorem machine?_postMachine (e : MachineEvent) (n : MachineRef) :
    (s.postMachine m e).machine? n =
      if n = m then (s.machine? m).map fun x => x.post e else s.machine? n := by
  unfold postMachine modifyMachine machine?
  dsimp only
  rw [List.getElem?_modify]
  by_cases h : n = m
  · subst h
    simp
  · simp only [if_neg h, if_neg (Ne.symm h)]
    cases s.stateMachines[n]? <;> rfl

/-- The other holders are left as they are. -/
theorem holder_clearConnection_of_ne (h : u ≠ t) :
    (s.clearConnection t reason).holder u = s.holder u := by
  unfold clearConnection
  split
  · rfl
  · split
    · rfl
    · rfl
    · rfl
    · exact if_neg h

/-- Only the machine of a holder with a connection is told. -/
theorem machine?_clearConnection (hfailed : (s.holder t).apnState ≠ .failed)
    (hm : s.Clears t → (s.holder t).cellularDataStateMachine ≠ some m) (ht : t ≠ .mms) :
    (s.clearConnection t reason).machine? m = s.machine? m := by
  by_cases hlinked : (s.holder t).apnState = .connecting ∨ (s.holder t).apnState = .connected
  · cases howner : (s.holder t).cellularDataStateMachine with
    | none =>
      unfold clearConnection
      rw [howner]
    | some n =>
      have hne : m ≠ n := by
        rintro rfl
        exact hm ⟨ht, hlinked⟩ howner
      rw [clearConnection_of_clears howner hlinked, machine?_postMachine, if_neg hne]
      rfl
  · rw [clearConnection_of_not_clears hfailed hlinked]

/-! The loop over the holders -/

def clearUnlessMms (reason : DisConnectionReason) (s : Slot) (t : ApnType) : Slot :=
  if t = .mms then s else s.clearConnection t reason

theorem holder_clearUnlessMms_of_ne (h : u ≠ t) :
    (s.clearUnlessMms reason t).holder u = s.holder u := by
  unfold clearUnlessMms
  split_ifs
  · rfl
  · exact holder_clearConnection_of_ne h

theorem machine?_clearUnlessMms (hfailed : (s.holder t).apnState ≠ .failed)
    (hm : s.Clears t → (s.holder t).cellularDataStateMachine ≠ some m) :
    (s.clearUnlessMms reason t).machine? m = s.machine? m := by
  unfold clearUnlessMms
  split_ifs with ht
  · rfl
  · exact machine?_clearConnection hfailed hm ht

theorem holder_foldl {l : List ApnType} (s : Slot) (hl : u ∉ l) :
    (l.foldl (clearUnlessMms reason) s).holder u = s.holder u := by
  induction l generalizing s with
  | nil => rfl
  | cons t l ih =>
    rw [List.foldl_cons, ih _ fun h => hl (List.mem_cons_of_mem t h)]
    exact holder_clearUnlessMms_of_ne fun heq => hl (heq ▸ List.mem_cons_self)

/-- A machine that no holder of the list stands for is told nothing. -/
theorem machine?_foldl {l : List ApnType} (s : Slot) (hnodup : l.Nodup)
    (hfailed : ∀ t ∈ l, (s.holder t).apnState ≠ .failed)
    (hl : ∀ t ∈ l, s.Clears t → (s.holder t).cellularDataStateMachine ≠ some m) :
    (l.foldl (clearUnlessMms reason) s).machine? m = s.machine? m := by
  induction l generalizing s with
  | nil => rfl
  | cons t l ih =>
    obtain ⟨ht, hnodup⟩ := List.nodup_cons.mp hnodup
    have hsame : ∀ u ∈ l, (s.clearUnlessMms reason t).holder u = s.holder u :=
      fun u hu => holder_clearUnlessMms_of_ne fun heq => ht (heq ▸ hu)
    rw [List.foldl_cons, ih _ hnodup]
    · exact machine?_clearUnlessMms (hfailed t List.mem_cons_self) (hl t List.mem_cons_self)
    · intro u hu
      rw [hsame u hu]
      exact hfailed u (List.mem_cons_of_mem t hu)
    · intro u hu hclears
      unfold Clears at hclears
      rw [hsame u hu] at hclears ⊢
      exact hl u (List.mem_cons_of_mem t hu) hclears

/-- The loop of `ClearAllConnections` clears all. -/
theorem clearsAll_clearHolders (h : s.DistinctMachines) (reason : DisConnectionReason) :
    ClearsAll reason s (s.clearHolders reason) := by
  have hloop : s.clearHolders reason = ApnType.all.foldl (clearUnlessMms reason) s := rfl
  have hnodup : ApnType.all.Nodup := by decide
  have hmanned : s.Manned := by
    intro t hlinked hnone
    obtain ⟨m, x, howner, -⟩ := h.manned t hlinked
    rw [hnone] at howner
    cases howner
  refine ⟨fun t ht => ?_, fun t ht => ?_, fun m hm => ?_⟩
  · have hunlinked := not_isLinked_clearHolders hmanned ht reason
    rw [← Bool.not_eq_true, isLinked_iff, not_or] at hunlinked
    exact hunlinked
  · obtain ⟨m, x, howner, hx⟩ := h.manned t (isLinked_iff.mpr ht.2)
    refine ⟨m, x, howner, hx, ?_⟩
    obtain ⟨l₁, l₂, hall⟩ := List.append_of_mem t.mem_all
    rw [hall] at hnodup
    obtain ⟨hl₁, hl₂, hdisjoint⟩ := List.nodup_append.mp hnodup
    obtain ⟨ht₂, hl₂⟩ := List.nodup_cons.mp hl₂
    have ht₁ : t ∉ l₁ := fun hmem => hdisjoint t hmem t List.mem_cons_self rfl
    have hother : ∀ u, u ≠ t → (s.holder u).cellularDataStateMachine ≠ some m :=
      fun u hu hm => hu (h.exclusive u t m hm howner)
    rw [hloop, hall, List.foldl_append, List.foldl_cons]
    -- The holders before it leave it and its machine as they are.
    generalize hs₁ : l₁.foldl (clearUnlessMms reason) s = s₁
    have hholder₁ : s₁.holder t = s.holder t := hs₁ ▸ holder_foldl s ht₁
    have hmachine₁ : s₁.machine? m = some x := by
      rw [← hs₁, machine?_foldl s hl₁ (fun u _ => h.notFailed u) fun u hu _ =>
        hother u fun heq => ht₁ (heq ▸ hu), hx]
    have hsame₂ : ∀ u ∈ l₂, (s₁.clearUnlessMms reason t).holder u = s.holder u := by
      intro u hu
      have hu₁ : u ∉ l₁ := fun hmem => hdisjoint u hmem u (List.mem_cons_of_mem t hu) rfl
      have hne : u ≠ t := fun heq => ht₂ (heq ▸ hu)
      rw [holder_clearUnlessMms_of_ne hne, ← hs₁, holder_foldl s hu₁]
    rw [machine?_foldl _ hl₂]
    · rw [clearUnlessMms, if_neg ht.1, clearConnection_of_clears (hholder₁ ▸ howner) (hholder₁ ▸ ht.2),
        machine?_postMachine, if_pos rfl]
      exact congrArg (Option.map fun x => x.post (.disconnect ⟨t, reason⟩)) hmachine₁
    · intro u hu
      rw [hsame₂ u hu]
      exact h.notFailed u
    · intro u hu _
      rw [hsame₂ u hu]
      exact hother u fun heq => ht₂ (heq ▸ hu)
  · rw [hloop]
    exact machine?_foldl s hnodup (fun t _ => h.notFailed t) fun t _ => hm t

theorem DistinctMachines.congr (h : s.DistinctMachines) (hmanager : s'.apnManager = s.apnManager)
    (hmachines : s'.stateMachines = s.stateMachines) : s'.DistinctMachines := by
  have hholder : ∀ t, s'.holder t = s.holder t := fun t => congrArg (·.holder t) hmanager
  have hmachine : ∀ m, s'.machine? m = s.machine? m := fun m => congrArg (·[m]?) hmachines
  refine ⟨fun t u m => ?_, fun t => ?_, fun t => ?_⟩
  · rw [hholder t, hholder u]
    exact h.exclusive t u m
  · rw [hholder t]
    simp only [hmachine]
    exact h.manned t
  · rw [hholder t]
    exact h.notFailed t

theorem reachable_distinctMachines (hs : system.Reachable s) : s.DistinctMachines where
  exclusive := (reachable_owned hs).injective
  manned t hlinked := by
    have hcontrol : ∀ {m c}, s.core.controls[m]? = some c → ∃ x, s.machine? m = some x := by
      intro m c hm
      have hmap : (s.stateMachines.map CellularDataStateMachine.control)[m]? = some c := hm
      rw [List.getElem?_map] at hmap
      obtain ⟨x, hx, -⟩ := Option.map_eq_some_iff.mp hmap
      exact ⟨x, hx⟩
    cases (reachable_owned hs).linked t with
    | free howner _ _ => exact absurd howner (reachable_manned hs t hlinked)
    | ended howner hm _ _ _ =>
      obtain ⟨x, hx⟩ := hcontrol hm
      exact ⟨_, x, howner, hx⟩
    | held howner hm _ _ _ _ _ =>
      obtain ⟨x, hx⟩ := hcontrol hm
      exact ⟨_, x, howner, hx⟩
  notFailed := reachable_not_failed hs

/-- In every reachable state, whatever the handover flag and the outcome of the modem's call: nothing
is given up after a failed deactivation, else all connections but that of the MMS holder are. -/
theorem clearAllConnections_clearsAll (hs : system.Reachable s) (occurred : Bool) (env : Env)
    (reason : DisConnectionReason) :
    if occurred = true ∧ env.deactivatePdpResult ≠ .success then
      ∀ t m, (clearAllConnections env { s with isHandoverOccurred := occurred } reason).holder t =
          s.holder t ∧
        (clearAllConnections env { s with isHandoverOccurred := occurred } reason).machine? m =
          s.machine? m
    else
      ClearsAll reason s (clearAllConnections env { s with isHandoverOccurred := occurred } reason) := by
  have hdistinct := reachable_distinctMachines hs
  have hclears : ∀ s' : Slot, s'.apnManager = s.apnManager → s'.stateMachines = s.stateMachines →
      ClearsAll reason s (s'.clearHolders reason) := by
    intro s' hmanager hmachines
    have hcleared := clearsAll_clearHolders (hdistinct.congr hmanager hmachines) reason
    have hholder : ∀ t, s'.holder t = s.holder t := fun t => congrArg (·.holder t) hmanager
    have hmachine : ∀ m, s'.machine? m = s.machine? m := fun m => congrArg (·[m]?) hmachines
    have hsame : ∀ t, s'.Clears t ↔ s.Clears t := by
      intro t
      unfold Clears
      rw [hholder]
    refine ⟨hcleared.cleared, fun t ht => ?_, fun m hm => ?_⟩
    · obtain ⟨m, x, howner, hx, htold⟩ := hcleared.told t ((hsame t).mpr ht)
      exact ⟨m, x, hholder t ▸ howner, hmachine m ▸ hx, htold⟩
    · rw [← hmachine]
      refine hcleared.others m fun t ht => ?_
      rw [hholder]
      exact hm t ((hsame t).mp ht)
  unfold clearAllConnections
  cases occurred with
  | false =>
    rw [if_neg fun h => Bool.false_ne_true h.1]
    exact hclears _ rfl rfl
  | true =>
    by_cases hresult : env.deactivatePdpResult = .success
    · rw [if_neg fun h => h.2 hresult]
      simp only [if_true, hresult, ne_eq, not_true_eq_false, if_false]
      exact hclears _ rfl rfl
    · rw [if_pos ⟨rfl, hresult⟩]
      simp only [if_true, ne_eq, hresult, not_false_eq_true]
      exact fun _ _ => ⟨rfl, rfl⟩

/-- The default holder is connecting; it is given up after a handover. -/
theorem clearAllConnections_clearsAll_default : ∃ s, system.run askedLabels start = some s ∧
    s.Clears .default_ ∧
    ClearsAll .clearConnection s
      (clearAllConnections serviceEnv { s with isHandoverOccurred := true } .clearConnection) := by
  obtain ⟨s, hrun, hs, hp⟩ := exists_run askedLabels
    (p := fun s => (s.holder .default_).apnState = .connecting) (by decide +kernel)
  exact ⟨s, hrun, ⟨by decide, .inl (of_decide_eq_true hp)⟩,
    clearAllConnections_clearsAll hs true serviceEnv .clearConnection⟩

/-- SUPL is connecting when the default type is handed over to another bearer. -/
def handedOverLabels : List Label :=
  homeLabels .supl ++ [.call (storeEnv 0 0) (.requestNet false [.internet] .wifi),
    .dispatchHandler (storeEnv 0 0), .dispatchHandler (storeEnv 0 0)]

/-- The deactivation after the handover fails, and the SUPL holder stays connecting. -/
theorem failed_deactivation_clears_nothing : ∃ s, system.run handedOverLabels start = some s ∧
    s.isHandoverOccurred = true ∧ s.Clears .supl ∧
    ¬ ClearsAll .clearConnection s (s.clearAllConnections handoverFailedEnv .clearConnection) := by
  obtain ⟨s, hrun, -, hp⟩ := exists_run handedOverLabels
    (p := fun s => s.isHandoverOccurred = true ∧ (s.holder .supl).apnState = .connecting ∧
      ((s.clearAllConnections handoverFailedEnv .clearConnection).holder .supl).apnState =
        .connecting) (by decide +kernel)
  obtain ⟨hhandover, hstate, hleft⟩ := of_decide_eq_true hp
  exact ⟨s, hrun, hhandover, ⟨by decide, .inl hstate⟩,
    fun h => (h.cleared .supl (by decide)).1 hleft⟩

end Slot
end CellularData
