import CellularData.Slot.Steps
import CellularData.Slot.Holding
import CellularData.Slot.ActivationGate

/-! Steps that close the activation gate, and the connections that they clear. -/
namespace CellularData
open Lib StateMachine Relation

/-- States of a holder whose connection is being set up or is up. -/
def ApnProfileState.isLinked : ApnProfileState → Bool
  | .connecting | .connected => true
  | _ => false

namespace Slot

variable {env : Env} {s s' : Slot} {t : ApnType} {l : Label}

/-! The inputs of the gate in an attempt -/

/-- A query of the roaming switch finds what is cached. -/
def Steady (env : Env) (s : Slot) : Prop :=
  (s.isCellularDataRoamingEnabled env).1.gateInputs = s.gateInputs

theorem gateInputs_query_congr (h : s'.gateInputs = s.gateInputs) :
    (s'.isCellularDataRoamingEnabled env).1.gateInputs =
      (s.isCellularDataRoamingEnabled env).1.gateInputs := by
  simp only [gateInputs, Prod.mk.injEq] at h
  obtain ⟨hslot, hmcc, hswitches, hcall⟩ := h
  rw [isCellularDataRoamingEnabled_fst, isCellularDataRoamingEnabled_fst]
  simp only [queryUserDataRoamingStatus, hslot]
  split_ifs
  · simp only [gateInputs, modifySwitches, hslot, hmcc, hswitches, hcall]
  · simp only [gateInputs, hslot, hmcc, hswitches, hcall]
  · split
    · simp only [gateInputs, modifySwitches, hslot, hmcc, hswitches, hcall]
    · simp only [gateInputs, hslot, hmcc, hswitches, hcall]

theorem Steady.congr (h : Steady env s) (hs : s'.gateInputs = s.gateInputs) : Steady env s' :=
  ((gateInputs_query_congr hs).trans h).trans hs.symm

theorem steady_isCellularDataRoamingEnabled :
    Steady env (s.isCellularDataRoamingEnabled env).1 := by
  unfold Steady
  rw [isCellularDataRoamingEnabled_fst, isCellularDataRoamingEnabled_fst]
  rcases queryUserDataRoamingStatus_cases env s with ⟨on, h⟩ | h
  · have hagain : (queryUserDataRoamingStatus env (s.queryUserDataRoamingStatus env).1).2 =
        some on := by
      have hslot : (s.queryUserDataRoamingStatus env).1.slotId = s.slotId := by rw [h]; rfl
      rw [stored_congr hslot, h]
    rcases queryUserDataRoamingStatus_cases env (s.queryUserDataRoamingStatus env).1 with
      ⟨on', h'⟩ | h'
    · rw [h'] at hagain ⊢
      obtain rfl := Option.some.inj hagain
      rw [h]
      rfl
    · rw [h']
  · rw [h, h]

theorem gateInputs_startConnection (t : ApnType) (m : MachineRef) (apnItem : ItemRef)
    (radioTech : RadioTech) :
    (s.startConnection env t m apnItem radioTech).gateInputs = s.gateInputs := by
  have hstart (s : Slot) : (s.setApnActivateStart env t).gateInputs = s.gateInputs :=
    apply_setApnActivateStart gateInputs (fun _ _ _ => rfl) t
  exact (hstart _).trans ((gateInputs_of_scene (scene_updateCellularDataConnectState t)).trans
    (gateInputs_of_scene (scene_callMachine m _)))

theorem gateInputs_establishOwnConnection (t : ApnType) (apnItem : ItemRef)
    (radioTech : RadioTech) :
    (s.establishOwnConnection env t apnItem radioTech).1.gateInputs = s.gateInputs := by
  have hquery : (s.isSingleConnectionEnabled env radioTech).1.gateInputs = s.gateInputs :=
    gateInputs_of_scene (scene_isSingleConnectionEnabled radioTech)
  simp only [establishOwnConnection]
  split_ifs
  · exact hquery
  · exact (gateInputs_of_scene (scene_clearAllConnections _)).trans hquery
  · exact (gateInputs_startConnection _ _ _ _).trans
      ((gateInputs_of_scene scene_findOrCreateCellularDataConnect).trans hquery)

theorem gateInputs_establishDataConnection (h : Steady env s) (t : ApnType)
    (radioTech : RadioTech) :
    (s.establishDataConnection env t radioTech).1.gateInputs = s.gateInputs := by
  have hchoose := gateInputs_of_scene (chooseApnItem_spec env s t).2
  unfold establishDataConnection
  generalize s.chooseApnItem env t = r at hchoose ⊢
  obtain ⟨s₁, item⟩ := r
  cases item with
  | none => exact hchoose
  | some apnItem =>
    dsimp only
    split_ifs
    · exact (gateInputs_establishOwnConnection t apnItem radioTech).trans hchoose
    · have hsearch := gateInputs_of_scene (scene_checkForCompatibleDataConnection env s₁ t)
      have hsteady : (s₁.isCellularDataRoamingEnabled env).1.gateInputs = s₁.gateInputs :=
        h.congr hchoose
      generalize s₁.checkForCompatibleDataConnection env t = r at hsearch ⊢
      obtain ⟨s₂, dc⟩ := r
      have hkept : s₂.gateInputs = s.gateInputs := (hsearch.trans hsteady).trans hchoose
      cases dc with
      | some m =>
        exact (gateInputs_of_scene (scene_handleCompatibleDataConnection m t)).trans hkept
      | none => exact (gateInputs_establishOwnConnection t apnItem radioTech).trans hkept

theorem gateInputs_attemptEstablishDataConnection (h : Steady env s) (t : ApnType) :
    (s.attemptEstablishDataConnection env t).gateInputs = s.gateInputs := by
  have hattach : (s.checkAttachAndSimState env t).1.gateInputs = s.gateInputs :=
    gateInputs_of_scene scene_checkAttachAndSimState
  unfold attemptEstablishDataConnection
  split_ifs
  · rfl
  · rfl
  generalize s.checkAttachAndSimState env t = r at hattach ⊢
  obtain ⟨s₁, ok⟩ := r
  cases ok with
  | false => exact hattach
  | true =>
    dsimp only
    split_ifs
    · exact hattach
    have hstate := gateInputs_of_scene (checkApnState_spec env (Connects env) s₁ t).2.1
    generalize s₁.checkApnState env t = r at hstate ⊢
    obtain ⟨s₂, ok⟩ := r
    have h₂ : s₂.gateInputs = s.gateInputs := hstate.trans hattach
    cases ok with
    | false => exact h₂
    | true =>
      have h₃ : (s₂.checkMultiApnState t).gateInputs = s.gateInputs :=
        (gateInputs_of_scene (checkMultiApnState_spec env (Connects env) s₂ t).2.1).trans h₂
      have hestablish : ((s₂.checkMultiApnState t).establishDataConnection env t
          env.psRadioTech).1.gateInputs = s.gateInputs :=
        (gateInputs_establishDataConnection (h.congr h₃) t env.psRadioTech).trans h₃
      dsimp only
      generalize (s₂.checkMultiApnState t).establishDataConnection env t env.psRadioTech = r
        at hestablish ⊢
      obtain ⟨s₃, ok⟩ := r
      cases ok <;> exact hestablish

/-! Holders that come up -/

theorem isLinked_setApnState {st : ApnProfileState} (hst : st.isLinked = false) {u : ApnType}
    (h : ((s.setApnState t st).holder u).apnState.isLinked = true) :
    (s.holder u).apnState.isLinked = true := by
  rw [apnState_setApnState] at h
  split_ifs at h
  · rw [hst] at h
    cases h
  · exact h

theorem isLinked_renewHolders {u : ApnType}
    (h : (s.renewHolders.holder u).apnState.isLinked = true) :
    (s.holder u).apnState.isLinked = true := by
  refine renewHolders_invariant (P := fun s' => (s'.holder u).apnState.isLinked = true →
    (s.holder u).apnState.isLinked = true) (fun s' t ih hstep => ih ?_) id h
  rw [apnState_renewHolder] at hstep
  split_ifs at hstep
  · cases hstep
  · exact hstep

/-- Only the holder of the attempt comes up. -/
theorem Op.isLinked {u : ApnType} (h : Op env (Starts env t) s s')
    (hu : (s'.holder u).apnState.isLinked = true) :
    (s.holder u).apnState.isLinked = true ∨ u = t := by
  cases h with
  | write hw => exact .inl (hw.hidden.apnState u ▸ hu)
  | disconnect _ => exact .inl (isLinked_setApnState rfl hu)
  | reset _ => exact .inl (isLinked_setApnState rfl hu)
  | retry _ _ _ => exact .inl (isLinked_setApnState rfl hu)
  | renew => exact .inl (isLinked_renewHolders hu)
  | tell _ => exact .inl hu
  | search => exact .inl ((hidden_checkForCompatibleDataConnection _).apnState u ▸ hu)
  | connect hc =>
    obtain ⟨-, -, -⟩ := hc
    rw [apnState_startConnection, holder_findOrCreateCellularDataConnect] at hu
    split_ifs at hu with heq
    · exact .inr heq
    · exact .inl hu

theorem Does.isLinked {u : ApnType} (h : Does env (Starts env t) s s')
    (hu : (s'.holder u).apnState.isLinked = true) :
    (s.holder u).apnState.isLinked = true ∨ u = t := by
  induction h with
  | refl => exact .inl hu
  | tail _ hop ih =>
    rcases hop.isLinked hu with hbefore | heq
    · exact ih hbefore
    · exact .inr heq

/-- An attempt brings up no holder that the gate refuses. -/
theorem attemptEstablishDataConnection_refused (t : ApnType) {u : ApnType}
    (hu : ((s.attemptEstablishDataConnection env t).holder u).apnState.isLinked = true) :
    (s.holder u).apnState.isLinked = true ∨ s.checkRoamingState env u = true := by
  rcases attemptEstablishDataConnection_cases env s t with hwrites | ⟨hpassed, hdoes⟩
  · exact .inl (hwrites.apnState u ▸ hu)
  · rcases hdoes.isLinked hu with hbefore | rfl
    · exact .inl hbefore
    · exact .inr hpassed

theorem establishIfConnectable_refused (h : Steady env s) (t : ApnType) :
    (s.establishIfConnectable env t).gateInputs = s.gateInputs ∧
      ∀ u, ((s.establishIfConnectable env t).holder u).apnState.isLinked = true →
        (s.holder u).apnState.isLinked = true ∨ s.checkRoamingState env u = true := by
  unfold establishIfConnectable
  split_ifs
  · extract_lets s₁ s₂
    have hgate₁ : s₁.gateInputs = s.gateInputs :=
      gateInputs_of_scene (scene_updateCellularDataConnectState t)
    have hstate₁ : ∀ u, (s₁.holder u).apnState = (s.holder u).apnState :=
      (hidden_updateCellularDataConnectState t).apnState
    have hrelease : s₂ = s₁.releaseDataConnection t ∨ s₂ = s₁ := by
      dsimp only [s₂]
      split
      · exact .inl rfl
      · exact .inl rfl
      · exact .inr rfl
    have hgate₂ : s₂.gateInputs = s.gateInputs := by
      rcases hrelease with heq | heq
      · rw [heq, gateInputs_of_scene (releaseDataConnection_frame s₁ t).1, hgate₁]
      · rw [heq, hgate₁]
    have hlinked₂ : ∀ u, (s₂.holder u).apnState.isLinked = true →
        (s.holder u).apnState.isLinked = true := by
      intro u hu
      rw [← hstate₁]
      rcases hrelease with heq | heq
      · rw [heq] at hu
        unfold releaseDataConnection at hu
        split at hu
        · exact hu
        · have hst : ApnProfileState.disconnecting.isLinked = false := rfl
          exact isLinked_setApnState hst hu
      · rwa [heq] at hu
    have hsteady₂ : Steady env s₂ := h.congr hgate₂
    refine ⟨(gateInputs_attemptEstablishDataConnection hsteady₂ t).trans hgate₂, fun u hu => ?_⟩
    rcases attemptEstablishDataConnection_refused t hu with hbefore | hpassed
    · exact .inl (hlinked₂ u hbefore)
    · exact .inr ((checkRoamingState_congr hgate₂ u).symm.trans hpassed)
  · exact ⟨rfl, fun _ hu => .inl hu⟩

theorem establishAllApnsIfConnectable_refused (h : Steady env s) :
    (s.establishAllApnsIfConnectable env).gateInputs = s.gateInputs ∧
      ∀ u, ((s.establishAllApnsIfConnectable env).holder u).apnState.isLinked = true →
        (s.holder u).apnState.isLinked = true ∨ s.checkRoamingState env u = true := by
  refine List.foldlRecOn _ _ (motive := fun s₁ : Slot => s₁.gateInputs = s.gateInputs ∧
    ∀ u, (s₁.holder u).apnState.isLinked = true →
      (s.holder u).apnState.isLinked = true ∨ s.checkRoamingState env u = true)
    ⟨rfl, fun u hu => .inl hu⟩ ?_
  rintro s₁ ⟨hgate, hlinked⟩ t -
  obtain ⟨hgate', hlinked'⟩ := establishIfConnectable_refused (h.congr hgate) t
  refine ⟨hgate'.trans hgate, fun u hu => ?_⟩
  rcases hlinked' u hu with hbefore | hpassed
  · exact hlinked u hbefore
  · exact .inr ((checkRoamingState_congr hgate u).symm.trans hpassed)

/-! Clearing -/

theorem machine_clearConnection (t u : ApnType) (reason : DisConnectionReason) :
    ((s.clearConnection t reason).holder u).cellularDataStateMachine =
      (s.holder u).cellularDataStateMachine := by
  unfold clearConnection
  split
  · rfl
  · split
    · rfl
    · rfl
    · rfl
    · exact machine_setApnState t u .disconnecting

/-- A holder with a machine is neither connecting nor connected once it has been cleared. -/
theorem isLinked_clearConnection {t u : ApnType} {reason : DisConnectionReason}
    (h : ((s.clearConnection t reason).holder u).apnState.isLinked = true) :
    (s.holder u).apnState.isLinked = true ∧
      (u = t → (s.holder u).cellularDataStateMachine = none) := by
  unfold clearConnection at h
  split at h
  · rename_i hnone
    exact ⟨h, fun heq => heq ▸ hnone⟩
  · split at h
    · rename_i hst
      exact ⟨h, fun heq => by simp [heq, hst, ApnProfileState.isLinked] at h⟩
    · rename_i hst
      exact ⟨h, fun heq => by simp [heq, hst, ApnProfileState.isLinked] at h⟩
    · rename_i hst
      exact ⟨h, fun heq => by simp [heq, hst, ApnProfileState.isLinked] at h⟩
    · have hst : ApnProfileState.disconnecting.isLinked = false := rfl
      refine ⟨isLinked_setApnState hst h, fun heq => ?_⟩
      rw [holder_postMachine, apnState_setApnState, if_pos heq] at h
      cases h

/-- Every holder that is connecting or connected has a machine. -/
def Manned (s : Slot) : Prop :=
  ∀ t, (s.holder t).apnState.isLinked = true → (s.holder t).cellularDataStateMachine ≠ none

theorem Manned.congr (h : s.Manned) (heq : s'.apnManager = s.apnManager) : s'.Manned := by
  unfold Manned holder at h ⊢
  rw [heq]
  exact h

theorem reachable_manned (h : system.Reachable s) : s.Manned := by
  intro t hlinked hnone
  have hengaged : (s.core.state t).isEngaged = true := by
    change (s.holder t).apnState.isEngaged = true
    cases hst : (s.holder t).apnState <;>
      simp_all [ApnProfileState.isLinked, ApnProfileState.isEngaged]
  cases (reachable_owned h).linked t with
  | free _ _ hst => rw [hst] at hengaged; cases hengaged
  | ended howner _ _ _ _ => cases Eq.trans (Eq.symm hnone) howner
  | held howner _ _ _ _ _ _ => cases Eq.trans (Eq.symm hnone) howner

/-- The loop of `ClearAllConnections` passes over the MMS holder only. -/
theorem not_isLinked_clearHolders (h : s.Manned) (ht : t ≠ .mms) (reason : DisConnectionReason) :
    ((s.clearHolders reason).holder t).apnState.isLinked = false := by
  have hfold : ∀ (l : List ApnType) (s : Slot),
      ((s.holder t).apnState.isLinked = true → t ∈ l ∧
        (s.holder t).cellularDataStateMachine ≠ none) →
      ((l.foldl (fun s u => if u = .mms then s else s.clearConnection u reason) s).holder
        t).apnState.isLinked = false := by
    intro l
    induction l with
    | nil =>
      intro s h
      rw [← Bool.not_eq_true]
      exact fun hlinked => List.not_mem_nil (h hlinked).1
    | cons u l ih =>
      intro s h
      refine ih _ fun hlinked => ?_
      dsimp only at hlinked ⊢
      split_ifs at hlinked ⊢ with hu
      · obtain ⟨hmem, howner⟩ := h hlinked
        exact ⟨(List.mem_cons.mp hmem).resolve_left fun heq => ht (heq.trans hu), howner⟩
      · obtain ⟨hbefore, hcleared⟩ := isLinked_clearConnection hlinked
        obtain ⟨hmem, howner⟩ := h hbefore
        rw [machine_clearConnection]
        exact ⟨(List.mem_cons.mp hmem).resolve_left fun heq => howner (hcleared heq), howner⟩
  exact hfold _ s fun hlinked => ⟨t.mem_all, h t hlinked⟩

theorem not_isLinked_clearAllConnections (h : s.Manned) (ht : t ≠ .mms)
    (hhandover : s.isHandoverOccurred = true → env.deactivatePdpResult = .success)
    (reason : DisConnectionReason) :
    ((s.clearAllConnections env reason).holder t).apnState.isLinked = false := by
  unfold clearAllConnections
  split_ifs with hoccurred hfailed
  · exact absurd (hhandover hoccurred) hfailed
  · exact not_isLinked_clearHolders (s := { s.effect .deactivatePdpAfterHandover with
      isHandoverOccurred := false }) h ht reason
  · exact not_isLinked_clearHolders h ht reason

/-! Steps that close the gate -/

/-- Roaming begins while data roaming is read as off, the slot roams with data roaming cached as off
when the change of the setting is handled, or the policy or the internal data is switched off. -/
inductive ClosesGate (env : Env) (s : Slot) : Label → Prop
  | roamingStateOn (htaken : s.taken (.dispatchHandler env) = some .psRoamingOpen)
      (hroaming : 0 < env.psRoamingState)
      (hoff : (s.isCellularDataRoamingEnabled env).2.getD false = false) :
      ClosesGate env s (.dispatchHandler env)
  | roamingSetting (htaken : s.taken (.dispatchHandler env) = some .dbSettingRoamingChanged)
      (hroaming : 0 < env.psRoamingState) (hoff : s.dataSwitchSettings.userDataRoaming = false) :
      ClosesGate env s (.dispatchHandler env)
  | policy (hon : s.dataSwitchSettings.policyDataOn = true) :
      ClosesGate env s (.call env (.setPolicyDataOn false))
  | internalData : ClosesGate env s (.call env (.changeConnectionForDsds false))

/-- The answer depends on the slot and the configured default, not on the cached switch. -/
theorem isCellularDataRoamingEnabled_congr (hslot : s'.slotId = s.slotId)
    (hdefault : s'.defaultDataRoamingEnable = s.defaultDataRoamingEnable) :
    (s'.isCellularDataRoamingEnabled env).2 = (s.isCellularDataRoamingEnabled env).2 := by
  simp only [isCellularDataRoamingEnabled, hslot, hdefault]
  split_ifs
  · rfl
  · simp only [stored_congr hslot]

theorem step_of_taken {e : HandlerEvent} (htaken : s.taken (.dispatchHandler env) = some e)
    (hstep : system.step (.dispatchHandler env) s = some s') :
    ∃ q, s' = processEvent env { s with queue := q } e := by
  obtain ⟨⟨e', q⟩, hnext, rfl⟩ := Option.map_eq_some_iff.mp htaken
  have hdispatch : s.dispatchHandler env = some s' := hstep
  simp only [dispatchHandler, hnext] at hdispatch
  exact ⟨q, (Option.some.inj hdispatch).symm⟩

/-- What is connecting or connected after roaming has begun has passed the gate. -/
theorem roamingStateOn_refused (h : s.Manned) (ht : t ≠ .mms) (hroaming : 0 < env.psRoamingState)
    (hoff : (s.isCellularDataRoamingEnabled env).2.getD false = false)
    (hhandover : s.isHandoverOccurred = true → env.deactivatePdpResult = .success)
    (hlinked : ((s.roamingStateOn env).holder t).apnState.isLinked = true) :
    (s.roamingStateOn env).checkRoamingState env t = true := by
  generalize hs₁ : { s with isMccChanged := false } = s₁
  have hoff₁ : (s₁.isCellularDataRoamingEnabled env).2.getD false = false := by
    rw [isCellularDataRoamingEnabled_congr (s := s) (hs₁ ▸ rfl) (hs₁ ▸ rfl), hoff]
  have hsteady : Steady env (s₁.isCellularDataRoamingEnabled env).1 :=
    steady_isCellularDataRoamingEnabled
  have hmanned₂ : (s₁.isCellularDataRoamingEnabled env).1.Manned := by
    refine h.congr ?_
    rw [isCellularDataRoamingEnabled_fst, apnManager_queryUserDataRoamingStatus, ← hs₁]
  have hhandover₂ : (s₁.isCellularDataRoamingEnabled env).1.isHandoverOccurred = true →
      env.deactivatePdpResult = .success := by
    rw [isCellularDataRoamingEnabled_fst]
    rcases queryUserDataRoamingStatus_cases env s₁ with ⟨on, heq⟩ | heq
    · rw [heq, ← hs₁]
      exact hhandover
    · rw [heq, ← hs₁]
      exact hhandover
  have heq : s.roamingStateOn env = establishAllApnsIfConnectable env
      (match (s₁.isCellularDataRoamingEnabled env).1.apnManager.getOverallApnState with
        | .connecting | .connected =>
          (s₁.isCellularDataRoamingEnabled env).1.clearAllConnections env .retryConnection
        | _ => (s₁.isCellularDataRoamingEnabled env).1) := by
    simp only [roamingStateOn, hs₁, hroaming, not_true_eq_false, if_false, hoff₁]
    rfl
  generalize (s₁.isCellularDataRoamingEnabled env).1 = s₂ at hsteady hmanned₂ hhandover₂ heq
  rw [heq] at hlinked ⊢
  have hcleared : ∀ s₃, s₃ = (match s₂.apnManager.getOverallApnState with
        | .connecting | .connected => s₂.clearAllConnections env .retryConnection
        | _ => s₂) → s₃.gateInputs = s₂.gateInputs ∧ (s₃.holder t).apnState.isLinked = false := by
    rintro s₃ rfl
    split
    · exact ⟨gateInputs_of_scene (scene_clearAllConnections _),
        not_isLinked_clearAllConnections hmanned₂ ht hhandover₂ _⟩
    · exact ⟨gateInputs_of_scene (scene_clearAllConnections _),
        not_isLinked_clearAllConnections hmanned₂ ht hhandover₂ _⟩
    · rename_i hconnecting hconnected
      have hnone := not_engaged_of_overall ⟨hconnecting, hconnected⟩ t
      refine ⟨rfl, ?_⟩
      cases hst : (s₂.holder t).apnState <;>
        simp_all [ApnProfileState.isLinked, ApnProfileState.isEngaged]
  obtain ⟨hgate₃, hunlinked₃⟩ := hcleared _ rfl
  obtain ⟨hgate, hrefused⟩ := establishAllApnsIfConnectable_refused (hsteady.congr hgate₃)
  rw [checkRoamingState_congr hgate]
  rcases hrefused t hlinked with hbefore | hpassed
  · rw [hunlinked₃] at hbefore
    cases hbefore
  · exact hpassed

/-- A step that closes the gate clears every holder but MMS that the gate then refuses. -/
theorem closed_gate_clears (h : system.Reachable s) (hcloses : ClosesGate env s l)
    (hhandover : s.isHandoverOccurred = true → env.deactivatePdpResult = .success)
    (hstep : system.step l s = some s') (ht : t ≠ .mms)
    (hrefused : s'.checkRoamingState env t = false) :
    (s'.holder t).apnState ≠ .connecting ∧ (s'.holder t).apnState ≠ .connected := by
  have hmanned := reachable_manned h
  have hunlinked : (s'.holder t).apnState.isLinked = false := by
    cases hcloses with
    | roamingStateOn htaken hroaming hoff =>
      obtain ⟨q, rfl⟩ := step_of_taken htaken hstep
      rw [← Bool.not_eq_true]
      intro hlinked
      have hmanned' : Manned { s with queue := q } := hmanned.congr rfl
      have hoff' : (isCellularDataRoamingEnabled env { s with queue := q }).2.getD false =
          false := by
        have hsame : (isCellularDataRoamingEnabled env { s with queue := q }).2 =
            (s.isCellularDataRoamingEnabled env).2 := isCellularDataRoamingEnabled_congr rfl rfl
        rw [hsame]
        exact hoff
      have hpassed := roamingStateOn_refused hmanned' ht hroaming hoff' hhandover hlinked
      cases hpassed.symm.trans hrefused
    | roamingSetting htaken hroaming hoff =>
      obtain ⟨q, rfl⟩ := step_of_taken htaken hstep
      have hmanned' : Manned { s with queue := q } := hmanned.congr rfl
      simp only [processEvent, handleDBSettingRoamingChanged, hroaming, hoff, if_true]
      exact not_isLinked_clearAllConnections hmanned' ht hhandover _
    | policy hon =>
      have heq : s' = (s.modifySwitches fun d =>
          { d with policyDataOn := false }).clearAllConnections env .clearConnection := by
        obtain rfl := Option.some.inj hstep
        simp [call, setPolicyDataOn, hon]
      have hmanned' : (s.modifySwitches fun d => { d with policyDataOn := false }).Manned :=
        hmanned.congr rfl
      rw [heq]
      exact not_isLinked_clearAllConnections hmanned' ht hhandover _
    | internalData =>
      have heq : s' = (s.modifySwitches fun d =>
          { d with internalDataOn := false }).clearAllConnections env .clearConnection :=
        (Option.some.inj hstep).symm
      have hmanned' : (s.modifySwitches fun d => { d with internalDataOn := false }).Manned :=
        hmanned.congr rfl
      rw [heq]
      exact not_isLinked_clearAllConnections hmanned' ht hhandover _
  constructor
  · intro hst
    rw [hst] at hunlinked
    cases hunlinked
  · intro hst
    rw [hst] at hunlinked
    cases hunlinked

/-! Runs at home with data roaming off -/

/-- A network is requested after the APN table has been loaded. -/
def homeLabels (capability : NetCap) : List Label :=
  [.postHandler (.sim .recordsLoaded 0), .dispatchHandler (storeEnv 0 0),
    .call (storeEnv 0 0) (.requestNet true [capability] (.other 0)),
    .dispatchHandler (storeEnv 0 0), .dispatchHandler (storeEnv 0 0)]

theorem closed_gate_clears_default : ∃ s s',
    system.run (homeLabels .internet ++ [.postHandler .psRoamingOpen]) start = some s ∧
      (s.holder .default_).apnState = .connecting ∧
      system.step (.dispatchHandler (storeEnv 1 0)) s = some s' ∧
      s'.checkRoamingState (storeEnv 1 0) .default_ = false ∧
      (s'.holder .default_).apnState ≠ .connecting ∧ (s'.holder .default_).apnState ≠ .connected := by
  obtain ⟨s, hrun, hs, hp⟩ := exists_run (homeLabels .internet ++ [.postHandler .psRoamingOpen])
    (p := fun s => (s.holder .default_).apnState = .connecting ∧
      s.taken (.dispatchHandler (storeEnv 1 0)) = some .psRoamingOpen ∧
      (s.isCellularDataRoamingEnabled (storeEnv 1 0)).2.getD false = false ∧
      s.isHandoverOccurred = false ∧
      (system.step (.dispatchHandler (storeEnv 1 0)) s).any fun s' =>
        s'.checkRoamingState (storeEnv 1 0) .default_ = false) (by decide +kernel)
  obtain ⟨hstate, htaken, hoff, hhandover, hstep⟩ := of_decide_eq_true hp
  obtain ⟨s', hstep, hrefused⟩ := (Option.any_eq_true _ _).mp hstep
  have hrefused' : s'.checkRoamingState (storeEnv 1 0) .default_ = false :=
    of_decide_eq_true hrefused
  refine ⟨s, s', hrun, hstate, hstep, hrefused', closed_gate_clears hs
    (.roamingStateOn htaken (by decide) hoff) ?_ hstep (by decide) hrefused'⟩
  rw [hhandover]
  exact fun h => nomatch h

/-- The gate refuses a holder that is connecting or connected. -/
def isLeft (env : Env) (t : ApnType) (s : Slot) : Bool :=
  !s.checkRoamingState env t && (s.holder t).apnState.isLinked && s.crash = none

/-- The store also answers that user data is on. -/
def dataOnEnv : Env :=
  { storeEnv 0 0 with
    getValue := fun key =>
      match key with
      | .dataEnable => (.success, some 1)
      | key => (storeEnv 0 0).getValue key }

def handoverFailedEnv : Env := { storeEnv 0 0 with deactivatePdpResult := .other 1 }

/-- Roaming begins while MMS is connecting; the setting changes at home after user data has been
switched off; policy data is switched off while the deactivation after a handover fails; and policy
data is switched off again after a completion that came late. -/
theorem refused_holders_left :
    ((system.run (homeLabels .mms ++ [.postHandler .psRoamingOpen,
      .dispatchHandler (storeEnv 1 0)]) start).any (isLeft (storeEnv 1 0) .mms) = true) ∧
    ((system.run (homeLabels .internet ++ [.call dataOnEnv (.setCellularDataEnable false),
      .postHandler .dbSettingRoamingChanged, .dispatchHandler dataOnEnv]) start).any
        (isLeft dataOnEnv .default_) = true) ∧
    ((system.run (homeLabels .supl ++ [.call (storeEnv 0 0) (.requestNet false [.internet] .wifi),
      .dispatchHandler (storeEnv 0 0), .dispatchHandler (storeEnv 0 0),
      .call handoverFailedEnv (.setPolicyDataOn false)]) start).any
        (isLeft handoverFailedEnv .supl) = true) ∧
    ((system.run (askedLabels ++ answeredLabels ++ [.dispatchMachine serviceEnv 0,
      .call serviceEnv (.setPolicyDataOn false), .dispatchHandler serviceEnv,
      .call serviceEnv (.setPolicyDataOn false)]) start).any (isLeft serviceEnv .default_) =
        true) := by
  refine ⟨?_, ?_, ?_, ?_⟩
  · decide +kernel
  · decide +kernel
  · decide +kernel
  · decide +kernel

end Slot
end CellularData
