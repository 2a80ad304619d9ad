import CellularData.Slot.Completions
import CellularData.Slot.MmsPermission
import CellularData.Slot.Teardown

/-! The return of the data permission that MMS has borrowed, over all runs of a slot. -/
namespace CellularData
open Lib StateMachine Relation

namespace Slot

variable {env : Env} {s s' : Slot} {t : ApnType} {d mode : Int} {l : Label}

/-! Reports of the machines -/

/-- The permission is returned with the end of an MMS connection. -/
theorem disconnectDataComplete_returns (hmoves : MovesPermission env s)
    {info : SetupDataCallResultInfo} (ht : ApnType.ofId info.flag = some .mms) {m : MachineRef}
    (hm : (s.holder .mms).cellularDataStateMachine = some m) :
    (s.disconnectDataComplete env info).latest Effect.lends = some false := by
  simp only [disconnectDataComplete, ht, hm]
  generalize hs₁ : s.releaseMachine env .mms m info = s₁
  have h₁ : s₁.home = s.home := by
    rw [← hs₁]
    exact home_of_setting (setting_releaseMachine _ _ _)
  generalize hs₂ : s₁.updateCellularDataConnectState .mms = s₂
  have h₂ : s₂.home = s₁.home := by
    rw [← hs₂]
    exact home_of_setting (setting_updateCellularDataConnectState _)
  generalize hs₃ : s₂.updatePhysicalConnectionState s₂.isNoActiveConnection = s₃
  have h₃ : s₃.home = s₂.home := by
    rw [← hs₃]
    unfold updatePhysicalConnectionState
    split_ifs <;> rfl
  generalize ConnectionRetryPolicy.convertPdpErrorToDisconnReason info.reason = reason
  generalize hs₄ : (if (s₃.holder .mms).dataCallEnabled = true then
    s₃.retryOrClearConnection env .mms reason info else s₃) = s₄
  have h₄ : s₄.home = s₃.home := by
    rw [← hs₄]
    split_ifs
    · exact home_retryOrClearConnection reason info
    · rfl
  generalize hs₅ : s₄.handleIncallDataDisconnectComplete = s₅
  have h₅ : s₅.home = s₄.home := by
    rw [← hs₅]
    unfold handleIncallDataDisconnectComplete incallEvent
    split_ifs <;> rfl
  generalize hs₆ : (if reason = .changeConnection then s₅.handleSortConnection else s₅) = s₆
  have h₆ : s₆.home = s₅.home := by
    rw [← hs₆]
    unfold handleSortConnection
    split_ifs
    · split
      · split <;> rfl
      · split <;> rfl
      · rfl
    · rfl
  have hhome : s₆.home = s.home := h₆.trans (h₅.trans (h₄.trans (h₃.trans (h₂.trans h₁))))
  exact setDataPermittedForMms_moves ((movesPermission_congr hhome).mpr hmoves) false

/-- What stands in the way of a move, apart from the default slot and the DSDS mode. -/
def MoveBlocked (env : Env) (s : Slot) : Prop :=
  s.hasIncallDataStateMachine = true ∨ s.slotId = cellDataSlotId3 ∧ env.tstsModeEnabled = true

instance : Decidable (MoveBlocked env s) := inferInstanceAs (Decidable (_ ∨ _))

theorem Covered.movesPermission (h : s.Covered d mode) (hlent : s.Lent)
    (hsteady : SteadyDsds d mode env s) (hfree : ¬ MoveBlocked env s) : MovesPermission env s := by
  unfold MoveBlocked at hfree
  rw [not_or, Bool.not_eq_true] at hfree
  exact ⟨hfree.1, hfree.2, hsteady.checkDataPermittedByDsds.mpr (h hlent).1⟩

/-- The lent permission is not returned where the handler takes a report or timer that is for it. -/
def DropsReturn (l : Label) (s : Slot) : Prop :=
  ∃ env e, l = .dispatchHandler env ∧ s.taken l = some e ∧ s.Lent ∧
    (e = .resumeDataPermittedTimeout ∧ ((s.holder .mms).apnState = .retrying ∨
        (s.holder .mms).apnState = .idle ∧ MoveBlocked env s) ∨
      (∃ info, e = .disconnectDataComplete info ∧ info.flag = ApnType.mms.id) ∧ MoveBlocked env s)

/-- The default data slot and the DSDS mode are the same in all steps. -/
def KeepsDsds (d mode : Int) (l : Label) (s : Slot) : Prop :=
  ∀ env, l.handlerEnv = some env → SteadyDsds d mode env s ∧
    ∀ m, s.taken l = some (.dsdsModeChanged m) → m = env.dsdsMode

/-! Steps -/

theorem Covered.resumeDataPermittedTimerOut {q : EventQueue HandlerEvent} (hs : system.Reachable s)
    (h : s.Covered d mode) (hsteady : SteadyDsds d mode env s)
    (hkept : s.Lent → (s.holder .mms).apnState ≠ .retrying ∧
      ((s.holder .mms).apnState = .idle → ¬ MoveBlocked env s)) :
    (Slot.resumeDataPermittedTimerOut env { s with queue := q }).Covered d mode := by
  unfold Slot.resumeDataPermittedTimerOut
  by_cases hlent : s.Lent
  · obtain ⟨hretrying, hblocked⟩ := hkept hlent
    split_ifs with hidle
    · have hmoves : MovesPermission env { s with queue := q } :=
        h.movesPermission hlent hsteady (hblocked hidle)
      exact covered_of_returned (setDataPermittedForMms_moves hmoves false)
    · intro _
      refine ⟨(h hlent).1, .inr ?_⟩
      change (s.holder .mms).apnState.isEngaged = true
      have hfailed := reachable_not_failed hs .mms
      have hidle' : (s.holder .mms).apnState ≠ .idle := hidle
      cases hstate : (s.holder .mms).apnState with
      | idle => exact absurd hstate hidle'
      | retrying => exact absurd hstate hretrying
      | failed => exact absurd hstate hfailed
      | _ => rfl
  · have hq : Slot.Covered d mode { s with queue := q } := fun hl => absurd hl hlent
    split_ifs
    · exact (Op.write Write.giveBack).moved.covered hsteady hq
    · exact hq

/-- A completion leaves MMS with its machine, where the timer is no longer needed. -/
theorem Covered.complete {info : SetupDataCallResultInfo} {s₁ s₂ s₃ : Slot} {m : MachineRef}
    (h : s.Covered d mode) (hsteady : SteadyDsds d mode env s)
    (hm : (s.holder t).cellularDataStateMachine = some m)
    (h₁ : Writes env (s.completed env t info) s₁)
    (h₂ : Writes env (match (s.holder t).cellularDataStateMachine with
      | some _ => s₁
      | none => s₁.setApnState t .idle) s₂)
    (h₃ : Writes env (s₂.updateCellularDataConnectState t) s₃) :
    Covered d mode (if t = .mms then s₃.removeEvent isResumeDataPermittedTimeout else s₃) := by
  rw [hm] at h₂
  have hall : Writes env (s.completed env t info) s₃ :=
    h₁.trans (h₂.trans (Write.push.writes.trans h₃))
  have hstate : ∀ u, ((s.completed env t info).holder u).apnState =
      if u = t then .connected else (s.holder u).apnState := fun u =>
    apnState_setApnState (s := s.setApnActivateEnd env info) t u .connected
  have hcompleted : (s.completed env t info).Covered d mode := by
    refine h.of_frame rfl rfl id fun he => ?_
    rw [hstate]
    split_ifs
    · rfl
    · exact he
  have hcovered : s₃.Covered d mode := hall.covered (hsteady.congr rfl) hcompleted
  split_ifs with ht
  · intro hl
    refine ⟨(hcovered hl).1, .inr ?_⟩
    change (s₃.holder .mms).apnState.isEngaged = true
    rw [hall.apnState, hstate, if_pos ht.symm]
    rfl
  · exact hcovered

theorem Covered.finish {info : SetupDataCallResultInfo} {s₁ : Slot} {m : MachineRef}
    (h : s.Covered d mode) (hsteady : SteadyDsds d mode env s)
    (ht : ApnType.ofId info.flag = some t)
    (hm : (s.holder t).cellularDataStateMachine = some m)
    (hd : Does env (Establishes env)
      ((s.releaseMachine env t m info).updateCellularDataConnectState t) s₁)
    (heq : s.disconnectDataComplete env info = s₁.handleDisconnectDataCompleteForMmsType env t)
    (hkept : s.Lent → t = .mms → ¬ MoveBlocked env s) :
    (s.disconnectDataComplete env info).Covered d mode := by
  have hsetting : (s.releaseMachine env t m info).setting = s.setting :=
    setting_releaseMachine t m info
  have hhome := home_of_setting hsetting
  have hlatest : (s.releaseMachine env t m info).latest Effect.lends = s.latest Effect.lends := by
    unfold releaseMachine
    extract_lets menv s₂ s₃ s₄
    have h₂ : s₂.latest Effect.lends = s.latest Effect.lends :=
      latest_callMachine (fun _ _ => rfl) m _
    have h₃ : s₃.latest Effect.lends = s₂.latest Effect.lends := by
      dsimp only [s₃]
      split <;> rfl
    exact h₃.trans h₂
  replace hd := (Op.write Write.push).does.trans hd
  by_cases hmms : t = .mms
  · subst hmms
    by_cases hmoves : MovesPermission env s
    · exact covered_of_returned (disconnectDataComplete_returns hmoves ht hm)
    · have hlent : ¬ s.Lent := fun hl => hmoves (h.movesPermission hl hsteady (hkept hl rfl))
      have hbefore : ¬ MovesPermission env (s.releaseMachine env .mms m info) ∧
          ¬ (s.releaseMachine env .mms m info).Lent :=
        ⟨fun hm => hmoves ((movesPermission_congr hhome).mp hm),
          fun hl => hlent (hlatest.symm.trans hl)⟩
      obtain ⟨hmoves₁, hlent₁⟩ := hd.unlent hbefore
      rw [heq]
      unfold handleDisconnectDataCompleteForMmsType
      rw [if_pos rfl, setDataPermittedForMms_stays hmoves₁]
      exact fun hl => absurd hl hlent₁
  · rw [heq]
    unfold handleDisconnectDataCompleteForMmsType
    rw [if_neg hmms]
    have hslot := (Prod.mk.inj hhome).1
    refine hd.covered (hsteady.congr hslot) (h.of_frame hslot hlatest (fun hx => ?_) fun he => ?_)
    · rw [queue_of_setting hsetting]
      exact hx
    · rw [apnState_releaseMachine, if_neg fun heq => hmms heq.symm]
      exact he

theorem covered_step (hs : system.Reachable s) (h : s.Covered d mode)
    (hkeeps : KeepsDsds d mode l s) (hdrops : ¬ DropsReturn l s)
    (hstep : system.step l s = some s') : s'.Covered d mode := by
  cases step_steps hstep with
  | aside ha =>
    have hslot : s'.slotId = s.slotId := congrArg (·.2.2.1) ha.frame
    refine h.of_frame hslot (latest_aside (fun _ _ => rfl) ha) (ha.pending _) fun he => ?_
    rw [ha.holder]
    exact he
  | call hd => exact hd.covered (hkeeps _ rfl).1 h
  | @take env e q hnext =>
    have hsteady : SteadyDsds d mode env s := (hkeeps env rfl).1
    have htaken : s.taken (.dispatchHandler env) = some e := by simp [taken, hnext]
    have hkept : ∀ hl : s.Lent, ¬ (e = .resumeDataPermittedTimeout ∧
        ((s.holder .mms).apnState = .retrying ∨
          (s.holder .mms).apnState = .idle ∧ MoveBlocked env s) ∨
        (∃ info, e = .disconnectDataComplete info ∧ info.flag = ApnType.mms.id) ∧
          MoveBlocked env s) := fun hl hdrop => hdrops ⟨env, e, rfl, htaken, hl, hdrop⟩
    by_cases hresume : e = .resumeDataPermittedTimeout
    · subst hresume
      refine h.resumeDataPermittedTimerOut hs hsteady fun hl => ⟨fun hr => ?_, fun hi hb => ?_⟩
      · exact hkept hl (.inl ⟨rfl, .inl hr⟩)
      · exact hkept hl (.inl ⟨rfl, .inr ⟨hi, hb⟩⟩)
    · have hq : Slot.Covered d mode { s with queue := q } := by
        refine h.of_frame rfl rfl (fun hx => ?_) id
        exact ((EventQueue.mem_pending_next hnext).mp hx).resolve_left fun heq => hresume heq.symm
      generalize hs' : processEvent env { s with queue := q } e = s'
      have htakes : Takes env { s with queue := q } e s' := hs' ▸ processEvent_takes env _ e
      cases htakes with
      | event he hd => exact hd.covered hsteady hq
      | @request request t _ _ hw =>
        refine hw.covered (hsteady.congr rfl) (hq.of_frame rfl rfl id fun he => ?_)
        rw [(hidden_requestCellularData t request.capability).apnState]
        exact he
      | noCompletion _ => exact hq.of_frame rfl rfl id id
      | complete ht h₁ h₂ h₃ =>
        obtain ⟨m, hm⟩ := owner_of_completion hs hnext ht
        exact hq.complete hsteady hm h₁ h₂ h₃
      | noEnd _ => exact hq
      | endWithoutMachine ht hm =>
        obtain ⟨m, hm'⟩ := owner_of_end hs hnext ht
        cases Eq.trans (Eq.symm hm) hm'
      | @finish info t m s₁ ht hm hd =>
        rw [← hs']
        refine hq.finish hsteady ht hm hd hs' fun hl hmms hb => ?_
        subst hmms
        exact hkept hl (.inr ⟨⟨info, rfl, (ApnType.id_of_ofId ht).symm⟩, hb⟩)
      | update hw => exact hw.covered hsteady hq

/-! A slot after `Init` -/

theorem latest_queryUserDataRoamingStatus {α : Type} (f : Effect → Option α) :
    (s.queryUserDataRoamingStatus env).1.latest f = s.latest f := by
  rcases queryUserDataRoamingStatus_cases env s with ⟨on, h⟩ | h
  · rw [h]
    rfl
  · rw [h]

theorem latest_loadSwitchValue {α : Type} (f : Effect → Option α) :
    (s.loadSwitchValue env).latest f = s.latest f := by
  refine (latest_queryUserDataRoamingStatus f).trans ?_
  unfold queryUserDataStatus
  split_ifs
  · rfl
  · split <;> rfl

theorem latest_getDefaultDataEnableConfig :
    (s.getDefaultDataEnableConfig env).latest Effect.lends = s.latest Effect.lends := by
  unfold getDefaultDataEnableConfig
  split_ifs
  · rfl
  · split
    · refine (latest_effect rfl).trans ?_
      cases env.operatorConfig.defaultDataEnable with
      | none => rfl
      | some on =>
        change (s.setUserDataOn env on).1.latest Effect.lends = s.latest Effect.lends
        unfold setUserDataOn
        split_ifs
        · rfl
        · dsimp only
          split <;> exact latest_effect rfl
    · rfl

theorem clearAllConnections_unlent (h : s.Unused) (reason : DisConnectionReason) :
    (s.clearAllConnections env reason).latest Effect.lends = s.latest Effect.lends := by
  unfold clearAllConnections
  split_ifs
  · exact latest_effect rfl
  · rw [clearHolders_unused
      (s := { s.effect .deactivatePdpAfterHandover with isHandoverOccurred := false }) h]
    exact latest_effect rfl
  · rw [clearHolders_unused h]

theorem getDefaultDataRoamingConfig_unlent (h : s.Unused) :
    (s.getDefaultDataRoamingConfig env).latest Effect.lends = s.latest Effect.lends := by
  unfold getDefaultDataRoamingConfig
  extract_lets s₁
  have h₁ : s₁.latest Effect.lends = s.latest Effect.lends := rfl
  have hquery : (s₁.queryUserDataRoamingStatus env).1.latest Effect.lends =
      s₁.latest Effect.lends := latest_queryUserDataRoamingStatus _
  have hmanager : (s₁.queryUserDataRoamingStatus env).1.apnManager = s.apnManager :=
    apnManager_queryUserDataRoamingStatus
  generalize s₁.queryUserDataRoamingStatus env = r at hquery hmanager ⊢
  obtain ⟨s₂, stored⟩ := r
  have h₂ : s₂.latest Effect.lends = s.latest Effect.lends := hquery.trans h₁
  cases stored with
  | some _ => exact h₂
  | none =>
    dsimp only
    split_ifs
    · exact h₂
    · have hunused : (s₂.modifySwitches fun d =>
          { d with userDataRoaming := s₂.defaultDataRoamingEnable }).Unused := h.congr hmanager
      have hlatest : (s₂.modifySwitches fun d =>
          { d with userDataRoaming := s₂.defaultDataRoamingEnable }).latest Effect.lends =
            s.latest Effect.lends := h₂
      generalize (s₂.modifySwitches fun d =>
        { d with userDataRoaming := s₂.defaultDataRoamingEnable }) = s₃ at hunused hlatest ⊢
      have hclear : (s₃.clearAllConnections env .retryConnection).Unused :=
        hunused.congr (clearAllConnections_unused hunused _)
      have hcleared : (s₃.clearAllConnections env .retryConnection).latest Effect.lends =
          s.latest Effect.lends := (clearAllConnections_unlent hunused _).trans hlatest
      split
      · rw [establishAllApnsIfConnectable_eq hclear]
        exact hcleared
      · rw [establishAllApnsIfConnectable_eq hclear]
        exact hcleared
      · rw [establishAllApnsIfConnectable_eq hunused]
        exact hlatest
    · exact h₂

theorem initial_covered (h : Initial s) : s.Covered d mode := by
  obtain ⟨env, slotId, l, -, rfl⟩ := h
  generalize hs : ({ slotId, apnManager := { sortedApnHolders := l } } : Slot) = s
  have hunused : s.Unused := by
    rw [← hs]
    exact fun t => ⟨rfl, rfl⟩
  have hnone : s.latest Effect.lends = none := by
    rw [← hs]
    rfl
  unfold init getDefaultConfiguration
  extract_lets s₁ s₂ s₃
  have h₂ : s₂.latest Effect.lends = s.latest Effect.lends ∧ s₂.apnManager = s.apnManager := by
    have hsingle : s₂.latest Effect.lends = (s.loadSwitchValue env).latest Effect.lends ∧
        s₂.apnManager = (s.loadSwitchValue env).apnManager := by
      dsimp only [s₂]
      unfold getSinglePdpEnabledFromOpCfg
      split <;> exact ⟨rfl, rfl⟩
    exact ⟨hsingle.1.trans (latest_loadSwitchValue _), hsingle.2.trans apnManager_loadSwitchValue⟩
  have h₃ : s₃.latest Effect.lends = s₂.latest Effect.lends :=
    getDefaultDataRoamingConfig_unlent (hunused.congr h₂.2)
  intro hl
  have hl' : (s₃.getDefaultDataEnableConfig env).latest Effect.lends = some true := hl
  rw [latest_getDefaultDataEnableConfig, h₃, h₂.1, hnone] at hl'
  cases hl'

/-! Runs -/

/-- The borrowed permission has been returned once MMS is idle and the timer is gone, in every run
in which no return is dropped. -/
theorem permission_returned
    (h : system.ReachableWhen (fun l s => KeepsDsds d mode l s ∧ ¬ DropsReturn l s) s)
    (hidle : (s.holder .mms).apnState = .idle)
    (hnone : .resumeDataPermittedTimeout ∉ s.queue.pending) : ¬ s.Lent := by
  have hcovered : s.Covered d mode := by
    refine h.invariant (P := fun s => s.Covered d mode) (fun _ hs => initial_covered hs) ?_
    intro l s s' hs hp hok hstep
    exact covered_step hs.reachable hp hok.1 hok.2 hstep
  intro hl
  rcases (hcovered hl).2 with hpending | hengaged
  · exact hnone hpending
  · rw [hidle] at hengaged
    cases hengaged

/-! MMS on the second slot -/

instance : Decidable s.Lent := inferInstanceAs (Decidable (_ = _))

instance : Decidable (SteadyDsds d mode env s) := inferInstanceAs (Decidable (_ ∧ _))

def detachedEnv : Env := { serviceEnv with psRegInService := false }

def secondSlot : Slot :=
  init serviceEnv { slotId := 1, apnManager := { sortedApnHolders := sortedHolders } }

theorem secondSlot_initial : system.init secondSlot :=
  ⟨serviceEnv, 1, sortedHolders, ⟨by decide +kernel, by decide +kernel⟩, rfl⟩

/-- The first slot stays the default one, and the step is none that could move the DSDS mode. -/
def isSteady (l : Label) (s : Slot) : Bool :=
  l.handlerEnv.all fun env => decide (SteadyDsds 0 dsdsModeV2 env s) &&
    (s.taken l).all fun e =>
      match e with
      | .dsdsModeChanged _ => false
      | _ => true

theorem keepsDsds_of_isSteady (l : Label) (s : Slot) (h : isSteady l s = true) :
    KeepsDsds 0 dsdsModeV2 l s := by
  intro env henv
  rw [isSteady, henv, Option.all_some, Bool.and_eq_true] at h
  refine ⟨of_decide_eq_true h.1, fun m htaken => ?_⟩
  rw [htaken, Option.all_some] at h
  cases h.2

/-- No call machine exists and MMS does not wait for a retry. -/
def isUndisturbed (l : Label) (s : Slot) : Bool :=
  isSteady l s && !s.hasIncallDataStateMachine && decide (s.slotId = 1) &&
    decide ((s.holder .mms).apnState ≠ .retrying)

theorem kept_of_isUndisturbed (l : Label) (s : Slot) (h : isUndisturbed l s = true) :
    KeepsDsds 0 dsdsModeV2 l s ∧ ¬ DropsReturn l s := by
  simp only [isUndisturbed, Bool.and_eq_true, Bool.not_eq_true', decide_eq_true_eq] at h
  obtain ⟨⟨⟨hsteady, hincall⟩, hslot⟩, hretrying⟩ := h
  refine ⟨keepsDsds_of_isSteady l s hsteady, ?_⟩
  have hfree : ∀ env, ¬ MoveBlocked env s := by
    rintro env (hi | ⟨hthird, -⟩)
    · cases hincall.symm.trans hi
    · cases hslot.symm.trans hthird
  rintro ⟨env, e, -, -, -, ⟨-, hr | ⟨-, hb⟩⟩ | ⟨-, hb⟩⟩
  · exact hretrying hr
  · exact hfree env hb
  · exact hfree env hb

def loadSecondLabels : List Label :=
  [.postHandler (.sim .recordsLoaded 1), .dispatchHandler serviceEnv]

/-- MMS is asked for where packet service is missing; the timer gives the permission back. -/
def borrowedLabels : List Label :=
  loadSecondLabels ++ [.call detachedEnv (.requestNet true [.mms] (.other 0)),
    .dispatchHandler detachedEnv, .dispatchHandler detachedEnv, .fireHandler 0,
    .dispatchHandler detachedEnv]

theorem permission_returned_borrowed : ∃ s,
    system.runIf isUndisturbed borrowedLabels secondSlot = some s ∧
      .changeConnectionForDsds 0 false ∈ s.effects ∧ (s.holder .mms).apnState = .idle ∧
      .resumeDataPermittedTimeout ∉ s.queue.pending ∧ ¬ s.Lent := by
  have hrun : (system.runIf isUndisturbed borrowedLabels secondSlot).any (fun s =>
      .changeConnectionForDsds 0 false ∈ s.effects ∧ (s.holder .mms).apnState = .idle ∧
        .resumeDataPermittedTimeout ∉ s.queue.pending) = true := by decide +kernel
  obtain ⟨s, hs, hp⟩ := (Option.any_eq_true _ _).mp hrun
  obtain ⟨hlend, hidle, hnone⟩ := of_decide_eq_true hp
  have hreach := (TransitionSystem.ReachableWhen.init secondSlot_initial).path
    (TransitionSystem.path_of_runIf kept_of_isUndisturbed hs)
  exact ⟨s, hs, hlend, hidle, hnone, permission_returned hreach hidle hnone⟩

/-- A call starts over IMS. -/
def imsEnv : Env := { detachedEnv with imsRegistered := true }

/-- The permission is lent, a call starts on the second slot, and then the timer expires. -/
def droppedLabels : List Label :=
  loadSecondLabels ++ [.call detachedEnv (.requestNet true [.mms] (.other 0)),
    .dispatchHandler detachedEnv, .dispatchHandler detachedEnv,
    .call imsEnv (.callStateChanged .dialing), .fireHandler 0, .dispatchHandler imsEnv]

/-- The machine of the call stands in the way of the return, and nothing asks for it again: the
permission stays with the second slot. -/
theorem permission_kept : ∃ s, system.ReachableWhen (KeepsDsds 0 dsdsModeV2) s ∧
    system.runIf isSteady droppedLabels secondSlot = some s ∧ s.Lent ∧
      s.hasIncallDataStateMachine = true ∧ (s.holder .mms).apnState = .idle ∧
      s.queue.pending = [] := by
  have hrun : (system.runIf isSteady droppedLabels secondSlot).any (fun s => s.Lent ∧
      s.hasIncallDataStateMachine = true ∧ (s.holder .mms).apnState = .idle ∧
        s.queue.pending = []) = true := by decide +kernel
  obtain ⟨s, hs, hp⟩ := (Option.any_eq_true _ _).mp hrun
  refine ⟨s, ?_, hs, of_decide_eq_true hp⟩
  exact (TransitionSystem.ReachableWhen.init secondSlot_initial).path
    (TransitionSystem.path_of_runIf keepsDsds_of_isSteady hs)

end Slot
end CellularData
