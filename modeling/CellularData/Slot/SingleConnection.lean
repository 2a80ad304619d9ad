import CellularData.Slot.Steps
import CellularData.Slot.Holding

/-! In single-connection mode at most one holder is connecting, connected or disconnecting. -/
namespace CellularData
open Lib StateMachine Relation

namespace Core

variable {k k' : Core} {t : ApnType}

/-- At most one holder is up, and a holder that has a machine is up. -/
structure Exclusive (k : Core) : Prop where
  engaged : ∀ t, k.owner t ≠ none → (k.state t).isEngaged = true
  unique : ∀ t u, (k.state t).isEngaged = true → (k.state u).isEngaged = true → t = u

/-- No holder comes up. -/
theorem Exclusive.of_le (h : k.Exclusive)
    (hstate : ∀ t, (k'.state t).isEngaged = true → (k.state t).isEngaged = true)
    (howner : ∀ t, k'.owner t ≠ none → (k'.state t).isEngaged = true) : k'.Exclusive :=
  ⟨howner, fun t u ht hu => h.unique t u (hstate t ht) (hstate u hu)⟩

theorem Exclusive.setState (h : k.Exclusive) {st : ApnProfileState}
    (hstate : st.isEngaged = true → (k.state t).isEngaged = true)
    (howner : k.owner t ≠ none → st.isEngaged = true) : (k.setState t st).Exclusive := by
  refine h.of_le (fun u hu => ?_) fun u hu => ?_
  · simp only [Core.setState] at hu
    split_ifs at hu with heq
    · rw [heq]
      exact hstate hu
    · exact hu
  · simp only [Core.setState]
    split_ifs with heq
    · subst heq
      exact howner hu
    · exact h.engaged u hu

theorem Exclusive.post (h : k.Exclusive) (m : MachineRef) (e : MachineEvent) :
    (k.post m e).Exclusive := h.of_le (fun _ ht => ht) h.engaged

/-- A holder is connected where none was up. -/
theorem Exclusive.connect (h : k.Exclusive) (hnone : ∀ u, (k.state u).isEngaged = false)
    (m : MachineRef) (params : DataConnectionParams) (record : ConnectRecord) :
    (k.connect t m params record).Exclusive := by
  have hstate : ∀ u, ((k.connect t m params record).state u).isEngaged = true → u = t := by
    intro u hu
    by_contra hne
    have heq : (k.connect t m params record).state u = k.state u := if_neg hne
    rw [heq, hnone u] at hu
    cases hu
  refine ⟨fun u hu => ?_, fun u v hu hv => (hstate u hu).trans (hstate v hv).symm⟩
  by_cases heq : u = t
  · have hconnecting : (k.connect t m params record).state u = .connecting := if_pos heq
    rw [hconnecting]
    rfl
  · have howner : (k.connect t m params record).owner u = k.owner u := if_neg heq
    have hengaged := h.engaged u (howner ▸ hu)
    rw [hnone u] at hengaged
    cases hengaged

/-- The holder gives up its machine. -/
theorem Exclusive.release (h : k.Exclusive) (m : MachineRef) :
    (((k.unregister m).setOwner t none).setState t .idle).Exclusive := by
  obtain ⟨hstate, howner, -, -⟩ := unregister_frame k m
  refine h.of_le (fun u hu => ?_) fun u hu => ?_
  · simp only [Core.setState, setOwner, hstate] at hu
    split_ifs at hu
    · cases hu
    · exact hu
  · simp only [Core.setState, setOwner, hstate, howner] at hu ⊢
    split_ifs at hu ⊢
    · exact absurd rfl hu
    · exact h.engaged u hu

end Core

/-- The environment in which a step runs the handler. -/
def Label.handlerEnv : Label → Option Env
  | .dispatchHandler env | .call env _ => some env
  | _ => none

namespace Slot

variable {env : Env} {s s' : Slot} {t : ApnType} {l : Label}

/-! The answer of `IsSingleConnectionEnabled` within a step -/

theorem answersSingle_congr
    (h : s'.multipleConnectionsEnabled = s.multipleConnectionsEnabled) :
    AnswersSingle env s' ↔ AnswersSingle env s := by
  unfold AnswersSingle isSingleConnectionEnabled getSinglePdpEnabledFromOpCfg
  split_ifs
  · exact Iff.rfl
  · cases env.operatorConfig.singlePdpEnabled with
    | some v => exact Iff.rfl
    | none => simp only [h]

theorem answersSingle_of_setting (h : s'.setting = s.setting) :
    AnswersSingle env s' ↔ AnswersSingle env s := answersSingle_congr (congrArg (·.2.2.1) h)

/-- The answer after the default has been loaded. -/
def ConfiguredSingle (env : Env) : Prop :=
  AnswersSingle env { multipleConnectionsEnabled := env.defaultMultipleConnections }

theorem Write.answersSingle (h : Write env s s') :
    (AnswersSingle env s' ↔ AnswersSingle env s) ∨
      (AnswersSingle env s' ↔ ConfiguredSingle env) := by
  cases h with
  | other h => exact .inl (answersSingle_congr (congrArg (·.2.2.2.2.2.2.1) h))
  | single hb => exact .inl hb
  | configure => exact .inr (answersSingle_congr rfl)
  | fault _ => exact .inl (answersSingle_congr rfl)
  | push => exact .inl (answersSingle_of_setting (setting_updateCellularDataConnectState _))
  | machine _ => exact .inl (answersSingle_of_setting (setting_callMachine _ _))
  | reuse _ => exact .inl (answersSingle_of_setting (setting_callMachine _ _))
  | reload => exact .inl (answersSingle_of_setting (setting_applyApnReload _))
  | setBad => exact .inl (answersSingle_of_setting (setting_setApnBadState _ _))
  | lend =>
    left
    unfold lendDataPermitted
    rw [answersSingle_of_setting (setting_setDataPermittedForMms true)]
    apply answersSingle_congr
    split_ifs <;> rfl
  | giveBack => exact .inl (answersSingle_of_setting (setting_setDataPermittedForMms false))
  | effect _ => exact .inl (answersSingle_congr rfl)
  | holder _ _ _ _ _ => exact .inl (answersSingle_congr rfl)
  | clearBad => exact .inl (answersSingle_congr rfl)
  | send _ => exact .inl (answersSingle_congr rfl)
  | sendAfter _ => exact .inl (answersSingle_congr rfl)
  | remove _ => exact .inl (answersSingle_congr rfl)
  | incall => exact .inl (answersSingle_congr rfl)

theorem multipleConnectionsEnabled_renewHolders :
    s.renewHolders.multipleConnectionsEnabled = s.multipleConnectionsEnabled := by
  refine apply_renewHolders multipleConnectionsEnabled (fun s t => ?_) s
  unfold renewHolder
  split_ifs
  · rfl
  · rfl

theorem Op.answersSingle (h : Op env (Connects env) s s') :
    (AnswersSingle env s' ↔ AnswersSingle env s) ∨
      (AnswersSingle env s' ↔ ConfiguredSingle env) := by
  cases h with
  | write h => exact h.answersSingle
  | disconnect _ => exact .inl (answersSingle_congr rfl)
  | reset _ => exact .inl (answersSingle_congr rfl)
  | retry _ _ _ => exact .inl (answersSingle_congr rfl)
  | renew => exact .inl (answersSingle_congr multipleConnectionsEnabled_renewHolders)
  | tell _ => exact .inl (answersSingle_congr rfl)
  | search =>
    obtain ⟨d, c, heq⟩ := checkForCompatibleDataConnection_eq env s _
    rw [heq]
    exact .inl (answersSingle_congr rfl)
  | connect h =>
    obtain ⟨t, -, -, -⟩ := h
    exact .inl (answersSingle_of_setting ((setting_startConnection _ _ _ _).trans
      setting_findOrCreateCellularDataConnect))

theorem Does.answersSingle (h : Does env (Connects env) s s') :
    (AnswersSingle env s' ↔ AnswersSingle env s) ∨
      (AnswersSingle env s' ↔ ConfiguredSingle env) := by
  induction h with
  | refl => exact .inl Iff.rfl
  | tail _ hop ih =>
    rcases hop.answersSingle with hsame | hconfigured
    · rw [hsame]
      exact ih
    · exact .inr hconfigured

/-- Where the answer is true before and after a step it is true all the time. -/
theorem answersSingle_between {s₁ : Slot} (h : Does env (Connects env) s s₁)
    (h' : Does env (Connects env) s₁ s') (hs : AnswersSingle env s) (hs' : AnswersSingle env s') :
    AnswersSingle env s₁ := by
  rcases h.answersSingle with hsame | hconfigured
  · exact hsame.mpr hs
  · rcases h'.answersSingle with hsame' | hconfigured'
    · exact hsame'.mp hs'
    · exact hconfigured.mpr (hconfigured'.mp hs')

/-! Exclusion -/

theorem exclusive_renewHolder (h : s.core.Exclusive) (t : ApnType) :
    (s.renewHolder t).core.Exclusive := by
  refine h.of_le (fun u hu => ?_) fun u hu => ?_
  · have hstate : ((s.renewHolder t).holder u).apnState.isEngaged = true := hu
    rw [apnState_renewHolder] at hstate
    split_ifs at hstate
    · cases hstate
    · exact hstate
  · have howner : ((s.renewHolder t).holder u).cellularDataStateMachine ≠ none := hu
    rw [machine_renewHolder] at howner
    have hengaged : (s.holder u).apnState.isEngaged = true := h.engaged u howner
    change ((s.renewHolder t).holder u).apnState.isEngaged = true
    rw [apnState_renewHolder]
    split_ifs with heq
    · rw [heq.1, heq.2] at hengaged
      cases hengaged
    · exact hengaged

theorem exclusive_op (h : s.core.Exclusive) (hsingle : AnswersSingle env s)
    (hop : Op env (Connects env) s s') : s'.core.Exclusive := by
  cases hop with
  | write hw =>
    rw [hw.hidden.core]
    exact h
  | @disconnect t m params howner =>
    have hengaged : (s.core.state t).isEngaged = true :=
      h.engaged t fun hnone => by cases hnone.symm.trans howner
    rw [core_postMachine, core_setApnState]
    exact (h.setState (fun _ => hengaged) fun _ => rfl).post m _
  | @reset t hfailed =>
    rw [core_setApnState]
    refine h.setState (fun hst => nomatch hst) fun howner => ?_
    have hengaged : (s.holder t).apnState.isEngaged = true := h.engaged t howner
    rcases hfailed with hst | hst <;> rw [hst] at hengaged <;> cases hengaged
  | @retry t id delay hidle hid henabled =>
    rw [(hidden_sendEventAfter rfl delay).core, core_setApnState]
    refine h.setState (fun hst => nomatch hst) fun howner => ?_
    have hengaged : (s.holder t).apnState.isEngaged = true := h.engaged t howner
    rw [hidle] at hengaged
    cases hengaged
  | renew =>
    exact renewHolders_invariant (P := fun s => s.core.Exclusive)
      (fun _ t h => exclusive_renewHolder h t) h
  | tell _ => exact h.of_le (fun _ hu => hu) h.engaged
  | search =>
    rw [(hidden_checkForCompatibleDataConnection _).core]
    exact h
  | connect hc =>
    obtain ⟨t, hc⟩ := hc
    cases hc with
    | @start apnItem hidle hopen hfree =>
      have hnone := not_engaged_of_overall (hfree hsingle)
      have hsame : s.findOrCreateCellularDataConnect.1.holder = s.holder :=
        funext holder_findOrCreateCellularDataConnect
      obtain ⟨params, -, hcore, -⟩ := core_startConnection env s.findOrCreateCellularDataConnect.1
        t s.findOrCreateCellularDataConnect.2 apnItem env.psRadioTech
      rw [hcore]
      refine Core.Exclusive.connect ⟨?_, ?_⟩ ?_ _ params _
      · simp only [core, hsame]
        exact h.engaged
      · simp only [core, hsame]
        exact h.unique
      · simp only [core, hsame]
        exact hnone

theorem exclusive_does (h : s.core.Exclusive) (hd : Does env (Connects env) s s')
    (hs : AnswersSingle env s) (hs' : AnswersSingle env s') : s'.core.Exclusive := by
  have hall : ∀ s₁, Does env (Connects env) s s₁ → Does env (Connects env) s₁ s' →
      s₁.core.Exclusive := by
    intro s₁ h₁
    induction h₁ with
    | refl => exact fun _ => h
    | tail h₁ hop ih =>
      intro h₂
      have hrest := hop.does.trans h₂
      exact exclusive_op (ih hrest) (answersSingle_between h₁ hrest hs hs') hop
  exact hall s' hd (.refl s')

theorem exclusive_hidden (h : s.core.Exclusive) (hh : Hidden s s') : s'.core.Exclusive := by
  rw [hh.core]
  exact h

theorem answersSingle_handleDisconnectDataCompleteForMmsType (t : ApnType) :
    AnswersSingle env (s.handleDisconnectDataCompleteForMmsType env t) ↔ AnswersSingle env s := by
  unfold handleDisconnectDataCompleteForMmsType
  split_ifs
  · have hgive : (s.setDataPermittedForMms env false).setting = s.setting :=
      setting_setDataPermittedForMms false
    refine Iff.trans ?_ (answersSingle_of_setting hgive)
    exact answersSingle_congr rfl
  · exact Iff.rfl

theorem exclusive_takes {e : HandlerEvent} (h : s.core.Exclusive) (ht : Takes env s e s')
    (hs : AnswersSingle env s) (hs' : AnswersSingle env s') : s'.core.Exclusive := by
  cases ht with
  | event _ hd => exact exclusive_does h hd.connects hs hs'
  | @request request t _ ht hw =>
    exact exclusive_hidden (exclusive_hidden h (hidden_requestCellularData t _)) hw.hidden
  | noCompletion _ => exact h
  | @complete info t s₁ s₂ s₃ ht h₁ h₂ h₃ =>
    replace h₂ := h₂.trans (Write.push.writes.trans h₃)
    refine exclusive_hidden ?_ hidden_dropResume
    have hcore₁ : s₁.core = s.core.setState t .connected := by
      rw [h₁.hidden.core, completed, core_setApnState]
      rfl
    cases hm : (s.holder t).cellularDataStateMachine with
    | some m =>
      have hengaged : (s.core.state t).isEngaged = true :=
        h.engaged t fun hnone => by cases hnone.symm.trans hm
      rw [hm] at h₂
      refine exclusive_hidden ?_ h₂.hidden
      rw [hcore₁]
      exact h.setState (fun _ => hengaged) fun _ => rfl
    | none =>
      rw [hm] at h₂
      refine exclusive_hidden ?_ h₂.hidden
      rw [core_setApnState, hcore₁, setState_setState]
      exact h.setState (fun hst => absurd hst Bool.false_ne_true) fun howner => absurd hm howner
  | noEnd _ => exact h
  | @endWithoutMachine info t ht hm =>
    rw [core_setApnState]
    exact h.setState (fun hst => absurd hst Bool.false_ne_true) fun howner => absurd hm howner
  | @finish info t m s₁ ht hm hd =>
    replace hd := (Op.write Write.push).does.trans hd
    refine exclusive_hidden ?_ (hidden_handleDisconnectDataCompleteForMmsType t)
    refine exclusive_does ?_ hd.connects
      ((answersSingle_of_setting (setting_releaseMachine t m info)).mpr hs)
      ((answersSingle_handleDisconnectDataCompleteForMmsType t).mp hs')
    rw [(releaseMachine_spec env s t m info).2]
    exact h.release m
  | update hw => exact exclusive_hidden h hw.hidden

/-! A slot after `Init` -/

/-- No holder is asked for or has a machine. -/
def Unused (s : Slot) : Prop :=
  ∀ t, (s.holder t).dataCallEnabled = false ∧ (s.holder t).cellularDataStateMachine = none

theorem clearHolders_unused (h : s.Unused) (reason : DisConnectionReason) :
    s.clearHolders reason = s := by
  unfold clearHolders
  generalize ApnType.all = l
  induction l with
  | nil => rfl
  | cons t l ih =>
    have hclear : (if t = .mms then s else s.clearConnection t reason) = s := by
      simp only [clearConnection, (h t).2, ite_self]
    rw [List.foldl_cons, hclear, ih]

theorem clearAllConnections_unused (h : s.Unused) (reason : DisConnectionReason) :
    (s.clearAllConnections env reason).apnManager = s.apnManager := by
  unfold clearAllConnections
  split_ifs
  · rfl
  · exact congrArg (·.apnManager) (clearHolders_unused
      (s := { s.effect .deactivatePdpAfterHandover with isHandoverOccurred := false }) h reason)
  · rw [clearHolders_unused h]

/-- Nothing is attempted for a holder that is not asked for. -/
theorem establishAllApnsIfConnectable_eq (h : s.Unused) :
    s.establishAllApnsIfConnectable env = s.clearAllApnBad := by
  have hfold : ∀ (l : List ApnType) (s : Slot), s.Unused →
      l.foldl (fun s t => s.establishIfConnectable env t) s = s := by
    intro l
    induction l with
    | nil => exact fun s _ => rfl
    | cons t l ih =>
      intro s h
      have hnot : s.establishIfConnectable env t = s := by
        simp [establishIfConnectable, (h t).1]
      rw [List.foldl_cons, hnot, ih s h]
  exact hfold _ s.clearAllApnBad h

theorem establishAllApnsIfConnectable_unused (h : s.Unused) :
    (s.establishAllApnsIfConnectable env).apnManager = s.apnManager := by
  rw [establishAllApnsIfConnectable_eq h]
  rfl

theorem apnManager_loadSwitchValue : (s.loadSwitchValue env).apnManager = s.apnManager := by
  unfold loadSwitchValue
  rw [apnManager_queryUserDataRoamingStatus]
  unfold queryUserDataStatus
  split_ifs
  · rfl
  · split <;> rfl

theorem apnManager_getDefaultDataEnableConfig :
    (s.getDefaultDataEnableConfig env).apnManager = s.apnManager := by
  unfold getDefaultDataEnableConfig
  split_ifs
  · rfl
  · split
    · cases env.operatorConfig.defaultDataEnable with
      | none => rfl
      | some on =>
        change (s.setUserDataOn env on).1.apnManager = s.apnManager
        unfold setUserDataOn
        split_ifs
        · rfl
        · dsimp only
          split <;> rfl
    · rfl

theorem Unused.congr (h : s.Unused) (heq : s'.apnManager = s.apnManager) : s'.Unused := by
  unfold Unused holder at h ⊢
  rw [heq]
  exact h

theorem getDefaultDataRoamingConfig_unused (h : s.Unused) :
    (s.getDefaultDataRoamingConfig env).apnManager = s.apnManager := by
  unfold getDefaultDataRoamingConfig
  extract_lets s₁
  have h₁ : s₁.apnManager = s.apnManager := rfl
  have hquery : (s₁.queryUserDataRoamingStatus env).1.apnManager = s₁.apnManager :=
    apnManager_queryUserDataRoamingStatus
  generalize s₁.queryUserDataRoamingStatus env = r at hquery ⊢
  obtain ⟨s₂, stored⟩ := r
  have h₂ : s₂.apnManager = s.apnManager := hquery.trans h₁
  cases stored with
  | some _ => exact h₂
  | none =>
    dsimp only
    split_ifs
    · exact h₂
    · have hunused : (s₂.modifySwitches fun d =>
          { d with userDataRoaming := s₂.defaultDataRoamingEnable }).Unused := h.congr h₂
      generalize hs₃ : (s₂.modifySwitches fun d =>
        { d with userDataRoaming := s₂.defaultDataRoamingEnable }) = s₃ at hunused ⊢
      have h₃ : s₃.apnManager = s.apnManager := hs₃ ▸ h₂
      have hclear : (s₃.clearAllConnections env .retryConnection).apnManager = s₃.apnManager :=
        clearAllConnections_unused hunused _
      split
      · exact (establishAllApnsIfConnectable_unused (hunused.congr hclear)).trans (hclear.trans h₃)
      · exact (establishAllApnsIfConnectable_unused (hunused.congr hclear)).trans (hclear.trans h₃)
      · exact (establishAllApnsIfConnectable_unused hunused).trans h₃
    · exact h₂

theorem init_unused (h : s.Unused) : (s.init env).apnManager = s.apnManager := by
  unfold init getDefaultConfiguration
  extract_lets s₁ s₂ s₃
  have h₁ : s₁.apnManager = s.apnManager := apnManager_loadSwitchValue
  have h₂ : s₂.apnManager = s₁.apnManager := by
    dsimp only [s₂]
    unfold getSinglePdpEnabledFromOpCfg
    split <;> rfl
  have h₃ : s₃.apnManager = s₂.apnManager :=
    getDefaultDataRoamingConfig_unused (h.congr (h₂.trans h₁))
  rw [apnManager_getDefaultDataEnableConfig, h₃, h₂, h₁]

theorem initial_holder (h : Initial s) (t : ApnType) : s.holder t = {} := by
  obtain ⟨env, slotId, l, -, rfl⟩ := h
  have hunused : Slot.Unused { slotId, apnManager := { sortedApnHolders := l } } :=
    fun t => ⟨rfl, rfl⟩
  have hinit : (init env { slotId, apnManager := { sortedApnHolders := l } }).apnManager =
      { sortedApnHolders := l } := init_unused hunused
  unfold holder
  rw [hinit]

theorem initial_exclusive (h : Initial s) : s.core.Exclusive := by
  refine ⟨fun t ht => ?_, fun t u ht => ?_⟩
  · simp [core, initial_holder h] at ht
  · simp [core, initial_holder h, ApnProfileState.isEngaged] at ht

/-! Runs -/

/-- `IsSingleConnectionEnabled` answers true before and after each step of the handler. -/
def SingleThroughout (l : Label) (s : Slot) : Prop :=
  ∀ env s', l.handlerEnv = some env → system.step l s = some s' →
    AnswersSingle env s ∧ AnswersSingle env s'

theorem exclusive_step (h : s.core.Exclusive) (hok : SingleThroughout l s)
    (hstep : system.step l s = some s') : s'.core.Exclusive := by
  have hs : Steps s l s' := step_steps hstep
  cases hs with
  | aside ha =>
    have hholder : s'.holder = s.holder := funext ha.holder
    refine h.of_le (fun t ht => ?_) fun t ht => ?_
    · simpa only [core, hholder] using ht
    · simp only [core, hholder] at ht ⊢
      exact h.engaged t ht
  | @call env c _ hd =>
    obtain ⟨hbefore, hafter⟩ := hok env s' rfl hstep
    exact exclusive_does h hd.connects hbefore hafter
  | @take env e q hnext =>
    obtain ⟨hbefore, hafter⟩ := hok env _ rfl hstep
    have hq : Core.Exclusive { s with queue := q }.core := h.of_le (fun _ ht => ht) h.engaged
    have hanswers : AnswersSingle env { s with queue := q } ↔ AnswersSingle env s :=
      answersSingle_congr rfl
    have hbefore' : AnswersSingle env { s with queue := q } := hanswers.mpr hbefore
    exact exclusive_takes hq (processEvent_takes env _ e) hbefore' hafter

/-- While single connection is enabled, at most one holder is up in any order of events. -/
theorem engaged_unique (h : system.ReachableWhen SingleThroughout s) {t u : ApnType}
    (ht : (s.holder t).apnState.isEngaged = true) (hu : (s.holder u).apnState.isEngaged = true) :
    t = u := by
  have hexclusive : s.core.Exclusive :=
    h.invariant (P := fun s => s.core.Exclusive) (fun _ hs => initial_exclusive hs)
      fun _ _ _ _ h hok hstep => exclusive_step h hok hstep
  exact hexclusive.unique t u ht hu

/-! An MMS request while the default connection is being set up -/

def singleEnv : Env := { serviceEnv with operatorConfig := { singlePdpEnabled := some true } }

def isSingle (l : Label) (s : Slot) : Bool :=
  l.handlerEnv.all fun env =>
    (s.isSingleConnectionEnabled env env.psRadioTech).2 &&
      (system.step l s).all fun s' => (s'.isSingleConnectionEnabled env env.psRadioTech).2

theorem singleThroughout_of_isSingle (l : Label) (s : Slot) (h : isSingle l s = true) :
    SingleThroughout l s := by
  intro env s' henv hstep
  rw [isSingle, henv, hstep, Option.all_some, Option.all_some, Bool.and_eq_true] at h
  exact h

def singleLabels : List Label :=
  [.postHandler (.sim .recordsLoaded 0), .dispatchHandler singleEnv,
    .call singleEnv (.requestNet true [.internet] (.other 0)), .dispatchHandler singleEnv,
    .dispatchHandler singleEnv, .call singleEnv (.requestNet true [.mms] (.other 0)),
    .dispatchHandler singleEnv, .dispatchHandler singleEnv]

theorem engaged_unique_preempted : ∃ s, system.runIf isSingle singleLabels start = some s ∧
    (s.holder .default_).apnState = .disconnecting ∧ (s.holder .mms).dataCallEnabled = true ∧
      ∀ t, (s.holder t).apnState.isEngaged = true → t = .default_ := by
  have hrun : (system.runIf isSingle singleLabels start).any (fun s =>
      (s.holder .default_).apnState = .disconnecting ∧
        (s.holder .mms).dataCallEnabled = true) = true := by decide +kernel
  obtain ⟨s, hs, hp⟩ := (Option.any_eq_true _ _).mp hrun
  obtain ⟨hstate, henabled⟩ := of_decide_eq_true hp
  have hreach : system.ReachableWhen SingleThroughout s :=
    (TransitionSystem.ReachableWhen.init start_initial).path
      (TransitionSystem.path_of_runIf singleThroughout_of_isSingle hs)
  have hengaged : (s.holder .default_).apnState.isEngaged = true := by
    rw [hstate]
    rfl
  exact ⟨s, hs, hstate, henabled, fun t ht => engaged_unique hreach ht hengaged⟩

end Slot
end CellularData
