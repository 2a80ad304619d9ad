import CellularData.Slot.Operations

/-! The operations of the handler are acts of the abstract slot. -/
namespace CellularData
open Lib StateMachine Relation

namespace Slot

variable {env : Env} {s s' : Slot} {t : ApnType}

/-- From a regular slot the operation leads to a regular slot by acts of the handler. -/
def Acts (s s' : Slot) : Prop :=
  s.Regular → s'.Regular ∧ ReflTransGen Core.Act s.core s'.core

theorem Hidden.acts (h : Hidden s s') : Acts s s' :=
  fun hr => ⟨h.regular hr, h.core ▸ .refl⟩

theorem Acts.refl (s : Slot) : Acts s s := (Hidden.refl s).acts

theorem Acts.trans {s'' : Slot} (h : Acts s s') (h' : Acts s' s'') : Acts s s'' := by
  intro hr
  obtain ⟨hr', hs⟩ := h hr
  obtain ⟨hr'', hs'⟩ := h' hr'
  exact ⟨hr'', hs.trans hs'⟩

theorem Acts.foldl {α : Type} {f : Slot → α → Slot} (hf : ∀ s a, Acts s (f s a)) (l : List α)
    (s : Slot) : Acts s (l.foldl f s) := by
  induction l generalizing s with
  | nil => exact .refl s
  | cons a l ih => exact (hf s a).trans (ih _)

/-! The operations that the abstract slot sees -/

theorem core_setApnState (t : ApnType) (st : ApnProfileState) :
    (s.setApnState t st).core = s.core.setState t st := by
  have hstate : ∀ u, ((s.setApnState t st).holder u).apnState =
      if u = t then st else (s.holder u).apnState := by
    intro u
    by_cases h : u = t
    · subst h
      by_cases hst : st = .failed <;>
        simp [setApnState, modifyHolder, holder, ApnManager.setHolder, ApnHolder.setApnState, hst]
    · simp [setApnState, modifyHolder, holder, ApnManager.setHolder, h]
  have howner : ∀ u, ((s.setApnState t st).holder u).cellularDataStateMachine =
      (s.holder u).cellularDataStateMachine := by
    intro u
    by_cases h : u = t
    · subst h
      by_cases hst : st = .failed <;>
        simp [setApnState, modifyHolder, holder, ApnManager.setHolder, ApnHolder.setApnState, hst]
    · simp [setApnState, modifyHolder, holder, ApnManager.setHolder, h]
  simp only [core, hstate, howner]
  rfl

theorem core_setOwner (t : ApnType) (m : Option MachineRef) :
    (s.modifyHolder t fun h => { h with cellularDataStateMachine := m }).core =
      s.core.setOwner t m := by
  have hstate : ∀ u, ((s.modifyHolder t fun h => { h with cellularDataStateMachine := m }).holder
      u).apnState = (s.holder u).apnState := by
    intro u
    by_cases h : u = t <;> simp [modifyHolder, holder, ApnManager.setHolder, h]
  have howner : ∀ u, ((s.modifyHolder t fun h => { h with cellularDataStateMachine := m }).holder
      u).cellularDataStateMachine = if u = t then m else (s.holder u).cellularDataStateMachine := by
    intro u
    by_cases h : u = t <;> simp [modifyHolder, holder, ApnManager.setHolder, h]
  simp only [core, hstate, howner]
  rfl

theorem core_postMachine (m : MachineRef) (e : MachineEvent) :
    (s.postMachine m e).core = s.core.post m e := by
  have hcontrols : (s.stateMachines.modify m fun x => x.post e).map
      CellularDataStateMachine.control =
        (s.stateMachines.map CellularDataStateMachine.control).modify m fun c => c.post e := by
    refine map_modify (fun x => ?_) _ _
    rfl
  simp only [core, postMachine, modifyMachine, hcontrols]
  rfl

theorem Regular.postMachine (hr : s.Regular) (m : MachineRef) (e : MachineEvent) :
    (s.postMachine m e).Regular :=
  ⟨forall_mem_modify hr.settled (fun _ hx => hx.withQueue _) m, hr.immediate, hr.delayed⟩

theorem acts_disconnect {m : MachineRef}
    (howner : (s.holder t).cellularDataStateMachine = some m) (params : DataDisconnectParams) :
    Acts s ((s.setApnState t .disconnecting).postMachine m (.disconnect params)) := by
  intro hr
  have hr' : (s.setApnState t .disconnecting).Regular := ⟨hr.settled, hr.immediate, hr.delayed⟩
  refine ⟨hr'.postMachine _ _, .single ?_⟩
  rw [core_postMachine, core_setApnState]
  exact .disconnect howner

theorem acts_reset (h : (s.holder t).apnState = .failed ∨ (s.holder t).apnState = .retrying) :
    Acts s (s.setApnState t .idle) := by
  intro hr
  refine ⟨⟨hr.settled, hr.immediate, hr.delayed⟩, .single ?_⟩
  rw [core_setApnState]
  exact .reset h

theorem acts_retry (h : (s.holder t).apnState = .idle) : Acts s (s.setApnState t .retrying) := by
  intro hr
  refine ⟨⟨hr.settled, hr.immediate, hr.delayed⟩, .single ?_⟩
  rw [core_setApnState]
  exact .retry h

theorem acts_sendToMachines {e : MachineEvent} (he : e.isNews = true) :
    Acts s (s.sendToMachines e) := by
  intro hr
  constructor
  · refine ⟨fun x hx => ?_, hr.immediate, hr.delayed⟩
    obtain ⟨y, hy, rfl⟩ := List.mem_map.mp hx
    exact (hr.settled y hy).withQueue _
  · have hcore : (s.sendToMachines e).core =
        { s.core with controls := s.core.controls.map fun c => c.post e } := by
      simp only [core, sendToMachines, List.map_map]
      rfl
    rw [hcore]
    exact .single (.tell he)

/-! Holders -/

@[simp] theorem holder_modifyHolder (t u : ApnType) (f : ApnHolder → ApnHolder) :
    (s.modifyHolder t f).holder u = if u = t then f (s.holder t) else s.holder u := rfl

@[simp] theorem holder_postMachine (m : MachineRef) (e : MachineEvent) (u : ApnType) :
    (s.postMachine m e).holder u = s.holder u := rfl

@[simp] theorem apnState_setApnState (t u : ApnType) (st : ApnProfileState) :
    ((s.setApnState t st).holder u).apnState = if u = t then st else (s.holder u).apnState := by
  by_cases h : u = t
  · subst h
    by_cases hst : st = .failed <;> simp [setApnState, ApnHolder.setApnState, hst]
  · simp [setApnState, h]

@[simp] theorem machine_setApnState (t u : ApnType) (st : ApnProfileState) :
    ((s.setApnState t st).holder u).cellularDataStateMachine =
      (s.holder u).cellularDataStateMachine := by
  by_cases h : u = t
  · subst h
    by_cases hst : st = .failed <;> simp [setApnState, ApnHolder.setApnState, hst]
  · simp [setApnState, h]

/-! Choice of the machine -/

theorem isDataConnectionNotUsed_iff {m : MachineRef} :
    s.apnManager.isDataConnectionNotUsed m = true ↔
      ∀ u, (s.holder u).cellularDataStateMachine ≠ some m := by
  simp only [ApnManager.isDataConnectionNotUsed, List.all_eq_true, decide_eq_true_eq]
  exact ⟨fun h u => h u u.mem_all, fun h u _ => h u⟩

/-- A machine that is found is inactive and no holder has it. -/
theorem findIdle_some {m : MachineRef} (h : s.findIdleCellularDataConnection = some m) :
    ∃ x, s.stateMachines[m]? = some x ∧ x.isInactiveState = true ∧
      ∀ u, (s.holder u).cellularDataStateMachine ≠ some m := by
  have hm := List.find?_some h
  rw [Bool.and_eq_true, Option.any_eq_true] at hm
  obtain ⟨⟨x, hx, hinactive⟩, hfree⟩ := hm
  exact ⟨x, hx, hinactive, isDataConnectionNotUsed_iff.mp hfree⟩

/-- Where none is found every machine is busy or taken. -/
theorem findIdle_none (h : s.findIdleCellularDataConnection = none) {m : MachineRef}
    {x : CellularDataStateMachine} (hx : s.stateMachines[m]? = some x) :
    x.isInactiveState = false ∨ ∃ u, (s.holder u).cellularDataStateMachine = some m := by
  have hlt : m < s.stateMachines.length := (List.getElem?_eq_some_iff.mp hx).1
  have hm := List.find?_eq_none.mp h m (List.mem_range.mpr hlt)
  have hx' : s.machine? m = some x := hx
  rw [hx', Option.any_some, Bool.and_eq_true, not_and, Bool.not_eq_true] at hm
  cases hinactive : x.isInactiveState with
  | false => exact .inl rfl
  | true =>
    have hused := hm hinactive
    by_contra hno
    simp only [reduceCtorEq, false_or, not_exists] at hno
    rw [isDataConnectionNotUsed_iff.mpr hno] at hused
    cases hused

/-! Connecting -/

theorem hidden_setApnActivateStart (t : ApnType) : Hidden s (s.setApnActivateStart env t) := by
  cases t <;> exact .of_visible rfl

theorem scene_callMachine (m : MachineRef)
    (f : CellularDataStateMachine → CellularDataStateMachine) :
    (s.callMachine m f).scene = s.scene :=
  apply_callMachine scene (fun _ _ _ => rfl) m f

theorem scene_updateCellularDataConnectState (t : ApnType) :
    (s.updateCellularDataConnectState t).scene = s.scene :=
  apply_updateCellularDataConnectState scene (fun _ _ => rfl) t

theorem core_sendConnect (t : ApnType) (m : MachineRef) (params : DataConnectionParams) :
    (s.sendConnect env t m params).core =
      { s.core.post m (.connect params) with
        connectLog := s.connectRecord env t m :: s.core.connectLog } := by
  rw [← core_postMachine]
  rfl

/-- The holder is given the machine and the request is on its way. -/
theorem core_startConnection (env : Env) (s : Slot) (t : ApnType) (m : MachineRef) (apnItem : ItemRef)
    (radioTech : RadioTech) : ∃ params : DataConnectionParams,
      Core.Carries params t (s.connectRecord env t m) ∧
      (s.startConnection env t m apnItem radioTech).core =
        s.core.connect t m params (s.connectRecord env t m) ∧
      (s.Regular → (s.startConnection env t m apnItem radioTech).Regular) := by
  simp only [startConnection]
  generalize hs₁ : s.callMachine m (fun x => x.setCapability (s.holder t).capability) = s₁
  have h₁ : Hidden s s₁ ∧ s₁.gateInputs = s.gateInputs := hs₁ ▸
    ⟨hidden_callMachine m fun _ => CellularDataStateMachine.unchanged_modifyLink _,
      gateInputs_of_scene (scene_callMachine m _)⟩
  generalize hs₂ : s₁.modifyHolder t (fun h => { h with apnItem := some apnItem }) = s₂
  have h₂ : Hidden s s₂ ∧ s₂.gateInputs = s.gateInputs := hs₂ ▸
    ⟨h₁.1.trans (hidden_modifyHolder t rfl rfl), h₁.2⟩
  generalize hs₃ : (s₂.setApnState t .connecting).modifyHolder t
    (fun h => { h with cellularDataStateMachine := some m }) = s₃
  have hcore₃ : s₃.core = (s.core.setState t .connecting).setOwner t (some m) := by
    rw [← hs₃, core_setOwner, core_setApnState, h₂.1.core]
  generalize hs₄ : s₃.updateCellularDataConnectState t = s₄
  have hcore₄ : s₄.core = (s.core.setState t .connecting).setOwner t (some m) := by
    rw [← hs₄, (hidden_updateCellularDataConnectState t).core, hcore₃]
  have hgate₄ : s₄.gateInputs = s.gateInputs := by
    rw [← hs₄, gateInputs_of_scene (scene_updateCellularDataConnectState t), ← hs₃]
    exact h₂.2
  generalize hparams : DataConnectionParams.mk t _ radioTech _ _ true = params
  have hcarries : Core.Carries params t (s.connectRecord env t m) := by
    rw [← hparams, ← connectRecord_congr hgate₄]
    exact ⟨rfl, rfl, rfl⟩
  refine ⟨params, hcarries, ?_, fun hr => ?_⟩
  · rw [(hidden_setApnActivateStart t).core, core_sendConnect, hcore₄, connectRecord_congr hgate₄]
    rfl
  · refine (hidden_setApnActivateStart t).regular ?_
    have hr₃ : s₃.Regular := by
      rw [← hs₃]
      have hr₂ := h₂.1.regular hr
      exact ⟨hr₂.settled, hr₂.immediate, hr₂.delayed⟩
    have hr₄ : s₄.Regular := hs₄ ▸ (hidden_updateCellularDataConnectState t).regular hr₃
    have hr₅ := hr₄.postMachine m (.connect params)
    exact ⟨hr₅.settled, hr₅.immediate, hr₅.delayed⟩

/-- The states of the holders after a connection has been started. -/
theorem apnState_startConnection (u t : ApnType) (m : MachineRef) (apnItem : ItemRef)
    (radioTech : RadioTech) :
    ((s.startConnection env t m apnItem radioTech).holder u).apnState =
      if u = t then .connecting else (s.holder u).apnState := by
  obtain ⟨params, -, hcore, -⟩ := core_startConnection env s t m apnItem radioTech
  exact congrFun (congrArg Core.state hcore) u

/-- What a holder has been given when its connection has been started. -/
theorem holder_startConnection (u t : ApnType) (m : MachineRef) (apnItem : ItemRef)
    (radioTech : RadioTech) :
    (s.startConnection env t m apnItem radioTech).holder u =
      if u = t then { s.holder t with
        apnItem := some apnItem
        apnState := .connecting
        cellularDataStateMachine := some m }
      else s.holder u := by
  have hcall (f : CellularDataStateMachine → CellularDataStateMachine) :
      (s.callMachine m f).holder = s.holder :=
    apply_callMachine holder (fun _ _ _ => rfl) m f
  have hupdate (s : Slot) : (s.updateCellularDataConnectState t).holder = s.holder :=
    apply_updateCellularDataConnectState holder (fun _ _ => rfl) t
  have hstart (s : Slot) : (s.setApnActivateStart env t).holder = s.holder :=
    apply_setApnActivateStart holder (fun _ _ _ => rfl) t
  unfold startConnection
  extract_lets s₁ s₂ s₃ s₄ s₅ s₆
  have h₆ : s₆.holder = s₄.holder := hupdate s₄
  rw [hstart, h₆]
  by_cases h : u = t
  · simp only [s₄, s₃, s₂, s₁, h, setApnState, hcall, ApnHolder.setApnState, holder_modifyHolder,
      if_true, reduceCtorEq, if_false]
    rfl
  · simp [s₄, s₃, s₂, s₁, h, setApnState, hcall]

theorem holder_findOrCreateCellularDataConnect (u : ApnType) :
    s.findOrCreateCellularDataConnect.1.holder u = s.holder u := by
  unfold findOrCreateCellularDataConnect
  split <;> rfl

theorem isInactiveState_iff {x : CellularDataStateMachine} (hx : x.Settled) :
    x.isInactiveState = true ↔ x.control.state = some .inactive :=
  decide_eq_true_iff.trans (hx.isState_iff .inactive)

/-- A machine is found or created, and the idle holder is connected to it. -/
theorem acts_startConnection (hidle : (s.holder t).apnState = .idle) (hopen : GateOpen env s t)
    (apnItem : ItemRef) (radioTech : RadioTech) :
    Acts s (s.findOrCreateCellularDataConnect.1.startConnection env t
      s.findOrCreateCellularDataConnect.2 apnItem radioTech) := by
  intro hr
  unfold findOrCreateCellularDataConnect
  cases hfind : s.findIdleCellularDataConnection with
  | some m =>
    dsimp only
    obtain ⟨params, hparams, hcore, hregular⟩ :=
      core_startConnection env s t m apnItem radioTech
    obtain ⟨x, hx, hinactive, hfree⟩ := findIdle_some hfind
    refine ⟨hregular hr, .single ?_⟩
    rw [hcore]
    have hx' : s.core.controls[m]? = some x.control := by
      simp only [core, List.getElem?_map, hx, Option.map_some]
    exact .connect hidle hx' ((isInactiveState_iff (hr.settled x (List.mem_of_getElem? hx))).mp
      hinactive) hfree hparams (hopen m)
  | none =>
    dsimp only
    generalize hs₁ : { s with stateMachines := s.stateMachines ++
      [CellularDataStateMachine.create] } = s₁
    have hr₁ : s₁.Regular := by
      rw [← hs₁]
      refine ⟨fun x hx => ?_, hr.immediate, hr.delayed⟩
      rcases List.mem_append.mp hx with hx | hx
      · exact hr.settled x hx
      · exact List.mem_singleton.mp hx ▸ CellularDataStateMachine.create_settled
    have hcore₁ : s₁.core = { s.core with
        controls := s.core.controls ++ [CellularDataStateMachine.create.control] } := by
      rw [← hs₁]
      simp only [core, List.map_append, List.map_cons, List.map_nil]
      rfl
    have hgate₁ : s₁.gateInputs = s.gateInputs := hs₁ ▸ rfl
    have hlength : s.stateMachines.length = s.core.controls.length := (List.length_map _).symm
    obtain ⟨params, hparams, hcore, hregular⟩ :=
      core_startConnection env s₁ t s.stateMachines.length apnItem radioTech
    refine ⟨hregular hr₁, .single ?_⟩
    rw [connectRecord_congr hgate₁, hlength] at hparams
    rw [hcore, hcore₁, connectRecord_congr hgate₁, hlength]
    refine .create hidle (fun m c hc => ?_) hparams (hlength ▸ hopen _)
    simp only [core, List.getElem?_map] at hc
    obtain ⟨x, hx, rfl⟩ := Option.map_eq_some_iff.mp hc
    rcases findIdle_none hfind hx with h | h
    · left
      intro hstate
      rw [(isInactiveState_iff (hr.settled x (List.mem_of_getElem? hx))).mpr hstate] at h
      cases h
    · exact .inr h

theorem Hidden.apnState (h : Hidden s s') (t : ApnType) :
    (s'.holder t).apnState = (s.holder t).apnState := congrFun (congrArg Core.state h.core) t

/-! Sequences of writes -/

theorem apnState_renewHolder (u t : ApnType) :
    ((s.renewHolder t).holder u).apnState =
      if u = t ∧ (s.holder t).apnState = .retrying then .idle else (s.holder u).apnState := by
  unfold renewHolder
  split_ifs with hretrying h h
  · obtain rfl := h.1
    simp [sendEventAfter, removeEvent, holder, setApnState, modifyHolder, ApnManager.setHolder,
      ApnHolder.setApnState]
  · have hne : u ≠ t := fun heq => h ⟨heq, hretrying⟩
    simp [sendEventAfter, removeEvent, holder, setApnState, modifyHolder, ApnManager.setHolder, hne]
  · exact absurd h.2 hretrying
  · rfl

theorem machine_renewHolder (u t : ApnType) :
    ((s.renewHolder t).holder u).cellularDataStateMachine =
      (s.holder u).cellularDataStateMachine := by
  unfold renewHolder
  split_ifs
  · by_cases h : u = t
    · subst h
      simp [sendEventAfter, removeEvent, holder, setApnState, modifyHolder, ApnManager.setHolder,
        ApnHolder.setApnState, ApnHolder.initialApnRetryCount]
    · simp [sendEventAfter, removeEvent, holder, setApnState, modifyHolder, ApnManager.setHolder, h]
  · rfl

theorem acts_renewHolder (s : Slot) (t : ApnType) : Acts s (s.renewHolder t) := by
  unfold renewHolder
  dsimp only
  refine Acts.trans ?_ (hidden_sendEventAfter rfl _).acts
  split_ifs with h
  · have hcount : Hidden s (s.modifyHolder t fun h => h.initialApnRetryCount) :=
      hidden_modifyHolder t rfl rfl
    have hretrying : ((s.modifyHolder t fun h => h.initialApnRetryCount).holder t).apnState =
        .retrying := (hcount.apnState t).trans h
    refine (hcount.acts.trans (acts_reset (.inr hretrying))).trans (Hidden.acts ?_)
    refine hidden_removeEvent fun e he => ?_
    cases e <;> first | rfl | cases he
  · exact .refl s

theorem Op.acts (h : Op env (Connects env) s s') : Acts s s' := by
  cases h with
  | write h => exact h.hidden.acts
  | disconnect howner => exact acts_disconnect howner _
  | reset h => exact acts_reset h
  | retry h hid henabled => exact (acts_retry h).trans (hidden_sendEventAfter rfl _).acts
  | renew => exact Acts.foldl acts_renewHolder _ _
  | tell he => exact acts_sendToMachines he
  | search => exact (hidden_checkForCompatibleDataConnection _).acts
  | connect h =>
    obtain ⟨t, hidle, hopen, -⟩ := h
    exact acts_startConnection hidle hopen _ _

theorem Does.acts (h : Does env (Connects env) s s') : Acts s s' := by
  induction h with
  | refl => exact .refl s
  | tail _ hop ih => exact ih.trans hop.acts

end Slot
end CellularData
