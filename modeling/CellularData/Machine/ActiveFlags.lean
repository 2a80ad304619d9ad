import CellularData.StateMachine.Flags
import CellularData.Machine.Records
import CellularData.Machine.System

/-! The active flags of the connection machine: `Active` leaves its flag set. -/
namespace CellularData
open Lib StateMachine TransitionSystem

namespace CellularDataStateMachine

variable {env : MachineEnv} {m m' : CellularDataStateMachine} {e : MachineEvent} {st : ConnState}
  {l : Input}

/-! Nothing but entry and exit writes a flag -/

@[simp] theorem isActive_modifyData (f : MachineData → MachineData) :
    (m.modifyData f).isActive = m.isActive := rfl

@[simp] theorem isActive_emit (o : MachineOutput) : (m.emit o).isActive = m.isActive := rfl

@[simp] theorem isActive_transitionTo (st : ConnState) :
    (m.transitionTo st).isActive = m.isActive := rfl

@[simp] theorem isActive_deferEvent (e : MachineEvent) : (m.deferEvent e).isActive = m.isActive := rfl

@[simp] theorem isActive_removeEvent (p : MachineEvent → Bool) :
    (m.removeEvent p).isActive = m.isActive := rfl

@[simp] theorem isActive_setCid (cid : Int) : (m.setCid cid).isActive = m.isActive := rfl

@[simp] theorem isActive_setDeActiveApnTypeId (id : Int) :
    (m.setDeActiveApnTypeId id).isActive = m.isActive := rfl

@[simp] theorem isActive_setDataCallResultInfo (info : SetupDataCallResultInfo) :
    (m.setDataCallResultInfo info).isActive = m.isActive := rfl

@[simp] theorem isActive_setPdpErrorReason (reason : PdpErrorReason) :
    (m.setPdpErrorReason reason).isActive = m.isActive := rfl

@[simp] theorem isActive_endCall : m.endCall.isActive = m.isActive := rfl

theorem isActive_publish : m.publish.isActive = m.isActive := by
  unfold publish
  split_ifs <;> rfl

theorem isActive_clearReuse : m.clearReuse.isActive = m.isActive := by
  unfold clearReuse setIfReuseSupplierId
  split_ifs <;> rfl

theorem isActive_updateNetworkInfo : (m.updateNetworkInfo env).isActive = m.isActive := by
  unfold updateNetworkInfo
  rw [isActive_publish]
  rfl

theorem isActive_updateNetworkInfoFrom (info : SetupDataCallResultInfo) :
    (m.updateNetworkInfoFrom env info).isActive = m.isActive := by
  unfold updateNetworkInfoFrom
  dsimp only
  rw [isActive_publish]
  rfl

theorem isActive_activeDisconnect (params : DataDisconnectParams) :
    (m.activeDisconnect params).isActive = m.isActive := by
  unfold activeDisconnect
  have hclear : m.clearReuse.isActive = m.isActive := isActive_clearReuse
  generalize m.clearReuse = m' at hclear ⊢
  exact hclear

theorem isActive_processLostConnection (info : SetupDataCallResultInfo) :
    (m.processLostConnection info).isActive = m.isActive := by
  unfold processLostConnection
  have hclear : m.clearReuse.isActive = m.isActive := isActive_clearReuse
  generalize m.clearReuse = m' at hclear ⊢
  exact hclear

theorem isActive_defaultProcess (e : MachineEvent) (m : CellularDataStateMachine) :
    (defaultProcess env e m).2.isActive = m.isActive := by
  cases e with
  | drsOrRatChanged =>
    unfold defaultProcess
    dsimp only
    split_ifs <;> rfl
  | updateNetworkInfo => exact isActive_updateNetworkInfo
  | _ => rfl

theorem isActive_inactiveProcess (e : MachineEvent) (m : CellularDataStateMachine) :
    (inactiveProcess env e m).2.isActive = m.isActive := by
  cases e with
  | connect params =>
    show (m.doConnect env params).isActive = m.isActive
    unfold doConnect
    dsimp only
    generalize hm : ((m.modifyData fun d => { d with apnId := params.apnHolder.id }).modifyLink
      fun l => { l with apnItem := env.currentApn params.apnHolder }) = m'
    have hactive : m'.isActive = m.isActive := hm ▸ rfl
    cases env.currentApn params.apnHolder with
    | none => exact hactive
    | some apn => exact hactive
  | _ => rfl

theorem isActive_activatingProcess (e : MachineEvent) (m : CellularDataStateMachine) :
    (activatingProcess env e m).2.isActive = m.isActive := by
  cases e with
  | setupDataCall answer =>
    cases answer with
    | resultInfo info =>
      simp only [activatingProcess, rilActivatePdpContextDone]
      split_ifs <;> simp
    | rilInfo info =>
      simp only [activatingProcess, rilActivatePdpContextDone, rilErrorResponse]
      split_ifs <;> simp
    | empty => rfl
  | connectTimeoutCheck connectId =>
    simp only [activatingProcess, processConnectTimeout]
    split_ifs <;> simp
  | _ => rfl

theorem isActive_activeProcess (e : MachineEvent) (m : CellularDataStateMachine) :
    (activeProcess env e m).2.isActive = m.isActive := by
  cases e with
  | disconnect params => exact isActive_activeDisconnect params
  | disconnectAll params => exact isActive_activeDisconnect params
  | lostConnection info => exact isActive_processLostConnection info
  | rilAdapterHostDied info => exact isActive_processLostConnection info
  | linkCapabilityChanged up down =>
    simp only [activeProcess, processLinkCapabilityChanged, isActive_updateNetworkInfo]
    split_ifs <;> rfl
  | nrStateChanged =>
    simp only [activeProcess, isActive_updateNetworkInfo]
    rfl
  | nrFrequencyChanged =>
    simp only [activeProcess, isActive_updateNetworkInfo]
    rfl
  | setupDataCall answer => cases answer <;> rfl
  | _ => rfl

theorem isActive_disconnectingProcess (e : MachineEvent) (m : CellularDataStateMachine) :
    (disconnectingProcess e m).2.isActive = m.isActive := by
  cases e with
  | deactivateDataCall rilInfo =>
    cases rilInfo with
    | none => rfl
    | some info =>
      simp only [disconnectingProcess, processRilDeactivateDataCall]
      split_ifs <;> simp
  | disconnectTimeoutCheck connectId =>
    simp only [disconnectingProcess, processDisconnectTimeout]
    split_ifs <;> simp
  | _ => rfl

theorem isActive_stateProcess (st : ConnState) (e : MachineEvent) (m : CellularDataStateMachine) :
    (stateProcess env st e m).2.isActive = m.isActive := by
  cases st with
  | default_ => exact isActive_defaultProcess e m
  | inactive => exact isActive_inactiveProcess e m
  | activating => exact isActive_activatingProcess e m
  | active => exact isActive_activeProcess e m
  | disconnecting => exact isActive_disconnectingProcess e m

theorem isActive_inactiveBegin :
    m.inactiveBegin.isActive = (m.setActive .inactive true).isActive := by
  unfold inactiveBegin
  dsimp only
  split_ifs <;> rfl

theorem isActive_stateBegin (st : ConnState) (m : CellularDataStateMachine) :
    (stateBegin env st m).isActive = (m.setActive st true).isActive := by
  cases st with
  | inactive => exact isActive_inactiveBegin
  | _ => rfl

/-- Of all states `Active` alone forgets its flag. -/
theorem flagged (env : MachineEnv) : Flagged (states env) (· = .active) where
  stateBegin st x m := by
    show (stateBegin env st m).isActive x = true ↔ _
    rw [isActive_stateBegin]
    show (if x = st then true else m.isActive x) = true ↔ _
    split_ifs with hx <;> simp [hx]
  stateEnd st x m := by
    show (stateEnd st m).isActive x = true ↔ _
    have hclear : st ≠ .active → ((if x = st then false else m.isActive x) = true ↔
        m.isActive x = true ∧ (x = st → x = .active)) := by
      intro hst
      split_ifs with hx
      · simp [hx, hst]
      · simp [hx]
    cases st with
    | active => simp [stateEnd]
    | _ => exact hclear ConnState.noConfusion
  stateProcess st e m := isActive_stateProcess st e m
  begin_destState st m := (stateBegin_marks env st m).2.1
  end_destState st m := (stateEnd_marks st m).2.2.1
  process_curState st e m := (moves_stateProcess st e m).curState

/-- The flags are those of the current state and of its parent. -/
def FlagsMirrorPath (m : CellularDataStateMachine) : Prop :=
  ∀ st, m.isActive st = true ↔
    m.curState = some st ∨ m.curState ≠ none ∧ m.curState ≠ some .default_ ∧ st = .default_

theorem mirrors_iff (env : MachineEnv) : m.Mirrors (states env) ↔ m.FlagsMirrorPath := by
  have hpath : ∀ st, st ∈ (states env).path m.curState ↔
      m.curState = some st ∨ m.curState ≠ none ∧ m.curState ≠ some .default_ ∧ st = .default_ := by
    intro st
    cases m.curState with
    | none => simp [States.path]
    | some cur => cases cur <;> cases st <;> simp [States.path, states]
  unfold EventHandler.Mirrors FlagsMirrorPath
  exact forall_congr' fun st => iff_congr Iff.rfl (hpath st)

/-! The steps that leave `Active` -/

end CellularDataStateMachine

namespace Control

variable {env : MachineEnv} {c c' : Control} {e : MachineEvent} {os : List MachineOutput}

theorem takes_of_loss (h : c.state = some .active) (he : (e.isDisconnect || e.isLoss) = true) :
    c.takes env e = true := by
  unfold takes
  rw [h]
  cases e with
  | setupDataCall answer => cases he
  | _ => exact he

/-- `Active` is left for a disconnect and for the loss of the call. -/
theorem Transition.active_left_iff (ht : c.Transition env e c' os)
    (h : c.state = some .active) : c'.state ≠ some .active ↔
      (e.isDisconnect || e.isLoss) = true := by
  have habsurd : ∀ {st : Option ConnState}, c.state = st → st ≠ some .active → False :=
    fun hst hne => hne (hst.symm.trans h)
  cases ht with
  | ignore hignored =>
    constructor
    · intro hleft
      exact absurd h hleft
    · intro he
      rw [takes_of_loss h he] at hignored
      cases hignored
  | boot hst => exact (habsurd hst (by decide)).elim
  | connect hst => exact (habsurd hst (by decide)).elim
  | defer hst => rcases hst with hst | hst <;> exact (habsurd hst (by decide)).elim
  | accept hst => exact (habsurd hst (by decide)).elim
  | fail hst => exact (habsurd hst (by decide)).elim
  | abandon hst => exact (habsurd hst (by decide)).elim
  | complete =>
    apply iff_of_false
    · exact not_not.mpr h
    · exact Bool.false_ne_true
  | disconnect hst he =>
    apply iff_of_true
    · exact fun hst' => ConnState.noConfusion (Option.some.inj hst')
    · rw [he, Bool.true_or]
  | lose hst he =>
    apply iff_of_true
    · exact fun hst' => ConnState.noConfusion (Option.some.inj hst')
    · rw [he, Bool.or_true]
  | finish hst => exact (habsurd hst (by decide)).elim
  | release hst => exact (habsurd hst (by decide)).elim

end Control

namespace CellularDataStateMachine

variable {env : MachineEnv} {m m' : CellularDataStateMachine} {e : MachineEvent} {l : Input}

/-- The step takes an event that makes the machine leave `Active`. -/
def leavesActive : Input → CellularDataStateMachine → Bool
  | .dispatch _, m => m.curState = some .active &&
      m.queue.next.any fun r => r.1.isDisconnect || r.1.isLoss
  | _, _ => false

theorem path_active (env : MachineEnv) (st : Option ConnState) :
    .active ∈ (states env).path st ↔ st = some .active := by
  cases st with
  | none => simp [States.path]
  | some st => cases st <;> simp [States.path, states]

theorem FlagsMirrorPath.of_eq (hm : m.FlagsMirrorPath) (hactive : m'.isActive = m.isActive)
    (hcur : m'.curState = m.curState) : m'.FlagsMirrorPath := by
  intro st
  rw [hactive, hcur]
  exact hm st

theorem flagsMirrorPath_create : create.FlagsMirrorPath := by
  intro st
  simp [create]

theorem isActive_fresh (h : m.FlagsMirrorPath) (hcur : m.curState = none) (st : ConnState) :
    m.isActive st = false := by
  apply Bool.eq_false_iff.mpr
  intro hactive
  have hpath := (h st).mp hactive
  rw [hcur] at hpath
  simp at hpath

theorem curState_process (hm : m.Settled) (hquit : e ≠ .stateMachineQuit)
    (hinit : e = .stateMachineInit → m.curState = none) :
    (m.process env e).curState = (m.control.process env e).1.state :=
  congrArg Control.state (process_refines hm hquit hinit).control

theorem flagsMirrorPath_boot (hm : m.Settled) (hflags : m.FlagsMirrorPath)
    (hnone : m.curState = none) : (m.process env .stateMachineInit).FlagsMirrorPath := by
  rw [← mirrors_iff env]
  have hcur : (m.process env .stateMachineInit).curState = some .inactive := by
    rw [curState_process hm (by decide) fun _ => hnone]
    unfold Control.process
    rw [show m.control.state = none from hnone]
    rfl
  exact (flagged env).mirrors_processEvent_init (isActive_fresh hflags hnone) hm.originalState
    hm.notQuit rfl rfl hcur

/-- The flags mirror the path after an event unless it has taken the machine out of `Active`. -/
theorem flagsMirrorPath_process_iff (hm : m.Settled) (hflags : m.FlagsMirrorPath)
    (hquit : e ≠ .stateMachineQuit) (hinit : e = .stateMachineInit → m.curState = none) :
    (m.process env e).FlagsMirrorPath ↔
      (m.curState = some .active → (e.isDisconnect || e.isLoss) = false) := by
  by_cases hboot : e = .stateMachineInit
  · subst hboot
    apply iff_of_true
    · exact flagsMirrorPath_boot hm hflags (hinit rfl)
    · exact fun _ => rfl
  · have hmirrors : m.Mirrors (states env) := (mirrors_iff env).mpr hflags
    have hiff : (m.process env e).Mirrors (states env) ↔ m.curState = (m.process env e).curState ∨
        ∀ x ∈ (states env).path m.curState, x = .active →
          x ∈ (states env).path (m.process env e).curState :=
      (flagged env).mirrors_processEvent_iff hmirrors hm.notQuit (decide_eq_false hboot)
        (decide_eq_false hquit)
    have hleft : m.curState = some .active → ((m.process env e).curState ≠ some .active ↔
        (e.isDisconnect || e.isLoss) = true) := by
      intro hst
      rw [curState_process hm hquit hinit]
      exact (Control.process_transition hm.leaf e).active_left_iff hst
    rw [← mirrors_iff env, hiff]
    constructor
    · intro hkept hst
      apply Bool.eq_false_iff.mpr
      intro hleaves
      apply (hleft hst).mpr hleaves
      rcases hkept with heq | hforgets
      · rw [← heq, hst]
      · exact (path_active env _).mp (hforgets .active ((path_active env _).mpr hst) rfl)
    · rintro hstays
      right
      rintro x hx rfl
      have hst := (path_active env _).mp hx
      apply (path_active env _).mpr
      by_contra hleaves
      exact Bool.eq_false_iff.mp (hstays hst) ((hleft hst).mp hleaves)

theorem flagsMirrorPath_step_iff (hr : system.Reachable m) (hflags : m.FlagsMirrorPath)
    (hstep : system.step l m = some m') : m'.FlagsMirrorPath ↔ leavesActive l m = false := by
  obtain ⟨hm, hw⟩ := reachable_wellFormed hr
  have hkept : ∀ x : CellularDataStateMachine, x.isActive = m.isActive → x.curState = m.curState →
      (x.FlagsMirrorPath ↔ false = false) :=
    fun _ hactive hcur => iff_of_true (hflags.of_eq hactive hcur) rfl
  cases l with
  | post e =>
    simp only [system, step] at hstep
    split_ifs at hstep
    obtain rfl := Option.some.inj hstep
    exact hkept _ rfl rfl
  | dispatch env =>
    obtain ⟨⟨e, x⟩, hd, rfl⟩ := Option.map_eq_some_iff.mp hstep
    obtain ⟨q, hnext, rfl⟩ := dispatch_eq_some hd
    obtain ⟨hquit, hinit⟩ := next_legal (c := m.control) hw hnext
    have hprocess : (process env { m with queue := q } e).FlagsMirrorPath ↔
        (m.curState = some .active → (e.isDisconnect || e.isLoss) = false) :=
      flagsMirrorPath_process_iff (hm.withQueue q) hflags hquit hinit
    have hclear : ∀ x : CellularDataStateMachine, x.clearOutbox.FlagsMirrorPath ↔
        x.FlagsMirrorPath := fun _ => Iff.rfl
    dsimp only
    rw [hclear, hprocess]
    unfold leavesActive
    dsimp only
    rw [hnext, Option.any_some]
    simp only [Bool.and_eq_false_imp, decide_eq_true_eq]
  | fire i =>
    obtain ⟨q, -, rfl⟩ := fire_eq_some hstep
    exact hkept _ rfl rfl
  | linkStateChanged ifName up =>
    obtain rfl := Option.some.inj hstep
    rcases m.onInterfaceLinkStateChanged_cases ifName up with heq | heq
    · rw [heq]
      exact hkept _ rfl rfl
    · rw [heq]
      exact hkept _ rfl rfl
  | updateNetworkInfo env info =>
    obtain rfl := Option.some.inj hstep
    have hu : Unchanged m (m.updateNetworkInfoFrom env info) := unchanged_updateNetworkInfoFrom info
    apply hkept
    · exact isActive_updateNetworkInfoFrom info
    · exact congrArg Control.state hu.control

/-- The flags mirror the path to the current state in exactly the runs that never leave `Active`. -/
theorem flags_mirror_iff {h : List (Input × CellularDataStateMachine)} (hh : system.History h m) :
    Throughout (fun _ m => m.FlagsMirrorPath) h m ↔
      AtSteps (fun _ l m => leavesActive l m = false) h := by
  refine throughout_iff_atSteps ?_ ?_ hh
  · rintro _ rfl
    exact flagsMirrorPath_create
  · intro h l m m' hh hstep hflags
    exact flagsMirrorPath_step_iff hh.reachable hflags hstep

/-- A call that is requested, answered and reported. -/
def calledInputs : List Input :=
  let env : MachineEnv := { currentApn := fun _ => some {} }
  [.dispatch env, .post (.connect ⟨.default_, 0, .other 0, true, false, false⟩), .dispatch env,
    .post (.setupDataCall (.resultInfo { cid := 1, flag := 1, active := 1 })), .dispatch env,
    .dispatch env]

theorem flags_mirror_called : ∃ h m, system.History h m ∧ m.curState = some .active ∧
    Throughout (fun _ m => m.FlagsMirrorPath) h m := by
  obtain ⟨h, m, hh, hp⟩ := exists_history (M := system) rfl calledInputs
    (p := fun h m => decide (m.curState = some .active ∧
      AtSteps (fun _ l m => leavesActive l m = false) h)) (by decide +kernel)
  obtain ⟨hst, hsteps⟩ := of_decide_eq_true hp
  exact ⟨h, m, hh, hst, (flags_mirror_iff hh).mpr hsteps⟩

/-- The call is disconnected and `Active` stays active in `Disconnecting`. -/
theorem active_flag_left : ∃ h m, system.History h m ∧ m.curState = some .disconnecting ∧
    m.isActive .active = true ∧ ¬ m.FlagsMirrorPath := by
  obtain ⟨h, m, hh, hp⟩ := exists_history (M := system) rfl
    (calledInputs ++ [.post (.disconnect ⟨.default_, .normal⟩), .dispatch {}])
    (p := fun h m => decide (m.curState = some .disconnecting ∧ m.isActive .active = true))
    (by decide +kernel)
  obtain ⟨hst, hactive⟩ := of_decide_eq_true hp
  refine ⟨h, m, hh, hst, hactive, fun hflags => ?_⟩
  have hpath := (hflags .active).mp hactive
  rw [hst] at hpath
  simp at hpath

end CellularDataStateMachine
end CellularData
