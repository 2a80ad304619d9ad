import CellularData.Slot.DataState
import CellularData.Slot.Unasked

/-! The data state that the handler pushes and the one it answers when asked. -/
namespace CellularData
open Lib StateMachine Relation

def Effect.pushed : Effect → Option ApnProfileState
  | .updateCellularDataConnectState state => some state
  | _ => none

/-- The types whose state is pushed. -/
def ApnType.IsDefaultType (t : ApnType) : Prop := t = .default_ ∨ t = .internalDefault

instance : DecidablePred ApnType.IsDefaultType := fun t =>
  inferInstanceAs (Decidable (t = .default_ ∨ t = .internalDefault))

/-- A holder with a machine is on its way up or down, or up. -/
theorem Core.Linked.engaged {k : Core} {t : ApnType} {m : MachineRef} (h : k.Linked t)
    (howner : k.owner t = some m) : (k.state t).isEngaged = true := by
  cases h with
  | free hnone => cases hnone.symm.trans howner
  | ended _ _ _ hstate => exact hstate
  | held _ _ _ hstate => exact hstate

namespace Slot

variable {env : Env} {s s' : Slot} {t u : ApnType} {l : Label} {h : List (Label × Slot)}
  {st : ApnProfileState}

def lastPush (s : Slot) : Option ApnProfileState := s.effects.findSome? Effect.pushed

/-- One of the two default holders is in the state. -/
def OneIn (s : Slot) (st : ApnProfileState) : Prop :=
  ∃ t : ApnType, t.IsDefaultType ∧ (s.holder t).apnState = st

def IsUp (s : Slot) : Prop := s.OneIn .connected ∨ s.OneIn .disconnecting

theorem oneIn_iff : s.OneIn st ↔
    (s.holder .default_).apnState = st ∨ (s.holder .internalDefault).apnState = st := by
  constructor
  · rintro ⟨t, rfl | rfl, hst⟩
    · exact .inl hst
    · exact .inr hst
  · rintro (hst | hst)
    · exact ⟨_, .inl rfl, hst⟩
    · exact ⟨_, .inr rfl, hst⟩

/-! The two ways to sum up the states -/

/-- The state that a push would carry. -/
def pushedStatus (s : Slot) : DataConnectionStatus :=
  cellularDataStateAdapter s.apnManager.getOverallDefaultApnState

/-- The state that a query answers while no call suspends data. -/
def queriedStatus (s : Slot) : DataConnectionStatus :=
  cellularDataStateAdapter s.apnManager.getOverallApnState

theorem pushedStatus_cases (s : Slot) : s.IsUp ∧ s.pushedStatus = .connected ∨
    ¬ s.IsUp ∧ s.OneIn .connecting ∧ s.pushedStatus = .connecting ∨
    ¬ s.IsUp ∧ ¬ s.OneIn .connecting ∧ s.pushedStatus = .disconnected := by
  unfold IsUp
  rw [oneIn_iff, oneIn_iff, oneIn_iff]
  unfold pushedStatus ApnManager.getOverallDefaultApnState holder
  generalize (s.apnManager.holder .default_).apnState = d
  generalize (s.apnManager.holder .internalDefault).apnState = i
  cases d <;> cases i <;> decide

theorem pushedStatus_up (h : s.IsUp) : s.pushedStatus = .connected := by
  rcases pushedStatus_cases s with ⟨-, hst⟩ | ⟨hnot, -⟩ | ⟨hnot, -⟩
  · exact hst
  · exact absurd h hnot
  · exact absurd h hnot

theorem pushedStatus_connecting (h : ¬ s.IsUp) (hc : s.OneIn .connecting) :
    s.pushedStatus = .connecting := by
  rcases pushedStatus_cases s with ⟨hup, -⟩ | ⟨-, -, hst⟩ | ⟨-, hnot, -⟩
  · exact absurd hup h
  · exact hst
  · exact absurd hc hnot

theorem pushedStatus_down (h : ¬ s.IsUp) (hc : ¬ s.OneIn .connecting) :
    s.pushedStatus = .disconnected := by
  rcases pushedStatus_cases s with ⟨hup, -⟩ | ⟨-, hone, -⟩ | ⟨-, -, hst⟩
  · exact absurd hup h
  · exact absurd hone hc
  · exact hst

/-- No holder of another type has been asked for. -/
def OthersIdle (s : Slot) : Prop := ∀ u : ApnType, ¬ u.IsDefaultType → (s.holder u).apnState = .idle

theorem exists_state_iff (h : s.OthersIdle) (hst : st ≠ .idle) :
    (∃ t, (s.holder t).apnState = st) ↔ s.OneIn st := by
  constructor
  · rintro ⟨t, ht⟩
    refine ⟨t, ?_, ht⟩
    by_contra hother
    exact hst (ht.symm.trans (h t hother))
  · rintro ⟨t, -, ht⟩
    exact ⟨t, ht⟩

theorem hasAnyConnectedState_iff (h : s.OthersIdle) :
    s.apnManager.hasAnyConnectedState = true ↔ s.IsUp := by
  unfold ApnManager.hasAnyConnectedState IsUp
  rw [← exists_state_iff h ApnProfileState.noConfusion,
    ← exists_state_iff h ApnProfileState.noConfusion, List.any_eq_true]
  constructor
  · rintro ⟨t, -, ht⟩
    rw [Bool.or_eq_true, decide_eq_true_eq, decide_eq_true_eq] at ht
    exact ht.imp (fun ht => ⟨t, ht⟩) fun ht => ⟨t, ht⟩
  · rintro (⟨t, ht⟩ | ⟨t, ht⟩)
    · exact ⟨t, t.mem_all, by rw [Bool.or_eq_true]; exact .inl (decide_eq_true ht)⟩
    · exact ⟨t, t.mem_all, by rw [Bool.or_eq_true]; exact .inr (decide_eq_true ht)⟩

theorem queriedStatus_up (h : s.OthersIdle) (hup : s.IsUp) : s.queriedStatus = .connected := by
  unfold queriedStatus ApnManager.getOverallApnState
  rw [if_pos ((hasAnyConnectedState_iff h).mpr hup)]
  rfl

/-- A query counts a holder that retries as one that connects. -/
theorem queriedStatus_connecting (h : s.OthersIdle) (hup : ¬ s.IsUp)
    (hc : s.OneIn .connecting ∨ s.OneIn .retrying) : s.queriedStatus = .connecting := by
  rw [← exists_state_iff h ApnProfileState.noConfusion,
    ← exists_state_iff h ApnProfileState.noConfusion] at hc
  unfold queriedStatus ApnManager.getOverallApnState
  rw [if_neg (mt (hasAnyConnectedState_iff h).mp hup), if_pos]
  · rfl
  · rw [List.any_eq_true]
    rcases hc with ⟨t, ht⟩ | ⟨t, ht⟩
    · refine ⟨t, t.mem_all, ?_⟩
      rw [Bool.or_eq_true]
      exact .inl (decide_eq_true ht)
    · refine ⟨t, t.mem_all, ?_⟩
      rw [Bool.or_eq_true]
      exact .inr (decide_eq_true ht)

theorem queriedStatus_down (h : s.OthersIdle) (hup : ¬ s.IsUp) (hc : ¬ s.OneIn .connecting)
    (hr : ¬ s.OneIn .retrying) : s.queriedStatus = .disconnected := by
  rw [← exists_state_iff h ApnProfileState.noConfusion] at hc hr
  unfold queriedStatus ApnManager.getOverallApnState
  rw [if_neg (mt (hasAnyConnectedState_iff h).mp hup), if_neg]
  · split_ifs <;> rfl
  · rw [List.any_eq_true]
    rintro ⟨t, -, ht⟩
    rw [Bool.or_eq_true, decide_eq_true_eq, decide_eq_true_eq] at ht
    exact ht.elim (fun ht => hc ⟨t, ht⟩) fun ht => hr ⟨t, ht⟩

/-! The last push and the states it tells -/

/-- The last push tells the states, or it told of an attempt that is being torn down. -/
def Follows (s : Slot) : Prop :=
  ∀ st, s.lastPush = some st → cellularDataStateAdapter st = s.pushedStatus ∨
    st = .connecting ∧ s.OneIn .disconnecting

/-- The two default holders differ in nothing that a push would tell. -/
def Alike (s s' : Slot) : Prop :=
  ∀ t : ApnType, t.IsDefaultType → (s'.holder t).apnState = (s.holder t).apnState ∨
    (s.holder t).apnState.isEngaged = false ∧ (s'.holder t).apnState.isEngaged = false

theorem Alike.of_states (h : ∀ t, (s'.holder t).apnState = (s.holder t).apnState) : Alike s s' :=
  fun t _ => .inl (h t)

theorem Alike.oneIn (h : Alike s s') (hst : st.isEngaged = true) : s'.OneIn st ↔ s.OneIn st := by
  constructor
  · rintro ⟨t, ht, rfl⟩
    rcases h t ht with hsame | ⟨-, hfree⟩
    · exact ⟨t, ht, hsame.symm⟩
    · cases hst.symm.trans hfree
  · rintro ⟨t, ht, rfl⟩
    rcases h t ht with hsame | ⟨hfree, -⟩
    · exact ⟨t, ht, hsame⟩
    · cases hst.symm.trans hfree

theorem Alike.pushedStatus (h : Alike s s') : s'.pushedStatus = s.pushedStatus := by
  have hup : s'.IsUp ↔ s.IsUp := or_congr (h.oneIn rfl) (h.oneIn rfl)
  have hc : s'.OneIn .connecting ↔ s.OneIn .connecting := h.oneIn rfl
  rcases pushedStatus_cases s with ⟨hs, hst⟩ | ⟨hs, hsc, hst⟩ | ⟨hs, hsc, hst⟩
  · rw [hst, pushedStatus_up (hup.mpr hs)]
  · rw [hst, pushedStatus_connecting (mt hup.mp hs) (hc.mpr hsc)]
  · rw [hst, pushedStatus_down (mt hup.mp hs) (mt hc.mp hsc)]

theorem Follows.alike (h : s.Follows) (ha : Alike s s') (hpush : s'.lastPush = s.lastPush) :
    s'.Follows := by
  intro st hst
  rw [ha.pushedStatus, ha.oneIn rfl]
  exact h st (hpush.symm.trans hst)

theorem follows_of_push (h : s.lastPush = some s.apnManager.getOverallDefaultApnState) :
    s.Follows := by
  intro st hst
  obtain rfl := Option.some.inj (h.symm.trans hst)
  exact .inl rfl

theorem alike_setApnState (h : (s.holder u).apnState.isEngaged = false)
    (hst : st.isEngaged = false) : Alike s (s.setApnState u st) := by
  intro t _
  rw [apnState_setApnState]
  split_ifs with hu
  · right
    rw [hu]
    exact ⟨h, hst⟩
  · exact .inl rfl

theorem alike_other (hu : ¬ u.IsDefaultType) (st : ApnProfileState) :
    Alike s (s.setApnState u st) := by
  intro t ht
  left
  rw [apnState_setApnState, if_neg]
  rintro rfl
  exact hu ht

/-- A connection that is torn down still counts as connected, which is told by no push. -/
theorem Follows.disconnect (h : s.Follows) (hu : (s.holder u).apnState.isEngaged = true) :
    (s.setApnState u .disconnecting).Follows := by
  by_cases hdefault : u.IsDefaultType
  · intro st hst
    have hone : (s.setApnState u .disconnecting).OneIn .disconnecting := by
      refine ⟨u, hdefault, ?_⟩
      rw [apnState_setApnState, if_pos rfl]
    rw [pushedStatus_up (.inr hone)]
    rcases h st hst with hsame | ⟨hc, -⟩
    · rcases pushedStatus_cases s with ⟨-, hs⟩ | ⟨-, -, hs⟩ | ⟨hup, hc, -⟩
      · exact .inl (hsame.trans hs)
      · right
        refine ⟨?_, hone⟩
        rw [hs] at hsame
        cases st <;> first | rfl | cases hsame
      · exfalso
        cases hstate : (s.holder u).apnState with
        | connected => exact hup (.inl ⟨u, hdefault, hstate⟩)
        | disconnecting => exact hup (.inr ⟨u, hdefault, hstate⟩)
        | connecting => exact hc ⟨u, hdefault, hstate⟩
        | _ =>
          rw [hstate] at hu
          cases hu
    · exact .inr ⟨hc, hone⟩
  · exact h.alike (alike_other hdefault _) rfl

/-! What pushes -/

theorem lastPush_effect {e : Effect} (he : e.pushed = none) : (s.effect e).lastPush = s.lastPush :=
  latest_effect he

theorem lastPush_callMachine (m : MachineRef)
    (f : CellularDataStateMachine → CellularDataStateMachine) :
    (s.callMachine m f).lastPush = s.lastPush := latest_callMachine (fun _ _ => rfl) m f

theorem lastPush_setDataPermittedForMms (b : Bool) :
    (s.setDataPermittedForMms env b).lastPush = s.lastPush :=
  apply_setDataPermittedForMms lastPush (fun _ _ _ => lastPush_effect rfl)
    (fun _ _ _ => lastPush_effect rfl) b

theorem lastPush_updateCellularDataConnectState (t : ApnType) :
    (s.updateCellularDataConnectState t).lastPush =
      if t.IsDefaultType then some s.apnManager.getOverallDefaultApnState else s.lastPush := by
  unfold updateCellularDataConnectState
  by_cases ht : t = .default_ ∨ t = .internalDefault
  · rw [if_pos ht, if_pos (show t.IsDefaultType from ht)]
    rfl
  · rw [if_neg ht, if_neg (show ¬ t.IsDefaultType from ht)]

theorem Follows.updateCellularDataConnectState (h : s.Follows) (t : ApnType) :
    (s.updateCellularDataConnectState t).Follows := by
  have hpush := lastPush_updateCellularDataConnectState (s := s) t
  have hmanager := apnManager_updateCellularDataConnectState (s := s) t
  split_ifs at hpush
  · refine follows_of_push ?_
    rw [hpush, hmanager]
  · refine h.alike (.of_states fun u => ?_) hpush
    unfold holder
    rw [hmanager]

theorem Write.follows (h : Write env s s') (hs : s.Follows) : s'.Follows := by
  have halike : Alike s s' := .of_states h.hidden.apnState
  cases h with
  | other h =>
    refine hs.alike halike ?_
    unfold lastPush
    rw [show s'.effects = s.effects from congrArg (·.2.2.2.2.2.2.2.2.1) h]
  | @effect e he =>
    refine hs.alike halike (lastPush_effect ?_)
    cases e <;> first | rfl | cases he
  | push => exact hs.updateCellularDataConnectState _
  | machine _ => exact hs.alike halike (lastPush_callMachine _ _)
  | reuse _ => exact hs.alike halike (lastPush_callMachine _ _)
  | reload =>
    refine hs.alike halike ?_
    unfold applyApnReload
    split <;> rfl
  | setBad =>
    refine hs.alike halike ?_
    unfold setApnBadState
    split <;> rfl
  | lend =>
    refine hs.alike halike ?_
    unfold lendDataPermitted
    rw [lastPush_setDataPermittedForMms]
    split_ifs <;> rfl
  | giveBack => exact hs.alike halike (lastPush_setDataPermittedForMms false)
  | _ => exact hs.alike halike rfl

theorem Writes.follows (h : Writes env s s') (hs : s.Follows) : s'.Follows :=
  h.invariant (fun _ _ hs h => h.follows hs) hs

theorem Follows.startConnection (h : s.Follows) (t : ApnType) (m : MachineRef) (i : ItemRef)
    (radioTech : RadioTech) : (s.startConnection env t m i radioTech).Follows := by
  have hstates : ∀ u, ((s.startConnection env t m i radioTech).holder u).apnState =
      if u = t then .connecting else (s.holder u).apnState := fun u =>
    apnState_startConnection u t m i radioTech
  unfold Slot.startConnection
  extract_lets s₁ s₂ s₃ s₄ s₅ s₆
  have hpush₄ : s₄.lastPush = s.lastPush := lastPush_callMachine m _
  have hpush := lastPush_updateCellularDataConnectState (s := s₄) t
  have hlast : (setApnActivateStart env s₆ t).lastPush = s₆.lastPush :=
    apply_setApnActivateStart lastPush (fun _ _ _ => rfl) t
  have hstart : (setApnActivateStart env s₆ t).apnManager = s₆.apnManager :=
    apply_setApnActivateStart apnManager (fun _ _ _ => rfl) t
  have hmanager : (setApnActivateStart env s₆ t).apnManager = s₄.apnManager :=
    hstart.trans (apnManager_updateCellularDataConnectState t)
  split_ifs at hpush with ht
  · refine follows_of_push ?_
    rw [hlast, hmanager]
    exact hpush
  · refine h.alike (fun u hu => ?_) (hlast.trans (hpush.trans hpush₄))
    have hne : u ≠ t := fun heq => ht (heq ▸ hu)
    exact .inl ((hstates u).trans (if_neg hne))

theorem follows_renewHolder (h : s.Follows) (t : ApnType) : (s.renewHolder t).Follows := by
  refine h.alike (fun u _ => ?_) ?_
  · rw [apnState_renewHolder]
    split_ifs with hu
    · right
      rw [hu.1, hu.2]
      exact ⟨rfl, rfl⟩
    · exact .inl rfl
  · unfold renewHolder
    split_ifs <;> rfl

theorem Op.follows (h : Op env (Connects env) s s') (howned : s.core.Owned) (hs : s.Follows) :
    s'.Follows := by
  cases h with
  | write h => exact h.follows hs
  | @disconnect t m params howner =>
    have hengaged : (s.holder t).apnState.isEngaged = true := (howned.linked t).engaged howner
    exact (hs.disconnect hengaged).alike (.of_states fun _ => rfl) rfl
  | @reset t h =>
    refine hs.alike (alike_setApnState ?_ rfl) rfl
    rcases h with h | h <;> rw [h] <;> rfl
  | @retry t id delay hidle hid henabled =>
    have halike : Alike s (s.setApnState t .retrying) := by
      refine alike_setApnState ?_ rfl
      rw [hidle]
      rfl
    exact (hs.alike halike rfl).alike (.of_states fun _ => rfl) rfl
  | renew => exact renewHolders_invariant (fun _ t hs => follows_renewHolder hs t) hs
  | tell _ => exact hs.alike (.of_states fun _ => rfl) rfl
  | search =>
    obtain ⟨d, c, heq⟩ := checkForCompatibleDataConnection_eq env s _
    rw [heq]
    exact hs.alike (.of_states fun _ => rfl) rfl
  | connect hc =>
    obtain ⟨t, hc⟩ := hc
    cases hc with
    | start hidle hopen hsingle =>
      refine Follows.startConnection (hs.alike (.of_states fun u => ?_) ?_) t _ _ _
      · rw [holder_findOrCreateCellularDataConnect]
      · unfold findOrCreateCellularDataConnect
        split <;> rfl

/-- Machines and holders fit together, as between any two operations. -/
structure Tracked (s : Slot) : Prop where
  regular : s.Regular
  wellFormed : s.core.WellFormed
  owned : s.core.Owned

theorem reachable_tracked (hs : system.Reachable s) : s.Tracked :=
  ⟨(reachable_regular hs).1, (reachable_regular hs).2, reachable_owned hs⟩

theorem Tracked.acts (h : s.Tracked) (ha : Acts s s') : s'.Tracked := by
  obtain ⟨hr, hacts⟩ := ha h.regular
  obtain ⟨hw, ho⟩ := reflTransGen_invariant (P := fun k => k.WellFormed ∧ k.Owned)
    (fun _ _ hk ha => ⟨hk.1.act ha, hk.2.act hk.1 ha⟩) hacts ⟨h.wellFormed, h.owned⟩
  exact ⟨hr, hw, ho⟩

theorem Does.follows (h : Does env (Connects env) s s') (ht : s.Tracked) (hs : s.Follows) :
    s'.Follows := by
  have hboth : s'.Tracked ∧ s'.Follows :=
    h.invariant (P := fun s => s.Tracked ∧ s.Follows)
      (fun _ _ hp hop => ⟨hp.1.acts hop.acts, hop.follows hp.1.owned hp.2⟩) ⟨ht, hs⟩
  exact hboth.2

/-- A slot whose handler takes the end of a connection, after the release of the machine. -/
theorem Tracked.release (env : Env) (h : s.Tracked) {q : EventQueue HandlerEvent}
    {info : SetupDataCallResultInfo} {m : MachineRef}
    (hnext : s.queue.next = some (.disconnectDataComplete info, q))
    (ht : ApnType.ofId info.flag = some t) (hm : (s.holder t).cellularDataStateMachine = some m) :
    (releaseMachine env { s with queue := q } t m info).Tracked := by
  obtain ⟨hready, hr⟩ := next_ready h.regular hnext
  obtain ⟨hnotices, hcore⟩ := core_takeNotice hready rfl
  obtain ⟨hregular, hrelease⟩ := releaseMachine_spec env { s with queue := q } t m info
  have hfinish : (releaseMachine env { s with queue := q } t m info).core = Core.finish
      { s.core with notices := q.ready.filter HandlerEvent.isNotice } info := by
    have howner : s.core.owner t = some m := hm
    rw [hrelease, hcore]
    unfold Core.finish
    rw [ht]
    dsimp only
    rw [howner]
  have htrigger : Core.Trigger (.handler (.disconnectDataComplete info)) s.core (Core.finish
      { s.core with notices := q.ready.filter HandlerEvent.isNotice } info) := .finish hnotices
  refine ⟨hregular hr, ?_, ?_⟩
  · rw [hfinish]
    exact h.wellFormed.trigger htrigger
  · rw [hfinish]
    exact h.owned.trigger h.wellFormed htrigger

theorem lastPush_aside (h : Aside s s') : s'.lastPush = s.lastPush :=
  latest_aside (fun _ _ => rfl) h

theorem follows_handleDisconnectDataCompleteForMmsType (h : s.Follows) (t : ApnType) :
    (s.handleDisconnectDataCompleteForMmsType env t).Follows := by
  unfold handleDisconnectDataCompleteForMmsType
  split_ifs
  · have hback : Write env s (s.setDataPermittedForMms env false) := .giveBack
    exact (hback.follows h).alike (.of_states fun _ => rfl) rfl
  · exact h

theorem follows_complete {info : SetupDataCallResultInfo} {s₁ s₂ s₃ : Slot} (h : s.Follows)
    (h₁ : Writes env (s.completed env t info) s₁)
    (h₂ : Writes env (match (s.holder t).cellularDataStateMachine with
      | some _ => s₁
      | none => s₁.setApnState t .idle) s₂)
    (h₃ : Writes env (s₂.updateCellularDataConnectState t) s₃) : s₃.Follows := by
  apply h₃.follows
  by_cases ht : t.IsDefaultType
  · refine follows_of_push ?_
    rw [lastPush_updateCellularDataConnectState, if_pos ht,
      apnManager_updateCellularDataConnectState]
  · have hcompleted : (s.completed env t info).Follows :=
      Follows.alike (s := s.setApnActivateEnd env info) h (alike_other ht _) rfl
    have hs₁ := h₁.follows hcompleted
    refine Follows.updateCellularDataConnectState (h₂.follows ?_) t
    split
    · exact hs₁
    · exact hs₁.alike (alike_other ht _) rfl

theorem follows_release {m : MachineRef} {info : SetupDataCallResultInfo} (h : s.Follows) :
    ((s.releaseMachine env t m info).updateCellularDataConnectState t).Follows := by
  by_cases ht : t.IsDefaultType
  · refine follows_of_push ?_
    rw [lastPush_updateCellularDataConnectState, if_pos ht,
      apnManager_updateCellularDataConnectState]
  · refine Follows.updateCellularDataConnectState (h.alike (fun u hu => ?_) ?_) t
    · left
      rw [apnState_releaseMachine, if_neg]
      rintro rfl
      exact ht hu
    · exact apply_releaseMachine lastPush (fun _ => lastPush_callMachine m _) fun _ _ => rfl

theorem step_follows (hs : system.Reachable s) (hstep : step l s = some s') (h : s.Follows) :
    s'.Follows := by
  have ht := reachable_tracked hs
  cases step_steps hstep with
  | aside ha =>
    refine h.alike (.of_states fun t => ?_) (lastPush_aside ha)
    rw [ha.holder]
  | call hd => exact hd.connects.follows ht h
  | @take env e q hnext =>
    have hq : Follows { s with queue := q } := h.alike (.of_states fun _ => rfl) rfl
    generalize hs' : processEvent env { s with queue := q } e = s'
    have htakes : Takes env { s with queue := q } e s' := hs' ▸ processEvent_takes env _ e
    cases htakes with
    | event he hd =>
      obtain ⟨hready, hr⟩ := next_ready ht.regular hnext
      have hcore := core_take hready he
      exact hd.connects.follows ⟨hr, hcore ▸ ht.wellFormed, hcore ▸ ht.owned⟩ hq
    | @request request t _ _ hw =>
      refine hw.follows (hq.alike (.of_states fun u => ?_) rfl)
      exact (hidden_requestCellularData t request.capability).apnState u
    | noCompletion _ => exact hq.alike (.of_states fun _ => rfl) rfl
    | @complete info t s₁ s₂ s₃ hid h₁ h₂ h₃ =>
      have hs₃ := follows_complete hq h₁ h₂ h₃
      split_ifs
      · exact hs₃.alike (.of_states fun _ => rfl) rfl
      · exact hs₃
    | noEnd _ => exact hq
    | @endWithoutMachine info t hid hm =>
      refine hq.alike (alike_setApnState ?_ rfl) rfl
      exact ((ht.owned.linked t).of_owner_none hm).2
    | @finish info t m s₁ hid hm hd =>
      have hrelease := (ht.release env hnext hid hm).acts
        (hidden_updateCellularDataConnectState t).acts
      exact follows_handleDisconnectDataCompleteForMmsType
        (hd.connects.follows hrelease (follows_release hq)) t
    | update hw => exact hw.follows hq

theorem reachable_follows (hs : system.Reachable s) : s.Follows := by
  refine hs.invariant (P := Follows) (fun s hs => ?_) fun l s s' hr h hstep => step_follows hr hstep h
  obtain ⟨env, slotId, l, hinit⟩ := Initial.does hs
  refine hinit.establishes.connects.follows ⟨⟨fun x hx => ?_, rfl, fun e he => ?_⟩, fun c hc => ?_,
    Core.blank_owned⟩ fun st hst => ?_
  · cases hx
  · cases he
  · cases hc
  · cases hst

/-! Runs in which only the default types are requested -/

/-- Every request that the handler has taken was for one of the default types. -/
def RequestsOnlyDefault (h : List (Label × Slot)) : Prop :=
  ∀ p ∈ h, ∀ t ∈ p.2.requested p.1, t.IsDefaultType

instance : DecidablePred RequestsOnlyDefault := fun h =>
  inferInstanceAs (Decidable (∀ p ∈ h, ∀ t ∈ p.2.requested p.1, t.IsDefaultType))

theorem othersIdle_of_history (hh : system.History h s) (hr : RequestsOnlyDefault h) :
    s.OthersIdle := by
  intro u hu
  have hunasked : Unasked u s := by
    apply unasked_of_history hh
    exact fun p hp hrequested => hu (hr p hp u hrequested)
  exact hunasked.idle

/-- A default holder waits for its retry, and none is up or on its way up. -/
def AwaitsRetry (s : Slot) : Prop := s.OneIn .retrying ∧ ¬ s.IsUp ∧ ¬ s.OneIn .connecting

/-- A voice call suspends the data of the slot. -/
def IsSuspended (env : Env) (s : Slot) : Prop :=
  s.disconnectionReason = .gsmAndCallingOnly ∧ s.isRestrictedMode env = true

theorem getCellularDataState_eq (h : ¬ s.IsSuspended env) :
    s.getCellularDataState env = s.queriedStatus := by
  unfold getCellularDataState
  exact if_neg h

/-- Push and query sum up the states alike unless a default holder waits for its retry. -/
theorem queriedStatus_eq_pushedStatus (h : s.OthersIdle) (hr : ¬ s.AwaitsRetry) :
    s.queriedStatus = s.pushedStatus := by
  by_cases hup : s.IsUp
  · rw [queriedStatus_up h hup, pushedStatus_up hup]
  · by_cases hc : s.OneIn .connecting
    · rw [queriedStatus_connecting h hup (.inl hc), pushedStatus_connecting hup hc]
    · have hnone : ¬ s.OneIn .retrying := fun hretrying => hr ⟨hretrying, hup, hc⟩
      rw [queriedStatus_down h hup hc hnone, pushedStatus_down hup hc]

/-- The last push and a query agree unless a default holder waits for its retry, which only a query
counts as connecting, or an attempt is torn down, of which no push tells. -/
theorem pushed_agrees_iff (hh : system.History h s) (hr : RequestsOnlyDefault h)
    (hpush : s.lastPush = some st) (hcall : ¬ s.IsSuspended env) :
    (cellularDataStateAdapter st = s.getCellularDataState env ↔
      ¬ s.AwaitsRetry ∧ ¬ (st = .connecting ∧ s.OneIn .disconnecting)) ∧
    (s.AwaitsRetry → cellularDataStateAdapter st = .disconnected ∧
      s.getCellularDataState env = .connecting) ∧
    (st = .connecting ∧ s.OneIn .disconnecting → cellularDataStateAdapter st = .connecting ∧
      s.getCellularDataState env = .connected) := by
  have hothers := othersIdle_of_history hh hr
  have hfollows := reachable_follows hh.reachable st hpush
  rw [getCellularDataState_eq hcall]
  have hwaits : s.AwaitsRetry → cellularDataStateAdapter st = .disconnected ∧
      s.queriedStatus = .connecting := by
    rintro ⟨hretrying, hup, hc⟩
    refine ⟨?_, queriedStatus_connecting hothers hup (.inr hretrying)⟩
    rcases hfollows with hsame | ⟨-, hdisconnecting⟩
    · rw [hsame, pushedStatus_down hup hc]
    · exact absurd (.inr hdisconnecting) hup
  have htorn : st = .connecting ∧ s.OneIn .disconnecting →
      cellularDataStateAdapter st = .connecting ∧ s.queriedStatus = .connected := by
    rintro ⟨rfl, hdisconnecting⟩
    exact ⟨rfl, queriedStatus_up hothers (.inr hdisconnecting)⟩
  refine ⟨⟨fun hagree => ⟨fun hw => ?_, fun ht => ?_⟩, fun ⟨hw, ht⟩ => ?_⟩, hwaits, htorn⟩
  · obtain ⟨hpushed, hqueried⟩ := hwaits hw
    rw [hpushed, hqueried] at hagree
    cases hagree
  · obtain ⟨hpushed, hqueried⟩ := htorn ht
    rw [hpushed, hqueried] at hagree
    cases hagree
  · rw [queriedStatus_eq_pushedStatus hothers hw]
    exact hfollows.resolve_right ht

instance (env : Env) : DecidablePred (IsSuspended env) := fun s =>
  inferInstanceAs (Decidable (s.disconnectionReason = .gsmAndCallingOnly ∧
    s.isRestrictedMode env = true))

/-- The connection that is up has been told. -/
theorem pushed_agrees_connected : ∃ h s, system.History h s ∧ RequestsOnlyDefault h ∧
    s.lastPush = some .connected ∧ ¬ s.IsSuspended serviceEnv ∧
    (cellularDataStateAdapter .connected = s.getCellularDataState serviceEnv ↔
      ¬ s.AwaitsRetry ∧ ¬ (ApnProfileState.connected = .connecting ∧ s.OneIn .disconnecting)) := by
  obtain ⟨h, s, hh, hp⟩ := exists_history connectedLabels
    (p := fun h s => RequestsOnlyDefault h ∧ s.lastPush = some .connected ∧
      ¬ s.IsSuspended serviceEnv) (by decide +kernel)
  obtain ⟨hr, hpush, hcall⟩ := of_decide_eq_true hp
  exact ⟨h, s, hh, hr, hpush, hcall, (pushed_agrees_iff hh hr hpush hcall).1⟩

/-- After a refusal idle has been pushed, which stands for disconnected, while a query answers
connecting. -/
theorem refusal_disagrees : ∃ h s, system.History h s ∧ RequestsOnlyDefault h ∧
    s.lastPush = some .idle ∧ ¬ s.IsSuspended serviceEnv ∧ s.crash = none ∧
    cellularDataStateAdapter .idle ≠ s.getCellularDataState serviceEnv := by
  obtain ⟨h, s, hh, hp⟩ := exists_history refusedLabels
    (p := fun h s => RequestsOnlyDefault h ∧ s.lastPush = some .idle ∧
      ¬ s.IsSuspended serviceEnv ∧ s.crash = none ∧
      cellularDataStateAdapter .idle ≠ s.getCellularDataState serviceEnv) (by decide +kernel)
  exact ⟨h, s, hh, of_decide_eq_true hp⟩

/-- An attempt is cleared after connecting has been pushed, and a query answers connected. -/
theorem teardown_disagrees : ∃ h s, system.History h s ∧ RequestsOnlyDefault h ∧
    s.lastPush = some .connecting ∧ ¬ s.IsSuspended serviceEnv ∧ s.crash = none ∧
    cellularDataStateAdapter .connecting ≠ s.getCellularDataState serviceEnv := by
  obtain ⟨h, s, hh, hp⟩ := exists_history (askedLabels ++ [clearLabel])
    (p := fun h s => RequestsOnlyDefault h ∧ s.lastPush = some .connecting ∧
      ¬ s.IsSuspended serviceEnv ∧ s.crash = none ∧
      cellularDataStateAdapter .connecting ≠ s.getCellularDataState serviceEnv) (by decide +kernel)
  exact ⟨h, s, hh, of_decide_eq_true hp⟩

end Slot
end CellularData
