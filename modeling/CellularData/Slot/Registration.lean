import CellularData.Slot.Obligations
import CellularData.Slot.Registry
import CellularData.Slot.Teardown

/-! Live calls in the registry: which steps take an entry away from a machine in `Active`. -/
namespace CellularData
open Lib StateMachine Relation

namespace Core

variable {k k' : Core} {cue : Cue} {t : ApnType} {m : MachineRef} {c c' : Control}

/-- A machine in `Active` is the one registered for its cid. -/
def Listed (k : Core) : Prop :=
  ∀ m c, k.controls[m]? = some c → c.state = some .active → k.registered c.cid = some m

/-- The call of another machine has the cid. -/
def LiveElsewhere (k : Core) (m : MachineRef) (cid : Int) : Prop :=
  ∃ n c, n ≠ m ∧ k.controls[n]? = some c ∧ c.state = some .active ∧ c.cid = cid

theorem registered_congr (h : k'.registry = k.registry) (cid : Int) :
    k'.registered cid = k.registered cid := by
  simp only [registered, h]

theorem registered_filter {cid cid' : Int}
    (h : k'.registry = k.registry.filter fun p => p.1 ≠ cid') (hne : cid ≠ cid') :
    k'.registered cid = k.registered cid := by
  have hfind : (k.registry.filter fun p => p.1 ≠ cid').find? (fun p => p.1 = cid) =
      k.registry.find? fun p => p.1 = cid := by
    rw [List.find?_filter]
    congr 1
    funext p
    by_cases hp : p.1 = cid
    · simp [hp, hne]
    · simp [hp]
  simp only [registered, h, hfind]

theorem registered_cons {cid : Int} {l : List (Int × MachineRef)}
    (h : k'.registry = (cid, m) :: l) : k'.registered cid = some m := by
  simp [registered, h]

theorem registered_cons_of_ne {cid cid' : Int}
    (h : k'.registry = (cid', m) :: k.registry.filter fun p => p.1 ≠ cid') (hne : cid ≠ cid') :
    k'.registered cid = k.registered cid := by
  have hcons : k'.registered cid =
      registered { k with registry := k.registry.filter fun p => p.1 ≠ cid' } cid := by
    simp [registered, h, Ne.symm hne]
  exact hcons.trans (registered_filter rfl hne)

theorem Listed.calm (h : k.Listed) (hc : Calm k k') : k'.Listed := by
  intro m c' hm' hactive
  obtain ⟨c, hm, hk⟩ := hc.control hm'
  rw [registered_congr hc.registry, hk.cid]
  exact h m c hm (hk.state.symm.trans hactive)

theorem Listed.engages (h : k.Listed) (he : Engages k k' t m) : k'.Listed := by
  intro n c hn hactive
  rw [registered_congr he.registry]
  by_cases hne : n = m
  · subst hne
    obtain ⟨c', hm', hcall, -⟩ := he.request
    obtain rfl := Option.some.inj (hn.symm.trans hm')
    exact absurd (.inl hactive) hcall
  · exact h n c ((he.others n hne).symm.trans hn) hactive

theorem Listed.releases (h : k.Listed) {info : SetupDataCallResultInfo}
    (hr : Releases k k' info t m c) (hlive : ¬ k.LiveElsewhere m c.cid) : k'.Listed := by
  intro n x hn hactive
  have hn : k.controls[n]? = some x := hr.controls ▸ hn
  have hne : n ≠ m := by
    rintro rfl
    obtain rfl := Option.some.inj (hn.symm.trans hr.control)
    have ha := hr.attempt
    rw [Control.attempt_busy (Control.isBusy_iff.mpr (.inr (.inl hactive)))] at ha
    cases ha
  rw [registered_filter hr.registry fun hcid => hlive ⟨n, x, hne, hn, hactive, hcid⟩]
  exact h n x hn hactive

theorem Listed.dispatch (h : k.Listed) {env : MachineEnv} {e : MachineEvent}
    {q : EventQueue MachineEvent} {os : List MachineOutput} (hm : k.controls[m]? = some c)
    (ht : Control.Transition env { c with queue := q } e c' os)
    (hlive : ∀ cid, .addActiveConnectionByCid cid ∈ os → ¬ k.LiveElsewhere m cid) :
    Listed (os.foldl (fun k o => k.receive m o)
      { k.logMachineEvent m c e with controls := k.controls.set m c' }) := by
  obtain ⟨k', heq, -, -, hcontrols, -⟩ := dispatch_frame k m c c' e os
  have hregistry := registry_logMachineEvent k m c e
  rw [← heq]
  intro n x hn hactive
  rw [hcontrols] at hn
  by_cases hadd : ∃ cid, .addActiveConnectionByCid cid ∈ os
  · obtain ⟨cid, hadd⟩ := hadd
    have hno := hlive cid hadd
    obtain ⟨-, -, hcid, rfl, -⟩ := ht.accepted hadd
    have hreg : k'.registry = (cid, m) :: k.registry.filter fun p => p.1 ≠ cid := by
      rw [heq, ← hregistry]
      rfl
    rcases getElem?_set_cases hm hn with ⟨rfl, rfl⟩ | ⟨hne, hn⟩
    · rw [hcid]
      exact registered_cons hreg
    · rw [registered_cons_of_ne hreg fun hx => hno ⟨n, x, hne, hn, hactive, hx⟩]
      exact h n x hn hactive
  · have hno : ∀ cid, .addActiveConnectionByCid cid ∉ os := fun cid h => hadd ⟨cid, h⟩
    have hreg : k'.registry = k.registry := heq ▸ (registry_receive hno _ m).trans hregistry
    rw [registered_congr hreg]
    rcases getElem?_set_cases hm hn with ⟨rfl, rfl⟩ | ⟨-, hn⟩
    · rcases ht.active hactive with ⟨hactive, hcid⟩ | hadd'
      · rw [hcid]
        exact h n c hm hactive
      · exact absurd hadd' hadd
    · exact h n x hn hactive

theorem Listed.report (h : k.Listed) (dcList : List SetupDataCallResultInfo) :
    (k.radioDataCallListChanged dcList).Listed := by
  refine report_invariant (P := Listed) (fun k₁ info _ hk => ?_) (fun k₁ m _ hk => ?_)
    (fun _ _ hk => hk) h
  · exact relayDataCall_invariant hk fun _ => hk
  · refine loseConnection_invariant hk (fun info n c hn hactive => ?_) dcList
    have hn' : (k₁.controls.modify m fun c => c.post _)[n]? = some c := hn
    rw [List.getElem?_modify] at hn'
    obtain ⟨c₀, hc₀, rfl⟩ := Option.map_eq_some_iff.mp hn'
    by_cases hmn : m = n
    · simp only [hmn, if_true] at hactive ⊢
      exact hk n c₀ hc₀ hactive
    · simp only [hmn, if_false] at hactive ⊢
      exact hk n c₀ hc₀ hactive

end Core

namespace Slot

variable {s s' : Slot} {l : Label}

/-- The machine registered for a cid is the one whose call has it. -/
structure RegistryExact (s : Slot) : Prop where
  active : ∀ m x, s.machine? m = some x → x.isActiveState = true →
    s.getActiveConnectionByCid x.data.cid = some m
  registered : ∀ cid m, s.getActiveConnectionByCid cid = some m → ∃ x, s.machine? m = some x ∧
    x.data.cid = cid ∧ (x.isActiveState = true ∨ x.isDisconnectingState = true ∨
      ∃ t, (s.holder t).cellularDataStateMachine = some m ∧ ∃ info : SetupDataCallResultInfo,
        info.flag = t.id ∧ .disconnectDataComplete info ∈ s.queue.pending)

/-- Another machine is in `Active` under the cid. -/
def HasLiveCall (s : Slot) (m : MachineRef) (cid : Int) : Prop :=
  ∃ n x, n ≠ m ∧ s.machine? n = some x ∧ x.isActiveState = true ∧ x.data.cid = cid

/-- The handler gives up a machine whose stored cid is that of another machine's call. -/
def ReleasesLiveCid (l : Label) (s : Slot) : Prop :=
  ∃ info t m x, s.taken l = some (.disconnectDataComplete info) ∧ info.flag = ApnType.id t ∧
    (s.holder t).cellularDataStateMachine = some m ∧ s.machine? m = some x ∧
    s.HasLiveCall m x.data.cid

/-- A machine accepts a successful answer with the cid of another machine's call. -/
def AcceptsLiveCid (l : Label) (s : Slot) : Prop :=
  ∃ env m x info q, l = .dispatchMachine env m ∧ s.machine? m = some x ∧
    x.isActivatingState = true ∧ x.queue.next = some (.setupDataCall (.resultInfo info), q) ∧
    info.flag = x.data.connectId ∧ Control.setupSucceeds info = true ∧ s.HasLiveCall m info.cid

theorem hasLiveCall_of_core (hr : s.Regular) {m : MachineRef} {cid : Int}
    (h : s.core.LiveElsewhere m cid) : s.HasLiveCall m cid := by
  obtain ⟨n, c, hne, hn, hactive, hcid⟩ := h
  obtain ⟨x, hx, rfl⟩ := machine_of_control hn
  have hsettled := hr.settled x (List.mem_of_getElem? hx)
  exact ⟨n, x, hne, hx, decide_eq_true ((hsettled.isState_iff _).mpr hactive), hcid⟩

/-- Entries of live calls are only lost in the two kinds of steps. -/
theorem reachable_listed
    (h : system.ReachableWhen (fun l s => ¬ ReleasesLiveCid l s ∧ ¬ AcceptsLiveCid l s) s) :
    s.core.Listed := by
  refine calls_invariant h (fun _ _ hm => nomatch hm) (fun k k' _ _ hp ha => ?_)
    fun l s k hr _ _ _ hp hok ht => ?_
  · rcases ha with hc | ⟨t, m, he⟩
    · exact hp.calm hc
    · exact hp.engages he
  · obtain ⟨hrelease, haccept⟩ := hok
    generalize hcue : s.cue l = cue at ht
    cases ht with
    | calm hc => exact hp.calm hc
    | @releases _ info t m c hrel =>
      refine hp.releases hrel fun hlive => hrelease ?_
      obtain ⟨x, hx, rfl⟩ := machine_of_control hrel.control
      exact ⟨info, t, m, x, taken_of_cue hcue, hrel.flag, hrel.owned, hx,
        hasLiveCall_of_core hr hlive⟩
    | @dispatch menv m c c' e q os hm hnext ht =>
      refine hp.dispatch hm ht fun cid hadd hlive => haccept ?_
      obtain ⟨x, hx, rfl⟩ := machine_of_control hm
      obtain ⟨env, rfl⟩ := machine_of_cue hcue
      obtain ⟨hst, -, -, -, info, rfl, rfl, hflag, hsuccess⟩ := ht.accepted hadd
      have hsettled := hr.settled x (List.mem_of_getElem? hx)
      exact ⟨env, m, x, info, q, rfl, hx, decide_eq_true ((hsettled.isState_iff _).mpr hst), hnext,
        hflag, hsuccess, hasLiveCall_of_core hr hlive⟩
    | report => exact hp.report _

/-- While neither kind of step occurs, the registry is exact. -/
theorem registryExact_of_cids
    (h : system.ReachableWhen (fun l s => ¬ ReleasesLiveCid l s ∧ ¬ AcceptsLiveCid l s) s) :
    s.RegistryExact := by
  obtain ⟨hr, -⟩ := reachable_regular h
  obtain ⟨ho, hreg⟩ := reachable_registered h
  have hstate : ∀ {m x st}, s.machine? m = some x → x.control.state = some st →
      x.data.currentState = some st := fun hx hst =>
    ((hr.settled _ (List.mem_of_getElem? hx)).isState_iff _).mpr hst
  constructor
  · intro m x hx hactive
    have hsettled := hr.settled x (List.mem_of_getElem? hx)
    exact reachable_listed h m x.control (control_of_machine hx)
      ((hsettled.isState_iff _).mp (of_decide_eq_true hactive))
  · intro cid m hm
    obtain ⟨p, hp, rfl⟩ := Option.map_eq_some_iff.mp hm
    have hcid : p.1 = cid := by simpa using List.find?_some hp
    obtain ⟨c, hc, hcc, hcall⟩ := hreg.entry p.1 p.2 (List.mem_of_find?_eq_some hp)
    obtain ⟨x, hx, rfl⟩ := machine_of_control hc
    refine ⟨x, hx, hcc.trans hcid, ?_⟩
    rcases hcall with (hst | hst) | ⟨ha, t, hown, -⟩
    · exact .inl (decide_eq_true (hstate hx hst))
    · exact .inr (.inl (decide_eq_true (hstate hx hst)))
    · exact .inr (.inr ⟨t, hown, exists_end (ho.ends_of_attempt hown hc ha)⟩)

/-! One machine, and two machines of which one keeps an old cid -/

/-- There is at most one machine. -/
def isAlone (_ : Label) (s : Slot) : Bool := s.stateMachines.length ≤ 1

theorem not_hasLiveCall_of_isAlone {m : MachineRef} {cid : Int} {x : CellularDataStateMachine}
    (h : isAlone l s = true) (hx : s.machine? m = some x) : ¬ s.HasLiveCall m cid := by
  rintro ⟨n, y, hne, hy, -, -⟩
  have hfirst : ∀ {i : MachineRef} {z : CellularDataStateMachine}, s.machine? i = some z → i = 0 :=
    fun hz => Nat.lt_one_iff.mp
      (Nat.lt_of_lt_of_le (List.getElem?_eq_some_iff.mp hz).1 (of_decide_eq_true h))
  exact hne ((hfirst hy).trans (hfirst hx).symm)

theorem cidsKept_of_isAlone (l : Label) (s : Slot) (h : isAlone l s = true) :
    ¬ ReleasesLiveCid l s ∧ ¬ AcceptsLiveCid l s := by
  constructor
  · rintro ⟨info, t, m, x, -, -, -, hx, hlive⟩
    exact not_hasLiveCall_of_isAlone h hx hlive
  · rintro ⟨env, m, x, info, q, -, hx, -, -, -, -, hlive⟩
    exact not_hasLiveCall_of_isAlone h hx hlive

theorem registryExact_answered : ∃ s,
    system.runIf isAlone (askedLabels ++ answeredLabels) start = some s ∧
      (s.machine? 0).any (·.isActiveState) = true ∧ s.RegistryExact := by
  have hrun : (system.runIf isAlone (askedLabels ++ answeredLabels) start).any
      (fun s => (s.machine? 0).any (·.isActiveState)) = true := by decide +kernel
  obtain ⟨s, hs, hactive⟩ := (Option.any_eq_true _ _).mp hrun
  refine ⟨s, hs, hactive, registryExact_of_cids ?_⟩
  exact (TransitionSystem.ReachableWhen.init start_initial).path
    (TransitionSystem.path_of_runIf cidsKept_of_isAlone hs)

/-- Cids of the calls that the modem has reported as up and not as down since. -/
def upCids : List CallEvent → List Int
  | [] => []
  | .setupAnswer _ info :: log =>
    if Control.setupSucceeds info then info.cid :: upCids log else upCids log
  | .reportedDown cid :: log => (upCids log).filter (· ≠ cid)
  | _ :: log => upCids log

/-- No call is reported under the cid of a call that is still up. -/
def hasFreshCids : List CallEvent → Bool
  | [] => true
  | .setupAnswer _ info :: log =>
    (!Control.setupSucceeds info || info.cid ∉ upCids log) && hasFreshCids log
  | _ :: log => hasFreshCids log

/-- The call for MMS is lost and set up again by the first machine, which keeps the cid. The second
machine gets the cid for the default holder, and the set-up for MMS fails. -/
def staleCidLabels : List Label :=
  loadLabels ++ requestLabels .mms 0 ++ [.dispatchMachine serviceEnv 0,
    .postMachine 0 (.setupDataCall (.resultInfo { cid := 1, flag := 1, active := 1 })),
    .dispatchMachine serviceEnv 0, .dispatchMachine serviceEnv 0, .dispatchHandler serviceEnv,
    .dataCallListChanged [{ cid := 1, active := 0 }], .dispatchMachine serviceEnv 0,
    .dispatchHandler serviceEnv, .dispatchHandler serviceEnv, .fireHandler 0,
    .dispatchHandler serviceEnv, .dispatchHandler serviceEnv, .dispatchMachine serviceEnv 0] ++
  requestLabels .internet 1 ++ [.dispatchMachine serviceEnv 1,
    .postMachine 1 (.setupDataCall (.resultInfo { cid := 1, flag := 1, active := 1 })),
    .dispatchMachine serviceEnv 1, .dispatchMachine serviceEnv 1, .dispatchHandler serviceEnv,
    .dispatchHandler serviceEnv, .postMachine 0 (.setupDataCall (.rilInfo { flag := 2 })),
    .dispatchMachine serviceEnv 0]

/-- The end of the failed attempt removes the entry of the live call. -/
theorem stale_cid_removes_entry : ∃ s s' x,
    system.run staleCidLabels start = some s ∧
      s.getActiveConnectionByCid 1 = some 1 ∧
      system.step (.dispatchHandler serviceEnv) s = some s' ∧ s'.crash = none ∧
      hasFreshCids s'.callLog = true ∧ (s'.holder .default_).apnState = .connected ∧
      (s'.holder .default_).cellularDataStateMachine = some 1 ∧ s'.machine? 1 = some x ∧
      x.isActiveState = true ∧ x.data.cid = 1 ∧ s'.getActiveConnectionByCid 1 = none ∧
      system.Reachable s' ∧ ¬ s'.RegistryExact := by
  obtain ⟨s, hrun, hs, hp⟩ := exists_run (staleCidLabels)
    (p := fun s => s.getActiveConnectionByCid 1 = some 1 ∧
      (system.step (.dispatchHandler serviceEnv) s).any fun s' => s'.crash = none ∧
        hasFreshCids s'.callLog = true ∧ (s'.holder .default_).apnState = .connected ∧
        (s'.holder .default_).cellularDataStateMachine = some 1 ∧
        s'.getActiveConnectionByCid 1 = none ∧
        (s'.machine? 1).any fun x => x.isActiveState = true ∧ x.data.cid = 1) (by decide +kernel)
  obtain ⟨hbefore, hafter⟩ := of_decide_eq_true hp
  obtain ⟨s', hstep, hs'⟩ := (Option.any_eq_true _ _).mp hafter
  obtain ⟨hcrash, hfresh, hstate, howner, hnone, hmachine⟩ := of_decide_eq_true hs'
  obtain ⟨x, hx, hx'⟩ := (Option.any_eq_true _ _).mp hmachine
  obtain ⟨hactive, hcid⟩ := of_decide_eq_true hx'
  refine ⟨s, s', x, hrun, hbefore, hstep, hcrash, hfresh, hstate, howner, hx, hactive, hcid, hnone,
    hs.step hstep, fun hexact => ?_⟩
  have hlisted := hexact.active 1 x hx hactive
  rw [hcid, hnone] at hlisted
  cases hlisted

end Slot
end CellularData
