import CellularData.Slot.Activation
import CellularData.Slot.Reuse

/-! The search for a compatible connection and the items of the machines that it comes to. -/
namespace CellularData
open Lib StateMachine Relation

namespace Slot

variable {env : Env} {s s' s₁ : Slot} {t : ApnType} {m : MachineRef} {l : Label}
  {h : List (Label × Slot)}

/-- A machine with which the search ends. -/
def isMatch (t : ApnType) (x : CellularDataStateMachine) : Bool :=
  x.data.link.apnItem.any (fun item => item.canDealWithType t) && x.isActiveState

/-- The machine that a search for `t` over the machines comes to. -/
def Visits (t : ApnType) (xs : List CellularDataStateMachine) (m : MachineRef) : Prop :=
  m < xs.length ∧ ∀ n x, n < m → xs[n]? = some x → isMatch t x = false

theorem visits_zero (x : CellularDataStateMachine) (xs : List CellularDataStateMachine) :
    Visits t (x :: xs) 0 := by
  refine ⟨Nat.succ_pos _, fun n y hn => ?_⟩
  exact absurd hn (Nat.not_lt_zero n)

theorem visits_succ {x : CellularDataStateMachine} {xs : List CellularDataStateMachine} :
    Visits t (x :: xs) (m + 1) ↔ isMatch t x = false ∧ Visits t xs m := by
  constructor
  · rintro ⟨hlt, hbefore⟩
    refine ⟨hbefore 0 x (Nat.succ_pos m) rfl, Nat.lt_of_succ_lt_succ hlt, fun n y hn hy => ?_⟩
    exact hbefore (n + 1) y (Nat.succ_lt_succ hn) hy
  · rintro ⟨hx, hlt, hbefore⟩
    refine ⟨Nat.succ_lt_succ hlt, fun n y hn hy => ?_⟩
    cases n with
    | zero =>
      obtain rfl : x = y := Option.some.inj hy
      exact hx
    | succ n => exact hbefore n y (Nat.lt_of_succ_lt_succ hn) hy

/-- Without a list of DUN items the search fails exactly at a machine without an item. -/
theorem searchCompatible_fault (t : ApnType) (isRoaming : Bool) (xs : List CellularDataStateMachine)
    (m : MachineRef) (potentialDc : Option MachineRef) (fault : Bool) :
    (searchCompatible t [] isRoaming xs m potentialDc fault).2 = true ↔
      fault = true ∨ ∃ n x, Visits t xs n ∧ xs[n]? = some x ∧ x.data.link.apnItem = none := by
  induction xs generalizing m potentialDc fault with
  | nil =>
    refine (or_iff_left ?_).symm
    rintro ⟨n, x, -, hx, -⟩
    rw [List.getElem?_nil] at hx
    cases hx
  | cons x xs ih =>
    have hshift : (fault || decide (x.data.link.apnItem = none)) = true ∨
        (isMatch t x = false ∧
          ∃ n y, Visits t xs n ∧ xs[n]? = some y ∧ y.data.link.apnItem = none) ↔
        fault = true ∨
          ∃ n y, Visits t (x :: xs) n ∧ (x :: xs)[n]? = some y ∧ y.data.link.apnItem = none := by
      rw [Bool.or_eq_true, decide_eq_true_eq, or_assoc]
      refine or_congr_right ⟨?_, ?_⟩
      · rintro (hnone | ⟨hx, n, y, hn, hy, hnone⟩)
        · exact ⟨0, x, visits_zero x xs, rfl, hnone⟩
        · exact ⟨n + 1, y, visits_succ.mpr ⟨hx, hn⟩, hy, hnone⟩
      · rintro ⟨n, y, hn, hy, hnone⟩
        cases n with
        | zero =>
          obtain rfl : x = y := Option.some.inj hy
          exact .inl hnone
        | succ n =>
          obtain ⟨hx, hn⟩ := visits_succ.mp hn
          exact .inr ⟨hx, n, y, hn, hy, hnone⟩
    rw [← hshift]
    unfold searchCompatible
    simp only [if_true, decide_true, Bool.true_and]
    split_ifs with hmatch
    · have hx : isMatch t x = true := hmatch
      rw [hx]
      simp
    all_goals
      have hx : isMatch t x = false := by simpa [isMatch] using hmatch
      rw [ih, hx]
      simp

def dunApnList (env : Env) (s : Slot) (t : ApnType) : List ApnItem :=
  if t = .dun then
    (s.apnManager.fetchDunApns s.apnItem (0 < env.psRoamingState)).map s.apnItem
  else []

/-- The search for `t` comes to the machine and reads its item without a look whether there is one. -/
def Reads (env : Env) (s : Slot) (t : ApnType) (m : MachineRef) : Prop :=
  s.dunApnList env t = [] ∧ Visits t s.stateMachines m

theorem machines_isCellularDataRoamingEnabled (env : Env) (s : Slot) :
    (s.isCellularDataRoamingEnabled env).1.stateMachines = s.stateMachines ∧
      (s.isCellularDataRoamingEnabled env).1.crash = s.crash := by
  rw [isCellularDataRoamingEnabled_fst]
  rcases queryUserDataRoamingStatus_cases env s with ⟨on, hq⟩ | hq
  · rw [hq]
    exact ⟨rfl, rfl⟩
  · rw [hq]
    exact ⟨rfl, rfl⟩

theorem searchCompatible_dun {dunApnList : List ApnItem} (hdun : dunApnList ≠ []) (t : ApnType)
    (isRoaming : Bool) (xs : List CellularDataStateMachine) (m : MachineRef)
    (potentialDc : Option MachineRef) :
    (searchCompatible t dunApnList isRoaming xs m potentialDc false).2 = false := by
  induction xs generalizing m potentialDc with
  | nil => rfl
  | cons x xs ih =>
    unfold searchCompatible
    simp only [hdun, decide_false, Bool.false_and, Bool.or_self, if_false]
    split_ifs
    · rfl
    all_goals exact ih _ _

theorem crash_checkForCompatibleDataConnection (env : Env) (s : Slot) (t : ApnType) : ∃ isRoaming,
    (s.checkForCompatibleDataConnection env t).1.crash =
      if (searchCompatible t (s.dunApnList env t) isRoaming s.stateMachines 0 none false).2 then
        s.crash.or (some .nullApnItem)
      else s.crash := by
  obtain ⟨hmachines, hcrash⟩ := machines_isCellularDataRoamingEnabled env s
  refine ⟨(s.isCellularDataRoamingEnabled env).2.getD false, ?_⟩
  rw [← hmachines, ← hcrash]
  unfold checkForCompatibleDataConnection dunApnList
  dsimp only
  split_ifs <;> rfl

/-- The search survives exactly when every machine that it reads has an item. -/
theorem search_survives_iff (hcrash : s.crash = none) :
    (s.checkForCompatibleDataConnection env t).1.crash = none ↔
      ∀ m, s.Reads env t m → s.wiring.item m ≠ none := by
  obtain ⟨isRoaming, heq⟩ := crash_checkForCompatibleDataConnection env s t
  rw [heq, hcrash]
  by_cases hdun : s.dunApnList env t = []
  · have hfault := searchCompatible_fault t isRoaming s.stateMachines 0 none false
    rw [hdun]
    have hitems : (∃ n x, Visits t s.stateMachines n ∧ s.stateMachines[n]? = some x ∧
        x.data.link.apnItem = none) ↔ ∃ m, s.Reads env t m ∧ s.wiring.item m = none := by
      constructor
      · rintro ⟨n, x, hn, hx, hnone⟩
        refine ⟨n, ⟨hdun, hn⟩, ?_⟩
        rw [Wiring.item, ports_getElem?, machine?, hx]
        exact hnone
      · rintro ⟨n, ⟨-, hn⟩, hnone⟩
        refine ⟨n, _, hn, List.getElem?_eq_getElem hn.1, ?_⟩
        rw [Wiring.item, ports_getElem?, machine?, List.getElem?_eq_getElem hn.1] at hnone
        exact hnone
    rw [hitems] at hfault
    split_ifs with hf
    · obtain ⟨m, hm, hnone⟩ := (hfault.mp hf).resolve_left Bool.false_ne_true
      exact iff_of_false (Option.some_ne_none _) fun h => h m hm hnone
    · refine iff_of_true rfl fun m hm hnone => hf (hfault.mpr (.inr ⟨m, hm, hnone⟩))
  · rw [searchCompatible_dun hdun]
    exact iff_of_true rfl fun m hm => absurd hm.1 hdun

/-! The states of the handler in the middle of a step -/

/-- Between two of its operations the handler is in these states. -/
inductive Within (env : Env) (s : Slot) : Slot → Prop
  | start : Within env s s
  | take {e : HandlerEvent} {q : EventQueue HandlerEvent} (hnext : s.queue.next = some (e, q)) :
      Within env s { s with queue := q }
  | op {s₁ s₂ : Slot} (h : Within env s s₁) (hop : Op env (Connects env) s₁ s₂) : Within env s s₂
  | release {s₁ : Slot} {t : ApnType} {m : MachineRef} {info : SetupDataCallResultInfo}
      (h : Within env s s₁) : Within env s (s₁.releaseMachine env t m info)

theorem Within.does (h : Within env s s₁) (hd : Does env (Connects env) s₁ s') :
    Within env s s' := by
  induction hd with
  | refl => exact h
  | tail _ hop ih => exact ih.op hop

theorem Within.plugged (h : Within env s s₁) (hr : s.Regular) (hs : s.Equipped) :
    Plugged s s₁ := by
  induction h with
  | start => exact .refl hr hs
  | take hnext => exact ⟨(next_ready hr hnext).2, hs, .refl⟩
  | op _ hop ih =>
    exact ih.trans ⟨(hop.acts ih.regular).1, hop.equipped ih.equipped,
      hop.plugged ih.regular ih.equipped⟩
  | release _ ih => exact ih.trans (plugged_releaseMachine ih.regular ih.equipped _ _ _)

/-! Which machines have an item -/

/-- With the step the machine takes a request in `Inactive`. -/
def accepts : Label → Slot → MachineRef → Bool
  | .dispatchMachine env n, s, m =>
    n = m && (s.machine? m).any fun x =>
      x.isInactiveState && (x.dispatch (env.machineEnv s)).any fun r => r.1.isConnect
  | _, _, _ => false

/-- In the run the machine has taken a request. -/
def Assigned (h : List (Label × Slot)) (m : MachineRef) : Prop := ∃ p ∈ h, accepts p.1 p.2 m = true

/-- A holder for which a request has been made has an item. -/
theorem Keeps.item_ne_none (h : Keeps t s s') (hs : s.recordsOf t ≠ [] → (s.holder t).apnItem ≠ none)
    (hrecord : s'.recordsOf t ≠ []) : (s'.holder t).apnItem ≠ none := by
  obtain ⟨records, heq, hitem, hsome⟩ := h
  by_cases hnil : records = []
  · rw [hitem hnil]
    apply hs
    rwa [heq, hnil, List.nil_append] at hrecord
  · exact hsome hnil

theorem reachable_item (hs : system.Reachable s) (hrecord : s.recordsOf t ≠ []) :
    (s.holder t).apnItem ≠ none := by
  refine hs.invariant (P := fun s => s.recordsOf t ≠ [] → (s.holder t).apnItem ≠ none)
    (fun s hs => ?_) (fun l s s' _ h hstep => (step_keeps hstep).item_ne_none h) hrecord
  obtain ⟨env, slotId, l, hinit⟩ := Initial.does hs
  exact hinit.establishes.connects.keeps.item_ne_none fun h => absurd rfl h

/-- A request on its way is for a holder that has an item. -/
theorem currentApn_of_dispatch (hs : system.Reachable s) {x x' : CellularDataStateMachine}
    (hm : s.machine? m = some x) {params : DataConnectionParams}
    (hd : x.dispatch (env.machineEnv s) = some (.connect params, x')) :
    (env.machineEnv s).currentApn params.apnHolder ≠ none := by
  have hpending : .connect params ∈ x.queue.pending := by
    obtain ⟨q, hnext, -⟩ := CellularDataStateMachine.dispatch_eq_some hd
    exact (EventQueue.mem_pending_next hnext).mpr (.inl rfl)
  obtain ⟨r, hrecord, -⟩ := reachable_current hs hm (.inl hpending)
  have hitem : (s.holder params.apnHolder).apnItem ≠ none := by
    apply reachable_item hs
    intro hnil
    rw [hnil] at hrecord
    cases hrecord
  intro hnone
  exact hitem (Option.map_eq_none_iff.mp hnone)

theorem assigned_cons {p : Label × Slot} :
    Assigned (p :: h) m ↔ accepts p.1 p.2 m = true ∨ Assigned h m := by
  unfold Assigned
  rw [List.exists_mem_cons_iff]

/-- A machine has an item exactly when it has taken a request. -/
theorem item_iff_assigned (hh : system.History h s) (m : MachineRef) :
    s.wiring.item m ≠ none ↔ Assigned h m := by
  induction hh with
  | init hs =>
    rw [Wiring.item_plugged (initial_plugged hs).2]
    refine iff_of_false (fun hne => hne rfl) ?_
    rintro ⟨p, hp, -⟩
    cases hp
  | @step h l s s' hh hstep ih =>
    rw [assigned_cons, ← ih]
    cases step_rewired hh.reachable hstep with
    | plugged hl hp =>
      have hnot : accepts l s m = false := by
        cases l with
        | dispatchMachine env n => exact absurd rfl (hl env n)
        | _ => rfl
      rw [Wiring.item_plugged hp, hnot]
      exact (or_iff_right Bool.false_ne_true).symm
    | @turned env n e s' ht =>
      obtain ⟨x, x', p, calls, hx, hd, hturn, hwiring⟩ := ht
      have hport : s.wiring.ports[n]? = some x.port := by rw [ports_getElem?, hx, Option.map_some]
      have hsettled := (reachable_regular hh.reachable).1.settled x (List.mem_of_getElem? hx)
      rw [hwiring, Wiring.item_set hport]
      by_cases hne : m = n
      · subst hne
        have haccepts : accepts (.dispatchMachine env m) s m = (x.isInactiveState && e.isConnect) := by
          simp only [accepts, decide_true, Bool.true_and, hx, hd, Option.any_some]
        rw [if_pos rfl, haccepts, Wiring.item_of_port hport, Bool.and_eq_true,
          isInactiveState_iff hsettled]
        cases hturn with
        | stay hactive hconnect =>
          refine (or_iff_right fun h => ?_).symm
          have hfalse := hconnect h.1
          cases hfalse.symm.trans h.2
        | connect hstate =>
          exact iff_of_true (currentApn_of_dispatch hh.reachable hx hd) (.inl ⟨hstate, rfl⟩)
        | leave hactive hstate =>
          refine (or_iff_right fun h => ?_).symm
          have hinactive : x.port.state = some .inactive := h.1
          cases hactive.symm.trans hinactive
      · have hnot : accepts (.dispatchMachine env n) s m = false := by
          simp only [accepts, decide_eq_false (Ne.symm hne), Bool.false_and]
        rw [if_neg hne, hnot]
        exact (or_iff_right Bool.false_ne_true).symm

/-- The handler gives no machine an item before its step is over. -/
theorem Within.item_iff (hh : system.History h s) (hw : Within env s s₁) (m : MachineRef) :
    s₁.wiring.item m ≠ none ↔ Assigned h m := by
  have hplugged := hw.plugged (reachable_regular hh.reachable).1 (reachable_equipped hh.reachable)
  rw [Wiring.item_plugged hplugged.wiring m]
  exact item_iff_assigned hh m

/-! No other operation reads a null item -/

theorem crash_of_marks (h : s'.marks = s.marks) : s'.crash = s.crash := congrArg Prod.fst h

theorem Write.crash (h : Write env s s') (hc : s'.crash = some .nullApnItem) :
    s.crash = some .nullApnItem := by
  cases h with
  | other h =>
    have hsame : s'.crash = s.crash := congrArg (·.2.2.2.2.2.2.2.2.2.2.2.2) h
    exact hsame.symm.trans hc
  | fault hne =>
    cases hs : s.crash with
    | none =>
      rw [setCrash, hs] at hc
      exact absurd (Option.some.inj hc) hne
    | some c =>
      rw [setCrash, hs] at hc
      exact hc
  | push => exact (crash_of_marks (marks_updateCellularDataConnectState _)).symm.trans hc
  | machine _ => exact (crash_of_marks (marks_callMachine _ _)).symm.trans hc
  | reuse _ => exact (crash_of_marks (marks_callMachine _ _)).symm.trans hc
  | reload => exact (crash_of_marks (marks_applyApnReload _)).symm.trans hc
  | setBad => exact (crash_of_marks (marks_setApnBadState _ _)).symm.trans hc
  | lend =>
    unfold lendDataPermitted at hc
    rw [crash_of_marks (marks_setDataPermittedForMms true)] at hc
    split_ifs at hc <;> exact hc
  | giveBack => exact (crash_of_marks (marks_setDataPermittedForMms false)).symm.trans hc
  | _ => exact hc

theorem Writes.crash (h : Writes env s s') (hc : s'.crash = some .nullApnItem) :
    s.crash = some .nullApnItem := by
  induction h with
  | refl => exact hc
  | tail _ hw ih => exact ih (hw.crash hc)

/-- An operation that reads a null item is a search. -/
theorem Op.crash (h : Op env (Connects env) s s') (hc : s'.crash = some .nullApnItem) :
    s.crash = some .nullApnItem ∨
      s.crash = none ∧ ∃ t, (s.checkForCompatibleDataConnection env t).1.crash ≠ none := by
  cases h with
  | write h => exact .inl (h.crash hc)
  | disconnect _ => exact .inl hc
  | reset _ => exact .inl hc
  | retry _ _ _ => exact .inl hc
  | renew => exact .inl ((crash_of_marks (marks_renewHolders s)).symm.trans hc)
  | tell _ => exact .inl hc
  | @search t =>
    cases hs : s.crash with
    | none =>
      refine .inr ⟨rfl, t, ?_⟩
      rw [hc]
      exact Option.some_ne_none _
    | some c =>
      left
      obtain ⟨isRoaming, heq⟩ := crash_checkForCompatibleDataConnection env s t
      rw [heq, hs] at hc
      split_ifs at hc <;> exact hc
  | connect h => exact .inl ((crash_of_marks h.marks).symm.trans hc)

/-- A null item is read in a search. -/
theorem Within.crash (h : Within env s s₁) (hs : s.crash = none)
    (hc : s₁.crash = some .nullApnItem) : ∃ s₂ t, Within env s s₂ ∧ s₂.crash = none ∧
      (s₂.checkForCompatibleDataConnection env t).1.crash ≠ none := by
  induction h with
  | start => cases hs.symm.trans hc
  | take _ => cases hs.symm.trans hc
  | @op s₁ s₂ h hop ih =>
    rcases hop.crash hc with hc | ⟨hnone, t, ht⟩
    · exact ih hc
    · exact ⟨s₁, t, h, hnone, ht⟩
  | release h ih => exact ih ((crash_of_marks (marks_releaseMachine _ _ _)).symm.trans hc)

/-- A step that ends with a null item read has searched in between. -/
theorem step_crash (hstep : step l s = some s') (hs : s.crash = none)
    (hc : s'.crash = some .nullApnItem) : ∃ env s₁ t, Within env s s₁ ∧ s₁.crash = none ∧
      (s₁.checkForCompatibleDataConnection env t).1.crash ≠ none := by
  cases step_steps hstep with
  | aside ha =>
    have hsame : s'.crash = s.crash := congrArg (·.2.2.2.2.2.2.1) ha.frame
    cases hs.symm.trans (hsame.symm.trans hc)
  | @call env c _ hd => exact ⟨env, (Within.start.does hd.connects).crash hs hc⟩
  | @take env e q hnext =>
    have hq : Within env s { s with queue := q } := .take hnext
    refine ⟨env, ?_⟩
    generalize hs' : processEvent env { s with queue := q } e = s' at hc
    have htakes : Takes env { s with queue := q } e s' := hs' ▸ processEvent_takes env _ e
    cases htakes with
    | event he hd => exact (hq.does hd.connects).crash hs hc
    | request _ hw => cases hs.symm.trans (hw.crash hc)
    | noCompletion _ => cases hs.symm.trans hc
    | @complete info t s₁ s₂ s₃ ht h₁ h₂ h₃ =>
      replace h₂ := h₂.trans (Write.push.writes.trans h₃)
      have h₂' : s₃.crash = some .nullApnItem := by
        split_ifs at hc <;> exact hc
      have hs₁ : s₁.crash = some .nullApnItem := by
        have hw := h₂.crash h₂'
        split at hw <;> exact hw
      cases hs.symm.trans (h₁.crash hs₁)
    | noEnd _ => cases hs.symm.trans hc
    | endWithoutMachine _ _ => cases hs.symm.trans hc
    | @finish info t m s₁ ht hm hd =>
      replace hd := (Op.write Write.push).does.trans hd
      refine (hq.release.does hd.connects).crash hs ?_
      unfold handleDisconnectDataCompleteForMmsType at hc
      split_ifs at hc
      · exact (crash_of_marks (marks_setDataPermittedForMms false)).symm.trans hc
      · exact hc
    | update hw => exact (hq.does hw.does).crash hs hc

/-- A step from a live state reads no null item where all its searches come only to machines that
have taken a request. -/
theorem step_null_safe (hh : system.History h s) (hstep : step l s = some s') (hs : s.crash = none)
    (hsafe : ∀ env s₁ t m, Within env s s₁ → s₁.Reads env t m → Assigned h m) :
    s'.crash ≠ some .nullApnItem := by
  intro hc
  obtain ⟨env, s₁, t, hw, hcrash, hfault⟩ := step_crash hstep hs hc
  refine hfault ((search_survives_iff hcrash).mpr fun m hm => ?_)
  exact (hw.item_iff hh m).mpr (hsafe env s₁ t m hw hm)

variable (env t) in
/-- Wherever the handler searches, whatever steps have been taken before, it reads no null item
exactly when every machine that it comes to has taken a request. -/
theorem search_safe_iff (hh : system.History h s) (hw : Within env s s₁) (hcrash : s₁.crash = none) :
    (s₁.checkForCompatibleDataConnection env t).1.crash = none ↔
      ∀ m, s₁.Reads env t m → Assigned h m := by
  rw [search_survives_iff hcrash]
  exact forall_congr' fun m => imp_congr_right fun _ => hw.item_iff hh m

/-! A search before and after the machine has taken its request -/

/-- The MMS holder's machine has been created and its request is on its way. -/
def mmsLabels : List Label := loadLabels ++ shareLabels .mms

/-- The machine of the MMS holder has taken its request. -/
theorem search_safe_served : ∃ h s, system.History h s ∧ s.stateMachines.length = 1 ∧
    (s.checkForCompatibleDataConnection serviceEnv .supl).1.crash = none := by
  obtain ⟨h, s, hh, hp⟩ := TransitionSystem.exists_history start_initial
    (mmsLabels ++ [.dispatchMachine serviceEnv 0, .dispatchMachine serviceEnv 0])
    (p := fun h s => s.stateMachines.length = 1 ∧ s.crash = none ∧
      ∃ p ∈ h, accepts p.1 p.2 0 = true) (by decide +kernel)
  obtain ⟨hlength, hcrash, hassigned⟩ := of_decide_eq_true hp
  refine ⟨h, s, hh, hlength, (search_safe_iff serviceEnv .supl hh .start hcrash).mpr fun m hm => ?_⟩
  have hlt : m < s.stateMachines.length := hm.2.1
  rw [hlength, Nat.lt_one_iff] at hlt
  rw [hlt]
  exact hassigned

/-- The SUPL holder's search comes to the machine of the MMS holder before that has taken its
request. -/
theorem new_machine_null_item : ∃ s s', system.Reachable s ∧ s.crash = none ∧
    (s.holder .mms).apnState = .connecting ∧ (s.machine? 0).any (fun x => x.isActiveState) = false ∧
    step (.dispatchHandler serviceEnv) s = some s' ∧ s'.crash = some .nullApnItem := by
  obtain ⟨s, -, hs, hp⟩ := exists_run (mmsLabels ++ (shareLabels .supl).dropLast)
    (p := fun s => s.crash = none ∧ (s.holder .mms).apnState = .connecting ∧
      (s.machine? 0).any (fun x => x.isActiveState) = false ∧
      (step (.dispatchHandler serviceEnv) s).any fun s' => s'.crash = some .nullApnItem)
    (by decide +kernel)
  obtain ⟨hcrash, hmms, hactive, hstep⟩ := of_decide_eq_true hp
  obtain ⟨s', hs', hnull⟩ := (Option.any_eq_true _ _).mp hstep
  exact ⟨s, s', hs, hcrash, hmms, hactive, hs', of_decide_eq_true hnull⟩

end Slot
end CellularData
