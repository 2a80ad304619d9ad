import CellularData.Lib.Ledger
import CellularData.Slot.Wiring

/-! Reuse of a connection by compatible holders: what has been set at the net manager for a machine
and what is taken back when the machine leaves `Active`. -/
namespace CellularData
open Lib StateMachine Relation

/-- The suppliers of a call, by their capabilities. -/
abbrev SupplierPair := NetCap × NetCap

def ReuseCall.entry (m : MachineRef) (c : ReuseCall) : Option (SupplierPair × Bool) :=
  if c.machine = m then some ((c.capability, c.reuseApnCap), c.isReused) else none

/-- The machine remembers the last reuse that has been set and not taken back. -/
def Port.Holds (p : Port) (L : Ledger SupplierPair) : Prop :=
  if p.reuseApnCap = .end_ then L.head?.all (!·.2) = true
  else p.state = some .active ∧ L.head? = some ((p.capability, p.reuseApnCap), true)

namespace Wiring

variable {w w' : Wiring} {m n : MachineRef}

def ledger (w : Wiring) (m : MachineRef) : Ledger SupplierPair := w.calls.filterMap (·.entry m)

structure Sound (w : Wiring) : Prop where
  holds : ∀ (m : MachineRef) (p : Port), w.ports[m]? = some p → p.Holds (w.ledger m)
  absent : ∀ m : MachineRef, w.ports[m]? = none → w.ledger m = []
  founded : ∀ m, (w.ledger m).Founded

theorem sound_nil : Sound ⟨[], []⟩ := by
  refine ⟨fun m p hm => ?_, fun _ _ => rfl, fun _ => trivial⟩
  rw [List.getElem?_nil] at hm
  cases hm

theorem ledger_cons_self (ports : List Port) (c : ReuseCall) :
    ledger ⟨ports, c :: w.calls⟩ c.machine =
      ((c.capability, c.reuseApnCap), c.isReused) :: w.ledger c.machine :=
  List.filterMap_cons_some (if_pos rfl)

theorem ledger_cons_of_ne (ports : List Port) {c : ReuseCall} (h : c.machine ≠ n) :
    ledger ⟨ports, c :: w.calls⟩ n = w.ledger n :=
  List.filterMap_cons_none (if_neg h)

/-- A machine's port and ledger change, those of the others stay. -/
theorem Sound.update (h : w.Sound) {p p' : Port} (hm : w.ports[m]? = some p) {calls : List ReuseCall}
    (hself : p'.Holds (ledger ⟨w.ports.set m p', calls⟩ m))
    (hfounded : (ledger ⟨w.ports.set m p', calls⟩ m).Founded)
    (hother : ∀ n, n ≠ m → ledger ⟨w.ports.set m p', calls⟩ n = w.ledger n) :
    Sound ⟨w.ports.set m p', calls⟩ := by
  have hlt : m < w.ports.length := (List.getElem?_eq_some_iff.mp hm).1
  refine ⟨fun n q hn => ?_, fun n hn => ?_, fun n => ?_⟩
  · by_cases hne : n = m
    · subst hne
      obtain rfl : p' = q := Option.some.inj ((List.getElem?_set_self hlt).symm.trans hn)
      exact hself
    · rw [hother n hne]
      rw [List.getElem?_set_ne (Ne.symm hne)] at hn
      exact h.holds n q hn
  · by_cases hne : n = m
    · subst hne
      cases (List.getElem?_set_self hlt).symm.trans hn
    · rw [hother n hne]
      rw [List.getElem?_set_ne (Ne.symm hne)] at hn
      exact h.absent n hn
  · by_cases hne : n = m
    · rw [hne]
      exact hfounded
    · rw [hother n hne]
      exact h.founded n

theorem Sound.plugs (h : w.Sound) (hp : Plugs w w') : w'.Sound := by
  cases hp with
  | @reuse m p reuseApnCap hm hactive hcap =>
    refine h.update hm ?_ ?_ fun n hne => ledger_cons_of_ne _ (Ne.symm hne)
    · rw [ledger_cons_self]
      unfold Port.Holds
      rw [if_neg hcap]
      exact ⟨hactive, rfl⟩
    · rw [ledger_cons_self]
      exact ⟨Bool.noConfusion, h.founded m⟩
  | @capability m p cap hm hstate =>
    refine h.update hm ?_ (h.founded m) fun _ _ => rfl
    have hold := h.holds m p hm
    unfold Port.Holds at hold ⊢
    split_ifs at hold ⊢
    · exact hold
    · exact absurd hold.1 hstate
  | create =>
    refine ⟨fun m p hm => ?_, fun m hm => h.absent m ?_, h.founded⟩
    · by_cases hlt : m < w.ports.length
      · rw [List.getElem?_append_left hlt] at hm
        exact h.holds m p hm
      · have hnone : w.ledger m = [] := h.absent m (List.getElem?_eq_none (Nat.not_lt.mp hlt))
        rw [List.getElem?_append_right (Nat.not_lt.mp hlt), List.getElem?_singleton] at hm
        split_ifs at hm
        obtain rfl := Option.some.inj hm
        change Port.Holds {} (w.ledger m)
        rw [hnone]
        rfl
    · have hlen := List.getElem?_eq_none_iff.mp hm
      rw [List.length_append] at hlen
      exact List.getElem?_eq_none (by omega)

theorem Sound.plugged (h : w.Sound) (hp : Plugged w w') : w'.Sound :=
  reflTransGen_invariant (fun _ _ h hp => h.plugs hp) hp h

/-- What a turn of the machine does to its ledger. -/
theorem ledger_cancelled (ports : List Port) (p : Port) :
    ledger ⟨ports, p.cancelled m ++ w.calls⟩ m =
      if p.reuseApnCap = .end_ then w.ledger m
      else ((p.capability, p.reuseApnCap), false) :: w.ledger m := by
  unfold Port.cancelled
  split_ifs
  · rfl
  · exact ledger_cons_self (w := w) ports ⟨m, p.capability, p.reuseApnCap, false⟩

theorem Sound.turns (h : w.Sound) {p p' : Port} {item : ApnType → Option ApnItem}
    {e : MachineEvent} {calls : List ReuseCall} (hm : w.ports[m]? = some p)
    (ht : p.Turns item m e p' calls) : Sound ⟨w.ports.set m p', calls ++ w.calls⟩ := by
  have hold := h.holds m p hm
  cases ht with
  | stay hactive hconnect =>
    refine h.update hm ?_ (h.founded m) fun _ _ => rfl
    unfold Port.Holds at hold ⊢
    split_ifs at hold ⊢
    · exact hold
    · exact ⟨hactive hold.1, hold.2⟩
  | connect hstate =>
    refine h.update hm ?_ (h.founded m) fun _ _ => rfl
    unfold Port.Holds at hold ⊢
    split_ifs at hold ⊢
    · exact hold
    · cases hstate.symm.trans hold.1
  | leave hactive hstate =>
    have hledger := ledger_cancelled (m := m) (w := w)
    refine h.update hm ?_ ?_ fun n hne => ?_
    · rw [hledger]
      unfold Port.Holds at hold ⊢
      rw [if_pos rfl]
      split_ifs at hold ⊢
      · exact hold
      · rfl
    · rw [hledger]
      unfold Port.Holds at hold
      split_ifs at hold ⊢
      · exact h.founded m
      · refine ⟨fun _ => ?_, h.founded m⟩
        obtain ⟨L, hL⟩ := List.head?_eq_some_iff.mp hold.2
        rw [hL]
        exact Ledger.outstanding_set
    · unfold Port.cancelled
      split_ifs
      · rfl
      · exact ledger_cons_of_ne (w := w) _ (Ne.symm hne)

/-- A turn touches the ledger only to take back what the machine holds. -/
theorem ledger_turns {p p' : Port} {item : ApnType → Option ApnItem} {e : MachineEvent}
    {calls : List ReuseCall} (ht : p.Turns item m e p' calls) (ports : List Port) :
    ledger ⟨ports, calls ++ w.calls⟩ n = w.ledger n ∨
      n = m ∧ p.state = some .active ∧ p'.state ≠ some .active ∧ p.reuseApnCap ≠ .end_ ∧
        ledger ⟨ports, calls ++ w.calls⟩ n =
          ((p.capability, p.reuseApnCap), false) :: w.ledger n := by
  cases ht with
  | stay _ _ => exact .inl rfl
  | connect _ => exact .inl rfl
  | leave hactive hstate =>
    by_cases hne : n = m
    · subst hne
      by_cases hend : p.reuseApnCap = .end_
      · left
        rw [ledger_cancelled, if_pos hend]
      · refine .inr ⟨rfl, hactive, hstate, hend, ?_⟩
        rw [ledger_cancelled, if_neg hend]
    · left
      unfold Port.cancelled
      split_ifs
      · rfl
      · exact ledger_cons_of_ne (w := w) _ (Ne.symm hne)

/-- The handler leaves the states of the machines alone. -/
theorem state_plugged (hp : Plugged w w') {p : Port} (hm : w.ports[m]? = some p) :
    ∃ p', w'.ports[m]? = some p' ∧ p'.state = p.state := by
  refine reflTransGen_invariant (P := fun w' => ∃ p', w'.ports[m]? = some p' ∧ p'.state = p.state)
    (fun w w' h hp => ?_) hp ⟨p, hm, rfl⟩
  obtain ⟨q, hq, hstate⟩ := h
  have hset : ∀ {n : MachineRef} {r r' : Port}, w.ports[n]? = some r → r'.state = r.state →
      ∃ p', (w.ports.set n r')[m]? = some p' ∧ p'.state = p.state := by
    intro n r r' hn hr
    have hlt : n < w.ports.length := (List.getElem?_eq_some_iff.mp hn).1
    by_cases hne : n = m
    · subst hne
      obtain rfl := Option.some.inj (hq.symm.trans hn)
      exact ⟨r', List.getElem?_set_self hlt, hr.trans hstate⟩
    · exact ⟨q, by rw [List.getElem?_set_ne hne, hq], hstate⟩
  cases hp with
  | reuse hm _ _ => exact hset hm rfl
  | capability hm _ => exact hset hm rfl
  | create =>
    have hlt : m < w.ports.length := (List.getElem?_eq_some_iff.mp hq).1
    exact ⟨q, by rw [List.getElem?_append_left hlt, hq], hstate⟩

def Contained (w : Wiring) : Prop := ∀ m, (w.ledger m).Contained

theorem Contained.plugged (h : w.Contained) (hp : Plugged w w') : w'.Contained := by
  refine reflTransGen_invariant (fun w w' h hp => ?_) hp h
  intro n
  cases hp with
  | @reuse m p reuseApnCap hm hactive hcap =>
    by_cases hne : n = m
    · subst hne
      rw [ledger_cons_self]
      exact (h n).set
    · rw [ledger_cons_of_ne _ (Ne.symm hne)]
      exact h n
  | capability _ _ => exact h n
  | create => exact h n

end Wiring

namespace Slot

variable {s s' : Slot} {l : Label} {h : List (Label × Slot)} {m : MachineRef}

/-- The pairs set and taken back for a machine, the last one first. -/
def ledger (s : Slot) (m : MachineRef) : Ledger SupplierPair := s.reuseLog.filterMap (·.entry m)

def isActive (s : Slot) (m : MachineRef) : Bool := (s.machine? m).any (·.isActiveState)

/-- A machine that is not active has no reuse outstanding, and only what is outstanding is ever taken
back. -/
structure Balanced (s : Slot) : Prop where
  returned : ∀ m, s.isActive m = false → ∀ pair, ¬ (s.ledger m).Outstanding pair
  founded : ∀ m, (s.ledger m).Founded

/-- With the step the machine leaves `Active`. -/
def leaves (l : Label) (s : Slot) (m : MachineRef) : Bool :=
  s.isActive m && (step l s).any fun s' => !s'.isActive m

theorem isActive_iff (hr : s.Regular) :
    s.isActive m = true ↔ ∃ p, s.wiring.ports[m]? = some p ∧ p.state = some .active := by
  rw [isActive, Option.any_eq_true, ports_getElem?]
  constructor
  · rintro ⟨x, hx, hactive⟩
    have hsettled := hr.settled x (List.mem_of_getElem? hx)
    exact ⟨x.port, by rw [hx, Option.map_some], (active_of_isActiveState hsettled).mp hactive⟩
  · rintro ⟨p, hp, hactive⟩
    obtain ⟨x, hx, rfl⟩ := Option.map_eq_some_iff.mp hp
    have hsettled := hr.settled x (List.mem_of_getElem? hx)
    exact ⟨x, hx, (active_of_isActiveState hsettled).mpr hactive⟩

theorem reachable_sound (hs : system.Reachable s) : s.wiring.Sound := by
  refine hs.invariant (P := fun s => s.wiring.Sound)
    (fun s hs => Wiring.sound_nil.plugged (initial_plugged hs).2) ?_
  intro l s s' hs hsound hstep
  cases step_rewired hs hstep with
  | plugged _ h => exact hsound.plugged h
  | turned h =>
    obtain ⟨x, x', p, calls, hm, -, hturn, hwiring⟩ := h
    rw [hwiring]
    refine hsound.turns ?_ hturn
    rw [ports_getElem?, hm, Option.map_some]

/-- A machine that is not active has set nothing since its last return. -/
theorem sets_of_inactive (hs : system.Reachable s) (hm : s.isActive m = false) :
    (s.ledger m).sets = [] := by
  have hsound := reachable_sound hs
  apply Ledger.sets_of_head
  cases hp : s.wiring.ports[m]? with
  | none =>
    have hnil : s.ledger m = [] := hsound.absent m hp
    rw [hnil]
    rfl
  | some p =>
    have hholds := hsound.holds m p hp
    unfold Port.Holds at hholds
    split_ifs at hholds
    · exact hholds
    · have hactive := (isActive_iff (reachable_regular hs).1).mpr ⟨p, hp, hholds.1⟩
      cases hm.symm.trans hactive

theorem Balanced.of_contained (hs : system.Reachable s) (h : s.wiring.Contained) : s.Balanced where
  returned m hm := (h m).not_outstanding (sets_of_inactive hs hm)
  founded := (reachable_sound hs).founded

theorem mem_sets_of_holds {p : Port} {L : Ledger SupplierPair} (h : p.Holds L)
    (hend : p.reuseApnCap ≠ .end_) : ((p.capability, p.reuseApnCap), true) ∈ L.sets := by
  unfold Port.Holds at h
  rw [if_neg hend] at h
  obtain ⟨L', rfl⟩ := List.head?_eq_some_iff.mp h.2
  rw [Ledger.sets_set]
  exact List.mem_cons_self

/-- What a step does to a ledger other than setting a reuse: the machine leaves `Active` and takes
back one that it has set. -/
theorem ledger_turned {env : Env} {n : MachineRef} {e : MachineEvent} (hs : system.Reachable s)
    (hs' : system.Reachable s') (ht : Turned env s n e s')
    (hstep : step l s = some s') (m : MachineRef) : s'.ledger m = s.ledger m ∨
      leaves l s m = true ∧ ∃ pair, (pair, true) ∈ (s.ledger m).sets ∧
        s'.ledger m = (pair, false) :: s.ledger m := by
  obtain ⟨x, x', p, calls, hx, -, hturn, hwiring⟩ := ht
  have hports : s.wiring.ports[n]? = some x.port := by rw [ports_getElem?, hx, Option.map_some]
  have hledger : s'.ledger m = Wiring.ledger ⟨s.wiring.ports.set n p, calls ++ s.wiring.calls⟩ m :=
    congrArg (fun w => Wiring.ledger w m) hwiring
  rcases Wiring.ledger_turns (w := s.wiring) (n := m) hturn (s.wiring.ports.set n p) with
    hsame | ⟨rfl, hactive, hleft, hend, hcancel⟩
  · exact .inl (hledger.trans hsame)
  · right
    constructor
    · rw [leaves, Bool.and_eq_true, hstep, Option.any_some, Bool.not_eq_true',
        isActive_iff (reachable_regular hs).1]
      refine ⟨⟨x.port, hports, hactive⟩, Bool.eq_false_iff.mpr fun hm => ?_⟩
      obtain ⟨q, hq, hqactive⟩ := (isActive_iff (reachable_regular hs').1).mp hm
      rw [hwiring] at hq
      obtain rfl := Option.some.inj
        ((List.getElem?_set_self (List.getElem?_eq_some_iff.mp hports).1).symm.trans hq)
      exact hleft hqactive
    · exact ⟨_, mem_sets_of_holds ((reachable_sound hs).holds m _ hports) hend,
        hledger.trans hcancel⟩

/-- The machine that leaves `Active` takes back one reuse set for it, if there is any. -/
theorem ledger_leaves (hs : system.Reachable s) (hstep : step l s = some s')
    (hm : leaves l s m = true) : (s.ledger m).sets = [] ∨
      ∃ pair, (pair, true) ∈ (s.ledger m).sets ∧ s'.ledger m = (pair, false) :: s.ledger m := by
  have hs' : system.Reachable s' := hs.step hstep
  rw [leaves, Bool.and_eq_true, hstep, Option.any_some, Bool.not_eq_true'] at hm
  cases step_rewired hs hstep with
  | plugged _ h =>
    obtain ⟨p, hp, hactive⟩ := (isActive_iff (reachable_regular hs).1).mp hm.1
    obtain ⟨p', hp', hstate⟩ := Wiring.state_plugged h hp
    have hstill := (isActive_iff (reachable_regular hs').1).mpr ⟨p', hp', hstate.trans hactive⟩
    cases hm.2.symm.trans hstill
  | turned h =>
    rcases ledger_turned hs hs' h hstep m with hsame | ⟨-, hcancel⟩
    · left
      rw [← hsame]
      exact sets_of_inactive hs' hm.2
    · exact .inr hcancel

theorem step_contained (hs : system.Reachable s) (hstep : step l s = some s')
    (h : s.wiring.Contained)
    (hsame : ∀ m, leaves l s m = true → ∀ e ∈ (s.ledger m).sets, ∀ e' ∈ (s.ledger m).sets,
      e.1 = e'.1) : s'.wiring.Contained := by
  have hs' : system.Reachable s' := hs.step hstep
  cases step_rewired hs hstep with
  | plugged _ hp => exact h.plugged hp
  | turned ht =>
    intro m
    change (s'.ledger m).Contained
    rcases ledger_turned hs hs' ht hstep m with hkeep | ⟨hleaves, pair, hmem, hcancel⟩
    · rw [hkeep]
      exact h m
    · rw [hcancel]
      exact Ledger.Contained.cancel (h m) fun e he => hsame m hleaves e he _ hmem

/-- Reuses are balanced in every state of a run exactly when no machine that leaves `Active` has set
reuses for different holders since it last took one back. -/
theorem reuse_balanced_iff (hh : system.History h s) :
    (∀ s₀ ∈ TransitionSystem.statesOf h s, s₀.Balanced) ↔
      ∀ l s₀, (l, s₀) ∈ h → ∀ m, leaves l s₀ m = true →
        ∀ e ∈ (s₀.ledger m).sets, ∀ e' ∈ (s₀.ledger m).sets, e.1 = e'.1 := by
  constructor
  · intro hbalanced l s₀ hmem m hleaves
    obtain ⟨hs₀, s₁, hstep, hs₁⟩ := hh.next hmem
    have hinactive : s₁.isActive m = false := by
      have h := (Bool.and_eq_true_iff.mp hleaves).2
      have hstep' : step l s₀ = some s₁ := hstep
      rw [hstep', Option.any_some, Bool.not_eq_true'] at h
      exact h
    have hreturned := (hbalanced s₁ hs₁).returned m hinactive
    rcases ledger_leaves hs₀ hstep hleaves with hnil | ⟨pair, -, hcancel⟩
    · rw [hnil]
      exact fun e he => nomatch he
    · rw [hcancel] at hreturned
      intro e he e' he'
      exact (Ledger.eq_of_not_outstanding hreturned he).trans
        (Ledger.eq_of_not_outstanding hreturned he').symm
  · intro hsame
    have hall : ∀ s₀ ∈ TransitionSystem.statesOf h s, s₀.wiring.Contained ∧ system.Reachable s₀ := by
      induction hh with
      | @init s hs =>
        intro s₀ hs₀
        obtain rfl := List.mem_singleton.mp hs₀
        have hnil : Wiring.Contained ⟨[], []⟩ := fun m => Ledger.contained_nil
        exact ⟨hnil.plugged (initial_plugged hs).2, .init hs⟩
      | @step h l s s' hh hstep ih =>
        have hprev := ih fun l s₀ hmem => hsame l s₀ (List.mem_cons_of_mem _ hmem)
        intro s₀ hs₀
        rcases List.mem_cons.mp hs₀ with rfl | hs₀
        · obtain ⟨hcontained, hs⟩ := hprev s List.mem_cons_self
          exact ⟨step_contained hs hstep hcontained (hsame l s List.mem_cons_self), hs.step hstep⟩
        · exact hprev s₀ hs₀
    intro s₀ hs₀
    obtain ⟨hcontained, hreach⟩ := hall s₀ hs₀
    exact .of_contained hreach hcontained

/-! Two holders that reuse one connection -/

/-- A network is requested and the request is taken by the handler. -/
def shareLabels (capability : NetCap) : List Label :=
  [.call serviceEnv (.requestNet true [capability] (.other 0)), .dispatchHandler serviceEnv,
    .dispatchHandler serviceEnv]

/-- The default connection is cleared and its machine takes the request. -/
def leaveLabels : List Label := [clearLabel, .dispatchMachine serviceEnv 0]

theorem sets_same (hlog : s.reuseLog.length ≤ 1) (m : MachineRef) :
    ∀ e ∈ (s.ledger m).sets, ∀ e' ∈ (s.ledger m).sets, e.1 = e'.1 := by
  have hlength : (s.ledger m).length ≤ 1 := Nat.le_trans (List.length_filterMap_le _ _) hlog
  intro e he e' he'
  have hmem : e ∈ s.ledger m := (List.takeWhile_sublist _).mem he
  have hmem' : e' ∈ s.ledger m := (List.takeWhile_sublist _).mem he'
  cases hL : s.ledger m with
  | nil =>
    rw [hL] at hmem
    cases hmem
  | cons d L =>
    rw [hL] at hmem hmem' hlength
    obtain rfl : L = [] := List.eq_nil_of_length_eq_zero (by simpa using hlength)
    rw [List.mem_singleton.mp hmem, List.mem_singleton.mp hmem']

/-- The MMS holder's reuse is returned. -/
theorem reuse_balanced_mms : ∃ h s, system.History h s ∧ s.isActive 0 = false ∧
    s.ledger 0 = [((.internet, .mms), false), ((.internet, .mms), true)] ∧
    ∀ s₀ ∈ TransitionSystem.statesOf h s, s₀.Balanced := by
  obtain ⟨h, s, hh, hp⟩ := TransitionSystem.exists_history start_initial
    (connectedLabels ++ shareLabels .mms ++ leaveLabels)
    (p := fun h s => s.isActive 0 = false ∧
      s.ledger 0 = [((.internet, .mms), false), ((.internet, .mms), true)] ∧
      ∀ s₀ ∈ h.map Prod.snd, s₀.reuseLog.length ≤ 1) (by decide +kernel)
  obtain ⟨hleft, hledger, hlogs⟩ := of_decide_eq_true hp
  refine ⟨h, s, hh, hleft, hledger, (reuse_balanced_iff hh).mpr fun l s₀ hmem m _ => ?_⟩
  exact sets_same (hlogs s₀ (List.mem_map_of_mem hmem)) m

/-- The holder that comes second takes the place of the first, whose reuse is never returned. -/
theorem second_reuse_unreturned : ∃ s, system.Reachable s ∧ s.crash = none ∧
    s.isActive 0 = false ∧ (s.ledger 0).Outstanding (.internet, .mms) ∧ ¬ s.Balanced := by
  obtain ⟨s, -, hs, hp⟩ := exists_run
    (connectedLabels ++ shareLabels .mms ++ shareLabels .supl ++ leaveLabels)
    (p := fun s => s.crash = none ∧ s.isActive 0 = false ∧
      (s.ledger 0).Outstanding (.internet, .mms)) (by decide +kernel)
  obtain ⟨hcrash, hleft, hout⟩ := of_decide_eq_true hp
  exact ⟨s, hs, hcrash, hleft, hout, fun h => h.returned 0 hleft _ hout⟩

end Slot
end CellularData
