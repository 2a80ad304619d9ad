import Mathlib.Logic.Relation

/-! Labelled transition systems with partial executable steps, and rules for their invariants. -/
namespace Lib

/-- A step is undefined where its label is not enabled. -/
structure TransitionSystem (σ : Type*) (Λ : Type*) where
  init : σ → Prop
  step : Λ → σ → Option σ

namespace TransitionSystem

variable {σ Λ : Type*} (M : TransitionSystem σ Λ)

def run : List Λ → σ → Option σ
  | [], s => some s
  | l :: ls, s => (M.step l s).bind (run ls)

/-- States reached by runs all of whose steps satisfy `ok`. -/
inductive ReachableWhen (ok : Λ → σ → Prop) : σ → Prop
  | init {s : σ} (hs : M.init s) : ReachableWhen ok s
  | step {l : Λ} {s s' : σ} (hs : ReachableWhen ok s) (hok : ok l s)
      (hstep : M.step l s = some s') : ReachableWhen ok s'

def Reachable (s : σ) : Prop := M.ReachableWhen (fun _ _ => True) s

/-- A step that satisfies `ok`, under some label. -/
def StepWhen (ok : Λ → σ → Prop) (s s' : σ) : Prop := ∃ l, ok l s ∧ M.step l s = some s'

/-- A run that stops at the first step that fails the test. -/
def runIf (test : Λ → σ → Bool) : List Λ → σ → Option σ
  | [], s => some s
  | l :: ls, s => if test l s then (M.step l s).bind (runIf test ls) else none

/-- A run to a state; the steps taken stand with the states before them, the last one first. -/
inductive History : List (Λ × σ) → σ → Prop
  | init {s : σ} (hs : M.init s) : History [] s
  | step {h : List (Λ × σ)} {l : Λ} {s s' : σ} (hh : History h s)
      (hstep : M.step l s = some s') : History ((l, s) :: h) s'

/-- A run with its steps, in front of those taken before. -/
def trace : List Λ → List (Λ × σ) → σ → Option (List (Λ × σ) × σ)
  | [], h, s => some (h, s)
  | l :: ls, h, s => (M.step l s).bind fun s' => trace ls ((l, s) :: h) s'

variable {M} {ok ok' : Λ → σ → Prop} {s s' : σ}

theorem run_cons {l : Λ} {ls : List Λ} :
    M.run (l :: ls) s = some s' ↔ ∃ t, M.step l s = some t ∧ M.run ls t = some s' := by
  simp only [run, Option.bind_eq_some_iff]

theorem run_append (ls ls' : List Λ) : M.run (ls ++ ls') s = (M.run ls s).bind (M.run ls') := by
  induction ls generalizing s with
  | nil => rfl
  | cons l ls ih =>
    have hrest : M.run (ls ++ ls') = fun t => (M.run ls t).bind (M.run ls') := funext fun _ => ih
    simp only [List.cons_append, run, Option.bind_assoc, hrest]

theorem ReachableWhen.mono (hok : ∀ l s, ok l s → ok' l s) (hs : M.ReachableWhen ok s) :
    M.ReachableWhen ok' s := by
  induction hs with
  | init hs => exact .init hs
  | step _ ho hstep ih => exact .step ih (hok _ _ ho) hstep

theorem ReachableWhen.reachable (hs : M.ReachableWhen ok s) : M.Reachable s :=
  hs.mono fun _ _ _ => trivial

theorem Reachable.step {l : Λ} (hs : M.Reachable s) (hstep : M.step l s = some s') :
    M.Reachable s' :=
  ReachableWhen.step hs trivial hstep

theorem Reachable.path (hs : M.Reachable s)
    (hpath : Relation.ReflTransGen (M.StepWhen ok) s s') : M.Reachable s' := by
  induction hpath with
  | refl => exact hs
  | tail _ hstep ih =>
    obtain ⟨l, -, hl⟩ := hstep
    exact ih.step hl

/-- A path along the given labels, each of which passes the test. -/
theorem path_of_runIf {test : Λ → σ → Bool} (htest : ∀ l s, test l s = true → ok l s)
    {ls : List Λ} (hrun : M.runIf test ls s = some s') :
    Relation.ReflTransGen (M.StepWhen ok) s s' := by
  induction ls generalizing s with
  | nil =>
    obtain rfl : s = s' := Option.some.inj hrun
    exact .refl
  | cons l ls ih =>
    simp only [TransitionSystem.runIf] at hrun
    split at hrun
    · rename_i ht
      obtain ⟨t, hstep, hrest⟩ := Option.bind_eq_some_iff.mp hrun
      exact .head ⟨l, htest l s ht, hstep⟩ (ih hrest)
    · cases hrun

theorem ReachableWhen.path (hs : M.ReachableWhen ok s)
    (hpath : Relation.ReflTransGen (M.StepWhen ok) s s') : M.ReachableWhen ok s' := by
  induction hpath with
  | refl => exact hs
  | tail _ hstep ih =>
    obtain ⟨l, hok, hl⟩ := hstep
    exact ih.step hok hl

/-- What every label of a run keeps, the run keeps. -/
theorem run_invariant {P : σ → Prop} {ls : List Λ}
    (hkeep : ∀ l ∈ ls, ∀ s s', P s → M.step l s = some s' → P s') (hs : P s)
    (hrun : M.run ls s = some s') : P s' := by
  induction ls generalizing s with
  | nil =>
    obtain rfl : s = s' := Option.some.inj hrun
    exact hs
  | cons l ls ih =>
    obtain ⟨t, hstep, hrest⟩ := run_cons.mp hrun
    have ht : P t := hkeep l List.mem_cons_self s t hs hstep
    exact ih (fun l hl => hkeep l (List.mem_cons_of_mem _ hl)) ht hrest

theorem Reachable.run {ls : List Λ} (hs : M.Reachable s) (hrun : M.run ls s = some s') :
    M.Reachable s' :=
  run_invariant (fun _ _ _ _ hs hstep => hs.step hstep) hs hrun

/-- What holds initially and is kept by every admitted step holds of every state reached. -/
theorem ReachableWhen.invariant {P : σ → Prop} (hinit : ∀ s, M.init s → P s)
    (hstep : ∀ l s s', M.ReachableWhen ok s → P s → ok l s → M.step l s = some s' → P s')
    (hs : M.ReachableWhen ok s) : P s := by
  induction hs with
  | init hs => exact hinit _ hs
  | step hr ho hst ih => exact hstep _ _ _ hr ih ho hst

theorem Reachable.invariant {P : σ → Prop} (hinit : ∀ s, M.init s → P s)
    (hstep : ∀ l s s', M.Reachable s → P s → M.step l s = some s' → P s')
    (hs : M.Reachable s) : P s :=
  ReachableWhen.invariant hinit (fun l s s' hr hp _ h => hstep l s s' hr hp h) hs

/-! Runs with their history -/

theorem History.reachable {h : List (Λ × σ)} (hh : M.History h s) : M.Reachable s := by
  induction hh with
  | init hs => exact .init hs
  | step _ hstep ih => exact ih.step hstep

/-- The states of a run, the last one first. -/
def statesOf (h : List (Λ × σ)) (s : σ) : List σ := s :: h.map Prod.snd

/-- A step of the run leads to the next of its states. -/
theorem History.next {h : List (Λ × σ)} (hh : M.History h s) {l : Λ} {t : σ} (hmem : (l, t) ∈ h) :
    M.Reachable t ∧ ∃ t', M.step l t = some t' ∧ t' ∈ statesOf h s := by
  induction hh with
  | init hs => cases hmem
  | @step h l' s s' hh hstep ih =>
    rcases List.mem_cons.mp hmem with heq | hmem
    · obtain ⟨rfl, rfl⟩ := Prod.mk.inj heq
      exact ⟨hh.reachable, s', hstep, List.mem_cons_self⟩
    · obtain ⟨ht, t', ht', hnext⟩ := ih hmem
      exact ⟨ht, t', ht', List.mem_cons_of_mem s' hnext⟩

/-- The property holds of all states of the run, each with the steps before it. -/
def Throughout (P : List (Λ × σ) → σ → Prop) : List (Λ × σ) → σ → Prop
  | [], s => P [] s
  | (l, s₀) :: h, s => P ((l, s₀) :: h) s ∧ Throughout P h s₀

/-- All steps of the run have the property, each after the steps before it. -/
def AtSteps (Q : List (Λ × σ) → Λ → σ → Prop) : List (Λ × σ) → Prop
  | [] => True
  | (l, s) :: h => Q h l s ∧ AtSteps Q h

instance AtSteps.decidable (Q : List (Λ × σ) → Λ → σ → Prop) [∀ h l s, Decidable (Q h l s)] :
    DecidablePred (AtSteps Q)
  | [] => isTrue trivial
  | (l, s) :: h =>
    have := AtSteps.decidable Q h
    inferInstanceAs (Decidable (Q h l s ∧ AtSteps Q h))

theorem Throughout.last {P : List (Λ × σ) → σ → Prop} {h : List (Λ × σ)} (hp : Throughout P h s) :
    P h s := by
  cases h with
  | nil => exact hp
  | cons p h => exact hp.1

/-- A property that each step keeps exactly when it satisfies `Q` holds throughout exactly the runs
whose steps all satisfy `Q`. -/
theorem throughout_iff {P : List (Λ × σ) → σ → Prop} {R Q : List (Λ × σ) → Λ → σ → Prop}
    (hinit : ∀ s, M.init s → P [] s)
    (hstep : ∀ h l s s', M.History h s → AtSteps R h → R h l s → M.step l s = some s' → P h s →
      (P ((l, s) :: h) s' ↔ Q h l s))
    {h : List (Λ × σ)} (hh : M.History h s) (hr : AtSteps R h) :
    Throughout P h s ↔ AtSteps Q h := by
  induction hh with
  | init hs => exact iff_of_true (hinit _ hs) trivial
  | @step h l s s' hh hst ih =>
    have hprev := ih hr.2
    constructor
    · rintro ⟨hp, hbefore⟩
      exact ⟨(hstep h l s s' hh hr.2 hr.1 hst hbefore.last).mp hp, hprev.mp hbefore⟩
    · rintro ⟨hq, hafter⟩
      have hbefore := hprev.mpr hafter
      exact ⟨(hstep h l s s' hh hr.2 hr.1 hst hbefore.last).mpr hq, hbefore⟩

theorem atSteps_true (h : List (Λ × σ)) : AtSteps (fun _ _ _ => True) h := by
  induction h with
  | nil => trivial
  | cons p h ih => exact ⟨trivial, ih⟩

/-- The same where every run is admitted. -/
theorem throughout_iff_atSteps {P : List (Λ × σ) → σ → Prop} {Q : List (Λ × σ) → Λ → σ → Prop}
    (hinit : ∀ s, M.init s → P [] s)
    (hstep : ∀ h l s s', M.History h s → M.step l s = some s' → P h s →
      (P ((l, s) :: h) s' ↔ Q h l s))
    {h : List (Λ × σ)} (hh : M.History h s) : Throughout P h s ↔ AtSteps Q h :=
  throughout_iff hinit (fun h l s s' hh _ _ => hstep h l s s' hh) hh (atSteps_true h)

theorem Reachable.history (hs : M.Reachable s) : ∃ h, M.History h s := by
  induction hs with
  | init hs => exact ⟨[], .init hs⟩
  | step _ _ hstep ih =>
    obtain ⟨h, hh⟩ := ih
    exact ⟨_, hh.step hstep⟩

theorem History.trace {ls : List Λ} {h h' : List (Λ × σ)} (hh : M.History h s)
    (ht : M.trace ls h s = some (h', s')) : M.History h' s' := by
  induction ls generalizing h s with
  | nil =>
    obtain ⟨rfl, rfl⟩ := Prod.mk.inj (Option.some.inj ht)
    exact hh
  | cons l ls ih =>
    obtain ⟨t, hstep, hrest⟩ := Option.bind_eq_some_iff.mp ht
    exact ih (hh.step hstep) hrest

theorem exists_history {start : σ} (hs : M.init start) (labels : List Λ)
    {p : List (Λ × σ) → σ → Bool}
    (hp : (M.trace labels [] start).any (fun r => p r.1 r.2) = true) :
    ∃ h s, M.History h s ∧ p h s = true := by
  obtain ⟨⟨h, s⟩, htrace, hp⟩ := (Option.any_eq_true _ _).mp hp
  exact ⟨h, s, History.trace (.init hs) htrace, hp⟩

end TransitionSystem

/-- A step that satisfies `A` has been taken, and every state from it to the last step of the history
satisfies `P`. -/
def Since {σ Λ : Type*} (A : Λ → σ → Prop) (P : σ → Prop) : List (Λ × σ) → Prop
  | [] => False
  | (l, s) :: h => A l s ∨ P s ∧ Since A P h

instance Since.decidable {σ Λ : Type*} (A : Λ → σ → Prop) (P : σ → Prop) [∀ l s, Decidable (A l s)]
    [∀ s, Decidable (P s)] : DecidablePred (Since A P)
  | [] => isFalse id
  | (l, s) :: h =>
    have := Since.decidable A P h
    inferInstanceAs (Decidable (A l s ∨ P s ∧ Since A P h))

theorem Since.exists_mem {σ Λ : Type*} {A : Λ → σ → Prop} {P : σ → Prop} {h : List (Λ × σ)}
    (hs : Since A P h) : ∃ p ∈ h, A p.1 p.2 := by
  induction h with
  | nil => cases hs
  | cons p h ih =>
    rcases hs with ha | ⟨-, hs⟩
    · exact ⟨p, List.mem_cons_self, ha⟩
    · obtain ⟨q, hq, ha⟩ := ih hs
      exact ⟨q, List.mem_cons_of_mem p hq, ha⟩

/-- An `A` step has been taken, and no `B` step after it. -/
def Standing {σ Λ : Type*} (A B : Λ → σ → Prop) : List (Λ × σ) → Prop
  | [] => False
  | (l, s) :: h => A l s ∨ ¬ B l s ∧ Standing A B h

instance Standing.decidable {σ Λ : Type*} (A B : Λ → σ → Prop) [∀ l s, Decidable (A l s)]
    [∀ l s, Decidable (B l s)] : DecidablePred (Standing A B)
  | [] => isFalse id
  | (l, s) :: h =>
    have := Standing.decidable A B h
    inferInstanceAs (Decidable (A l s ∨ ¬ B l s ∧ Standing A B h))

/-- What only `A` steps establish and every `B` step ends holds after an `A` step that no `B` step has
followed. -/
theorem TransitionSystem.History.standing {σ Λ : Type*} {M : TransitionSystem σ Λ}
    {A B : Λ → σ → Prop} {P : σ → Prop} (hinit : ∀ s, M.init s → ¬ P s)
    (hstep : ∀ l s s', M.Reachable s → M.step l s = some s' → P s' → A l s ∨ P s ∧ ¬ B l s)
    {h : List (Λ × σ)} {s : σ} (hh : M.History h s) (hp : P s) : Standing A B h := by
  induction hh with
  | init hs => exact hinit _ hs hp
  | @step h l s s' hh hst ih =>
    rcases hstep l s s' hh.reachable hst hp with ha | ⟨hbefore, hb⟩
    · exact .inl ha
    · have hstanding : Standing A B h := ih hbefore
      exact .inr ⟨hb, hstanding⟩

/-- Some state of the run along the labels has the property. -/
def TransitionSystem.Visits {σ Λ : Type*} (M : TransitionSystem σ Λ) (P : σ → Prop) :
    List Λ → σ → Prop
  | [], s => P s
  | l :: ls, s => P s ∨ ∃ s', M.step l s = some s' ∧ Visits M P ls s'

/-- What at most `n` counted steps can put off happens in every run with more of them. -/
theorem TransitionSystem.visits_of_countdown {σ Λ : Type*} {M : TransitionSystem σ Λ}
    {c : Λ → Bool} {P : σ → Prop} {R : Nat → σ → Prop}
    (hstep : ∀ n l s s', R n s → M.step l s = some s' →
      P s' ∨ ∃ m, (if c l then m < n else m ≤ n) ∧ R m s')
    {n : Nat} {ls : List Λ} {s s' : σ} (hr : R n s) (hrun : M.run ls s = some s')
    (hn : n < ls.countP c) : M.Visits P ls s := by
  induction ls generalizing n s with
  | nil => simp at hn
  | cons l ls ih =>
    obtain ⟨t, hst, hrest⟩ := run_cons.mp hrun
    refine .inr ⟨t, hst, ?_⟩
    rcases hstep n l s t hr hst with hp | ⟨m, hm, hr⟩
    · cases ls with
      | nil => exact hp
      | cons l' ls => exact .inl hp
    · refine ih hr hrest ?_
      rw [List.countP_cons] at hn
      by_cases hl : c l = true
      · rw [if_pos hl] at hm hn
        omega
      · rw [if_neg hl] at hm hn
        omega

/-- A property kept by one step of a relation is kept by its reflexive transitive closure. -/
theorem reflTransGen_invariant {α : Type*} {r : α → α → Prop} {P : α → Prop}
    (hstep : ∀ a b, P a → r a b → P b) {a b : α} (hab : Relation.ReflTransGen r a b)
    (ha : P a) : P b := by
  induction hab with
  | refl => exact ha
  | tail _ hbc ih => exact hstep _ _ ih hbc

end Lib
