import CellularData.StateMachine.Entries

/-! The active flags of the states, and when they are those of the path to the current state. -/
namespace CellularData.StateMachine
open Lib

variable {S ε δ : Type}

/-- A state with its ancestors. -/
def States.path (B : States S ε δ) : Option S → List S
  | some st => st :: B.ancestors st
  | none => []

/-- Each state sets its own flag when it begins; when it ends it clears it, unless it forgets to. -/
structure Flagged (B : States S ε δ) (forgets : S → Prop) : Prop where
  stateBegin (st x : S) (h : EventHandler S ε δ) :
    (B.stateBegin st h).isActive x = true ↔ x = st ∨ h.isActive x = true
  stateEnd (st x : S) (h : EventHandler S ε δ) :
    (B.stateEnd st h).isActive x = true ↔ h.isActive x = true ∧ (x = st → forgets x)
  stateProcess (st : S) (e : ε) (h : EventHandler S ε δ) :
    (B.stateProcess st e h).2.isActive = h.isActive
  begin_destState (st : S) (h : EventHandler S ε δ) : (B.stateBegin st h).destState = h.destState
  end_destState (st : S) (h : EventHandler S ε δ) : (B.stateEnd st h).destState = h.destState
  process_curState (st : S) (e : ε) (h : EventHandler S ε δ) :
    (B.stateProcess st e h).2.curState = h.curState

namespace EventHandler

/-- A state is active exactly when it is on the path to the current state. -/
def Mirrors (B : States S ε δ) (h : EventHandler S ε δ) : Prop :=
  ∀ st, h.isActive st = true ↔ st ∈ B.path h.curState

theorem Mirrors.of_eq {B : States S ε δ} {h h' : EventHandler S ε δ} (hm : h.Mirrors B)
    (hactive : h'.isActive = h.isActive) (hcur : h'.curState = h.curState) : h'.Mirrors B := by
  intro st
  rw [hactive, hcur]
  exact hm st

end EventHandler

namespace Flagged

open EventHandler

variable {B : States S ε δ} {forgets : S → Prop} {h : EventHandler S ε δ} {e : ε}

theorem foldl_begin (hB : Flagged B forgets) (l : List S) (h : EventHandler S ε δ) (x : S) :
    (l.foldl (fun h a => B.stateBegin a h) h).isActive x = true ↔ x ∈ l ∨ h.isActive x = true := by
  induction l generalizing h with
  | nil => simp
  | cons st l ih =>
    rw [List.foldl_cons, ih, hB.stateBegin, List.mem_cons]
    tauto

theorem foldl_begin_destState (hB : Flagged B forgets) (l : List S) (h : EventHandler S ε δ) :
    (l.foldl (fun h a => B.stateBegin a h) h).destState = h.destState :=
  List.foldlRecOn l (fun h a => B.stateBegin a h) (motive := fun x => x.destState = h.destState) rfl
    fun _ hx a _ => (hB.begin_destState a _).trans hx

theorem foldl_end (hB : Flagged B forgets) (l : List S) (h : EventHandler S ε δ) (x : S) :
    (l.foldl (fun h a => B.stateEnd a h) h).isActive x = true ↔
      h.isActive x = true ∧ (x ∈ l → forgets x) := by
  induction l generalizing h with
  | nil => simp
  | cons st l ih =>
    rw [List.foldl_cons, ih, hB.stateEnd, List.mem_cons]
    tauto

/-- What a state that is left has forgotten stays active. -/
theorem exitState (hB : Flagged B forgets) (h : EventHandler S ε δ) (x : S) :
    (h.exitState B).isActive x = true ↔
      h.isActive x = true ∧ (x ∈ B.path h.curState → forgets x) := by
  unfold EventHandler.exitState
  cases h.curState with
  | none => simp [States.path]
  | some st =>
    dsimp only [States.path]
    rw [hB.stateEnd, hB.foldl_end, List.mem_cons]
    tauto

theorem exitState_destState (hB : Flagged B forgets) (h : EventHandler S ε δ) :
    (h.exitState B).destState = h.destState := by
  unfold EventHandler.exitState
  cases h.curState with
  | none => rfl
  | some st =>
    have hfold : ((B.ancestors st).foldl (fun h a => B.stateEnd a h) h).destState = h.destState :=
      List.foldlRecOn _ (fun h a => B.stateEnd a h) (motive := fun x => x.destState = h.destState) rfl
        fun _ hx a _ => (hB.end_destState a _).trans hx
    exact (hB.end_destState st _).trans hfold

theorem enterState (hB : Flagged B forgets) (h : EventHandler S ε δ) :
    (h.enterState B).destState = h.destState ∧ ∀ x, (h.enterState B).isActive x = true ↔
      x ∈ B.path h.destState ∨ h.isActive x = true := by
  unfold EventHandler.enterState
  cases hdest : h.destState with
  | none => exact ⟨hdest, fun x => by simp [States.path]⟩
  | some st =>
    have hancestors := hB.foldl_begin_destState (B.ancestors st) h
    dsimp only [States.path]
    rw [hancestors, hdest]
    refine ⟨(hB.begin_destState st _).trans (hancestors.trans hdest), fun x => ?_⟩
    dsimp only
    rw [hB.stateBegin, hB.foldl_begin, List.mem_cons]
    tauto

theorem processTransitions [DecidableEq S] (hB : Flagged B forgets) (h : EventHandler S ε δ) :
    (h.processTransitions B).curState = h.destState ∧
      (h.curState ≠ h.destState → ∀ x, (h.processTransitions B).isActive x = true ↔
        x ∈ B.path h.destState ∨ h.isActive x = true ∧ (x ∈ B.path h.curState → forgets x)) := by
  by_cases hsame : h.curState = h.destState
  · have heq : h.processTransitions B = h := if_pos hsame
    rw [heq]
    exact ⟨hsame, fun hne => absurd hsame hne⟩
  · obtain ⟨hdest, hactive⟩ := hB.enterState (h.exitState B)
    rw [hB.exitState_destState] at hdest hactive
    rw [Recording.processTransitions_of_ne hsame]
    refine ⟨hdest, fun _ x => ?_⟩
    rw [← hB.exitState]
    exact hactive x

/-- After a transition the flags are right exactly when it has left no state that forgets its flag. -/
theorem mirrors_processTransitions_iff [DecidableEq S] (hB : Flagged B forgets)
    (hm : h.Mirrors B) : (h.processTransitions B).Mirrors B ↔
      h.curState = h.destState ∨
        ∀ x ∈ B.path h.curState, forgets x → x ∈ B.path h.destState := by
  obtain ⟨hcur, hactive⟩ := hB.processTransitions h
  by_cases hsame : h.curState = h.destState
  · have heq : h.processTransitions B = h := if_pos hsame
    rw [heq]
    exact iff_of_true hm (.inl hsame)
  · rw [or_iff_right hsame]
    constructor
    · intro hafter x hx hforgets
      have hstays : (h.processTransitions B).isActive x = true :=
        (hactive hsame x).mpr (.inr ⟨(hm x).mpr hx, fun _ => hforgets⟩)
      rw [← hcur]
      exact (hafter x).mp hstays
    · intro hleft x
      rw [hactive hsame x, hcur]
      constructor
      · rintro (hx | ⟨hx, hforgets⟩)
        · exact hx
        · have hpath := (hm x).mp hx
          exact hleft x hpath (hforgets hpath)
      · exact .inl

theorem processPath (hB : Flagged B forgets) (l : List S) (h : EventHandler S ε δ) :
    (processPath B e l h).isActive = h.isActive ∧ (processPath B e l h).curState = h.curState := by
  induction l generalizing h with
  | nil => exact ⟨rfl, rfl⟩
  | cons st l ih =>
    have hactive := hB.stateProcess st e h
    have hcur := hB.process_curState st e h
    unfold EventHandler.processPath
    generalize B.stateProcess st e h = r at hactive hcur ⊢
    obtain ⟨processed, h'⟩ := r
    cases processed with
    | true => exact ⟨hactive, hcur⟩
    | false =>
      obtain ⟨hactive', hcur'⟩ := ih h'
      exact ⟨hactive'.trans hactive, hcur'.trans hcur⟩

theorem processMsg (hB : Flagged B forgets) (h : EventHandler S ε δ) :
    (h.processMsg B e).isActive = h.isActive ∧ (h.processMsg B e).curState = h.curState := by
  unfold EventHandler.processMsg
  cases hcur : h.curState with
  | none => exact ⟨rfl, hcur⟩
  | some st =>
    obtain ⟨hactive, hcur'⟩ := hB.processPath (e := e) (st :: B.ancestors st) h
    exact ⟨hactive, hcur'.trans hcur⟩

/-- The initial state is entered where no state is active. -/
theorem mirrors_initCmdEnter (hB : Flagged B forgets) {st : S} (hnone : ∀ x, h.isActive x = false)
    (horiginal : h.originalState = some st) :
    (h.initCmdEnter B).Mirrors B ∧ (h.initCmdEnter B).curState = some st := by
  have hfold : ∀ (l : List S) (h : EventHandler S ε δ) (x : S),
      (l.foldl (fun h s => { B.stateBegin s h with curState := some s }) h).isActive x = true ↔
        x ∈ l ∨ h.isActive x = true := by
    intro l
    induction l with
    | nil => simp
    | cons st l ih =>
      intro h x
      rw [List.foldl_cons, ih, List.mem_cons]
      show x ∈ l ∨ (B.stateBegin st h).isActive x = true ↔ _
      rw [hB.stateBegin]
      tauto
  have hcur : (h.initCmdEnter B).curState = some st := by
    unfold EventHandler.initCmdEnter
    rw [horiginal]
    dsimp only
    rw [List.foldl_append]
    rfl
  refine ⟨fun x => ?_, hcur⟩
  rw [hcur]
  unfold EventHandler.initCmdEnter
  rw [horiginal]
  dsimp only [States.path]
  rw [hfold, hnone x, List.mem_append, List.mem_reverse, List.mem_singleton, List.mem_cons]
  simp [or_comm]

theorem mirrors_processEvent_iff [DecidableEq S] (hB : Flagged B forgets)
    (hm : h.Mirrors B) (hrun : h.isQuit = false) (hinit : B.isInit e = false)
    (hquit : B.isQuit e = false) : (h.processEvent B e).Mirrors B ↔
      h.curState = (h.processEvent B e).curState ∨
        ∀ x ∈ B.path h.curState, forgets x → x ∈ B.path (h.processEvent B e).curState := by
  obtain ⟨hactive, hcur⟩ := hB.processMsg (e := e) h
  rw [processEvent_eq hrun hquit, initialised_of_not_init hinit,
    hB.mirrors_processTransitions_iff (hm.of_eq hactive hcur), (hB.processTransitions _).1, hcur]

/-- The first event leads to the original state. -/
theorem mirrors_processEvent_init [DecidableEq S] (hB : Flagged B forgets) {st : S}
    (hnone : ∀ x, h.isActive x = false) (horiginal : h.originalState = some st)
    (hrun : h.isQuit = false) (hinit : B.isInit e = true) (hquit : B.isQuit e = false)
    (hcur : (h.processEvent B e).curState = some st) : (h.processEvent B e).Mirrors B := by
  obtain ⟨hm, hst⟩ := hB.mirrors_initCmdEnter (h := { h with destState := h.originalState })
    hnone horiginal
  rw [processEvent_eq hrun hquit, initialised_of_init hinit] at hcur ⊢
  generalize ({ h with destState := h.originalState } : EventHandler S ε δ).initCmdEnter B = x
    at hm hst hcur ⊢
  obtain ⟨hactive, hkept⟩ := hB.processMsg (e := e) x
  rw [(hB.processTransitions _).1] at hcur
  rw [hB.mirrors_processTransitions_iff (hm.of_eq hactive hkept), hkept, hst, hcur]
  exact .inl rfl

end Flagged
end CellularData.StateMachine
