import CellularData.StateMachine.Framework

/-! What every action of a machine respects is respected by the processing of an event. -/
namespace CellularData.StateMachine
open Lib

variable {S ε δ : Type}

namespace EventHandler

variable {B : States S ε δ} {h h' : EventHandler S ε δ} {e : ε} {st : S}

theorem processPath_singleton :
    processPath B e [st] h = (B.stateProcess st e h).2 := by
  unfold processPath
  generalize B.stateProcess st e h = r
  obtain ⟨processed, h'⟩ := r
  cases processed <;> rfl

/-- An event that a state leaves goes to the next one. -/
theorem processPath_cons_of_left (hleft : B.stateProcess st e h = (false, h')) (l : List S) :
    processPath B e (st :: l) h = processPath B e l h' := by
  conv_lhs => unfold processPath
  rw [hleft]

end EventHandler

/-- A preorder that the actions of the states and the event handler's own assignments respect. -/
structure States.Respects (B : States S ε δ)
    (R : EventHandler S ε δ → EventHandler S ε δ → Prop) : Prop where
  refl (h : EventHandler S ε δ) : R h h
  trans {h h' h'' : EventHandler S ε δ} (hl : R h h') (hr : R h' h'') : R h h''
  stateBegin (st : S) (h : EventHandler S ε δ) : R h (B.stateBegin st h)
  stateEnd (st : S) (h : EventHandler S ε δ) : R h (B.stateEnd st h)
  stateProcess (st : S) (e : ε) (h : EventHandler S ε δ) : R h (B.stateProcess st e h).2
  destState (h : EventHandler S ε δ) (st : Option S) : R h { h with destState := st }
  curState (h : EventHandler S ε δ) (st : Option S) : R h { h with curState := st }
  deferred (h : EventHandler S ε δ) : R h h.sendDeferredEvent
  stop {e : ε} (he : B.isQuit e = true) (h : EventHandler S ε δ) : R h { h with isQuit := true }

namespace States.Respects

variable {B : States S ε δ} {R : EventHandler S ε δ → EventHandler S ε δ → Prop} {e : ε}

theorem foldl (hB : B.Respects R) {f : EventHandler S ε δ → S → EventHandler S ε δ}
    (hf : ∀ h st, R h (f h st)) (l : List S) (h : EventHandler S ε δ) : R h (l.foldl f h) := by
  induction l generalizing h with
  | nil => exact hB.refl h
  | cons st l ih => exact hB.trans (hf h st) (ih (f h st))

theorem exitState (hB : B.Respects R) (h : EventHandler S ε δ) : R h (h.exitState B) := by
  unfold EventHandler.exitState
  cases h.curState with
  | none => exact hB.refl h
  | some st =>
    have hancestors := hB.foldl (fun h a => hB.stateEnd a h) (B.ancestors st) h
    exact hB.trans hancestors (hB.stateEnd st _)

theorem enterState (hB : B.Respects R) (h : EventHandler S ε δ) : R h (h.enterState B) := by
  unfold EventHandler.enterState
  cases h.destState with
  | none => exact hB.refl h
  | some st =>
    have hancestors := hB.foldl (fun h a => hB.stateBegin a h) (B.ancestors st) h
    dsimp only
    cases ((B.ancestors st).foldl (fun h a => B.stateBegin a h) h).destState with
    | none => exact hancestors
    | some st' => exact hB.trans hancestors (hB.stateBegin st' _)

theorem processTransitions [DecidableEq S] (hB : B.Respects R) (h : EventHandler S ε δ) :
    R h (h.processTransitions B) := by
  unfold EventHandler.processTransitions
  split_ifs
  · exact hB.refl h
  · have hleft := hB.exitState h
    have hentered := hB.enterState (h.exitState B)
    have hcur := hB.curState ((h.exitState B).enterState B) ((h.exitState B).enterState B).destState
    exact hB.trans (hB.trans hleft hentered) (hB.trans hcur (hB.deferred _))

theorem initCmdEnter (hB : B.Respects R) (h : EventHandler S ε δ) : R h (h.initCmdEnter B) := by
  unfold EventHandler.initCmdEnter
  cases h.originalState with
  | none => exact hB.refl h
  | some st =>
    have hbegin (h : EventHandler S ε δ) (s : S) :
        R h { B.stateBegin s h with curState := some s } :=
      hB.trans (hB.stateBegin s h) (hB.curState _ _)
    exact hB.foldl hbegin _ h

theorem processPath (hB : B.Respects R) (l : List S) (h : EventHandler S ε δ) :
    R h (EventHandler.processPath B e l h) := by
  induction l generalizing h with
  | nil => exact hB.refl h
  | cons st l ih =>
    have hstep := hB.stateProcess st e h
    unfold EventHandler.processPath
    generalize B.stateProcess st e h = r at hstep ⊢
    obtain ⟨processed, h'⟩ := r
    cases processed with
    | true => exact hstep
    | false => exact hB.trans hstep (ih h')

theorem processMsg (hB : B.Respects R) (h : EventHandler S ε δ) : R h (h.processMsg B e) := by
  unfold EventHandler.processMsg
  cases h.curState with
  | none => exact hB.refl h
  | some st => exact hB.processPath _ h

theorem quitPath (hB : B.Respects R) (he : B.isQuit e = true) (l : List S)
    (h : EventHandler S ε δ) : R h (EventHandler.quitPath B l h) := by
  induction l generalizing h with
  | nil => exact hB.refl h
  | cons st l ih =>
    unfold EventHandler.quitPath
    split_ifs
    · exact hB.trans (hB.trans (hB.stateEnd st h) (hB.stop he _)) (ih _)
    · exact hB.refl h

theorem quit (hB : B.Respects R) (he : B.isQuit e = true) (h : EventHandler S ε δ) :
    R h (h.quit B) := by
  unfold EventHandler.quit
  cases h.curState with
  | none => exact hB.refl h
  | some st => exact hB.quitPath he _ h

theorem processEvent [DecidableEq S] (hB : B.Respects R) (h : EventHandler S ε δ) :
    R h (h.processEvent B e) := by
  unfold EventHandler.processEvent
  split_ifs with _ he
  · exact hB.refl h
  · exact hB.quit he h
  · have hinit := hB.trans (hB.destState h h.originalState)
      (hB.initCmdEnter { h with destState := h.originalState })
    exact hB.trans (hB.trans hinit (hB.processMsg _)) (hB.processTransitions _)
  · exact hB.trans (hB.processMsg h) (hB.processTransitions _)

end States.Respects
end CellularData.StateMachine
