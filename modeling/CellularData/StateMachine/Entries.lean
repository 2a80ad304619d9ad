import CellularData.StateMachine.Rules

/-! A log of the entry actions that a machine has performed, and when its record of the current state
agrees with the event handler and with the last entry. -/
namespace CellularData.StateMachine
open Lib

variable {S ε δ : Type}

namespace EventHandler

/-- The machine without its log. -/
def forget (h : EventHandler S ε (δ × List S)) : EventHandler S ε δ where
  originalState := h.originalState
  destState := h.destState
  curState := h.curState
  deferEvents := h.deferEvents
  isQuit := h.isQuit
  isActive := h.isActive
  queue := h.queue
  data := h.data.1

/-- The states begun so far, the last one first. -/
def entries (h : EventHandler S ε (δ × List S)) : List S := h.data.2

def withEntries (h : EventHandler S ε δ) (l : List S) : EventHandler S ε (δ × List S) where
  originalState := h.originalState
  destState := h.destState
  curState := h.curState
  deferEvents := h.deferEvents
  isQuit := h.isQuit
  isActive := h.isActive
  queue := h.queue
  data := (h.data, l)

@[simp] theorem forget_withEntries (h : EventHandler S ε δ) (l : List S) :
    (h.withEntries l).forget = h := rfl

@[simp] theorem entries_withEntries (h : EventHandler S ε δ) (l : List S) :
    (h.withEntries l).entries = l := rfl

end EventHandler

/-- The same machine with a log of the states that it begins. -/
def States.logged (B : States S ε δ) : States S ε (δ × List S) where
  ancestors := B.ancestors
  stateBegin st h := (B.stateBegin st h.forget).withEntries (st :: h.entries)
  stateEnd st h := (B.stateEnd st h.forget).withEntries h.entries
  stateProcess st e h :=
    ((B.stateProcess st e h.forget).1, (B.stateProcess st e h.forget).2.withEntries h.entries)
  isInit := B.isInit
  isQuit := B.isQuit

namespace EventHandler

variable {B : States S ε δ} {h : EventHandler S ε (δ × List S)} {e : ε}

/-! The log does not change what the machine does -/

theorem forget_foldl {f : EventHandler S ε (δ × List S) → S → EventHandler S ε (δ × List S)}
    {g : EventHandler S ε δ → S → EventHandler S ε δ}
    (hf : ∀ h st, (f h st).forget = g h.forget st) (l : List S) :
    (l.foldl f h).forget = l.foldl g h.forget := by
  induction l generalizing h with
  | nil => rfl
  | cons st l ih =>
    rw [List.foldl_cons, List.foldl_cons, ih, hf]

theorem forget_exitState : (h.exitState B.logged).forget = h.forget.exitState B := by
  have hcur : h.forget.curState = h.curState := rfl
  unfold exitState
  rw [hcur]
  cases h.curState with
  | none => rfl
  | some st =>
    have hfold := forget_foldl (h := h) (f := fun h a => B.logged.stateEnd a h)
      (g := fun h a => B.stateEnd a h) (fun _ _ => rfl) (B.ancestors st)
    exact congrArg (B.stateEnd st) hfold

theorem forget_enterState : (h.enterState B.logged).forget = h.forget.enterState B := by
  have hdest : h.forget.destState = h.destState := rfl
  unfold enterState
  rw [hdest]
  cases h.destState with
  | none => rfl
  | some st =>
    have hfold := forget_foldl (h := h) (f := fun h a => B.logged.stateBegin a h)
      (g := fun h a => B.stateBegin a h) (fun _ _ => rfl) (B.ancestors st)
    have hancestors : B.logged.ancestors st = B.ancestors st := rfl
    dsimp only
    rw [hancestors, ← hfold]
    generalize (B.ancestors st).foldl (fun h a => B.logged.stateBegin a h) h = h'
    have hdest' : h'.forget.destState = h'.destState := rfl
    rw [hdest']
    cases h'.destState <;> rfl

theorem forget_processTransitions [DecidableEq S] :
    (h.processTransitions B.logged).forget = h.forget.processTransitions B := by
  have hcur : h.forget.curState = h.curState := rfl
  have hdest : h.forget.destState = h.destState := rfl
  unfold processTransitions
  rw [hcur, hdest]
  split_ifs
  · rfl
  · dsimp only
    rw [← forget_exitState, ← forget_enterState]
    rfl

theorem forget_initCmdEnter : (h.initCmdEnter B.logged).forget = h.forget.initCmdEnter B := by
  have horiginal : h.forget.originalState = h.originalState := rfl
  unfold initCmdEnter
  rw [horiginal]
  cases h.originalState with
  | none => rfl
  | some st => exact forget_foldl (fun _ _ => rfl) _

theorem forget_processPath (l : List S) :
    (processPath B.logged e l h).forget = processPath B e l h.forget := by
  induction l generalizing h with
  | nil => rfl
  | cons st l ih =>
    unfold processPath
    have hprocess : B.logged.stateProcess st e h = ((B.stateProcess st e h.forget).1,
        (B.stateProcess st e h.forget).2.withEntries h.entries) := rfl
    rw [hprocess]
    generalize B.stateProcess st e h.forget = r
    obtain ⟨processed, h'⟩ := r
    cases processed with
    | true => rfl
    | false => exact ih

theorem forget_processMsg : (h.processMsg B.logged e).forget = h.forget.processMsg B e := by
  have hcur : h.forget.curState = h.curState := rfl
  unfold processMsg
  rw [hcur]
  cases h.curState with
  | none => rfl
  | some st => exact forget_processPath _

theorem forget_quitPath (l : List S) :
    (quitPath B.logged l h).forget = quitPath B l h.forget := by
  induction l generalizing h with
  | nil => rfl
  | cons st l ih =>
    have hactive : h.forget.isActive = h.isActive := rfl
    unfold quitPath
    rw [hactive]
    split_ifs
    · exact ih
    · rfl

theorem forget_quit : (h.quit B.logged).forget = h.forget.quit B := by
  have hcur : h.forget.curState = h.curState := rfl
  unfold quit
  rw [hcur]
  cases h.curState with
  | none => rfl
  | some st => exact forget_quitPath _

theorem forget_processEvent [DecidableEq S] :
    (h.processEvent B.logged e).forget = h.forget.processEvent B e := by
  have hquit : h.forget.isQuit = h.isQuit := rfl
  have hinit : B.logged.isInit e = B.isInit e := rfl
  have hstop : B.logged.isQuit e = B.isQuit e := rfl
  unfold processEvent
  rw [hquit, hinit, hstop]
  split_ifs
  · rfl
  · exact forget_quit
  · dsimp only
    rw [forget_processTransitions, forget_processMsg, forget_initCmdEnter]
    rfl
  · dsimp only
    rw [forget_processTransitions, forget_processMsg]

/-- The machine in which the states see the event. -/
def initialised (B : States S ε δ) (e : ε) (h : EventHandler S ε δ) : EventHandler S ε δ :=
  if B.isInit e then { h with destState := h.originalState }.initCmdEnter B else h

theorem processEvent_eq [DecidableEq S] {h : EventHandler S ε δ} (hrun : h.isQuit = false)
    (hquit : B.isQuit e = false) :
    h.processEvent B e = ((initialised B e h).processMsg B e).processTransitions B := by
  unfold processEvent
  rw [if_neg (Bool.eq_false_iff.mp hrun), if_neg (Bool.eq_false_iff.mp hquit)]
  rfl

theorem processEvent_quit [DecidableEq S] {h : EventHandler S ε δ} (hrun : h.isQuit = false)
    (hquit : B.isQuit e = true) : h.processEvent B e = h.quit B := by
  unfold processEvent
  rw [if_neg (Bool.eq_false_iff.mp hrun), if_pos hquit]

theorem initialised_of_init {h : EventHandler S ε δ} (he : B.isInit e = true) :
    initialised B e h = { h with destState := h.originalState }.initCmdEnter B :=
  if_pos he

theorem initialised_of_not_init {h : EventHandler S ε δ} (he : B.isInit e = false) :
    initialised B e h = h :=
  if_neg (Bool.eq_false_iff.mp he)

/-- The transition that the states ask for ends in the state asked for. -/
def Straight [DecidableEq S] (B : States S ε δ) (e : ε) (h : EventHandler S ε δ) : Prop :=
  ((h.processMsg B e).processTransitions B).curState = (h.processMsg B e).destState

/-- The record of the machine and the last leaf begun are the event handler's state. -/
def Consistent (leaf : S → Bool) (record : δ → Option S)
    (h : EventHandler S ε (δ × List S)) : Prop :=
  record h.data.1 = h.curState ∧ h.entries.find? leaf = h.curState

/-- The leaf that the event handler, the record and the log agree on, with no transition to make. -/
structure Agrees (leaf : S → Bool) (record : δ → Option S) (st : S)
    (h : EventHandler S ε (δ × List S)) : Prop where
  isLeaf : leaf st = true
  curState : h.curState = some st
  destState : h.destState = some st
  record : record h.data.1 = some st
  entry : h.entries.find? leaf = some st

theorem Agrees.consistent {leaf : S → Bool} {record : δ → Option S} {st : S}
    {h : EventHandler S ε (δ × List S)} (ha : h.Agrees leaf record st) :
    h.Consistent leaf record :=
  ⟨ha.record.trans ha.curState.symm, ha.entry.trans ha.curState.symm⟩

/-! What the log holds afterwards -/

theorem entries_processPath (l : List S) : (processPath B.logged e l h).entries = h.entries := by
  induction l generalizing h with
  | nil => rfl
  | cons st l ih =>
    unfold processPath
    have hprocess : B.logged.stateProcess st e h = ((B.stateProcess st e h.forget).1,
        (B.stateProcess st e h.forget).2.withEntries h.entries) := rfl
    rw [hprocess]
    generalize B.stateProcess st e h.forget = r
    obtain ⟨processed, h'⟩ := r
    cases processed with
    | true => rfl
    | false => exact ih

theorem entries_processMsg : (h.processMsg B.logged e).entries = h.entries := by
  unfold processMsg
  cases h.curState with
  | none => rfl
  | some st => exact entries_processPath _

theorem entries_quitPath (l : List S) : (quitPath B.logged l h).entries = h.entries := by
  induction l generalizing h with
  | nil => rfl
  | cons st l ih =>
    unfold quitPath
    split_ifs
    · exact ih
    · rfl

theorem entries_quit : (h.quit B.logged).entries = h.entries := by
  unfold quit
  cases h.curState with
  | none => rfl
  | some st => exact entries_quitPath _

end EventHandler

/-- The leaves record themselves when they begin, and nothing else writes the record. -/
structure Recording (B : States S ε δ) (leaf : S → Bool) (record : δ → Option S) : Prop where
  ancestor {st a : S} (ha : a ∈ B.ancestors st) : leaf a = false
  begin_record {st : S} (hst : leaf st = true) (h : EventHandler S ε δ) :
    record (B.stateBegin st h).data = some st
  ancestor_record {st : S} (hst : leaf st = false) (h : EventHandler S ε δ) :
    record (B.stateBegin st h).data = record h.data
  ancestor_destState {st : S} (hst : leaf st = false) (h : EventHandler S ε δ) :
    (B.stateBegin st h).destState = h.destState
  end_record (st : S) (h : EventHandler S ε δ) : record (B.stateEnd st h).data = record h.data
  end_curState (st : S) (h : EventHandler S ε δ) : (B.stateEnd st h).curState = h.curState
  end_destState (st : S) (h : EventHandler S ε δ) : (B.stateEnd st h).destState = h.destState
  process_record (st : S) (e : ε) (h : EventHandler S ε δ) :
    record (B.stateProcess st e h).2.data = record h.data
  process_curState (st : S) (e : ε) (h : EventHandler S ε δ) :
    (B.stateProcess st e h).2.curState = h.curState
  process_destState (st : S) (e : ε) (h : EventHandler S ε δ) :
    (B.stateProcess st e h).2.destState = h.destState ∨
      ∃ st', leaf st' = true ∧ (B.stateProcess st e h).2.destState = some st'

namespace Recording

open EventHandler

variable {B : States S ε δ} {leaf : S → Bool} {record : δ → Option S} {st : S} {e : ε}

section Machine

variable {h : EventHandler S ε δ}

theorem exitState_keeps (hB : Recording B leaf record) (h : EventHandler S ε δ) :
    record (h.exitState B).data = record h.data ∧ (h.exitState B).destState = h.destState := by
  unfold exitState
  cases h.curState with
  | none => exact ⟨rfl, rfl⟩
  | some st =>
    have hfold := List.foldlRecOn (B.ancestors st) (fun h a => B.stateEnd a h)
      (motive := fun x => record x.data = record h.data ∧ x.destState = h.destState) ⟨rfl, rfl⟩
      fun x hx a _ => ⟨(hB.end_record a x).trans hx.1, (hB.end_destState a x).trans hx.2⟩
    exact ⟨(hB.end_record st _).trans hfold.1, (hB.end_destState st _).trans hfold.2⟩

theorem ancestors_keep (hB : Recording B leaf record) (st : S) (h : EventHandler S ε δ) :
    ((B.ancestors st).foldl (fun h a => B.stateBegin a h) h).destState = h.destState :=
  List.foldlRecOn (B.ancestors st) (fun h a => B.stateBegin a h)
    (motive := fun x => x.destState = h.destState) rfl
    fun x hx _ ha => (hB.ancestor_destState (hB.ancestor ha) x).trans hx

/-- The entry of a leaf is recorded, wherever the leaf then wants to go. -/
theorem enterState_record (hB : Recording B leaf record) (hst : leaf st = true)
    (hdest : h.destState = some st) : record (h.enterState B).data = some st := by
  unfold EventHandler.enterState
  rw [hdest]
  dsimp only
  rw [hB.ancestors_keep, hdest]
  exact hB.begin_record hst _

theorem processPath_keeps (hB : Recording B leaf record) (l : List S) (h : EventHandler S ε δ) :
    record (processPath B e l h).data = record h.data ∧
      (processPath B e l h).curState = h.curState ∧
      ((processPath B e l h).destState = h.destState ∨
        ∃ st', leaf st' = true ∧ (processPath B e l h).destState = some st') := by
  induction l generalizing h with
  | nil => exact ⟨rfl, rfl, .inl rfl⟩
  | cons st l ih =>
    have hrecord := hB.process_record st e h
    have hcur := hB.process_curState st e h
    have hdest := hB.process_destState st e h
    unfold processPath
    generalize B.stateProcess st e h = r at hrecord hcur hdest ⊢
    obtain ⟨processed, h'⟩ := r
    cases processed with
    | true => exact ⟨hrecord, hcur, hdest⟩
    | false =>
      obtain ⟨hrecord', hcur', hdest'⟩ := ih h'
      refine ⟨hrecord'.trans hrecord, hcur'.trans hcur, ?_⟩
      rcases hdest' with hsame | hleaf
      · rw [hsame]
        exact hdest
      · exact .inr hleaf

theorem processMsg_keeps (hB : Recording B leaf record) (h : EventHandler S ε δ) :
    record (h.processMsg B e).data = record h.data ∧
      (h.processMsg B e).curState = h.curState ∧
      ((h.processMsg B e).destState = h.destState ∨
        ∃ st', leaf st' = true ∧ (h.processMsg B e).destState = some st') := by
  unfold processMsg
  split
  · exact hB.processPath_keeps _ h
  · exact ⟨rfl, rfl, .inl rfl⟩

theorem processTransitions_of_ne [DecidableEq S] (hne : h.curState ≠ h.destState) :
    h.processTransitions B =
      { (h.exitState B).enterState B with
        curState := ((h.exitState B).enterState B).destState }.sendDeferredEvent :=
  if_neg hne

theorem enterState_destState (hB : Recording B leaf record) (hdest : h.destState = some st)
    (hstays : (B.stateBegin st ((B.ancestors st).foldl (fun h a => B.stateBegin a h) h)).destState =
      some st) : (h.enterState B).destState = some st := by
  unfold EventHandler.enterState
  rw [hdest]
  dsimp only
  rw [hB.ancestors_keep, hdest]
  exact hstays

/-- A transition is straight where the entry of its destination asks for no other. -/
theorem straight [DecidableEq S] (hB : Recording B leaf record)
    {R : EventHandler S ε δ → EventHandler S ε δ → Prop} (hR : B.Respects R)
    (hstays : ∀ st h', (h.processMsg B e).curState ≠ some st →
      (h.processMsg B e).destState = some st → R h h' → h'.destState = some st →
      (B.stateBegin st h').destState = some st) : h.Straight B e := by
  have hprocessed := hR.processMsg (e := e) h
  unfold Straight
  generalize h.processMsg B e = x at hstays hprocessed ⊢
  by_cases hne : x.curState = x.destState
  · have heq : x.processTransitions B = x := if_pos hne
    rw [heq]
    exact hne
  · rw [processTransitions_of_ne hne]
    show ((x.exitState B).enterState B).destState = x.destState
    have hexit := (hB.exitState_keeps x).2
    have hleft := hR.trans hprocessed (hR.exitState x)
    generalize x.exitState B = y at hexit hleft ⊢
    cases hdest : x.destState with
    | none =>
      have hdest' := hexit.trans hdest
      have heq : y.enterState B = y := by
        unfold EventHandler.enterState
        rw [hdest']
      rw [heq]
      exact hdest'
    | some st =>
      have hdest' := hexit.trans hdest
      have hancestors := hR.foldl (fun h a => hR.stateBegin a h) (B.ancestors st) y
      have hkeep := (hB.ancestors_keep st y).trans hdest'
      exact hB.enterState_destState hdest'
        (hstays st _ (hdest ▸ hne) hdest (hR.trans hleft hancestors) hkeep)

theorem quitPath_keeps (hB : Recording B leaf record) (l : List S) (h : EventHandler S ε δ) :
    record (quitPath B l h).data = record h.data ∧ (quitPath B l h).curState = h.curState ∧
      (quitPath B l h).destState = h.destState := by
  induction l generalizing h with
  | nil => exact ⟨rfl, rfl, rfl⟩
  | cons st l ih =>
    unfold quitPath
    split_ifs
    · obtain ⟨hrecord, hcur, hdest⟩ := ih { B.stateEnd st h with isQuit := true }
      exact ⟨hrecord.trans (hB.end_record st h), hcur.trans (hB.end_curState st h),
        hdest.trans (hB.end_destState st h)⟩
    · exact ⟨rfl, rfl, rfl⟩

theorem quit_keeps (hB : Recording B leaf record) (h : EventHandler S ε δ) :
    record (h.quit B).data = record h.data ∧ (h.quit B).curState = h.curState ∧
      (h.quit B).destState = h.destState := by
  unfold quit
  split
  · exact hB.quitPath_keeps _ h
  · exact ⟨rfl, rfl, rfl⟩

end Machine

variable {h : EventHandler S ε (δ × List S)}

/-- The last leaf begun is the one entered. -/
theorem enterState_entries (hB : Recording B leaf record) (hst : leaf st = true)
    (hdest : h.destState = some st) :
    (h.enterState B.logged).entries.find? leaf = some st := by
  have hfold := forget_foldl (h := h) (f := fun h a => B.logged.stateBegin a h)
    (g := fun h a => B.stateBegin a h) (fun _ _ => rfl) (B.ancestors st)
  have hkeep : ((B.ancestors st).foldl (fun h a => B.logged.stateBegin a h) h).destState =
      h.destState := by
    have hforget := congrArg EventHandler.destState hfold
    exact hforget.trans (hB.ancestors_keep st h.forget)
  have hancestors : B.logged.ancestors st = B.ancestors st := rfl
  unfold EventHandler.enterState
  rw [hdest]
  dsimp only
  rw [hancestors, hkeep, hdest]
  show (st :: _).find? leaf = some st
  rw [List.find?_cons, hst]

/-- The run lemma's step: an event whose transition is straight keeps the agreement. -/
theorem transition [DecidableEq S] (hB : Recording B leaf record) (ha : h.Agrees leaf record st)
    (hstraight : h.forget.Straight B e) :
    ∃ st', ((h.processMsg B.logged e).processTransitions B.logged).Agrees leaf record st' := by
  obtain ⟨hrecord, hcur, hdest⟩ := hB.processMsg_keeps (e := e) h.forget
  have hentries : (h.processMsg B.logged e).entries = h.entries := entries_processMsg
  unfold Straight at hstraight
  rw [← forget_processMsg] at hstraight hrecord hcur hdest
  generalize h.processMsg B.logged e = x at hstraight hrecord hcur hdest hentries ⊢
  have hxcur : x.curState = some st := hcur.trans ha.curState
  have hleaf : ∃ st', leaf st' = true ∧ x.destState = some st' := by
    rcases hdest with hsame | hleaf
    · exact ⟨st, ha.isLeaf, hsame.trans ha.destState⟩
    · exact hleaf
  obtain ⟨st', hst', hxdest⟩ := hleaf
  by_cases hne : x.curState = x.destState
  · have heq : x.processTransitions B.logged = x := if_pos hne
    rw [heq]
    exact ⟨st, ha.isLeaf, hxcur, hne.symm.trans hxcur, hrecord.trans ha.record,
      hentries ▸ ha.entry⟩
  · have hexit : (x.exitState B.logged).destState = some st' := by
      have hkeep := (hB.exitState_keeps x.forget).2
      rw [← forget_exitState] at hkeep
      exact hkeep.trans hxdest
    have henter : record ((x.exitState B.logged).enterState B.logged).data.1 = some st' := by
      have hrecord' := hB.enterState_record (h := (x.exitState B.logged).forget) hst' hexit
      rw [← forget_enterState] at hrecord'
      exact hrecord'
    have hend : ((x.exitState B.logged).enterState B.logged).destState = some st' := by
      rw [← forget_processTransitions] at hstraight
      have hcur' : (x.processTransitions B.logged).curState = x.destState := hstraight
      rw [processTransitions_of_ne hne] at hcur'
      exact hcur'.trans hxdest
    rw [processTransitions_of_ne hne]
    exact ⟨st', hst', hend, hend, henter, hB.enterState_entries hst' hexit⟩

/-- The initial event sets all three, whatever they were. -/
theorem initCmdEnter_agrees (hB : Recording B leaf record) (hst : leaf st = true)
    (hstays : ∀ h : EventHandler S ε δ, (B.stateBegin st h).destState = h.destState)
    (horiginal : h.originalState = some st) (hdest : h.destState = some st) :
    (h.initCmdEnter B.logged).Agrees leaf record st := by
  unfold initCmdEnter
  rw [horiginal]
  dsimp only
  rw [List.foldl_concat]
  have hancestors : ∀ a ∈ (B.logged.ancestors st).reverse, leaf a = false :=
    fun a ha => hB.ancestor (List.mem_reverse.mp ha)
  have hkeep := List.foldlRecOn (B.logged.ancestors st).reverse
    (fun (h : EventHandler S ε (δ × List S)) s =>
      { B.logged.stateBegin s h with curState := some s })
    (motive := fun x => x.destState = h.destState) rfl
    fun x hx a ha => (hB.ancestor_destState (hancestors a ha) x.forget).trans hx
  generalize (B.logged.ancestors st).reverse.foldl (fun (h : EventHandler S ε (δ × List S)) s =>
    { B.logged.stateBegin s h with curState := some s }) h = x at hkeep ⊢
  exact {
    isLeaf := hst
    curState := rfl
    destState := (hstays x.forget).trans (hkeep.trans hdest)
    record := hB.begin_record hst x.forget
    entry := by
      show (st :: x.entries).find? leaf = some st
      rw [List.find?_cons, hst] }

theorem quit_agrees (hB : Recording B leaf record) (ha : h.Agrees leaf record st) :
    (h.quit B.logged).Agrees leaf record st := by
  obtain ⟨hrecord, hcur, hdest⟩ := hB.quit_keeps h.forget
  rw [← forget_quit] at hrecord hcur hdest
  exact ⟨ha.isLeaf, hcur.trans ha.curState, hdest.trans ha.destState, hrecord.trans ha.record,
    (congrArg (List.find? leaf) entries_quit).trans ha.entry⟩

end Recording

/-! Runs from the initial event -/

variable {ι : Type} [DecidableEq S]

/-- The machine takes the initial event, then any events; between two of them the rest of the program
may change it by `outside`. -/
inductive Runs (B : ι → States S ε δ) (made : EventHandler S ε δ → Prop)
    (outside : EventHandler S ε δ → EventHandler S ε δ → Prop)
    (ok : ι → ε → EventHandler S ε δ → Prop) : EventHandler S ε (δ × List S) → Prop
  | start {h : EventHandler S ε (δ × List S)} {e : ε} (env : ι) (hmade : made h.forget)
      (he : (B env).isInit e = true) : Runs B made outside ok (h.processEvent (B env).logged e)
  | change {h h' : EventHandler S ε (δ × List S)} (hr : Runs B made outside ok h)
      (hchange : outside h.forget h'.forget) (hentries : h'.entries = h.entries) :
      Runs B made outside ok h'
  | event {h : EventHandler S ε (δ × List S)} {e : ε} (env : ι) (hr : Runs B made outside ok h)
      (hok : ok env e h.forget) : Runs B made outside ok (h.processEvent (B env).logged e)

/-- A recording machine that starts in the leaf `st₀`, in runs whose transitions are straight. -/
structure Steady (B : ι → States S ε δ) (made : EventHandler S ε δ → Prop)
    (outside : EventHandler S ε δ → EventHandler S ε δ → Prop)
    (ok : ι → ε → EventHandler S ε δ → Prop) (leaf : S → Bool) (record : δ → Option S)
    (st₀ : S) : Prop where
  recording (env : ι) : Recording (B env) leaf record
  isLeaf : leaf st₀ = true
  stays (env : ι) (h : EventHandler S ε δ) : ((B env).stateBegin st₀ h).destState = h.destState
  original (env : ι) : (B env).Respects fun h h' => h'.originalState = h.originalState
  init_not_quit (env : ι) (e : ε) (he : (B env).isInit e = true) : (B env).isQuit e = false
  made_original {h : EventHandler S ε δ} (hmade : made h) : h.originalState = some st₀
  made_running {h : EventHandler S ε δ} (hmade : made h) : h.isQuit = false
  outside_same {h h' : EventHandler S ε δ} (ho : outside h h') :
    h'.originalState = h.originalState ∧ h'.curState = h.curState ∧
      h'.destState = h.destState ∧ record h'.data = record h.data
  init_straight (env : ι) {e : ε} {h : EventHandler S ε δ} (he : (B env).isInit e = true)
    (hcur : h.curState = some st₀) (hdest : h.destState = some st₀) : h.Straight (B env) e
  straight (env : ι) {e : ε} {h : EventHandler S ε δ} {st : S} (hok : ok env e h)
    (hst : leaf st = true) (hcur : h.curState = some st) (hdest : h.destState = some st) :
    h.Straight (B env) e

namespace Steady

open EventHandler

variable {B : ι → States S ε δ} {made : EventHandler S ε δ → Prop}
  {outside : EventHandler S ε δ → EventHandler S ε δ → Prop}
  {ok : ι → ε → EventHandler S ε δ → Prop} {leaf : S → Bool} {record : δ → Option S} {st₀ : S}
  {h : EventHandler S ε (δ × List S)}

theorem processEvent_init (hB : Steady B made outside ok leaf record st₀) (env : ι) {e : ε}
    (he : (B env).isInit e = true) (hquit : h.isQuit = false)
    (horiginal : h.originalState = some st₀) :
    ∃ st, (h.processEvent (B env).logged e).Agrees leaf record st := by
  have hstart : ({ h with destState := h.originalState }.initCmdEnter (B env).logged).Agrees
      leaf record st₀ :=
    (hB.recording env).initCmdEnter_agrees hB.isLeaf (hB.stays env) horiginal horiginal
  have hstraight := hB.init_straight env
    (h := (EventHandler.initCmdEnter { h with destState := h.originalState } (B env).logged).forget)
    he hstart.curState hstart.destState
  have hnext := (hB.recording env).transition hstart hstraight
  rw [processEvent_eq (B := (B env).logged) hquit (hB.init_not_quit env e he),
    initialised_of_init (B := (B env).logged) he]
  exact hnext

theorem processEvent_agrees (hB : Steady B made outside ok leaf record st₀) (env : ι) {e : ε}
    {st : S} (hok : ok env e h.forget) (horiginal : h.originalState = some st₀)
    (ha : h.Agrees leaf record st) :
    ∃ st', (h.processEvent (B env).logged e).Agrees leaf record st' := by
  cases hrun : h.isQuit with
  | true =>
    have heq : h.processEvent (B env).logged e = h := if_pos hrun
    rw [heq]
    exact ⟨st, ha⟩
  | false =>
    cases hinit : (B env).isInit e with
    | true => exact hB.processEvent_init env hinit hrun horiginal
    | false =>
      cases hquit : (B env).isQuit e with
      | true =>
        rw [processEvent_quit (B := (B env).logged) hrun hquit]
        exact ⟨st, (hB.recording env).quit_agrees ha⟩
      | false =>
        have hstraight := hB.straight env hok ha.isLeaf ha.curState ha.destState
        rw [processEvent_eq (B := (B env).logged) hrun hquit,
          initialised_of_not_init (B := (B env).logged) hinit]
        exact (hB.recording env).transition ha hstraight

theorem processEvent_original (hB : Steady B made outside ok leaf record st₀) (env : ι) (e : ε) :
    (h.processEvent (B env).logged e).originalState = h.originalState := by
  have hkeep := (hB.original env).processEvent (e := e) h.forget
  rw [← forget_processEvent] at hkeep
  exact hkeep

theorem agrees (hB : Steady B made outside ok leaf record st₀) (hr : Runs B made outside ok h) :
    h.originalState = some st₀ ∧ ∃ st, h.Agrees leaf record st := by
  induction hr with
  | start env hmade he =>
    have horiginal := hB.made_original hmade
    exact ⟨(hB.processEvent_original env _).trans horiginal,
      hB.processEvent_init env he (hB.made_running hmade) horiginal⟩
  | change _ hchange hentries ih =>
    obtain ⟨horiginal, st, ha⟩ := ih
    obtain ⟨ho, hcur, hdest, hrecord⟩ := hB.outside_same hchange
    exact ⟨ho.trans horiginal, st, ha.isLeaf, hcur.trans ha.curState, hdest.trans ha.destState,
      hrecord.trans ha.record, hentries ▸ ha.entry⟩
  | event env _ hok ih =>
    obtain ⟨horiginal, st, ha⟩ := ih
    exact ⟨(hB.processEvent_original env _).trans horiginal,
      hB.processEvent_agrees env hok horiginal ha⟩

/-- In every state of a run the record and the log are those of the event handler's state. -/
theorem consistent (hB : Steady B made outside ok leaf record st₀)
    (hr : Runs B made outside ok h) : h.Consistent leaf record := by
  obtain ⟨-, st, ha⟩ := hB.agrees hr
  exact ha.consistent

end Steady
end CellularData.StateMachine
