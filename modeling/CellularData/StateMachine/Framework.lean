import CellularData.Lib.EventQueue

/-! Two-layer state machines: a leaf state with its ancestors, deferred events and an event queue. -/
namespace CellularData.StateMachine
open Lib

/-- `StateMachineEventHandler` with the data `δ` of the machine it drives. -/
structure EventHandler (S ε δ : Type) where
  originalState : Option S := none
  destState : Option S := none
  curState : Option S := none
  deferEvents : List ε := []
  isQuit : Bool := false
  isActive : S → Bool := fun _ => false
  queue : EventQueue ε := {}
  data : δ

/-- The states of one machine. `ancestors` lists the parents, nearest first. -/
structure States (S ε δ : Type) where
  ancestors : S → List S
  stateBegin : S → EventHandler S ε δ → EventHandler S ε δ
  stateEnd : S → EventHandler S ε δ → EventHandler S ε δ
  stateProcess : S → ε → EventHandler S ε δ → Bool × EventHandler S ε δ
  isInit : ε → Bool
  isQuit : ε → Bool

namespace EventHandler

variable {S ε δ : Type} (h : EventHandler S ε δ)

def setActive [DecidableEq S] (st : S) (b : Bool) : EventHandler S ε δ :=
  { h with isActive := fun x => if x = st then b else h.isActive x }

def transitionTo (st : S) : EventHandler S ε δ := { h with destState := some st }

def deferEvent (e : ε) : EventHandler S ε δ := { h with deferEvents := h.deferEvents ++ [e] }

def sendEvent (e : ε) : EventHandler S ε δ := { h with queue := h.queue.sendEvent e }

def sendEventAfter (e : ε) (delay : Int) : EventHandler S ε δ :=
  { h with queue := h.queue.sendEventAfter e delay }

def removeEvent (p : ε → Bool) : EventHandler S ε δ := { h with queue := h.queue.removeEvent p }

def modifyData (f : δ → δ) : EventHandler S ε δ := { h with data := f h.data }

/-- Deferred events are sent again as immediate ones, in order. -/
def sendDeferredEvent : EventHandler S ε δ :=
  { h with queue := h.queue.sendImmediateEvents h.deferEvents, deferEvents := [] }

variable (B : States S ε δ)

def exitState : EventHandler S ε δ :=
  match h.curState with
  | some st => B.stateEnd st ((B.ancestors st).foldl (fun h a => B.stateEnd a h) h)
  | none => h

/-- The destination is read again after the ancestors have begun. -/
def enterState : EventHandler S ε δ :=
  match h.destState with
  | some st =>
    let h' := (B.ancestors st).foldl (fun h a => B.stateBegin a h) h
    match h'.destState with
    | some st' => B.stateBegin st' h'
    | none => h'
  | none => h

def processTransitions [DecidableEq S] : EventHandler S ε δ :=
  if h.curState = h.destState then h
  else
    let h' := (h.exitState B).enterState B
    { h' with curState := h'.destState }.sendDeferredEvent

def initCmdEnter : EventHandler S ε δ :=
  match h.originalState with
  | some st => ((B.ancestors st).reverse ++ [st]).foldl
      (fun h s => { B.stateBegin s h with curState := some s }) h
  | none => h

/-- The event goes up from the leaf until a state has processed it. -/
def processPath (e : ε) : List S → EventHandler S ε δ → EventHandler S ε δ
  | [], h => h
  | st :: rest, h =>
    match B.stateProcess st e h with
    | (true, h') => h'
    | (false, h') => processPath e rest h'

def processMsg (e : ε) : EventHandler S ε δ :=
  match h.curState with
  | some st => processPath B e (st :: B.ancestors st) h
  | none => h

/-- The active states end, from the leaf upwards. -/
def quitPath : List S → EventHandler S ε δ → EventHandler S ε δ
  | [], h => h
  | st :: rest, h =>
    if h.isActive st then quitPath rest { B.stateEnd st h with isQuit := true } else h

def quit : EventHandler S ε δ :=
  match h.curState with
  | some st => quitPath B (st :: B.ancestors st) h
  | none => h

def processEvent [DecidableEq S] (e : ε) : EventHandler S ε δ :=
  if h.isQuit then h
  else if B.isQuit e then h.quit B
  else
    let h' := if B.isInit e then { h with destState := h.originalState }.initCmdEnter B else h
    (h'.processMsg B e).processTransitions B

/-- The event loop takes the next event and processes it. -/
def dispatch [DecidableEq S] : Option (ε × EventHandler S ε δ) :=
  match h.queue.next with
  | some (e, q) => some (e, { h with queue := q }.processEvent B e)
  | none => none

end EventHandler
end CellularData.StateMachine
