import CellularData.Machine.Refinement

/-! What one event can do to a connection machine: the cases of the automaton, once for all
invariants. -/
namespace CellularData
open Lib StateMachine

/-- Events that a state which is waiting for the modem defers. -/
def MachineEvent.isDisconnect : MachineEvent → Bool
  | .disconnect _ | .disconnectAll _ => true
  | _ => false

def MachineEvent.isConnect : MachineEvent → Bool
  | .connect _ => true
  | _ => false

/-- Events that an attempt still has to process after the state has changed. -/
def MachineEvent.isDeferrable (e : MachineEvent) : Bool :=
  e.isConnect || e.isDisconnect || e = .drsOrRatChanged || e = .getRilBandwidth

/-- A set-up answer with a call of the modem in it. -/
def MachineEvent.isSetupSuccess : MachineEvent → Bool
  | .setupDataCall (.resultInfo info) => Control.setupSucceeds info
  | _ => false

/-- A report of the loss of the call. -/
def MachineEvent.isLoss : MachineEvent → Bool
  | .lostConnection _ | .rilAdapterHostDied _ => true
  | _ => false

/-- Events that can end the wait for the modem in `Disconnecting`. -/
def MachineEvent.isRelease : MachineEvent → Bool
  | .deactivateDataCall _ | .disconnectTimeoutCheck _ | .rilAdapterHostDied _ => true
  | _ => false

namespace Control

variable (env : MachineEnv) (c : Control)

/-- An attempt or a call is under way. -/
def isBusy : Bool :=
  c.state = some .activating || c.state = some .active || c.state = some .disconnecting

/-- The event makes a difference in the state the automaton is in. -/
def takes (e : MachineEvent) : Bool :=
  match c.state, e with
  | none, .stateMachineInit => true
  | some .inactive, .connect _ => true
  | some .activating, .setupDataCall (.resultInfo info) => c.connectId = info.flag
  | some .activating, .setupDataCall (.rilInfo info) => c.connectId = info.flag
  | some .activating, .connectTimeoutCheck connectId =>
    connectId = c.connectId && connectionTaskTime ≤ env.currentTime - c.startTime
  | some .activating, .getLastFailDone => true
  | some .activating, e => e.isDeferrable
  | some .active, .setupDataCall (.resultInfo _) => true
  | some .active, e => e.isDisconnect || e.isLoss
  | some .disconnecting, .deactivateDataCall none => true
  | some .disconnecting, .deactivateDataCall (some info) => c.connectId = info.flag
  | some .disconnecting, .disconnectTimeoutCheck connectId => connectId = c.connectId
  | some .disconnecting, .rilAdapterHostDied _ => true
  | some .disconnecting, e => e.isConnect || e.isDisconnect
  | _, _ => false

/-- The cases of a step. `c` is the automaton without the event that it processes. -/
inductive Transition : MachineEvent → Control → List MachineOutput → Prop
  | ignore {e : MachineEvent} (h : c.takes env e = false) : Transition e c []
  | boot (h : c.state = none) : Transition .stateMachineInit c.boot []
  | connect {params : DataConnectionParams} (h : c.state = some .inactive) :
      Transition (.connect params) (c.connect env params) []
  | defer {e : MachineEvent} (h : c.state = some .activating ∨ c.state = some .disconnecting)
      (he : e.isDeferrable = true) : Transition e (c.defer e) []
  | accept {info : SetupDataCallResultInfo} (h : c.state = some .activating)
      (hflag : info.flag = c.connectId) (hs : setupSucceeds info = true) :
      Transition (.setupDataCall (.resultInfo info))
        (({ c with cid := info.cid }.defer (.setupDataCall (.resultInfo info))).moveTo .active)
        [.addActiveConnectionByCid info.cid]
  | fail {e : MachineEvent} {cid : Int} {resultInfo : Option SetupDataCallResultInfo}
      (h : c.state = some .activating)
      (hs : e.isSetupSuccess = false) :
      Transition e { c with cid, resultInfo }.endCall.1 { c with cid, resultInfo }.endCall.2
  | abandon (h : c.state = some .activating) : Transition .getLastFailDone
      { c.moveTo .inactive with connectId := nextConnectId c.connectId } []
  | complete {info : SetupDataCallResultInfo} (h : c.state = some .active) :
      Transition (.setupDataCall (.resultInfo info)) (c.complete info).1 (c.complete info).2
  | disconnect {e : MachineEvent} {params : DataDisconnectParams} (h : c.state = some .active)
      (he : e.isDisconnect = true) : Transition e (c.disconnect params).1 (c.disconnect params).2
  | lose {e : MachineEvent} {info : SetupDataCallResultInfo} (h : c.state = some .active)
      (he : e.isLoss = true) : Transition e { c with resultInfo := some info }.endCall.1
        { c with resultInfo := some info }.endCall.2
  | finish {e : MachineEvent} {resultInfo : Option SetupDataCallResultInfo}
      (h : c.state = some .disconnecting) (he : e.isRelease = true) :
      Transition e { c with resultInfo }.endCall.1 { c with resultInfo }.endCall.2
  | release {e : MachineEvent} (h : c.state = some .disconnecting) (he : e.isRelease = true) :
      Transition e c.release.1 c.release.2

variable {env c}

theorem setupAnswer_transition (h : c.state = some .activating) (answer : SetupAnswer) :
    Transition env c (.setupDataCall answer) (c.setupAnswer answer).1 (c.setupAnswer answer).2 := by
  cases answer with
  | empty => exact .ignore (by simp only [takes, h]; rfl)
  | rilInfo info =>
    by_cases hflag : c.connectId ≠ info.flag
    · have heq : c.setupAnswer (.rilInfo info) = (c, []) := if_pos hflag
      rw [heq]
      exact .ignore (by simpa only [takes, h, decide_eq_false_iff_not] using hflag)
    · have heq : c.setupAnswer (.rilInfo info) = c.endWith .retry := if_neg hflag
      rw [heq]
      exact .fail h rfl
  | resultInfo info =>
    by_cases hflag : c.connectId ≠ info.flag
    · have heq : c.setupAnswer (.resultInfo info) = (c, []) := if_pos hflag
      rw [heq]
      exact .ignore (by simpa only [takes, h, decide_eq_false_iff_not] using hflag)
    · have heq : c.setupAnswer (.resultInfo info) = _ := if_neg hflag
      rw [heq]
      cases hs : setupSucceeds info with
      | true => exact .accept h (not_not.mp hflag).symm hs
      | false => exact .fail h hs

theorem connectTimeout_transition (h : c.state = some .activating) (connectId : Int) :
    Transition env c (.connectTimeoutCheck connectId) (c.connectTimeout env connectId).1
      (c.connectTimeout env connectId).2 := by
  by_cases hid : connectId ≠ c.connectId
  · have heq : c.connectTimeout env connectId = (c, []) := if_pos hid
    rw [heq]
    exact .ignore (by simp only [takes, h, hid, decide_false, Bool.false_and])
  · by_cases helapsed : env.currentTime - c.startTime < connectionTaskTime
    · have heq : c.connectTimeout env connectId = (c, []) := (if_neg hid).trans (if_pos helapsed)
      rw [heq]
      have hnot : ¬ connectionTaskTime ≤ env.currentTime - c.startTime := by omega
      exact .ignore (by simp only [takes, h, hnot, decide_false, Bool.and_false])
    · have heq : c.connectTimeout env connectId = c.endWith .retry :=
        (if_neg hid).trans (if_neg helapsed)
      rw [heq]
      exact .fail h rfl

/-- A successful answer to the current request is accepted. -/
theorem Transition.accepts {c' : Control} {os : List MachineOutput} {info : SetupDataCallResultInfo}
    (ht : Transition env c (.setupDataCall (.resultInfo info)) c' os)
    (h : c.state = some .activating) (hflag : info.flag = c.connectId)
    (hs : setupSucceeds info = true) : os = [.addActiveConnectionByCid info.cid] := by
  cases ht with
  | ignore htakes =>
    have htaken : c.takes env (.setupDataCall (.resultInfo info)) = true := by
      simp only [takes, h, hflag, decide_true]
    cases htakes.symm.trans htaken
  | defer _ he => cases he
  | accept _ _ _ => rfl
  | fail _ hfails => cases hfails.symm.trans hs
  | complete hst => cases h.symm.trans hst
  | disconnect hst _ => cases h.symm.trans hst
  | lose hst _ => cases h.symm.trans hst
  | finish hst _ => cases h.symm.trans hst
  | release hst _ => cases h.symm.trans hst

theorem disconnecting_transition (h : c.state = some .disconnecting) (e : MachineEvent) :
    Transition env c e (c.processDisconnecting e).1 (c.processDisconnecting e).2 := by
  cases e with
  | connect params => exact .defer (.inr h) rfl
  | disconnect params => exact .defer (.inr h) rfl
  | disconnectAll params => exact .defer (.inr h) rfl
  | deactivateDataCall rilInfo =>
    cases rilInfo with
    | none => exact .release h rfl
    | some info =>
      by_cases hflag : c.connectId ≠ info.flag
      · have heq : c.processDisconnecting (.deactivateDataCall (some info)) = (c, []) := if_pos hflag
        rw [heq]
        exact .ignore (by simpa only [takes, h, decide_eq_false_iff_not] using hflag)
      · have heq : c.processDisconnecting (.deactivateDataCall (some info)) = c.release :=
          if_neg hflag
        rw [heq]
        exact .release h rfl
  | disconnectTimeoutCheck connectId =>
    by_cases hid : connectId ≠ c.connectId
    · have heq : c.processDisconnecting (.disconnectTimeoutCheck connectId) = (c, []) := if_pos hid
      rw [heq]
      exact .ignore (by simpa only [takes, h, decide_eq_false_iff_not] using hid)
    · have heq : c.processDisconnecting (.disconnectTimeoutCheck connectId) = c.endWith .retry :=
        if_neg hid
      rw [heq]
      exact .finish h rfl
  | rilAdapterHostDied info => exact .finish h rfl
  | _ => exact .ignore (by simp only [takes, h]; rfl)

theorem process_transition (hleaf : c.state ≠ some .default_) (e : MachineEvent) :
    Transition env c e (c.process env e).1 (c.process env e).2 := by
  unfold process
  cases h : c.state with
  | none =>
    by_cases he : e = .stateMachineInit
    · subst he
      simpa only [if_true] using Transition.boot h
    · simp only [he, if_false]
      exact .ignore (by cases e <;> simp_all [takes])
  | some st =>
    cases st with
    | default_ => exact absurd h hleaf
    | inactive =>
      cases e with
      | connect params => exact .connect h
      | _ => exact .ignore (by simp only [takes, h])
    | activating =>
      cases e with
      | connect params => exact .defer (.inl h) rfl
      | disconnect params => exact .defer (.inl h) rfl
      | disconnectAll params => exact .defer (.inl h) rfl
      | drsOrRatChanged => exact .defer (.inl h) rfl
      | getRilBandwidth => exact .defer (.inl h) rfl
      | setupDataCall answer => exact setupAnswer_transition h answer
      | connectTimeoutCheck connectId => exact connectTimeout_transition h connectId
      | getLastFailDone => exact .abandon h
      | _ => exact .ignore (by simp only [takes, h]; rfl)
    | active =>
      cases e with
      | disconnect params => exact .disconnect h rfl
      | disconnectAll params => exact .disconnect h rfl
      | lostConnection info => exact .lose h rfl
      | rilAdapterHostDied info => exact .lose h rfl
      | setupDataCall answer =>
        cases answer with
        | resultInfo info => exact .complete h
        | rilInfo info => exact .ignore (by simp only [takes, h]; rfl)
        | empty => exact .ignore (by simp only [takes, h]; rfl)
      | _ => exact .ignore (by simp only [takes, h]; rfl)
    | disconnecting => exact disconnecting_transition h e

end Control
end CellularData
