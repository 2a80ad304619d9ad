import CellularData.Apn.Manager
import CellularData.Machine.Link
import CellularData.Machine.System

/-! The port of a machine, state, capability, item and reuse, and what one event does to it. -/
namespace CellularData
open Lib StateMachine

/-- What other connections know a machine by. -/
structure Port where
  state : Option ConnState := none
  capability : NetCap := .unset
  apnItem : Option ApnItem := none
  reuseApnCap : NetCap := .end_

/-- A call of `SetReuseSupplierId` on account of a machine. -/
structure ReuseCall where
  machine : MachineRef
  capability : NetCap
  reuseApnCap : NetCap
  isReused : Bool
deriving DecidableEq, Repr

def MachineOutput.reuseCall (m : MachineRef) : MachineOutput → Option ReuseCall
  | .setReuseSupplierId capability reuseApnCap isReused =>
    some ⟨m, capability, reuseApnCap, isReused⟩
  | _ => none

namespace CellularDataStateMachine

def port (x : CellularDataStateMachine) : Port where
  state := x.curState
  capability := x.data.link.capability
  apnItem := x.data.link.apnItem
  reuseApnCap := x.data.link.reuseApnCap

variable {x y : CellularDataStateMachine}

theorem port_publishes (h : Publishes x y) : y.port = x.port := by
  have hstate : y.curState = x.curState := congrArg Control.state h.unchanged.control
  unfold port
  rw [hstate, h.bound.capability, h.bound.apnItem, h.bound.reuseApnCap]

theorem filterMap_reuseCall (m : MachineRef) (os : List MachineOutput) :
    os.filterMap (·.reuseCall m) = (os.filter MachineOutput.isReuse).filterMap (·.reuseCall m) := by
  rw [List.filterMap_filter]
  congr 1
  funext o
  cases o <;> rfl

theorem reuseCalls_settled (hx : x.Settled) : x.reuseCalls = [] := by
  unfold reuseCalls
  rw [hx.outbox]
  rfl

end CellularDataStateMachine

namespace Control

variable {env : MachineEnv} {c c' : Control} {e : MachineEvent} {os : List MachineOutput}

/-- Only a disconnection or a loss ends `Active`. -/
theorem Transition.staysActive_iff (ht : Transition env c e c' os) (h : c.state = some .active) :
    c'.state = some .active ↔ e.leavesActive = false := by
  have hne : ∀ st, st ≠ ConnState.active → c.state ≠ some st := by
    intro st hst heq
    exact hst (Option.some.inj (heq.symm.trans h))
  cases ht with
  | ignore htakes =>
    refine iff_of_true h ?_
    simp only [takes, h] at htakes
    cases e with
    | setupDataCall answer => rfl
    | _ => exact htakes
  | boot hst => cases h.symm.trans hst
  | connect hst => exact absurd hst (hne _ (by decide))
  | defer hst _ =>
    rcases hst with hst | hst
    · exact absurd hst (hne _ (by decide))
    · exact absurd hst (hne _ (by decide))
  | accept hst _ _ => exact absurd hst (hne _ (by decide))
  | fail hst => exact absurd hst (hne _ (by decide))
  | abandon hst => exact absurd hst (hne _ (by decide))
  | complete hst => exact iff_of_true h rfl
  | disconnect _ he =>
    refine iff_of_false (fun hst => by cases hst) ?_
    rw [MachineEvent.leavesActive, he]
    exact Bool.noConfusion
  | lose _ he =>
    refine iff_of_false (fun hst => by cases hst) ?_
    rw [MachineEvent.leavesActive, he, Bool.or_true]
    exact Bool.noConfusion
  | finish hst _ => exact absurd hst (hne _ (by decide))
  | release hst _ => exact absurd hst (hne _ (by decide))

theorem Transition.takesRequest {params : DataConnectionParams}
    (ht : Transition env c (.connect params) c' os) (h : c.state = some .inactive) :
    c'.state = some .activating := by
  cases ht with
  | ignore htakes =>
    simp only [takes, h] at htakes
    cases htakes
  | connect _ =>
    unfold Control.connect
    cases env.currentApn params.apnHolder <;> rfl
  | defer hst _ => rcases hst with hst | hst <;> cases h.symm.trans hst
  | fail hst => cases h.symm.trans hst
  | disconnect hst _ => cases h.symm.trans hst
  | lose hst _ => cases h.symm.trans hst
  | finish hst _ => cases h.symm.trans hst
  | release hst _ => cases h.symm.trans hst

end Control

namespace Port

/-- What is said when a machine with this port leaves `Active`. -/
def cancelled (p : Port) (m : MachineRef) : List ReuseCall :=
  if p.reuseApnCap = .end_ then [] else [⟨m, p.capability, p.reuseApnCap, false⟩]

/-- One event of the machine `m`, as its port shows it, with the calls made. -/
inductive Turns (item : ApnType → Option ApnItem) (m : MachineRef) :
    Port → MachineEvent → Port → List ReuseCall → Prop
  | stay {p : Port} {e : MachineEvent} {state : Option ConnState}
      (hactive : p.state = some .active → state = some .active)
      (hconnect : p.state = some .inactive → e.isConnect = false) :
      Turns item m p e { p with state } []
  | connect {p : Port} {params : DataConnectionParams} (hstate : p.state = some .inactive) :
      Turns item m p (.connect params)
        { p with state := some .activating, apnItem := item params.apnHolder } []
  | leave {p : Port} {e : MachineEvent} {state : Option ConnState}
      (hactive : p.state = some .active) (hstate : state ≠ some .active) :
      Turns item m p e { p with state, reuseApnCap := .end_ } (p.cancelled m)

/-- At most one call is made. -/
theorem Turns.reverse_calls {item : ApnType → Option ApnItem} {m : MachineRef} {p p' : Port}
    {e : MachineEvent} {calls : List ReuseCall} (h : Turns item m p e p' calls) :
    calls.reverse = calls := by
  cases h with
  | stay _ _ => rfl
  | connect _ => rfl
  | leave _ _ =>
    unfold cancelled
    split_ifs <;> rfl

end Port

namespace CellularDataStateMachine

variable {env : MachineEnv} {x x' y : CellularDataStateMachine} {e : MachineEvent}

theorem filterMap_cancelled (x : CellularDataStateMachine) (m : MachineRef) :
    x.cancelled.filterMap (·.reuseCall m) = x.port.cancelled m := by
  unfold cancelled Port.cancelled port
  dsimp only
  split_ifs <;> rfl

theorem turns_of_bound (hy : y.Settled) {c : Control} {os : List MachineOutput}
    (ht : Control.Transition env c e (process env y e).control os) (hc : c.state = y.curState)
    (m : MachineRef) (hb : ∀ st, y.curState = some st → binds st e = false) :
    Port.Turns env.currentApn m y.port e (process env y e).port
      ((process env y e).reuseCalls.filterMap (·.reuseCall m)) := by
  have hlink : Bound y (process env y e) := bound_process hb
  have hcalls : (process env y e).reuseCalls = [] :=
    hlink.reuseCalls.trans (reuseCalls_settled hy)
  have hnew : (process env y e).port = { y.port with state := (process env y e).curState } := by
    unfold port
    rw [hlink.capability, hlink.apnItem, hlink.reuseApnCap]
  rw [hcalls, hnew]
  refine .stay (fun hst => (ht.staysActive_iff (hc.trans hst)).mpr (hb _ hst)) fun hst => ?_
  have hfalse := hb _ hst
  cases e <;> first | rfl | cases hfalse

/-- What one event does to the port. -/
theorem turns_of_process (hy : y.Settled) {c : Control} {os : List MachineOutput}
    (ht : Control.Transition env c e (process env y e).control os) (hc : c.state = y.curState)
    (m : MachineRef) : Port.Turns env.currentApn m y.port e (process env y e).port
      ((process env y e).reuseCalls.filterMap (·.reuseCall m)) := by
  by_cases hb : ∀ st, y.curState = some st → binds st e = false
  · exact turns_of_bound hy ht hc m hb
  · push Not at hb
    obtain ⟨st, hst, hne⟩ := hb
    have hbinds : binds st e = true := by simpa using hne
    cases st with
    | inactive =>
      cases e <;> cases hbinds
      rename_i params
      obtain ⟨hitem, hcap, hreuse, hcalls⟩ := apnItem_connect env hy hst params
      have hnew : (process env y (.connect params)).port =
          { y.port with state := some .activating, apnItem := env.currentApn params.apnHolder } := by
        have hstate : (process env y (.connect params)).curState = some .activating :=
          ht.takesRequest (hc.trans hst)
        unfold port
        rw [hstate, hitem, hcap, hreuse]
      rw [hcalls, hnew]
      exact .connect hst
    | active =>
      have hleave : e.leavesActive = true := hbinds
      obtain ⟨hcalls, hreuse, hcap, hitem⟩ := reuse_leave env hy hst hleave
      have hnew : (process env y e).port =
          { y.port with state := (process env y e).curState, reuseApnCap := .end_ } := by
        unfold port
        rw [hitem, hcap, hreuse]
      rw [hcalls, hnew, filterMap_cancelled]
      refine .leave hst fun hstay => ?_
      have hfalse := (ht.staysActive_iff (hc.trans hst)).mp hstay
      rw [hleave] at hfalse
      cases hfalse
    | default_ => cases hbinds
    | activating => cases hbinds
    | disconnecting => cases hbinds

theorem turns_of_dispatch (hx : x.Settled) (hw : x.control.WellFormed) (m : MachineRef)
    (h : x.dispatch env = some (e, x')) :
    Port.Turns env.currentApn m x.port e x'.port (x'.reuseCalls.filterMap (·.reuseCall m)) := by
  obtain ⟨q, hnext, ht, -⟩ := dispatch_refines hx hw h
  obtain ⟨q', -, rfl⟩ := dispatch_eq_some h
  exact turns_of_process (hx.withQueue q') ht rfl m

end CellularDataStateMachine
end CellularData
