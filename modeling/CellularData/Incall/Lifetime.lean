import CellularData.Incall.Switching

/-! The in-call machine and the handler that makes it, initialises it and takes its completions. -/
namespace CellularData
open Lib StateMachine IncallDataStateMachine

/-- What the handler has of the machine; `completions` counts the MSG_INCALL_DATA_COMPLETE that
wait in its queue. -/
structure IncallHost where
  slotId : Int
  machine : Option IncallDataStateMachine := none
  completions : Nat := 0

/-- A call state is reported, the handler takes a completion or passes an event on, or the machine's
event loop takes its next event. -/
inductive HostLabel
  | callChanged (state : TelCallStatus)
  | incallDataComplete
  | send (e : IncallMachineEvent)
  | dispatch (env : IncallEnv)

def HostLabel.isCompletion : HostLabel → Bool
  | .incallDataComplete => true
  | _ => false

namespace IncallHost

def isCallStart : TelCallStatus → Bool
  | .dialing | .incoming => true
  | _ => false

def isCallEnd : TelCallStatus → Bool
  | .disconnected | .idle => true
  | _ => false

/-- A machine that still records a state is not initialised again. -/
def started (host : IncallHost) (state : TelCallStatus) : Option IncallDataStateMachine :=
  if isCallStart state then
    match host.machine with
    | none => some (init create state host.slotId)
    | some m => if m.data.currentState = none then some (init m state host.slotId) else some m
  else host.machine

def handleImsCallChanged (host : IncallHost) (state : TelCallStatus) : IncallHost :=
  match host.started state with
  | none => host
  | some m =>
    let m : IncallDataStateMachine := updateCallState m state
    let m : IncallDataStateMachine :=
      if isCallStart state then EventHandler.sendEvent m .callStarted else m
    let m : IncallDataStateMachine :=
      if isCallEnd state then EventHandler.sendEvent m .callEnded else m
    { host with machine := some m }

def incallDataComplete (host : IncallHost) : IncallHost :=
  { host with machine := host.machine.map deInit }

def step : HostLabel → IncallHost → Option IncallHost
  | .callChanged state, host => some (host.handleImsCallChanged state)
  | .incallDataComplete, host =>
    if host.completions = 0 then none
    else some { host with completions := host.completions - 1 }.incallDataComplete
  | .send e, host =>
    if e = .stateMachineInit then none
    else some { host with machine := host.machine.map fun m => EventHandler.sendEvent m e }
  | .dispatch env, host =>
    (host.machine.bind (IncallDataStateMachine.dispatch env)).map fun r =>
      { host with
        machine := some r.2.clearOutbox
        completions := host.completions + r.2.data.outbox.count .incallDataComplete }

def system : TransitionSystem IncallHost HostLabel where
  init host := host.machine = none ∧ host.completions = 0
  step := step

/-! Calls -/

/-- The last call state handled is the start of a call or a later state of it. -/
def InCall : List (HostLabel × IncallHost) → Prop
  | [] => False
  | (.callChanged state, _) :: h => isCallStart state ∨ ¬ isCallEnd state ∧ InCall h
  | _ :: h => InCall h

/-- The handler has taken a completion in a call. -/
def CompletedInCall : List (HostLabel × IncallHost) → Prop
  | [] => False
  | (l, _) :: h => l.isCompletion = true ∧ InCall h ∨ CompletedInCall h

def InitPending (host : IncallHost) : Prop :=
  ∃ m ∈ host.machine, .stateMachineInit ∈ m.queue.pending

instance (host : IncallHost) : Decidable host.InitPending :=
  inferInstanceAs (Decidable (∃ m ∈ host.machine, _))

/-- A machine that has been released takes the initial event of its last `Init`. -/
def startsReleased (host : IncallHost) : HostLabel → Bool
  | .dispatch _ => host.machine.any fun m =>
    m.data.objects = none && (m.queue.next.map (·.1)) = some .stateMachineInit
  | _ => false

def StartedReleased (h : List (HostLabel × IncallHost)) : Prop :=
  ∃ p ∈ h, p.2.startsReleased p.1 = true

instance decidableInCall : DecidablePred InCall
  | [] => instDecidableFalse
  | (.callChanged state, _) :: h =>
    have := decidableInCall h
    inferInstanceAs (Decidable (isCallStart state ∨ ¬ isCallEnd state ∧ InCall h))
  | (.incallDataComplete, _) :: h => decidableInCall h
  | (.send _, _) :: h => decidableInCall h
  | (.dispatch _, _) :: h => decidableInCall h

instance decidableCompletedInCall : DecidablePred CompletedInCall
  | [] => instDecidableFalse
  | (l, _) :: h =>
    have := decidableCompletedInCall h
    inferInstanceAs (Decidable (l.isCompletion = true ∧ InCall h ∨ CompletedInCall h))

instance (h : List (HostLabel × IncallHost)) : Decidable (StartedReleased h) :=
  inferInstanceAs (Decidable (∃ p ∈ h, _))

/-- The machine is initialised; its current state is set with the initial event that `Init` posts. -/
def Alive (host : IncallHost) : Prop :=
  ∃ m, host.machine = some m ∧ m.data.slotId = host.slotId ∧ m.data.objects ≠ none ∧
    (¬ host.InitPending → m.data.currentState ≠ none)

/-! The machine between its Init and its DeInit -/

/-- The event handler rests in a leaf, or has not begun. -/
def Rests (m : IncallDataStateMachine) : Prop :=
  m.destState = m.curState ∧ ∀ st, m.curState = some st → isLeaf st = true

/-- The phases of a machine: released, waiting for its initial event, or in one of its leaves. -/
inductive Phase (slotId : Int) (m : IncallDataStateMachine) : Prop
  | released (hobjects : m.data.objects = none) (hcurrent : m.data.currentState = none)
      (hrests : Rests m)
  | starting (hobjects : m.data.objects = some m.data.generation)
      (horiginal : m.originalState = some ⟨m.data.generation, .idle⟩)
      (hslot : m.data.slotId = slotId) (himmediate : m.queue.immediate ≠ []) (hrests : Rests m)
  | running {st : IncallState} (hat : At m.data.generation st m)
      (horiginal : m.originalState = some ⟨m.data.generation, .idle⟩)
      (hslot : m.data.slotId = slotId) (hcurrent : m.data.currentState ≠ none)
      (himmediate : m.queue.immediate = [])

variable {env : IncallEnv} {m m' : IncallDataStateMachine} {e : IncallMachineEvent} {slotId : Int}
  {host host' : IncallHost} {l : HostLabel} {h : List (HostLabel × IncallHost)}

theorem rests_create : Rests create := by
  refine ⟨rfl, fun st hst => ?_⟩
  cases hst

theorem rests_of_at {g : Nat} {st : IncallState} (hat : At g st m) : Rests m := by
  refine ⟨hat.destState.trans hat.curState.symm, fun st' hst' => ?_⟩
  obtain rfl := Option.some.inj (hat.curState.symm.trans hst')
  exact decide_eq_true hat.isLeaf

variable (env) in
/-- A released machine ignores everything that it may still process. -/
theorem process_released (hquit : m.isQuit = false) (hobjects : m.data.objects = none)
    (hdest : m.destState = m.curState) (hleaf : ∀ st, m.curState = some st → isLeaf st = true)
    (he : e ≠ .stateMachineInit) :
    (process env m e).curState = m.curState ∧ (process env m e).destState = m.destState ∧
      (process env m e).data.currentState = m.data.currentState := by
  rw [process_eq hquit he]
  have hkept : (EventHandler.processMsg m (states env) e).curState = m.curState ∧
      (EventHandler.processMsg m (states env) e).destState = m.destState ∧
      (EventHandler.processMsg m (states env) e).data.currentState = m.data.currentState := by
    cases hcur : m.curState with
    | none =>
      have hsame : EventHandler.processMsg m (states env) e = m := by
        unfold EventHandler.processMsg
        rw [hcur]
      rw [hsame]
      exact ⟨hcur, rfl, rfl⟩
    | some st =>
      obtain ⟨r, os, hrequest, hasked⟩ := processMsg_request env hcur (hleaf st hcur) e
      refine ⟨hasked.curState.trans hcur, ?_, hasked.currentState⟩
      rcases destAfter_cases hrequest with hsame | ⟨g, _, -, hsome, -⟩
      · exact hasked.destState.trans hsame
      · rw [hobjects] at hsome
        cases hsome
  obtain ⟨hcur, hdest', hrecord⟩ := hkept
  have hsame : EventHandler.processTransitions (EventHandler.processMsg m (states env) e)
      (states env) = EventHandler.processMsg m (states env) e :=
    if_pos (by rw [hcur, hdest', hdest])
  rw [hsame]
  exact ⟨hcur, hdest', hrecord⟩

theorem Phase.init (hm : Rests m) (state : TelCallStatus) (slotId : Int) :
    Phase slotId (init m state slotId) :=
  .starting rfl rfl rfl (List.append_ne_nil_of_right_ne_nil _ (List.cons_ne_nil _ _)) hm

theorem Phase.rests (hm : Phase slotId m) : Rests m := by
  cases hm with
  | released _ _ hrests => exact hrests
  | starting _ _ _ _ hrests => exact hrests
  | running hat _ _ _ _ => exact rests_of_at hat

theorem Phase.updateCallState (hm : Phase slotId m) (state : TelCallStatus) :
    Phase slotId (updateCallState m state) := by
  cases hm with
  | released hobjects hcurrent hrests => exact .released hobjects hcurrent hrests
  | starting hobjects horiginal hslot himmediate hrests =>
    exact .starting hobjects horiginal hslot himmediate hrests
  | running hat horiginal hslot hcurrent himmediate =>
    exact .running { hat with } horiginal hslot hcurrent himmediate

theorem Phase.sendEvent (hm : Phase slotId m) (e : IncallMachineEvent) :
    Phase slotId (EventHandler.sendEvent m e) := by
  cases hm with
  | released hobjects hcurrent hrests => exact .released hobjects hcurrent hrests
  | starting hobjects horiginal hslot himmediate hrests =>
    exact .starting hobjects horiginal hslot himmediate hrests
  | running hat horiginal hslot hcurrent himmediate =>
    exact .running { hat with } horiginal hslot hcurrent himmediate

theorem Phase.deInit (hm : Phase slotId m) : Phase slotId (deInit m) :=
  .released rfl rfl hm.rests

/-- The next event of a machine's queue. -/
theorem Phase.dispatch (hm : Phase slotId m) (hidling : Idling m)
    (hdispatch : IncallDataStateMachine.dispatch env m = some (e, m'))
    (hstarts : m.queue.next.map (·.1) = some .stateMachineInit → m.data.objects ≠ none) :
    Idling m'.clearOutbox ∧ Phase slotId m'.clearOutbox ∧
      m'.clearOutbox.data.objects = m.data.objects := by
  obtain ⟨q, hnext, hmachine⟩ := dispatch_eq_some hdispatch
  obtain ⟨hidling', hevent⟩ := hidling.next hnext
  have hframe := frame_process env { m with queue := q } e
  have htrimmed := hframe.queue hidling'.deferEvents
  have hidle (hcur : ∀ st, m'.curState = some st → st.generation ≤ m.data.generation) :
      Idling m'.clearOutbox := by
    rw [hmachine] at hcur ⊢
    exact hidling'.process hcur
  have himmediate (hq : q.immediate = []) : m'.queue.immediate = [] := by
    refine List.eq_nil_iff_forall_not_mem.mpr fun x hx => ?_
    rw [hmachine] at hx
    have hmem : x ∈ q.immediate := htrimmed.immediate x hx
    rw [hq] at hmem
    cases hmem
  rw [← hmachine] at hframe
  have hgeneration : m'.data.generation = m.data.generation := hframe.generation
  have hobjects : m'.data.objects = m.data.objects := hframe.objects
  have hslotId : m'.data.slotId = m.data.slotId := hframe.slotId
  have horiginal' : m'.originalState = m.originalState := hframe.originalState
  have hentered {st : IncallState} (hat : At m.data.generation st m') :
      Idling m'.clearOutbox ∧ At m'.data.generation st m'.clearOutbox := by
    constructor
    · refine hidle fun st' hst' => ?_
      obtain rfl := Option.some.inj (hat.curState.symm.trans hst')
      exact Nat.le_refl _
    · rw [hgeneration]
      exact { hat with }
  cases hm with
  | released hnone hcurrent hrests =>
    obtain ⟨hdest, hleaf⟩ := hrests
    obtain ⟨-, rfl⟩ | ⟨-, -, hnot⟩ := hevent
    · exact absurd hnone (hstarts (congrArg (Option.map Prod.fst) hnext))
    · obtain ⟨hcur, hdest', hrecord⟩ := process_released env (m := { m with queue := q })
        hidling'.isQuit hnone hdest hleaf hnot
      rw [← hmachine] at hcur hdest' hrecord
      have hcur' : m'.curState = m.curState := hcur
      refine ⟨hidle ?_, .released (hobjects.trans hnone) (hrecord.trans hcurrent)
        ⟨hdest'.trans (hdest.trans hcur.symm), ?_⟩, hobjects⟩
      · rw [hcur']
        exact hidling.curState
      · intro st hst
        exact hleaf st (hcur'.symm.trans hst)
  | starting hsome horiginal hslot hpending _ =>
    obtain ⟨-, rfl⟩ | ⟨hnone, -⟩ := hevent
    · obtain ⟨hat, hrecord, -⟩ := process_init env (m := { m with queue := q }) hidling'.isQuit
        hsome horiginal 0
      rw [← hmachine] at hat hrecord
      obtain ⟨hidle', hat'⟩ := hentered hat
      have hstart : m'.originalState = some ⟨m'.data.generation, .idle⟩ := by
        rw [horiginal', hgeneration, horiginal]
      refine ⟨hidle', ?_, hobjects⟩
      by_cases hleft : m'.queue.immediate = []
      · exact .running hat' hstart (hslotId.trans hslot)
          (fun hnone => absurd (hnone.symm.trans hrecord) nofun) hleft
      · exact .starting hat'.objects hstart (hslotId.trans hslot) hleft (rests_of_at hat')
    · exact absurd hnone hpending
  | running hat horiginal hslot hcurrent hempty =>
    obtain ⟨hpending, -⟩ | ⟨-, hq, hnot⟩ := hevent
    · exact absurd hempty hpending
    · have hat₀ : At m.data.generation _ { m with queue := q } := { hat with }
      obtain ⟨st', hat', -⟩ := hat₀.process env hidling'.isQuit hidling'.outbox hnot
      rw [← hmachine] at hat'
      obtain ⟨hidle', hat''⟩ := hentered hat'
      have hstart : m'.originalState = some ⟨m'.data.generation, .idle⟩ := by
        rw [horiginal', hgeneration, horiginal]
      exact ⟨hidle', .running hat'' hstart (hslotId.trans hslot) (hframe.currentState hcurrent)
        (himmediate hq), hobjects⟩

/-! Runs of the handler and its machine -/

/-- In a call there is a machine that has its state objects. -/
structure Invariant (h : List (HostLabel × IncallHost)) (host : IncallHost) : Prop where
  machine : host.machine = none → ¬ InCall h
  idling : ∀ m, host.machine = some m → Idling m
  phase : ∀ m, host.machine = some m → Phase host.slotId m
  alive : ∀ m, host.machine = some m → InCall h → m.data.objects ≠ none

theorem invariant_init (hs : system.init host) : Invariant [] host where
  machine _ := id
  idling _ hm := nomatch hs.1.symm.trans hm
  phase _ hm := nomatch hs.1.symm.trans hm
  alive _ hm := nomatch hs.1.symm.trans hm

/-- The machine to which a call state is reported. -/
theorem started_cases (hhost : Invariant h host) (state : TelCallStatus)
    (hm : host.started state = some m) : Idling m ∧ Phase host.slotId m ∧
      (m.data.objects = none → ¬ isCallStart state ∧ host.machine = some m) := by
  unfold started at hm
  split_ifs at hm with hstart
  · cases hmachine : host.machine with
    | none =>
      rw [hmachine] at hm
      obtain rfl := Option.some.inj hm
      exact ⟨create_idling.init _ _, Phase.init rests_create _ _, nofun⟩
    | some m₀ =>
      rw [hmachine] at hm
      have hidling := hhost.idling m₀ hmachine
      have hphase := hhost.phase m₀ hmachine
      dsimp only at hm
      split_ifs at hm with hcurrent
      · obtain rfl := Option.some.inj hm
        exact ⟨hidling.init _ _, Phase.init hphase.rests _ _, nofun⟩
      · obtain rfl := Option.some.inj hm
        refine ⟨hidling, hphase, fun hnone => ?_⟩
        cases hphase with
        | released _ hreleased _ => exact absurd hreleased hcurrent
        | starting hsome _ _ _ _ => cases hnone.symm.trans hsome
        | running hat _ _ _ _ => cases hnone.symm.trans hat.objects
  · exact ⟨hhost.idling m hm, hhost.phase m hm, fun _ => ⟨hstart, hm⟩⟩

theorem started_none {state : TelCallStatus} (hnone : host.started state = none) :
    ¬ isCallStart state ∧ host.machine = none := by
  unfold started at hnone
  split_ifs at hnone with hstart
  · cases hmachine : host.machine with
    | none =>
      rw [hmachine] at hnone
      cases hnone
    | some m =>
      rw [hmachine] at hnone
      dsimp only at hnone
      split_ifs at hnone
  · exact ⟨hstart, hnone⟩

theorem handleImsCallChanged_some {state : TelCallStatus} (hm : host.started state = some m) :
    ∃ m', host.handleImsCallChanged state = { host with machine := some m' } ∧
      (Idling m → Idling m') ∧ (Phase host.slotId m → Phase host.slotId m') ∧
      m'.data.objects = m.data.objects := by
  unfold handleImsCallChanged
  rw [hm]
  dsimp only
  refine ⟨_, rfl, ?_, ?_, ?_⟩
  · intro hidling
    have hstate := hidling.updateCallState state
    split_ifs
    · exact (hstate.sendEvent (by decide)).sendEvent (by decide)
    · exact hstate.sendEvent (by decide)
    · exact hstate.sendEvent (by decide)
    · exact hstate
  · intro hphase
    have hstate := hphase.updateCallState state
    split_ifs
    · exact (hstate.sendEvent _).sendEvent _
    · exact hstate.sendEvent _
    · exact hstate.sendEvent _
    · exact hstate
  · split_ifs <;> rfl

theorem invariant_callChanged (hhost : Invariant h host) (state : TelCallStatus) :
    Invariant ((.callChanged state, host) :: h) (host.handleImsCallChanged state) := by
  cases hstarted : host.started state with
  | none =>
    obtain ⟨hstart, hnone⟩ := started_none hstarted
    have hsame : host.handleImsCallChanged state = host := by
      unfold handleImsCallChanged
      rw [hstarted]
    rw [hsame]
    have hno {m : IncallDataStateMachine} (hm : host.machine = some m) : False :=
      nomatch hnone.symm.trans hm
    refine ⟨fun _ hcall => ?_, fun _ hm => (hno hm).elim, fun _ hm => (hno hm).elim,
      fun _ hm => (hno hm).elim⟩
    rcases hcall with hcall | ⟨-, hcall⟩
    · exact hstart hcall
    · exact hhost.machine hnone hcall
  | some m =>
    obtain ⟨hidling, hphase, hreleased⟩ := started_cases hhost state hstarted
    obtain ⟨m', heq, hidling', hphase', hobjects⟩ := handleImsCallChanged_some hstarted
    rw [heq]
    refine ⟨nofun, fun x hx => ?_, fun x hx => ?_, fun x hx hcall hnone => ?_⟩
    · obtain rfl := Option.some.inj hx
      exact hidling' hidling
    · obtain rfl := Option.some.inj hx
      exact hphase' hphase
    · obtain rfl := Option.some.inj hx
      obtain ⟨hstart, hm⟩ := hreleased (hobjects.symm.trans hnone)
      rcases hcall with hcall | ⟨-, hcall⟩
      · exact absurd hcall hstart
      · exact hhost.alive m hm hcall (hobjects.symm.trans hnone)

theorem invariant_step (hhost : Invariant h host) (hcompletes : l.isCompletion = true → ¬ InCall h)
    (hstarts : host.startsReleased l = false) (hstep : system.step l host = some host') :
    Invariant ((l, host) :: h) host' := by
  cases l with
  | callChanged state =>
    obtain rfl := Option.some.inj hstep
    exact invariant_callChanged hhost state
  | incallDataComplete =>
    simp only [system, step] at hstep
    split_ifs at hstep
    obtain rfl := Option.some.inj hstep
    unfold incallDataComplete
    refine ⟨fun hnone => hhost.machine (Option.map_eq_none_iff.mp hnone), fun x hx => ?_,
      fun x hx => ?_, fun _ _ hcall => absurd hcall (hcompletes rfl)⟩
    · obtain ⟨m, hm, rfl⟩ := Option.map_eq_some_iff.mp hx
      exact (hhost.idling m hm).deInit
    · obtain ⟨m, hm, rfl⟩ := Option.map_eq_some_iff.mp hx
      exact (hhost.phase m hm).deInit
  | send e =>
    simp only [system, step] at hstep
    split_ifs at hstep with he
    obtain rfl := Option.some.inj hstep
    refine ⟨fun hnone => hhost.machine (Option.map_eq_none_iff.mp hnone), fun x hx => ?_,
      fun x hx => ?_, fun x hx hcall => ?_⟩
    · obtain ⟨m, hm, rfl⟩ := Option.map_eq_some_iff.mp hx
      exact (hhost.idling m hm).sendEvent he
    · obtain ⟨m, hm, rfl⟩ := Option.map_eq_some_iff.mp hx
      exact (hhost.phase m hm).sendEvent e
    · obtain ⟨m, hm, rfl⟩ := Option.map_eq_some_iff.mp hx
      exact hhost.alive m hm hcall
  | dispatch env =>
    obtain ⟨⟨e, m'⟩, hbind, rfl⟩ := Option.map_eq_some_iff.mp hstep
    obtain ⟨m, hm, hdispatch⟩ := Option.bind_eq_some_iff.mp hbind
    have hkeeps : m.queue.next.map (·.1) = some .stateMachineInit → m.data.objects ≠ none := by
      intro hnext hnone
      have hlate : host.startsReleased (.dispatch env) = true := by
        simp only [startsReleased, hm, Option.any_some, hnone, hnext, decide_true, Bool.and_self]
      cases hstarts.symm.trans hlate
    obtain ⟨hidling, hphase, hobjects⟩ :=
      (hhost.phase m hm).dispatch (hhost.idling m hm) hdispatch hkeeps
    refine ⟨nofun, fun x hx => ?_, fun x hx => ?_, fun x hx hcall hnone => ?_⟩
    · obtain rfl := Option.some.inj hx
      exact hidling
    · obtain rfl := Option.some.inj hx
      exact hphase
    · obtain rfl := Option.some.inj hx
      exact hhost.alive m hm hcall (hobjects.symm.trans hnone)

theorem history_invariant (hh : system.History h host) (hcompleted : ¬ CompletedInCall h)
    (hstarted : ¬ StartedReleased h) : Invariant h host := by
  induction hh with
  | init hs => exact invariant_init hs
  | @step h l host host' hh hstep ih =>
    have hbefore : Invariant h host := by
      apply ih
      · exact fun hc => hcompleted (.inr hc)
      · rintro ⟨p, hp, hlate⟩
        exact hstarted ⟨p, List.mem_cons_of_mem _ hp, hlate⟩
    refine invariant_step hbefore (fun hl hcall => hcompleted (.inl ⟨hl, hcall⟩)) ?_ hstep
    rw [← Bool.not_eq_true]
    exact fun hlate => hstarted ⟨_, List.mem_cons_self, hlate⟩

/-- The machine is alive in every call of a run in which no completion is taken in a call and no
released machine takes its initial event. -/
theorem alive_in_call (hh : system.History h host) (hcompleted : ¬ CompletedInCall h)
    (hstarted : ¬ StartedReleased h) (hcall : InCall h) : Alive host := by
  have hhost := history_invariant hh hcompleted hstarted
  cases hmachine : host.machine with
  | none => exact absurd hcall (hhost.machine hmachine)
  | some m =>
    refine ⟨m, hmachine, ?_⟩
    cases hhost.phase m hmachine with
    | released hobjects _ _ => exact absurd hobjects (hhost.alive m hmachine hcall)
    | starting hobjects _ hslot himmediate _ =>
      obtain ⟨x, hx⟩ := List.exists_mem_of_ne_nil _ himmediate
      have hinit := (hhost.idling m hmachine).immediate x hx
      refine ⟨hslot, fun hnull => (by cases hnull.symm.trans hobjects), fun hno => ?_⟩
      exact absurd ⟨m, hmachine, EventQueue.mem_pending.mpr (.inl (hinit ▸ hx))⟩ hno
    | running hat _ hslot hcurrent _ =>
      exact ⟨hslot, fun hnull => (by cases hnull.symm.trans hat.objects), fun _ => hcurrent⟩

def twoCallLabels : List HostLabel :=
  [.callChanged .dialing, .dispatch {}, .dispatch {}, .callChanged .disconnected, .dispatch {},
    .incallDataComplete, .callChanged .incoming, .callChanged .active]

theorem alive_in_call_second : ∃ h host, system.History h host ∧ InCall h ∧ Alive host := by
  have hinit : system.init { slotId := 1 } := ⟨rfl, rfl⟩
  obtain ⟨h, host, hh, hp⟩ := TransitionSystem.exists_history hinit twoCallLabels
    (p := fun h _ => ¬ CompletedInCall h ∧ ¬ StartedReleased h ∧ InCall h) (by decide +kernel)
  obtain ⟨hcompleted, hstarted, hcall⟩ := of_decide_eq_true hp
  exact ⟨h, host, hh, hcall, alive_in_call hh hcompleted hstarted hcall⟩

/-- The completion of the first call is taken in the second one, which has not initialised the
machine again. -/
def crossedLabels : List HostLabel :=
  [.callChanged .dialing, .dispatch {}, .dispatch {}, .callChanged .disconnected, .dispatch {},
    .callChanged .dialing, .incallDataComplete]

/-- The end of the first call is completed twice; the second completion releases the machine before
it takes the initial event of the second call, and the third call finds a state recorded. -/
def releasedLabels : List HostLabel :=
  [.callChanged .dialing, .dispatch {}, .dispatch {}, .callChanged .disconnected, .dispatch {},
    .callChanged .idle, .dispatch {}, .incallDataComplete, .callChanged .dialing,
    .callChanged .disconnected, .incallDataComplete, .dispatch {}, .callChanged .dialing]

/-- In a call the machine may be gone, even where no completion is taken in a call. -/
theorem call_not_initialised :
    (∃ h host m, system.History h host ∧ ¬ StartedReleased h ∧ InCall h ∧ host.machine = some m ∧
      m.data.slotId ≠ host.slotId ∧ m.data.objects = none ∧ m.data.currentState = none ∧
      ¬ host.InitPending) ∧
    ∃ h host m, system.History h host ∧ ¬ CompletedInCall h ∧ InCall h ∧ host.machine = some m ∧
      m.data.slotId ≠ host.slotId ∧ m.data.objects = none ∧ ¬ host.InitPending := by
  have hinit : system.init { slotId := 1 } := ⟨rfl, rfl⟩
  constructor
  · obtain ⟨h, host, hh, hp⟩ := TransitionSystem.exists_history hinit crossedLabels
      (p := fun h host => ¬ StartedReleased h ∧ InCall h ∧ ¬ host.InitPending ∧
        ∃ m ∈ host.machine, m.data.slotId ≠ host.slotId ∧ m.data.objects = none ∧
          m.data.currentState = none) (by decide +kernel)
    obtain ⟨hstarted, hcall, hpending, m, hm, hslot, hobjects, hcurrent⟩ := of_decide_eq_true hp
    exact ⟨h, host, m, hh, hstarted, hcall, hm, hslot, hobjects, hcurrent, hpending⟩
  · obtain ⟨h, host, hh, hp⟩ := TransitionSystem.exists_history hinit releasedLabels
      (p := fun h host => ¬ CompletedInCall h ∧ InCall h ∧ ¬ host.InitPending ∧
        ∃ m ∈ host.machine, m.data.slotId ≠ host.slotId ∧ m.data.objects = none)
      (by decide +kernel)
    obtain ⟨hcompleted, hcall, hpending, m, hm, hslot, hobjects⟩ := of_decide_eq_true hp
    exact ⟨h, host, m, hh, hcompleted, hcall, hm, hslot, hobjects, hpending⟩

end IncallHost
end CellularData
