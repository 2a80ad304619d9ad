import CellularData.Machine.System

/-! Answers of the modem to set-up requests: which of them complete an attempt. -/
namespace CellularData
open Lib StateMachine

namespace Control

variable {env : MachineEnv} {c c' : Control} {e : MachineEvent} {os : List MachineOutput}

/-- Only `Active` reports a completion, and only on a set-up result. -/
theorem Transition.complete_inv (ht : Transition env c e c' os)
    {info : SetupDataCallResultInfo} (h : .establishDataConnectionComplete info ∈ os) :
    c.state = some .active ∧ ∃ answer, e = .setupDataCall (.resultInfo answer) := by
  cases ht with
  | complete hst => exact ⟨hst, _, rfl⟩
  | _ => simp [Control.endCall, Control.release, Control.disconnect] at h

/-- In `Active` every set-up result is reported as a completion. -/
theorem Transition.active_complete {answer : SetupDataCallResultInfo}
    (ht : Transition env c (.setupDataCall (.resultInfo answer)) c' os)
    (hst : c.state = some .active) :
    .establishDataConnectionComplete { answer with flag := c.apnId } ∈ os := by
  cases ht with
  | ignore h => simp [takes, hst] at h
  | defer h he => cases he
  | accept h hflag hs => simp [hst] at h
  | fail h => simp [hst] at h
  | complete h => exact List.mem_singleton_self _
  | disconnect h he => cases he
  | lose h he => cases he
  | finish h he => cases he
  | release h he => cases he

end Control

namespace CellularDataStateMachine

variable {env : MachineEnv} {m m' : CellularDataStateMachine} {e : MachineEvent}

/-- A completion is reported only on a successful answer to the current request, and an answer to
another request changes neither the call nor the link data of the machine. -/
structure AnswerRespected (m : CellularDataStateMachine) (e : MachineEvent)
    (m' : CellularDataStateMachine) : Prop where
  complete : ∀ info, .establishDataConnectionComplete info ∈ m'.data.outbox →
    ∃ answer, e = .setupDataCall (.resultInfo answer) ∧ answer.flag = m.data.connectId ∧
      Control.setupSucceeds answer = true
  foreign : ∀ answer, e = .setupDataCall (.resultInfo answer) → answer.flag ≠ m.data.connectId →
    m'.data.cid = m.data.cid ∧ m'.data.link = m.data.link

/-- `Active` is about to take a set-up result from the queue that is not a success of the current
request. -/
def TakesForeignAnswer (m : CellularDataStateMachine) : Prop :=
  m.isActiveState = true ∧ m.queue.immediate = [] ∧
    ∃ answer rest, m.queue.ready = .setupDataCall (.resultInfo answer) :: rest ∧
      (answer.flag ≠ m.data.connectId ∨ Control.setupSucceeds answer = false)

/-- An answer to another request is only looked at. -/
theorem foreign_answer_keeps (hm : m.Settled) {answer : SetupDataCallResultInfo}
    (hflag : answer.flag ≠ m.data.connectId) :
    (m.process env (.setupDataCall (.resultInfo answer))).data.cid = m.data.cid ∧
      (m.process env (.setupDataCall (.resultInfo answer))).data.link = m.data.link := by
  cases hcur : m.curState with
  | none =>
    have hleft : m.process env (.setupDataCall (.resultInfo answer)) = m := by
      simp only [process, EventHandler.processEvent, hm.notQuit, states, reduceCtorEq, decide_false,
        Bool.false_eq_true, if_false, EventHandler.processMsg, hcur,
        EventHandler.processTransitions, hm.destState, if_true]
    rw [hleft]
    exact ⟨rfl, rfl⟩
  | some st =>
    have hstay : ∀ x : CellularDataStateMachine, x.curState = m.curState →
        x.destState = m.destState → x.data.cid = m.data.cid → x.data.link = m.data.link →
        (x.next env).data.cid = m.data.cid ∧ (x.next env).data.link = m.data.link := by
      intro x hc hd hcid hlink
      have hx : x.next env = x := by
        simp only [next, EventHandler.processTransitions, hc, hd, hm.destState, if_true]
      rw [hx]
      exact ⟨hcid, hlink⟩
    rw [process_eq_handle hm hcur (by simp) (by simp)]
    cases st with
    | default_ => exact absurd hcur hm.leaf
    | inactive => exact hstay _ rfl rfl rfl rfl
    | activating =>
      have hleft : (m.rilActivatePdpContextDone (.resultInfo answer)).2 = _ :=
        congrArg Prod.snd (if_pos (Ne.symm hflag))
      rw [handle_setupDataCall, hleft]
      exact hstay _ rfl rfl rfl rfl
    | active => exact hstay _ rfl rfl rfl rfl
    | disconnecting => exact hstay _ rfl rfl rfl rfl

/-- In every state that a run reaches, the step respects the answers unless `Active` is about to
take a foreign one, and then it reports it. -/
theorem answerRespected_iff (hr : system.Reachable m) (h : m.dispatch env = some (e, m')) :
    AnswerRespected m e m' ↔ ¬ m.TakesForeignAnswer := by
  obtain ⟨hm, hw⟩ := reachable_wellFormed hr
  obtain ⟨q, hnext, ht, -⟩ := dispatch_refines hm hw h
  have hsignal : ∀ info, .establishDataConnectionComplete info ∈ m'.data.outbox ↔
      .establishDataConnectionComplete info ∈ m'.signals :=
    fun info => (List.mem_filter.trans (and_iff_left rfl)).symm
  constructor
  · rintro hrespected ⟨hst, himm, answer, rest, hready, hforeign⟩
    have hstate : m.control.state = some .active := (hm.isState_iff _).mp (of_decide_eq_true hst)
    have he : e = .setupDataCall (.resultInfo answer) := by
      obtain ⟨hi, -⟩ | ⟨-, -, hi, -⟩ := EventQueue.next_eq_some_iff.mp hnext
      · cases himm.symm.trans hi
      · exact (List.cons.inj (hready.symm.trans hi)).1.symm
    subst he
    have hmem := ht.active_complete hstate
    obtain ⟨answer', heq, hflag, hs⟩ := hrespected.complete _ ((hsignal _).mpr hmem)
    obtain rfl : answer = answer' := by simpa using heq
    rcases hforeign with hf | hf
    · exact hf hflag
    · exact absurd hs (hf ▸ Bool.false_ne_true)
  · intro hno
    refine ⟨fun info hinfo => ?_, ?_⟩
    · obtain ⟨hstate, answer, rfl⟩ := ht.complete_inv ((hsignal info).mp hinfo)
      have hstate' : m.control.state = some .active := hstate
      refine ⟨answer, rfl, ?_⟩
      obtain ⟨hi, -⟩ | ⟨himm, -, hready, -⟩ := EventQueue.next_eq_some_iff.mp hnext
      · have hmem : .setupDataCall (.resultInfo answer) ∈ m.control.queue.immediate :=
          hi ▸ List.mem_cons_self
        rcases hw.immediate (by simp [hstate']) _ hmem with hd | ⟨info', heq, hreplay⟩
        · cases hd
        · obtain rfl : answer = info' := by simpa using heq
          exact ⟨hreplay.flag, hreplay.succeeds⟩
      · by_contra hbad
        refine hno ⟨decide_eq_true ((hm.isState_iff _).mpr hstate'), himm, answer, _, hready, ?_⟩
        rw [not_and_or, Bool.not_eq_true] at hbad
        exact hbad
    · rintro answer rfl hflag
      obtain ⟨q', hq', rfl⟩ := dispatch_eq_some h
      exact foreign_answer_keeps (hm.withQueue q') hflag

/-! An attempt that timed out is answered while the next one is connected -/

/-- The first request is not answered, the second one is, and its answer waits to be replayed. -/
def connectedInputs : List Input :=
  let env currentTime : MachineEnv := { currentTime, currentApn := fun _ => some {} }
  let connect := Input.post (.connect ⟨.default_, 0, .other 0, true, false, false⟩)
  [.dispatch (env 0), connect, .dispatch (env 0), .fire 0, .dispatch (env 180000), connect,
    .dispatch (env 190000),
    .post (.setupDataCall (.resultInfo { cid := 2, flag := 2, active := 1 })),
    .dispatch (env 190000)]

theorem answerRespected_connected : ∃ m e m', system.run connectedInputs create = some m ∧
    m.dispatch {} = some (e, m') ∧ AnswerRespected m e m' := by
  have hinit : system.Reachable create := .init rfl
  have hrun : ∀ m, system.run connectedInputs create = some m → system.Reachable m :=
    fun _ => hinit.run
  refine ⟨_, _, _, rfl, rfl, (answerRespected_iff (hrun _ rfl) rfl).mpr fun h => ?_⟩
  cases h.2.1

def lateAnswer : SetupDataCallResultInfo := { cid := 1, flag := 1, active := 1 }

/-- The answer to the first request then completes the second one. -/
theorem late_answer_completes : ∃ m e m',
    system.run (connectedInputs ++
        [.dispatch {}, .post (.setupDataCall (.resultInfo lateAnswer))]) create = some m ∧
      m.dispatch {} = some (e, m') ∧ m.data.connectId = 2 ∧ m.data.cid = 2 ∧
      m'.data.outbox = [.establishDataConnectionComplete
        { lateAnswer with flag := ApnType.default_.id }] ∧ ¬ AnswerRespected m e m' := by
  refine ⟨_, _, _, rfl, rfl, by decide, by decide, by decide, fun h => ?_⟩
  obtain ⟨answer, heq, hflag, -⟩ :=
    h.complete { lateAnswer with flag := ApnType.default_.id } (by decide)
  obtain rfl : lateAnswer = answer := by simpa using heq
  exact absurd hflag (by decide)

end CellularDataStateMachine
end CellularData
