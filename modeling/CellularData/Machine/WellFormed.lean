import CellularData.Machine.Transition

/-! What every connection machine keeps, whatever is sent to it and in whatever order. -/
namespace CellularData
open Lib StateMachine

/-- Timers that a machine sets for itself. -/
def MachineEvent.isTimer : MachineEvent → Bool
  | .connectTimeoutCheck _ | .disconnectTimeoutCheck _ => true
  | _ => false

/-- Events that others may send to a machine that lives. -/
def MachineEvent.isMessage (e : MachineEvent) : Bool :=
  e ≠ .stateMachineInit && e ≠ .stateMachineQuit && !e.isTimer

namespace Control

variable {env : MachineEnv} {c c' : Control} {e : MachineEvent} {os : List MachineOutput}

/-- The answer that completed the attempt waits to be replayed. -/
structure Replays (c : Control) (info : SetupDataCallResultInfo) : Prop where
  state : c.state = some .active ∨ c.state = some .disconnecting
  flag : info.flag = c.connectId
  succeeds : setupSucceeds info = true
  cid : info.cid = c.cid

def IsReplay (c : Control) (e : MachineEvent) : Prop :=
  ∃ info, e = .setupDataCall (.resultInfo info) ∧ c.Replays info

structure WellFormed (c : Control) : Prop where
  leaf : c.state ≠ some .default_
  boot : c.state = none → c.queue.immediate = [.stateMachineInit]
  immediate : c.state ≠ none → ∀ e ∈ c.queue.immediate, e.isDeferrable = true ∨ c.IsReplay e
  deferred : ∀ e ∈ c.deferred, e.isDeferrable = true
  idle : c.state ≠ some .activating → c.state ≠ some .disconnecting → c.deferred = []
  ready : ∀ e ∈ c.queue.ready, e.isMessage = true ∨ e.isTimer = true
  delayed : ∀ e ∈ c.queue.delayed, e.isTimer = true

def post (c : Control) (e : MachineEvent) : Control := { c with queue := c.queue.sendEvent e }

/-- The disconnect timer of a machine whose interface goes down is set again. -/
def rearm (c : Control) : Control :=
  { c with
    queue := (c.queue.removeEvent CellularDataStateMachine.isDisconnectTimeoutCheck).sendEventAfter
      (.disconnectTimeoutCheck c.connectId) interfaceDownTimeout }

/-- The ways in which a machine changes. -/
inductive Move (c : Control) : Control → Prop
  | post {e : MachineEvent} (he : e.isMessage = true) : Move c (c.post e)
  | dispatch {env : MachineEnv} {e : MachineEvent} {q : EventQueue MachineEvent} {c' : Control}
      {os : List MachineOutput} (hnext : c.queue.next = some (e, q))
      (ht : Transition env { c with queue := q } e c' os) : Move c c'
  | fire {i : Nat} {q : EventQueue MachineEvent} (h : c.queue.expire i = some q) :
      Move c { c with queue := q }
  | rearm : Move c c.rearm

theorem create_wellFormed : CellularDataStateMachine.create.control.WellFormed := by
  constructor <;> simp [CellularDataStateMachine.control, CellularDataStateMachine.create]

/-! The event that is taken -/

/-- Where the next event comes from. -/
theorem next_cases {q : EventQueue MachineEvent} (hnext : c.queue.next = some (e, q)) :
    (e ∈ c.queue.immediate ∨ e ∈ c.queue.ready ∧ c.queue.immediate = [] ∧ q.immediate = []) ∧
      (∀ x ∈ q.immediate, x ∈ c.queue.immediate) ∧ (∀ x ∈ q.ready, x ∈ c.queue.ready) ∧
      q.delayed = c.queue.delayed := by
  obtain ⟨himm, hready, hdelayed⟩ | ⟨himm, hq, hready, hdelayed⟩ :=
    EventQueue.next_eq_some_iff.mp hnext
  · refine ⟨.inl (himm ▸ List.mem_cons_self), fun x hx => himm ▸ List.mem_cons_of_mem _ hx,
      fun x hx => hready ▸ hx, hdelayed.symm⟩
  · refine ⟨.inr ⟨hready ▸ List.mem_cons_self, himm, hq⟩, fun x hx => by simp [hq] at hx,
      fun x hx => hready ▸ List.mem_cons_of_mem _ hx, hdelayed.symm⟩

/-- An event that is neither deferrable nor replayed comes from the queue. -/
theorem WellFormed.immediate_nil {q : EventQueue MachineEvent} (hw : c.WellFormed)
    (hstate : c.state ≠ none) (hnext : c.queue.next = some (e, q))
    (hd : e.isDeferrable = false) (hr : ¬ c.IsReplay e) :
    c.queue.immediate = [] ∧ q.immediate = [] := by
  obtain ⟨hmem | ⟨-, himm, hq⟩, -⟩ := next_cases hnext
  · rcases hw.immediate hstate e hmem with h | h
    · exact absurd h (hd ▸ Bool.false_ne_true)
    · exact absurd h hr
  · exact ⟨himm, hq⟩

/-- The queue of a well-formed machine after the next event has been taken. -/
structure Taken (c : Control) (e : MachineEvent) (q : EventQueue MachineEvent) : Prop where
  leaf : c.state ≠ some .default_
  boot : c.state = none → e = .stateMachineInit ∧ q.immediate = []
  immediate : c.state ≠ none → ∀ x ∈ q.immediate, x.isDeferrable = true ∨ c.IsReplay x
  deferred : ∀ x ∈ c.deferred, x.isDeferrable = true
  idle : c.state ≠ some .activating → c.state ≠ some .disconnecting → c.deferred = []
  ready : ∀ x ∈ q.ready, x.isMessage = true ∨ x.isTimer = true
  delayed : ∀ x ∈ q.delayed, x.isTimer = true
  alone : c.state ≠ none → e.isDeferrable = false → ¬ c.IsReplay e → q.immediate = []

theorem WellFormed.taken {q : EventQueue MachineEvent} (hw : c.WellFormed)
    (hnext : c.queue.next = some (e, q)) : c.Taken e q := by
  obtain ⟨hfrom, himm, hready, hdelayed⟩ := next_cases hnext
  refine ⟨hw.leaf, fun h => ?_, fun h x hx => hw.immediate h x (himm x hx), hw.deferred, hw.idle,
    fun x hx => hw.ready x (hready x hx), fun x hx => hw.delayed x (hdelayed ▸ hx),
    fun h hd hr => (hw.immediate_nil h hnext hd hr).2⟩
  obtain ⟨q0, -, -⟩ | ⟨q0, -, -, -⟩ := EventQueue.next_eq_some_iff.mp hnext
  · rw [hw.boot h] at q0
    injection q0 with h1 h2
    exact ⟨h1.symm, h2.symm⟩
  · simp [hw.boot h] at q0

/-- A state that has just been entered has nothing deferred. -/
theorem wellFormed_of_entered {st : ConnState} (hstate : c.state = some st) (hst : st ≠ .default_)
    (hdef : c.deferred = []) (himm : ∀ x ∈ c.queue.immediate, x.isDeferrable = true ∨ c.IsReplay x)
    (hready : ∀ x ∈ c.queue.ready, x.isMessage = true ∨ x.isTimer = true)
    (hdelayed : ∀ x ∈ c.queue.delayed, x.isTimer = true) : c.WellFormed where
  leaf := by
    rw [hstate]
    exact fun h => hst (Option.some.inj h)
  boot h := by simp [hstate] at h
  immediate _ := himm
  deferred x hx := by simp [hdef] at hx
  idle _ _ := hdef
  ready := hready
  delayed := hdelayed

theorem IsReplay.of_eq {x : MachineEvent} (h : c.IsReplay x)
    (hstate : c'.state = some .active ∨ c'.state = some .disconnecting)
    (hid : c'.connectId = c.connectId) (hcid : c'.cid = c.cid) : c'.IsReplay x := by
  obtain ⟨info, rfl, hr⟩ := h
  exact ⟨info, rfl, hstate, hr.flag.trans hid.symm, hr.succeeds, hr.cid.trans hcid.symm⟩

theorem IsReplay.state {x : MachineEvent} (h : c.IsReplay x) :
    c.state = some .active ∨ c.state = some .disconnecting := by
  obtain ⟨info, -, hr⟩ := h
  exact hr.state

/-- In `Inactive` everything that has been deferred is delivered next. -/
theorem wellFormed_of_ended {q : EventQueue MachineEvent} {st : ConnState} (ht : c.Taken e q)
    (hst : c.state = some st) (hq : q.immediate = [] ∨ st = .activating)
    (hstate : c'.state = some .inactive) (hdef : c'.deferred = [])
    (himm : ∀ x ∈ c'.queue.immediate, x ∈ q.immediate ∨ x ∈ c.deferred)
    (hready : ∀ x ∈ c'.queue.ready, x ∈ q.ready)
    (hdelayed : ∀ x ∈ c'.queue.delayed, x ∈ q.delayed) : c'.WellFormed := by
  refine wellFormed_of_entered hstate (by decide) hdef (fun x hx => ?_)
    (fun x hx => ht.ready x (hready x hx)) (fun x hx => ht.delayed x (hdelayed x hx))
  rcases himm x hx with h | h
  · rcases hq with hq | hq
    · simp [hq] at h
    · rcases ht.immediate (by simp [hst]) x h with h | h
      · exact .inl h
      · simpa [hst, hq] using h.state
  · exact .inl (ht.deferred x h)

/-- Connecting sets at most the connect timer. -/
theorem connect_eq (env : MachineEnv) (c : Control) (params : DataConnectionParams) :
    ∃ startTime delayed, c.connect env params =
        { c with apnId := params.apnHolder.id, startTime,
                 queue := { c.queue with delayed } }.moveTo .activating ∧
      (delayed = c.queue.delayed ∧ env.currentApn params.apnHolder = none ∨
        delayed = c.queue.delayed ++ [.connectTimeoutCheck c.connectId]) := by
  unfold connect
  cases happn : env.currentApn params.apnHolder with
  | none => exact ⟨_, _, rfl, .inl ⟨rfl, rfl⟩⟩
  | some apn => exact ⟨_, _, rfl, .inr rfl⟩

theorem disconnect_eq (c : Control) (params : DataDisconnectParams) :
    (c.disconnect params).1 =
      { c with
        resultInfo := some { reason := disconnReasonPdpError params.reason }
        queue := { c.queue with delayed :=
          c.queue.delayed ++ [MachineEvent.disconnectTimeoutCheck c.connectId] } }.moveTo
            .disconnecting := rfl

theorem WellFormed.transition {q : EventQueue MachineEvent} (hw : c.WellFormed)
    (hnext : c.queue.next = some (e, q)) (ht : Transition env { c with queue := q } e c' os) :
    c'.WellFormed := by
  have htaken := hw.taken hnext
  have ⟨hleaf, hboot, himm, hdef, hidle, hready, hdelayed, halone⟩ := htaken
  have hquiet : ∀ {st : ConnState}, c.state = some st → e.isRelease = true ∨ e.isLoss = true →
      q.immediate = [] := by
    intro st hst he
    refine halone (by simp [hst]) ?_ ?_
    · rcases he with he | he
      · cases e <;> first | rfl | cases he
      · cases e <;> first | rfl | cases he
    · rintro ⟨info, rfl, -⟩
      rcases he with he | he <;> cases he
  cases ht with
  | ignore h =>
    refine ⟨hleaf, fun hn => ?_, fun hn x hx => (himm hn x hx).imp_right fun h =>
      h.of_eq h.state rfl rfl, hdef, hidle, hready, hdelayed⟩
    have hn' : c.state = none := hn
    rw [(hboot hn').1] at h
    simp [takes, hn'] at h
  | boot h =>
    have hn : c.state = none := h
    refine wellFormed_of_entered rfl (by decide) (hidle (by simp [hn]) (by simp [hn])) ?_ hready
      hdelayed
    intro x hx
    simp [Control.boot, (hboot hn).2] at hx
  | connect h =>
    have hn : c.state = some .inactive := h
    obtain ⟨startTime, delayed, heq, htimer⟩ := connect_eq env { c with queue := q } ‹_›
    rw [heq]
    refine wellFormed_of_entered rfl (by decide) rfl (fun x hx => ?_) hready (fun x hx => ?_)
    · have hx' : x ∈ q.immediate := by
        simpa [moveTo, hidle (by simp [hn]) (by simp [hn])] using hx
      exact (himm (by simp [hn]) x hx').imp_right fun h => by simpa [hn] using h.state
    · have hx' : x ∈ delayed := hx
      rcases htimer with ⟨rfl, -⟩ | rfl
      · exact hdelayed x hx'
      · rcases List.mem_append.mp hx' with hx' | hx'
        · exact hdelayed x hx'
        · exact List.mem_singleton.mp hx' ▸ rfl
  | defer h he =>
    have hn : c.state ≠ none := by rcases h with h | h <;> exact fun hc => by simp [hc] at h
    refine ⟨hleaf, fun hc => absurd hc hn, fun _ x hx => (himm hn x hx).imp_right fun h =>
      h.of_eq h.state rfl rfl, ?_, fun h1 h2 => absurd h (not_or.mpr ⟨h1, h2⟩), hready, hdelayed⟩
    intro x hx
    rcases List.mem_append.mp hx with hx | hx
    · exact hdef x hx
    · exact List.mem_singleton.mp hx ▸ he
  | accept h hflag hs =>
    have hn : c.state = some .activating := h
    refine wellFormed_of_entered rfl (by decide) rfl (fun x hx => ?_) hready hdelayed
    rcases List.mem_append.mp hx with hx | hx
    · exact (himm (by simp [hn]) x hx).imp_right fun h => by simpa [hn] using h.state
    · rcases List.mem_append.mp hx with hx | hx
      · exact .inl (hdef x hx)
      · exact .inr ⟨_, List.mem_singleton.mp hx, .inl rfl, hflag, hs, rfl⟩
  | fail h =>
    exact wellFormed_of_ended htaken h (.inr rfl) rfl rfl (fun x hx => List.mem_append.mp hx)
      (fun x hx => hx) (fun x hx => hx)
  | abandon h =>
    exact wellFormed_of_ended htaken h (.inr rfl) rfl rfl (fun x hx => List.mem_append.mp hx)
      (fun x hx => hx) (fun x hx => hx)
  | complete h =>
    have hn : c.state = some .active := h
    refine wellFormed_of_entered hn (by decide) (hidle (by simp [hn]) (by simp [hn]))
      (fun x hx => ?_) (fun x hx => hready x (List.mem_filter.mp hx).1)
      (fun x hx => hdelayed x (List.mem_filter.mp hx).1)
    exact (himm (by simp [hn]) x (List.mem_filter.mp hx).1).imp_right fun h =>
      h.of_eq h.state rfl rfl
  | disconnect h he =>
    have hn : c.state = some .active := h
    rw [disconnect_eq]
    refine wellFormed_of_entered rfl (by decide) rfl (fun x hx => ?_) hready (fun x hx => ?_)
    · have hx' : x ∈ q.immediate := by
        simpa [moveTo, hidle (by simp [hn]) (by simp [hn])] using hx
      exact (himm (by simp [hn]) x hx').imp_right fun h => h.of_eq (.inr rfl) rfl rfl
    · rcases List.mem_append.mp hx with hx' | hx'
      · exact hdelayed x hx'
      · exact List.mem_singleton.mp hx' ▸ rfl
  | lose h he =>
    exact wellFormed_of_ended htaken h (.inl (hquiet h (.inr he))) rfl rfl
      (fun x hx => List.mem_append.mp hx) (fun x hx => hx) (fun x hx => hx)
  | finish h he =>
    exact wellFormed_of_ended htaken h (.inl (hquiet h (.inl he))) rfl rfl
      (fun x hx => List.mem_append.mp hx) (fun x hx => hx) (fun x hx => hx)
  | release h he =>
    refine wellFormed_of_ended htaken h (.inl (hquiet h (.inl he))) rfl rfl (fun x hx => ?_)
      (fun x hx => (List.mem_filter.mp hx).1) (fun x hx => (List.mem_filter.mp hx).1)
    exact (List.mem_append.mp hx).imp_left fun h => (List.mem_filter.mp h).1

theorem WellFormed.of_queue {q : EventQueue MachineEvent} (hw : c.WellFormed)
    (himm : q.immediate = c.queue.immediate)
    (hready : ∀ x ∈ q.ready, x.isMessage = true ∨ x.isTimer = true)
    (hdelayed : ∀ x ∈ q.delayed, x.isTimer = true) : WellFormed { c with queue := q } where
  leaf := hw.leaf
  boot h := himm.trans (hw.boot h)
  immediate h x hx := (hw.immediate h x (himm ▸ hx)).imp_right fun h => h.of_eq h.state rfl rfl
  deferred := hw.deferred
  idle := hw.idle
  ready := hready
  delayed := hdelayed

/-- No timer is among the immediate events. -/
theorem WellFormed.immediate_isTimer (hw : c.WellFormed) :
    ∀ x ∈ c.queue.immediate, x.isTimer = false := by
  intro x hx
  by_cases hn : c.state = none
  · rw [hw.boot hn] at hx
    exact List.mem_singleton.mp hx ▸ rfl
  · rcases hw.immediate hn x hx with h | ⟨info, rfl, -⟩
    · cases x <;> first | rfl | cases h
    · rfl

theorem isTimer_of_disconnectTimeoutCheck {x : MachineEvent}
    (h : CellularDataStateMachine.isDisconnectTimeoutCheck x = true) : x.isTimer = true := by
  cases x <;> first | rfl | cases h

theorem WellFormed.move (hw : c.WellFormed) (h : Move c c') : c'.WellFormed := by
  cases h with
  | post he =>
    refine hw.of_queue rfl (fun x hx => ?_) hw.delayed
    rcases List.mem_append.mp hx with hx | hx
    · exact hw.ready x hx
    · exact .inl (List.mem_singleton.mp hx ▸ he)
  | dispatch hnext ht => exact hw.transition hnext ht
  | fire h =>
    obtain ⟨y, hy, rfl⟩ := EventQueue.expire_eq_some_iff.mp h
    refine hw.of_queue rfl (fun x hx => ?_) fun x hx => hw.delayed x (List.mem_of_mem_eraseIdx hx)
    rcases List.mem_append.mp hx with hx | hx
    · exact hw.ready x hx
    · exact .inr (List.mem_singleton.mp hx ▸ hw.delayed y (List.mem_of_getElem? hy))
  | rearm =>
    refine hw.of_queue (List.filter_eq_self.mpr fun x hx => ?_)
      (fun x hx => hw.ready x (List.mem_filter.mp hx).1) (fun x hx => ?_)
    · rw [Bool.not_eq_true', ← Bool.not_eq_true]
      intro h
      have hno := hw.immediate_isTimer x hx
      rw [isTimer_of_disconnectTimeoutCheck h] at hno
      exact absurd hno.symm Bool.false_ne_true
    · rcases List.mem_append.mp hx with hx | hx
      · exact hw.delayed x (List.mem_filter.mp hx).1
      · exact List.mem_singleton.mp hx ▸ rfl

end Control
end CellularData
