import CellularData.Machine.System

/-! The attempt a machine works on: from the request in its queue to the report of its end. -/
namespace CellularData
open Lib StateMachine

/-- The APN id that a request carries. -/
def MachineEvent.requestId : MachineEvent → Option Int
  | .connect params => some params.apnHolder.id
  | _ => none

theorem MachineEvent.requestId_eq_none {e : MachineEvent} (h : e.isConnect = false) :
    e.requestId = none := by
  cases e <;> first | rfl | cases h

namespace Control

variable {env : MachineEnv} {c c' : Control} {e : MachineEvent} {os : List MachineOutput}
  {q : EventQueue MachineEvent}

/-- The APN id the machine works for, or will work for once it takes the request in its queue. -/
def attempt (c : Control) : Option Int :=
  if c.isBusy then some c.apnId else c.queue.ready.findSome? MachineEvent.requestId

/-- Events behind the first request. -/
def afterRequest : List MachineEvent → List MachineEvent
  | [] => []
  | e :: es => if e.isConnect then es else afterRequest es

/-- Events that the attempt still has to process. -/
def upcoming (c : Control) : List MachineEvent :=
  if c.isBusy then c.queue.immediate ++ c.deferred ++ c.queue.ready else afterRequest c.queue.ready

/-- The attempt is going to be ended. -/
def Due (c : Control) : Prop :=
  c.state = some .disconnecting ∨ ∃ e ∈ c.upcoming, e.isDisconnect = true

/-- The attempt has not been reported as complete. -/
def Waits (c : Control) : Prop :=
  c.isBusy = false ∨ c.state = some .activating ∨
    c.state = some .active ∧ ∃ e ∈ c.queue.immediate, c.IsReplay e

/-- No second request is on its way. -/
structure Single (c : Control) : Prop where
  immediate : ∀ e ∈ c.queue.immediate, e.isConnect = false
  upcoming : ∀ e ∈ c.upcoming, e.isConnect = false
  ready : .getLastFailDone ∉ c.queue.ready

theorem isBusy_iff : c.isBusy = true ↔
    c.state = some .activating ∨ c.state = some .active ∨ c.state = some .disconnecting := by
  simp [isBusy, or_assoc]

theorem isBusy_congr (h : c'.state = c.state) : c'.isBusy = c.isBusy := by
  simp only [isBusy, h]

theorem attempt_busy (h : c.isBusy = true) : c.attempt = some c.apnId := if_pos h

theorem attempt_idle (h : c.isBusy = false) :
    c.attempt = c.queue.ready.findSome? MachineEvent.requestId := by
  simp only [attempt, h, Bool.false_eq_true, if_false]

theorem upcoming_busy (h : c.isBusy = true) :
    c.upcoming = c.queue.immediate ++ c.deferred ++ c.queue.ready := if_pos h

theorem upcoming_idle (h : c.isBusy = false) : c.upcoming = afterRequest c.queue.ready := by
  simp only [upcoming, h, Bool.false_eq_true, if_false]

theorem afterRequest_subset (l : List MachineEvent) : afterRequest l ⊆ l := by
  induction l with
  | nil => exact fun _ h => h
  | cons e l ih =>
    simp only [afterRequest]
    split_ifs
    · exact List.subset_cons_self e l
    · exact fun x hx => List.mem_cons_of_mem e (ih hx)

theorem findSome?_requestId_eq_none {l : List MachineEvent}
    (h : l.findSome? MachineEvent.requestId = none) : ∀ e ∈ l, e.isConnect = false := by
  intro e he
  have hnone := List.findSome?_eq_none_iff.mp h e he
  cases e <;> first | rfl | cases hnone

theorem afterRequest_append {l : List MachineEvent} (r : List MachineEvent) :
    afterRequest (l ++ r) = match l.findSome? MachineEvent.requestId with
      | some _ => afterRequest l ++ r
      | none => afterRequest r := by
  induction l with
  | nil => rfl
  | cons x l ih =>
    cases x with
    | connect params => rfl
    | _ => exact ih

/-- A request in the queue is the one the machine will work for. -/
theorem afterRequest_spec {l : List MachineEvent} (h : ∀ e ∈ afterRequest l, e.isConnect = false)
    {params : DataConnectionParams} (hmem : .connect params ∈ l) :
    l.findSome? MachineEvent.requestId = some params.apnHolder.id := by
  induction l with
  | nil => cases hmem
  | cons e l ih =>
    cases he : e.isConnect with
    | true =>
      simp only [afterRequest, he, if_true] at h
      rcases List.mem_cons.mp hmem with rfl | hmem
      · rfl
      · cases h _ hmem
    | false =>
      simp only [afterRequest, he, Bool.false_eq_true, if_false] at h
      rcases List.mem_cons.mp hmem with rfl | hmem
      · cases he
      · simp only [List.findSome?_cons, MachineEvent.requestId_eq_none he]
        exact ih h hmem

/-! Changes that the attempt does not depend on -/

/-- Events that begin or end an attempt. -/
def isStrong (e : MachineEvent) : Bool := e.isConnect || e.isDisconnect || e = .getLastFailDone

theorem isStrong_of_isConnect (h : e.isConnect = true) : isStrong e = true := by
  simp only [isStrong, h, Bool.true_or]

theorem isStrong_of_isDisconnect (h : e.isDisconnect = true) : isStrong e = true := by
  simp only [isStrong, h, Bool.true_or, Bool.or_true]

theorem findSome?_filter_isStrong (l : List MachineEvent) :
    (l.filter isStrong).findSome? MachineEvent.requestId = l.findSome? MachineEvent.requestId := by
  induction l with
  | nil => rfl
  | cons e l ih =>
    cases he : isStrong e with
    | true => simp only [List.filter_cons, he, if_true, List.findSome?_cons, ih]
    | false =>
      have hno : e.isConnect = false := by
        rw [← Bool.not_eq_true]
        exact fun h => Bool.false_ne_true (he.symm.trans (isStrong_of_isConnect h))
      simp only [List.filter_cons, he, Bool.false_eq_true, if_false, List.findSome?_cons,
        MachineEvent.requestId_eq_none hno, ih]

theorem afterRequest_filter_isStrong (l : List MachineEvent) :
    afterRequest (l.filter isStrong) = (afterRequest l).filter isStrong := by
  induction l with
  | nil => rfl
  | cons e l ih =>
    cases he : e.isConnect with
    | true =>
      simp only [List.filter_cons, isStrong_of_isConnect he, if_true, afterRequest, he]
    | false =>
      cases hs : isStrong e with
      | true => simp only [List.filter_cons, hs, if_true, afterRequest, he, Bool.false_eq_true,
          if_false, ih]
      | false => simp only [List.filter_cons, hs, afterRequest, he, Bool.false_eq_true,
          if_false, ih]

/-- `c'` has the same strong events and the same replays as `c`. -/
structure Same (c c' : Control) : Prop where
  state : c'.state = c.state
  apnId : c'.apnId = c.apnId
  immediate : c'.queue.immediate.filter isStrong = c.queue.immediate.filter isStrong
  deferred : c'.deferred = c.deferred
  ready : c'.queue.ready.filter isStrong = c.queue.ready.filter isStrong
  replay : ∀ e ∈ c.queue.immediate, c.IsReplay e → e ∈ c'.queue.immediate ∧ c'.IsReplay e

namespace Same

theorem attempt (h : Same c c') : c'.attempt = c.attempt := by
  cases hb : c.isBusy with
  | true => rw [attempt_busy hb, attempt_busy ((isBusy_congr h.state).trans hb), h.apnId]
  | false =>
    rw [attempt_idle hb, attempt_idle ((isBusy_congr h.state).trans hb),
      ← findSome?_filter_isStrong, h.ready, findSome?_filter_isStrong]

theorem upcoming (h : Same c c') :
    c'.upcoming.filter isStrong = c.upcoming.filter isStrong := by
  cases hb : c.isBusy with
  | true =>
    rw [upcoming_busy hb, upcoming_busy ((isBusy_congr h.state).trans hb)]
    simp only [List.filter_append, h.immediate, h.deferred, h.ready]
  | false =>
    rw [upcoming_idle hb, upcoming_idle ((isBusy_congr h.state).trans hb),
      ← afterRequest_filter_isStrong, h.ready, afterRequest_filter_isStrong]

theorem mem_upcoming (h : Same c c') {x : MachineEvent} (hx : isStrong x = true) :
    x ∈ c'.upcoming ↔ x ∈ c.upcoming := by
  have hmem : x ∈ c'.upcoming.filter isStrong ↔ x ∈ c.upcoming.filter isStrong := by
    rw [h.upcoming]
  simpa only [List.mem_filter, hx, and_true] using hmem

theorem due (h : Same c c') : c'.Due ↔ c.Due := by
  unfold Due
  rw [h.state]
  refine or_congr Iff.rfl ⟨?_, ?_⟩
  · rintro ⟨x, hx, hd⟩
    exact ⟨x, (h.mem_upcoming (isStrong_of_isDisconnect hd)).mp hx, hd⟩
  · rintro ⟨x, hx, hd⟩
    exact ⟨x, (h.mem_upcoming (isStrong_of_isDisconnect hd)).mpr hx, hd⟩

theorem waits (h : Same c c') (hw : c.Waits) : c'.Waits := by
  rcases hw with hb | hst | ⟨hst, x, hx, hr⟩
  · exact .inl ((isBusy_congr h.state).trans hb)
  · exact .inr (.inl (h.state.trans hst))
  · exact .inr (.inr ⟨h.state.trans hst, x, h.replay x hx hr⟩)

theorem single (h : Same c c') (hs : c.Single) : c'.Single where
  immediate x hx := by
    by_contra hno
    rw [Bool.not_eq_false] at hno
    have hmem : x ∈ c'.queue.immediate.filter isStrong :=
      List.mem_filter.mpr ⟨hx, isStrong_of_isConnect hno⟩
    rw [h.immediate] at hmem
    exact absurd hno (by simp [hs.immediate x (List.mem_filter.mp hmem).1])
  upcoming x hx := by
    by_contra hno
    rw [Bool.not_eq_false] at hno
    have hmem := (h.mem_upcoming (isStrong_of_isConnect hno)).mp hx
    exact absurd hno (by simp [hs.upcoming x hmem])
  ready hx := by
    have hmem : .getLastFailDone ∈ c'.queue.ready.filter isStrong :=
      List.mem_filter.mpr ⟨hx, rfl⟩
    rw [h.ready] at hmem
    exact hs.ready (List.mem_filter.mp hmem).1

end Same

theorem filter_isStrong_removed {p : MachineEvent → Bool} (hp : ∀ e, p e = true → isStrong e = false)
    (l : List MachineEvent) : (l.filter fun e => !p e).filter isStrong = l.filter isStrong := by
  rw [List.filter_filter]
  refine List.filter_congr fun e _ => ?_
  cases he : p e with
  | true => simp [hp e he]
  | false => simp

theorem isStrong_of_isTimer (h : e.isTimer = true) : isStrong e = false := by
  cases e <;> first | rfl | cases h

/-- An event that is neither strong nor expected is queued. -/
theorem same_post (h : isStrong e = false) : Same c (c.post e) where
  state := rfl
  apnId := rfl
  immediate := rfl
  deferred := rfl
  ready := by
    simp only [post, EventQueue.sendEvent_ready, List.filter_append, List.filter_singleton, h,
      cond_false, List.append_nil]
  replay x hx hr := ⟨hx, hr.of_eq hr.state rfl rfl⟩

theorem same_fire (hw : c.WellFormed) {i : Nat} (h : c.queue.expire i = some q) :
    Same c { c with queue := q } := by
  obtain ⟨x, hx, rfl⟩ := EventQueue.expire_eq_some_iff.mp h
  refine ⟨rfl, rfl, rfl, rfl, ?_, fun e he hr => ⟨he, hr.of_eq hr.state rfl rfl⟩⟩
  have hquiet := isStrong_of_isTimer (hw.delayed x (List.mem_of_getElem? hx))
  simp only [List.filter_append, List.filter_singleton, hquiet, cond_false, List.append_nil]

/-- Timers are taken from the queue. -/
theorem same_removeEvent {p : MachineEvent → Bool} (hp : ∀ e, p e = true → e.isTimer = true) :
    Same c { c with queue := c.queue.removeEvent p } where
  state := rfl
  apnId := rfl
  immediate := filter_isStrong_removed (fun e he => isStrong_of_isTimer (hp e he)) _
  deferred := rfl
  ready := filter_isStrong_removed (fun e he => isStrong_of_isTimer (hp e he)) _
  replay x hx hr := by
    refine ⟨List.mem_filter.mpr ⟨hx, ?_⟩, hr.of_eq hr.state rfl rfl⟩
    obtain ⟨info, rfl, -⟩ := hr
    cases h : p (.setupDataCall (.resultInfo info)) with
    | true => cases hp _ h
    | false => rfl

theorem same_rearm : Same c c.rearm := by
  have hremove : Same c { c with
      queue := c.queue.removeEvent CellularDataStateMachine.isDisconnectTimeoutCheck } :=
    same_removeEvent fun _ => isTimer_of_disconnectTimeoutCheck
  exact ⟨rfl, rfl, hremove.immediate, rfl, hremove.ready, fun x hx hr =>
    ⟨(hremove.replay x hx hr).1, hr.of_eq hr.state rfl rfl⟩⟩

/-! Taking an event -/

/-- What taking an event that is no request leaves of the attempt. -/
structure Took (c : Control) (e : MachineEvent) (c₁ : Control) : Prop where
  attempt : c₁.attempt = c.attempt
  single : c₁.Single
  idle : c.isBusy = false → c₁.upcoming = c.upcoming
  busy : c.isBusy = true → ∀ x, x ∈ c.upcoming ↔ x = e ∨ x ∈ c₁.upcoming

theorem Single.took (hs : c.Single) (hnext : c.queue.next = some (e, q))
    (he : e.isConnect = false) : c.Took e { c with queue := q } := by
  have hbusy : isBusy { c with queue := q } = c.isBusy := rfl
  have himm : ∀ x ∈ q.immediate, x ∈ c.queue.immediate := (next_cases hnext).2.1
  have hready : ∀ x ∈ q.ready, x ∈ c.queue.ready := (next_cases hnext).2.2.1
  have hfirst : c.queue.ready = q.ready ∨ c.queue.ready = e :: q.ready := by
    obtain ⟨-, h, -⟩ | ⟨-, -, h, -⟩ := EventQueue.next_eq_some_iff.mp hnext
    · exact .inl h
    · exact .inr h
  have hidle : c.isBusy = false → Control.upcoming { c with queue := q } = c.upcoming := by
    intro h
    rw [upcoming_idle h, upcoming_idle (hbusy.trans h)]
    rcases hfirst with h | h
    · rw [h]
    · rw [h, afterRequest, he]
      rfl
  have hmem : c.isBusy = true →
      ∀ x, x ∈ c.upcoming ↔ x = e ∨ x ∈ Control.upcoming { c with queue := q } := by
    intro h x
    rw [upcoming_busy h, upcoming_busy (hbusy.trans h)]
    obtain ⟨hi, hr, -⟩ | ⟨hi, hq, hr, -⟩ := EventQueue.next_eq_some_iff.mp hnext
    · simp only [hi, hr, List.cons_append, List.mem_cons]
    · simp only [hi, hq, hr, List.nil_append, List.mem_append, List.mem_cons]
      exact or_left_comm
  refine ⟨?_, ⟨fun x hx => hs.immediate x (himm x hx), fun x hx => ?_,
    fun h => hs.ready (hready _ h)⟩, hidle, hmem⟩
  · cases hb : c.isBusy with
    | true => rw [attempt_busy hb, attempt_busy (hbusy.trans hb)]
    | false =>
      rw [attempt_idle hb, attempt_idle (hbusy.trans hb)]
      rcases hfirst with h | h
      · rw [h]
      · simp only [h, List.findSome?_cons, MachineEvent.requestId_eq_none he]
  · cases hb : c.isBusy with
    | true => exact hs.upcoming x ((hmem hb x).mpr (.inr hx))
    | false => exact hs.upcoming x (hidle hb ▸ hx)

/-- Only an idle machine takes a request, and it takes it from the queue. -/
theorem Single.request (hs : c.Single) (hw : c.WellFormed) (hnext : c.queue.next = some (e, q))
    (he : e.isConnect = true) : c.state = some .inactive ∧ c.queue.immediate = [] ∧
      q.immediate = [] ∧ c.queue.ready = e :: q.ready := by
  obtain ⟨hi, -, -⟩ | ⟨himm, hq, hr, -⟩ := EventQueue.next_eq_some_iff.mp hnext
  · have hno := hs.immediate e (hi ▸ List.mem_cons_self)
    rw [he] at hno
    cases hno
  · refine ⟨?_, himm, hq, hr⟩
    have hidle : c.isBusy = false := by
      by_contra hb
      rw [Bool.not_eq_false] at hb
      have hmem : e ∈ c.upcoming := by
        rw [upcoming_busy hb, hr]
        exact List.mem_append_right _ List.mem_cons_self
      have hno := hs.upcoming e hmem
      rw [he] at hno
      cases hno
    cases hst : c.state with
    | none =>
      rw [hw.boot hst] at himm
      cases himm
    | some st =>
      cases st with
      | inactive => rfl
      | default_ => exact absurd hst hw.leaf
      | _ => simp [isBusy, hst] at hidle

/-! Steps -/

/-- What one event does to the attempt. -/
inductive Progress (c c' : Control) (os : List MachineOutput) : Prop
  | keep (hattempt : c'.attempt = c.attempt) (hdue : c'.Due ↔ c.Due)
      (hwaits : ¬ c.Due → c.Waits → c'.Waits)
      (hcomplete : ∀ info, .establishDataConnectionComplete info ∉ os)
      (hdisconnect : ∀ info, .disconnectDataComplete info ∉ os)
  | complete {info : SetupDataCallResultInfo} (hattempt : c'.attempt = c.attempt)
      (hdue : c'.Due ↔ c.Due) (hos : os = [.establishDataConnectionComplete info])
      (hflag : c.attempt = some info.flag)
  | finish {info : SetupDataCallResultInfo} (hflag : c.attempt = some info.flag)
      (hattempt : c'.attempt = none) (hos : os = [.disconnectDataComplete info])

theorem flag_disconnectInfo (c : Control) : c.disconnectInfo.flag = c.apnId := by
  unfold disconnectInfo
  split <;> rfl

/-- The end of an attempt, where `c₁` is the machine that ends it. -/
theorem Single.endCall {c₁ : Control} (hs : c₁.Single) (hb : c₁.isBusy = true)
    (hattempt : c₁.attempt = c.attempt) :
    c₁.endCall.1.Single ∧ Progress c c₁.endCall.1 c₁.endCall.2 := by
  have hready : ∀ x ∈ c₁.queue.ready, x.isConnect = false := fun x hx =>
    hs.upcoming x (upcoming_busy hb ▸ List.mem_append_right _ hx)
  have hdef : ∀ x ∈ c₁.deferred, x.isConnect = false := fun x hx =>
    hs.upcoming x (upcoming_busy hb ▸ List.mem_append_left _ (List.mem_append_right _ hx))
  have hidle : c₁.endCall.1.isBusy = false := rfl
  refine ⟨⟨fun x hx => ?_, fun x hx => ?_, hs.ready⟩, .finish ?_ ?_ rfl⟩
  · exact (List.mem_append.mp hx).elim (hs.immediate x) (hdef x)
  · rw [upcoming_idle hidle] at hx
    exact hready x (afterRequest_subset _ hx)
  · rw [flag_disconnectInfo, ← hattempt, attempt_busy hb]
  · rw [attempt_idle hidle, List.findSome?_eq_none_iff]
    exact fun x hx => MachineEvent.requestId_eq_none (hready x hx)

theorem Took.due {c₁ : Control} (h : c.Took e c₁) (hstate : c₁.state = c.state)
    (he : c.isBusy = true → e.isDisconnect = false) : c₁.Due ↔ c.Due := by
  unfold Due
  rw [hstate]
  refine or_congr Iff.rfl ?_
  cases hb : c.isBusy with
  | false => rw [h.idle hb]
  | true =>
    constructor
    · rintro ⟨x, hx, hd⟩
      exact ⟨x, (h.busy hb x).mpr (.inr hx), hd⟩
    · rintro ⟨x, hx, hd⟩
      rcases (h.busy hb x).mp hx with rfl | hx
      · rw [he hb] at hd
        cases hd
      · exact ⟨x, hx, hd⟩

/-- Two busy machines with the same upcoming events and the same attempt. -/
theorem due_congr (hst : c'.state = some .disconnecting ↔ c.state = some .disconnecting)
    (h : ∀ x, x ∈ c'.upcoming ↔ x ∈ c.upcoming) : c'.Due ↔ c.Due := by
  unfold Due
  rw [hst]
  simp only [h]

theorem takes_request {params : DataConnectionParams} (h : c.state = some .inactive) :
    c.takes env (.connect params) = true := by
  simp only [takes, h]

theorem takes_disconnect (hb : c.isBusy = true) (he : e.isDisconnect = true) :
    c.takes env e = true := by
  cases e with
  | disconnect params =>
    rcases isBusy_iff.mp hb with h | h | h <;> simp only [takes, h] <;> rfl
  | disconnectAll params =>
    rcases isBusy_iff.mp hb with h | h | h <;> simp only [takes, h] <;> rfl
  | _ => cases he

theorem single_ignore (hs : c.Single) (hw : c.WellFormed) (hnext : c.queue.next = some (e, q))
    (h : takes env { c with queue := q } e = false) :
    Single { c with queue := q } ∧ Progress c { c with queue := q } [] := by
  have he : e.isConnect = false := by
    rw [← Bool.not_eq_true]
    intro he
    have hst := (hs.request hw hnext he).1
    cases e with
    | connect params =>
      rw [takes_request (c := { c with queue := q }) hst] at h
      cases h
    | _ => cases he
  have htook := hs.took hnext he
  refine ⟨htook.single, .keep htook.attempt (htook.due rfl fun hb => ?_) (fun _ hwait => ?_)
    (fun _ h => nomatch h) (fun _ h => nomatch h)⟩
  · rw [← Bool.not_eq_true]
    intro hd
    rw [takes_disconnect (c := { c with queue := q }) hb hd] at h
    cases h
  · rcases hwait with hb | hst | ⟨hst, x, hx, hr⟩
    · exact .inl hb
    · exact .inr (.inl hst)
    · refine .inr (.inr ⟨hst, x, ?_, hr.of_eq hr.state rfl rfl⟩)
      obtain ⟨hi, -, -⟩ | ⟨hi, -, -, -⟩ := EventQueue.next_eq_some_iff.mp hnext
      · rcases List.mem_cons.mp (hi ▸ hx) with rfl | hx
        · obtain ⟨info, rfl, -⟩ := hr
          simp [takes, hst] at h
        · exact hx
      · rw [hi] at hx
        cases hx

/-- The request is the only event in front of those that the attempt has to process. -/
theorem upcoming_connect {params : DataConnectionParams} (hs : c.Single) (hw : c.WellFormed)
    (hnext : c.queue.next = some (.connect params, q)) :
    (connect env { c with queue := q } params).upcoming = c.upcoming := by
  obtain ⟨hst, -, hq, hready⟩ := hs.request hw hnext rfl
  have hdef : c.deferred = [] := hw.idle (by simp [hst]) (by simp [hst])
  obtain ⟨startTime, delayed, heq, -⟩ := connect_eq env { c with queue := q } params
  rw [heq, upcoming_busy rfl, upcoming_idle (by simp [isBusy, hst]), hready]
  simp [moveTo, hq, hdef, afterRequest, MachineEvent.isConnect]

theorem single_connect {params : DataConnectionParams} (hs : c.Single) (hw : c.WellFormed)
    (hnext : c.queue.next = some (.connect params, q)) :
    (connect env { c with queue := q } params).Single ∧
      Progress c (connect env { c with queue := q } params) [] := by
  obtain ⟨hst, -, hq, hready⟩ := hs.request hw hnext rfl
  have hb : c.isBusy = false := by simp [isBusy, hst]
  have hdef : c.deferred = [] := hw.idle (by simp [hst]) (by simp [hst])
  have hup : (connect env { c with queue := q } params).upcoming = c.upcoming :=
    upcoming_connect hs hw hnext
  obtain ⟨startTime, delayed, heq, -⟩ := connect_eq env { c with queue := q } params
  rw [heq] at hup ⊢
  refine ⟨⟨fun x hx => ?_, fun x hx => hs.upcoming x (hup ▸ hx), fun hmem => hs.ready ?_⟩,
    .keep ?_ (due_congr (by simp [hst, moveTo]) fun x => by rw [hup]) (fun _ _ => .inr (.inl rfl))
      (fun _ h => nomatch h) (fun _ h => nomatch h)⟩
  · simp [moveTo, hq, hdef] at hx
  · rw [hready]
    exact List.mem_cons_of_mem _ hmem
  · rw [attempt_busy rfl, attempt_idle hb, hready]
    rfl

theorem single_boot (hs : c.Single) (hnext : c.queue.next = some (.stateMachineInit, q))
    (hst : c.state = none) : Single (Control.boot { c with queue := q }) ∧
      Progress c (Control.boot { c with queue := q }) [] := by
  have hb : c.isBusy = false := by simp [isBusy, hst]
  have htook := hs.took hnext rfl
  have hup : Control.upcoming (Control.boot { c with queue := q }) = c.upcoming := by
    rw [← htook.idle hb, upcoming_idle (c := { c with queue := q }) hb]
    rfl
  refine ⟨⟨htook.single.immediate, fun x hx => hs.upcoming x (hup ▸ hx), htook.single.ready⟩,
    .keep ?_ (due_congr (by simp [hst, Control.boot]) fun x => by rw [hup]) (fun _ _ => .inl rfl)
      (fun _ h => nomatch h) (fun _ h => nomatch h)⟩
  rw [← htook.attempt, attempt_idle (c := { c with queue := q }) hb]
  rfl

theorem single_defer (hs : c.Single) (htook : c.Took e { c with queue := q })
    (h : c.state = some .activating ∨ c.state = some .disconnecting) :
    Single (Control.defer { c with queue := q } e) ∧
      Progress c (Control.defer { c with queue := q } e) [] := by
  have hb : c.isBusy = true := isBusy_iff.mpr (h.imp id .inr)
  have hb' : isBusy (Control.defer { c with queue := q } e) = true := hb
  have hup : ∀ x,
      x ∈ Control.upcoming (Control.defer { c with queue := q } e) ↔ x ∈ c.upcoming := by
    intro x
    rw [htook.busy hb x, upcoming_busy hb', upcoming_busy (c := { c with queue := q }) hb]
    simp only [Control.defer, List.mem_append, List.mem_singleton]
    tauto
  refine ⟨⟨htook.single.immediate, fun x hx => hs.upcoming x ((hup x).mp hx), htook.single.ready⟩,
    .keep htook.attempt (due_congr Iff.rfl hup) (fun hdue _ => ?_)
      (fun _ h => nomatch h) (fun _ h => nomatch h)⟩
  rcases h with h | h
  · exact .inr (.inl h)
  · exact absurd (.inl h) hdue

/-- The answer that is taken is put in front, to be processed once more in `Active`. -/
theorem single_accept {info : SetupDataCallResultInfo} (hs : c.Single)
    (htook : c.Took (.setupDataCall (.resultInfo info)) { c with queue := q })
    (hst : c.state = some .activating) (hflag : info.flag = c.connectId)
    (hsuccess : setupSucceeds info = true)
    (hc' : (Control.defer { c with queue := q, cid := info.cid }
      (.setupDataCall (.resultInfo info))).moveTo .active = c') :
    c'.Single ∧ Progress c c' [.addActiveConnectionByCid info.cid] := by
  have hb : c.isBusy = true := isBusy_iff.mpr (.inl hst)
  have hst' : c'.state = some .active := hc' ▸ rfl
  have hb' : c'.isBusy = true := isBusy_iff.mpr (.inr (.inl hst'))
  have himm : c'.queue.immediate =
      q.immediate ++ (c.deferred ++ [.setupDataCall (.resultInfo info)]) := hc' ▸ rfl
  have hup : ∀ x, x ∈ c'.upcoming ↔ x ∈ c.upcoming := by
    intro x
    have hd' : c'.deferred = [] := hc' ▸ rfl
    have hr' : c'.queue.ready = q.ready := hc' ▸ rfl
    rw [htook.busy hb x, upcoming_busy hb', upcoming_busy (c := { c with queue := q }) hb, himm,
      hd', hr']
    simp only [List.mem_append, List.mem_singleton, List.not_mem_nil, or_false]
    tauto
  refine ⟨⟨fun x hx => hs.upcoming x ((hup x).mp ?_), fun x hx => hs.upcoming x ((hup x).mp hx),
    fun hmem => htook.single.ready (by rw [← hc'] at hmem; exact hmem)⟩,
    .keep ?_ (due_congr (by simp [hst, hst']) hup) (fun _ _ => ?_) ?_ ?_⟩
  · rw [upcoming_busy hb']
    exact List.mem_append_left _ (List.mem_append_left _ hx)
  · rw [attempt_busy hb, attempt_busy hb', ← hc']
    rfl
  · refine .inr (.inr ⟨hst', .setupDataCall (.resultInfo info), ?_, info, rfl, .inl hst', ?_,
      hsuccess, ?_⟩)
    · rw [himm]
      exact List.mem_append_right _ (List.mem_append_right _ (List.mem_singleton_self _))
    · rw [← hc']
      exact hflag
    · rw [← hc']
      rfl
  · exact fun info h => by simp at h
  · exact fun info h => by simp at h

theorem single_disconnect {params : DataDisconnectParams}
    (htook : c.Took e { c with queue := q }) (hst : c.state = some .active)
    (he : e.isDisconnect = true) :
    Single (Control.disconnect { c with queue := q } params).1 ∧
      Progress c (Control.disconnect { c with queue := q } params).1
        (Control.disconnect { c with queue := q } params).2 := by
  have hb : c.isBusy = true := isBusy_iff.mpr (.inr (.inl hst))
  have hdue : c.Due := .inr ⟨e, (htook.busy hb e).mpr (.inl rfl), he⟩
  rw [disconnect_eq]
  generalize hc' : moveTo _ _ = c'
  have hst' : c'.state = some .disconnecting := hc' ▸ rfl
  have hb' : c'.isBusy = true := isBusy_iff.mpr (.inr (.inr hst'))
  have hup : ∀ x, x ∈ c'.upcoming → x ∈ Control.upcoming { c with queue := q } := by
    intro x hx
    have himm : c'.queue.immediate = q.immediate ++ c.deferred := hc' ▸ rfl
    have hd' : c'.deferred = [] := hc' ▸ rfl
    have hr' : c'.queue.ready = q.ready := hc' ▸ rfl
    rw [upcoming_busy hb', himm, hd', hr', List.append_nil] at hx
    rwa [upcoming_busy (c := { c with queue := q }) hb]
  refine ⟨⟨fun x hx => htook.single.upcoming x (hup x ?_), fun x hx =>
    htook.single.upcoming x (hup x hx), fun hmem => htook.single.ready
      (by rw [← hc'] at hmem; exact hmem)⟩,
    .keep ?_ (iff_of_true (.inl hst') hdue) (fun h => absurd hdue h) ?_ ?_⟩
  · rw [upcoming_busy hb']
    exact List.mem_append_left _ (List.mem_append_left _ hx)
  · rw [attempt_busy hb, attempt_busy hb', ← hc']
    rfl
  · exact fun info h => by simp [Control.disconnect] at h
  · exact fun info h => by simp [Control.disconnect] at h

/-- One event either leaves the attempt as it is, reports it as complete or ends it. -/
theorem Single.transition (hs : c.Single) (hw : c.WellFormed) (hnext : c.queue.next = some (e, q))
    (ht : Transition env { c with queue := q } e c' os) : c'.Single ∧ Progress c c' os := by
  have hno : c.isBusy = true → e.isConnect = false := by
    intro hb
    rw [← Bool.not_eq_true]
    intro he
    have hst := (hs.request hw hnext he).1
    simp [isBusy, hst] at hb
  have htook : c.isBusy = true → c.Took e { c with queue := q } := fun hb =>
    hs.took hnext (hno hb)
  cases ht with
  | ignore h => exact single_ignore hs hw hnext h
  | boot h => exact single_boot hs hnext h
  | connect h => exact single_connect hs hw hnext
  | defer h he => exact single_defer hs (htook (isBusy_iff.mpr (h.imp id .inr))) h
  | @accept info h hflag hsuccess =>
    have hst : c.state = some .activating := h
    exact single_accept hs (htook (isBusy_iff.mpr (.inl hst))) hst hflag hsuccess rfl
  | fail h =>
    have hb : c.isBusy = true := isBusy_iff.mpr (.inl h)
    have htook := htook hb
    exact Single.endCall ⟨htook.single.immediate, htook.single.upcoming, htook.single.ready⟩ hb
      htook.attempt
  | abandon h =>
    have hst : c.state = some .activating := h
    obtain ⟨hi, -, -⟩ | ⟨-, -, hr, -⟩ := EventQueue.next_eq_some_iff.mp hnext
    · rcases hw.immediate (by simp [hst]) _ (hi ▸ List.mem_cons_self) with h | ⟨info, h, -⟩
      · cases h
      · cases h
    · exact absurd (hr ▸ List.mem_cons_self) hs.ready
  | @complete info h =>
    have hst : c.state = some .active := h
    have hb : c.isBusy = true := isBusy_iff.mpr (.inr (.inl hst))
    have htook := htook hb
    have hsame : Same { c with queue := q } (complete { c with queue := q } info).1 :=
      same_removeEvent fun x hx => by cases x <;> first | rfl | cases hx
    exact ⟨hsame.single htook.single, .complete (hsame.attempt.trans htook.attempt)
      (hsame.due.trans (htook.due rfl fun _ => rfl)) rfl (attempt_busy hb)⟩
  | @disconnect _ params h he =>
    have hst : c.state = some .active := h
    exact single_disconnect (htook (isBusy_iff.mpr (.inr (.inl hst)))) hst he
  | lose h he =>
    have hb : c.isBusy = true := isBusy_iff.mpr (.inr (.inl h))
    have htook := htook hb
    exact Single.endCall ⟨htook.single.immediate, htook.single.upcoming, htook.single.ready⟩ hb
      htook.attempt
  | finish h he =>
    have hb : c.isBusy = true := isBusy_iff.mpr (.inr (.inr h))
    have htook := htook hb
    exact Single.endCall ⟨htook.single.immediate, htook.single.upcoming, htook.single.ready⟩ hb
      htook.attempt
  | release h he =>
    have hb : c.isBusy = true := isBusy_iff.mpr (.inr (.inr h))
    have htook := htook hb
    have hsame : Same { c with queue := q } { c with
        queue := q.removeEvent CellularDataStateMachine.isDisconnectTimeoutCheck } :=
      same_removeEvent fun _ => isTimer_of_disconnectTimeoutCheck
    exact Single.endCall (hsame.single htook.single) hb (hsame.attempt.trans htook.attempt)

/-! Where events come from -/

/-- Events on their way to the machine or kept by it. -/
def events (c : Control) : List MachineEvent := c.queue.pending ++ c.deferred

theorem mem_events {x : MachineEvent} : x ∈ c.events ↔
    x ∈ c.queue.immediate ∨ x ∈ c.queue.ready ∨ x ∈ c.queue.delayed ∨ x ∈ c.deferred := by
  simp only [events, EventQueue.pending, List.mem_append, or_assoc]

theorem mem_events_iff {x : MachineEvent} : x ∈ c.events ↔ x ∈ c.queue.pending ∨ x ∈ c.deferred :=
  List.mem_append

/-- What a leaf has deferred is queued again when the machine moves. -/
theorem mem_events_moveTo {c : Control} (st : ConnState) {x : MachineEvent} :
    x ∈ (c.moveTo st).events ↔ x ∈ c.events := by
  rw [mem_events, mem_events]
  simp only [moveTo, EventQueue.sendImmediateEvents_immediate,
    EventQueue.sendImmediateEvents_ready, EventQueue.sendImmediateEvents_delayed, List.mem_append,
    List.not_mem_nil, or_false]
  constructor
  · rintro ((h | h) | h | h)
    · exact .inl h
    · exact .inr (.inr (.inr h))
    · exact .inr (.inl h)
    · exact .inr (.inr (.inl h))
  · rintro (h | h | h | h)
    · exact .inl (.inl h)
    · exact .inr (.inl h)
    · exact .inr (.inr h)
    · exact .inl (.inr h)

theorem mem_events_defer {c : Control} {x : MachineEvent} :
    x ∈ (c.defer e).events ↔ x ∈ c.events ∨ x = e := by
  rw [mem_events_iff, mem_events_iff, or_assoc]
  show x ∈ c.queue.pending ∨ x ∈ c.deferred ++ [e] ↔ _
  rw [List.mem_append, List.mem_singleton]

theorem mem_events_removeEvent {p : MachineEvent → Bool} {x : MachineEvent}
    (hx : x ∈ events { c with queue := c.queue.removeEvent p }) : x ∈ c.events := by
  rw [mem_events_iff] at hx ⊢
  exact hx.imp_left fun h => (EventQueue.mem_pending_removeEvent.mp h).1

theorem mem_events_delayed {x : MachineEvent} (hx : x ∈ events
    { c with queue := { c.queue with delayed := c.queue.delayed ++ [e] } }) :
    x ∈ c.events ∨ x = e := by
  rw [mem_events_iff] at hx ⊢
  rcases hx with hx | hx
  · exact (EventQueue.mem_pending_delayed.mp hx).imp_left .inl
  · exact .inl (.inr hx)

/-- A step adds no event but timers and the event that it keeps. -/
theorem Transition.mem_events (ht : Transition env c e c' os) {x : MachineEvent}
    (hx : x ∈ c'.events) : x ∈ c.events ∨ x = e ∨ x.isTimer = true := by
  cases ht with
  | ignore h => exact .inl hx
  | boot h => exact .inl hx
  | connect h =>
    obtain ⟨startTime, delayed, heq, hd⟩ := connect_eq env c ‹_›
    rw [heq, mem_events_moveTo] at hx
    rcases hd with ⟨rfl, -⟩ | rfl
    · exact .inl hx
    · rcases mem_events_delayed hx with hx | rfl
      · exact .inl hx
      · exact .inr (.inr rfl)
  | defer h he => exact (mem_events_defer.mp hx).imp_right .inl
  | accept h hflag hs => exact (mem_events_defer.mp ((mem_events_moveTo .active).mp hx)).imp_right .inl
  | fail h => exact .inl ((mem_events_moveTo .inactive).mp hx)
  | abandon h => exact .inl ((mem_events_moveTo .inactive).mp hx)
  | complete h => exact .inl (mem_events_removeEvent hx)
  | disconnect h he =>
    rw [disconnect_eq, mem_events_moveTo] at hx
    rcases mem_events_delayed hx with hx | rfl
    · exact .inl hx
    · exact .inr (.inr rfl)
  | lose h he => exact .inl ((mem_events_moveTo .inactive).mp hx)
  | finish h he => exact .inl ((mem_events_moveTo .inactive).mp hx)
  | release h he => exact .inl (mem_events_removeEvent ((mem_events_moveTo .inactive).mp hx))

/-- The event that is taken and those that are left were there before. -/
theorem mem_events_of_next (hnext : c.queue.next = some (e, q)) {x : MachineEvent}
    (hx : x ∈ events { c with queue := q } ∨ x = e) : x ∈ c.events := by
  obtain ⟨hfrom, himm, hready, hdelayed⟩ := next_cases hnext
  rw [mem_events] at hx ⊢
  rcases hx with (hx | hx | hx | hx) | rfl
  · exact .inl (himm x hx)
  · exact .inr (.inl (hready x hx))
  · exact .inr (.inr (.inl (hdelayed ▸ hx)))
  · exact .inr (.inr (.inr hx))
  · rcases hfrom with h | ⟨h, -⟩
    · exact .inl h
    · exact .inr (.inl h)

theorem mem_events_post {x : MachineEvent} : x ∈ (c.post e).events ↔ x ∈ c.events ∨ x = e := by
  rw [mem_events_iff, mem_events_iff]
  have hpending : x ∈ (c.post e).queue.pending ↔ x ∈ c.queue.pending ∨ x = e :=
    EventQueue.mem_pending_sendEvent
  have hdeferred : (c.post e).deferred = c.deferred := rfl
  rw [hpending, hdeferred]
  tauto

theorem mem_events_fire {i : Nat} (h : c.queue.expire i = some q) {x : MachineEvent} :
    x ∈ events { c with queue := q } ↔ x ∈ c.events := by
  rw [mem_events_iff, mem_events_iff, EventQueue.mem_pending_expire h]

theorem mem_events_rearm {x : MachineEvent} (hx : x ∈ c.rearm.events) :
    x ∈ c.events ∨ x.isTimer = true := by
  rw [mem_events_iff] at hx ⊢
  rcases hx with hx | hx
  · rcases EventQueue.mem_pending_sendEventAfter.mp hx with hx | rfl
    · exact .inl (.inl (EventQueue.mem_pending_removeEvent.mp hx).1)
    · exact .inr rfl
  · exact .inl (.inr hx)

theorem mem_events_dispatch (hnext : c.queue.next = some (e, q))
    (ht : Transition env { c with queue := q } e c' os) {x : MachineEvent} (hx : x ∈ c'.events) :
    x ∈ c.events ∨ x.isTimer = true := by
  rcases ht.mem_events hx with hx | hx | hx
  · exact .inl (mem_events_of_next hnext (.inl hx))
  · exact .inl (mem_events_of_next hnext (.inr hx))
  · exact .inr hx

end Control
end CellularData
