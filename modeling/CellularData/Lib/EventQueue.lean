import Mathlib.Tactic.Tauto
import Mathlib.Data.List.Perm.Basic

/-! Event queues of an event loop: immediate events, queued events and timers. -/
namespace Lib

/-- Events are delivered from `immediate` first, then from `ready`, each in order; `delayed` holds
the timers that have not expired. -/
structure EventQueue (ε : Type) where
  immediate : List ε := []
  ready : List ε := []
  delayed : List ε := []
deriving DecidableEq, Repr

namespace EventQueue

variable {ε : Type} (q : EventQueue ε) (e : ε) (p : ε → Bool)

def sendImmediateEvent : EventQueue ε := { q with immediate := q.immediate ++ [e] }

def sendImmediateEvents (es : List ε) : EventQueue ε := { q with immediate := q.immediate ++ es }

def sendEvent : EventQueue ε := { q with ready := q.ready ++ [e] }

/-- A delay of zero queues the event at once. -/
def sendEventAfter (delay : Int) : EventQueue ε :=
  if 0 < delay then { q with delayed := q.delayed ++ [e] } else q.sendEvent e

def removeEvent : EventQueue ε where
  immediate := q.immediate.filter fun e => !p e
  ready := q.ready.filter fun e => !p e
  delayed := q.delayed.filter fun e => !p e

def pending : List ε := q.immediate ++ q.ready ++ q.delayed

def hasInnerEvent : Bool := q.pending.any p

/-- The event delivered next, with the queue that is left. -/
def next : Option (ε × EventQueue ε) :=
  match q.immediate with
  | e :: es => some (e, { q with immediate := es })
  | [] =>
    match q.ready with
    | e :: es => some (e, { q with ready := es })
    | [] => none

/-- The `i`-th timer expires and is queued behind the events that are ready. -/
def expire (i : Nat) : Option (EventQueue ε) :=
  match q.delayed[i]? with
  | some e => some { q with ready := q.ready ++ [e], delayed := q.delayed.eraseIdx i }
  | none => none

variable {q e p}

@[simp] theorem sendImmediateEvents_ready (es : List ε) :
    (q.sendImmediateEvents es).ready = q.ready := rfl
@[simp] theorem sendImmediateEvents_delayed (es : List ε) :
    (q.sendImmediateEvents es).delayed = q.delayed := rfl
@[simp] theorem sendImmediateEvents_immediate (es : List ε) :
    (q.sendImmediateEvents es).immediate = q.immediate ++ es := rfl
@[simp] theorem sendEvent_immediate : (q.sendEvent e).immediate = q.immediate := rfl
@[simp] theorem sendEvent_ready : (q.sendEvent e).ready = q.ready ++ [e] := rfl
@[simp] theorem sendEvent_delayed : (q.sendEvent e).delayed = q.delayed := rfl
@[simp] theorem removeEvent_immediate :
    (q.removeEvent p).immediate = q.immediate.filter fun e => !p e := rfl
@[simp] theorem removeEvent_ready :
    (q.removeEvent p).ready = q.ready.filter fun e => !p e := rfl
@[simp] theorem removeEvent_delayed :
    (q.removeEvent p).delayed = q.delayed.filter fun e => !p e := rfl

theorem mem_pending {x : ε} :
    x ∈ q.pending ↔ x ∈ q.immediate ∨ x ∈ q.ready ∨ x ∈ q.delayed := by
  simp only [pending, List.mem_append, or_assoc]

theorem mem_pending_sendEvent {x : ε} : x ∈ (q.sendEvent e).pending ↔ x ∈ q.pending ∨ x = e := by
  simp only [mem_pending, sendEvent, List.mem_append, List.mem_singleton]
  tauto

theorem mem_pending_delayed {x : ε} :
    x ∈ pending { q with delayed := q.delayed ++ [e] } ↔ x ∈ q.pending ∨ x = e := by
  simp only [mem_pending, List.mem_append, List.mem_singleton, or_assoc]

theorem mem_pending_sendEventAfter {x : ε} {delay : Int} :
    x ∈ (q.sendEventAfter e delay).pending ↔ x ∈ q.pending ∨ x = e := by
  by_cases h : 0 < delay
  · simpa only [sendEventAfter, h, if_true] using mem_pending_delayed
  · simpa only [sendEventAfter, h, if_false] using mem_pending_sendEvent

theorem mem_pending_removeEvent {x : ε} :
    x ∈ (q.removeEvent p).pending ↔ x ∈ q.pending ∧ p x = false := by
  simp only [mem_pending, removeEvent, List.mem_filter, Bool.not_eq_true', or_and_right]

theorem hasInnerEvent_iff : q.hasInnerEvent p = true ↔ ∃ x ∈ q.pending, p x = true := by
  simp only [hasInnerEvent, List.any_eq_true]

theorem next_eq_some_iff {q' : EventQueue ε} : q.next = some (e, q') ↔
    (q.immediate = e :: q'.immediate ∧ q.ready = q'.ready ∧ q.delayed = q'.delayed) ∨
    (q.immediate = [] ∧ q'.immediate = [] ∧ q.ready = e :: q'.ready ∧ q.delayed = q'.delayed) := by
  obtain ⟨imm, rdy, dly⟩ := q
  obtain ⟨imm', rdy', dly'⟩ := q'
  cases imm with
  | cons x xs => simp [next, and_assoc]
  | nil =>
    cases rdy with
    | cons x xs => simp [next, and_assoc, eq_comm]; tauto
    | nil => simp [next]

/-- The event taken and those left are those that were pending. -/
theorem mem_pending_next {q' : EventQueue ε} (h : q.next = some (e, q')) {x : ε} :
    x ∈ q.pending ↔ x = e ∨ x ∈ q'.pending := by
  rw [mem_pending, mem_pending]
  obtain ⟨himm, hready, hdelayed⟩ | ⟨himm, himm', hready, hdelayed⟩ := next_eq_some_iff.mp h
  · rw [himm, hready, hdelayed, List.mem_cons, or_assoc]
  · rw [himm, himm', hready, hdelayed, List.mem_cons]
    simp only [List.not_mem_nil, false_or, or_assoc]

theorem expire_eq_some_iff {q' : EventQueue ε} {i : Nat} : q.expire i = some q' ↔
    ∃ x, q.delayed[i]? = some x ∧
      q' = { q with ready := q.ready ++ [x], delayed := q.delayed.eraseIdx i } := by
  unfold expire
  cases h : q.delayed[i]? with
  | none => simp
  | some x => simp [eq_comm]

/-- An expiry only moves an event. -/
theorem mem_pending_expire {q' : EventQueue ε} {i : Nat} (h : q.expire i = some q') {x : ε} :
    x ∈ q'.pending ↔ x ∈ q.pending := by
  obtain ⟨y, hy, rfl⟩ := expire_eq_some_iff.mp h
  have hd : x ∈ q.delayed ↔ x = y ∨ x ∈ q.delayed.eraseIdx i := by
    obtain ⟨hi, rfl⟩ := List.getElem?_eq_some_iff.mp hy
    exact (List.getElem_cons_eraseIdx_perm hi).mem_iff.symm.trans List.mem_cons
  simp only [mem_pending, List.mem_append, List.mem_singleton, hd]
  tauto

/-- The event taken was in front of the others that were ready. -/
theorem next_line {q' : EventQueue ε} (hq : q.next = some (e, q')) :
    q.immediate ++ q.ready = e :: (q'.immediate ++ q'.ready) ∧ q'.delayed = q.delayed := by
  rcases next_eq_some_iff.mp hq with ⟨himm, hready, hdelayed⟩ | ⟨himm, himm', hready, hdelayed⟩
  · rw [himm, hready, hdelayed]
    exact ⟨rfl, rfl⟩
  · rw [himm, himm', hready, hdelayed]
    exact ⟨rfl, rfl⟩

/-! Events of one kind -/

/-- The queue with none but the events that satisfy `p`. -/
def restrict (q : EventQueue ε) (p : ε → Bool) : EventQueue ε where
  immediate := q.immediate.filter p
  ready := q.ready.filter p
  delayed := q.delayed.filter p

theorem restrict_sendEvent_of_pos (he : p e = true) :
    (q.sendEvent e).restrict p = (q.restrict p).sendEvent e := by
  simp [restrict, sendEvent, he]

theorem restrict_sendEvent_of_neg (he : p e = false) : (q.sendEvent e).restrict p = q.restrict p := by
  simp [restrict, sendEvent, he]

theorem restrict_sendEventAfter_of_neg (he : p e = false) (delay : Int) :
    (q.sendEventAfter e delay).restrict p = q.restrict p := by
  unfold EventQueue.sendEventAfter
  split_ifs
  · simp [restrict, he]
  · exact restrict_sendEvent_of_neg he

theorem restrict_removeEvent {r : ε → Bool} (hr : ∀ e, p e = true → r e = false) :
    (q.removeEvent r).restrict p = q.restrict p := by
  have hfilter (l : List ε) : (l.filter fun e => !r e).filter p = l.filter p := by
    rw [List.filter_filter]
    apply List.filter_congr
    intro e _
    by_cases he : p e = true
    · simp [he, hr e he]
    · simp [he]
  simp only [restrict, removeEvent_immediate, removeEvent_ready, removeEvent_delayed, hfilter]

theorem restrict_expire {q' : EventQueue ε} {i : Nat} (hq : q.expire i = some q')
    (hnone : (q.restrict p).delayed = []) : q'.restrict p = q.restrict p := by
  obtain ⟨x, hx, rfl⟩ := expire_eq_some_iff.mp hq
  change q.delayed.filter p = [] at hnone
  have hdelayed : ∀ e ∈ q.delayed, ¬ p e = true := List.filter_eq_nil_iff.mp hnone
  have hmem : x ∈ q.delayed := List.mem_of_getElem? hx
  have herase : (q.delayed.eraseIdx i).filter p = [] := by
    apply List.filter_eq_nil_iff.mpr
    intro e he
    exact hdelayed e (List.mem_of_mem_eraseIdx he)
  have hready : (q.ready ++ [x]).filter p = q.ready.filter p := by
    simp [List.filter_append, hdelayed x hmem]
  simp only [restrict, herase, hready, hnone]

/-- The event taken is the first one left. -/
theorem restrict_next {q' : EventQueue ε} (hq : q.next = some (e, q')) :
    (q.restrict p).immediate ++ (q.restrict p).ready =
        [e].filter p ++ ((q'.restrict p).immediate ++ (q'.restrict p).ready) ∧
      (q'.restrict p).delayed = (q.restrict p).delayed := by
  obtain ⟨hline, hdelayed⟩ := next_line hq
  unfold restrict
  dsimp only
  rw [← List.filter_append, ← List.filter_append, ← List.filter_append, hline, hdelayed]
  exact ⟨rfl, rfl⟩

/-! Events that wait -/

/-- The event is ready, and at most `n` events are delivered before it. -/
def Waits (q : EventQueue ε) (e : ε) (n : Nat) : Prop :=
  ∃ before after, q.immediate ++ q.ready = before ++ e :: after ∧ before.length ≤ n

variable {x : ε} {n : Nat}

theorem waits_of_mem (h : e ∈ q.immediate ++ q.ready) :
    ∃ n < (q.immediate ++ q.ready).length, q.Waits e n := by
  obtain ⟨before, after, heq⟩ := List.append_of_mem h
  refine ⟨before.length, ?_, before, after, heq, Nat.le_refl _⟩
  rw [heq, List.length_append, List.length_cons]
  omega

theorem Waits.append (h : q.Waits e n) (es : List ε) : Waits { q with ready := q.ready ++ es } e n := by
  obtain ⟨before, after, heq, hn⟩ := h
  refine ⟨before, after ++ es, ?_, hn⟩
  dsimp only
  rw [← List.append_assoc, heq, List.append_assoc, List.cons_append]

theorem Waits.sendEvent (h : q.Waits e n) (x : ε) : (q.sendEvent x).Waits e n :=
  h.append [x]

theorem Waits.sendEventAfter (h : q.Waits e n) (x : ε) (delay : Int) :
    (q.sendEventAfter x delay).Waits e n := by
  unfold EventQueue.sendEventAfter
  split_ifs
  · exact h
  · exact h.sendEvent x

theorem Waits.removeEvent (h : q.Waits e n) (he : p e = false) : (q.removeEvent p).Waits e n := by
  obtain ⟨before, after, heq, hn⟩ := h
  refine ⟨before.filter fun x => !p x, after.filter fun x => !p x, ?_, ?_⟩
  · rw [removeEvent_immediate, removeEvent_ready, ← List.filter_append, heq, List.filter_append,
      List.filter_cons_of_pos (by simp [he])]
  · have hle := List.length_filter_le (fun x => !p x) before
    omega

theorem Waits.expire {q' : EventQueue ε} {i : Nat} (h : q.Waits e n) (hq : q.expire i = some q') :
    q'.Waits e n := by
  obtain ⟨x, -, rfl⟩ := expire_eq_some_iff.mp hq
  exact h.append [x]

/-- The event is taken now, or one event less is before it. -/
theorem Waits.next {q' : EventQueue ε} (h : q.Waits e n) (hq : q.next = some (x, q')) :
    x = e ∨ ∃ m, m < n ∧ q'.Waits e m := by
  obtain ⟨before, after, heq, hn⟩ := h
  rw [(next_line hq).1] at heq
  cases before with
  | nil => exact .inl (List.cons.inj heq).1
  | cons y before =>
    right
    rw [List.length_cons] at hn
    exact ⟨before.length, hn, before, after, (List.cons.inj heq).2, Nat.le_refl _⟩

end EventQueue
end Lib
