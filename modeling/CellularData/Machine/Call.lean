import CellularData.Machine.Attempt

/-! The data call of a machine: how long it keeps its cid and which events it still has to process. -/
namespace CellularData
open Lib StateMachine

def MachineEvent.isLost : MachineEvent → Bool
  | .lostConnection _ => true
  | _ => false

namespace Control

variable {env : MachineEnv} {c c' : Control} {e : MachineEvent} {os : List MachineOutput}
  {q : EventQueue MachineEvent}

/-- The machine has a data call. -/
def InCall (c : Control) : Prop := c.state = some .active ∨ c.state = some .disconnecting

theorem InCall.isBusy (h : c.InCall) : c.isBusy = true :=
  isBusy_iff.mpr (h.elim (fun h => .inr (.inl h)) fun h => .inr (.inr h))

theorem InCall.congr (h : c.InCall) (hstate : c'.state = c.state) : c'.InCall :=
  h.imp hstate.trans hstate.trans

/-- A call keeps its cid until its end is reported. -/
theorem Transition.inCall (ht : Transition env c e c' os) (h : c.InCall) :
    c'.cid = c.cid ∧ c'.apnId = c.apnId ∧
      (c'.InCall ∨ ∃ info, os = [.disconnectDataComplete info]) := by
  cases ht with
  | ignore _ => exact ⟨rfl, rfl, .inl h⟩
  | boot hst => rcases h with h | h <;> cases hst.symm.trans h
  | connect hst => rcases h with h | h <;> cases hst.symm.trans h
  | defer hst he => exact ⟨rfl, rfl, .inl h⟩
  | accept hst hflag hs => rcases h with h | h <;> cases hst.symm.trans h
  | fail hst => rcases h with h | h <;> cases hst.symm.trans h
  | abandon hst => rcases h with h | h <;> cases hst.symm.trans h
  | complete hst => exact ⟨rfl, rfl, .inl h⟩
  | disconnect hst he => exact ⟨rfl, rfl, .inl (.inr rfl)⟩
  | lose hst he => exact ⟨rfl, rfl, .inr ⟨_, rfl⟩⟩
  | finish hst he => exact ⟨rfl, rfl, .inr ⟨_, rfl⟩⟩
  | release hst he => exact ⟨rfl, rfl, .inr ⟨_, rfl⟩⟩

/-- A machine that is in `Active` after a step was there before, or it has accepted an answer. -/
theorem Transition.active (ht : Transition env c e c' os) (h : c'.state = some .active) :
    c.state = some .active ∧ c'.cid = c.cid ∨ ∃ cid, .addActiveConnectionByCid cid ∈ os := by
  cases ht with
  | ignore _ => exact .inl ⟨h, rfl⟩
  | connect _ =>
    obtain ⟨_, _, heq, -⟩ := connect_eq env c ‹_›
    rw [heq] at h
    cases h
  | defer hst he =>
    rcases hst with hst | hst <;> cases hst.symm.trans (show c.state = _ from h)
  | accept hst hflag hs => exact .inr ⟨_, List.mem_singleton_self _⟩
  | complete hst => exact .inl ⟨hst, rfl⟩
  | _ => cases h

/-- A call is registered when the answer to the request is accepted, and only then. -/
theorem Transition.accepted (ht : Transition env c e c' os) {cid : Int}
    (h : .addActiveConnectionByCid cid ∈ os) :
    c.state = some .activating ∧ c'.state = some .active ∧ c'.cid = cid ∧
      os = [.addActiveConnectionByCid cid] ∧ ∃ info, e = .setupDataCall (.resultInfo info) ∧
        info.cid = cid ∧ info.flag = c.connectId ∧ setupSucceeds info = true := by
  cases ht with
  | accept hst hflag hs =>
    obtain rfl := MachineOutput.addActiveConnectionByCid.inj (List.mem_singleton.mp h)
    exact ⟨hst, rfl, rfl, rfl, _, rfl, rfl, hflag, hs⟩
  | _ => simp [Control.endCall, Control.release, Control.disconnect, Control.complete] at h

/-- A machine without an attempt does nothing. -/
theorem Single.transition_none (hs : c.Single) (hw : c.WellFormed)
    (hnext : c.queue.next = some (e, q)) (ht : Transition env { c with queue := q } e c' os)
    (ha : c.attempt = none) :
    c'.cid = c.cid ∧ c'.apnId = c.apnId ∧ c'.attempt = none ∧ os = [] := by
  have hb : c.isBusy = false := by
    rw [← Bool.not_eq_true]
    intro hb
    rw [attempt_busy hb] at ha
    cases ha
  have hno : ∀ st, c.state = some st → isBusy { c with state := some st } = false := by
    intro st hst
    rw [← hst]
    exact hb
  obtain ⟨-, hp⟩ := hs.transition hw hnext ht
  have ha' : c'.attempt = none := by
    cases hp with
    | keep h => exact h.trans ha
    | complete h => exact h.trans ha
    | finish hflag h => exact h
  cases ht with
  | ignore h => exact ⟨rfl, rfl, ha', rfl⟩
  | boot h => exact ⟨rfl, rfl, ha', rfl⟩
  | connect h =>
    obtain ⟨-, -, -, hready⟩ := hs.request hw hnext rfl
    rw [attempt_idle hb, hready] at ha
    cases ha
  | defer h he => rcases h with h | h <;> cases hno _ h
  | accept h hflag hs => cases hno _ h
  | fail h => cases hno _ h
  | abandon h => cases hno _ h
  | complete h => cases hno _ h
  | disconnect h he => cases hno _ h
  | lose h he => cases hno _ h
  | finish h he => cases hno _ h
  | release h he => cases hno _ h

/-! Upcoming events -/

theorem mem_upcoming_post {x : MachineEvent} (hx : x ∈ (c.post e).upcoming) :
    x ∈ c.upcoming ∨ x = e := by
  have hb : (c.post e).isBusy = c.isBusy := rfl
  have hready : (c.post e).queue.ready = c.queue.ready ++ [e] := rfl
  cases hc : c.isBusy with
  | true =>
    rw [upcoming_busy (hb.trans hc), hready] at hx
    rw [upcoming_busy hc]
    simp only [List.mem_append, List.mem_singleton] at hx ⊢
    rcases hx with hx | hx | hx
    · exact .inl (.inl hx)
    · exact .inl (.inr hx)
    · exact .inr hx
  | false =>
    rw [upcoming_idle (hb.trans hc), hready, afterRequest_append] at hx
    rw [upcoming_idle hc]
    split at hx
    · simpa only [List.mem_append, List.mem_singleton] using hx
    · exact .inr (List.mem_singleton.mp (afterRequest_subset _ hx))

theorem post_attempt (he : e.isConnect = false) : (c.post e).attempt = c.attempt := by
  have hb : (c.post e).isBusy = c.isBusy := rfl
  cases hc : c.isBusy with
  | true => rw [attempt_busy hc, attempt_busy (hb.trans hc)]; rfl
  | false =>
    rw [attempt_idle hc, attempt_idle (hb.trans hc)]
    simp only [post, EventQueue.sendEvent_ready, List.findSome?_append, List.findSome?_singleton,
      MachineEvent.requestId_eq_none he, Option.or_none]

theorem upcoming_subset_events (c : Control) {x : MachineEvent} (hx : x ∈ c.upcoming) :
    x ∈ c.queue.immediate ∨ x ∈ c.deferred ∨ x ∈ c.queue.ready := by
  cases hb : c.isBusy with
  | true =>
    rw [upcoming_busy hb] at hx
    simpa only [List.mem_append, or_assoc] using hx
  | false =>
    rw [upcoming_idle hb] at hx
    exact .inr (.inr (afterRequest_subset _ hx))

/-- While an attempt goes on, only timers join the events it has still to process. -/
theorem Single.mem_upcoming (hs : c.Single) (hw : c.WellFormed)
    (hnext : c.queue.next = some (e, q)) (ht : Transition env { c with queue := q } e c' os)
    (ha : c'.attempt ≠ none) {x : MachineEvent} (hx : x ∈ c'.upcoming) :
    x ∈ c.upcoming ∨ x.isTimer = true := by
  cases hb : c.isBusy with
  | true =>
    have hevents : x ∈ c'.events := by
      rw [mem_events]
      rcases upcoming_subset_events c' hx with h | h | h
      · exact .inl h
      · exact .inr (.inr (.inr h))
      · exact .inr (.inl h)
    rcases mem_events_dispatch hnext ht hevents with h | h
    · rw [mem_events] at h
      rw [upcoming_busy hb]
      simp only [List.mem_append]
      rcases h with h | h | h | h
      · exact .inl (.inl (.inl h))
      · exact .inl (.inr h)
      · exact .inr (hw.delayed x h)
      · exact .inl (.inl (.inr h))
    · exact .inr h
  | false =>
    have hno : ∀ st, c.state = some st → isBusy { c with state := some st } = false := by
      intro st hst
      rw [← hst]
      exact hb
    cases ht with
    | ignore h =>
      have he : e.isConnect = false := by
        rw [← Bool.not_eq_true]
        intro he
        have hst := (hs.request hw hnext he).1
        cases e with
        | connect params =>
          rw [takes_request (c := { c with queue := q }) hst] at h
          cases h
        | _ => cases he
      exact .inl ((hs.took hnext he).idle hb ▸ hx)
    | boot h =>
      rw [upcoming_idle rfl] at hx
      have hidle := (hs.took hnext rfl).idle hb
      rw [upcoming_idle (c := { c with queue := q }) hb] at hidle
      exact .inl (hidle ▸ hx)
    | connect h => exact .inl (upcoming_connect hs hw hnext ▸ hx)
    | defer h he => rcases h with h | h <;> cases hno _ h
    | accept h hflag hs => cases hno _ h
    | fail h => cases hno _ h
    | abandon h => cases hno _ h
    | complete h => cases hno _ h
    | disconnect h he => cases hno _ h
    | lose h he => cases hno _ h
    | finish h he => cases hno _ h
    | release h he => cases hno _ h

/-! Changes that the call does not depend on -/

/-- The call is the same and no report of its loss has been added. -/
structure Calm (c c' : Control) : Prop where
  state : c'.state = c.state
  cid : c'.cid = c.cid
  apnId : c'.apnId = c.apnId
  attempt : c'.attempt = c.attempt
  upcoming : ∀ x ∈ c'.upcoming, x.isLost = true → x ∈ c.upcoming

theorem Calm.refl (c : Control) : Calm c c := ⟨rfl, rfl, rfl, rfl, fun _ hx _ => hx⟩

theorem calm_post (he : e.isConnect = false) (hlost : e.isLost = false) : Calm c (c.post e) where
  state := rfl
  cid := rfl
  apnId := rfl
  attempt := post_attempt he
  upcoming x hx hl := by
    rcases mem_upcoming_post hx with hx | rfl
    · exact hx
    · rw [hlost] at hl
      cases hl

theorem isLost_of_isTimer (h : e.isTimer = true) : e.isLost = false := by
  cases e <;> first | rfl | cases h

theorem calm_fire (hw : c.WellFormed) {i : Nat} (h : c.queue.expire i = some q) :
    Calm c { c with queue := q } := by
  refine ⟨rfl, rfl, rfl, (same_fire hw h).attempt, fun x hx hl => ?_⟩
  obtain ⟨y, hy, rfl⟩ := EventQueue.expire_eq_some_iff.mp h
  rcases mem_upcoming_post (e := y) hx with hx | rfl
  · exact hx
  · rw [isLost_of_isTimer (hw.delayed x (List.mem_of_getElem? hy))] at hl
    cases hl

/-- Events that are no requests are taken from the queue. -/
theorem afterRequest_filter_subset {p : MachineEvent → Bool}
    (hp : ∀ e : MachineEvent, e.isConnect = true → p e = true) (l : List MachineEvent) :
    afterRequest (l.filter p) ⊆ afterRequest l := by
  induction l with
  | nil => exact fun _ h => h
  | cons e l ih =>
    cases he : e.isConnect with
    | true =>
      simp only [List.filter_cons, hp e he, if_true, afterRequest, he]
      exact fun x hx => (List.mem_filter.mp hx).1
    | false =>
      cases hpe : p e with
      | true =>
        simp only [List.filter_cons, hpe, if_true, afterRequest, he, Bool.false_eq_true, if_false]
        exact ih
      | false =>
        simp only [List.filter_cons, hpe, afterRequest, he, Bool.false_eq_true, if_false]
        exact ih

theorem calm_rearm : Calm c c.rearm := by
  refine ⟨rfl, rfl, rfl, same_rearm.attempt, fun x hx _ => ?_⟩
  have hb : c.rearm.isBusy = c.isBusy := rfl
  cases hc : c.isBusy with
  | true =>
    rw [upcoming_busy (hb.trans hc)] at hx
    rw [upcoming_busy hc]
    simp only [List.mem_append] at hx ⊢
    exact hx.imp (Or.imp_left fun h => (List.mem_filter.mp h).1) fun h => (List.mem_filter.mp h).1
  | false =>
    rw [upcoming_idle (hb.trans hc)] at hx
    rw [upcoming_idle hc]
    refine afterRequest_filter_subset (fun e he => ?_) _ hx
    cases e <;> first | rfl | cases he

end Control
end CellularData
