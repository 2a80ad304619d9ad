import CellularData.Machine.Call
import CellularData.Slot.Invariant

/-! Which holder owns which machine, and what both have still to do for each other. -/
namespace CellularData
open Lib StateMachine Relation

/-- States of a holder that has a machine. -/
def ApnProfileState.isEngaged : ApnProfileState → Bool
  | .connecting | .connected | .disconnecting => true
  | _ => false

def HandlerEvent.isCompletion (i : Int) : HandlerEvent → Bool
  | .establishDataConnectionComplete info => info.flag = i
  | _ => false

def HandlerEvent.isEnd (i : Int) : HandlerEvent → Bool
  | .disconnectDataComplete info => info.flag = i
  | _ => false

/-- The report that a machine's output is for the handler. -/
def MachineOutput.notice : MachineOutput → Option HandlerEvent
  | .establishDataConnectionComplete info => some (.establishDataConnectionComplete info)
  | .disconnectDataComplete info => some (.disconnectDataComplete info)
  | _ => none

theorem apnHolderByName_id (t : ApnType) : apnHolderByName t.id = some t := by
  cases t <;> decide

namespace Control

variable {env : MachineEnv} {c c' : Control} {e : MachineEvent} {os : List MachineOutput}

/-- The attempt of `c` goes on in `c'`. -/
structure Kept (c c' : Control) : Prop where
  attempt : c'.attempt = c.attempt
  due : c'.Due ↔ c.Due
  waits : ¬ c.Due → c.Waits → c'.Waits

theorem Kept.refl (c : Control) : Kept c c := ⟨rfl, Iff.rfl, fun _ => id⟩

theorem Same.kept (h : Same c c') : Kept c c' := ⟨h.attempt, h.due, fun _ => h.waits⟩

/-- A machine that has been created but not initialised has a request. -/
structure Sound (c : Control) : Prop where
  single : c.Single
  booted : c.state = none → c.attempt ≠ none

theorem Same.sound (h : Same c c') (hs : c.Sound) : c'.Sound :=
  ⟨h.single hs.single, fun hn => h.attempt ▸ hs.booted (h.state ▸ hn)⟩

/-- Only what a new machine ignores leaves it without a state. -/
theorem Transition.state_none (ht : Transition env c e c' os) (h : c'.state = none) :
    c' = c ∧ os = [] := by
  cases ht with
  | ignore _ => exact ⟨rfl, rfl⟩
  | boot _ => cases h
  | connect _ =>
    obtain ⟨_, _, heq, -⟩ := connect_eq env c ‹_›
    rw [heq] at h
    cases h
  | defer hst he =>
    have h' : c.state = none := h
    rcases hst with hst | hst <;> cases h'.symm.trans hst
  | complete hst => cases Eq.trans (Eq.symm h) hst
  | _ => cases h

/-- A disconnect request reaches the attempt that is under way or on its way. -/
theorem Sound.post_disconnect (hs : c.Sound) (params : DataDisconnectParams) :
    (c.post (.disconnect params)).Sound ∧
      (c.attempt ≠ none → (c.post (.disconnect params)).Due) := by
  have hattempt : (c.post (.disconnect params)).attempt = c.attempt := post_attempt rfl
  have hb : (c.post (.disconnect params)).isBusy = c.isBusy := rfl
  have hready : (c.post (.disconnect params)).queue.ready =
      c.queue.ready ++ [.disconnect params] := rfl
  refine ⟨⟨⟨hs.single.immediate, fun x hx => ?_, fun hmem => ?_⟩, fun hn => hattempt ▸ hs.booted hn⟩,
    fun ha => .inr ⟨.disconnect params, ?_, rfl⟩⟩
  · rcases mem_upcoming_post hx with hx | rfl
    · exact hs.single.upcoming x hx
    · rfl
  · rcases List.mem_append.mp (hready ▸ hmem) with hmem | hmem
    · exact hs.single.ready hmem
    · cases List.mem_singleton.mp hmem
  · cases hc : c.isBusy with
    | true =>
      rw [upcoming_busy (hb.trans hc), hready]
      exact List.mem_append_right _ (List.mem_append_right _ (List.mem_singleton_self _))
    | false =>
      rw [attempt_idle hc] at ha
      rw [upcoming_idle (hb.trans hc), hready, afterRequest_append]
      split
      · exact List.mem_append_right _ (List.mem_singleton_self _)
      · rename_i hnone
        exact absurd hnone ha

/-- A request is the last event of a machine that has no attempt. -/
theorem upcoming_post_connect (hb : c.isBusy = false) (ha : c.attempt = none)
    (params : DataConnectionParams) : (c.post (.connect params)).upcoming = [] := by
  have hready : (c.post (.connect params)).queue.ready =
      c.queue.ready ++ [.connect params] := rfl
  rw [attempt_idle hb] at ha
  rw [upcoming_idle (c := c.post (.connect params)) hb, hready, afterRequest_append, ha]
  rfl

/-- A request to a machine without an attempt begins one. -/
theorem Single.post_connect (hs : c.Single) (hb : c.isBusy = false) (ha : c.attempt = none)
    (params : DataConnectionParams) :
    (c.post (.connect params)).Sound ∧
      (c.post (.connect params)).attempt = some params.apnHolder.id ∧
      ¬ (c.post (.connect params)).Due ∧ (c.post (.connect params)).Waits := by
  have hb' : (c.post (.connect params)).isBusy = false := hb
  have hready : (c.post (.connect params)).queue.ready =
      c.queue.ready ++ [.connect params] := rfl
  have hup := upcoming_post_connect hb ha params
  rw [attempt_idle hb] at ha
  have hattempt : (c.post (.connect params)).attempt = some params.apnHolder.id := by
    rw [attempt_idle hb', hready, List.findSome?_append, ha]
    rfl
  refine ⟨⟨⟨hs.immediate, fun x hx => ?_, fun hmem => ?_⟩, fun _ => ?_⟩, hattempt, ?_, .inl hb'⟩
  · rw [hup] at hx
    cases hx
  · rcases List.mem_append.mp (hready ▸ hmem) with hmem | hmem
    · exact hs.ready hmem
    · cases List.mem_singleton.mp hmem
  · rw [hattempt]
    exact Option.some_ne_none _
  · rintro (hst | ⟨x, hx, -⟩)
    · have hst' : c.state = some .disconnecting := hst
      simp [isBusy, hst'] at hb
    · rw [hup] at hx
      cases hx

end Control

namespace Core

variable {k k' : Core} {cue : Cue} {t : ApnType}

/-- Reports of ended attempts that are on their way for the holder. -/
def ends (k : Core) (t : ApnType) : Nat := k.notices.countP (HandlerEvent.isEnd t.id)

/-- A completion for the holder is on its way. -/
def Completes (k : Core) (t : ApnType) : Prop :=
  ∃ e ∈ k.notices, e.isCompletion t.id = true

/-- How a holder stands to the machines. -/
inductive Linked (k : Core) (t : ApnType) : Prop
  | free (howner : k.owner t = none) (hends : k.ends t = 0)
      (hstate : (k.state t).isEngaged = false)
  | ended {m : MachineRef} {c : Control} (howner : k.owner t = some m)
      (hm : k.controls[m]? = some c) (hends : k.ends t = 1)
      (hstate : (k.state t).isEngaged = true) (hattempt : c.attempt = none)
  | held {m : MachineRef} {c : Control} (howner : k.owner t = some m)
      (hm : k.controls[m]? = some c) (hends : k.ends t = 0)
      (hstate : (k.state t).isEngaged = true) (hattempt : c.attempt = some t.id)
      (hconnecting : k.state t = .connecting → ¬ c.Due ∧ (c.Waits ∨ k.Completes t))
      (hdisconnecting : k.state t = .disconnecting → c.Due)

structure Owned (k : Core) : Prop where
  linked : ∀ t, k.Linked t
  injective : ∀ t u m, k.owner t = some m → k.owner u = some m → t = u
  sound : ∀ c ∈ k.controls, c.Sound
  owned : ∀ m c, k.controls[m]? = some c → c.attempt ≠ none → ∃ t, k.owner t = some m
  size : k.controls.length ≤ ApnType.all.length

theorem Linked.of_owner_none (h : k.Linked t) (howner : k.owner t = none) :
    k.ends t = 0 ∧ (k.state t).isEngaged = false := by
  cases h with
  | free _ hends hstate => exact ⟨hends, hstate⟩
  | ended h => simp [howner] at h
  | held h => simp [howner] at h

theorem Linked.of_not_engaged (h : k.Linked t) (hstate : (k.state t).isEngaged = false) :
    k.owner t = none ∧ k.ends t = 0 := by
  cases h with
  | free howner hends _ => exact ⟨howner, hends⟩
  | ended _ _ _ h => simp [hstate] at h
  | held _ _ _ h => simp [hstate] at h

/-- The owner of a machine that has an attempt is the holder it works for. -/
theorem Owned.attempt (h : k.Owned) {m : MachineRef} {c : Control} (howner : k.owner t = some m)
    (hm : k.controls[m]? = some c) (ha : c.attempt ≠ none) : k.ends t = 0 ∧ c.attempt = some t.id := by
  cases h.linked t with
  | free hno => simp [howner] at hno
  | ended howner' hm' _ _ hnone =>
    obtain rfl := Option.some.inj (howner.symm.trans howner')
    obtain rfl := Option.some.inj (hm.symm.trans hm')
    exact absurd hnone ha
  | held howner' hm' hends _ hsome =>
    obtain rfl := Option.some.inj (howner.symm.trans howner')
    obtain rfl := Option.some.inj (hm.symm.trans hm')
    exact ⟨hends, hsome⟩

/-- The end of the attempt of an owned machine that has none is on its way. -/
theorem Owned.ends_of_attempt (h : k.Owned) {m : MachineRef} {c : Control}
    (howner : k.owner t = some m) (hm : k.controls[m]? = some c) (ha : c.attempt = none) :
    k.ends t = 1 := by
  cases h.linked t with
  | free hno => simp [howner] at hno
  | ended _ _ hends => exact hends
  | held howner' hm' _ _ hsome =>
    obtain rfl := Option.some.inj (howner.symm.trans howner')
    obtain rfl := Option.some.inj (hm.symm.trans hm')
    cases ha.symm.trans hsome

/-! Changes that leave the ownership alone -/

/-- The holders stay as they are and the machines keep their attempts. -/
structure Still (k k' : Core) : Prop where
  state : k'.state = k.state
  owner : k'.owner = k.owner
  ends : ∀ t, k'.ends t = k.ends t
  completes : ∀ t, k.Completes t → k'.Completes t
  length : k'.controls.length = k.controls.length
  controls : ∀ {m : MachineRef} {c : Control}, k.controls[m]? = some c →
    ∃ c', k'.controls[m]? = some c' ∧ c.Kept c'

theorem Linked.still (h : k.Linked t) (hs : Still k k') : k'.Linked t := by
  have hstate : k'.state t = k.state t := congrFun hs.state t
  have howner : k'.owner t = k.owner t := congrFun hs.owner t
  cases h with
  | free ho he hst => exact .free (howner.trans ho) ((hs.ends t).trans he) (hstate ▸ hst)
  | ended ho hm he hst ha =>
    obtain ⟨c', hm', hk⟩ := hs.controls hm
    exact .ended (howner.trans ho) hm' ((hs.ends t).trans he) (hstate ▸ hst) (hk.attempt.trans ha)
  | held ho hm he hst ha hc hd =>
    obtain ⟨c', hm', hk⟩ := hs.controls hm
    refine .held (howner.trans ho) hm' ((hs.ends t).trans he) (hstate ▸ hst) (hk.attempt.trans ha)
      (fun h => ?_) fun h => hk.due.mpr (hd (hstate ▸ h))
    obtain ⟨hnot, hw⟩ := hc (hstate ▸ h)
    exact ⟨fun h => hnot (hk.due.mp h), hw.imp (hk.waits hnot) (hs.completes t)⟩

theorem Owned.still (h : k.Owned) (hs : Still k k') (hsound : ∀ c ∈ k'.controls, c.Sound) :
    k'.Owned where
  linked t := (h.linked t).still hs
  injective t u m := by
    rw [hs.owner]
    exact h.injective t u m
  sound := hsound
  owned m c' hm' ha := by
    have hlt : m < k.controls.length := hs.length ▸ (List.getElem?_eq_some_iff.mp hm').1
    obtain ⟨c'', hm'', hk⟩ := hs.controls (List.getElem?_eq_getElem hlt)
    obtain rfl : c' = c'' := Option.some.inj (hm'.symm.trans hm'')
    rw [hs.owner]
    exact h.owned m _ (List.getElem?_eq_getElem hlt) (hk.attempt ▸ ha)
  size := hs.length ▸ h.size

/-- Other members change. -/
theorem Owned.congr (h : k.Owned) (hstate : k'.state = k.state) (howner : k'.owner = k.owner)
    (hcontrols : k'.controls = k.controls) (hends : ∀ t, k'.ends t = k.ends t)
    (hcompletes : ∀ t, k.Completes t → k'.Completes t) : k'.Owned :=
  h.still ⟨hstate, howner, hends, hcompletes, congrArg List.length hcontrols, fun hm =>
    ⟨_, hcontrols ▸ hm, .refl _⟩⟩ (hcontrols ▸ h.sound)

theorem Owned.modifyAll {controls : List Control} (h : k.Owned)
    (hlength : controls.length = k.controls.length)
    (hsame : ∀ {m : MachineRef} {c : Control}, k.controls[m]? = some c →
      ∃ c', controls[m]? = some c' ∧ c.Same c') :
    Owned { k with controls } := by
  refine h.still ⟨rfl, rfl, fun _ => rfl, fun _ => id, hlength, fun hm => ?_⟩ fun c' hc' => ?_
  · obtain ⟨c', hm', hs⟩ := hsame hm
    exact ⟨c', hm', hs.kept⟩
  · obtain ⟨m, hm'⟩ := List.mem_iff_getElem?.mp hc'
    have hlt : m < k.controls.length := hlength ▸ (List.getElem?_eq_some_iff.mp hm').1
    obtain ⟨c'', hm'', hs⟩ := hsame (List.getElem?_eq_getElem hlt)
    obtain rfl : c' = c'' := Option.some.inj (hm'.symm.trans hm'')
    exact hs.sound (h.sound _ (List.getElem_mem hlt))

theorem Owned.modify (h : k.Owned) (m : MachineRef) {f : Control → Control}
    (hf : ∀ c : Control, c.Same (f c)) : (k.modifyControl m f).Owned := by
  refine h.modifyAll (List.length_modify ..) fun {n c} hn => ?_
  rw [List.getElem?_modify, hn]
  by_cases hmn : m = n
  · exact ⟨f c, by simp [hmn], hf c⟩
  · exact ⟨c, by simp [hmn], rfl, rfl, rfl, rfl, rfl, fun x hx hr => ⟨hx, hr⟩⟩

theorem Owned.post (h : k.Owned) (m : MachineRef) {e : MachineEvent}
    (he : Control.isStrong e = false) : (k.post m e).Owned :=
  h.modify m fun _ => Control.same_post he

theorem Owned.set (h : k.Owned) {m : MachineRef} {c c' : Control} (hm : k.controls[m]? = some c)
    (hs : c.Same c') : Owned { k with controls := k.controls.set m c' } := by
  refine h.modifyAll List.length_set fun {n c₁} hn => ?_
  by_cases hmn : m = n
  · subst hmn
    obtain rfl : c = c₁ := Option.some.inj (hm.symm.trans hn)
    exact ⟨c', by rw [List.getElem?_set_self (List.getElem?_eq_some_iff.mp hm).1], hs⟩
  · exact ⟨c₁, by rw [List.getElem?_set_ne hmn, hn], rfl, rfl, rfl, rfl, rfl,
      fun x hx hr => ⟨hx, hr⟩⟩

theorem isStrong_of_isNews {e : MachineEvent} (he : e.isNews = true) :
    Control.isStrong e = false := by
  cases e <;> first | rfl | cases he

theorem isStrong_of_isExternal {e : MachineEvent} (he : e.isExternal = true) :
    Control.isStrong e = false := by
  cases e <;> first | rfl | cases he

end Core
end CellularData
