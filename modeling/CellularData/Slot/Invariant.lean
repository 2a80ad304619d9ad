import CellularData.Slot.Refinement

/-! Rules for invariants of the slot: what holds at start and survives the acts of the handler and
the triggers of the abstract slot holds of every state reached. -/
namespace CellularData
open Lib StateMachine Relation

namespace Core

variable {k k' : Core} {cue : Cue}

/-- The abstract slot before `Init`. -/
def blank : Core where
  state _ := .idle
  owner _ := none
  controls := []
  registry := []
  notices := []
  connectLog := []
  callLog := []

def WellFormed (k : Core) : Prop := ∀ c ∈ k.controls, c.WellFormed

theorem isMessage_of_isExternal {e : MachineEvent} (he : e.isExternal = true) :
    e.isMessage = true := by
  cases e <;> first | rfl | cases he

theorem isMessage_of_isNews {e : MachineEvent} (he : e.isNews = true) : e.isMessage = true := by
  cases e <;> first | rfl | cases he

theorem WellFormed.post (h : k.WellFormed) (m : MachineRef) {e : MachineEvent}
    (he : e.isMessage = true) : (k.post m e).WellFormed :=
  forall_mem_modify h (fun _ hc => hc.move (.post he)) m

theorem WellFormed.act (h : k.WellFormed) (ha : Act k k') : k'.WellFormed := by
  cases ha with
  | disconnect howner => exact WellFormed.post (k := k.setState _ _) h _ rfl
  | reset hstate => exact h
  | retry hstate => exact h
  | connect hidle hm hinactive hfree hparams hrecord =>
    exact WellFormed.post (k := (k.setState _ _).setOwner _ _) h _ rfl
  | create hidle hbusy hparams hrecord =>
    refine forall_mem_modify (fun c hc => ?_) (fun _ hc => hc.move (.post rfl)) _
    rcases List.mem_append.mp hc with hc | hc
    · exact h c hc
    · exact List.mem_singleton.mp hc ▸ Control.create_wellFormed
  | tell he =>
    intro c hc
    obtain ⟨c₀, hc₀, rfl⟩ := List.mem_map.mp hc
    exact (h c₀ hc₀).move (.post (isMessage_of_isNews he))

theorem controls_receive (k : Core) (m : MachineRef) (o : MachineOutput) :
    (k.receive m o).controls = k.controls := by
  cases o <;> rfl

theorem controls_foldl_receive (k : Core) (m : MachineRef) (os : List MachineOutput) :
    (os.foldl (fun k o => k.receive m o) k).controls = k.controls := by
  induction os generalizing k with
  | nil => rfl
  | cons o os ih => exact (ih _).trans (controls_receive k m o)

theorem controls_complete (k : Core) (info : SetupDataCallResultInfo) :
    (k.complete info).controls = k.controls := by
  unfold complete
  split
  · rfl
  · split <;> rfl

theorem controls_unregister (k : Core) (m : MachineRef) :
    (k.unregister m).controls = k.controls := by
  unfold unregister
  split <;> rfl

theorem controls_finish (k : Core) (info : SetupDataCallResultInfo) :
    (k.finish info).controls = k.controls := by
  unfold finish
  split
  · rfl
  · split
    · rfl
    · exact controls_unregister k _

/-- A relayed report is at most sent to the handler. -/
theorem relayDataCall_invariant {P : Core → Prop} (hk : P k) {info : SetupDataCallResultInfo}
    (hnotify : ∀ flag, P (k.notify (.dataCallListChanged { info with flag }))) :
    P (k.relayDataCall info) := by
  unfold relayDataCall
  split
  · exact hnotify _
  · exact hk

/-- A machine is at most told of the loss. -/
theorem loseConnection_invariant {P : Core → Prop} (hk : P k) {m : MachineRef}
    (hpost : ∀ info, P (k.post m (.lostConnection info)))
    (dcList : List SetupDataCallResultInfo) : P (k.loseConnection dcList m) := by
  unfold loseConnection
  split
  · exact hk
  · split
    · exact hpost _
    · exact hk

theorem controls_relayDataCall (k : Core) (info : SetupDataCallResultInfo) :
    (k.relayDataCall info).controls = k.controls :=
  relayDataCall_invariant (P := fun k' => k'.controls = k.controls) rfl fun _ => rfl

/-- A property of the abstract slot that every iteration keeps. -/
theorem foldl_invariant {α : Type} {P : Core → Prop} {f : Core → α → Core}
    (hf : ∀ k a, P k → P (f k a)) (l : List α) (hk : P k) : P (l.foldl f k) :=
  List.foldlRecOn l f hk fun k hk a _ => hf k a hk

/-- What the report of the data calls keeps, by its three kinds of steps. -/
theorem report_invariant {P : Core → Prop} {dcList : List SetupDataCallResultInfo}
    (hrelay : ∀ k info, info ∈ dcList → P k → P (k.relayDataCall info))
    (hlose : ∀ k₁ m, m ∈ k.registry.map (·.2) → P k₁ → P (k₁.loseConnection dcList m))
    (hlog : ∀ k cid, P k → P (k.logCall (.reportedDown cid)))
    (hk : P k) : P (k.radioDataCallListChanged dcList) := by
  have hrelays : P (dcList.foldl (fun k info => k.relayDataCall info) k) :=
    List.foldlRecOn _ _ hk fun k hk info hinfo => hrelay k info hinfo hk
  have hloses : P ((k.registry.map (·.2)).foldl (fun k m => k.loseConnection dcList m)
      (dcList.foldl (fun k info => k.relayDataCall info) k)) :=
    List.foldlRecOn _ _ hrelays fun k₁ hk₁ m hm => hlose k₁ m hm hk₁
  refine foldl_invariant (fun k info hk => ?_) dcList hloses
  split_ifs
  · exact hlog k info.cid hk
  · exact hk

theorem WellFormed.set {m : MachineRef} {c : Control} (h : k.WellFormed) (hc : c.WellFormed) :
    WellFormed { k with controls := k.controls.set m c } :=
  fun x hx => (List.mem_or_eq_of_mem_set hx).elim (h x) fun heq => heq ▸ hc

theorem WellFormed.loseConnection (h : k.WellFormed) (dcList : List SetupDataCallResultInfo)
    (m : MachineRef) : (k.loseConnection dcList m).WellFormed :=
  loseConnection_invariant h (fun _ => h.post m rfl) dcList

theorem WellFormed.trigger (h : k.WellFormed) (ht : Trigger cue k k') : k'.WellFormed := by
  cases ht with
  | skip hcue => exact h
  | complete hnotices =>
    intro c hc
    rw [controls_complete] at hc
    exact h c hc
  | finish hnotices =>
    intro c hc
    rw [controls_finish] at hc
    exact h c hc
  | update hnotices => exact h
  | answer he => exact h.post _ (isMessage_of_isExternal he)
  | dispatch hm hnext ht =>
    intro c hc
    rw [controls_foldl_receive] at hc
    have hw := (h _ (List.mem_of_getElem? hm)).transition hnext ht
    exact (h.set hw) c hc
  | fire hm hq => exact h.set ((h _ (List.mem_of_getElem? hm)).move (.fire hq))
  | rearm => exact forall_mem_modify h (fun _ hc => hc.move .rearm) _
  | report =>
    refine report_invariant (P := WellFormed) (fun k info _ hk c hc => ?_)
      (fun k m _ hk => hk.loseConnection _ m) (fun k cid hk => hk) h
    rw [controls_relayDataCall] at hc
    exact hk c hc
  | capability => exact foldl_invariant (P := WellFormed) (fun k m hk => hk.post m rfl) _ h

end Core

namespace Slot

variable {s : Slot} {ok : Label → Slot → Prop}

theorem initial_refines (h : Initial s) :
    s.Regular ∧ ReflTransGen Core.Act Core.blank s.core := by
  obtain ⟨env, slotId, l, hinit⟩ := h.does
  refine hinit.establishes.connects.acts ⟨?_, rfl, ?_⟩
  · exact fun x hx => nomatch hx
  · exact fun e he => nomatch he

theorem reachable_regular (h : system.ReachableWhen ok s) : s.Regular ∧ s.core.WellFormed := by
  have hacts : ∀ {k k' : Core}, ReflTransGen Core.Act k k' → k.WellFormed → k'.WellFormed :=
    reflTransGen_invariant fun _ _ hk ha => hk.act ha
  refine h.invariant (P := fun s => s.Regular ∧ s.core.WellFormed) (fun s hs => ?_) ?_
  · obtain ⟨hr, hs'⟩ := initial_refines hs
    exact ⟨hr, hacts hs' fun c hc => nomatch hc⟩
  · rintro l s s' - ⟨hr, hw⟩ - hstep
    obtain ⟨hr', k, ht, hs'⟩ := step_refines hr hw hstep
    exact ⟨hr', hacts hs' (hw.trigger ht)⟩

/-- The rule by which all invariants of the slot are proved. -/
theorem core_invariant {P : Core → Prop} (h : system.ReachableWhen ok s) (hblank : P Core.blank)
    (hact : ∀ k k', k.WellFormed → P k → Core.Act k k' → P k')
    (htrigger : ∀ l s k, s.Regular → s.core.WellFormed → P s.core → ok l s →
      Core.Trigger (s.cue l) s.core k → P k) : P s.core := by
  have hacts : ∀ {k k' : Core}, ReflTransGen Core.Act k k' → k.WellFormed ∧ P k →
      k'.WellFormed ∧ P k' :=
    reflTransGen_invariant (P := fun k => k.WellFormed ∧ P k)
      fun _ _ hk ha => ⟨hk.1.act ha, hact _ _ hk.1 hk.2 ha⟩
  refine h.invariant (P := fun s => P s.core) (fun s hs => ?_) ?_
  · exact (hacts (initial_refines hs).2 ⟨(fun c hc => nomatch hc), hblank⟩).2
  · intro l s s' hs hp hok hstep
    obtain ⟨hr, hw⟩ := reachable_regular hs
    obtain ⟨-, k, ht, hs'⟩ := step_refines hr hw hstep
    exact (hacts hs' ⟨hw.trigger ht, htrigger l s k hr hw hp hok ht⟩).2

end Slot
end CellularData
