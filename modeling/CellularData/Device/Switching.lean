import CellularData.Device.Composition

/-! Internal data of a slot, which other slots order off and on. -/
namespace CellularData
open Lib

namespace Slot

variable {s s' : Slot} {l : Label}

/-- What a step of a slot that is no order leaves of its internal data, and whom it orders. -/
theorem step_orders (hready : s.RequestsReady) (h : system.step l s = some s')
    (hl : ∀ env enable, l ≠ .call env (.changeConnectionForDsds enable)) :
    s'.slotId = s.slotId ∧
      (∃ es, s'.effects = es ++ s.effects ∧ ∀ e ∈ es, ∀ i, e.orderedOff = some i → i ≠ s.slotId) ∧
      (s'.dataSwitchSettings.internalDataOn = false → s.dataSwitchSettings.internalDataOn = false) := by
  cases step_moves hready h with
  | still hposts hquiet hd => exact ⟨hd.slotId, hd.effects, hd.eases.off⟩
  | machine hm =>
    have htidy : Tidy s s' := tidy_dispatchMachine hm
    exact ⟨htidy.slotId, htidy.effects, htidy.eases.off⟩
  | @take env e q hnext =>
    have heases : Eases { s with queue := q } (processEvent env { s with queue := q } e) :=
      eases_processEvent e _
    exact ⟨heases.slotId, heases.effects, heases.off⟩
  | @call env c hrequest =>
    have hdiscreet : Discreet s (s.call env c) :=
      discreet_call (fun enable heq => hl env enable (heq ▸ rfl)) hrequest s
    exact ⟨hdiscreet.slotId, hdiscreet.effects, hdiscreet.eases.off⟩
  | request => exact ⟨rfl, ⟨[], rfl, fun _ he => nomatch he⟩, id⟩

end Slot

namespace Device

variable {caps : CapabilityNumbers} {e : CallEnv} {i : Int} {d d' : Device} {s s' : Slot}
  {L : DeviceLabel}

/-- The last order that a slot has been given. -/
def lastOrder (i : Int) (d : Device) : Option SwitchOrder := d.orderLog.find? fun o => o.receiver = i

/-- The last order has switched the slot's internal data off, and another slot has given it. -/
def OrderedOff (i : Int) (d : Device) : Prop :=
  ∃ o, d.lastOrder i = some o ∧ o.enable = false ∧ o.giver ≠ i

/-- A slot without internal data has been ordered so. -/
def Ordered (d : Device) : Prop :=
  ∀ i s, d.handler i = some s →
    s.slotId = i ∧ (s.dataSwitchSettings.internalDataOn = false → OrderedOff i d)

theorem OrderedOff.of_log (h : OrderedOff i d) (hlog : d'.orderLog = d.orderLog) : OrderedOff i d' := by
  unfold OrderedOff lastOrder
  rw [hlog]
  exact h

/-- An order for one slot is delivered; the others do not hear of it. -/
theorem ordered_deliver {giver : Int} {effect : Effect} (h : d.Ordered)
    (hothers : ∀ i, effect.orderedOff = some i → i ≠ giver) : (d.deliver e giver effect).Ordered := by
  cases effect with
  | changeConnectionForDsds j enable =>
    intro i s hs
    by_cases hij : i = j
    · subst hij
      have hlast : (d.deliver e giver (.changeConnectionForDsds i enable)).lastOrder i =
          some { giver, receiver := i, enable } := by
        simp [deliver, lastOrder]
      cases hi : d.handler i with
      | none =>
        rw [deliver_handler_none hi] at hs
        cases hs
      | some t =>
        have hs' : ((changeConnectionForDsds e i enable d).1).handler i = some s := hs
        simp only [changeConnectionForDsds, getCellularDataController_of_handler hi] at hs'
        rw [handler_setHandler_self (by rw [getCellularDataController_of_handler hi]; rfl)] at hs'
        obtain rfl := Option.some.inj hs'
        obtain ⟨horderly, -, hvalue⟩ := @Slot.orderly_changeConnectionForDsds (e.slot i) enable t
        refine ⟨horderly.slotId.trans (h i t hi).1, fun hoff => ?_⟩
        have henable : enable = false := hvalue.symm.trans hoff
        subst henable
        exact ⟨_, hlast, rfl, (hothers i rfl).symm⟩
    · have hsame : (d.deliver e giver (.changeConnectionForDsds j enable)).handler i = d.handler i := by
        simp only [deliver, changeConnectionForDsds]
        split
        · rfl
        · split
          · rfl
          · exact handler_setHandler_of_ne hij
      obtain ⟨hslot, hoff⟩ := h i s (hsame.symm.trans hs)
      refine ⟨hslot, fun hs' => ?_⟩
      obtain ⟨o, ho, henable, hgiver⟩ := hoff hs'
      have hlog : (d.deliver e giver (.changeConnectionForDsds j enable)).orderLog =
          { giver, receiver := j, enable } :: d.orderLog := by
        simp only [deliver, changeConnectionForDsds]
        split
        · rfl
        · split <;> rfl
      refine ⟨o, ?_, henable, hgiver⟩
      unfold lastOrder
      rw [hlog, List.find?_cons_of_neg (by simpa using Ne.symm hij)]
      exact ho
  | _ => exact h

theorem ordered_deliver_all {giver : Int} {es : List Effect} (h : d.Ordered)
    (hothers : ∀ effect ∈ es, ∀ i, effect.orderedOff = some i → i ≠ giver) :
    (es.foldl (deliver e giver) d).Ordered := by
  apply List.foldlRecOn es (deliver e giver) (motive := Ordered)
  · exact h
  · exact fun d hd effect heffect => ordered_deliver hd (hothers effect heffect)

/-- A handler works: what it orders off is another slot's data. -/
theorem ordered_settle {j : Int} {l : Label} (hd : d.Ordered) (hj : d.handler j = some s)
    (hready : s.RequestsReady) (hstep : Slot.system.step l s = some s') (hl : orders l = []) :
    (d.settle e j s s').Ordered := by
  have hquiet : ∀ env enable, l ≠ .call env (.changeConnectionForDsds enable) := by
    rintro env enable rfl
    cases hl
  obtain ⟨hslot, ⟨es, hes, hothers⟩, hoff⟩ := Slot.step_orders hready hstep hquiet
  obtain ⟨hkey, hordered⟩ := hd j s hj
  have hnew : newEffects s s' = es.reverse := by simp [newEffects, hes]
  have hset : (d.setHandler j s').Ordered := by
    intro i t ht
    by_cases hij : i = j
    · subst hij
      rw [handler_setHandler_self (by rw [getCellularDataController_of_handler hj]; rfl)] at ht
      obtain rfl := Option.some.inj ht
      exact ⟨hslot.trans hkey, fun ht => (hordered (hoff ht)).of_log rfl⟩
    · rw [handler_setHandler_of_ne hij] at ht
      exact ⟨(hd i t ht).1, fun hi => ((hd i t ht).2 hi).of_log rfl⟩
  unfold settle
  apply ordered_deliver_all hset
  intro effect heffect i hi
  rw [hnew, List.mem_reverse] at heffect
  rw [← hkey]
  exact hothers effect heffect i hi

theorem ordered_step (hd : (system caps).Reachable d) (h : d.Ordered)
    (hstep : step caps L d = some d') : d'.Ordered := by
  cases step_moves hstep with
  | still hsame hlog hrouted htaking =>
    intro i s hs
    rw [hsame] at hs
    exact ⟨(h i s hs).1, fun hi => ((h i s hs).2 hi).of_log hlog⟩
  | @create slotId s hnone hinit hslot hsame hlog hrouted htaking =>
    intro i t ht
    rw [hsame] at ht
    split_ifs at ht with hi
    · obtain rfl := Option.some.inj ht
      refine ⟨hslot.trans hi.symm, fun hoff => ?_⟩
      rw [Slot.initial_internalDataOn hinit] at hoff
      cases hoff
    · exact ⟨(h i t ht).1, fun hoff => ((h i t ht).2 hoff).of_log hlog⟩
  | @work e j l s s' a hs hwork hd' horder hrouted htaking =>
    have hready : s.RequestsReady := Slot.reachable_requestsReady (reachable_handler hd hs)
    have ha : { d with netAgent := a }.Ordered := fun i t ht =>
      ⟨(h i t ht).1, fun hoff => ((h i t ht).2 hoff).of_log rfl⟩
    rw [hd']
    exact ordered_settle ha hs hready hwork horder

theorem reachable_ordered (hd : (system caps).Reachable d) : d.Ordered := by
  refine hd.invariant ?_ fun _ _ _ hreach h hstep => ordered_step hreach h hstep
  rintro d ⟨simNum, tstsModeEnabled, netCapabilities, rfl⟩ i s hs
  rw [handler_init] at hs
  cases hs

/-- Internal data of a slot is off only if the last order for the slot, given by another one, says so. -/
theorem data_off_ordered (hd : (system caps).Reachable d) (hs : d.handler i = some s)
    (hoff : s.dataSwitchSettings.internalDataOn = false) : OrderedOff i d :=
  (reachable_ordered hd i s hs).2 hoff

/-- Slot 1 without packet service, SIM 2 in it. -/
def secondCall : CallEnv where
  slot := fun _ => { Slot.serviceEnv with psRegInService := false, simId := 2 }

/-- A message is to be sent from slot 1, and slot 0 is the default slot. -/
def lentLabels : List DeviceLabel :=
  [.asynchronousRegister 0 Slot.serviceEnv Slot.sortedHolders,
    .asynchronousRegister 1 Slot.serviceEnv Slot.sortedHolders,
    .slot 1 (.postHandler (.sim .recordsLoaded 1)) secondCall,
    .dispatchHandler 1 Slot.serviceEnv secondCall CellularDataNetAgent.acceptingEnv,
    .netConnManagerAdded 1 secondCall CellularDataNetAgent.acceptingEnv,
    .networkCallback true ⟨identPrefix ++ ['2'], [.mms], .other 0⟩ secondCall,
    .dispatchHandler 1 (secondCall.slot 1) secondCall CellularDataNetAgent.acceptingEnv,
    .dispatchHandler 1 (secondCall.slot 1) secondCall CellularDataNetAgent.acceptingEnv]

theorem data_off_ordered_lent : ∃ d s, (system serviceCaps).Reachable d ∧ d.handler 0 = some s ∧
    s.dataSwitchSettings.internalDataOn = false ∧ OrderedOff 0 d := by
  obtain ⟨H, d, hh, hp⟩ := exists_history lentLabels
    (p := fun _ d => (d.handler 0).any fun s => !s.dataSwitchSettings.internalDataOn)
    (by decide +kernel)
  obtain ⟨s, hs, hoff⟩ := (Option.any_eq_true _ _).mp hp
  have hoff' : s.dataSwitchSettings.internalDataOn = false := by simpa using hoff
  exact ⟨d, s, hh.reachable, hs, hoff', data_off_ordered hh.reachable hs hoff'⟩

end Device
end CellularData
