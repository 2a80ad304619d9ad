import CellularData.Device.Composition

/-! The device refines a family of abstract slots: in each step one of them moves and may order the
others, and a slot acts on nothing but an order. -/
namespace CellularData
open Lib Relation

/-- The abstract slots of a device, and the orders about internal data that they have given. -/
structure AbstractDevice where
  slots : Int → Core
  orders : List SwitchOrder

namespace AbstractDevice

/-- A step of the abstract device: slot `j` moves to `k` and gives the orders `new`. The handler of a
slot that has been given one acts on it, and the other slots do nothing. -/
structure AdvancesBy (a a' : AbstractDevice) (j : Int) (k : Core) (new : List SwitchOrder) : Prop where
  moves : ∃ cue, Core.Next cue (a.slots j) k
  orders : a'.orders = new ++ a.orders
  giver : ∀ o ∈ new, o.giver = j
  acts : ∀ i, ReflTransGen Core.Act (if i = j then k else a.slots i) (a'.slots i)
  others : ∀ i, (∀ o ∈ new, o.receiver ≠ i) → a'.slots i = if i = j then k else a.slots i

def Advance (a a' : AbstractDevice) : Prop := ∃ j k new, AdvancesBy a a' j k new

theorem Advance.refl (a : AbstractDevice) : Advance a a := by
  have hsame : ∀ i, (if i = 0 then a.slots 0 else a.slots i) = a.slots i := by
    intro i
    split_ifs with hi
    · rw [hi]
    · rfl
  refine ⟨0, a.slots 0, [], ⟨.other, a.slots 0, .skip Slot.other_notice, .refl⟩, rfl, ?_, ?_, ?_⟩
  · exact fun _ ho => absurd ho List.not_mem_nil
  · intro i
    rw [hsame]
  · exact fun i _ => (hsame i).symm

end AbstractDevice

namespace Slot

variable {s s' : Slot} {ls : List Label}

/-- To carry out orders is to act. -/
theorem acts_run (hr : s.Regular) (hrun : system.run ls s = some s')
    (hls : ∀ l ∈ ls, ∃ env enable, l = .call env (.changeConnectionForDsds enable)) :
    ReflTransGen Core.Act s.core s'.core := by
  have hall : s'.Regular ∧ ReflTransGen Core.Act s.core s'.core := by
    refine TransitionSystem.run_invariant
      (P := fun t => t.Regular ∧ ReflTransGen Core.Act s.core t.core) ?_ ⟨hr, .refl⟩ hrun
    rintro l hl t t' ⟨ht, hbefore⟩ hstep
    obtain ⟨env, enable, rfl⟩ := hls l hl
    obtain rfl := Option.some.inj hstep
    have hcall : Does env (EstablishesAll env) t (t.call env (.changeConnectionForDsds enable)) :=
      does_call _
    obtain ⟨ht', hacts⟩ := hcall.establishes.connects.acts ht
    exact ⟨ht', hbefore.trans hacts⟩
  exact hall.2

end Slot

namespace Device

variable {caps : CapabilityNumbers} {e : CallEnv} {i : Int} {d d' : Device} {s : Slot}
  {L : DeviceLabel}

/-- The abstract slots of a device; without a handler a slot is blank. -/
def cores (d : Device) (i : Int) : Core := ((d.handler i).map Slot.core).getD .blank

theorem cores_of_handler (h : d.handler i = some s) : d.cores i = s.core := by
  simp [cores, h]

theorem cores_of_none (h : d.handler i = none) : d.cores i = .blank := by
  simp [cores, h]

theorem cores_congr (h : d'.handler i = d.handler i) : d'.cores i = d.cores i := by
  simp [cores, h]

/-- The device as the abstract one sees it. -/
def abstract (d : Device) : AbstractDevice := ⟨d.cores, d.orderLog⟩

theorem orderLog_deliver {giver : Int} (effect : Effect) : ∃ new,
    (d.deliver e giver effect).orderLog = new ++ d.orderLog ∧ (∀ o ∈ new, o.giver = giver) ∧
      ∀ i enable, effect.ordersTo i = some enable → ∃ o ∈ new, o.receiver = i := by
  cases effect with
  | changeConnectionForDsds j enable =>
    refine ⟨[{ giver, receiver := j, enable }], ?_, ?_, ?_⟩
    · simp only [deliver, changeConnectionForDsds]
      split
      · rfl
      · split <;> rfl
    · intro o ho
      obtain rfl := List.mem_singleton.mp ho
      rfl
    · intro i b hb
      refine ⟨_, List.mem_singleton_self _, ?_⟩
      simp only [Effect.ordersTo] at hb
      split_ifs at hb with hij
      exact hij
  | _ =>
    refine ⟨[], rfl, fun _ ho => absurd ho List.not_mem_nil, fun i b hb => ?_⟩
    exact absurd hb.symm (Option.some_ne_none b)

/-- All orders are recorded, under the slot that gives them. -/
theorem orderLog_deliver_all {giver : Int} (es : List Effect) : ∃ new,
    (es.foldl (deliver e giver) d).orderLog = new ++ d.orderLog ∧ (∀ o ∈ new, o.giver = giver) ∧
      ∀ i, (∀ o ∈ new, o.receiver ≠ i) → orderLabels e i es = [] := by
  induction es generalizing d with
  | nil => exact ⟨[], rfl, fun _ ho => absurd ho List.not_mem_nil, fun _ _ => rfl⟩
  | cons effect es ih =>
    obtain ⟨first, hfirst, hgiver, hreceiver⟩ := @orderLog_deliver e d giver effect
    obtain ⟨rest, hrest, hgivers, hreceivers⟩ := @ih (d.deliver e giver effect)
    refine ⟨rest ++ first, ?_, ?_, ?_⟩
    · rw [List.foldl_cons, hrest, hfirst, List.append_assoc]
    · intro o ho
      rcases List.mem_append.mp ho with ho | ho
      · exact hgivers o ho
      · exact hgiver o ho
    · intro i hnone
      have hlater : orderLabels e i es = [] :=
        hreceivers i fun o ho => hnone o (List.mem_append_left _ ho)
      cases horder : effect.ordersTo i with
      | none => simpa only [orderLabels, List.filterMap_cons, horder] using hlater
      | some enable =>
        obtain ⟨o, ho, hi⟩ := hreceiver i enable horder
        exact absurd hi (hnone o (List.mem_append_right _ ho))

theorem step_advances (hd : (system caps).Reachable d) (hstep : step caps L d = some d') :
    AbstractDevice.Advance d.abstract d'.abstract := by
  have hregular : ∀ {i s}, d.handler i = some s → s.Regular ∧ s.core.WellFormed := by
    intro i s hs
    exact Slot.reachable_regular (reachable_handler hd hs)
  cases step_moves hstep with
  | still hsame hlog _ _ =>
    have hcores : d'.cores = d.cores := funext fun i => cores_congr (hsame i)
    unfold abstract
    rw [hcores, hlog]
    exact .refl _
  | @create slotId s hnone hs _ hsame hlog _ _ =>
    have hslots : ∀ i, d'.cores i = if i = slotId then s.core else d.cores i := by
      intro i
      split_ifs with hi
      · exact cores_of_handler ((hsame i).trans (if_pos hi))
      · exact cores_congr ((hsame i).trans (if_neg hi))
    refine ⟨slotId, s.core, [], ⟨.other, ?_⟩, hlog, ?_, ?_, fun i _ => hslots i⟩
    · change Core.Next .other (d.cores slotId) s.core
      rw [cores_of_none hnone]
      exact ⟨.blank, .skip Slot.other_notice, (Slot.initial_refines hs).2⟩
    · exact fun _ ho => absurd ho List.not_mem_nil
    · intro i
      exact hslots i ▸ .refl
  | @work e j l s s' a hs hwork hd' _ _ _ =>
    obtain ⟨hr, hw⟩ := hregular hs
    obtain ⟨hr', hnext⟩ := Slot.step_refines hr hw hwork
    have hs₀ : { d with netAgent := a }.handler j = some s := hs
    obtain ⟨new, hlog, hgiver, hreceiver⟩ :=
      @orderLog_deliver_all e ({ d with netAgent := a }.setHandler j s') j (newEffects s s')
    have hrun : ∀ i, (d'.cores i = if i = j then s'.core else d.cores i) ∨
        ∃ t t' : Slot, d.handler i = some t ∧ d'.handler i = some t' ∧
          Slot.system.run (orderLabels e i (newEffects s s')) (if i = j then s' else t) =
            some t' := by
      intro i
      cases hi : d.handler i with
      | none =>
        have hij : i ≠ j := by
          rintro rfl
          cases hs.symm.trans hi
        have hi' : d'.handler i = none := by
          rw [hd']
          exact settle_handler_none hs₀ hi
        refine .inl ?_
        rw [if_neg hij, cores_of_none hi, cores_of_none hi']
      | some t =>
        obtain ⟨t', ht', hrun⟩ : ∃ t',
            ({ d with netAgent := a }.settle e j s s').handler i = some t' ∧
              Slot.system.run (orderLabels e i (newEffects s s')) (if i = j then s' else t) =
                some t' := settle_handler hs₀ hi
        exact .inr ⟨t, t', rfl, hd' ▸ ht', hrun⟩
    refine ⟨j, s'.core, new, ⟨s.cue l, ?_⟩, ?_, hgiver, fun i => ?_, fun i hnone => ?_⟩
    · change Core.Next (s.cue l) (d.cores j) s'.core
      rw [cores_of_handler hs]
      exact hnext
    · rw [hd']
      exact hlog
    · change ReflTransGen Core.Act (if i = j then s'.core else d.cores i) (d'.cores i)
      rcases hrun i with heq | ⟨t, t', ht, ht', hrun⟩
      · rw [heq]
      · rw [cores_of_handler ht', cores_of_handler ht]
        split_ifs at hrun ⊢ with hij
        · exact Slot.acts_run hr' hrun orderLabels_call
        · exact Slot.acts_run (hregular ht).1 hrun orderLabels_call
    · change d'.cores i = if i = j then s'.core else d.cores i
      rcases hrun i with heq | ⟨t, t', ht, ht', hrun⟩
      · exact heq
      · rw [hreceiver i hnone] at hrun
        obtain rfl := Option.some.inj hrun
        rw [cores_of_handler ht', cores_of_handler ht]
        split_ifs <;> rfl

end Device
end CellularData
