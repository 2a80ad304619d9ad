import CellularData.Agent.Consistency

/-! Which slot the agent names for a SIM id: the first one of those whose suppliers it has last asked
the net manager to register under it. -/
namespace CellularData
namespace CellularDataNetAgent
open Std Lib

variable {snssai6 : Nat} {env : AgentEnv} {slotId i simId : Int} {a a' : CellularDataNetAgent}
  {c : AgentEnv × AgentLabel} {cs : List (AgentEnv × AgentLabel)}

/-- The call asks the net manager to register suppliers of the slot under the SIM id, whatever the
answer is. -/
def AsksToRegister (snssai6 : Nat) (i simId : Int) (c : AgentEnv × AgentLabel)
    (a : CellularDataNetAgent) : Prop :=
  c.2 = .register i ∧ c.1.simId = simId ∧ ∃ x ∈ a.netSuppliers, Reached snssai6 c.1 i x

/-- The call asks the net manager to register suppliers of the slot under another SIM id or to
unregister some, whatever the answer is. -/
def AsksToReplace (snssai6 : Nat) (i simId : Int) (c : AgentEnv × AgentLabel)
    (a : CellularDataNetAgent) : Prop :=
  c.2 = .register i ∧ c.1.simId ≠ simId ∧ (∃ x ∈ a.netSuppliers, Reached snssai6 c.1 i x) ∨
    c.2 = .unregisterForSimUpdate i ∧ ∃ x ∈ a.netSuppliers, Held i x

instance : Decidable (AsksToRegister snssai6 i simId c a) := inferInstanceAs (Decidable (_ ∧ _))

instance : Decidable (AsksToReplace snssai6 i simId c a) := inferInstanceAs (Decidable (_ ∨ _))

/-! The map -/

theorem unregisterLoop_slotIdSimId_of_ne (hi : i ≠ slotId) (xs : List NetSupplier) (t : AgentTables) :
    (forSuppliers (unregisterOne env slotId) t xs).1.slotIdSimId[i]? = t.slotIdSimId[i]? := by
  induction xs generalizing t with
  | nil => rfl
  | cons x xs ih =>
    have hone : (unregisterOne env slotId t x).1.slotIdSimId[i]? = t.slotIdSimId[i]? := by
      by_cases hx : Held slotId x
      · have herase : (t.slotIdSimId.erase slotId)[i]? = t.slotIdSimId[i]? := by
          rw [TreeMap.getElem?_erase, if_neg]
          simpa using Ne.symm hi
        unfold unregisterOne
        obtain ⟨hslot, hsim⟩ := hx
        rw [if_neg (by simp only [hslot]; omega)]
        dsimp only
        split_ifs
        · exact herase
        · exact herase
      · rw [unregisterOne_of_not_held hx]
    exact (ih _).trans hone

theorem slotIdSimId_step (hstep : step snssai6 c a = some a') :
    a'.slotIdSimId[i]? = some simId ↔ AsksToRegister snssai6 i simId c a ∨
      ¬ AsksToReplace snssai6 i simId c a ∧ a.slotIdSimId[i]? = some simId := by
  obtain ⟨env, l⟩ := c
  cases l with
  | register slotId =>
    obtain rfl := Option.some.inj hstep
    rw [registerNetSupplier_slotIdSimId]
    unfold AsksToRegister AsksToReplace
    by_cases hi : i = slotId
    · subst hi
      by_cases hreached : ∃ x ∈ a.netSuppliers, Reached snssai6 env i x
      · by_cases hsim : env.simId = simId
        · simp [hreached, hsim]
        · simp [hreached, hsim]
      · simp [hreached]
    · simp [hi, Ne.symm hi]
  | unregisterForSimUpdate slotId =>
    obtain rfl := Option.some.inj hstep
    unfold AsksToRegister AsksToReplace
    by_cases hi : i = slotId
    · subst hi
      by_cases hheld : ∃ x ∈ a.netSuppliers, Held i x
      · obtain ⟨x, hx, hxheld⟩ := hheld
        have hnone : (a.unregisterNetSupplierForSimUpdate env i).slotIdSimId[i]? = none :=
          unregisterNetSupplier_slotIdSimId hx hxheld
        have hsome : ∃ x ∈ a.netSuppliers, Held i x := ⟨x, hx, hxheld⟩
        simp [hnone, hsome]
      · have hsame : a.unregisterNetSupplierForSimUpdate env i = a :=
          unregisterNetSupplier_of_not_held fun x hx hxheld => hheld ⟨x, hx, hxheld⟩
        simp [hsame, hheld]
    · have hsame : (a.unregisterNetSupplierForSimUpdate env slotId).slotIdSimId[i]? =
          a.slotIdSimId[i]? := unregisterLoop_slotIdSimId_of_ne hi _ _
      simp [hsame, Ne.symm hi]

/-- The agent names the first slot of those that its map has under the SIM id. -/
theorem getSlotId_eq_iff (hi : i ≠ -1) : a.getSlotId simId = i ↔
    a.slotIdSimId[i]? = some simId ∧ ∀ j < i, a.slotIdSimId[j]? ≠ some simId := by
  have hmem : ∀ j, (j, simId) ∈ a.slotIdSimId.toList ↔ a.slotIdSimId[j]? = some simId := by
    intro j
    exact TreeMap.mem_toList_iff_getElem?_eq_some
  have hordered : a.slotIdSimId.toList.Pairwise fun p q => p.1 < q.1 := by
    apply TreeMap.ordered_keys_toList.imp
    intro p q h
    exact Int.compare_eq_lt.mp h
  unfold getSlotId
  cases hfind : a.slotIdSimId.toList.find? fun item => item.2 = simId with
  | none =>
    have hnone : ∀ j : Int, a.slotIdSimId[j]? ≠ some simId := by
      intro j hj
      have hnot := List.find?_eq_none.mp hfind _ ((hmem j).mpr hj)
      simp at hnot
    constructor
    · intro h
      exact absurd h.symm hi
    · rintro ⟨h, -⟩
      exact absurd h (hnone i)
  | some item =>
    obtain ⟨k, id⟩ := item
    obtain ⟨hsim, as, bs, heq, has⟩ := List.find?_eq_some_iff_append.mp hfind
    obtain rfl : id = simId := of_decide_eq_true hsim
    have hk : a.slotIdSimId[k]? = some id := by
      rw [← hmem, heq]
      simp
    rw [heq, List.pairwise_append, List.pairwise_cons] at hordered
    have hfirst : ∀ j < k, a.slotIdSimId[j]? ≠ some id := by
      intro j hj hsome
      have hin := (hmem j).mpr hsome
      rw [heq, List.mem_append, List.mem_cons] at hin
      rcases hin with hbefore | hself | hafter
      · have hnot := has _ hbefore
        simp at hnot
      · have hjk : j = k := congrArg Prod.fst hself
        omega
      · have hlt : k < j := hordered.2.1.1 _ hafter
        omega
    dsimp only
    constructor
    · rintro rfl
      exact ⟨hk, hfirst⟩
    · rintro ⟨hsome, hbefore⟩
      by_contra hne
      rcases Int.lt_or_lt_of_ne hne with hlt | hlt
      · exact hbefore k hlt hk
      · exact hfirst i hlt hsome

/-! Calls one after the other -/

/-- The agent after a call. -/
def after (snssai6 : Nat) (a : CellularDataNetAgent) (c : AgentEnv × AgentLabel) :
    CellularDataNetAgent :=
  (step snssai6 c a).getD a

theorem step_after (c : AgentEnv × AgentLabel) (a : CellularDataNetAgent) :
    step snssai6 c a = some (a.after snssai6 c) := by
  obtain ⟨env, l⟩ := c
  cases l <;> rfl

/-- Calls in their order, each with the agent before it, the last one first. -/
def callsFrom (snssai6 : Nat) : List (AgentEnv × AgentLabel) → CellularDataNetAgent →
    List ((AgentEnv × AgentLabel) × CellularDataNetAgent)
  | [], _ => []
  | c :: cs, a => callsFrom snssai6 cs (a.after snssai6 c) ++ [(c, a)]

variable {K : List ((AgentEnv × AgentLabel) × CellularDataNetAgent)}

theorem slotIdSimId_foldl (h : a.slotIdSimId[i]? = some simId ↔
    Standing (AsksToRegister snssai6 i simId) (AsksToReplace snssai6 i simId) K) :
    (cs.foldl (after snssai6) a).slotIdSimId[i]? = some simId ↔
      Standing (AsksToRegister snssai6 i simId) (AsksToReplace snssai6 i simId)
        (callsFrom snssai6 cs a ++ K) := by
  induction cs generalizing a K with
  | nil => exact h
  | cons c cs ih =>
    have hone : (a.after snssai6 c).slotIdSimId[i]? = some simId ↔
        AsksToRegister snssai6 i simId c a ∨
          ¬ AsksToReplace snssai6 i simId c a ∧ a.slotIdSimId[i]? = some simId :=
      slotIdSimId_step (step_after c a)
    rw [List.foldl_cons, callsFrom, List.append_assoc, List.singleton_append]
    apply ih
    rw [hone, h]
    rfl

/-- A slot is in the map from before, or one of the calls has registered it. -/
theorem of_slotIdSimId_foldl (h : (cs.foldl (after snssai6) a).slotIdSimId[i]? = some simId) :
    a.slotIdSimId[i]? = some simId ∨ ∃ c ∈ cs, c.2 = .register i := by
  induction cs generalizing a with
  | nil => exact .inl h
  | cons c cs ih =>
    rcases ih h with hafter | ⟨c', hc', hregister⟩
    · rcases (slotIdSimId_step (step_after c a)).mp hafter with hasks | ⟨-, hbefore⟩
      · exact .inr ⟨c, List.mem_cons_self, hasks.1⟩
      · exact .inl hbefore
    · exact .inr ⟨c', List.mem_cons_of_mem _ hc', hregister⟩

end CellularDataNetAgent
end CellularData
