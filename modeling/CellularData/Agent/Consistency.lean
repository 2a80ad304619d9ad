import CellularData.Agent.Model

/-! Whether the agent's tables tell what the net manager holds. -/
namespace CellularData
namespace CellularDataNetAgent
open Std Lib

variable {snssai6 : Nat} {env : AgentEnv} {slotId : Int} {a a' : CellularDataNetAgent}

/-- A supplier of the slot is registered with the net manager under the SIM id. -/
def Registered (a : CellularDataNetAgent) (slotId simId : Int) : Prop :=
  ∃ r ∈ a.registrations, r.slotId = slotId ∧ r.simId = simId

def SupplierRegistered (a : CellularDataNetAgent) (slotId : Int) (capability : Nat) : Prop :=
  ∃ r ∈ a.registrations, r.slotId = slotId ∧ r.capability = capability

/-- The tables and the answers of the agent agree with the net manager. -/
structure Consistent (a : CellularDataNetAgent) : Prop where
  slotIdSimId : ∀ slotId simId, a.slotIdSimId[slotId]? = some simId ↔ a.Registered slotId simId
  getSlotId : ∀ simId, a.Registered (a.getSlotId simId) simId ∨
    a.getSlotId simId = -1 ∧ ∀ slotId, ¬ a.Registered slotId simId
  getSupplierId : ∀ slotId capability, a.getSupplierId slotId capability ≠ 0 ↔
    a.SupplierRegistered slotId capability

/-- The suppliers that a registration of the slot reaches. -/
def Reached (snssai6 : Nat) (env : AgentEnv) (slotId : Int) (x : NetSupplier) : Prop :=
  x.slotId = slotId ∧ x.capability ≤ snssai6 ∧ 0 < env.simId

instance (x : NetSupplier) : Decidable (Reached snssai6 env slotId x) :=
  inferInstanceAs (Decidable (_ ∧ _ ∧ _))

/-- A supplier that is registered with the net manager, as far as the agent knows. -/
def Held (slotId : Int) (x : NetSupplier) : Prop := x.slotId = slotId ∧ 0 < x.simId

instance (x : NetSupplier) : Decidable (Held slotId x) := inferInstanceAs (Decidable (_ ∧ _))

/-- The calls that keep the tables right: a registration that finds no supplier or no SIM; one that
finds no supplier registered under another SIM id and leaves one registered under its own; and an
unregistration of a slot without registered suppliers. -/
def Harmless (snssai6 : Nat) (l : AgentEnv × AgentLabel) (a : CellularDataNetAgent) : Prop :=
  match l.2 with
  | .register slotId =>
    (∀ x ∈ a.netSuppliers, ¬ Reached snssai6 l.1 slotId x) ∨
      (∀ x ∈ a.netSuppliers, Held slotId x → x.simId = l.1.simId) ∧
        ∃ x ∈ a.netSuppliers, Held slotId x ∨
          Reached snssai6 l.1 slotId x ∧ (l.1.registerNetSupplier x.capability).isSome = true
  | .unregisterForSimUpdate slotId => ∀ x ∈ a.netSuppliers, ¬ Held slotId x

/-! The two loops -/

section
variable (snssai6 env slotId)

/-- What a registration makes of a supplier. -/
def registered (x : NetSupplier) : NetSupplier :=
  if Reached snssai6 env slotId x then
    match env.registerNetSupplier x.capability with
    | none => x
    | some supplierId =>
      { x with
        supplierId
        simId := env.simId
        regState := env.updateNetSupplierInfo x.capability }
  else x

/-- What an unregistration makes of a supplier. -/
def unregistered (x : NetSupplier) : NetSupplier :=
  if Held slotId x ∧ env.unregisterNetSupplier x.capability = true then { x with simId := 0 }
  else x

end

theorem registerOne_of_not_reached {t : AgentTables × Bool} {x : NetSupplier}
    (hx : ¬ Reached snssai6 env slotId x) : registerOne snssai6 env slotId t x = (t, x) := by
  unfold registerOne
  split_ifs with hslot hcap hsim
  · rfl
  · rfl
  · rfl
  · exact absurd ⟨not_not.mp hslot, by omega, by omega⟩ hx

theorem registerOne_snd {t : AgentTables × Bool} {x : NetSupplier} :
    (registerOne snssai6 env slotId t x).2 = registered snssai6 env slotId x := by
  by_cases hx : Reached snssai6 env slotId x
  · unfold registerOne registered
    obtain ⟨hslot, hcap, hsim⟩ := hx
    rw [if_neg (not_not.mpr hslot), if_neg (by omega), if_neg (by omega),
      if_pos ⟨hslot, hcap, hsim⟩]
    dsimp only
    split <;> simp [*]
  · rw [registerOne_of_not_reached hx, registered, if_neg hx]

theorem registerOne_slotIdSimId {t : AgentTables × Bool} {x : NetSupplier}
    (hx : Reached snssai6 env slotId x) :
    (registerOne snssai6 env slotId t x).1.1.slotIdSimId =
      t.1.slotIdSimId.insert slotId env.simId := by
  unfold registerOne
  obtain ⟨hslot, hcap, hsim⟩ := hx
  rw [if_neg (not_not.mpr hslot), if_neg (by omega), if_neg (by omega)]
  dsimp only
  split <;> rfl

theorem registerOne_registrations {t : AgentTables × Bool} {x : NetSupplier}
    (hx : Reached snssai6 env slotId x) (r : Registration) :
    r ∈ (registerOne snssai6 env slotId t x).1.1.registrations ↔
      r ∈ t.1.registrations ∨ ∃ supplierId, env.registerNetSupplier x.capability = some supplierId ∧
        r = ⟨supplierId, x.slotId, x.capability, env.simId⟩ := by
  unfold registerOne
  obtain ⟨hslot, hcap, hsim⟩ := hx
  rw [if_neg (not_not.mpr hslot), if_neg (by omega), if_neg (by omega)]
  dsimp only
  split
  · rename_i hnone
    simp [hnone]
  · rename_i supplierId hsome
    simp [hsome, or_comm]

theorem forSuppliers_snd {σ : Type} {f : σ → NetSupplier → σ × NetSupplier}
    {g : NetSupplier → NetSupplier} (hf : ∀ s x, (f s x).2 = g x) (xs : List NetSupplier) (s : σ) :
    (forSuppliers f s xs).2 = xs.map g := by
  induction xs generalizing s with
  | nil => rfl
  | cons x xs ih => simp only [forSuppliers, List.map_cons, hf, ih]

theorem forSuppliers_of_fixed {σ : Type} {f : σ → NetSupplier → σ × NetSupplier} {s : σ}
    {xs : List NetSupplier} (hf : ∀ x ∈ xs, f s x = (s, x)) : forSuppliers f s xs = (s, xs) := by
  induction xs with
  | nil => rfl
  | cons x xs ih =>
    rw [List.forall_mem_cons] at hf
    simp only [forSuppliers, hf.1, ih hf.2]

theorem registerLoop_slotIdSimId (xs : List NetSupplier) (t : AgentTables × Bool) (k : Int) :
    (forSuppliers (registerOne snssai6 env slotId) t xs).1.1.slotIdSimId[k]? =
      if k = slotId ∧ ∃ x ∈ xs, Reached snssai6 env slotId x then some env.simId
      else t.1.slotIdSimId[k]? := by
  induction xs generalizing t with
  | nil => simp [forSuppliers]
  | cons x xs ih =>
    simp only [forSuppliers, ih]
    by_cases hx : Reached snssai6 env slotId x
    · rw [registerOne_slotIdSimId hx, TreeMap.getElem?_insert]
      simp only [Std.compare_eq_iff_eq]
      by_cases hk : k = slotId
      · simp [hk, hx]
      · simp [hk, Ne.symm hk]
    · rw [registerOne_of_not_reached hx]
      simp [hx]

theorem registerLoop_registrations (xs : List NetSupplier) (t : AgentTables × Bool)
    (r : Registration) :
    r ∈ (forSuppliers (registerOne snssai6 env slotId) t xs).1.1.registrations ↔
      r ∈ t.1.registrations ∨ ∃ x ∈ xs, Reached snssai6 env slotId x ∧
        ∃ supplierId, env.registerNetSupplier x.capability = some supplierId ∧
          r = ⟨supplierId, x.slotId, x.capability, env.simId⟩ := by
  induction xs generalizing t with
  | nil => simp [forSuppliers]
  | cons x xs ih =>
    simp only [forSuppliers, ih, List.exists_mem_cons_iff]
    by_cases hx : Reached snssai6 env slotId x
    · rw [registerOne_registrations hx, or_assoc, and_iff_right hx]
    · rw [registerOne_of_not_reached hx]
      simp [hx]

theorem unregisterOne_of_not_held {t : AgentTables} {x : NetSupplier} (hx : ¬ Held slotId x) :
    unregisterOne env slotId t x = (t, x) := by
  unfold unregisterOne
  apply if_pos
  by_cases hslot : x.slotId = slotId
  · right
    by_contra hsim
    exact hx ⟨hslot, by omega⟩
  · exact .inl hslot

theorem unregisterOne_snd {t : AgentTables} {x : NetSupplier} :
    (unregisterOne env slotId t x).2 = unregistered env slotId x := by
  by_cases hx : Held slotId x
  · unfold unregisterOne unregistered
    obtain ⟨hslot, hsim⟩ := hx
    rw [if_neg (by simp only [hslot]; omega)]
    dsimp only
    split_ifs with hans hboth hboth
    · rfl
    · exact absurd ⟨⟨hslot, hsim⟩, hans⟩ hboth
    · exact absurd hboth.2 hans
    · rfl
  · rw [unregisterOne_of_not_held hx, unregistered, if_neg (fun h => hx h.1)]

theorem unregisterOne_slotIdSimId {t : AgentTables} {x : NetSupplier}
    (h : t.slotIdSimId[slotId]? = none ∨ Held slotId x) :
    (unregisterOne env slotId t x).1.slotIdSimId[slotId]? = none := by
  by_cases hx : Held slotId x
  · unfold unregisterOne
    obtain ⟨hslot, hsim⟩ := hx
    rw [if_neg (by simp only [hslot]; omega)]
    dsimp only
    split_ifs <;> exact TreeMap.getElem?_erase_self
  · rw [unregisterOne_of_not_held hx]
    exact h.resolve_right hx

/-- A loop that meets a registered supplier takes its slot out of the map. -/
theorem unregisterLoop_slotIdSimId {xs : List NetSupplier} {t : AgentTables}
    (h : t.slotIdSimId[slotId]? = none ∨ ∃ x ∈ xs, Held slotId x) :
    (forSuppliers (unregisterOne env slotId) t xs).1.slotIdSimId[slotId]? = none := by
  induction xs generalizing t with
  | nil =>
    obtain hnone | ⟨x, hx, -⟩ := h
    · exact hnone
    · cases hx
  | cons x xs ih =>
    apply ih
    by_cases hx : t.slotIdSimId[slotId]? = none ∨ Held slotId x
    · exact .inl (unregisterOne_slotIdSimId hx)
    · rw [not_or] at hx
      obtain ⟨y, hy, hheld⟩ := h.resolve_left hx.1
      obtain rfl | hy := List.mem_cons.mp hy
      · exact absurd hheld hx.2
      · exact .inr ⟨y, hy, hheld⟩

/-! The calls -/

theorem registerNetSupplier_netSuppliers :
    (a.registerNetSupplier snssai6 env slotId).1.netSuppliers =
      a.netSuppliers.map (registered snssai6 env slotId) :=
  forSuppliers_snd (f := registerOne snssai6 env slotId) (fun _ _ => registerOne_snd) _ _

theorem registerNetSupplier_slotIdSimId (k : Int) :
    (a.registerNetSupplier snssai6 env slotId).1.slotIdSimId[k]? =
      if k = slotId ∧ ∃ x ∈ a.netSuppliers, Reached snssai6 env slotId x then some env.simId
      else a.slotIdSimId[k]? :=
  registerLoop_slotIdSimId _ _ k

theorem registerNetSupplier_registrations (r : Registration) :
    r ∈ (a.registerNetSupplier snssai6 env slotId).1.registrations ↔
      r ∈ a.registrations ∨ ∃ x ∈ a.netSuppliers, Reached snssai6 env slotId x ∧
        ∃ supplierId, env.registerNetSupplier x.capability = some supplierId ∧
          r = ⟨supplierId, x.slotId, x.capability, env.simId⟩ :=
  registerLoop_registrations _ _ r

theorem registerNetSupplier_of_not_reached
    (h : ∀ x ∈ a.netSuppliers, ¬ Reached snssai6 env slotId x) :
    (a.registerNetSupplier snssai6 env slotId).1 = a := by
  unfold registerNetSupplier
  rw [forSuppliers_of_fixed fun x hx => registerOne_of_not_reached (h x hx)]

theorem unregisterNetSupplier_netSuppliers :
    (a.unregisterNetSupplierForSimUpdate env slotId).netSuppliers =
      a.netSuppliers.map (unregistered env slotId) :=
  forSuppliers_snd (f := unregisterOne env slotId) (fun _ _ => unregisterOne_snd) _ _

theorem unregisterNetSupplier_of_not_held (h : ∀ x ∈ a.netSuppliers, ¬ Held slotId x) :
    a.unregisterNetSupplierForSimUpdate env slotId = a := by
  unfold unregisterNetSupplierForSimUpdate
  rw [forSuppliers_of_fixed fun x hx => unregisterOne_of_not_held (h x hx)]

theorem unregisterNetSupplier_slotIdSimId {x : NetSupplier} (hx : x ∈ a.netSuppliers)
    (hheld : Held slotId x) :
    (a.unregisterNetSupplierForSimUpdate env slotId).slotIdSimId[slotId]? = none :=
  unregisterLoop_slotIdSimId (.inr ⟨x, hx, hheld⟩)

theorem key_registered (x : NetSupplier) : key (registered snssai6 env slotId x) = key x := by
  unfold registered
  split_ifs
  · split <;> rfl
  · rfl

theorem unregistered_frame (x : NetSupplier) :
    key (unregistered env slotId x) = key x ∧
      (unregistered env slotId x).supplierId = x.supplierId := by
  unfold unregistered
  split_ifs <;> exact ⟨rfl, rfl⟩

theorem registered_of_accepted {x : NetSupplier} {supplierId : Nat}
    (hx : Reached snssai6 env slotId x)
    (hans : env.registerNetSupplier x.capability = some supplierId) :
    (registered snssai6 env slotId x).simId = env.simId ∧
      (registered snssai6 env slotId x).supplierId = supplierId := by
  unfold registered
  rw [if_pos hx, hans]
  exact ⟨rfl, rfl⟩

variable (snssai6 env slotId) in
/-- A supplier is accepted or stays as it is. -/
theorem registered_cases (x : NetSupplier) :
    (Reached snssai6 env slotId x ∧ ∃ supplierId,
      env.registerNetSupplier x.capability = some supplierId) ∨
    (registered snssai6 env slotId x = x ∧
      ¬ (Reached snssai6 env slotId x ∧ (env.registerNetSupplier x.capability).isSome = true)) := by
  unfold registered
  split_ifs with hx
  · cases hans : env.registerNetSupplier x.capability with
    | none => exact .inr ⟨rfl, by simp⟩
    | some supplierId => exact .inl ⟨hx, supplierId, rfl⟩
  · exact .inr ⟨rfl, fun h => hx h.1⟩

/-- A supplier that is held or accepted is held under the SIM id of the call. -/
theorem simId_registered {x : NetSupplier}
    (hsame : ∀ x ∈ a.netSuppliers, Held slotId x → x.simId = env.simId) (hx : x ∈ a.netSuppliers)
    (hcase : Held slotId x ∨
      Reached snssai6 env slotId x ∧ (env.registerNetSupplier x.capability).isSome = true) :
    (registered snssai6 env slotId x).simId = env.simId := by
  rcases registered_cases snssai6 env slotId x with
    ⟨hr, id, hans⟩ | ⟨heq, hnot⟩
  · exact (registered_of_accepted hr hans).1
  · rw [heq]
    exact hsame x hx (hcase.resolve_right hnot)

/-! The invariant -/

/-- The agent's record of a supplier is what the net manager holds. -/
structure Sound (a : CellularDataNetAgent) : Prop where
  keys : (a.netSuppliers.map key).Nodup
  held : ∀ x ∈ a.netSuppliers, 0 < x.simId → x.supplierId ≠ 0 ∧
    ∃ r ∈ a.registrations, r.slotId = x.slotId ∧ r.capability = x.capability ∧ r.simId = x.simId
  unheld : ∀ x ∈ a.netSuppliers, x.simId ≤ 0 → x.supplierId = 0 ∧
    ¬ a.SupplierRegistered x.slotId x.capability
  owned : ∀ r ∈ a.registrations, ∃ x ∈ a.netSuppliers,
    key x = (r.slotId, r.capability) ∧ x.simId = r.simId ∧ 0 < x.simId
  mapped : ∀ slotId simId, a.slotIdSimId[slotId]? = some simId ↔
    ∃ x ∈ a.netSuppliers, Held slotId x ∧ x.simId = simId

theorem Sound.registered_iff (h : Sound a) {slotId simId : Int} :
    a.Registered slotId simId ↔ ∃ x ∈ a.netSuppliers, Held slotId x ∧ x.simId = simId := by
  constructor
  · rintro ⟨r, hr, rfl, rfl⟩
    obtain ⟨x, hx, hkey, hsim, hpos⟩ := h.owned r hr
    exact ⟨x, hx, ⟨congrArg Prod.fst hkey, hpos⟩, hsim⟩
  · rintro ⟨x, hx, ⟨rfl, hpos⟩, rfl⟩
    obtain ⟨-, r, hr, hslot, -, hsim⟩ := h.held x hx hpos
    exact ⟨r, hr, hslot, hsim⟩

theorem Sound.consistent (h : Sound a) : Consistent a where
  slotIdSimId slotId simId := by rw [h.mapped, h.registered_iff]
  getSlotId simId := by
    have hmap : ∀ slotId, (slotId, simId) ∈ a.slotIdSimId.toList ↔ a.Registered slotId simId := by
      intro slotId
      rw [TreeMap.mem_toList_iff_getElem?_eq_some, h.mapped, h.registered_iff]
    unfold getSlotId
    cases hfind : a.slotIdSimId.toList.find? fun item => item.2 = simId with
    | some item =>
      left
      have hsim := List.find?_some hfind
      obtain rfl : item.2 = simId := of_decide_eq_true hsim
      exact (hmap item.1).mp (List.mem_of_find?_eq_some hfind)
    | none =>
      right
      refine ⟨rfl, fun slotId hreg => ?_⟩
      have hnot := List.find?_eq_none.mp hfind _ ((hmap slotId).mpr hreg)
      simp at hnot
  getSupplierId slotId capability := by
    unfold getSupplierId
    cases hfind : a.netSuppliers.find? fun x =>
        x.slotId = slotId && x.capability = capability with
    | some x =>
      have hx := List.mem_of_find?_eq_some hfind
      have hkey := List.find?_some hfind
      simp only [Bool.and_eq_true, decide_eq_true_eq] at hkey
      obtain ⟨rfl, rfl⟩ := hkey
      by_cases hsim : 0 < x.simId
      · obtain ⟨hid, r, hr, hslot, hcap, -⟩ := h.held x hx hsim
        exact ⟨fun _ => ⟨r, hr, hslot, hcap⟩, fun _ => hid⟩
      · obtain ⟨hid, hnone⟩ := h.unheld x hx (by omega)
        exact ⟨fun hne => absurd hid hne, fun hreg => absurd hreg hnone⟩
    | none =>
      constructor
      · intro hne
        exact absurd rfl hne
      · rintro ⟨r, hr, rfl, rfl⟩
        obtain ⟨x, hx, hkey, -⟩ := h.owned r hr
        obtain ⟨hslot, hcap⟩ := Prod.mk.inj hkey
        have hnot := List.find?_eq_none.mp hfind x hx
        simp [hslot, hcap] at hnot

theorem sound_init (ha : (system snssai6).init a) : Sound a := by
  obtain ⟨htables, hfresh, hkeys⟩ := ha
  have hregs : a.registrations = [] := congrArg AgentTables.registrations htables
  have hmap : a.slotIdSimId = ∅ := congrArg AgentTables.slotIdSimId htables
  refine ⟨hkeys, ?_, ?_, ?_, ?_⟩
  · intro x hx hsim
    have := (hfresh x hx).2
    omega
  · intro x hx _
    refine ⟨(hfresh x hx).1, ?_⟩
    rintro ⟨r, hr, -⟩
    rw [hregs] at hr
    cases hr
  · intro r hr
    rw [hregs] at hr
    cases hr
  · intro slotId simId
    rw [hmap, TreeMap.getElem?_emptyc]
    constructor
    · intro h
      cases h
    · rintro ⟨x, hx, hheld, -⟩
      have := (hfresh x hx).2
      have := hheld.2
      omega

/-! A registration that reaches suppliers, finds none under another SIM id and leaves one under its
own -/

section
variable (h : Sound a) (hsame : ∀ x ∈ a.netSuppliers, Held slotId x → x.simId = env.simId)
include h

theorem Sound.register_held {x : NetSupplier} (hx : x ∈ a.netSuppliers)
    (hsim : 0 < (registered snssai6 env slotId x).simId) :
    (registered snssai6 env slotId x).supplierId ≠ 0 ∧
      ∃ r ∈ (a.registerNetSupplier snssai6 env slotId).1.registrations,
        r.slotId = x.slotId ∧ r.capability = x.capability ∧
          r.simId = (registered snssai6 env slotId x).simId := by
  rcases registered_cases snssai6 env slotId x with
    ⟨hr, id, hans⟩ | ⟨heq, -⟩
  · obtain ⟨hsim', hid⟩ := registered_of_accepted hr hans
    refine ⟨?_, ⟨id, x.slotId, x.capability, env.simId⟩, ?_, rfl, rfl, hsim'.symm⟩
    · rw [hid]
      rintro rfl
      exact env.supplierId_ne_zero _ hans
    · exact registerNetSupplier_registrations _ |>.mpr (.inr ⟨x, hx, hr, id, hans, rfl⟩)
  · rw [heq] at hsim ⊢
    obtain ⟨hid, r, hr, hrest⟩ := h.held x hx hsim
    exact ⟨hid, r, registerNetSupplier_registrations r |>.mpr (.inl hr), hrest⟩

theorem Sound.register_unheld {x : NetSupplier} (hx : x ∈ a.netSuppliers)
    (hsim : (registered snssai6 env slotId x).simId ≤ 0) :
    (registered snssai6 env slotId x).supplierId = 0 ∧
      ¬ (a.registerNetSupplier snssai6 env slotId).1.SupplierRegistered x.slotId x.capability := by
  rcases registered_cases snssai6 env slotId x with
    ⟨hr, id, hans⟩ | ⟨heq, hnot⟩
  · rw [(registered_of_accepted hr hans).1] at hsim
    have := hr.2.2
    omega
  · rw [heq] at hsim ⊢
    obtain ⟨hid, hnone⟩ := h.unheld x hx hsim
    refine ⟨hid, ?_⟩
    rintro ⟨r, hr, hslot, hcap⟩
    rcases registerNetSupplier_registrations r |>.mp hr with hr | ⟨y, hy, hry, id, hans, rfl⟩
    · exact hnone ⟨r, hr, hslot, hcap⟩
    · have hkey : key y = key x := Prod.ext hslot hcap
      obtain rfl := List.inj_on_of_nodup_map h.keys hy hx hkey
      exact hnot ⟨hry, by rw [hans]; rfl⟩

include hsame

theorem Sound.register_owned {r : Registration}
    (hr : r ∈ (a.registerNetSupplier snssai6 env slotId).1.registrations) :
    ∃ x ∈ a.netSuppliers, key x = (r.slotId, r.capability) ∧
      (registered snssai6 env slotId x).simId = r.simId ∧
        0 < (registered snssai6 env slotId x).simId := by
  rcases registerNetSupplier_registrations r |>.mp hr with hr | ⟨y, hy, hry, id, hans, rfl⟩
  · obtain ⟨x, hx, hkey, hsim, hpos⟩ := h.owned r hr
    have hkept : (registered snssai6 env slotId x).simId = x.simId := by
      rcases registered_cases snssai6 env slotId x with
        ⟨hr', id, hans⟩ | ⟨heq, -⟩
      · have hheld : Held slotId x := ⟨hr'.1, hpos⟩
        rw [simId_registered hsame hx (.inl hheld), hsame x hx hheld]
      · rw [heq]
    exact ⟨x, hx, hkey, hkept.trans hsim, hkept ▸ hpos⟩
  · have hsim := (registered_of_accepted hry hans).1
    exact ⟨y, hy, rfl, hsim, hsim ▸ hry.2.2⟩

theorem Sound.register_mapped (hreached : ∃ x ∈ a.netSuppliers, Reached snssai6 env slotId x)
    (hleft : ∃ x ∈ a.netSuppliers, Held slotId x ∨
      Reached snssai6 env slotId x ∧ (env.registerNetSupplier x.capability).isSome = true)
    (k simId : Int) :
    (a.registerNetSupplier snssai6 env slotId).1.slotIdSimId[k]? = some simId ↔
      ∃ x ∈ a.netSuppliers, Held k (registered snssai6 env slotId x) ∧
        (registered snssai6 env slotId x).simId = simId := by
  have hslot : ∀ x, (registered snssai6 env slotId x).slotId = x.slotId :=
    fun x => congrArg Prod.fst (key_registered x)
  rw [registerNetSupplier_slotIdSimId]
  by_cases hk : k = slotId
  · rw [if_pos ⟨hk, hreached⟩]
    subst hk
    constructor
    · intro heq
      obtain rfl := Option.some.inj heq
      obtain ⟨x₀, -, hr⟩ := hreached
      obtain ⟨x, hx, hcase⟩ := hleft
      have hsim := simId_registered hsame hx hcase
      refine ⟨x, hx, ⟨?_, hsim ▸ hr.2.2⟩, hsim⟩
      rw [hslot]
      exact hcase.elim (fun hheld => hheld.1) (fun hr => hr.1.1)
    · rintro ⟨x, hx, ⟨hxslot, hpos⟩, rfl⟩
      rw [hslot] at hxslot
      congr 1
      rcases registered_cases snssai6 env k x with
        ⟨hr, id, hans⟩ | ⟨heq, -⟩
      · exact (registered_of_accepted hr hans).1.symm
      · rw [heq] at hpos ⊢
        exact (hsame x hx ⟨hxslot, hpos⟩).symm
  · rw [if_neg (fun hand => hk hand.1), h.mapped]
    have hfix : ∀ x, x.slotId = k → registered snssai6 env slotId x = x := by
      intro x hx
      unfold registered
      exact if_neg fun hr => hk (hx.symm.trans hr.1)
    constructor
    · rintro ⟨x, hx, hheld, hsim⟩
      refine ⟨x, hx, ?_⟩
      rw [hfix x hheld.1]
      exact ⟨hheld, hsim⟩
    · rintro ⟨x, hx, hheld, hsim⟩
      have hxk : x.slotId = k := (hslot x).symm.trans hheld.1
      rw [hfix x hxk] at hheld hsim
      exact ⟨x, hx, hheld, hsim⟩

theorem Sound.register (hreached : ∃ x ∈ a.netSuppliers, Reached snssai6 env slotId x)
    (hleft : ∃ x ∈ a.netSuppliers, Held slotId x ∨
      Reached snssai6 env slotId x ∧ (env.registerNetSupplier x.capability).isSome = true) :
    Sound (a.registerNetSupplier snssai6 env slotId).1 := by
  have hkey : ∀ x, key (registered snssai6 env slotId x) = key x := key_registered
  refine ⟨?_, ?_, ?_, ?_, ?_⟩
  · rw [registerNetSupplier_netSuppliers, List.map_map]
    have hcomp : key ∘ registered snssai6 env slotId = key := funext hkey
    rw [hcomp]
    exact h.keys
  · rw [registerNetSupplier_netSuppliers]
    simp only [List.forall_mem_map]
    intro x hx hsim
    obtain ⟨hslot, hcap⟩ := Prod.mk.inj (hkey x)
    rw [hslot, hcap]
    exact h.register_held hx hsim
  · rw [registerNetSupplier_netSuppliers]
    simp only [List.forall_mem_map]
    intro x hx hsim
    obtain ⟨hslot, hcap⟩ := Prod.mk.inj (hkey x)
    rw [hslot, hcap]
    exact h.register_unheld hx hsim
  · intro r hr
    rw [registerNetSupplier_netSuppliers]
    simp only [List.mem_map, exists_exists_and_eq_and, hkey]
    exact h.register_owned hsame hr
  · intro k simId
    rw [registerNetSupplier_netSuppliers]
    simp only [List.mem_map, exists_exists_and_eq_and]
    exact h.register_mapped hsame hreached hleft k simId

end

/-! Runs -/

theorem Sound.step_harmless (h : Sound a) {l : AgentEnv × AgentLabel}
    (hl : Harmless snssai6 l a) (hstep : step snssai6 l a = some a') : Sound a' := by
  obtain ⟨env, c⟩ := l
  cases c with
  | register slotId =>
    obtain rfl := Option.some.inj hstep
    by_cases hreached : ∃ x ∈ a.netSuppliers, Reached snssai6 env slotId x
    · have hnot : ¬ ∀ x ∈ a.netSuppliers, ¬ Reached snssai6 env slotId x := by
        intro hall
        obtain ⟨x, hx, hr⟩ := hreached
        exact hall x hx hr
      obtain ⟨hsame, hleft⟩ := hl.resolve_left hnot
      exact h.register hsame hreached hleft
    · rw [registerNetSupplier_of_not_reached fun x hx hr => hreached ⟨x, hx, hr⟩]
      exact h
  | unregisterForSimUpdate slotId =>
    obtain rfl := Option.some.inj hstep
    rw [unregisterNetSupplier_of_not_held hl]
    exact h

/-- A registration that changes the SIM id of the slot, or of which the net manager takes nothing,
leaves the map wrong. -/
theorem Sound.register_harmless (h : Sound a)
    (hc : Consistent (a.registerNetSupplier snssai6 env slotId).1) :
    Harmless snssai6 (env, .register slotId) a := by
  by_cases hreached : ∃ x ∈ a.netSuppliers, Reached snssai6 env slotId x
  · right
    have hmap : (a.registerNetSupplier snssai6 env slotId).1.slotIdSimId[slotId]? = _ :=
      registerNetSupplier_slotIdSimId slotId
    rw [if_pos ⟨rfl, hreached⟩] at hmap
    constructor
    · intro x hx hheld
      obtain ⟨-, r, hr, hslot, -, hsim⟩ := h.held x hx hheld.2
      have hreg := hc.slotIdSimId slotId x.simId |>.mpr
        ⟨r, registerNetSupplier_registrations r |>.mpr (.inl hr), hslot.trans hheld.1, hsim⟩
      rw [hmap] at hreg
      exact (Option.some.inj hreg).symm
    · obtain ⟨r, hr, hslot, hsim⟩ := hc.slotIdSimId slotId env.simId |>.mp hmap
      rcases registerNetSupplier_registrations r |>.mp hr with hr | ⟨y, hy, hry, id, hans, rfl⟩
      · obtain ⟨x, hx, hkey, -, hpos⟩ := h.owned r hr
        have hxslot : x.slotId = r.slotId := congrArg Prod.fst hkey
        exact ⟨x, hx, .inl ⟨hxslot.trans hslot, hpos⟩⟩
      · exact ⟨y, hy, .inr ⟨hry, by rw [hans]; rfl⟩⟩
  · exact .inl fun x hx hr => hreached ⟨x, hx, hr⟩

theorem Sound.find?_unregistered (h : Sound a) {x : NetSupplier} (hx : x ∈ a.netSuppliers) :
    (a.netSuppliers.map (unregistered env slotId)).find?
      (fun y => y.slotId = x.slotId && y.capability = x.capability) =
        some (unregistered env slotId x) := by
  have hkey : ∀ y : NetSupplier, (y.slotId = x.slotId && y.capability = x.capability) = true ↔
      key y = key x := by
    intro y
    simp [key, Prod.ext_iff]
  cases hfind : (a.netSuppliers.map (unregistered env slotId)).find?
      (fun y => y.slotId = x.slotId && y.capability = x.capability) with
  | some z =>
    obtain ⟨y, hy, rfl⟩ := List.mem_map.mp (List.mem_of_find?_eq_some hfind)
    have htrue := List.find?_some hfind
    have hyx := hkey _ |>.mp htrue
    rw [(unregistered_frame y).1] at hyx
    rw [List.inj_on_of_nodup_map h.keys hy hx hyx]
  | none =>
    have hnot := List.find?_eq_none.mp hfind _ (List.mem_map_of_mem hx)
    exact absurd (hkey _ |>.mpr (unregistered_frame x).1) hnot

/-- An unregistration keeps the supplier's number and takes the slot out of the map: whatever the net
manager answers, one of them is wrong. -/
theorem Sound.unregister_harmless (h : Sound a)
    (hc : Consistent (a.unregisterNetSupplierForSimUpdate env slotId)) :
    Harmless snssai6 (env, .unregisterForSimUpdate slotId) a := by
  intro x hx hheld
  have hmap : (a.unregisterNetSupplierForSimUpdate env slotId).slotIdSimId[slotId]? = none :=
    unregisterNetSupplier_slotIdSimId hx hheld
  have hid : (a.unregisterNetSupplierForSimUpdate env slotId).getSupplierId x.slotId x.capability =
      x.supplierId := by
    unfold getSupplierId
    rw [unregisterNetSupplier_netSuppliers, h.find?_unregistered hx]
    exact (unregistered_frame x).2
  have hreg := hc.getSupplierId x.slotId x.capability |>.mp
    (by rw [hid]; exact (h.held x hx hheld.2).1)
  obtain ⟨r, hr, hslot, -⟩ := hreg
  have hsome := hc.slotIdSimId slotId r.simId |>.mpr ⟨r, hr, hslot.trans hheld.1, rfl⟩
  rw [hmap] at hsome
  cases hsome

theorem Sound.step_iff (h : Sound a) {l : AgentEnv × AgentLabel}
    (hstep : step snssai6 l a = some a') : Consistent a' ↔ Harmless snssai6 l a := by
  refine ⟨fun hc => ?_, fun hl => (h.step_harmless hl hstep).consistent⟩
  obtain ⟨env, c⟩ := l
  cases c with
  | register slotId =>
    obtain rfl := Option.some.inj hstep
    exact h.register_harmless hc
  | unregisterForSimUpdate slotId =>
    obtain rfl := Option.some.inj hstep
    exact h.unregister_harmless hc

variable {h : List ((AgentEnv × AgentLabel) × CellularDataNetAgent)}

theorem sound_of_harmless (hh : (system snssai6).History h a)
    (hl : ∀ p ∈ h, Harmless snssai6 p.1 p.2) : Sound a := by
  induction hh with
  | init hs => exact sound_init hs
  | step _ hstep ih =>
    rw [List.forall_mem_cons] at hl
    exact (ih hl.2).step_harmless hl.1 hstep

/-- The agent agrees with the net manager after each call of a run exactly when every call of the run
is harmless. -/
theorem consistent_iff_harmless (hh : (system snssai6).History h a) :
    (∀ x ∈ a :: h.map Prod.snd, Consistent x) ↔ ∀ p ∈ h, Harmless snssai6 p.1 p.2 := by
  induction hh with
  | init hs => simp [(sound_init hs).consistent]
  | step hh hstep ih =>
    simp only [List.map_cons, List.forall_mem_cons] at ih ⊢
    constructor
    · rintro ⟨hc', hc, hrest⟩
      have hl := ih.mp ⟨hc, hrest⟩
      exact ⟨(sound_of_harmless hh hl).step_iff hstep |>.mp hc', hl⟩
    · rintro ⟨hl, hrest⟩
      obtain ⟨hc, hcs⟩ := ih.mpr hrest
      exact ⟨(sound_of_harmless hh hrest).step_iff hstep |>.mpr hl, hc, hcs⟩

/-- SIM id 1, and a net manager that takes everything. -/
def acceptingEnv : AgentEnv where
  simId := 1
  registerNetSupplier := fun _ => some 1
  unregisterNetSupplier := fun _ => true
  supplierId_ne_zero := by simp

theorem consistent_iff_harmless_registered :
    ∃ h a, (system 18).History h a ∧ a.getSlotId 1 = 0 ∧
      ∀ x ∈ a :: h.map Prod.snd, Consistent x := by
  have hinit : (system 18).init (initModule [0, 1] [12]) :=
    initModule_init (by decide) (by decide)
  have hh : (system 18).History [((acceptingEnv, .register 0), initModule [0, 1] [12])]
      ((initModule [0, 1] [12]).registerNetSupplier 18 acceptingEnv 0).1 :=
    .step (.init hinit) rfl
  refine ⟨_, _, hh, by decide +kernel, (consistent_iff_harmless hh).mpr ?_⟩
  simp only [List.forall_mem_singleton]
  right
  refine ⟨?_, _, List.mem_cons_self, .inr ?_⟩
  · intro x hx hheld
    simp only [initModule, List.flatMap_cons, List.map_cons, List.map_nil, List.flatMap_nil,
      List.append_nil, List.cons_append, List.nil_append, List.mem_cons, List.not_mem_nil,
      or_false] at hx
    rcases hx with rfl | rfl <;> exact absurd hheld.2 (by decide)
  · decide

/-- The net manager takes the registration and the unregistration; the agent still answers with the
number of the supplier. -/
theorem supplier_id_lingers :
    ∃ h a, (system 18).History h a ∧ a.registrations = [] ∧ a.getSupplierId 0 12 = 1 ∧
      ¬ Consistent a := by
  have hinit : (system 18).init (initModule [0, 1] [12]) :=
    initModule_init (by decide) (by decide)
  obtain ⟨h, a, hh, hp⟩ := TransitionSystem.exists_history hinit
    [(acceptingEnv, .register 0), (acceptingEnv, .unregisterForSimUpdate 0)]
    (p := fun _ a => a.registrations = [] && a.getSupplierId 0 12 = 1) (by decide +kernel)
  simp only [Bool.and_eq_true, decide_eq_true_eq] at hp
  refine ⟨h, a, hh, hp.1, hp.2, fun hc => ?_⟩
  obtain ⟨r, hr, -⟩ := hc.getSupplierId 0 12 |>.mp (by omega)
  rw [hp.1] at hr
  cases hr

end CellularDataNetAgent
end CellularData
