import Mathlib.Data.Fintype.EquivFin
import Mathlib.Data.List.Nodup

/-! Lists whose entries match one to one. -/
namespace Lib

variable {α β κ : Type*} {R : α → β → Prop} {l : List α} {l' : List β}

/-- A bijection between the places of the lists relates entries that match, and only these. -/
def Matching (R : α → β → Prop) (l : List α) (l' : List β) : Prop :=
  ∃ e : Fin l.length ≃ Fin l'.length, ∀ i, R (l.get i) (l'.get (e i))

namespace Matching

theorem length_eq (h : Matching R l l') : l.length = l'.length := by
  obtain ⟨e, -⟩ := h
  exact Fin.equiv_iff_eq.mp ⟨e⟩

theorem exists_of_mem (h : Matching R l l') {a : α} (ha : a ∈ l) : ∃ b ∈ l', R a b := by
  obtain ⟨e, he⟩ := h
  obtain ⟨i, rfl⟩ := List.get_of_mem ha
  exact ⟨l'.get (e i), List.get_mem l' (e i), he i⟩

theorem symm {R' : β → α → Prop} (hR : ∀ a b, R a b → R' b a) (h : Matching R l l') :
    Matching R' l' l := by
  obtain ⟨e, he⟩ := h
  refine ⟨e.symm, fun i => hR _ _ ?_⟩
  have hi := he (e.symm i)
  rwa [Equiv.apply_symm_apply] at hi

/-- Where matching entries have the same key and no two entries of the one list do, it is enough that
each of them finds a match in a list of the same length. -/
theorem of_keys {f : α → κ} {g : β → κ} (hkey : ∀ a b, R a b → f a = g b)
    (hdistinct : (l.map f).Nodup) (hlength : l.length = l'.length)
    (hall : ∀ a ∈ l, ∃ b ∈ l', R a b) : Matching R l l' := by
  have hplace : ∀ i : Fin l.length, ∃ j : Fin l'.length, R (l.get i) (l'.get j) := by
    intro i
    obtain ⟨b, hb, hR⟩ := hall _ (List.get_mem l i)
    obtain ⟨j, rfl⟩ := List.get_of_mem hb
    exact ⟨j, hR⟩
  choose place hmatch using hplace
  have hinj : Function.Injective place := by
    intro i j hij
    have hi := hkey _ _ (hmatch i)
    have hj := hkey _ _ (hmatch j)
    rw [hij] at hi
    have heq : l.get i = l.get j :=
      List.inj_on_of_nodup_map hdistinct (List.get_mem l i) (List.get_mem l j) (hi.trans hj.symm)
    exact List.nodup_iff_injective_get.mp hdistinct.of_map heq
  have hbij : Function.Bijective place := by
    rw [Fintype.bijective_iff_injective_and_card]
    refine ⟨hinj, ?_⟩
    rw [Fintype.card_fin, Fintype.card_fin, hlength]
  exact ⟨Equiv.ofBijective place hbij, hmatch⟩

end Matching
end Lib
