import Mathlib.Data.List.Basic

/-! Lists with one entry modified. -/
namespace Lib

variable {α β : Type*}

theorem map_modify {f : α → α} {g : α → β} {h : β → β} (hc : ∀ a, g (f a) = h (g a)) (l : List α)
    (i : Nat) : (l.modify i f).map g = (l.map g).modify i h := by
  refine List.ext_getElem? fun j => ?_
  rw [List.getElem?_map, List.getElem?_modify, List.getElem?_modify, List.getElem?_map]
  by_cases hij : i = j
  · cases l[j]? <;> simp [hij, hc]
  · cases l[j]? <;> simp [hij]

theorem forall_mem_modify {f : α → α} {P : α → Prop} {l : List α} (hl : ∀ a ∈ l, P a)
    (hf : ∀ a, P a → P (f a)) (i : Nat) : ∀ a ∈ l.modify i f, P a := by
  intro a ha
  obtain ⟨j, hj⟩ := List.mem_iff_getElem?.mp ha
  rw [List.getElem?_modify] at hj
  obtain ⟨b, hb, rfl⟩ := Option.map_eq_some_iff.mp hj
  have hp := hl b (List.mem_of_getElem? hb)
  by_cases hij : i = j
  · simpa only [hij, if_true] using hf b hp
  · simpa only [hij, if_false] using hp

theorem modify_of_getElem? {α : Type*} {l : List α} {n : Nat} {a : α} (h : l[n]? = some a)
    (f : α → α) : l.modify n f = l.set n (f a) := by
  rw [List.modify_eq_set_getElem?, h]
  rfl

theorem set_of_getElem? {α : Type*} {l : List α} {n : Nat} {a : α} (h : l[n]? = some a) :
    l.set n a = l := by
  obtain ⟨hi, rfl⟩ := List.getElem?_eq_some_iff.mp h
  exact List.set_getElem_self hi

end Lib
