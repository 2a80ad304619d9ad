import Mathlib.Logic.Basic

/-! A channel of typed values, and what programs that write and read it in order do. -/
namespace Lib

variable {τ : Type} {V : τ → Type} {P α β : Type}

/-- Operations on a channel in state `P`; a value of kind `t` has type `V t`. -/
structure Channel (τ : Type) (V : τ → Type) (P : Type) where
  write : (t : τ) → V t → StateT P Option Unit
  read : (t : τ) → StateT P Option (V t)

namespace Channel

/-- The values come out in the order in which they went in. -/
structure Fifo (C : Channel τ V P) (contents : P → List (Sigma V)) : Prop where
  write : ∀ t v p, ∃ p', (C.write t v).run p = some ((), p') ∧
    contents p' = contents p ++ [⟨t, v⟩]
  read : ∀ t v p rest, contents p = ⟨t, v⟩ :: rest →
    ∃ p', (C.read t).run p = some (v, p') ∧ contents p' = rest

/-- A program that appends the values `vs`. -/
def Writes (contents : P → List (Sigma V)) (m : StateT P Option Unit) (vs : List (Sigma V)) :
    Prop :=
  ∀ p, ∃ p', m.run p = some ((), p') ∧ contents p' = contents p ++ vs

/-- A program that takes the values `vs` from the front and returns `a`. -/
def Reads (contents : P → List (Sigma V)) (m : StateT P Option α) (vs : List (Sigma V)) (a : α) :
    Prop :=
  ∀ p rest, contents p = vs ++ rest → ∃ p', m.run p = some (a, p') ∧ contents p' = rest

variable {C : Channel τ V P} {contents : P → List (Sigma V)} {vs ws : List (Sigma V)}

theorem Fifo.writes (hC : C.Fifo contents) (t : τ) (v : V t) :
    Writes contents (C.write t v) [⟨t, v⟩] :=
  hC.write t v

theorem Fifo.reads (hC : C.Fifo contents) (t : τ) (v : V t) :
    Reads contents (C.read t) [⟨t, v⟩] v :=
  hC.read t v

theorem Writes.bind {m m' : StateT P Option Unit} (h : Writes contents m vs)
    (h' : Writes contents m' ws) : Writes contents (m >>= fun _ => m') (vs ++ ws) := by
  intro p
  obtain ⟨q, hq, hcq⟩ := h p
  obtain ⟨r, hr, hcr⟩ := h' q
  refine ⟨r, ?_, ?_⟩
  · rw [StateT.run_bind, hq]
    exact hr
  · rw [hcr, hcq, List.append_assoc]

theorem Reads.pure (a : α) : Reads contents (Pure.pure a : StateT P Option α) [] a :=
  fun p _ hp => ⟨p, rfl, hp⟩

theorem Reads.bind {m : StateT P Option α} {f : α → StateT P Option β} {a : α} {b : β}
    (h : Reads contents m vs a) (h' : Reads contents (f a) ws b) :
    Reads contents (m >>= f) (vs ++ ws) b := by
  intro p rest hp
  rw [List.append_assoc] at hp
  obtain ⟨q, hq, hcq⟩ := h p _ hp
  obtain ⟨r, hr, hcr⟩ := h' q _ hcq
  refine ⟨r, ?_, hcr⟩
  rw [StateT.run_bind, hq]
  exact hr

/-- What was written to an empty channel is read back. -/
theorem reads_of_writes {m : StateT P Option Unit} {m' : StateT P Option α} {a : α} {p : P}
    (hp : contents p = []) (hm : Writes contents m vs) (hm' : Reads contents m' vs a) :
    ∃ q, (m >>= fun _ => m').run p = some (a, q) ∧ contents q = [] := by
  obtain ⟨q, hq, hcq⟩ := hm p
  obtain ⟨r, hr, hcr⟩ := hm' q [] (by rw [hcq, hp, List.nil_append, List.append_nil])
  refine ⟨r, ?_, hcr⟩
  rw [StateT.run_bind, hq]
  exact hr

/-- The channel that is the list of its values. -/
def queue [DecidableEq τ] : Channel τ V (List (Sigma V)) where
  write t v := fun vs => some ((), vs ++ [⟨t, v⟩])
  read t := fun vs =>
    match vs with
    | [] => none
    | ⟨u, v⟩ :: rest => if h : u = t then some (h ▸ v, rest) else none

theorem queue_fifo [DecidableEq τ] : (queue (V := V)).Fifo id where
  write t v p := ⟨p ++ [⟨t, v⟩], rfl, rfl⟩
  read t v p rest hp := by
    obtain rfl : p = ⟨t, v⟩ :: rest := hp
    refine ⟨rest, ?_, rfl⟩
    simp [queue, StateT.run]

end Channel
end Lib
