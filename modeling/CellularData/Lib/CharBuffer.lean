import Mathlib.Data.List.TakeWhile
import Mathlib.Tactic.SplitIfs

/-! Fixed character buffers and the C strings they hold. -/
namespace Lib

structure CharBuffer (n : Nat) where
  bytes : List UInt8
  size : bytes.length = n
deriving DecidableEq

namespace CharBuffer

variable {n : Nat} (b : CharBuffer n) (s : List UInt8)

def zero (n : Nat) : CharBuffer n := ⟨List.replicate n 0, List.length_replicate⟩

/-- The bytes before the first NUL. -/
def cString : List UInt8 := b.bytes.takeWhile (· ≠ 0)

def strlen : Nat := b.cString.length

def get (i : Nat) : UInt8 := b.bytes.getD i 0

/-- A NUL stands within the buffer. -/
def Terminated : Prop := 0 ∈ b.bytes

instance : Decidable b.Terminated := inferInstanceAs (Decidable (0 ∈ b.bytes))

/-- `s.copy(b, count, 0)`: at most `count` bytes, and no NUL after them. -/
def copy (count : Nat) : CharBuffer n where
  bytes := ((s.take count).take n) ++ b.bytes.drop ((s.take count).take n).length
  size := by
    have h := b.size
    have hle : ((s.take count).take n).length ≤ n := List.length_take_le _ _
    rw [List.length_append, List.length_drop]
    omega

variable {b s}

theorem zero_notMem_cString : 0 ∉ b.cString := by
  intro h
  have := List.mem_takeWhile_imp h
  simp at this

theorem strlen_lt (h : b.Terminated) : b.strlen < n := by
  have hsize := b.size
  have hsub : b.cString <+: b.bytes := List.takeWhile_prefix _
  rcases hsub.length_le.lt_or_eq with hlt | heq
  · exact hlt.trans_eq hsize
  · have hall : b.cString = b.bytes := hsub.eq_of_length heq
    have hmem : 0 ∈ b.cString := by rw [hall]; exact h
    exact absurd hmem zero_notMem_cString

theorem takeWhile_eq_nil_iff_get {l : List UInt8} (hl : l ≠ []) :
    l.takeWhile (· ≠ 0) = [] ↔ l.getD 0 0 = 0 := by
  cases l with
  | nil => exact absurd rfl hl
  | cons x xs =>
    by_cases hx : x = 0
    · simp [hx]
    · simp [hx]

/-- A copied string that fits is what the buffer then holds exactly when the byte behind it is NUL
already. -/
theorem cString_copy_eq_iff {count : Nat} (hs : 0 ∉ s) (hcount : s.length ≤ count)
    (hn : s.length < n) : (b.copy s count).cString = s ↔ b.get s.length = 0 := by
  have htake : (s.take count).take n = s := by
    rw [List.take_of_length_le hcount, List.take_of_length_le hn.le]
  have hall : ∀ x ∈ s, decide (x ≠ 0) = true := by
    intro x hx
    rw [decide_eq_true_eq]
    rintro rfl
    exact hs hx
  have hrest : b.bytes.drop s.length ≠ [] := by
    rw [ne_eq, List.drop_eq_nil_iff, b.size]
    omega
  have hget : (b.bytes.drop s.length).getD 0 0 = b.get s.length := by
    simp [get, List.getD_eq_getElem?_getD]
  show (((s.take count).take n) ++ b.bytes.drop ((s.take count).take n).length).takeWhile
    (· ≠ 0) = s ↔ _
  rw [htake, List.takeWhile_append_of_pos hall, List.append_right_eq_self,
    takeWhile_eq_nil_iff_get hrest, hget]

/-- A cleared buffer gives back what has been copied, up to its first NUL. -/
theorem cString_zero_copy (n count : Nat) (s : List UInt8) :
    ((zero n).copy s count).cString = ((s.take count).take n).takeWhile (· ≠ 0) := by
  have hrest : ∀ k, ((List.replicate n (0 : UInt8)).drop k).takeWhile (· ≠ 0) = [] := by
    intro k
    rw [List.drop_replicate]
    cases n - k with
    | zero => rfl
    | succ m => rfl
  show (((s.take count).take n) ++ (List.replicate n (0 : UInt8)).drop _).takeWhile (· ≠ 0) = _
  rw [List.takeWhile_append, hrest, List.append_nil]
  split_ifs with hall
  · have hsub := List.takeWhile_prefix (fun x : UInt8 => decide (x ≠ 0)) (l := (s.take count).take n)
    exact (hsub.eq_of_length hall).symm
  · rfl

/-- In a cleared buffer a NUL follows what has been copied, if there is room for it. -/
theorem prefix_zero_copy {count : Nat} (s : List UInt8) (h : count < n) :
    s.take count ++ [0] <+: ((zero n).copy s count).bytes := by
  have hle : (s.take count).length ≤ count := List.length_take_le _ _
  have htake : (s.take count).take n = s.take count := List.take_of_length_le (hle.trans h.le)
  show s.take count ++ [0] <+:
    (s.take count).take n ++ (List.replicate n 0).drop ((s.take count).take n).length
  rw [htake, List.drop_replicate, List.prefix_append_right_inj]
  have hroom : n - (s.take count).length = n - (s.take count).length - 1 + 1 := by omega
  rw [hroom, List.replicate_succ]
  exact ⟨_, rfl⟩

end CharBuffer
end Lib
