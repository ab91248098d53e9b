import NvidiaOot.Library.ByteArea
import Mathlib.Data.Nat.ModEq

/-!
# Copies into and out of a ring of words

A ring of `n` words is an area whose position `n` is position `0` again.  A copy that goes
over the end is made in two pieces; `toRing` and `fromRing` are these copies, and `ringSlice`
reads the words from a position on.
-/

namespace NvidiaOot.Library

variable {β : Type} {n p q i len k : ℕ} {m src dst : ℕ → β}

/-- The words of the ring from position `p` on. -/
def ringSlice (n : ℕ) (m : ℕ → β) (p len : ℕ) : List β :=
  (List.range len).map fun i => m ((p + i) % n)

/-- Copy `len` words into the ring, up to its end and from its start. -/
def toRing (n : ℕ) (m : ℕ → β) (p len : ℕ) (src : ℕ → β) : ℕ → β :=
  blit (blit m p (min len (n - p)) src) 0 (len - (n - p)) fun i => src (n - p + i)

/-- Copy `len` words out of the ring. -/
def fromRing (n : ℕ) (m : ℕ → β) (p len : ℕ) (dst : ℕ → β) : ℕ → β :=
  blit (blit dst 0 (min len (n - p)) fun i => m (p + i)) (n - p) (len - (n - p)) m

/-- A position of the ring, before or after its end. -/
theorem ring_position (hp : p < n) (hi : i < n) :
    (p + i) % n = p + i ∧ p + i < n ∨ (p + i) % n = p + i - n ∧ n ≤ p + i := by
  by_cases hend : p + i < n
  · exact Or.inl ⟨Nat.mod_eq_of_lt hend, hend⟩
  · refine Or.inr ⟨?_, by omega⟩
    rw [Nat.mod_eq_sub_mod (by omega)]
    exact Nat.mod_eq_of_lt (by omega)

/-- **What is in the ring after a copy.** -/
theorem toRing_apply (hp : p < n) (hi : i < n) (hlen : len ≤ n) :
    toRing n m p len src ((p + i) % n) = if i < len then src i else m ((p + i) % n) := by
  unfold toRing blit
  rcases ring_position hp hi with ⟨hmod, hend⟩ | ⟨hmod, hend⟩
  · rw [hmod]
    by_cases hin : i < len
    · rw [if_pos hin, if_neg (by omega), if_pos (by omega), Nat.add_sub_cancel_left]
    · rw [if_neg hin, if_neg (by omega), if_neg (by omega)]
  rw [hmod]
  by_cases hin : i < len
  · have hback : n - p + (p + i - n - 0) = i := by omega
    rw [if_pos hin, if_pos (by omega)]
    exact congrArg src hback
  · rw [if_neg hin, if_neg (by omega), if_neg (by omega)]

/-- **What has come out of the ring after a copy.** -/
theorem fromRing_apply (hp : p < n) (hlen : len ≤ n) :
    fromRing n m p len dst i = if i < len then m ((p + i) % n) else dst i := by
  unfold fromRing blit
  by_cases hin : i < len
  · rw [if_pos hin]
    rcases ring_position hp (hin.trans_le hlen) with ⟨hmod, hend⟩ | ⟨hmod, hend⟩
    · rw [hmod, if_neg (by omega), if_pos (by omega), Nat.sub_zero]
    · have hback : i - (n - p) = p + i - n := by omega
      rw [hmod, if_pos (by omega), hback]
  · rw [if_neg hin, if_neg (by omega), if_neg (by omega)]

@[simp] theorem length_ringSlice : (ringSlice n m p len).length = len := by
  simp [ringSlice]

theorem ringSlice_mod : ringSlice n m (p % n) len = ringSlice n m p len := by
  unfold ringSlice
  simp

theorem ringSlice_add (a b : ℕ) : ringSlice n m p (a + b) = ringSlice n m p a ++ ringSlice n m (p + a) b := by
  unfold ringSlice
  rw [List.range_add, List.map_append, List.map_map]
  simp [Function.comp_def, Nat.add_assoc]

theorem ringSlice_toRing (hp : p < n) (hlen : len ≤ n) :
    ringSlice n (toRing n m p len src) p len = (List.range len).map src := by
  apply List.map_congr_left
  intro i hi
  have hi := List.mem_range.mp hi
  rw [toRing_apply hp (hi.trans_le hlen) hlen, if_pos hi]

theorem ringSlice_toRing_of_le (hp : p < n) (hlen : len ≤ q) (hq : q + k ≤ n) :
    ringSlice n (toRing n m p len src) (p + q) k = ringSlice n m (p + q) k := by
  apply List.map_congr_left
  intro i hi
  have hi := List.mem_range.mp hi
  rw [Nat.add_assoc, toRing_apply hp (by omega) (by omega), if_neg (by omega)]

theorem getElem?_ringSlice (h : i < len) : (ringSlice n m p len)[i]? = some (m ((p + i) % n)) := by
  simp [ringSlice, h]

end NvidiaOot.Library
