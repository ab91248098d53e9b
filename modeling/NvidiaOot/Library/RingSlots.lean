import NvidiaOot.Library.RingQueue

/-!
# Consecutive slots of a ring

A ring of `n` slots is written at a position that wraps and released behind another one.
Counted without wrapping, `start` slots have been released and `used` are in use behind
them: they are `ringSlots n start used`.  One slot is never used, so that a full ring is not
taken for an empty one; the position before `start` is the limit of writing.
-/

namespace NvidiaOot.Library

variable {n : ℕ}

/-- The `k` slots of a ring from the one that is number `c` of all. -/
def ringSlots (n c k : ℕ) : List ℕ := (List.range k).map fun i => (c + i) % n

@[simp] theorem ringSlots_zero (c : ℕ) : ringSlots n c 0 = [] := rfl

@[simp] theorem length_ringSlots (c k : ℕ) : (ringSlots n c k).length = k := by
  simp [ringSlots]

theorem ringSlots_succ (c k : ℕ) : ringSlots n c (k + 1) = ringSlots n c k ++ [(c + k) % n] := by
  simp [ringSlots, List.range_succ]

theorem ringSlots_add (c a b : ℕ) : ringSlots n c (a + b) = ringSlots n c a ++ ringSlots n (c + a) b := by
  induction b with
  | zero => simp
  | succ b ih => rw [← add_assoc, ringSlots_succ, ih, ringSlots_succ, List.append_assoc, add_assoc]

theorem ringSlots_mod (c k : ℕ) : ringSlots n (c % n) k = ringSlots n c k := by
  simp [ringSlots]

theorem mem_ringSlots {c k j : ℕ} : j ∈ ringSlots n c k ↔ ∃ i < k, (c + i) % n = j := by
  simp [ringSlots]

/-- Slots of two stretches that together are shorter than the ring. -/
theorem disjoint_ringSlots {c k d m : ℕ} (hcd : c + k ≤ d) (hdn : d + m ≤ c + n) :
    (ringSlots n c k).Disjoint (ringSlots n d m) := by
  intro j hc hd
  obtain ⟨i, hi, rfl⟩ := mem_ringSlots.mp hc
  obtain ⟨i', hi', heq⟩ := mem_ringSlots.mp hd
  exact mod_ne_of_outstanding (c := c) (p := d + i') (by omega) (by omega) (by omega) heq.symm

theorem ring_advance {p k : ℕ} (hp : p < n) (hk : k ≤ n) :
    (if p + k ≥ n then p + k - n else p + k) = (p + k) % n := by
  split_ifs with h
  · rw [Nat.mod_eq_sub_mod h, Nat.mod_eq_of_lt (by omega)]
  · rw [Nat.mod_eq_of_lt (by omega)]

theorem Stored.drained {γ : Type} (n : ℕ) (slot : ℕ → γ) (sent : List γ) : Stored n slot sent sent :=
  ⟨List.prefix_refl _, by omega, fun i hc hi => absurd hi (by omega)⟩

/-- **The ring is drained** when the slots of all outstanding elements are taken, oldest first. -/
theorem Stored.receive_all {γ : Type} {slot : ℕ → γ} {sent received : List γ} (h : Stored n slot sent received) :
    received ++ (ringSlots n received.length (sent.length - received.length)).map slot = sent := by
  obtain ⟨rest, rfl⟩ := h.isPrefix
  rw [List.append_cancel_left_eq, List.length_append, Nat.add_sub_cancel_left]
  apply List.ext_getElem?
  intro i
  by_cases hi : i < rest.length
  · have hslot := h.contents (received.length + i) (by omega)
      (by rw [List.length_append]; omega)
    rw [List.getElem?_append_right (by omega), Nat.add_sub_cancel_left] at hslot
    rw [hslot]
    simp [ringSlots, hi]
  · rw [List.getElem?_eq_none (by simp; omega), List.getElem?_eq_none (by omega)]

end NvidiaOot.Library
