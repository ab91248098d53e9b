import Mathlib.Data.BitVec

/-!
# Tables of bits

A table of words of `w` bits is a set of numbers: `n` is in it when bit `n % w` of word
`n / w` is set.  Setting and clearing the bit of `n` in its word inserts and removes `n`.
-/

namespace NvidiaOot.Library

open Function

variable {w : ℕ}

/-- The bit of `n`. -/
def tableBit (t : ℕ → BitVec w) (n : ℕ) : Bool := (t (n / w)).getLsbD (n % w)

/-- The table after the word of `n` has been changed. -/
def updateWord (t : ℕ → BitVec w) (n : ℕ) (f : ℕ → BitVec w → BitVec w) : ℕ → BitVec w :=
  update t (n / w) (f (n % w) (t (n / w)))

theorem eq_of_div_mod_eq {m n : ℕ} (hdiv : m / w = n / w) (hmod : m % w = n % w) : m = n := by
  rw [← Nat.div_add_mod m w, ← Nat.div_add_mod n w, hdiv, hmod]

/-- Whether bit `k` of the single bit at `n` is set. -/
theorem getLsbD_one_shiftLeft {k n : ℕ} (hk : k < w) : ((1 : BitVec w) <<< n).getLsbD k = decide (k = n) := by
  rcases lt_trichotomy k n with hlt | heq | hgt
  · simp [hlt, hlt.ne]
  · simp [heq, BitVec.getLsbD_one]
    omega
  · have hsub : k - n ≠ 0 := by omega
    simp [hgt.ne', hgt.not_gt, BitVec.getLsbD_one, hsub]

theorem tableBit_updateWord (t : ℕ → BitVec w) (m n : ℕ) (f : ℕ → BitVec w → BitVec w) :
    tableBit (updateWord t n f) m =
      if m / w = n / w then (f (n % w) (t (n / w))).getLsbD (m % w) else tableBit t m := by
  unfold tableBit updateWord
  split
  case isTrue h => rw [h, update_self]
  case isFalse h => rw [update_of_ne h]

theorem tableBit_set (hw : 0 < w) (t : ℕ → BitVec w) (m n : ℕ) :
    tableBit (updateWord t n fun nr word => word ||| (1 : BitVec w) <<< nr) m =
      (tableBit t m || decide (m = n)) := by
  rw [tableBit_updateWord]
  split
  case isTrue hdiv =>
    rw [BitVec.getLsbD_or, getLsbD_one_shiftLeft (Nat.mod_lt m hw), tableBit, hdiv]
    congr 1
    by_cases hmod : m % w = n % w
    · simp [eq_of_div_mod_eq hdiv hmod]
    · have hne : m ≠ n := fun h => hmod (h ▸ rfl)
      simp [hmod, hne]
  case isFalse hdiv =>
    have hne : m ≠ n := fun h => hdiv (h ▸ rfl)
    simp [hne]

theorem tableBit_clear (hw : 0 < w) (t : ℕ → BitVec w) (m n : ℕ) :
    tableBit (updateWord t n fun nr word => word &&& ~~~((1 : BitVec w) <<< nr)) m =
      (tableBit t m && decide (m ≠ n)) := by
  rw [tableBit_updateWord]
  split
  case isTrue hdiv =>
    rw [BitVec.getLsbD_and, BitVec.getLsbD_not, getLsbD_one_shiftLeft (Nat.mod_lt m hw), tableBit, hdiv]
    congr 1
    by_cases hmod : m % w = n % w
    · simp [eq_of_div_mod_eq hdiv hmod]
    · have hne : m ≠ n := fun h => hmod (h ▸ rfl)
      simp [hmod, hne, Nat.mod_lt m hw]
  case isFalse hdiv =>
    have hne : m ≠ n := fun h => hdiv (h ▸ rfl)
    simp [hne]

end NvidiaOot.Library
