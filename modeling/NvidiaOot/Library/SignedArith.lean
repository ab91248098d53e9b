import Mathlib.Data.BitVec
import Mathlib.Algebra.Order.Ring.Abs
import Mathlib.Tactic.Linarith

/-!
# Signed machine arithmetic that is exact

`Denotes x v m` says that the bit vector `x`, read as a two's complement number, is the
integer `v`, and that `v` is at most `m` in absolute value.  A sum, difference or
product of such words denotes the integer result as long as the bounds leave room: the
bounds travel with the values, so that a whole expression is exact once the bound of its
last operation fits.
-/

namespace NvidiaOot.Library

variable {w : ℕ}

/-- `a < b ? a : b` on signed words -/
def smin (a b : BitVec w) : BitVec w := if a.slt b then a else b

/-- `a > b ? a : b` on signed words -/
def smax (a b : BitVec w) : BitVec w := if b.slt a then a else b

theorem toInt_smin (a b : BitVec w) : (smin a b).toInt = min a.toInt b.toInt := by
  unfold smin
  split
  · rename_i h
    rw [BitVec.slt_iff_toInt_lt] at h
    rw [min_eq_left h.le]
  · rename_i h
    rw [BitVec.slt_iff_toInt_lt, not_lt] at h
    rw [min_eq_right h]

theorem toInt_smax (a b : BitVec w) : (smax a b).toInt = max a.toInt b.toInt := by
  unfold smax
  split
  · rename_i h
    rw [BitVec.slt_iff_toInt_lt] at h
    rw [max_eq_left h.le]
  · rename_i h
    rw [BitVec.slt_iff_toInt_lt, not_lt] at h
    rw [max_eq_right h]

/-- The signed value of a word and a bound of its size. -/
structure Denotes (x : BitVec w) (v m : ℤ) : Prop where
  value : x.toInt = v
  bounded : |v| ≤ m

/-- A value in the signed range is its own residue. -/
theorem bmod_two_pow_of_abs_le {v m : ℤ} (hv : |v| ≤ m) (hm : 2 * m < 2 ^ w) : v.bmod (2 ^ w) = v := by
  obtain ⟨hlow, hhigh⟩ := abs_le.mp hv
  apply Int.bmod_eq_of_le_mul_two
  · push_cast
    linarith
  · push_cast
    linarith

namespace Denotes

variable {x y : BitVec w} {a b m n : ℤ}

theorem weaken (h : Denotes x a m) (hmn : m ≤ n) : Denotes x a n :=
  ⟨h.value, h.bounded.trans hmn⟩

/-- The word denotes any expression of the same value. -/
theorem congr (h : Denotes x a m) (hab : a = b) : Denotes x b m := hab ▸ h

section

variable (hx : Denotes x a m)

include hx

section

variable (hy : Denotes y b n)

include hy

theorem add (hfit : 2 * (m + n) < 2 ^ w) :
    Denotes (x + y) (a + b) (m + n) := by
  have hsum : |a + b| ≤ m + n := (abs_add_le a b).trans (add_le_add hx.bounded hy.bounded)
  refine ⟨?_, hsum⟩
  rw [BitVec.toInt_add, hx.value, hy.value, bmod_two_pow_of_abs_le hsum hfit]

theorem sub (hfit : 2 * (m + n) < 2 ^ w) :
    Denotes (x - y) (a - b) (m + n) := by
  have hdiff : |a - b| ≤ m + n := (abs_sub a b).trans (add_le_add hx.bounded hy.bounded)
  refine ⟨?_, hdiff⟩
  rw [BitVec.toInt_sub, hx.value, hy.value, bmod_two_pow_of_abs_le hdiff hfit]

theorem mul (hfit : 2 * (m * n) < 2 ^ w) :
    Denotes (x * y) (a * b) (m * n) := by
  have hprod : |a * b| ≤ m * n := by
    rw [abs_mul]
    exact mul_le_mul hx.bounded hy.bounded (abs_nonneg b) ((abs_nonneg a).trans hx.bounded)
  refine ⟨?_, hprod⟩
  rw [BitVec.toInt_mul, hx.value, hy.value, bmod_two_pow_of_abs_le hprod hfit]

theorem smin : Denotes (smin x y) (min a b) (max m n) := by
  unfold Library.smin
  by_cases hlt : a < b
  · rw [if_pos (BitVec.slt_iff_toInt_lt.mpr (by rwa [hx.value, hy.value])), min_eq_left hlt.le]
    exact hx.weaken (le_max_left m n)
  · have hslt : ¬ x.slt y := by rwa [BitVec.slt_iff_toInt_lt, hx.value, hy.value]
    rw [if_neg hslt, min_eq_right (not_lt.mp hlt)]
    exact hy.weaken (le_max_right m n)

theorem smax : Denotes (smax x y) (max a b) (max m n) := by
  unfold Library.smax
  by_cases hlt : b < a
  · rw [if_pos (BitVec.slt_iff_toInt_lt.mpr (by rwa [hx.value, hy.value])), max_eq_left hlt.le]
    exact hx.weaken (le_max_left m n)
  · have hslt : ¬ y.slt x := by rwa [BitVec.slt_iff_toInt_lt, hx.value, hy.value]
    rw [if_neg hslt, max_eq_right (not_lt.mp hlt)]
    exact hy.weaken (le_max_right m n)

end

end

/-- An unsigned word that is widened keeps its value. -/
theorem ofUnsigned {u : ℕ} (z : BitVec u) (huw : u < w) : Denotes (z.setWidth w) (z.toNat : ℤ) (2 ^ u - 1) := by
  have hz : (z.toNat : ℤ) < 2 ^ u := by exact_mod_cast z.isLt
  refine ⟨?_, ?_⟩
  · rw [BitVec.toInt_eq_toNat_bmod, BitVec.toNat_setWidth_of_le huw.le]
    apply bmod_two_pow_of_abs_le (m := 2 ^ u - 1)
    · rw [abs_of_nonneg (Int.natCast_nonneg _)]
      linarith
    · have hpow : (2 : ℤ) ^ (u + 1) ≤ 2 ^ w := pow_le_pow_right₀ (by norm_num) huw
      rw [pow_succ] at hpow
      linarith
  · rw [abs_of_nonneg (Int.natCast_nonneg _)]
    linarith

/-- A signed word that is widened keeps its value. -/
theorem ofSigned {u : ℕ} (z : BitVec (u + 1)) (huw : u + 1 ≤ w) : Denotes (z.signExtend w) z.toInt (2 ^ u) := by
  refine ⟨BitVec.toInt_signExtend_of_le huw, ?_⟩
  have hlow := BitVec.le_two_mul_toInt (x := z)
  have hhigh := BitVec.two_mul_toInt_lt (x := z)
  rw [pow_succ] at hlow hhigh
  exact abs_le.mpr ⟨by linarith, by linarith⟩

end Denotes

end NvidiaOot.Library
