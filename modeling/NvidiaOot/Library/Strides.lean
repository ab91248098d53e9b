import Mathlib.Tactic.Linarith

/-!
# The extent of a strided access

A nest of loops that adds `a * i` for each loop with stride `a` and index `i = 0, …, r`
reaches the values `StrideReaches dims`, where `dims` lists the pairs `(a, r)`.  Strides may be
negative.  The reached values lie between `lowest dims` and `highest dims`, and both are
reached: an access stays in a range exactly when its two extremes do.
-/

namespace NvidiaOot.Library

/-- The values that a nest of loops adds up. -/
def StrideReaches : List (ℤ × ℕ) → ℤ → Prop
  | [], v => v = 0
  | (a, r) :: dims, v => ∃ i ≤ r, ∃ w, StrideReaches dims w ∧ v = a * i + w

/-- The sum of the negative contributions. -/
def lowest : List (ℤ × ℕ) → ℤ
  | [] => 0
  | (a, r) :: dims => min (a * r) 0 + lowest dims

/-- The sum of the positive contributions. -/
def highest : List (ℤ × ℕ) → ℤ
  | [] => 0
  | (a, r) :: dims => max (a * r) 0 + highest dims

/-- One loop contributes at least its negative extreme and at most its positive one. -/
theorem stride_mem_Icc (a : ℤ) {i r : ℕ} (hi : i ≤ r) : min (a * r) 0 ≤ a * i ∧ a * i ≤ max (a * r) 0 := by
  have hi' : (i : ℤ) ≤ r := by exact_mod_cast hi
  rcases le_total 0 a with ha | ha
  · have hle : a * i ≤ a * r := mul_le_mul_of_nonneg_left hi' ha
    have hpos : 0 ≤ a * i := mul_nonneg ha (Int.natCast_nonneg i)
    exact ⟨min_le_of_right_le hpos, le_max_of_le_left hle⟩
  · have hle : a * r ≤ a * i := mul_le_mul_of_nonpos_left hi' ha
    have hneg : a * i ≤ 0 := mul_nonpos_of_nonpos_of_nonneg ha (Int.natCast_nonneg i)
    exact ⟨min_le_of_left_le hle, le_max_of_le_right hneg⟩

/-- Every reached value lies between the extremes. -/
theorem StrideReaches.bounds {dims : List (ℤ × ℕ)} {v : ℤ} (h : StrideReaches dims v) :
    lowest dims ≤ v ∧ v ≤ highest dims := by
  induction dims generalizing v with
  | nil =>
    cases h
    exact ⟨le_rfl, le_rfl⟩
  | cons d dims ih =>
    obtain ⟨i, hi, w, hw, rfl⟩ := h
    have hstride := stride_mem_Icc d.1 hi
    have hrest := ih hw
    exact ⟨add_le_add hstride.1 hrest.1, add_le_add hstride.2 hrest.2⟩

/-- The lower extreme is reached: loops with a negative stride run to their end. -/
theorem reaches_lowest (dims : List (ℤ × ℕ)) : StrideReaches dims (lowest dims) := by
  induction dims with
  | nil => rfl
  | cons d dims ih =>
    rcases le_total (d.1 * d.2) 0 with hneg | hpos
    · exact ⟨d.2, le_rfl, _, ih, by rw [lowest, min_eq_left hneg]⟩
    · exact ⟨0, Nat.zero_le _, _, ih, by rw [lowest, min_eq_right hpos, Nat.cast_zero, mul_zero]⟩

/-- The upper extreme is reached: loops with a positive stride run to their end. -/
theorem reaches_highest (dims : List (ℤ × ℕ)) : StrideReaches dims (highest dims) := by
  induction dims with
  | nil => rfl
  | cons d dims ih =>
    rcases le_total 0 (d.1 * d.2) with hpos | hneg
    · exact ⟨d.2, le_rfl, _, ih, by rw [highest, max_eq_left hpos]⟩
    · exact ⟨0, Nat.zero_le _, _, ih, by rw [highest, max_eq_right hneg, Nat.cast_zero, mul_zero]⟩

/-- **An access of `size` bytes at each reached value stays in a range exactly when the
two extremes do.** -/
theorem forall_reaches_iff {dims : List (ℤ × ℕ)} {base lo hi size : ℤ} :
    (∀ v, StrideReaches dims v → lo ≤ base + v ∧ base + v + size ≤ hi) ↔
      lo ≤ base + lowest dims ∧ base + highest dims + size ≤ hi := by
  constructor
  · intro h
    exact ⟨(h _ (reaches_lowest dims)).1, (h _ (reaches_highest dims)).2⟩
  · intro h v hv
    have hbounds := hv.bounds
    exact ⟨by linarith, by linarith⟩

theorem lowest_nonpos (dims : List (ℤ × ℕ)) : lowest dims ≤ 0 := by
  induction dims with
  | nil => exact le_rfl
  | cons d dims ih => exact add_nonpos (min_le_right _ _) ih

theorem highest_nonneg (dims : List (ℤ × ℕ)) : 0 ≤ highest dims := by
  induction dims with
  | nil => exact le_rfl
  | cons d dims ih => exact add_nonneg (le_max_right _ _) ih

end NvidiaOot.Library
