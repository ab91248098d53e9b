import Mathlib.Data.Finset.Card

/-!
# Tiled surfaces

A tiled surface has rows of blocks.  A block is a column of units, and a unit has its bytes in an order of its own.
`linear` is the place of a byte when the surface is stored line by line: a place in the tiled surface and one in the
other are numbers with the digits of row, line and column, so that no two bytes have the same place.
-/

namespace NvidiaOot.Library

/-- How a surface is tiled. -/
structure Tiling where
  /-- the bytes of a line of a unit, and its lines -/
  width : ℕ
  height : ℕ
  /-- the units of a block, and the blocks of a row -/
  units : ℕ
  blocks : ℕ
  /-- where a byte of a unit is -/
  x : ℕ → ℕ
  y : ℕ → ℕ
  width_pos : 0 < width
  height_pos : 0 < height
  units_pos : 0 < units
  blocks_pos : 0 < blocks
  x_lt : ∀ n, x n < width
  y_lt : ∀ n, y n < height
  inj : ∀ m n, m < width * height → n < width * height → x m = x n → y m = y n → m = n

/-- Numbers of two digits are the same just if the digits are. -/
theorem digits_inj {a b a' b' n : ℕ} (hb : b < n) (hb' : b' < n) (h : a * n + b = a' * n + b') : a = a' ∧ b = b' := by
  have hpos := Nat.zero_lt_of_lt hb
  have hdigit : ∀ c d, d < n → (c * n + d) / n = c ∧ (c * n + d) % n = d := by
    intro c d hd
    rw [Nat.mul_comm, Nat.mul_add_div hpos, Nat.mul_add_mod, Nat.div_eq_of_lt hd, Nat.mod_eq_of_lt hd]
    exact ⟨rfl, rfl⟩
  obtain ⟨hdiv, hmod⟩ := hdigit a b hb
  obtain ⟨hdiv', hmod'⟩ := hdigit a' b' hb'
  rw [h] at hdiv hmod
  exact ⟨hdiv.symm.trans hdiv', hmod.symm.trans hmod'⟩

namespace Tiling

variable (t : Tiling) {m n : ℕ}

/-- The bytes of a unit, a block and a row of blocks. -/
def unit : ℕ := t.width * t.height
def block : ℕ := t.unit * t.units
def row : ℕ := t.block * t.blocks

/-- The bytes of a line. -/
def pitch : ℕ := t.width * t.blocks

/-- The line and the column in a row of blocks. -/
def line (n : ℕ) : ℕ := t.y (n % t.unit) + n % t.block / t.unit * t.height
def column (n : ℕ) : ℕ := t.x (n % t.unit) + n % t.row / t.block * t.width

/-- The place of a byte when the surface is stored line by line. -/
def linear (n : ℕ) : ℕ := n / t.row * t.row + t.line n * t.pitch + t.column n

theorem unit_pos : 0 < t.unit := Nat.mul_pos t.width_pos t.height_pos

theorem block_pos : 0 < t.block := Nat.mul_pos t.unit_pos t.units_pos

theorem row_pos : 0 < t.row := Nat.mul_pos t.block_pos t.blocks_pos

theorem lines_mul_pitch : t.height * t.units * t.pitch = t.row := by
  unfold pitch row block unit
  ac_rfl

/-- A digit of a place is smaller than the number of units or blocks. -/
theorem digit_lt {k l : ℕ} (hk : 0 < k) (hl : 0 < l) (n : ℕ) : n % (k * l) / k < l := by
  rw [Nat.div_lt_iff_lt_mul hk, Nat.mul_comm l]
  exact Nat.mod_lt n (Nat.mul_pos hk hl)

theorem line_lt (n : ℕ) : t.line n < t.height * t.units := by
  have hunit : n % t.block / t.unit < t.units := digit_lt t.unit_pos t.units_pos n
  calc t.line n < t.height + n % t.block / t.unit * t.height := Nat.add_lt_add_right (t.y_lt _) _
    _ = t.height * (n % t.block / t.unit + 1) := by rw [Nat.mul_add, Nat.mul_one, Nat.add_comm, Nat.mul_comm]
    _ ≤ t.height * t.units := Nat.mul_le_mul_left _ hunit

theorem column_lt (n : ℕ) : t.column n < t.pitch := by
  have hblock : n % t.row / t.block < t.blocks := digit_lt t.block_pos t.blocks_pos n
  calc t.column n < t.width + n % t.row / t.block * t.width := Nat.add_lt_add_right (t.x_lt _) _
    _ = t.width * (n % t.row / t.block + 1) := by rw [Nat.mul_add, Nat.mul_one, Nat.add_comm, Nat.mul_comm]
    _ ≤ t.pitch := Nat.mul_le_mul_left _ hblock

theorem line_mul_pitch_add_lt (n : ℕ) : t.line n * t.pitch + t.column n < t.row := by
  calc t.line n * t.pitch + t.column n < t.line n * t.pitch + t.pitch := Nat.add_lt_add_left (t.column_lt n) _
    _ = (t.line n + 1) * t.pitch := by rw [Nat.add_mul, Nat.one_mul]
    _ ≤ t.height * t.units * t.pitch := Nat.mul_le_mul_right _ (t.line_lt n)
    _ = t.row := t.lines_mul_pitch

theorem linear_div_row (n : ℕ) : t.linear n / t.row = n / t.row := by
  have hlt := t.line_mul_pitch_add_lt n
  unfold linear
  rw [Nat.add_assoc, Nat.mul_comm, Nat.mul_add_div t.row_pos, Nat.div_eq_of_lt hlt, Nat.add_zero]

/-- **The digits of a place**: row, block, unit and the byte of the unit. -/
theorem eq_of_digits (hrow : m / t.row = n / t.row) (hblock : m % t.row / t.block = n % t.row / t.block)
    (hunit : m % t.block / t.unit = n % t.block / t.unit) (hbyte : m % t.unit = n % t.unit) : m = n := by
  have hunits : ∀ k, k % t.block % t.unit = k % t.unit := fun k => Nat.mod_mod_of_dvd k (Nat.dvd_mul_right _ _)
  have hblocks : ∀ k, k % t.row % t.block = k % t.block := fun k => Nat.mod_mod_of_dvd k (Nat.dvd_mul_right _ _)
  have hinBlock : m % t.block = n % t.block := by
    rw [← Nat.div_add_mod (m % t.block) t.unit, ← Nat.div_add_mod (n % t.block) t.unit, hunits, hunits, hunit, hbyte]
  have hinRow : m % t.row = n % t.row := by
    rw [← Nat.div_add_mod (m % t.row) t.block, ← Nat.div_add_mod (n % t.row) t.block, hblocks, hblocks, hblock,
      hinBlock]
  rw [← Nat.div_add_mod m t.row, ← Nat.div_add_mod n t.row, hrow, hinRow]

/-- **No two bytes** have the same place. -/
theorem linear_injective : Function.Injective t.linear := by
  intro m n h
  have hrow : m / t.row = n / t.row := by rw [← t.linear_div_row m, h, t.linear_div_row n]
  have hinRow : t.line m * t.pitch + t.column m = t.line n * t.pitch + t.column n := by
    unfold linear at h
    rw [hrow, Nat.add_assoc, Nat.add_assoc] at h
    exact Nat.add_left_cancel h
  obtain ⟨hline, hcolumn⟩ := digits_inj (t.column_lt m) (t.column_lt n) hinRow
  unfold line at hline
  unfold column at hcolumn
  rw [Nat.add_comm, Nat.add_comm (t.y (n % t.unit))] at hline
  rw [Nat.add_comm, Nat.add_comm (t.x (n % t.unit))] at hcolumn
  obtain ⟨hunit, hy⟩ := digits_inj (t.y_lt _) (t.y_lt _) hline
  obtain ⟨hblock, hx⟩ := digits_inj (t.x_lt _) (t.x_lt _) hcolumn
  exact t.eq_of_digits hrow hblock hunit
    (t.inj _ _ (Nat.mod_lt m t.unit_pos) (Nat.mod_lt n t.unit_pos) hx hy)

/-- **Whole rows** are stored in as many bytes. -/
theorem bijOn_linear (rows : ℕ) : Set.BijOn t.linear (Set.Iio (rows * t.row)) (Set.Iio (rows * t.row)) := by
  have hmaps : Set.MapsTo t.linear (Set.Iio (rows * t.row)) (Set.Iio (rows * t.row)) := by
    intro n hn
    rw [Set.mem_Iio, ← Nat.div_lt_iff_lt_mul t.row_pos] at hn ⊢
    rw [t.linear_div_row]
    exact hn
  refine ⟨hmaps, t.linear_injective.injOn, ?_⟩
  rw [← Finset.coe_range] at hmaps ⊢
  exact Finset.surjOn_of_injOn_of_card_le t.linear hmaps t.linear_injective.injOn le_rfl

end Tiling

end NvidiaOot.Library
