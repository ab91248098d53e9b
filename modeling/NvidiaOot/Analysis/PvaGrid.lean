import NvidiaOot.Model.PvaDma
import Mathlib.Tactic.Ring

/-!
# The span of the tiles of a row

With split padding the span ends one tile of the second descriptor after the last column.  That is enough for
every tile unless a tile of the first descriptor is the rightmost one and wider.
-/

namespace NvidiaOot.Analysis

open Library Program Model

variable {gi : HwseqGridInfo} {fi : HwseqFrameInfo}

/-! ## Signed words -/

theorem i32_bounds (a : I32) : -2 ^ 31 ≤ a.toInt ∧ a.toInt < 2 ^ 31 := by
  have hlow := BitVec.le_two_mul_toInt (x := a)
  have hhigh := BitVec.two_mul_toInt_lt (x := a)
  omega

theorem bmod_of_fits {v : ℤ} (hlow : -2 ^ 31 ≤ v) (hhigh : v < 2 ^ 31) : v.bmod (2 ^ 32) = v :=
  Int.bmod_eq_of_le_mul_two (by omega) (by omega)

theorem i32_zero : (0 : I32).toInt = 0 := by decide

/-! ## The checks of a row -/

theorem computeFrameInfo_split (hsplit : gi.isSplitPadding = true) (h : computeFrameInfo gi = .ok fi) :
    fi.startX = smin (gridOffsetX gi) 0 ∧ fi.endX = smax (gridOffsetX gi) 0 + gi.tileX 1 ∧
      (0 ≤ gi.gridStepX.toInt → (gi.tileX 0).toInt ≤ gi.gridStepX.toInt) := by
  obtain ⟨-, -, h⟩ := bind_eq_ok.mp h
  obtain ⟨x, hx, h⟩ := bind_eq_ok.mp h
  unfold spanX at hx
  rw [if_pos hsplit] at hx
  obtain ⟨hstep, hx⟩ := reject_bind_eq_ok.mp hx
  have hfi := pure_eq_ok.mp h
  have hspan := pure_eq_ok.mp hx
  rw [← hfi, ← hspan]
  refine ⟨rfl, rfl, fun hforward => ?_⟩
  have hsle : (0 : I32).sle gi.gridStepX = true := by
    rw [BitVec.sle_iff_toInt_le, i32_zero]
    exact hforward
  have hmsb : gi.gridStepX.msb = false := by
    rw [BitVec.msb_eq_toInt, decide_eq_false_iff_not]
    omega
  rw [if_pos hsle, BitVec.slt_iff_toInt_lt, not_lt, BitVec.abs_eq, hmsb] at hstep
  exact hstep

/-- The tiles of a row are covered if and only if the span does not wrap, and no tile of the first descriptor
is rightmost and wider than those of the second one. -/
theorem split_span_covers_iff (hsplit : gi.isSplitPadding = true) (hwidth : ∀ k, 0 < (gi.tileX k).toInt)
    (hhead : 1 ≤ gi.headTileCount.toInt) (hsize : gi.headTileCount.toInt ≤ gi.gridSizeX.toInt)
    (h : computeFrameInfo gi = .ok fi) : SpanCovers gi fi ↔
      (-2 ^ 31 ≤ gi.gridStepX.toInt * (gi.gridSizeX.toInt - 1) ∧
        max (gi.gridStepX.toInt * (gi.gridSizeX.toInt - 1)) 0 + (gi.tileX 1).toInt < 2 ^ 31) ∧
      (gi.gridStepX.toInt < 0 ∨ gi.headTileCount = gi.gridSizeX → (gi.tileX 0).toInt ≤ (gi.tileX 1).toInt) := by
  obtain ⟨hstart, hend, hforward⟩ := computeFrameInfo_split hsplit h
  have hw₀ := hwidth 0
  have hw₁ := hwidth 1
  have hb₁ := i32_bounds (gi.tileX 1)
  have hbs := i32_bounds fi.startX
  have hbe := i32_bounds fi.endX
  have hbn := i32_bounds gi.gridSizeX
  have hone : (1 : I32).toInt = 1 := by decide
  have hcount : (gi.gridSizeX - 1).toInt = gi.gridSizeX.toInt - 1 := by
    rw [BitVec.toInt_sub, hone, bmod_of_fits (by omega) (by omega)]
  have hoffset : (gridOffsetX gi).toInt = (gi.gridStepX.toInt * (gi.gridSizeX.toInt - 1)).bmod (2 ^ 32) := by
    rw [gridOffsetX, BitVec.toInt_mul, hcount]
  have hstart' : fi.startX.toInt = min (gridOffsetX gi).toInt 0 := by rw [hstart, toInt_smin, i32_zero]
  have hend' : fi.endX.toInt = (max (gridOffsetX gi).toInt 0 + (gi.tileX 1).toInt).bmod (2 ^ 32) := by
    rw [hend, BitVec.toInt_add, toInt_smax, i32_zero]
  have heq : gi.headTileCount = gi.gridSizeX ↔ gi.headTileCount.toInt = gi.gridSizeX.toInt :=
    BitVec.toInt_inj.symm
  rw [heq]
  constructor
  · intro hcovers
    -- the first tile and the last one
    have hfirst (x : ℤ) (hx : 0 ≤ x) (hlt : x < (gi.tileX 0).toInt) := hcovers 0 x le_rfl (by omega)
      (by simpa using hx) (by
        rw [columnWidth, if_pos (by omega)]
        simpa using hlt)
    have hcomm : (gi.gridSizeX.toInt - 1) * gi.gridStepX.toInt =
        gi.gridStepX.toInt * (gi.gridSizeX.toInt - 1) := mul_comm _ _
    have hlast (x : ℤ) := hcovers (gi.gridSizeX.toInt - 1) x (by omega) (by omega)
    have hcolumn : 0 < columnWidth gi (gi.gridSizeX.toInt - 1) := by
      unfold columnWidth
      split
      · exact hw₀
      · exact hw₁
    have hD := hlast _ le_rfl (by omega)
    have hfit : (gridOffsetX gi).toInt = gi.gridStepX.toInt * (gi.gridSizeX.toInt - 1) := by
      rw [hoffset, bmod_of_fits (by omega) (by omega)]
    rw [hfit] at hend' hstart'
    have hroom : max (gi.gridStepX.toInt * (gi.gridSizeX.toInt - 1)) 0 + (gi.tileX 1).toInt < 2 ^ 31 := by
      by_contra hnot
      have hwrap : (max (gi.gridStepX.toInt * (gi.gridSizeX.toInt - 1)) 0 + (gi.tileX 1).toInt).bmod
          (2 ^ 32) = max (gi.gridStepX.toInt * (gi.gridSizeX.toInt - 1)) 0 + (gi.tileX 1).toInt - 2 ^ 32 := by
        rw [← Int.sub_bmod_right]
        exact Int.bmod_eq_of_le_mul_two (by omega) (by omega)
      omega
    rw [bmod_of_fits (by omega) hroom] at hend'
    refine ⟨⟨by omega, hroom⟩, ?_⟩
    rintro (hback | hsingle)
    · have hnonpos : gi.gridStepX.toInt * (gi.gridSizeX.toInt - 1) ≤ 0 :=
        mul_nonpos_of_nonpos_of_nonneg hback.le (by omega)
      have htile := hfirst ((gi.tileX 0).toInt - 1) (by omega) (by omega)
      omega
    · have hwide : columnWidth gi (gi.gridSizeX.toInt - 1) = (gi.tileX 0).toInt := if_pos (by omega)
      have htile₀ := hfirst ((gi.tileX 0).toInt - 1) (by omega) (by omega)
      have htile := hlast (gi.gridStepX.toInt * (gi.gridSizeX.toInt - 1) + (gi.tileX 0).toInt - 1) (by omega)
        (by omega)
      omega
  · rintro ⟨⟨hlow, hhigh⟩, hwider⟩ i x hi hn hx hlt
    have hfit : (gridOffsetX gi).toInt = gi.gridStepX.toInt * (gi.gridSizeX.toInt - 1) := by
      rw [hoffset, bmod_of_fits (by omega) (by omega)]
    rw [hfit] at hend' hstart'
    rw [bmod_of_fits (by omega) hhigh] at hend'
    unfold columnWidth at hlt
    rcases lt_or_ge gi.gridStepX.toInt 0 with hback | hfwd
    · have h₀ : i * gi.gridStepX.toInt ≤ 0 := mul_nonpos_of_nonneg_of_nonpos hi hback.le
      have h₁ : gi.gridStepX.toInt * (gi.gridSizeX.toInt - 1) ≤ i * gi.gridStepX.toInt := by
        rw [mul_comm]
        exact mul_le_mul_of_nonpos_right (by omega) hback.le
      split at hlt <;> omega
    have h₀ : 0 ≤ i * gi.gridStepX.toInt := mul_nonneg hi hfwd
    have h₁ : i * gi.gridStepX.toInt ≤ gi.gridStepX.toInt * (gi.gridSizeX.toInt - 1) := by
      rw [mul_comm gi.gridStepX.toInt]
      exact mul_le_mul_of_nonneg_right (by omega) hfwd
    split at hlt
    · rcases eq_or_lt_of_le (show i ≤ gi.gridSizeX.toInt - 1 by omega) with hlast | hbefore
      · omega
      · -- the next tile starts after this one
        have hnext : (i + 1) * gi.gridStepX.toInt ≤ gi.gridStepX.toInt * (gi.gridSizeX.toInt - 1) := by
          rw [mul_comm gi.gridStepX.toInt]
          exact mul_le_mul_of_nonneg_right (by omega) hfwd
        have hexpand : (i + 1) * gi.gridStepX.toInt = i * gi.gridStepX.toInt + gi.gridStepX.toInt := by ring
        omega
    · omega

/-- A row of three tiles, the first one of the head descriptor. -/
def threeTileRow (head tail step : I32) : HwseqGridInfo where
  tileX := ![head, tail]
  tileY := ![8, 8]
  padX := ![0, 0]
  padY := ![0, 0]
  gridSizeX := 3
  gridSizeY := 1
  gridStepX := step
  gridStepY := 0
  headTileCount := 1
  isSplitPadding := true

theorem forward_row_covered : SpanCovers (threeTileRow 48 32 64) ⟨0, 0, 160, 8⟩ ↔
      (-2 ^ 31 ≤ (64 : ℤ) * (3 - 1) ∧ max ((64 : ℤ) * (3 - 1)) 0 + 32 < 2 ^ 31) ∧
      ((64 : ℤ) < 0 ∨ (1 : I32) = 3 → (48 : ℤ) ≤ 32) :=
  split_span_covers_iff rfl (by decide) (by decide) (by decide) (by decide)

/-- Backwards the first tile is the rightmost one, and 16 of its columns are after the span. -/
theorem reversed_row_escapes : computeFrameInfo (threeTileRow 48 32 (-64)) = .ok ⟨-128, 0, 32, 8⟩ ∧
      ¬ SpanCovers (threeTileRow 48 32 (-64)) ⟨-128, 0, 32, 8⟩ := by
  constructor
  · decide
  · intro hcovers
    have hlast := (hcovers 0 47 (by decide) (by decide) (by decide) (by decide)).2
    revert hlast
    decide

end NvidiaOot.Analysis
