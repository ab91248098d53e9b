import Mathlib.Data.Nat.Prime.Basic
import Mathlib.Tactic.IntervalCases
import Mathlib.Tactic.Ring
import NvidiaOot.Model.PvaBlockLinear

/-!
# Block-linear offsets

The 32-bit arithmetic is followed step by step to a sum of natural numbers (`blockLinearOffset_toNat`).  Where nothing
wraps it is the place in a tiled surface.
-/

namespace NvidiaOot.Analysis

open Library Program Model

section

variable {w : U32} {offset surfBlOffset : U64} {linePitchBytes : U32} {blockHtLog2 : U8}

theorem toNat_bitTimes (w scale : U32) {n : ℕ} (hn : n < 32) :
    (bitTimes w n scale).toNat = w.toNat / 2 ^ n % 2 * scale.toNat := by
  have hpow : ((1 <<< n : ℕ) : U32) = BitVec.twoPow 32 n := by
    apply BitVec.eq_of_toNat_eq
    rw [BitVec.toNat_twoPow_eq_ite, if_pos hn, Nat.one_shiftLeft]
    exact Nat.mod_eq_of_lt (Nat.pow_lt_pow_right (by decide) hn)
  have hne : BitVec.twoPow 32 n ≠ 0 := by
    intro hzero
    have hnat := congrArg BitVec.toNat hzero
    rw [BitVec.toNat_twoPow_eq_ite, if_pos hn] at hnat
    exact (Nat.two_pow_pos n).ne' hnat
  have htest : w.getLsbD n = decide (w.toNat / 2 ^ n % 2 = 1) := Nat.testBit_eq_decide_div_mod_eq
  unfold bitTimes
  rw [hpow, BitVec.and_twoPow, htest]
  rcases Nat.mod_two_eq_zero_or_one (w.toNat / 2 ^ n) with hzero | hone
  · rw [hzero, Nat.zero_mul]
    exact congrArg BitVec.toNat (if_neg (not_not.mpr (if_neg (by decide))))
  · rw [hone, Nat.one_mul]
    exact congrArg BitVec.toNat (if_pos (by rwa [if_pos (by decide)]))

theorem mod_512_div_mod (n : ℕ) {k : ℕ} (hk : k < 9) : n % 512 / 2 ^ k % 2 = n / 2 ^ k % 2 := by
  interval_cases k <;> omega

theorem toNat_gobX (w : U32) :
    ((w &&& lowBits) + bitTimes w 5 16 + bitTimes w 8 32).toNat = gobX (w.toNat % 512) := by
  have hlow : (w &&& lowBits).toNat = w.toNat % 16 := toNat_and_low w (k := 4) (by decide)
  have hsame : w.toNat % 512 % 16 = w.toNat % 16 := by omega
  have hfive : w.toNat % 512 / 32 % 2 = w.toNat / 32 % 2 := mod_512_div_mod _ (k := 5) (by decide)
  have height : w.toNat % 512 / 256 % 2 = w.toNat / 256 % 2 := mod_512_div_mod _ (k := 8) (by decide)
  have hbits := toNat_bitTimes w 16 (n := 5) (by decide)
  have hbits' := toNat_bitTimes w 32 (n := 8) (by decide)
  change _ = w.toNat / 32 % 2 * 16 at hbits
  change _ = w.toNat / 256 % 2 * 32 at hbits'
  unfold gobX
  rw [BitVec.toNat_add, BitVec.toNat_add, hlow, hbits, hbits', hsame, hfive, height]
  omega

theorem toNat_gobY (w : U32) : (bitTimes w 4 1 + bitTimes w 6 2 + bitTimes w 7 4).toNat = gobY (w.toNat % 512) := by
  have hfour : w.toNat % 512 / 16 % 2 = w.toNat / 16 % 2 := mod_512_div_mod _ (k := 4) (by decide)
  have hsix : w.toNat % 512 / 64 % 2 = w.toNat / 64 % 2 := mod_512_div_mod _ (k := 6) (by decide)
  have hseven : w.toNat % 512 / 128 % 2 = w.toNat / 128 % 2 := mod_512_div_mod _ (k := 7) (by decide)
  have hbits := toNat_bitTimes w 1 (n := 4) (by decide)
  have hbits' := toNat_bitTimes w 2 (n := 6) (by decide)
  have hbits'' := toNat_bitTimes w 4 (n := 7) (by decide)
  change _ = w.toNat / 16 % 2 * 1 at hbits
  change _ = w.toNat / 64 % 2 * 2 at hbits'
  change _ = w.toNat / 128 % 2 * 4 at hbits''
  unfold gobY
  rw [BitVec.toNat_add, BitVec.toNat_add, hbits, hbits', hbits'', hfour, hsix, hseven]
  omega

theorem toNat_blockSizeLog2 (h : blockHtLog2.toNat ≤ 5) :
    (blGobSizeLog2 + blockHtLog2.setWidth 32).toNat = 9 + blockHtLog2.toNat := by
  have hnine : blGobSizeLog2.toNat = 9 := by decide
  rw [BitVec.toNat_add, BitVec.toNat_setWidth, hnine]
  omega

theorem two_pow_blockSizeLog2 (h : ℕ) : 2 ^ (9 + h) = blockBytes h := by
  rw [Nat.pow_add]
  rfl

theorem toNat_and_blockMask (w : U32) (h : blockHtLog2.toNat ≤ 5) :
    (w &&& ((0xFFFFFFFF : U32) >>> (32 - (blGobSizeLog2 + blockHtLog2.setWidth 32)))).toNat =
      w.toNat % blockBytes blockHtLog2.toNat := by
  have hsize := toNat_blockSizeLog2 h
  rw [← two_pow_blockSizeLog2]
  apply toNat_and_low
  generalize blGobSizeLog2 + blockHtLog2.setWidth 32 = size at hsize
  have hshift : (32 - size).toNat = 23 - blockHtLog2.toNat := by
    have hthirtyTwo : (32 : U32).toNat = 32 := by decide
    rw [BitVec.toNat_sub, hthirtyTwo]
    omega
  have hones : (0xFFFFFFFF : U32).toNat = 2 ^ 32 - 1 := by decide
  rw [BitVec.ushiftRight_eq', hshift, BitVec.toNat_ushiftRight, hones]
  interval_cases blockHtLog2.toNat <;> rfl

theorem toNat_ropSize (linePitchBytes : U32) (h : blockHtLog2.toNat ≤ 5) :
    (linePitchBytes >>> blGobWidthLog2 <<< (blGobSizeLog2 + blockHtLog2.setWidth 32)).toNat =
      ropSize linePitchBytes blockHtLog2 := by
  have hsix : blGobWidthLog2.toNat = 6 := by decide
  rw [BitVec.shiftLeft_eq', BitVec.ushiftRight_eq', toNat_blockSizeLog2 h, BitVec.toNat_shiftLeft,
    BitVec.toNat_ushiftRight, hsix, Nat.shiftLeft_eq, two_pow_blockSizeLog2, Nat.shiftRight_eq_div_pow]
  rfl

theorem toNat_line (w : U32) (h : blockHtLog2.toNat ≤ 5) : (bitTimes w 4 1 + bitTimes w 6 2 + bitTimes w 7 4 +
      ((w &&& ((0xFFFFFFFF : U32) >>> (32 - (blGobSizeLog2 + blockHtLog2.setWidth 32)))) >>> blGobSizeLog2 <<<
        blGobHeightLog2)).toNat = blockLine blockHtLog2.toNat w.toNat := by
  have hnine : blGobSizeLog2.toNat = 9 := by decide
  have hthree : blGobHeightLog2.toNat = 3 := by decide
  have hgob : gobY (w.toNat % 512) < 8 := by
    unfold gobY
    omega
  have hblock : w.toNat % blockBytes blockHtLog2.toNat / 512 < 2 ^ blockHtLog2.toNat :=
    Tiling.digit_lt (by decide) (Nat.two_pow_pos _) _
  have hunits : 2 ^ blockHtLog2.toNat ≤ 2 ^ 5 := Nat.pow_le_pow_right (by decide) h
  have hshift : (w.toNat % blockBytes blockHtLog2.toNat) >>> 9 = w.toNat % blockBytes blockHtLog2.toNat / 512 :=
    Nat.shiftRight_eq_div_pow _ 9
  rw [BitVec.toNat_add, toNat_gobY, BitVec.shiftLeft_eq', BitVec.ushiftRight_eq', hthree, hnine, BitVec.toNat_shiftLeft,
    BitVec.toNat_ushiftRight, toNat_and_blockMask w h, hshift, Nat.shiftLeft_eq]
  unfold blockLine
  omega

theorem toNat_column (w ropSize : U32) (h : blockHtLog2.toNat ≤ 5) :
    ((w &&& lowBits) + bitTimes w 5 16 + bitTimes w 8 32 +
      ((w - w / ropSize * ropSize) >>> (blGobSizeLog2 + blockHtLog2.setWidth 32) <<< blGobWidthLog2)).toNat =
        gobX (w.toNat % 512) + w.toNat % ropSize.toNat / blockBytes blockHtLog2.toNat * 64 := by
  have hsix : blGobWidthLog2.toNat = 6 := by decide
  have hrop : (w - w / ropSize * ropSize).toNat = w.toNat % ropSize.toNat := by
    have hle := Nat.div_mul_le_self w.toNat ropSize.toNat
    have hmul : (w / ropSize * ropSize).toNat = w.toNat / ropSize.toNat * ropSize.toNat := by
      rw [BitVec.toNat_mul, BitVec.toNat_udiv]
      exact Nat.mod_eq_of_lt (hle.trans_lt w.isLt)
    rw [BitVec.toNat_sub_of_le (by rw [BitVec.le_def, hmul]; exact hle), hmul, Nat.mod_eq_sub_div_mul]
  have hgob : gobX (w.toNat % 512) < 64 := by
    unfold gobX
    omega
  have hblock : w.toNat % ropSize.toNat / blockBytes blockHtLog2.toNat < 2 ^ 23 := by
    have hle := Nat.mod_le w.toNat ropSize.toNat
    have hlt := w.isLt
    have hpos := Nat.two_pow_pos blockHtLog2.toNat
    unfold blockBytes
    rw [Nat.div_lt_iff_lt_mul (Nat.mul_pos (by decide) hpos)]
    omega
  rw [BitVec.toNat_add, toNat_gobX, BitVec.shiftLeft_eq', BitVec.ushiftRight_eq', hsix, toNat_blockSizeLog2 h,
    BitVec.toNat_shiftLeft, BitVec.toNat_ushiftRight, hrop, Nat.shiftRight_eq_div_pow, two_pow_blockSizeLog2,
    Nat.shiftLeft_eq]
  omega

/-- **The offset in the frame** as a sum of natural numbers. -/
theorem blockLinearOffset_toNat {n : ℕ} (h : blockHtLog2.toNat ≤ 5)
    (hn : (offset - surfBlOffset).toNat % 2 ^ 32 = n) :
    (blockLinearOffset offset surfBlOffset linePitchBytes blockHtLog2 - surfBlOffset).toNat =
      n / ropSize linePitchBytes blockHtLog2 * ropSize linePitchBytes blockHtLog2 +
        blockLine blockHtLog2.toNat n * linePitchBytes.toNat % 2 ^ 32 +
        (gobX (n % 512) + n % ropSize linePitchBytes blockHtLog2 / blockBytes blockHtLog2.toNat * 64) := by
  unfold blockLinearOffset
  dsimp only
  have hw : ((offset - surfBlOffset).setWidth 32).toNat = n := by rw [BitVec.toNat_setWidth, hn]
  generalize (offset - surfBlOffset).setWidth 32 = w at hw
  have hrop := toNat_ropSize linePitchBytes h
  generalize linePitchBytes >>> blGobWidthLog2 <<< (blGobSizeLog2 + blockHtLog2.setWidth 32) = rop at hrop
  have hline := toNat_line w h
  have hcolumn := toNat_column w rop h
  rw [hw, hrop] at hcolumn
  rw [hw] at hline
  generalize hline' : bitTimes w 4 1 + bitTimes w 6 2 + bitTimes w 7 4 + _ = y at hline ⊢
  generalize hcolumn' : (w &&& lowBits) + bitTimes w 5 16 + bitTimes w 8 32 + _ = x at hcolumn ⊢
  have hle := Nat.div_mul_le_self w.toNat rop.toNat
  have hmul : (w / rop * rop).toNat = n / ropSize linePitchBytes blockHtLog2 * ropSize linePitchBytes blockHtLog2 := by
    rw [BitVec.toNat_mul, BitVec.toNat_udiv, ← hw, ← hrop]
    exact Nat.mod_eq_of_lt (hle.trans_lt w.isLt)
  have hrest : surfBlOffset + (w / rop * rop).setWidth 64 + (y * linePitchBytes).setWidth 64 + x.setWidth 64 -
      surfBlOffset = (w / rop * rop).setWidth 64 + (y * linePitchBytes).setWidth 64 + x.setWidth 64 := by ring
  have hlt := (w / rop * rop).isLt
  have hlt' := x.isLt
  rw [hrest, ← hmul, ← hline, ← hcolumn, ← BitVec.toNat_mul]
  have hlt'' := (y * linePitchBytes).isLt
  rw [BitVec.toNat_add, BitVec.toNat_add, BitVec.toNat_setWidth, BitVec.toNat_setWidth, BitVec.toNat_setWidth]
  omega

end

section

variable {offset surfBlOffset : U64} {linePitchBytes : U32} {blockHtLog2 : U8} {n : ℕ}

section

variable (hpos : 0 < linePitchBytes.toNat / 64)

include hpos

theorem ropBytes_eq : ropBytes linePitchBytes blockHtLog2 =
    (gobTiling (linePitchBytes.toNat / 64) blockHtLog2.toNat hpos).row := Nat.mul_comm _ _

section

variable (hdvd : linePitchBytes.toNat % 64 = 0)

include hdvd

theorem linePitch_eq : linePitchBytes.toNat = (gobTiling (linePitchBytes.toNat / 64) blockHtLog2.toNat hpos).pitch :=
  (Nat.mul_div_cancel' (Nat.dvd_of_mod_eq_zero hdvd)).symm

/-- **The image** is the place in a tiled surface. -/
theorem blImage_eq_linear (n : ℕ) :
    blImage linePitchBytes blockHtLog2 n =
      (gobTiling (linePitchBytes.toNat / 64) blockHtLog2.toNat hpos).linear n := by
  unfold blImage Tiling.linear
  rw [ropBytes_eq hpos, ← linePitch_eq hpos hdvd]
  rfl

theorem blockLine_mul_lt (n : ℕ) :
    blockLine blockHtLog2.toNat n * linePitchBytes.toNat < ropBytes linePitchBytes blockHtLog2 := by
  have hlt := (gobTiling (linePitchBytes.toNat / 64) blockHtLog2.toNat hpos).line_mul_pitch_add_lt n
  rw [← ropBytes_eq hpos, ← linePitch_eq hpos hdvd] at hlt
  exact (Nat.le_add_right _ _).trans_lt hlt

theorem offsetFits_of_small_row
    (hsmall : ropBytes linePitchBytes blockHtLog2 < 2 ^ 32) (hn : n < 2 ^ 32) :
    OffsetFits linePitchBytes blockHtLog2 n := by
  have hsame : ropSize linePitchBytes blockHtLog2 = ropBytes linePitchBytes blockHtLog2 := Nat.mod_eq_of_lt hsmall
  refine ⟨?_, hn, by rw [hsame], (blockLine_mul_lt hpos hdvd n).trans hsmall⟩
  rw [hsame]
  exact (Nat.mul_pos hpos (Nat.mul_pos (by decide) (Nat.two_pow_pos _))).ne'

end

end

/-- **An offset that fits** has its image. -/
theorem OffsetFits.image (hfits : OffsetFits linePitchBytes blockHtLog2 n) (h : blockHtLog2.toNat ≤ 5)
    (hn : (offset - surfBlOffset).toNat = n) :
    (blockLinearOffset offset surfBlOffset linePitchBytes blockHtLog2 - surfBlOffset).toNat =
      blImage linePitchBytes blockHtLog2 n := by
  have hmod : n % ropSize linePitchBytes blockHtLog2 = n % ropBytes linePitchBytes blockHtLog2 ∧
      n / ropSize linePitchBytes blockHtLog2 * ropSize linePitchBytes blockHtLog2 =
        n / ropBytes linePitchBytes blockHtLog2 * ropBytes linePitchBytes blockHtLog2 := by
    by_cases hsmall : ropBytes linePitchBytes blockHtLog2 < 2 ^ 32
    · have hsame : ropSize linePitchBytes blockHtLog2 = ropBytes linePitchBytes blockHtLog2 := Nat.mod_eq_of_lt hsmall
      rw [hsame]
      exact ⟨rfl, rfl⟩
    have hzero := Nat.div_eq_of_lt (hfits.offset.trans_le (not_lt.mp hsmall))
    have hzero' := hfits.rop.trans hzero
    have hdiv := Nat.div_add_mod n (ropSize linePitchBytes blockHtLog2)
    have hdiv' := Nat.div_add_mod n (ropBytes linePitchBytes blockHtLog2)
    rw [hzero', Nat.mul_zero, Nat.zero_add] at hdiv
    rw [hzero, Nat.mul_zero, Nat.zero_add] at hdiv'
    rw [hzero, hzero', Nat.zero_mul, Nat.zero_mul]
    exact ⟨hdiv.trans hdiv'.symm, rfl⟩
  rw [blockLinearOffset_toNat h (by rw [hn, Nat.mod_eq_of_lt hfits.offset]), Nat.mod_eq_of_lt hfits.line, hmod.1, hmod.2]
  rfl

theorem blockBytes_dvd {h : ℕ} (hle : h ≤ 5) : blockBytes h * 2 ^ (23 - h) = 2 ^ 32 := by
  rw [← two_pow_blockSizeLog2, ← Nat.pow_add]
  congr 1
  omega

theorem blockLine_mod {h : ℕ} (hle : h ≤ 5) (n : ℕ) : blockLine h (n % 2 ^ 32) = blockLine h n := by
  have hblock : n % 2 ^ 32 % blockBytes h = n % blockBytes h :=
    Nat.mod_mod_of_dvd n ⟨_, (blockBytes_dvd hle).symm⟩
  have hgob : n % 2 ^ 32 % 512 = n % 512 := by omega
  unfold blockLine
  rw [hblock, hgob]

/-- **Blocks of a row that wraps.**  The `i`-th row, with a size that has lost its high bits, and the block `b` in it are
the block of an offset only if there is no row before it, and the offset has not lost its high bits. -/
theorem eq_zero_of_row_wraps {h i b q m : ℕ} (hq : 0 < q) (hlt : i * q + b < 2 ^ (23 - h))
    (heq : i * (q * blockBytes h) + 64 * b = 64 * (i * q + b + m * 2 ^ (23 - h))) : i = 0 ∧ m = 0 := by
  have hodd : Nat.Coprime (2 ^ (23 - h)) (8 * 2 ^ h - 1) := by
    apply Nat.Coprime.pow_left
    rw [Nat.coprime_two_left, Nat.odd_iff]
    have hpos := Nat.two_pow_pos h
    omega
  have hfactor : i * q * (8 * 2 ^ h - 1) = 2 ^ (23 - h) * m := by
    have hpos : 1 ≤ 8 * 2 ^ h := Nat.mul_pos (by decide) (Nat.two_pow_pos h)
    have hblock : i * (q * blockBytes h) = 64 * (i * q * (8 * 2 ^ h)) := by
      unfold blockBytes
      ring
    rw [Nat.mul_sub, Nat.mul_one, Nat.mul_comm _ m]
    rw [hblock] at heq
    omega
  have hdvd : 2 ^ (23 - h) ∣ i * q := hodd.dvd_of_dvd_mul_right ⟨m, hfactor⟩
  have hzero : i * q = 0 := Nat.eq_zero_of_dvd_of_lt hdvd ((Nat.le_add_right _ _).trans_lt hlt)
  rw [hzero, Nat.zero_mul] at hfactor
  refine ⟨(Nat.mul_eq_zero.mp hzero).resolve_right hq.ne', ?_⟩
  exact (Nat.mul_eq_zero.mp hfactor.symm).resolve_left (Nat.two_pow_pos _).ne'

/-- The rows are as long as they should be: the offset has not lost its high bits. -/
theorem fits_of_small_row (h : blockHtLog2.toNat ≤ 5) (hpos : 0 < linePitchBytes.toNat / 64)
    (hdvd : linePitchBytes.toNat % 64 = 0) (hsmall : ropBytes linePitchBytes blockHtLog2 < 2 ^ 32)
    (heq : (blockLinearOffset offset surfBlOffset linePitchBytes blockHtLog2 - surfBlOffset).toNat =
      blImage linePitchBytes blockHtLog2 (offset - surfBlOffset).toNat) :
    OffsetFits linePitchBytes blockHtLog2 (offset - surfBlOffset).toNat := by
  have hlow : blImage linePitchBytes blockHtLog2 ((offset - surfBlOffset).toNat % 2 ^ 32) =
      blImage linePitchBytes blockHtLog2 (offset - surfBlOffset).toNat := by
    have hsame : ropSize linePitchBytes blockHtLog2 = ropBytes linePitchBytes blockHtLog2 := Nat.mod_eq_of_lt hsmall
    rw [← heq, blockLinearOffset_toNat h rfl, hsame, Nat.mod_eq_of_lt ((blockLine_mul_lt hpos hdvd _).trans hsmall)]
    rfl
  rw [blImage_eq_linear hpos hdvd, blImage_eq_linear hpos hdvd] at hlow
  apply offsetFits_of_small_row hpos hdvd hsmall
  rw [← Tiling.linear_injective _ hlow]
  exact Nat.mod_lt _ (Nat.two_pow_pos 32)

/-- The rows have lost their high bits: the offset is in the first row, and so is what the code takes for it. -/
theorem fits_of_wrapped_row (h : blockHtLog2.toNat ≤ 5) (hrop : ropSize linePitchBytes blockHtLog2 ≠ 0)
    (hlarge : 2 ^ 32 ≤ ropBytes linePitchBytes blockHtLog2)
    (heq : (blockLinearOffset offset surfBlOffset linePitchBytes blockHtLog2 - surfBlOffset).toNat =
      blImage linePitchBytes blockHtLog2 (offset - surfBlOffset).toNat) :
    OffsetFits linePitchBytes blockHtLog2 (offset - surfBlOffset).toNat := by
  generalize hn : (offset - surfBlOffset).toNat = n at heq ⊢
  rw [blockLinearOffset_toNat h (congrArg (· % 2 ^ 32) hn), blockLine_mod h] at heq
  unfold blImage at heq
  have hgob : n % 2 ^ 32 % 512 = n % 512 := by omega
  rw [hgob] at heq
  -- the size of a block divides all rows
  have hblock : 0 < blockBytes blockHtLog2.toNat := Nat.mul_pos (by decide) (Nat.two_pow_pos _)
  have hdvd : ∃ q, ropSize linePitchBytes blockHtLog2 = q * blockBytes blockHtLog2.toNat := by
    refine exists_eq_mul_left_of_dvd ?_
    unfold ropSize ropBytes
    rw [Nat.dvd_mod_iff ⟨_, (blockBytes_dvd h).symm⟩]
    exact Nat.dvd_mul_left _ _
  obtain ⟨q, hq⟩ := hdvd
  have hqpos : 0 < q := by
    rcases Nat.eq_zero_or_pos q with rfl | hpos
    · rw [hq, Nat.zero_mul] at hrop
      exact absurd rfl hrop
    · exact hpos
  generalize hrop' : ropSize linePitchBytes blockHtLog2 = rop at hrop hq heq
  generalize hrow : ropBytes linePitchBytes blockHtLog2 = row at hlarge heq
  generalize hline : blockLine blockHtLog2.toNat n * linePitchBytes.toNat = line at heq
  have hdiv := Nat.div_add_mod (n % 2 ^ 32) rop
  have hlt : n % 2 ^ 32 < 2 ^ 32 := Nat.mod_lt _ (Nat.two_pow_pos 32)
  generalize hr : n % 2 ^ 32 = r at heq hdiv hlt
  -- the code's place is below `2 ^ 32`, but for the lines
  have hcode : r / rop * rop + r % rop / blockBytes blockHtLog2.toNat * 64 < 2 ^ 32 := by
    have hle : r % rop / blockBytes blockHtLog2.toNat * 64 ≤ r % rop := by
      refine (Nat.mul_le_mul_left _ ?_).trans (Nat.div_mul_le_self _ (blockBytes blockHtLog2.toNat))
      have hunits := Nat.two_pow_pos blockHtLog2.toNat
      unfold blockBytes
      omega
    rw [Nat.mul_comm (r / rop)]
    omega
  have hmod := Nat.div_add_mod line (2 ^ 32)
  have hfirst : n / row = 0 := by
    by_contra hne
    have hle : row ≤ n / row * row := Nat.le_mul_of_pos_left row (Nat.pos_of_ne_zero hne)
    omega
  have hn' : n < row := (Nat.div_eq_zero_iff.mp hfirst).resolve_left (by omega)
  rw [hfirst, Nat.zero_mul, Nat.mod_eq_of_lt hn'] at heq
  have hfits : line < 2 ^ 32 := by omega
  rw [Nat.mod_eq_of_lt hfits] at heq
  -- the block of the offset, in the row that the code takes
  have hsplit : n = r % rop +
      blockBytes blockHtLog2.toNat * (r / rop * q + n / 2 ^ 32 * 2 ^ (23 - blockHtLog2.toNat)) := by
    calc n = 2 ^ 32 * (n / 2 ^ 32) + (rop * (r / rop) + r % rop) := by rw [hdiv, ← hr, Nat.div_add_mod]
      _ = blockBytes blockHtLog2.toNat * 2 ^ (23 - blockHtLog2.toNat) * (n / 2 ^ 32) +
          (q * blockBytes blockHtLog2.toNat * (r / rop) + r % rop) := by rw [blockBytes_dvd h, ← hq]
      _ = _ := by ring
  have hblocks : n / blockBytes blockHtLog2.toNat = r / rop * q + r % rop / blockBytes blockHtLog2.toNat +
      n / 2 ^ 32 * 2 ^ (23 - blockHtLog2.toNat) := by
    have hdigits := congrArg (· / blockBytes blockHtLog2.toNat) hsplit
    rw [Nat.add_mul_div_left _ _ hblock] at hdigits
    omega
  have hlow : r / rop * q + r % rop / blockBytes blockHtLog2.toNat < 2 ^ (23 - blockHtLog2.toNat) := by
    have hr' : r = r % rop + blockBytes blockHtLog2.toNat * (r / rop * q) := by
      calc r = rop * (r / rop) + r % rop := hdiv.symm
        _ = q * blockBytes blockHtLog2.toNat * (r / rop) + r % rop := by rw [← hq]
        _ = _ := by ring
    have hdigits := congrArg (· / blockBytes blockHtLog2.toNat) hr'
    rw [Nat.add_mul_div_left _ _ hblock, Nat.add_comm] at hdigits
    rw [← hdigits, Nat.div_lt_iff_lt_mul hblock, Nat.mul_comm, blockBytes_dvd h]
    exact hlt
  rw [hblocks] at heq
  obtain ⟨hzero, hhigh⟩ := eq_zero_of_row_wraps (m := n / 2 ^ 32) hqpos hlow (by rw [← hq]; omega)
  have hsmall : n < 2 ^ 32 := (Nat.div_eq_zero_iff.mp hhigh).resolve_left (by decide)
  rw [Nat.mod_eq_of_lt hsmall] at hr
  refine ⟨hrop' ▸ hrop, hsmall, ?_, hline ▸ hfits⟩
  rw [hrop', hrow, hfirst, hr, hzero]

end

end NvidiaOot.Analysis
