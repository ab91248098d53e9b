import NvidiaOot.Model.PvaDma
import Mathlib.Tactic.Ring

/-!
# When the address check of a DMA descriptor is sound

The extents that `checkAddressRange` sums up are exact: no product or sum of the user's
16-bit sizes, 32-bit advances and 8-bit repeat counts comes near 2^63.  What can wrap is
the last addition, of the user's 64-bit offset.  The check is sound for a transfer exactly
when it does not.
-/

namespace NvidiaOot.Analysis

open Library Program Model

variable (desc : DmaDescriptor) (srcDst : Bool)

section

theorem bppSize_cases : bppSize desc = 1 ∨ bppSize desc = 2 ∨ bppSize desc = 4 := by
  unfold bppSize
  split
  · exact Or.inl rfl
  · split
    · exact Or.inr (Or.inl rfl)
    · exact Or.inr (Or.inr rfl)

@[simp] theorem transfer_bpp : (transfer desc srcDst).bpp = (bppSize desc).toNat := by
  cases srcDst <;> rfl

theorem transfer_bpp_pos : 0 < (transfer desc srcDst).bpp := by
  rw [transfer_bpp]
  rcases bppSize_cases desc with h | h | h <;> rw [h] <;> decide

theorem denotes_bppSize : Denotes (bppSize desc) ((transfer desc srcDst).bpp : ℤ) 4 := by
  rw [transfer_bpp]
  rcases bppSize_cases desc with h | h | h <;> rw [h] <;> exact ⟨by decide, by decide⟩

theorem denotes_one : Denotes (1 : U64) 1 1 := ⟨by decide, by decide⟩

theorem denotes_zero : Denotes (0 : U64) 0 0 := ⟨by decide, by decide⟩

theorem denotes_lastTx : Denotes (lastTx desc srcDst) (transfer desc srcDst).lastTx (2 ^ 17) := by
  have htx : Denotes (desc.tx.setWidth 64) _ _ := Denotes.ofUnsigned (w := 64) desc.tx (by decide)
  have hpx : Denotes (desc.px.setWidth 64) _ _ := Denotes.ofUnsigned (w := 64) desc.px (by decide)
  have hlast := htx.sub denotes_one (by norm_num)
  cases srcDst with
  | true => exact hlast.weaken (by norm_num)
  | false => exact (hlast.sub hpx (by norm_num)).weaken (by norm_num)

theorem denotes_lastTy : Denotes (lastTy desc srcDst) (transfer desc srcDst).lastTy (2 ^ 33) := by
  have hty : Denotes (desc.ty.setWidth 64) _ _ := Denotes.ofUnsigned (w := 64) desc.ty (by decide)
  have hpy : Denotes (desc.py.setWidth 64) _ _ := Denotes.ofUnsigned (w := 64) desc.py (by decide)
  have hlast := hty.sub denotes_one (by norm_num)
  cases srcDst with
  | true => exact hlast.weaken (by norm_num)
  | false => exact (hlast.sub hpy (by norm_num)).weaken (by norm_num)

theorem denotes_lineExtent : Denotes (lineExtent desc srcDst)
    ((transfer desc srcDst).linePitch * (transfer desc srcDst).lastTy) (2 ^ 49) := by
  have hpitch (p : U16) : Denotes (p.setWidth 64) _ _ := Denotes.ofUnsigned (w := 64) p (by decide)
  have hlast := denotes_lastTy desc srcDst
  cases srcDst with
  | true => exact ((hpitch desc.dstLinePitch).mul hlast (by norm_num)).weaken (by norm_num)
  | false => exact ((hpitch desc.srcLinePitch).mul hlast (by norm_num)).weaken (by norm_num)

theorem denotes_repeat (adv : U32) (rpt : U8) :
    Denotes (adv.signExtend 64 * rpt.setWidth 64) (adv.toInt * rpt.toNat) (2 ^ 39) := by
  have hadv : Denotes (adv.signExtend 64) _ _ := Denotes.ofSigned (w := 64) adv (by decide)
  have hrpt : Denotes (rpt.setWidth 64) _ _ := Denotes.ofUnsigned (w := 64) rpt (by decide)
  exact (hadv.mul hrpt (by norm_num)).weaken (by norm_num)

theorem repeatExtents_denote : ∃ s2 s3 s4, repeatExtents desc srcDst = [s2, s3, s4] ∧
    Denotes s2 ((transfer desc srcDst).adv1 * (transfer desc srcDst).rpt1) (2 ^ 39) ∧
    Denotes s3 ((transfer desc srcDst).adv2 * (transfer desc srcDst).rpt2) (2 ^ 39) ∧
    Denotes s4 ((transfer desc srcDst).adv3 * (transfer desc srcDst).rpt3) (2 ^ 39) := by
  cases srcDst with
  | true | false =>
    exact ⟨_, _, _, rfl, denotes_repeat _ _, denotes_repeat _ _, denotes_repeat _ _⟩

variable {desc srcDst}

/-- The sum of the negative extents of a transfer with a pixel is its lowest reach. -/
theorem denotes_extentStart (hmoves : (transfer desc srcDst).Moves) :
    Denotes (extentStart desc srcDst) (transfer desc srcDst).low (2 ^ 52) := by
  obtain ⟨s2, s3, s4, hlist, h2, h3, h4⟩ := repeatExtents_denote desc srcDst
  have hbpp := denotes_bppSize desc srcDst
  have low {s : U64} {v m : ℤ} (hs : Denotes s v m) (hm : m * 4 ≤ 2 ^ 51) (hm0 : 0 ≤ m) :
      Denotes (smin (s * bppSize desc) 0) (min (v * (transfer desc srcDst).bpp) 0) (m * 4) :=
    ((hs.mul hbpp (by linarith)).smin denotes_zero).weaken (by simp [hm0])
  have h0 := low (denotes_lastTx desc srcDst) (by norm_num) (by norm_num)
  have h1 := low (denotes_lineExtent desc srcDst) (by norm_num) (by norm_num)
  have h2 := low h2 (by norm_num) (by norm_num)
  have h3 := low h3 (by norm_num) (by norm_num)
  have h4 := low h4 (by norm_num) (by norm_num)
  have hsum := (((h0.add h1 (by norm_num)).add h2 (by norm_num)).add h3 (by norm_num)).add h4
    (by norm_num)
  unfold extentStart
  rw [hlist]
  refine (hsum.weaken (by norm_num)).congr ?_
  -- the two inner loops of a transfer with a pixel have no negative extent
  simp only [Transfer.low, Transfer.dims, lowest, Int.toNat_of_nonneg hmoves.1, Int.toNat_of_nonneg hmoves.2]
  ring_nf

theorem denotes_extentEnd (hmoves : (transfer desc srcDst).Moves) :
    Denotes (extentEnd desc srcDst) (transfer desc srcDst).high (2 ^ 52) := by
  obtain ⟨s2, s3, s4, hlist, h2, h3, h4⟩ := repeatExtents_denote desc srcDst
  have hbpp := denotes_bppSize desc srcDst
  have high {s : U64} {v m : ℤ} (hs : Denotes s v m) (hm : m * 4 ≤ 2 ^ 51) (hm0 : 0 ≤ m) :
      Denotes (smax (s * bppSize desc) 0) (max (v * (transfer desc srcDst).bpp) 0) (m * 4) :=
    ((hs.mul hbpp (by linarith)).smax denotes_zero).weaken (by simp [hm0])
  have h0 := (((denotes_lastTx desc srcDst).mul hbpp (by norm_num)).add
    (hbpp.sub denotes_one (by norm_num)) (by norm_num)).smax denotes_zero
  have h1 := high (denotes_lineExtent desc srcDst) (by norm_num) (by norm_num)
  have h2 := high h2 (by norm_num) (by norm_num)
  have h3 := high h3 (by norm_num) (by norm_num)
  have h4 := high h4 (by norm_num) (by norm_num)
  have hsum := (((h0.add h1 (by norm_num)).add h2 (by norm_num)).add h3 (by norm_num)).add h4
    (by norm_num)
  unfold extentEnd
  rw [hlist]
  refine (hsum.weaken (by norm_num)).congr ?_
  -- the last byte of the last pixel of a line lies at a nonnegative distance
  have hbpp1 : (1 : ℤ) ≤ (transfer desc srcDst).bpp := by
    exact_mod_cast transfer_bpp_pos desc srcDst
  have hline : 0 ≤ (transfer desc srcDst).lastTx * (transfer desc srcDst).bpp :=
    mul_nonneg hmoves.1 (by linarith)
  rw [max_eq_left (by linarith : (0 : ℤ) ≤ (transfer desc srcDst).lastTx *
    (transfer desc srcDst).bpp + ((transfer desc srcDst).bpp - 1))]
  simp only [Transfer.high, Transfer.dims, highest, Int.toNat_of_nonneg hmoves.1, Int.toNat_of_nonneg hmoves.2]
  rw [max_eq_left (by linarith : (0 : ℤ) ≤ (transfer desc srcDst).bpp *
    (transfer desc srcDst).lastTx)]
  ring_nf

end

section

variable {t : Transfer}

theorem inside_iff (hmoves : t.Moves) (hbpp : 0 < t.bpp) {offset maxSize : ℕ} :
    t.Inside offset maxSize ↔ 0 ≤ (offset : ℤ) + t.low ∧ (offset : ℤ) + t.high < maxSize := by
  have hreach : (∀ v, StrideReaches t.dims v → (0 : ℤ) ≤ offset + v ∧ (offset : ℤ) + v + t.bpp ≤ maxSize) ↔
      0 ≤ (offset : ℤ) + t.low ∧ (offset : ℤ) + t.high < maxSize := by
    rw [forall_reaches_iff, Transfer.low, Transfer.high]
    constructor <;> rintro ⟨hlow, hhigh⟩ <;> exact ⟨hlow, by linarith⟩
  rw [← hreach]
  constructor
  · -- the first and the last byte of the pixel at `v`
    rintro hinside v ⟨x, hx, _, ⟨y, hy, _, ⟨i1, h1, _, ⟨i2, h2, _, ⟨i3, h3, _, rfl, rfl⟩, rfl⟩, rfl⟩, rfl⟩, rfl⟩
    have hpixel := hinside x y i1 i2 i3 ((Int.le_toNat hmoves.1).mp hx)
      ((Int.le_toNat hmoves.2).mp hy) h1 h2 h3
    have hfirst := (hpixel 0 hbpp).1
    have hlast := (hpixel (t.bpp - 1) (Nat.sub_lt hbpp one_pos)).2
    have hcast : ((t.bpp - 1 : ℕ) : ℤ) = t.bpp - 1 := by omega
    rw [Transfer.pixel, Nat.cast_zero] at hfirst
    rw [Transfer.pixel, hcast] at hlast
    constructor <;> linarith
  · intro hin x y i1 i2 i3 hx hy h1 h2 h3 b hb
    have hv : StrideReaches t.dims (t.pixel x y i1 i2 i3) := by
      refine ⟨x, (Int.le_toNat hmoves.1).mpr hx, _, ⟨y, (Int.le_toNat hmoves.2).mpr hy, _,
        ⟨i1, h1, _, ⟨i2, h2, _, ⟨i3, h3, _, rfl, rfl⟩, rfl⟩, rfl⟩, rfl⟩, ?_⟩
      rw [Transfer.pixel]
      ring
    have hpixel := hin _ hv
    exact ⟨by linarith, by linarith⟩

theorem inside_of_not_moves (h : ¬ t.Moves) (offset maxSize : ℕ) : t.Inside offset maxSize := by
  intro x y i1 i2 i3 hx hy
  exact absurd ⟨(Int.natCast_nonneg x).trans hx, (Int.natCast_nonneg y).trans hy⟩ h

theorem low_nonpos : t.low ≤ 0 := lowest_nonpos t.dims

theorem high_nonneg (hbpp : 0 < t.bpp) : 0 ≤ t.high := by
  have hhigh := highest_nonneg t.dims
  unfold Transfer.high
  linarith

variable {offset maxSize : U64}

theorem inside_of_sumsInRange (hmoves : t.Moves) (hbpp : 0 < t.bpp)
    (hsize : maxSize.toNat < 2 ^ 63) (hexact : t.Unwrapped offset)
    (hsums : t.SumsInRange offset maxSize) : t.Inside offset.toNat maxSize.toNat := by
  have hlow := low_nonpos (t := t)
  have hhigh := high_nonneg hbpp
  rw [inside_iff hmoves hbpp]
  unfold Transfer.SumsInRange at hsums
  unfold Transfer.Unwrapped at hexact
  have h1 : (offset.toInt + t.low).bmod (2 ^ 64) = offset.toInt + t.low :=
    Int.bmod_eq_of_le_mul_two (by omega) (by omega)
  have h2 : (offset.toInt + t.high).bmod (2 ^ 64) = offset.toInt + t.high :=
    Int.bmod_eq_of_le_mul_two (by omega) (by omega)
  rw [h1, h2, BitVec.toInt_eq_toNat_of_lt (x := maxSize) (by omega)] at hsums
  have hoffset : offset.toInt = offset.toNat := by
    rw [BitVec.toInt_eq_toNat_cond] at hsums ⊢
    split at hsums <;> omega
  rwa [hoffset] at hsums

theorem unwrapped_of_inside (hmoves : t.Moves) (hbpp : 0 < t.bpp)
    (hsize : maxSize.toNat < 2 ^ 63) (hinside : t.Inside offset.toNat maxSize.toNat) : t.Unwrapped offset := by
  have hhigh := high_nonneg hbpp
  obtain ⟨hfirst, hlast⟩ := (inside_iff hmoves hbpp).mp hinside
  rw [Transfer.Unwrapped, BitVec.toInt_eq_toNat_of_lt (by omega)]
  omega

/-- A sum that wraps escapes the range check: the lower one wraps to the top of the
signed range and the upper one to its bottom. -/
theorem sumsInRange_of_wrapped (hbpp : 0 < t.bpp) (hsize : maxSize.toNat < 2 ^ 63)
    (hlow : -2 ^ 52 ≤ t.low) (hhigh : t.high ≤ 2 ^ 52) (hwrap : ¬ t.Unwrapped offset) :
    t.SumsInRange offset maxSize := by
  have hlow0 := low_nonpos (t := t)
  have hhigh0 := high_nonneg hbpp
  have ho1 := BitVec.le_two_mul_toInt (x := offset)
  have ho2 := BitVec.two_mul_toInt_lt (x := offset)
  rw [Transfer.Unwrapped, not_and_or, not_le, not_lt] at hwrap
  rw [Transfer.SumsInRange, BitVec.toInt_eq_toNat_of_lt (x := maxSize) (by omega)]
  rcases hwrap with hunder | hover
  · have h1 : (offset.toInt + t.low).bmod (2 ^ 64) = offset.toInt + t.low + 2 ^ 64 := by
      rw [← Int.add_bmod_right]
      exact Int.bmod_eq_of_le_mul_two (by omega) (by omega)
    have h2 : (offset.toInt + t.high).bmod (2 ^ 64) = offset.toInt + t.high :=
      Int.bmod_eq_of_le_mul_two (by omega) (by omega)
    omega
  have h1 : (offset.toInt + t.low).bmod (2 ^ 64) = offset.toInt + t.low :=
    Int.bmod_eq_of_le_mul_two (by omega) (by omega)
  have h2 : (offset.toInt + t.high).bmod (2 ^ 64) = offset.toInt + t.high - 2 ^ 64 := by
    rw [← Int.sub_bmod_right]
    exact Int.bmod_eq_of_le_mul_two (by omega) (by omega)
  omega

end

section

variable {desc srcDst}

theorem inRange_iff (hmoves : (transfer desc srcDst).Moves) (offset maxSize : U64) :
    inRange offset (extentStart desc srcDst) (extentEnd desc srcDst) maxSize = true ↔
      (transfer desc srcDst).SumsInRange offset maxSize := by
  rw [inRange, Bool.and_eq_true, BitVec.sle_iff_toInt_le, BitVec.slt_iff_toInt_lt,
    BitVec.toInt_add, BitVec.toInt_add, (denotes_extentStart hmoves).value,
    (denotes_extentEnd hmoves).value, Transfer.SumsInRange, denotes_zero.value]

theorem checkAddressRange_pitchLinear (maxSize maxSize2 : U64) (dst2 : Bool)
    (blockHeightLog2 : U8) (htx : desc.tx ≠ 0) (hformat : sideFormat desc srcDst = 0)
    (hcb : sideCbEnable desc srcDst = 0) (hmoves : (transfer desc srcDst).Moves) :
    checkAddressRange desc maxSize maxSize2 srcDst dst2 blockHeightLog2 = .ok () ↔
      desc.ty ≠ 0 ∧ maxSize.toNat < 2 ^ 63 ∧ (transfer desc srcDst).SumsInRange (sideOffset desc srcDst) maxSize ∧
      SecondFits desc maxSize2 srcDst dst2 := by
  have hcb1 : (if srcDst then desc.dstCbEnable else desc.srcCbEnable) ≠ 1 := by
    change sideCbEnable desc srcDst ≠ 1
    rw [hcb]
    decide
  have hoffset : pitchLinearEqOffset desc desc.surfBLOffset blockHeightLog2 desc.bytePerPixel
      srcDst false = .ok (sideOffset desc srcDst) := by
    cases srcDst <;> exact if_pos hformat
  have hoffset2 : offset2OfCheck desc srcDst blockHeightLog2 = .ok (secondOffset desc srcDst) := by
    cases srcDst
    · rfl
    · exact if_pos hformat
  have hsize : maxSize.slt 0 = true ↔ ¬ maxSize.toNat < 2 ^ 63 := by
    rw [BitVec.slt_iff_toInt_lt, BitVec.toInt_eq_toNat_cond, denotes_zero.value]
    split <;> omega
  have hsecond : (dst2 && (decide (0xFFFFFFFF < maxSize2) || !inRange (secondOffset desc srcDst)
      (extentStart desc srcDst) (extentEnd desc srcDst) maxSize2)) = true ↔
      ¬ SecondFits desc maxSize2 srcDst dst2 := by
    rw [SecondFits, ← inRange_iff hmoves, Bool.and_eq_true, Bool.or_eq_true, decide_eq_true_iff,
      BitVec.lt_def, Bool.not_eq_true', Classical.not_imp, not_and_or, not_le, Bool.not_eq_true]
    rfl
  unfold checkAddressRange
  rw [if_neg htx, if_neg hcb1, hoffset, hoffset2]
  split
  case isTrue hty => exact iff_of_false nofun fun h => h.1 hty
  case isFalse hty =>
    change (if _ then _ else _) = _ ↔ _
    split
    case isTrue hbig => exact iff_of_false nofun fun h => hsize.mp hbig h.2.1
    case isFalse hsmall =>
      rw [hsize, not_not] at hsmall
      split
      case isTrue hout =>
        rw [Bool.not_eq_true', ← Bool.not_eq_true, inRange_iff hmoves] at hout
        exact iff_of_false nofun fun h => hout h.2.2.1
      case isFalse hin =>
        rw [Bool.not_eq_true', Bool.not_eq_false, inRange_iff hmoves] at hin
        split
        case isTrue hout => exact iff_of_false nofun fun h => hsecond.mp hout h.2.2.2
        case isFalse hfits =>
          rw [hsecond, not_not] at hfits
          exact iff_of_true rfl ⟨hty, hsmall, hin, hfits⟩

/--
**The address check of a pitch linear transfer is sound exactly when its last addition
does not wrap.**  The check accepts a transfer that leaves the buffer only if the buffer
is not absurdly large, there is a line and a pixel, the second destination fits, and one
of the sums of the 64-bit offset and an extreme of the loops leaves the signed range.

SOURCE: drivers/video/tegra/host/pva/pva_dma.c:155-276
-/
theorem check_address_range_sound_iff (desc : DmaDescriptor) (srcDst dst2 : Bool)
    (maxSize maxSize2 : U64) (blockHeightLog2 : U8) (htx : desc.tx ≠ 0)
    (hformat : sideFormat desc srcDst = 0) (hcb : sideCbEnable desc srcDst = 0) :
    (checkAddressRange desc maxSize maxSize2 srcDst dst2 blockHeightLog2 = .ok () →
      (transfer desc srcDst).Inside (sideOffset desc srcDst).toNat maxSize.toNat) ↔
    (desc.ty = 0 ∨ ¬ (transfer desc srcDst).Moves ∨ 2 ^ 63 ≤ maxSize.toNat ∨
      ¬ SecondFits desc maxSize2 srcDst dst2 ∨ (transfer desc srcDst).Unwrapped (sideOffset desc srcDst)) := by
  have hbpp := transfer_bpp_pos desc srcDst
  by_cases hmoves : (transfer desc srcDst).Moves
  case neg => exact iff_of_true (fun _ => inside_of_not_moves hmoves _ _) (Or.inr (Or.inl hmoves))
  rw [checkAddressRange_pitchLinear maxSize maxSize2 dst2 blockHeightLog2 htx hformat hcb hmoves]
  constructor
  · intro hsound
    by_contra hcond
    obtain ⟨hty, -, hsize, hsecond, hwrap⟩ : desc.ty ≠ 0 ∧ (transfer desc srcDst).Moves ∧
        maxSize.toNat < 2 ^ 63 ∧ SecondFits desc maxSize2 srcDst dst2 ∧
        ¬ (transfer desc srcDst).Unwrapped (sideOffset desc srcDst) := by
      simpa only [not_or, not_not, not_le] using hcond
    have hlow := (abs_le.mp (denotes_extentStart hmoves).bounded).1
    have hhigh := (abs_le.mp (denotes_extentEnd hmoves).bounded).2
    have hsums := sumsInRange_of_wrapped hbpp hsize hlow hhigh hwrap
    exact hwrap (unwrapped_of_inside hmoves hbpp hsize (hsound ⟨hty, hsize, hsums, hsecond⟩))
  · rintro hcond ⟨hty, hsize, hsums, hsecond⟩
    rcases hcond with hty0 | hstill | hbig | hsecond0 | hexact
    · exact absurd hty0 hty
    · exact absurd hmoves hstill
    · exact absurd hsize (not_lt.mpr hbig)
    · exact absurd hsecond hsecond0
    · exact inside_of_sumsInRange hmoves hbpp hsize hexact hsums

/-- A line of 64 bytes, read four times at 64 bytes distance, in 256 bytes. -/
def stripDescriptor : DmaDescriptor :=
  { (default : DmaDescriptor) with
    tx := 64
    ty := 1
    srcAdv1 := 64
    srcRpt1 := 3
    srcTransferMode := 1
    dstTransferMode := 2 }

theorem strip_sound : stripDescriptor.tx ≠ 0 ∧ sideFormat stripDescriptor false = 0 ∧
    sideCbEnable stripDescriptor false = 0 ∧ (checkAddressRange stripDescriptor 256 0 false false 0 = .ok () →
      (transfer stripDescriptor false).Inside (sideOffset stripDescriptor false).toNat 256) :=
  ⟨by decide, by decide, by decide,
    (check_address_range_sound_iff stripDescriptor false false 256 0 0 (by decide) (by decide)
      (by decide)).mpr (Or.inr (Or.inr (Or.inr (Or.inr ⟨by decide, by decide⟩))))⟩

/-- One pixel at offset 2^63, repeated once with advance -1. -/
def wrappingDescriptor : DmaDescriptor :=
  { (default : DmaDescriptor) with
    srcOffset := 0x8000000000000000
    tx := 1
    ty := 1
    srcAdv1 := 0xFFFFFFFF
    srcRpt1 := 1
    srcTransferMode := 1
    dstTransferMode := 2 }

/-- The check accepts it for a buffer of one byte: the lower sum wraps to 2^63 - 1. -/
theorem wrapping_accepted_outside : wrappingDescriptor.tx ≠ 0 ∧ sideFormat wrappingDescriptor false = 0 ∧
    sideCbEnable wrappingDescriptor false = 0 ∧ checkAddressRange wrappingDescriptor 1 0 false false 0 = .ok () ∧
    ¬ (transfer wrappingDescriptor false).Inside (sideOffset wrappingDescriptor false).toNat 1 := by
  refine ⟨by decide, by decide, by decide, by decide, fun hinside => ?_⟩
  have hpixel := hinside 0 0 0 0 0 (by decide) (by decide) (by decide) (by decide) (by decide) 0
    (by decide)
  exact absurd hpixel.2 (by decide)

end

end NvidiaOot.Analysis
