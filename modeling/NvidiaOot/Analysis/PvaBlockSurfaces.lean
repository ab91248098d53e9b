import NvidiaOot.Analysis.PvaBlockLinear

/-!
# The block-linear accesses of a descriptor

A descriptor has a block-linear offset converted before it is compared with the size of a buffer.  In a surface the
conversion is a bijection; for a descriptor it has the place of the offset just if the offset fits 32 bits.
-/

namespace NvidiaOot.Analysis

open Library Program Model

variable {desc : DmaDescriptor} {surfBlOffset : U64} {blockHtLog2 bppLog2 : U8} {isDst isDst2 : Bool}

theorem pitchLinearEqOffset_eq (desc : DmaDescriptor) (surfBlOffset : U64) (blockHtLog2 bppLog2 : U8)
    (isDst isDst2 : Bool) : pitchLinearEqOffset desc surfBlOffset blockHtLog2 bppLog2 isDst isDst2 =
      if sideFormat desc (isDst || isDst2) = 0 then .ok (convertedOffset desc isDst isDst2)
      else if nvpvaMaxValidBlkHgtLg2 < blockHtLog2 then .error (-eINVAL)
      else if sideCbEnable desc (isDst || isDst2) ≠ 0 then .error (-eINVAL)
      else if convertedPitch desc bppLog2 isDst isDst2 &&& blGobWidthLog2AlignMask ≠ 0 then .error (-eINVAL)
      else if convertedOffset desc isDst isDst2 % 64 ≠ 0 then .error (-eINVAL)
      else .ok (blockLinearOffset (convertedOffset desc isDst isDst2) surfBlOffset
        (convertedPitch desc bppLog2 isDst isDst2) blockHtLog2) := rfl

theorem maxValidBlkHgtLg2_lt : nvpvaMaxValidBlkHgtLg2 < blockHtLog2 ↔ 5 < blockHtLog2.toNat := by
  have hmax : nvpvaMaxValidBlkHgtLg2.toNat = 5 := by decide
  rw [BitVec.lt_def, hmax]

theorem and_alignMask_eq_zero (linePitchBytes : U32) :
    linePitchBytes &&& blGobWidthLog2AlignMask = 0 ↔ linePitchBytes.toNat % 64 = 0 :=
  and_low_eq_zero_iff _ (k := 6) (by decide)

/-- **A block-linear access** is accepted by its checks. -/
theorem pitchLinearEqOffset_eq_ok (hformat : sideFormat desc (isDst || isDst2) ≠ 0) {r : U64} :
    pitchLinearEqOffset desc surfBlOffset blockHtLog2 bppLog2 isDst isDst2 = .ok r ↔
      BlAccess blockHtLog2 desc bppLog2 isDst isDst2 ∧
        r = blockLinearOffset (convertedOffset desc isDst isDst2) surfBlOffset
          (convertedPitch desc bppLog2 isDst isDst2) blockHtLog2 := by
  rw [pitchLinearEqOffset_eq, if_neg hformat]
  split
  case isTrue hheight =>
    have hlarge := maxValidBlkHgtLg2_lt.mp hheight
    exact ⟨fun h => (by cases h), fun h => absurd h.1.blockHt (by omega)⟩
  case isFalse hheight =>
    split
    case isTrue hcb => exact ⟨fun h => (by cases h), fun h => absurd h.1.cbEnable hcb⟩
    case isFalse hcb =>
      split
      case isTrue hpitch =>
        exact ⟨fun h => (by cases h), fun h => absurd ((and_alignMask_eq_zero _).mpr h.1.linePitch) hpitch⟩
      case isFalse hpitch =>
        split
        case isTrue hoffset => exact ⟨fun h => (by cases h), fun h => absurd h.1.offset hoffset⟩
        case isFalse hoffset =>
          constructor
          · intro h
            have hsmall := Nat.le_of_not_lt (maxValidBlkHgtLg2_lt.not.mp hheight)
            have haligned := (and_alignMask_eq_zero _).mp (not_not.mp hpitch)
            exact ⟨⟨hformat, hsmall, not_not.mp hcb, haligned, not_not.mp hoffset⟩, (Except.ok.inj h).symm⟩
          · intro h
            rw [h.2]

/--
**The place of a block-linear offset**: What is returned for a descriptor is the place of its 64-bit offset, found
without a division by zero, just if the offset and its row of blocks are not changed when they are computed with 32 bits.
-/
theorem block_linear_image_iff (desc : DmaDescriptor) (surfBlOffset : U64) (blockHtLog2 bppLog2 : U8)
    (isDst isDst2 : Bool) : ImageExact blockHtLog2 desc surfBlOffset bppLog2 isDst isDst2 ↔
      (BlAccess blockHtLog2 desc bppLog2 isDst isDst2 →
        OffsetFits (convertedPitch desc bppLog2 isDst isDst2) blockHtLog2
          (convertedOffset desc isDst isDst2 - surfBlOffset).toNat) := by
  constructor
  · intro h haccess
    obtain ⟨hrop, himage⟩ := h haccess.format _ ((pitchLinearEqOffset_eq_ok haccess.format).mpr ⟨haccess, rfl⟩)
    have hpos : 0 < (convertedPitch desc bppLog2 isDst isDst2).toNat / 64 := by
      refine Nat.pos_of_ne_zero fun hzero => hrop ?_
      unfold ropSize ropBytes
      rw [hzero, Nat.zero_mul]
      rfl
    rcases Nat.lt_or_ge (ropBytes (convertedPitch desc bppLog2 isDst isDst2) blockHtLog2) (2 ^ 32) with hlt | hge
    · exact fits_of_small_row haccess.blockHt hpos haccess.linePitch hlt himage
    · exact fits_of_wrapped_row haccess.blockHt hrop hge himage
  · intro h hformat r hr
    obtain ⟨haccess, rfl⟩ := (pitchLinearEqOffset_eq_ok hformat).mp hr
    exact ⟨(h haccess).divisor, OffsetFits.image (h haccess) haccess.blockHt rfl⟩

def blSource (srcLinePitch : U16) (srcOffset : U64) : DmaDescriptor :=
  { (default : DmaDescriptor) with srcFormat := 1, srcLinePitch := srcLinePitch, srcOffset := srcOffset }

/-- Two offsets of a surface with the same result, and a division by the size of a row without bytes. -/
theorem high_offset_aliased : pitchLinearEqOffset (blSource 64 0) 0 0 0 false false = .ok 0 ∧
      pitchLinearEqOffset (blSource 64 0x100000000) 0 0 0 false false = .ok 0 ∧
      ¬ ImageExact 0 (blSource 64 0x100000000) 0 0 false false ∧
      pitchLinearEqOffset (blSource 0 0) 0 0 0 false false = .ok 0 ∧
      ¬ ImageExact 0 (blSource 0 0) 0 0 false false := by
  have halias : pitchLinearEqOffset (blSource 64 0x100000000) 0 0 0 false false = .ok 0 := by decide +kernel
  have hzero : pitchLinearEqOffset (blSource 0 0) 0 0 0 false false = .ok 0 := by decide +kernel
  refine ⟨by decide +kernel, halias, fun h => ?_, hzero, fun h => ?_⟩
  · have himage := (h (by decide) 0 halias).2
    revert himage
    decide +kernel
  · exact (h (by decide) 0 hzero).1 (by decide +kernel)

section

variable (S : BlSurface)

theorem gobs_pos : 0 < S.linePitchBytes.toNat / 64 :=
  Nat.div_pos (Nat.le_of_dvd S.pitch_pos S.pitch_dvd) (by decide)

theorem surface_bytes : S.linePitchBytes.toNat * S.height = S.rows * ropBytes S.linePitchBytes S.blockHtLog2 := by
  have hpitch := Nat.mul_div_cancel' S.pitch_dvd
  calc S.linePitchBytes.toNat * S.height
      = 64 * (S.linePitchBytes.toNat / 64) * (S.rows * (8 * 2 ^ S.blockHtLog2.toNat)) := by rw [hpitch]; rfl
    _ = S.rows * (S.linePitchBytes.toNat / 64 * (512 * 2 ^ S.blockHtLog2.toNat)) := by ring

theorem fits_of_mem_offsets {offset : U64} (h : offset ∈ S.offsets) :
    OffsetFits S.linePitchBytes S.blockHtLog2 (offset - S.surfBlOffset).toNat := by
  have hlt : (offset - S.surfBlOffset).toNat < S.linePitchBytes.toNat * S.height := h
  have hsize : S.linePitchBytes.toNat * S.height < 2 ^ 31 := S.size_lt
  have hrows : 0 < S.rows := by
    refine Nat.pos_of_ne_zero fun hzero => ?_
    rw [surface_bytes, hzero, Nat.zero_mul] at hlt
    exact Nat.not_lt_zero _ hlt
  have hrop : ropBytes S.linePitchBytes S.blockHtLog2 < 2 ^ 32 := by
    have hle := Nat.le_mul_of_pos_left (ropBytes S.linePitchBytes S.blockHtLog2) hrows
    rw [← surface_bytes] at hle
    omega
  exact offsetFits_of_small_row (gobs_pos S) (Nat.mod_eq_zero_of_dvd S.pitch_dvd) hrop (by omega)

theorem surface_linear {offset : U64} (h : offset ∈ S.offsets) : (S.linear offset - S.surfBlOffset).toNat =
      (gobTiling (S.linePitchBytes.toNat / 64) S.blockHtLog2.toNat (gobs_pos S)).linear
        (offset - S.surfBlOffset).toNat := by
  rw [← blImage_eq_linear _ (Nat.mod_eq_zero_of_dvd S.pitch_dvd)]
  exact OffsetFits.image (fits_of_mem_offsets S h) S.blockHt_le rfl

theorem eq_of_toNat_sub {a b c : U64} (h : (a - c).toNat = (b - c).toNat) : a = b :=
  sub_left_injective (BitVec.eq_of_toNat_eq h)

/-- **The conversion** of a surface's offsets is a bijection. -/
theorem bijOn_surface_linear : Set.BijOn S.linear S.offsets S.offsets := by
  have htiling := (gobTiling (S.linePitchBytes.toNat / 64) S.blockHtLog2.toNat (gobs_pos S)).bijOn_linear S.rows
  have hrow : S.rows * (gobTiling (S.linePitchBytes.toNat / 64) S.blockHtLog2.toNat (gobs_pos S)).row =
      S.linePitchBytes.toNat * S.height := by
    rw [surface_bytes]
    exact congrArg _ (Nat.mul_comm _ _)
  rw [hrow] at htiling
  refine ⟨fun offset hoffset => ?_, fun offset hoffset offset' hoffset' h => ?_, fun r hr => ?_⟩
  · change (S.linear offset - S.surfBlOffset).toNat < _
    rw [surface_linear S hoffset]
    exact htiling.mapsTo hoffset
  · have hplace := congrArg (fun r => (r - S.surfBlOffset).toNat) h
    rw [surface_linear S hoffset, surface_linear S hoffset'] at hplace
    exact eq_of_toNat_sub (Tiling.linear_injective _ hplace)
  · obtain ⟨n, hn, hplace⟩ := htiling.surjOn hr
    have hback : (S.surfBlOffset + BitVec.ofNat 64 n - S.surfBlOffset).toNat = n := by
      rw [add_sub_cancel_left, BitVec.toNat_ofNat]
      exact Nat.mod_eq_of_lt ((Set.mem_Iio.mp hn).trans (S.size_lt.trans (by decide)))
    have hmem : S.surfBlOffset + BitVec.ofNat 64 n ∈ S.offsets := by
      change (S.surfBlOffset + BitVec.ofNat 64 n - S.surfBlOffset).toNat < S.linePitchBytes.toNat * S.height
      rw [hback]
      exact hn
    refine ⟨_, hmem, eq_of_toNat_sub (c := S.surfBlOffset) ?_⟩
    rw [surface_linear S hmem, hback]
    exact hplace

theorem pitchLinearEqOffset_withOffset (h : S.IsOf desc bppLog2 isDst isDst2) (offset : U64) :
    pitchLinearEqOffset (withOffset desc isDst isDst2 offset) S.surfBlOffset S.blockHtLog2 bppLog2 isDst isDst2 =
      if offset % 64 = 0 then .ok (S.linear offset) else .error (-eINVAL) := by
  have hsides : sideFormat (withOffset desc isDst isDst2 offset) (isDst || isDst2) = sideFormat desc (isDst || isDst2) ∧
      sideCbEnable (withOffset desc isDst isDst2 offset) (isDst || isDst2) = sideCbEnable desc (isDst || isDst2) ∧
      convertedPitch (withOffset desc isDst isDst2 offset) bppLog2 isDst isDst2 =
        convertedPitch desc bppLog2 isDst isDst2 ∧
      convertedOffset (withOffset desc isDst isDst2 offset) isDst isDst2 = offset := by
    cases isDst <;> cases isDst2 <;> exact ⟨rfl, rfl, rfl, rfl⟩
  obtain ⟨hformat, hcb, hpitch, hoffset⟩ := hsides
  have hheight := maxValidBlkHgtLg2_lt.not.mpr (Nat.not_lt.mpr S.blockHt_le)
  have haligned := (and_alignMask_eq_zero S.linePitchBytes).mpr (Nat.mod_eq_zero_of_dvd S.pitch_dvd)
  rw [pitchLinearEqOffset_eq, hformat, hcb, hpitch, hoffset, if_neg h.format, if_neg hheight,
    if_neg (not_not.mpr h.cbEnable), h.linePitch, if_neg (not_not.mpr haligned)]
  by_cases hmod : offset % 64 = 0
  · rw [if_pos hmod, if_neg (not_not.mpr hmod)]
    rfl
  · rw [if_neg hmod, if_pos hmod]

/--
**Block-linear surfaces**: The conversion is a bijection of the offsets of a surface, and it is what is returned for an
offset that is a multiple of 64.  The other offsets are refused.
-/
theorem block_linear_bijective (h : S.IsOf desc bppLog2 isDst isDst2) : Set.BijOn S.linear S.offsets S.offsets ∧
      ∀ offset, pitchLinearEqOffset (withOffset desc isDst isDst2 offset) S.surfBlOffset S.blockHtLog2 bppLog2
        isDst isDst2 = if offset % 64 = 0 then .ok (S.linear offset) else .error (-eINVAL) :=
  ⟨bijOn_surface_linear S, pitchLinearEqOffset_withOffset S h⟩

def oneGob : BlSurface := ⟨64, 0, 0, 1, by decide, by decide, by decide, by decide⟩

theorem isOf_oneGob : oneGob.IsOf (blSource 64 0) 0 false false := ⟨by decide, rfl, by decide⟩

theorem oneGob_bijective : Set.BijOn oneGob.linear oneGob.offsets oneGob.offsets ∧
      ∀ offset, pitchLinearEqOffset (withOffset (blSource 64 0) false false offset) 0 0 0 false false =
        if offset % 64 = 0 then .ok (oneGob.linear offset) else .error (-eINVAL) :=
  block_linear_bijective oneGob isOf_oneGob

/-- No offset of the GOB is converted to its second byte. -/
theorem second_byte_unreached : (1 : U64) ∈ oneGob.offsets ∧ ∀ offset ∈ oneGob.offsets,
      pitchLinearEqOffset (withOffset (blSource 64 0) false false offset) 0 0 0 false false ≠ .ok 1 := by
  have hone : (1 : U64) ∈ oneGob.offsets := by
    change (1 - 0 : U64).toNat < 64 * (1 * (8 * 2 ^ 0))
    decide
  refine ⟨hone, fun offset hoffset h => ?_⟩
  have hreturned := pitchLinearEqOffset_withOffset oneGob isOf_oneGob offset
  have hsame := hreturned.symm.trans h
  split at hsame
  case isTrue haligned =>
    have hlinear : oneGob.linear 1 = 1 := by decide +kernel
    have heq := (bijOn_surface_linear oneGob).injOn hoffset hone ((Except.ok.inj hsame).trans hlinear.symm)
    rw [heq] at haligned
    exact absurd haligned (by decide)
  case isFalse => cases hsame

end

end NvidiaOot.Analysis
