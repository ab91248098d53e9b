import NvidiaOot.Analysis.PvaAddressCheck

/-!
# Circular buffers of DMA transfers

Only the sequencer compares a circular buffer with the memory that it lives in, and only its destination side
counts the bytes of a pixel.
-/

namespace NvidiaOot.Analysis

open Library Program Model

variable {h : Hwseq} {desc : DmaDescriptor} {count : I32}

/-! ## Software sequencing -/

theorem checkAddressRange_cb {maxSize maxSize2 : U64} {srcDst dst2 : Bool} {blockHeightLog2 : U8}
    (hcb : (if srcDst then desc.dstCbEnable else desc.srcCbEnable) = 1) (htx : desc.tx ≠ 0) (hty : desc.ty ≠ 0)
    (hok : checkAddressRange desc maxSize maxSize2 srcDst dst2 blockHeightLog2 = .ok ()) :
    ((transfer desc srcDst).linePitch * (transfer desc srcDst).lastTy + (transfer desc srcDst).lastTx + 1) *
      (transfer desc srcDst).bpp ≤ ((if srcDst then desc.dstCbSize else desc.srcCbSize).toNat : ℤ) := by
  have hextent := ((((denotes_lineExtent desc srcDst).add (denotes_lastTx desc srcDst) (by norm_num)).add
    denotes_one (by norm_num)).mul (denotes_bppSize desc srcDst) (by norm_num))
  have hsize (x : U32) : (x.setWidth 64).toInt = x.toNat := (Denotes.ofUnsigned (w := 64) x (by decide)).value
  unfold checkAddressRange at hok
  rw [if_neg htx, if_neg hty, if_pos hcb] at hok
  by_cases hle : ((lineExtent desc srcDst + lastTx desc srcDst + 1) * bppSize desc).sle
      ((if srcDst then desc.dstCbSize else desc.srcCbSize).setWidth 64) = true
  · rw [BitVec.sle_iff_toInt_le, hextent.value, hsize] at hle
    exact hle
  · simp only [hle] at hok
    cases hok

theorem toNat_pos {w : ℕ} {x : BitVec w} (hx : x ≠ 0) : 1 ≤ x.toNat := by
  apply Nat.pos_of_ne_zero
  intro hzero
  exact hx (BitVec.eq_of_toNat_eq (by simpa using hzero))

theorem tileFits_of_check {maxSize maxSize2 : U64} {srcDst dst2 : Bool} {blockHeightLog2 : U8}
    (hcb : (if srcDst then desc.dstCbEnable else desc.srcCbEnable) = 1) (htx : desc.tx ≠ 0) (hty : desc.ty ≠ 0)
    (hok : checkAddressRange desc maxSize maxSize2 srcDst dst2 blockHeightLog2 = .ok ())
    (hpad : srcDst = false → desc.px = 0 ∧ desc.py = 0) :
    TileFits desc (if srcDst then desc.dstLinePitch else desc.srcLinePitch) (bppSize desc).toNat 0
      (if srcDst then desc.dstCbSize else desc.srcCbSize).toNat := by
  have hfits := checkAddressRange_cb hcb htx hty hok
  have hline : ((desc.ty.toNat - 1 : ℕ) : ℤ) = desc.ty.toNat - 1 := by
    have := toNat_pos hty
    omega
  unfold TileFits
  cases srcDst with
  | true =>
    simp only [transfer, if_true] at hfits ⊢
    zify
    rw [hline]
    linarith
  | false =>
    obtain ⟨hpx, hpy⟩ := hpad rfl
    have hpx' : (desc.px.toNat : ℤ) = 0 := by
      rw [hpx]
      simp
    have hpy' : (desc.py.toNat : ℤ) = 0 := by
      rw [hpy]
      simp
    simp only [transfer, Bool.false_eq_true, if_false, hpx', hpy', sub_zero] at hfits ⊢
    zify
    rw [hline]
    linarith

/-! ## Sizes of tiles -/

theorem toNat_getMaxUint (a b : U32) : (getMaxUint a b).toNat = max a.toNat b.toNat := by
  unfold getMaxUint
  split
  · rename_i hlt
    rw [max_eq_left hlt.le]
  · rename_i hle
    rw [gt_iff_lt, BitVec.lt_def, not_lt] at hle
    rw [max_eq_right hle]

theorem toNat_wide (x : U16) : (x.setWidth 32).toNat = x.toNat := BitVec.toNat_setWidth_of_le (by decide)

theorem toNat_tileSize (pitch : U16) {tx ty : U32} (hty : 1 ≤ ty.toNat) (htx' : tx.toNat ≤ 0xFFFF)
    (hty' : ty.toNat ≤ 0xFFFF) : (tileSize pitch tx ty).toNat = pitch.toNat * (ty.toNat - 1) + tx.toNat ∧
      pitch.toNat * (ty.toNat - 1) + tx.toNat < 2 ^ 32 := by
  have hprod : pitch.toNat * (ty.toNat - 1) ≤ 0xFFFF * 0xFFFE := Nat.mul_le_mul (by omega) (by omega)
  have hone : (1 : U32).toNat = 1 := by simp
  have hlast : (ty - 1).toNat = ty.toNat - 1 := by
    rw [BitVec.toNat_sub_of_le (by rw [BitVec.le_def, hone]; exact hty), hone]
  refine ⟨?_, by omega⟩
  rw [tileSize, BitVec.toNat_add, BitVec.toNat_mul, BitVec.toNat_setWidth_of_le (by decide),
    BitVec.toNat_setWidth_of_le (by decide), BitVec.toNat_setWidth_of_le (by decide), hlast,
    Nat.mod_eq_of_lt (a := pitch.toNat * (ty.toNat - 1)) (by omega), Nat.mod_eq_of_lt (by omega)]

theorem signed_tileSize (pitch : U16) {tx ty : U32} (hty : 1 ≤ ty.toNat) (htx' : tx.toNat ≤ 0xFFFF)
    (hty' : ty.toNat ≤ 0xFFFF) :
    pitch.setWidth 64 * (ty - 1).signExtend 64 + tx.signExtend 64 = tileSize pitch tx ty := by
  have hone : (1 : U32).toNat = 1 := by simp
  have hlast : (ty - 1).toNat = ty.toNat - 1 := by
    rw [BitVec.toNat_sub_of_le (by rw [BitVec.le_def, hone]; exact hty), hone]
  have hwide {x : U32} (hx : x.toNat ≤ 0xFFFF) : x.signExtend 64 = x.setWidth 64 := by
    apply BitVec.signExtend_eq_setWidth_of_msb_false
    rw [BitVec.msb_eq_decide, decide_eq_false_iff_not]
    omega
  rw [tileSize, hwide (by omega), hwide htx']

theorem toNat_shifted {x : U64} {n : ℕ} (hx : x.toNat < 2 ^ 32) (hn : n < 32) :
    (x <<< (n % 64)).toNat = x.toNat * 2 ^ n ∧ x.toNat * 2 ^ n < 2 ^ 64 := by
  have hpow : 2 ^ n ≤ 2 ^ 31 := Nat.pow_le_pow_right (by omega) (by omega)
  have hprod : x.toNat * 2 ^ n ≤ (2 ^ 32 - 1) * 2 ^ 31 := Nat.mul_le_mul (by omega) hpow
  rw [Nat.mod_eq_of_lt (by omega), BitVec.toNat_shiftLeft, Nat.shiftLeft_eq, Nat.mod_eq_of_lt (by omega)]
  exact ⟨rfl, by omega⟩

theorem bppSize_le_pow (desc : DmaDescriptor) : (bppSize desc).toNat ≤ 2 ^ desc.bytePerPixel.toNat := by
  unfold bppSize
  split
  · exact Nat.one_le_two_pow
  split
  · rename_i hone
    rw [hone]
    decide
  rename_i h₀ h₁
  have hge : 2 ≤ desc.bytePerPixel.toNat := by
    have hpos := toNat_pos h₀
    by_contra hlt
    apply h₁
    apply BitVec.eq_of_toNat_eq
    have hone : (1 : U8).toNat = 1 := by simp
    omega
  exact (Nat.pow_le_pow_right (by omega) hge : 2 ^ 2 ≤ _)

theorem tileFits_of_larger {d : DmaDescriptor} {pitch : U16} {bpp scale tx ty offset room : ℕ}
    (htx : d.tx.toNat ≤ tx) (hty : d.ty.toNat ≤ ty) (hscale : bpp ≤ scale)
    (hroom : (pitch.toNat * (ty - 1) + tx) * scale + offset ≤ room) : TileFits d pitch bpp offset room := by
  have hlines : pitch.toNat * (d.ty.toNat - 1) ≤ pitch.toNat * (ty - 1) := Nat.mul_le_mul_left _ (by omega)
  have hbytes : (pitch.toNat * (d.ty.toNat - 1) + d.tx.toNat) * bpp ≤ (pitch.toNat * (ty - 1) + tx) * scale :=
    Nat.mul_le_mul (by omega) hscale
  unfold TileFits
  omega

/-! ## The largest tile -/

theorem toNat_largestTile (h : Hwseq) : (largestTile h).1.toNat = max h.headDesc.tx.toNat h.tailDesc.tx.toNat ∧
      (largestTile h).2.toNat = max h.headDesc.ty.toNat h.tailDesc.ty.toNat := by
  simp only [largestTile, toNat_getMaxUint, toNat_wide, and_self]

theorem largestTile_bounds (hty : h.headDesc.ty ≠ 0) :
    1 ≤ (largestTile h).2.toNat ∧ (largestTile h).1.toNat ≤ 0xFFFF ∧ (largestTile h).2.toNat ≤ 0xFFFF := by
  obtain ⟨h₁, h₂⟩ := toNat_largestTile h
  have hpos := toNat_pos hty
  omega

theorem toNat_tileSize_largest (pitch : U16) (hty : h.headDesc.ty ≠ 0) :
    (tileSize pitch (largestTile h).1 (largestTile h).2).toNat = CbValidator.largestPixels h pitch ∧
      CbValidator.largestPixels h pitch < 2 ^ 32 := by
  obtain ⟨hpos, htx', hty'⟩ := largestTile_bounds hty
  obtain ⟨h₁, h₂⟩ := toNat_largestTile h
  have hsize := toNat_tileSize pitch hpos htx' hty'
  rw [h₁, h₂] at hsize
  exact hsize

theorem tilesFit_of_largest {pitch : U16} {offset room : ℕ} (scale : ℕ) (hscale : (bppSize h.headDesc).toNat ≤ scale)
    (hroom : CbValidator.largestPixels h pitch * scale + offset ≤ room) : TilesFit h pitch offset room :=
  ⟨tileFits_of_larger (le_max_left _ _) (le_max_left _ _) hscale hroom,
    tileFits_of_larger (le_max_right _ _) (le_max_right _ _) hscale hroom⟩

/-! ## The sequencer -/

theorem splitSide_eq_ok {x y r : U32} (hok : splitSide x y = .ok r) :
    x.toNat ≤ r.toNat ∧ y.toNat ≤ r.toNat ∧ r.toNat ≤ 0xFFFF := by
  have hmax : (0xFFFF : U32).toNat = 0xFFFF := by simp
  obtain ⟨hbig, hr⟩ := reject_bind_eq_ok.mp hok
  rw [not_or, gt_iff_lt, gt_iff_lt, BitVec.lt_def, BitVec.lt_def, hmax] at hbig
  rw [← pure_eq_ok.mp hr, toNat_getMaxUint]
  omega

/-- A padded side is not smaller than those of the two descriptors, whichever comes first. -/
theorem splitSide_bounds {x y : U16} {p q : U8} {r : U32} {forward : Bool}
    (hok : splitSide ((if forward then x else y).setWidth 32 + byte p)
      ((if forward then y else x).setWidth 32 + byte q) = .ok r) :
    x.toNat ≤ r.toNat ∧ y.toNat ≤ r.toNat ∧ r.toNat ≤ 0xFFFF := by
  have hsum (x : U16) (p : U8) : (x.setWidth 32 + byte p : U32).toNat = x.toNat + p.toNat := by
    rw [BitVec.toNat_add, toNat_wide, byte, BitVec.toNat_setWidth_of_le (by decide), Nat.mod_eq_of_lt (by omega)]
  obtain ⟨h₁, h₂, h₃⟩ := splitSide_eq_ok hok
  rw [hsum] at h₁ h₂
  cases forward with
  | true =>
    simp only [if_true] at h₁ h₂
    omega
  | false =>
    simp only [Bool.false_eq_true, if_false] at h₁ h₂
    omega

/-- With split padding the measured tile is not smaller than that of the head, nor than that of a tail with the
same fixed side. -/
theorem splitTile_bounds {tile : U32 × U32} (hty : h.headDesc.ty ≠ 0) (hok : splitTile h = .ok tile) :
    (1 ≤ tile.2.toNat ∧ tile.1.toNat ≤ 0xFFFF ∧ tile.2.toNat ≤ 0xFFFF) ∧
      (h.headDesc.tx.toNat ≤ tile.1.toNat ∧ h.headDesc.ty.toNat ≤ tile.2.toNat) ∧
      (¬ CbValidator.tailLarger h → h.tailDesc.tx.toNat ≤ tile.1.toNat ∧ h.tailDesc.ty.toNat ≤ tile.2.toNat) := by
  have hpos := toNat_pos hty
  unfold splitTile at hok
  unfold CbValidator.tailLarger
  by_cases hraster : h.isRasterScan = true
  · simp only [hraster, if_true] at hok ⊢
    obtain ⟨r, hside, hr⟩ := bind_eq_ok.mp hok
    rw [apply_ite DmaDescriptor.tx, apply_ite DmaDescriptor.tx] at hside
    have hbounds := splitSide_bounds hside
    rw [← pure_eq_ok.mp hr]
    simp only [toNat_wide]
    omega
  simp only [hraster, Bool.false_eq_true, if_false] at hok ⊢
  obtain ⟨r, hside, hr⟩ := bind_eq_ok.mp hok
  rw [apply_ite DmaDescriptor.ty, apply_ite DmaDescriptor.ty] at hside
  have hbounds := splitSide_bounds hside
  rw [← pure_eq_ok.mp hr]
  simp only [toNat_wide]
  omega

theorem cbTile_bounds {tile : U32 × U32} (hty : h.headDesc.ty ≠ 0) (hok : cbTile h = .ok tile) :
    (1 ≤ tile.2.toNat ∧ tile.1.toNat ≤ 0xFFFF ∧ tile.2.toNat ≤ 0xFFFF) ∧
      (h.headDesc.tx.toNat ≤ tile.1.toNat ∧ h.headDesc.ty.toNat ≤ tile.2.toNat) ∧
      (¬ (h.isSplitPadding = true ∧ CbValidator.tailLarger h) →
        h.tailDesc.tx.toNat ≤ tile.1.toNat ∧ h.tailDesc.ty.toNat ≤ tile.2.toNat) := by
  unfold cbTile at hok
  split at hok
  · rename_i hsplit
    obtain ⟨hbounds, hhead, hlarger⟩ := splitTile_bounds hty hok
    exact ⟨hbounds, hhead, fun hnot => hlarger fun hlarge => hnot ⟨hsplit, hlarge⟩⟩
  · cases hok
    obtain ⟨h₁, h₂⟩ := toNat_largestTile h
    refine ⟨largestTile_bounds hty, by omega, fun _ => by omega⟩

theorem validateDstVmem_cb (hcb : h.headDesc.dstCbEnable = 1) (hty : h.headDesc.ty ≠ 0)
    (hok : validateDstVmem h = .ok count) : h.headDesc.dstCbSize.toNat ≤ (h.getBufferSizeHwseq true).toNat ∧
      (¬ (32 ≤ h.headDesc.bytePerPixel.toNat ∨ h.isSplitPadding = true ∧ CbValidator.tailLarger h) →
        TilesFit h h.headDesc.dstLinePitch 0 h.headDesc.dstCbSize.toNat) := by
  have hne : h.headDesc.dstCbEnable ≠ 0 := by
    rw [hcb]
    decide
  have hsize : (h.headDesc.dstCbSize.setWidth 64).toNat = h.headDesc.dstCbSize.toNat :=
    BitVec.toNat_setWidth_of_le (by decide)
  obtain ⟨-, -, hok⟩ := bind_eq_ok.mp hok
  obtain ⟨-, -, hok⟩ := bind_eq_ok.mp hok
  obtain ⟨-, hok⟩ := reject_bind_eq_ok.mp hok
  rw [if_pos hne] at hok
  obtain ⟨u, hcheck, -⟩ := bind_eq_ok.mp hok
  obtain ⟨hbuffer, hcheck⟩ := reject_bind_eq_ok.mp hcheck
  obtain ⟨tile, htile, hcheck⟩ := bind_eq_ok.mp hcheck
  have hfits := reject_eq_ok.mp hcheck
  rw [gt_iff_lt, BitVec.not_lt, BitVec.le_def, hsize] at hbuffer hfits
  refine ⟨hbuffer, fun hnot => ?_⟩
  rw [not_or, not_le] at hnot
  obtain ⟨⟨hpos, htx', hty'⟩, ⟨hhx, hhy⟩, htailIn⟩ := cbTile_bounds hty htile
  obtain ⟨htx, hty⟩ := htailIn hnot.2
  obtain ⟨hpixels, hlt⟩ := toNat_tileSize h.headDesc.dstLinePitch hpos htx' hty'
  rw [(toNat_shifted (by omega) hnot.1).1, hpixels] at hfits
  have hscale := bppSize_le_pow h.headDesc
  exact ⟨tileFits_of_larger hhx hhy hscale hfits, tileFits_of_larger htx hty hscale hfits⟩

theorem validateDstVmem_linear (hcb : h.headDesc.dstCbEnable = 0) (hty : h.headDesc.ty ≠ 0)
    (hok : validateDstVmem h = .ok count)
    (hnot : ¬ (32 ≤ h.headDesc.bytePerPixel.toNat ∨ 2 ^ 64 ≤ CbValidator.largestPixels h h.headDesc.dstLinePitch *
      2 ^ h.headDesc.bytePerPixel.toNat + h.headDesc.dstOffset.toNat)) :
    TilesFit h h.headDesc.dstLinePitch h.headDesc.dstOffset.toNat (h.getBufferSizeHwseq true).toNat := by
  obtain ⟨-, -, hok⟩ := bind_eq_ok.mp hok
  obtain ⟨-, -, hok⟩ := bind_eq_ok.mp hok
  obtain ⟨-, hok⟩ := reject_bind_eq_ok.mp hok
  rw [if_neg (not_not.mpr hcb)] at hok
  obtain ⟨-, hok⟩ := reject_bind_eq_ok.mp hok
  obtain ⟨-, -, hok⟩ := bind_eq_ok.mp hok
  obtain ⟨hfits, -⟩ := reject_bind_eq_ok.mp hok
  rw [not_or, not_le, not_le] at hnot
  obtain ⟨hpixels, hlt⟩ := toNat_tileSize_largest h.headDesc.dstLinePitch hty
  rw [gt_iff_lt, BitVec.not_lt, BitVec.le_def, BitVec.toNat_add, (toNat_shifted (by omega) hnot.1).1, hpixels,
    Nat.mod_eq_of_lt hnot.2] at hfits
  exact tilesFit_of_largest _ (bppSize_le_pow h.headDesc) hfits

theorem validateSrcVmem_facts (hty : h.headDesc.ty ≠ 0) (hok : validateSrcVmem h = .ok count) :
    (h.headDesc.srcCbEnable ≠ 0 → h.headDesc.srcCbSize.toNat ≤ (h.getBufferSizeHwseq false).toNat ∧
      CbValidator.largestPixels h h.headDesc.srcLinePitch ≤ h.headDesc.srcCbSize.toNat) ∧
    (h.headDesc.srcCbEnable = 0 →
      (CbValidator.largestPixels h h.headDesc.srcLinePitch + h.headDesc.srcOffset.toNat) % 2 ^ 64 ≤
        (h.getBufferSizeHwseq false).toNat) := by
  have hsize : (h.headDesc.srcCbSize.setWidth 64).toNat = h.headDesc.srcCbSize.toNat :=
    BitVec.toNat_setWidth_of_le (by decide)
  obtain ⟨hpos, htx', hty'⟩ := largestTile_bounds hty
  obtain ⟨hpixels, hlt⟩ := toNat_tileSize_largest h.headDesc.srcLinePitch hty
  obtain ⟨-, -, hok⟩ := bind_eq_ok.mp hok
  obtain ⟨-, -, hok⟩ := bind_eq_ok.mp hok
  obtain ⟨-, -, hok⟩ := bind_eq_ok.mp hok
  dsimp only at hok
  rw [signed_tileSize h.headDesc.srcLinePitch hpos htx' hty'] at hok
  constructor
  · intro hne
    rw [if_pos hne] at hok
    obtain ⟨hbuffer, hok⟩ := reject_bind_eq_ok.mp hok
    obtain ⟨hfits, -⟩ := reject_bind_eq_ok.mp hok
    rw [gt_iff_lt, BitVec.not_lt, BitVec.le_def, hsize] at hbuffer
    rw [BitVec.slt_iff_toInt_lt, not_lt, BitVec.toInt_eq_toNat_of_lt (by omega),
      BitVec.toInt_eq_toNat_of_lt (by omega), hsize, hpixels] at hfits
    exact ⟨hbuffer, by exact_mod_cast hfits⟩
  · intro hzero
    rw [if_neg (not_not.mpr hzero)] at hok
    obtain ⟨-, -, hok⟩ := bind_eq_ok.mp hok
    obtain ⟨hfits, -⟩ := reject_bind_eq_ok.mp hok
    rw [gt_iff_lt, BitVec.not_lt, BitVec.le_def, BitVec.toNat_add, hpixels] at hfits
    exact hfits

theorem bppSize_of_zero (hzero : desc.bytePerPixel = 0) : (bppSize desc).toNat = 1 := by
  unfold bppSize
  rw [if_pos hzero]
  rfl

/-- A validator that accepts its descriptors keeps a circular buffer and its tiles inside if and only if what
it leaves out holds of them. -/
theorem circular_buffer_inside_iff (v : CbValidator) (haccepts : v.Accepts) (hmoves : v.MovesTiles) :
    v.Inside ↔ v.LeftOut := by
  cases v with
  | addressRange desc maxSize maxSize2 srcDst dst2 blockHeightLog2 =>
    obtain ⟨htx, hty⟩ := hmoves
    constructor
    · intro hinside hcb
      obtain ⟨hsize, hfits⟩ := hinside hcb
      refine ⟨hsize, fun hsrc _ => ?_⟩
      subst hsrc
      exact hfits
    · intro hleft hcb
      obtain ⟨hsize, hfits⟩ := hleft hcb
      refine ⟨hsize, ?_⟩
      by_cases hpadded : srcDst = false ∧ ¬ (desc.px = 0 ∧ desc.py = 0)
      · obtain ⟨hsrc, hpad⟩ := hpadded
        subst hsrc
        exact hfits rfl hpad
      apply tileFits_of_check hcb htx hty haccepts
      intro hsrc
      by_contra hpad
      exact hpadded ⟨hsrc, hpad⟩
  | dstVmem h =>
    obtain ⟨count, hok⟩ := haccepts
    obtain ⟨⟨-, hty⟩, -⟩ := hmoves
    constructor
    · rintro ⟨hcircular, hlinear⟩
      exact ⟨fun hcb _ => (hcircular hcb).2, fun hcb _ => hlinear hcb⟩
    · rintro ⟨hcircular, hlinear⟩
      constructor
      · intro hcb
        obtain ⟨hsize, hfits⟩ := validateDstVmem_cb hcb hty hok
        refine ⟨hsize, ?_⟩
        by_cases hleft : 32 ≤ h.headDesc.bytePerPixel.toNat ∨
            h.isSplitPadding = true ∧ CbValidator.tailLarger h
        · exact hcircular hcb hleft
        · exact hfits hleft
      · intro hcb
        by_contra hnot
        exact hnot (validateDstVmem_linear hcb hty hok fun hleft => hnot (hlinear hcb hleft))
  | srcVmem h =>
    obtain ⟨count, hok⟩ := haccepts
    obtain ⟨⟨-, hty⟩, -⟩ := hmoves
    obtain ⟨hcb₁, hcb₀⟩ := validateSrcVmem_facts hty hok
    constructor
    · rintro ⟨hcircular, hlinear⟩
      exact ⟨fun hcb _ => (hcircular hcb).2, fun hcb _ => hlinear hcb⟩
    · rintro ⟨hcircular, hlinear⟩
      constructor
      · intro hcb
        have hne : h.headDesc.srcCbEnable ≠ 0 := by
          rw [hcb]
          decide
        obtain ⟨hsize, hpixels⟩ := hcb₁ hne
        refine ⟨hsize, ?_⟩
        by_cases hbpp : h.headDesc.bytePerPixel = 0
        · apply tilesFit_of_largest 1 (bppSize_of_zero hbpp).le
          omega
        · exact hcircular hcb hbpp
      · intro hcb
        by_cases hleft : h.headDesc.bytePerPixel ≠ 0 ∨
            2 ^ 64 ≤ CbValidator.largestPixels h h.headDesc.srcLinePitch + h.headDesc.srcOffset.toNat
        · exact hlinear hcb hleft
        rw [not_or, not_not, not_le] at hleft
        have hpixels := hcb₀ hcb
        apply tilesFit_of_largest 1 (bppSize_of_zero hleft.1).le
        omega

/-- A tile of 16 by 16 pixels of four bytes, from a circular buffer of 1 KiB. -/
def ringDescriptor (cbSize : U32) (bytePerPixel : U8) : DmaDescriptor :=
  { (default : DmaDescriptor) with
    tx := 16, ty := 16, srcLinePitch := 16, dstLinePitch := 16, srcTransferMode := xferVmem
    dstTransferMode := xferMc, srcCbEnable := 1, srcCbSize := cbSize, bytePerPixel := bytePerPixel }

def ringProgram (cbSize : U32) (bytePerPixel : U8) : Hwseq where
  hdr := ⟨0, 0, 0, 0, 0⟩
  colrow := ⟨0, 0⟩
  entry := ⟨0, 0⟩
  secondEntry := none
  dmaCh := default
  dmaDescriptors _ := ringDescriptor cbSize bytePerPixel
  taskBuffInfo _ := ⟨4096, 4096, 0⟩

theorem ringProgram_inside :
    (CbValidator.srcVmem (ringProgram 1024 0)).Inside ↔ (CbValidator.srcVmem (ringProgram 1024 0)).LeftOut := by
  have haccepts : (CbValidator.srcVmem (ringProgram 1024 0)).Accepts := ⟨1, by decide⟩
  have hmoves : (CbValidator.srcVmem (ringProgram 1024 0)).MovesTiles := by
    unfold CbValidator.MovesTiles
    decide
  exact circular_buffer_inside_iff _ haccepts hmoves

/-- A circular buffer of 64 KiB is accepted for a buffer of 64 bytes, and a tile of 1024 bytes for a circular
buffer of 256 bytes. -/
theorem circular_buffer_outside :
    ((CbValidator.addressRange (ringDescriptor 0x10000 2) 64 0 false false 0).Accepts ∧
      ¬ (CbValidator.addressRange (ringDescriptor 0x10000 2) 64 0 false false 0).Inside) ∧
    ((CbValidator.srcVmem (ringProgram 256 2)).Accepts ∧ ¬ (CbValidator.srcVmem (ringProgram 256 2)).Inside) := by
  refine ⟨⟨?_, fun hinside => ?_⟩, ⟨⟨1, by decide⟩, fun hinside => ?_⟩⟩
  · unfold CbValidator.Accepts
    decide
  · have hsize := (hinside (by decide)).1
    revert hsize
    decide
  · have hfits := (hinside.1 (by decide)).2.1
    revert hfits
    unfold TileFits
    decide

end NvidiaOot.Analysis
