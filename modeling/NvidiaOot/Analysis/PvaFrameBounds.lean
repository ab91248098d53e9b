import NvidiaOot.Analysis.PvaGrid
import NvidiaOot.Analysis.PvaAddressCheck

/-!
# The bounds of a frame

Every number up to the span of the grid is exact, because its factors have 16 and 9 bits.  The products with the
line pitch are not: they are those of `int32_t`, and the sums with the offset those of `int64_t`.
-/

namespace NvidiaOot.Analysis

open Library Program Model

variable {h : Hwseq} {gi : HwseqGridInfo} {fi : HwseqFrameInfo}

/-! ## Small grids -/

/-- The fields of a grid are those of descriptors and headers. -/
structure SmallGrid (gi : HwseqGridInfo) : Prop where
  tileX : ∀ k, Denotes (gi.tileX k) (gi.tileX k).toInt (2 ^ 16)
  tileY : ∀ k, Denotes (gi.tileY k) (gi.tileY k).toInt (2 ^ 16)
  padX : ∀ k, Denotes (gi.padX k) (gi.padX k).toInt (2 ^ 8)
  padY : ∀ k, Denotes (gi.padY k) (gi.padY k).toInt (2 ^ 8)
  gridSizeX : Denotes gi.gridSizeX gi.gridSizeX.toInt (2 ^ 9)
  gridSizeY : Denotes gi.gridSizeY gi.gridSizeY.toInt (2 ^ 9)
  headTileCount : Denotes gi.headTileCount gi.headTileCount.toInt (2 ^ 9)
  gridStepX : Denotes gi.gridStepX gi.gridStepX.toInt (2 ^ 15)
  gridStepY : Denotes gi.gridStepY gi.gridStepY.toInt (2 ^ 15)

theorem Denotes.self {w : ℕ} {x : BitVec w} {v m : ℤ} (hx : Denotes x v m) : Denotes x x.toInt m :=
  hx.congr hx.value.symm

theorem denotes_size (x : U16) : Denotes (x.setWidth 32 : I32) x.toNat (2 ^ 16) :=
  (Denotes.ofUnsigned x (by decide)).weaken (by norm_num)

theorem denotes_byte (x : U8) : Denotes (byte x : I32) x.toNat (2 ^ 8 - 1) :=
  Denotes.ofUnsigned x (by decide)

theorem denotes_i32_one : Denotes (1 : I32) 1 1 := ⟨by decide, by decide⟩

theorem denotes_i32_zero : Denotes (0 : I32) 0 0 := ⟨by decide, by decide⟩

theorem denotes_count (x : U8) : Denotes (byte x + 1 : I32) (x.toNat + 1) (2 ^ 8) :=
  ((denotes_byte x).add denotes_i32_one (by norm_num)).weaken (by norm_num)

theorem denotes_tilesPerPacket (h : Hwseq) :
    Denotes (h.tilesPerPacket : I32) (BitVec.toInt h.tilesPerPacket) (2 ^ 9) := by
  unfold Hwseq.tilesPerPacket
  split
  · exact Denotes.self ((denotes_count _).weaken (by norm_num))
  · exact Denotes.self (((denotes_count _).add (denotes_count _) (by norm_num)).weaken (by norm_num))

theorem denotes_step (x : I16) : Denotes (x.signExtend 32 : I32) (x.signExtend 32 : I32).toInt (2 ^ 15) :=
  Denotes.self (Denotes.ofSigned (w := 32) x (by decide))

theorem smallGrid_gridInfo (h : Hwseq) : SmallGrid (gridInfo h) := by
  have hsize (a b : U16) (k : Fin 2) : Denotes ((![a.setWidth 32, b.setWidth 32] : Fin 2 → I32) k)
      ((![a.setWidth 32, b.setWidth 32] : Fin 2 → I32) k).toInt (2 ^ 16) := by
    match k with
    | 0 => exact Denotes.self (denotes_size a)
    | 1 => exact Denotes.self (denotes_size b)
  have hpad (a b : U8) (k : Fin 2) : Denotes ((![byte a, byte b] : Fin 2 → I32) k)
      ((![byte a, byte b] : Fin 2 → I32) k).toInt (2 ^ 8) := by
    match k with
    | 0 => exact Denotes.self ((denotes_byte a).weaken (by norm_num))
    | 1 => exact Denotes.self ((denotes_byte b).weaken (by norm_num))
  have hcount (x : U8) : Denotes (byte x + 1 : I32) (BitVec.toInt (byte x + 1)) (2 ^ 9) :=
    Denotes.self ((denotes_count x).weaken (by norm_num))
  unfold gridInfo
  by_cases hraster : h.isRasterScan = true
  · simp only [hraster, if_true]
    exact ⟨hsize _ _, hsize _ _, hpad _ _, hpad _ _, denotes_tilesPerPacket h, hcount _, hcount _,
      denotes_step _, denotes_step _⟩
  · simp only [hraster]
    exact ⟨hsize _ _, hsize _ _, hpad _ _, hpad _ _, denotes_tilesPerPacket h, hcount _, hcount _,
      denotes_step _, denotes_step _⟩

/-! ## The span of a small grid -/

variable (hsmall : SmallGrid gi)

include hsmall

theorem denotes_gridOffsetX : Denotes (gridOffsetX gi) (gi.gridStepX.toInt * (gi.gridSizeX.toInt - 1)) (2 ^ 25) :=
  (hsmall.gridStepX.mul (hsmall.gridSizeX.sub denotes_i32_one (by norm_num)) (by norm_num)).weaken
    (by norm_num)

theorem denotes_gridOffsetY : Denotes (gridOffsetY gi) (gi.gridStepY.toInt * (gi.gridSizeY.toInt - 1)) (2 ^ 25) :=
  (hsmall.gridStepY.mul (hsmall.gridSizeY.sub denotes_i32_one (by norm_num)) (by norm_num)).weaken
    (by norm_num)

theorem denotes_headOffsetX : Denotes (headOffsetX gi)
    (gi.gridStepX.toInt * (gi.headTileCount.toInt - 1)) (2 ^ 25) :=
  (hsmall.gridStepX.mul (hsmall.headTileCount.sub denotes_i32_one (by norm_num)) (by norm_num)).weaken
    (by norm_num)

theorem denotes_spanY_start : Denotes (spanY gi).1 (exactSpanY gi).1 (2 ^ 26) := by
  have hmin := (denotes_gridOffsetY hsmall).smin denotes_i32_zero
  simp only [spanY, exactSpanY, BitVec.slt_iff_toInt_lt, i32_zero]
  split
  · exact (hmin.add (hsmall.padY 0) (by norm_num)).weaken (by norm_num)
  · rw [add_zero]
    exact hmin.weaken (by norm_num)

theorem denotes_spanY_end : Denotes (spanY gi).2 (exactSpanY gi).2 (2 ^ 26) := by
  have hmax := (denotes_gridOffsetY hsmall).smax denotes_i32_zero
  have htile := ((hsmall.tileY 1).sub (hsmall.padY 0) (by norm_num)).sub (hsmall.padY 1) (by norm_num)
  exact (hmax.add htile (by norm_num)).weaken (by norm_num)

theorem denotes_splitSpanX {x : I32 × I32} (hx : splitSpanX gi = .ok x) :
    Denotes x.1 (exactSplitSpanX gi).1 (2 ^ 26) ∧ Denotes x.2 (exactSplitSpanX gi).2 (2 ^ 26) := by
  obtain ⟨-, hpure⟩ := reject_bind_eq_ok.mp hx
  have hoffset := denotes_gridOffsetX hsmall
  rw [← pure_eq_ok.mp hpure]
  refine ⟨(hoffset.smin denotes_i32_zero).weaken (by norm_num), ?_⟩
  exact ((hoffset.smax denotes_i32_zero).add (hsmall.tileX 1) (by norm_num)).weaken (by norm_num)

theorem denotes_adjust : Denotes (if gi.gridStepX.slt 0 then gi.padX 0 else 0)
    (if gi.gridStepX.toInt < 0 then (gi.padX 0).toInt else 0) (2 ^ 8) := by
  simp only [BitVec.slt_iff_toInt_lt, i32_zero]
  split
  · exact hsmall.padX 0
  · exact denotes_i32_zero.weaken (by norm_num)

theorem denotes_pad (j k : Fin 2) : Denotes (if (0 : I32).sle gi.gridStepX then gi.padX j else gi.padX k)
    (if 0 ≤ gi.gridStepX.toInt then (gi.padX j).toInt else (gi.padX k).toInt) (2 ^ 8) := by
  simp only [BitVec.sle_iff_toInt_le, i32_zero]
  split
  · exact hsmall.padX j
  · exact hsmall.padX k

theorem denotes_paddedSpanX {x : I32 × I32} (hx : paddedSpanX gi = .ok x) :
    Denotes x.1 (exactPaddedSpanX gi).1 (2 ^ 26) ∧ Denotes x.2 (exactPaddedSpanX gi).2 (2 ^ 26) := by
  obtain ⟨-, hpure⟩ := reject_bind_eq_ok.mp hx
  have hoffset := denotes_gridOffsetX hsmall
  have hhead := denotes_headOffsetX hsmall
  have hadjust := denotes_adjust hsmall
  have hstart {y : I32} {v : ℤ} (hy : Denotes y v (2 ^ 25)) :=
    ((hy.smin denotes_i32_zero).add hadjust (by norm_num)).weaken (n := 2 ^ 26) (by norm_num)
  have htile := ((hsmall.tileX 1).sub (hsmall.padX 0) (by norm_num)).sub (hsmall.padX 1) (by norm_num)
  have hend := (hoffset.smax denotes_i32_zero).add htile (by norm_num)
  have halt := (hhead.smax denotes_i32_zero).add
    ((hsmall.tileX 0).sub (denotes_pad hsmall 0 1) (by norm_num)) (by norm_num)
  rw [← pure_eq_ok.mp hpure]
  constructor
  · exact ((hstart hhead).smin (hstart hoffset)).weaken (by norm_num)
  · simp only [exactPaddedSpanX]
    split
    · exact ((halt.sub (denotes_pad hsmall 1 0) (by norm_num)).smax hend).weaken (by norm_num)
    · rw [sub_zero]
      exact (halt.smax hend).weaken (by norm_num)

theorem computeFrameInfo_exact (hfi : computeFrameInfo gi = .ok fi) :
    Denotes fi.startX (exactFrameInfo gi).startX (2 ^ 26) ∧ Denotes fi.startY (exactFrameInfo gi).startY (2 ^ 26) ∧
      Denotes fi.endX (exactFrameInfo gi).endX (2 ^ 26) ∧ Denotes fi.endY (exactFrameInfo gi).endY (2 ^ 26) := by
  obtain ⟨-, -, hfi⟩ := bind_eq_ok.mp hfi
  obtain ⟨x, hx, hfi⟩ := bind_eq_ok.mp hfi
  rw [← pure_eq_ok.mp hfi]
  have hspan : Denotes x.1 (exactFrameInfo gi).startX (2 ^ 26) ∧ Denotes x.2 (exactFrameInfo gi).endX (2 ^ 26) := by
    unfold spanX at hx
    unfold exactFrameInfo
    split at hx
    · rename_i hsplit
      simp only [hsplit, if_true]
      exact denotes_splitSpanX hsmall hx
    · rename_i hsplit
      simp only [hsplit]
      exact denotes_paddedSpanX hsmall hx
  exact ⟨hspan.1, denotes_spanY_start hsmall, hspan.2, denotes_spanY_end hsmall⟩

omit hsmall

/-! ## The frame of a program -/

section

variable (hfi : frameInfo h = .ok fi)

include hfi

theorem frameInfo_exact :
    Denotes fi.startX (exactFrame h).startX (2 ^ 26) ∧ Denotes fi.startY (exactFrame h).startY (2 ^ 26) ∧
      Denotes fi.endX (exactFrame h).endX (2 ^ 26) ∧ Denotes fi.endY (exactFrame h).endY (2 ^ 26) := by
  unfold frameInfo at hfi
  unfold exactFrame
  split at hfi
  · rename_i hraster
    simp only [hraster, if_true]
    exact computeFrameInfo_exact (smallGrid_gridInfo h) hfi
  rename_i hraster
  simp only [hraster]
  obtain ⟨-, hfi⟩ := reject_bind_eq_ok.mp hfi
  obtain ⟨fi', hgrid, hfi⟩ := bind_eq_ok.mp hfi
  obtain ⟨hsx, hsy, hex, hey⟩ := computeFrameInfo_exact (smallGrid_gridInfo h) hgrid
  rw [← pure_eq_ok.mp hfi]
  exact ⟨hsy, hsx, hey, hex⟩

theorem toInt_frameBufferStart :
    (frameBufferStart h fi).toInt = (exactStart h).bmod (2 ^ 32) := by
  obtain ⟨hsx, hsy, -, -⟩ := frameInfo_exact hfi
  rw [frameBufferStart, BitVec.toInt_signExtend_of_le (by decide), BitVec.toInt_add, BitVec.toInt_mul,
    hsx.value, hsy.value, (denotes_size _).value, Int.bmod_add_bmod]
  rfl

theorem toInt_frameBufferEnd :
    (frameBufferEnd h fi).toInt = (exactEnd h).bmod (2 ^ 32) := by
  obtain ⟨-, -, hex, hey⟩ := frameInfo_exact hfi
  have hlast := hey.sub denotes_i32_one (by norm_num)
  rw [frameBufferEnd, BitVec.toInt_signExtend_of_le (by decide), BitVec.toInt_add, BitVec.toInt_mul,
    hex.value, hlast.value, (denotes_size _).value, Int.bmod_add_bmod]
  rfl

end

theorem toInt_shiftLeft_add (x y : U64) (n : ℕ) :
    ((x <<< n) + y).toInt = (x.toInt * 2 ^ n + y.toInt).bmod (2 ^ 64) := by
  have hshift : (x <<< n).toInt = (x.toInt * 2 ^ n).bmod (2 ^ 64) := by
    rw [BitVec.toInt_shiftLeft, BitVec.toInt_eq_toNat_bmod, Int.bmod_mul_bmod, Nat.shiftLeft_eq]
    norm_cast
  rw [BitVec.toInt_add, hshift, Int.bmod_add_bmod]

theorem validateDmaBoundaries_facts (hok : validateDmaBoundaries h = .ok ()) :
    ∃ fi offset, frameInfo h = .ok fi ∧ frameBufferOffset h = .ok offset ∧
      0 ≤ ((exactStart h).bmod (2 ^ 32) * 2 ^ (h.headDesc.bytePerPixel.toNat % 64) + offset.toInt).bmod (2 ^ 64) ∧
      ((exactEnd h).bmod (2 ^ 32) * 2 ^ (h.headDesc.bytePerPixel.toNat % 64) + offset.toInt).bmod (2 ^ 64) ≤
        (frameBufferSize h).toInt := by
  obtain ⟨-, hok⟩ := reject_bind_eq_ok.mp hok
  obtain ⟨-, -, hok⟩ := bind_eq_ok.mp hok
  obtain ⟨count, -, hok⟩ := bind_eq_ok.mp hok
  obtain ⟨-, hok⟩ := reject_bind_eq_ok.mp hok
  obtain ⟨fi, hfi, hok⟩ := bind_eq_ok.mp hok
  obtain ⟨offset, hoffset, hok⟩ := bind_eq_ok.mp hok
  obtain ⟨-, -, hok⟩ := bind_eq_ok.mp hok
  have hinside := reject_eq_ok.mp hok
  have hzero : (0 : U64).toInt = 0 := by decide
  rw [not_or, BitVec.slt_iff_toInt_lt, BitVec.slt_iff_toInt_lt, not_lt, not_lt, toInt_shiftLeft_add,
    toInt_shiftLeft_add, toInt_frameBufferStart hfi, toInt_frameBufferEnd hfi, hzero] at hinside
  exact ⟨fi, offset, hfi, hoffset, hinside.1, hinside.2⟩

/-- The bounds of an accepted program are exact, and its frame is in the buffer, if and only if nothing
wraps. -/
theorem hwseq_bounds_exact_iff (hok : validateDmaBoundaries h = .ok ())
    (hbpp : h.headDesc.bytePerPixel.toNat ≤ 2) : BoundsExact h ↔ NothingWraps h := by
  obtain ⟨fi, offset, hfi, hoffset, hstart, hstop⟩ := validateDmaBoundaries_facts hok
  rw [Nat.mod_eq_of_lt (by omega)] at hstart hstop
  have hsmall := smallGrid_gridInfo h
  have hsize := BitVec.two_mul_toInt_lt (x := frameBufferSize h)
  have hsize' := BitVec.le_two_mul_toInt (x := frameBufferSize h)
  have hoff (offset' : U64) (hoffset' : frameBufferOffset h = .ok offset') : offset' = offset := by
    rw [hoffset] at hoffset'
    exact (Except.ok.inj hoffset').symm
  constructor
  · intro hexact
    have hs := hexact.start fi hfi
    have he := hexact.stop fi hfi
    rw [toInt_frameBufferStart hfi] at hs
    rw [toInt_frameBufferEnd hfi] at he
    have hbs := Int.le_bmod (x := exactStart h) (m := 2 ^ 32) (by norm_num)
    have hbs' := Int.bmod_lt (x := exactStart h) (m := 2 ^ 32) (by norm_num)
    have hbe := Int.le_bmod (x := exactEnd h) (m := 2 ^ 32) (by norm_num)
    have hbe' := Int.bmod_lt (x := exactEnd h) (m := 2 ^ 32) (by norm_num)
    refine ⟨by omega, by omega, fun offset' hoffset' => ?_, fun offset' hoffset' => ?_⟩
    · have hlow := hexact.low offset' hoffset'
      omega
    · have hhigh := hexact.high offset' hoffset'
      omega
  · intro hwraps
    have hs := bmod_of_fits hwraps.start.1 hwraps.start.2
    have he := bmod_of_fits hwraps.stop.1 hwraps.stop.2
    have hlow := hwraps.low offset hoffset
    have hhigh := hwraps.high offset hoffset
    rw [hs] at hstart
    rw [he] at hstop
    refine ⟨(denotes_gridOffsetX hsmall).value, (denotes_gridOffsetY hsmall).value,
      (denotes_headOffsetX hsmall).value, fun fi' hfi' => ?_, fun fi' hfi' => ?_, fun offset' hoffset' => ?_,
      fun offset' hoffset' => ?_⟩
    · rw [toInt_frameBufferStart hfi', hs]
    · rw [toInt_frameBufferEnd hfi', he]
    · rw [hoff offset' hoffset']
      by_contra hneg
      rw [Int.bmod_eq_of_le_mul_two (by omega) (by omega)] at hstart
      omega
    · rw [hoff offset' hoffset']
      by_contra hbig
      rw [Int.bmod_eq_of_le_mul_two (by omega) (by omega)] at hstop
      omega

/-- One column of `rows + 1` tiles of 16 by 16 bytes, read from a buffer of 64 KiB with lines of 1024 bytes. -/
def columnProgram (rows : U8) (cro : I16) (srcOffset : U64) : Hwseq where
  hdr := ⟨0, 0, 0, 0, 0⟩
  colrow := ⟨rows, cro⟩
  entry := ⟨0, 0⟩
  secondEntry := none
  dmaCh := default
  dmaDescriptors _ :=
    { (default : DmaDescriptor) with
      tx := 16, ty := 16, srcLinePitch := 1024, dstLinePitch := 16, srcOffset := srcOffset
      srcTransferMode := xferMc, dstTransferMode := xferVmem, dstRpt1 := rows }
  taskBuffInfo _ := ⟨0x10000, 256, 0⟩

theorem columnProgram_exact : BoundsExact (columnProgram 3 16 64) ↔ NothingWraps (columnProgram 3 16 64) :=
  hwseq_bounds_exact_iff (by decide) (by decide)

/-- 128 steps of -32768 lines start `2 ^ 32` bytes before the buffer, and an offset of `2 ^ 63 - 1` makes the
end of the frame negative.  Both programs are accepted. -/
theorem hwseq_bounds_wrap : (validateDmaBoundaries (columnProgram 128 (-32768) 0) = .ok () ∧
      ¬ BoundsExact (columnProgram 128 (-32768) 0)) ∧
    (validateDmaBoundaries (columnProgram 0 0 0x7fffffffffffffff) = .ok () ∧
      ¬ BoundsExact (columnProgram 0 0 0x7fffffffffffffff)) := by
  refine ⟨⟨by decide, fun hexact => ?_⟩, ⟨by decide, fun hexact => ?_⟩⟩
  · have hlow := hexact.low 0 (by decide)
    revert hlow
    decide
  · have hhigh := hexact.high 0x7fffffffffffffff (by decide)
    revert hhigh
    decide

end NvidiaOot.Analysis
