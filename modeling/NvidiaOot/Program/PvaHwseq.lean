import Mathlib.Data.Fin.VecNotation
import NvidiaOot.Program.PvaDmaDesc

/-!
# The frames of the hardware sequencer

In frame mode the sequencer walks a grid of tiles over a frame, and copies them between the frame and vector
memory.  The driver computes the span of the grid and checks it against the buffer of the frame, and the tiles
against the symbol in vector memory.  `int32_t` arithmetic wraps, as the kernel is compiled.

Sources are in `drivers/video/tegra/host/pva/`.
-/

namespace NvidiaOot.Program

open Library

/-- `int16_t` -/
abbrev I16 := BitVec 16
/-- `int32_t` -/
abbrev I32 := BitVec 32

/-! ## The program -/

/-- What the checks read of the frame header.
SOURCE: pva_hwseq.h:21-31 -/
structure HwseqFrameHeader where
  /-- `to` -/
  tileOffset : I16
  padR : U8
  padT : U8
  padL : U8
  padB : U8
deriving DecidableEq, Inhabited

/-- SOURCE: pva_hwseq.h:33-37 -/
structure HwseqCrHeader where
  crr : U8
  cro : I16
deriving DecidableEq, Inhabited

/-- A descriptor and its repetition.
SOURCE: pva_hwseq.h:46-49 -/
structure HwseqDescEntry where
  did : U8
  dr : U8
deriving DecidableEq, Inhabited

/-- A program in frame mode as `verify_hwseq_blob` leaves it: one column or row of one or two descriptors.
SOURCE: pva_hwseq.h:92-107, pva_dma.c:1861-1866,
2015-2020 -/
structure Hwseq where
  hdr : HwseqFrameHeader
  colrow : HwseqCrHeader
  entry : HwseqDescEntry
  secondEntry : Option HwseqDescEntry
  dmaCh : DmaChannel
  dmaDescriptors : ℕ → DmaDescriptor
  taskBuffInfo : ℕ → BufferInfo

namespace Hwseq

variable (h : Hwseq)

def headDesc : DmaDescriptor := h.dmaDescriptors h.entry.did.toNat

def tailDesc : DmaDescriptor := h.dmaDescriptors (h.secondEntry.getD h.entry).did.toNat

/-- The tiles of the first descriptor and of the second one.
SOURCE: pva_dma.c:1963, 1993 -/
def tilesPerPacket : U32 :=
  match h.secondEntry with
  | none => byte h.entry.dr + 1
  | some second => byte h.entry.dr + 1 + (byte second.dr + 1)

def isSplitPadding : Bool := h.dmaCh.hwseqTxSelect ≠ 0

def isRasterScan : Bool := h.dmaCh.hwseqTraversalOrder = 0

/-- SOURCE: pva_dma.c:1134-1156 -/
def getBufferSizeHwseq (isDst : Bool) : U64 :=
  let buffInfo := h.taskBuffInfo h.entry.did.toNat
  if isDst then buffInfo.dstBufferSize else buffInfo.srcBufferSize

end Hwseq

/-! ## Vector memory -/

/-- SOURCE: pva_bit_helpers.h:99-102 -/
def getMaxUint (a b : U32) : U32 := if a > b then a else b

/-- `(int64_t)pitch * (ty - 1) + tx` for 32-bit sizes. -/
def tileSize (pitch : U16) (tx ty : U32) : U64 :=
  pitch.setWidth 64 * (ty - 1).setWidth 64 + tx.setWidth 64

/-- The loops of the other side are not used.
SOURCE: pva_dma.c:1158-1182 -/
def validateAdvParams (headDesc : DmaDescriptor) (isDst : Bool) : Except ℤ Unit :=
  if isDst then
    reject (headDesc.srcAdv1 ≠ 0 ∨ headDesc.srcAdv2 ≠ 0 ∨ headDesc.srcAdv3 ≠ 0 ∨
      byte headDesc.srcRpt1 + byte headDesc.srcRpt2 + byte headDesc.srcRpt3 ≠ 0) (-eINVAL)
  else
    reject (headDesc.dstAdv1 ≠ 0 ∨ headDesc.dstAdv2 ≠ 0 ∨ headDesc.dstAdv3 ≠ 0 ∨
      byte headDesc.dstRpt1 + byte headDesc.dstRpt2 + byte headDesc.dstRpt3 ≠ 0) (-eINVAL)

/-- The larger of two sides that include their padding. -/
def splitSide (x y : U32) : Except ℤ U32 := do
  reject (x > 0xFFFF ∨ y > 0xFFFF) (-eINVAL)
  pure (getMaxUint x y)

/-- The largest tile of a program with its padding, where the two descriptors take the two sides.
SOURCE: pva_dma.c:1190-1227 -/
def splitTile (h : Hwseq) : Except ℤ (U32 × U32) :=
  let forward := (0 : I16).sle h.hdr.tileOffset
  let d0 := if forward then h.headDesc else h.tailDesc
  let d1 := if forward then h.tailDesc else h.headDesc
  if h.isRasterScan then do
    let tx ← splitSide (d0.tx.setWidth 32 + byte h.hdr.padL) (d1.tx.setWidth 32 + byte h.hdr.padR)
    pure (tx, h.headDesc.ty.setWidth 32)
  else do
    let ty ← splitSide (d0.ty.setWidth 32 + byte h.hdr.padT) (d1.ty.setWidth 32 + byte h.hdr.padB)
    pure (h.headDesc.tx.setWidth 32, ty)

/-- The larger of the two widths, and of the two heights. -/
def largestTile (h : Hwseq) : U32 × U32 :=
  (getMaxUint (h.headDesc.tx.setWidth 32) (h.tailDesc.tx.setWidth 32),
    getMaxUint (h.headDesc.ty.setWidth 32) (h.tailDesc.ty.setWidth 32))

/-- `tx` and `ty` of a circular buffer -/
def cbTile (h : Hwseq) : Except ℤ (U32 × U32) :=
  if h.isSplitPadding then splitTile h else .ok (largestTile h)

/-- A shift by the whole width or more is taken modulo the width.
SOURCE: pva_dma.c:1184-1238 -/
def validateCbTiles (h : Hwseq) (vmemSize : U64) : Except ℤ Unit := do
  reject (h.headDesc.dstCbSize.setWidth 64 > vmemSize) (-eINVAL)
  let tile ← cbTile h
  reject (tileSize h.headDesc.dstLinePitch tile.1 tile.2 <<< (h.headDesc.bytePerPixel.toNat % 64) >
    h.headDesc.dstCbSize.setWidth 64) (-eINVAL)

/-- Several tiles do not step through vector memory.
SOURCE: pva_dma.c:1240-1261 -/
def checkVmemSetup (headDesc : DmaDescriptor) (vmemTileCount : I32) (isDst : Bool) : Except ℤ Unit :=
  if isDst then
    reject ((1 : I32).slt vmemTileCount ∧
      (headDesc.dstAdv1 ≠ 0 ∨ headDesc.dstAdv2 ≠ 0 ∨ headDesc.dstAdv3 ≠ 0)) (-eINVAL)
  else
    reject ((1 : I32).slt vmemTileCount ∧
      (headDesc.srcAdv1 ≠ 0 ∨ headDesc.srcAdv2 ≠ 0 ∨ headDesc.srcAdv3 ≠ 0)) (-eINVAL)

/-- SOURCE: pva_dma.c:1263-1296 -/
def validateXferMode (dmaDesc : DmaDescriptor) : Except ℤ Unit :=
  if dmaDesc.srcTransferMode = xferVmem then
    reject (¬ (dmaDesc.dstTransferMode = xferMc ∨ dmaDesc.dstTransferMode = xferL2Ram) ∨
      dmaDesc.dstCbEnable = 1) (-eINVAL)
  else if dmaDesc.srcTransferMode = xferL2Ram ∨ dmaDesc.srcTransferMode = xferMc then
    reject (dmaDesc.dstTransferMode ≠ xferVmem ∨ dmaDesc.srcCbEnable = 1) (-eINVAL)
  else .error (-eINVAL)

/-- `(rpt1 + 1) * (rpt2 + 1) * (rpt3 + 1)` -/
def repetitions (rpt1 rpt2 rpt3 : U8) : I32 := (byte rpt1 + 1) * (byte rpt2 + 1) * (byte rpt3 + 1)

/-- Returns the number of tiles that the descriptor puts into vector memory.
SOURCE: pva_dma.c:1298-1362 -/
def validateDstVmem (h : Hwseq) : Except ℤ I32 := do
  let headDesc := h.headDesc
  let vmemTileCount := repetitions headDesc.dstRpt1 headDesc.dstRpt2 headDesc.dstRpt3
  validateXferMode headDesc
  validateAdvParams headDesc true
  let vmemSize := h.getBufferSizeHwseq true
  reject (vmemSize = 0) (-eINVAL)
  if headDesc.dstCbEnable ≠ 0 then do
    validateCbTiles h vmemSize
    pure vmemTileCount
  else do
    reject (h.isSplitPadding = true) (-eINVAL)
    checkVmemSetup headDesc vmemTileCount true
    let tile := largestTile h
    reject ((tileSize headDesc.dstLinePitch tile.1 tile.2 <<< (headDesc.bytePerPixel.toNat % 64)) +
      headDesc.dstOffset > vmemSize) (-eINVAL)
    pure vmemTileCount

/-- SOURCE: pva_dma.c:1364-1374 -/
def checkNoPadding (hdr : HwseqFrameHeader) : Except ℤ Unit :=
  reject (hdr.padL ≠ 0 ∨ hdr.padR ≠ 0 ∨ hdr.padT ≠ 0 ∨ hdr.padB ≠ 0) (-eINVAL)

/-- The sizes are `int32_t` here, so that the height of an empty tile is -1 in the product.
SOURCE: pva_dma.c:1376-1446 -/
def validateSrcVmem (h : Hwseq) : Except ℤ I32 := do
  let headDesc := h.headDesc
  let vmemTileCount := repetitions headDesc.srcRpt1 headDesc.srcRpt2 headDesc.srcRpt3
  validateXferMode headDesc
  validateAdvParams headDesc false
  checkNoPadding h.hdr
  let vmemSize := h.getBufferSizeHwseq false
  let tile := largestTile h
  let tileSize : U64 := headDesc.srcLinePitch.setWidth 64 * (tile.2 - 1).signExtend 64 + tile.1.signExtend 64
  if headDesc.srcCbEnable ≠ 0 then do
    reject (headDesc.srcCbSize.setWidth 64 > vmemSize) (-eINVAL)
    reject ((headDesc.srcCbSize.setWidth 64).slt tileSize) (-eINVAL)
    pure vmemTileCount
  else do
    checkVmemSetup headDesc vmemTileCount false
    reject (tileSize + headDesc.srcOffset > vmemSize) (-eINVAL)
    pure vmemTileCount

/-! ## The span of a grid -/

/-- SOURCE: pva_hwseq.h:67-78 -/
structure HwseqGridInfo where
  tileX : Fin 2 → I32
  tileY : Fin 2 → I32
  padX : Fin 2 → I32
  padY : Fin 2 → I32
  gridSizeX : I32
  gridSizeY : I32
  gridStepX : I32
  gridStepY : I32
  headTileCount : I32
  isSplitPadding : Bool

/-- SOURCE: pva_hwseq.h:80-85 -/
structure HwseqFrameInfo where
  startX : I32
  startY : I32
  endX : I32
  endY : I32
deriving DecidableEq

/-- SOURCE: pva_dma.c:1448-1472 -/
def validateGridPadding (gi : HwseqGridInfo) : Except ℤ Unit := do
  reject ((0 : I32).slt (gi.padX 0) ∧ (0 : I32).slt (gi.padX 1) ∧ gi.gridSizeX.slt 2) (-eINVAL)
  reject ((0 : I32).slt (gi.padY 0) ∧ (0 : I32).slt (gi.padY 1) ∧ gi.gridSizeY.slt 1) (-eINVAL)
  reject ((gi.tileY 0).sle (smax (gi.padY 0) (gi.padY 1))) (-eINVAL)
  reject (gi.tileY 0 ≠ gi.tileY 1) (-eINVAL)

/-- `grid_step_x * (grid_size_x - 1)` -/
def gridOffsetX (gi : HwseqGridInfo) : I32 := gi.gridStepX * (gi.gridSizeX - 1)

/-- `grid_step_y * (grid_size_y - 1)` -/
def gridOffsetY (gi : HwseqGridInfo) : I32 := gi.gridStepY * (gi.gridSizeY - 1)

/-- `grid_step_x * (head_tile_count - 1)` -/
def headOffsetX (gi : HwseqGridInfo) : I32 := gi.gridStepX * (gi.headTileCount - 1)

/-- The Y span.  For a reversed scan the padding adjusts the read offset.
SOURCE: pva_dma.c:1486-1498 -/
def spanY (gi : HwseqGridInfo) : I32 × I32 :=
  let dimOffset := gridOffsetY gi
  let startY := smin dimOffset 0
  (if gi.gridStepY.slt 0 then startY + gi.padY 0 else startY,
    smax dimOffset 0 + (gi.tileY 1 - gi.padY 0 - gi.padY 1))

/-- The X span of tiles that do not overlap.
SOURCE: pva_dma.c:1482-1485, 1500-1509 -/
def splitSpanX (gi : HwseqGridInfo) : Except ℤ (I32 × I32) := do
  let dimOffset := gridOffsetX gi
  let leftTileX := if (0 : I32).sle gi.gridStepX then gi.tileX 0 else gi.tileX 1
  reject (gi.gridStepX.abs.slt leftTileX) (-eINVAL)
  pure (smin dimOffset 0, smax dimOffset 0 + gi.tileX 1)

/-- The X span of tiles that include their padding: the larger one of the whole row and of the tiles of the
first descriptor.
SOURCE: pva_dma.c:1482-1485, 1510-1553 -/
def paddedSpanX (gi : HwseqGridInfo) : Except ℤ (I32 × I32) := do
  let forward := (0 : I32).sle gi.gridStepX
  let padStart := if forward then gi.padX 0 else gi.padX 1
  let padEnd := if forward then gi.padX 1 else gi.padX 0
  let endX := smax (gridOffsetX gi) 0 + (gi.tileX 1 - gi.padX 0 - gi.padX 1)
  reject ((gi.tileX 0).sle padStart ∨ (gi.tileX 1).sle padEnd) (-eINVAL)
  let adjust := if gi.gridStepX.slt 0 then gi.padX 0 else 0
  let startX := smin (gridOffsetX gi) 0 + adjust
  let altStartX := smin (headOffsetX gi) 0 + adjust
  let altEndX := smax (headOffsetX gi) 0 + (gi.tileX 0 - padStart)
  let altEndX := if gi.headTileCount = gi.gridSizeX then altEndX - padEnd else altEndX
  pure (smin altStartX startX, smax altEndX endX)

/-- `start_x` and `end_x` -/
def spanX (gi : HwseqGridInfo) : Except ℤ (I32 × I32) :=
  if gi.isSplitPadding then splitSpanX gi else paddedSpanX gi

/-- SOURCE: pva_dma.c:1474-1556 -/
def computeFrameInfo (gi : HwseqGridInfo) : Except ℤ HwseqFrameInfo := do
  validateGridPadding gi
  let x ← spanX gi
  let y := spanY gi
  pure { startX := x.1, startY := y.1, endX := x.2, endY := y.2 }

/-- SOURCE: pva_dma.c:1558-1569 -/
def swapFrameBoundaries (frameInfo : HwseqFrameInfo) : HwseqFrameInfo :=
  { startX := frameInfo.startY, startY := frameInfo.startX, endX := frameInfo.endY, endY := frameInfo.endX }

/-! ## The frame and its buffer -/

/-- SOURCE: pva_dma.c:1571-1583 -/
def checkCbForBlInputs (desc : DmaDescriptor) : Except ℤ Unit :=
  reject ((desc.srcCbEnable ≠ 0 ∧ desc.srcFormat ≠ 0) ∨ (desc.dstCbEnable ≠ 0 ∧ desc.dstFormat ≠ 0)) (-eINVAL)

/-- SOURCE: pva_dma.c:1584-1623 -/
def validateHeadDescTransferFmt (h : Hwseq) (frameLinePitch : U16) (frameBufferOffset : U64) : Except ℤ Unit :=
  let headDesc := h.headDesc
  if headDesc.srcFormat ≠ 0 ∨ headDesc.dstFormat ≠ 0 then do
    reject (h.isSplitPadding = true ∧ h.hdr.tileOffset = 0) (-eINVAL)
    reject (headDesc.srcFormat ≠ 0 ∧ headDesc.dstFormat ≠ 0) (-eINVAL)
    checkCbForBlInputs headDesc
    let gridStepX : I32 := (if h.isRasterScan then h.hdr.tileOffset else h.colrow.cro).signExtend 32
    reject (frameBufferOffset % 64 ≠ 0 ∨ (gridStepX ||| frameLinePitch.setWidth 32) &&&
      ((31 : I32) >>> (headDesc.bytePerPixel.toNat % 32)) ≠ 0) (-eINVAL)
  else .ok ()

/-- SOURCE: pva_dma.c:1625-1646 -/
def checkPaddingTiles (headDesc tailDesc : DmaDescriptor) : Except ℤ Unit := do
  reject (headDesc.px ≠ 0 ∨ headDesc.py ≠ 0 ∨ headDesc.descReloadEnable ≠ 0) (-eINVAL)
  reject (headDesc.tx = 0 ∨ headDesc.ty = 0 ∨ tailDesc.tx = 0 ∨ tailDesc.ty = 0) (-eINVAL)

/-- The program moves tiles from the frame to vector memory. -/
def sequencingToVmem (h : Hwseq) : Bool := h.headDesc.dstTransferMode = xferVmem

/-- The grid of a program.  Vertical mining is a raster scan with the two directions exchanged.
SOURCE: pva_dma.c:1726-1776 -/
def gridInfo (h : Hwseq) : HwseqGridInfo :=
  let head := h.headDesc
  let tail := h.tailDesc
  let wide (x : U16) : I32 := x.setWidth 32
  let grid : HwseqGridInfo :=
    { tileX := ![wide head.tx, wide tail.tx], tileY := ![wide head.ty, wide tail.ty]
      padX := ![byte h.hdr.padL, byte h.hdr.padR], padY := ![byte h.hdr.padT, byte h.hdr.padB]
      gridSizeX := h.tilesPerPacket
      gridSizeY := byte h.colrow.crr + 1
      gridStepX := h.hdr.tileOffset.signExtend 32
      gridStepY := h.colrow.cro.signExtend 32
      headTileCount := byte h.entry.dr + 1
      isSplitPadding := h.isSplitPadding }
  if h.isRasterScan then grid
  else
    { grid with
      tileX := grid.tileY, tileY := grid.tileX, padX := grid.padY, padY := grid.padX
      isSplitPadding := false }

/-- The frame that a program covers.
SOURCE: pva_dma.c:1726-1779 -/
def frameInfo (h : Hwseq) : Except ℤ HwseqFrameInfo :=
  if h.isRasterScan then computeFrameInfo (gridInfo h)
  else do
    reject (h.isSplitPadding = true) (-eINVAL)
    let fi ← computeFrameInfo (gridInfo h)
    pure (swapFrameBoundaries fi)

/-- `frame_line_pitch` -/
def frameLinePitch (h : Hwseq) : U16 :=
  if sequencingToVmem h then h.headDesc.srcLinePitch else h.headDesc.dstLinePitch

/-- `frame_buffer_start` in pixels: the product and the sum are those of `int32_t`. -/
def frameBufferStart (h : Hwseq) (fi : HwseqFrameInfo) : U64 :=
  (fi.startY * (frameLinePitch h).setWidth 32 + fi.startX).signExtend 64

/-- `frame_buffer_end` in pixels -/
def frameBufferEnd (h : Hwseq) (fi : HwseqFrameInfo) : U64 :=
  ((fi.endY - 1) * (frameLinePitch h).setWidth 32 + fi.endX).signExtend 64

/-- `frame_buffer_offset` -/
def frameBufferOffset (h : Hwseq) : Except ℤ U64 :=
  pitchLinearEqOffset h.headDesc h.headDesc.surfBLOffset h.dmaCh.blockHeight h.headDesc.bytePerPixel
    (!sequencingToVmem h) false

/-- `frame_buffer_size` -/
def frameBufferSize (h : Hwseq) : U64 := h.getBufferSizeHwseq (!sequencingToVmem h)

/-- The span of the frame in bytes lies in the buffer: signed 64-bit arithmetic. -/
def frameInBuffer (h : Hwseq) (fi : HwseqFrameInfo) (offset : U64) : Except ℤ Unit :=
  let shift := h.headDesc.bytePerPixel.toNat % 64
  reject (((frameBufferStart h fi <<< shift) + offset).slt 0 ∨
    (frameBufferSize h).slt ((frameBufferEnd h fi <<< shift) + offset)) (-eINVAL)

/-- The side of vector memory. -/
def validateVmem (h : Hwseq) : Except ℤ I32 :=
  if sequencingToVmem h then validateDstVmem h else validateSrcVmem h

/-- SOURCE: pva_dma.c:1679-1815 -/
def validateDmaBoundaries (h : Hwseq) : Except ℤ Unit := do
  reject (h.tilesPerPacket > 1 ∧ h.hdr.tileOffset = 0) (-eINVAL)
  checkPaddingTiles h.headDesc h.tailDesc
  let vmemTileCount ← validateVmem h
  reject (vmemTileCount ≠ h.tilesPerPacket * (byte h.colrow.crr + 1)) (-eINVAL)
  let fi ← frameInfo h
  let offset ← frameBufferOffset h
  validateHeadDescTransferFmt h (frameLinePitch h) offset
  frameInBuffer h fi offset

end NvidiaOot.Program
