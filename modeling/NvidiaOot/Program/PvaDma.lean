import NvidiaOot.Program.Types
import NvidiaOot.Library.SignedArith

/-!
# The user's DMA descriptor and its address check

A user submits DMA descriptors.  Before the driver adds a descriptor's offset to the
address of a buffer it checks, from the buffer's size alone, that the five nested loops of
the transfer stay inside.  64-bit sums and products are those of the machine: they wrap,
and `int64_t` comparisons are the signed ones.
-/

namespace NvidiaOot.Program

open Library

/--
A user DMA descriptor.

SOURCE: include/uapi/linux/nvpva_ioctl.h:343-389
-/
structure DmaDescriptor where
  srcPtr : U32
  dstPtr : U32
  dst2Ptr : U32
  srcOffset : U64
  dstOffset : U64
  dst2Offset : U64
  surfBLOffset : U64
  tx : U16
  ty : U16
  srcLinePitch : U16
  dstLinePitch : U16
  srcAdv1 : U32
  dstAdv1 : U32
  srcAdv2 : U32
  dstAdv2 : U32
  srcAdv3 : U32
  dstAdv3 : U32
  srcRpt1 : U8
  dstRpt1 : U8
  srcRpt2 : U8
  dstRpt2 : U8
  srcRpt3 : U8
  dstRpt3 : U8
  linkDescId : U8
  px : U8
  py : U32
  srcCbEnable : U8
  dstCbEnable : U8
  srcCbStart : U32
  dstCbStart : U32
  srcCbSize : U32
  dstCbSize : U32
  trigEventMode : U8
  trigVpuEvents : U8
  descReloadEnable : U8
  srcTransferMode : U8
  dstTransferMode : U8
  srcFormat : U8
  dstFormat : U8
  bytePerPixel : U8
  pxDirection : U8
  pyDirection : U8
  boundaryPixelExtension : U8
  transTrueCompletion : U8
  prefetchEnable : U8
deriving DecidableEq, Inhabited, Repr

def blGobWidthLog2 : U32 := 6
def blGobHeightLog2 : U32 := 3
def blGobSizeLog2 : U32 := blGobWidthLog2 + blGobHeightLog2
def blGobWidthLog2AlignMask : U32 := (0xFFFFFFFF : U32) >>> (32 - blGobWidthLog2)
def lowBits : U32 := (0xFFFFFFFF : U32) >>> (32 - 4 : U32)
def nvpvaMaxValidBlkHgtLg2 : U8 := 5

/-- `((offset & (1U << n)) != 0) * scale` -/
def bitTimes (offset : U32) (n : ℕ) (scale : U32) : U32 :=
  if offset &&& (1 <<< n) ≠ 0 then scale else 0

/--
The offset in the frame of a block-linear access: the coordinates inside the GOB, then
the GOB in its block and the block in its row of blocks.  `u32` arithmetic throughout; a
shift by 32 or more and a division by zero are what the machine makes of them.

SOURCE: drivers/video/tegra/host/pva/pva_dma.c:110-147
-/
def blockLinearOffset (offset surfBlOffset : U64) (linePitchBytes : U32) (blockHtLog2 : U8) :
    U64 :=
  let offsetWithinSurface : U32 := (offset - surfBlOffset).setWidth 32
  let x := (offsetWithinSurface &&& lowBits) + bitTimes offsetWithinSurface 5 16
    + bitTimes offsetWithinSurface 8 32
  let y := bitTimes offsetWithinSurface 4 1 + bitTimes offsetWithinSurface 6 2
    + bitTimes offsetWithinSurface 7 4
  let blockSizeLog2 := blGobSizeLog2 + blockHtLog2.setWidth 32
  let blockMask := (0xFFFFFFFF : U32) >>> (32 - blockSizeLog2)
  let blocksPerRop := linePitchBytes >>> blGobWidthLog2
  let ropSize := blocksPerRop <<< blockSizeLog2
  let ropIdx := offsetWithinSurface / ropSize
  let offsetToRop := ropIdx * ropSize
  let offsetWithinRop := offsetWithinSurface - offsetToRop
  let blockIdx := offsetWithinRop >>> blockSizeLog2
  let offsetWithinBlock := offsetWithinSurface &&& blockMask
  let gobIdx := offsetWithinBlock >>> blGobSizeLog2
  let x := x + (blockIdx <<< blGobWidthLog2)
  let y := y + (gobIdx <<< blGobHeightLog2)
  surfBlOffset + offsetToRop.setWidth 64 + (y * linePitchBytes).setWidth 64 + x.setWidth 64

/--
The offset that the address check uses.  It is the descriptor's own offset for a pitch
linear surface; for a block-linear one the access must not be a circular buffer and must
be aligned.

SOURCE: drivers/video/tegra/host/pva/pva_dma.c:38-150
-/
def pitchLinearEqOffset (desc : DmaDescriptor) (surfBlOffset : U64) (blockHtLog2 bppLog2 : U8)
    (isDst isDst2 : Bool) : Except ℤ U64 :=
  let format := if isDst || isDst2 then desc.dstFormat else desc.srcFormat
  let offset := if isDst then desc.dstOffset else
    if isDst2 then desc.dst2Offset else desc.srcOffset
  let linePitch := if isDst || isDst2 then desc.dstLinePitch else desc.srcLinePitch
  let cbEnable := if isDst || isDst2 then desc.dstCbEnable else desc.srcCbEnable
  if format = 0 then .ok offset
  else if nvpvaMaxValidBlkHgtLg2 < blockHtLog2 then .error (-eINVAL)
  else
    let linePitchBytes : U32 := linePitch.setWidth 32 <<< (bppLog2.setWidth 32 &&& 31#32)
    if cbEnable ≠ 0 then .error (-eINVAL)
    else if linePitchBytes &&& blGobWidthLog2AlignMask ≠ 0 then .error (-eINVAL)
    else if offset % 64 ≠ 0 then .error (-eINVAL)
    else .ok (blockLinearOffset offset surfBlOffset linePitchBytes blockHtLog2)

section

variable (desc : DmaDescriptor)

/-- `bppSize`: bytes of a pixel. -/
def bppSize : U64 :=
  if desc.bytePerPixel = 0 then 1 else if desc.bytePerPixel = 1 then 2 else 4

/-- `last_tx`: the source leaves out the padding. -/
def lastTx (srcDst : Bool) : U64 :=
  if srcDst then desc.tx.setWidth 64 - 1 else desc.tx.setWidth 64 - 1 - desc.px.setWidth 64

/-- `last_ty` -/
def lastTy (srcDst : Bool) : U64 :=
  if srcDst then desc.ty.setWidth 64 - 1 else desc.ty.setWidth 64 - 1 - desc.py.setWidth 64

/-- `s[1]`: the extent of the second dimension, from line to line. -/
def lineExtent (srcDst : Bool) : U64 :=
  (if srcDst then desc.dstLinePitch else desc.srcLinePitch).setWidth 64 * lastTy desc srcDst

/-- `s[2]`, `s[3]`, `s[4]`: the extents of the three repetitions. -/
def repeatExtents (srcDst : Bool) : List U64 :=
  if srcDst then
    [desc.dstAdv1.signExtend 64 * desc.dstRpt1.setWidth 64, desc.dstAdv2.signExtend 64 * desc.dstRpt2.setWidth 64,
     desc.dstAdv3.signExtend 64 * desc.dstRpt3.setWidth 64]
  else
    [desc.srcAdv1.signExtend 64 * desc.srcRpt1.setWidth 64, desc.srcAdv2.signExtend 64 * desc.srcRpt2.setWidth 64,
     desc.srcAdv3.signExtend 64 * desc.srcRpt3.setWidth 64]

/-- `start`: the sum of the negative extents. -/
def extentStart (srcDst : Bool) : U64 :=
  (lineExtent desc srcDst :: repeatExtents desc srcDst).foldl
    (fun start s => start + smin (s * bppSize desc) 0)
    (smin (lastTx desc srcDst * bppSize desc) 0)

/-- `end`: the sum of the positive extents. -/
def extentEnd (srcDst : Bool) : U64 :=
  (lineExtent desc srcDst :: repeatExtents desc srcDst).foldl
    (fun stop s => stop + smax (s * bppSize desc) 0)
    (smax (lastTx desc srcDst * bppSize desc + (bppSize desc - 1)) 0)

/-- `((offset + start) >= 0) && ((offset + end) < (int64_t)max_size)` -/
def inRange (offset start stop maxSize : U64) : Bool :=
  (0 : U64).sle (offset + start) && (offset + stop).slt maxSize

/-- `offset2`: computed on the destination side only. -/
def offset2OfCheck (srcDst : Bool) (blockHeightLog2 : U8) : Except ℤ U64 :=
  if srcDst then
    pitchLinearEqOffset desc desc.surfBLOffset blockHeightLog2 desc.bytePerPixel false true
  else .ok 0

/--
Does the transfer stay inside a buffer of `maxSize` bytes?  `srcDst` is true for the
destination; `dst2` asks for the second destination as well, in `maxSize2` bytes.

SOURCE: drivers/video/tegra/host/pva/pva_dma.c:155-276
-/
def checkAddressRange (maxSize maxSize2 : U64) (srcDst dst2 : Bool) (blockHeightLog2 : U8) :
    Except ℤ Unit :=
  -- dummy transfer mode with no data transfer
  if desc.tx = 0 then .ok ()
  else if desc.ty = 0 then .error (-eINVAL)
  else if (if srcDst then desc.dstCbEnable else desc.srcCbEnable) = 1 then
    let cbSize := if srcDst then desc.dstCbSize else desc.srcCbSize
    if ((lineExtent desc srcDst + lastTx desc srcDst + 1) * bppSize desc).sle
        (cbSize.setWidth 64) then .ok ()
    else .error (-eINVAL)
  else do
    let offset ← pitchLinearEqOffset desc desc.surfBLOffset blockHeightLog2 desc.bytePerPixel
      srcDst false
    let offset2 ← offset2OfCheck desc srcDst blockHeightLog2
    let start := extentStart desc srcDst
    let stop := extentEnd desc srcDst
    if maxSize.slt 0 then .error (-eINVAL)
    else if !inRange offset start stop maxSize then .error (-eINVAL)
    -- `max_size2 > UINT_MAX`
    else if dst2 && (decide (0xFFFFFFFF < maxSize2) || !inRange offset2 start stop maxSize2) then
      .error (-eINVAL)
    else .ok ()

end

end NvidiaOot.Program
