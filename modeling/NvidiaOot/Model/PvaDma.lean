import NvidiaOot.Library.BitFields
import NvidiaOot.Library.Strides
import NvidiaOot.Program.PvaDmaWalk
import NvidiaOot.Program.PvaHwseq

/-!
# What PVA descriptors say

The bytes of a transfer, the words of a descriptor, chains of them and the hardware sequencer.
-/

namespace NvidiaOot.Model

/-!
## What a DMA transfer touches

The hardware walks five nested loops: along a line, from line to line, and three
repetitions with signed advances.  `Transfer` holds the extents as integers; `Inside`
says that every byte of every pixel lies in the buffer.  The loops are the strided
access `dims` of the library.
-/

section

open Library Program

/-- The loops of a transfer, in pixels. -/
structure Transfer where
  /-- bytes of a pixel -/
  bpp : ℕ
  /-- the last pixel of a line and the last line; negative when there is none -/
  lastTx : ℤ
  lastTy : ℤ
  linePitch : ℕ
  adv1 : ℤ
  adv2 : ℤ
  adv3 : ℤ
  rpt1 : ℕ
  rpt2 : ℕ
  rpt3 : ℕ

namespace Transfer

variable (t : Transfer)

/-- The byte distance of a pixel from the start of the transfer. -/
def pixel (x y i1 i2 i3 : ℕ) : ℤ :=
  t.bpp * (x + t.linePitch * y + t.adv1 * i1 + t.adv2 * i2 + t.adv3 * i3)

/-- Every byte of every pixel lies in the buffer of `maxSize` bytes. -/
def Inside (offset maxSize : ℕ) : Prop :=
  ∀ x y i1 i2 i3 : ℕ, (x : ℤ) ≤ t.lastTx → (y : ℤ) ≤ t.lastTy →
    i1 ≤ t.rpt1 → i2 ≤ t.rpt2 → i3 ≤ t.rpt3 → ∀ b < t.bpp,
      0 ≤ offset + t.pixel x y i1 i2 i3 + b ∧ offset + t.pixel x y i1 i2 i3 + b < maxSize

/-- Strides in bytes and last indices of the five loops. -/
def dims : List (ℤ × ℕ) :=
  [(t.bpp, t.lastTx.toNat), (t.bpp * t.linePitch, t.lastTy.toNat),
   (t.bpp * t.adv1, t.rpt1), (t.bpp * t.adv2, t.rpt2), (t.bpp * t.adv3, t.rpt3)]

/-- A transfer with at least one pixel. -/
def Moves : Prop := 0 ≤ t.lastTx ∧ 0 ≤ t.lastTy

/-- The first byte that the loops reach, from the start of the transfer. -/
def low : ℤ := lowest t.dims

def high : ℤ := highest t.dims + t.bpp - 1

/-- Neither of the two 64-bit sums of the offset and an extreme wraps. -/
def Unwrapped (offset : U64) : Prop :=
  -2 ^ 63 ≤ offset.toInt + t.low ∧ offset.toInt + t.high < 2 ^ 63

/-- The two 64-bit sums, wrapped as the machine does, are in `[0, maxSize)`. -/
def SumsInRange (offset maxSize : U64) : Prop :=
  0 ≤ (offset.toInt + t.low).bmod (2 ^ 64) ∧
    (offset.toInt + t.high).bmod (2 ^ 64) < maxSize.toInt

end Transfer

section

variable (desc : DmaDescriptor)

/-- The loops on the destination (`srcDst`) or the source side of a descriptor. -/
def transfer (srcDst : Bool) : Transfer :=
  if srcDst then
    { bpp := (bppSize desc).toNat
      lastTx := desc.tx.toNat - 1
      lastTy := desc.ty.toNat - 1
      linePitch := desc.dstLinePitch.toNat
      adv1 := desc.dstAdv1.toInt
      adv2 := desc.dstAdv2.toInt
      adv3 := desc.dstAdv3.toInt
      rpt1 := desc.dstRpt1.toNat
      rpt2 := desc.dstRpt2.toNat
      rpt3 := desc.dstRpt3.toNat }
  else
    { bpp := (bppSize desc).toNat
      lastTx := desc.tx.toNat - 1 - desc.px.toNat
      lastTy := desc.ty.toNat - 1 - desc.py.toNat
      linePitch := desc.srcLinePitch.toNat
      adv1 := desc.srcAdv1.toInt
      adv2 := desc.srcAdv2.toInt
      adv3 := desc.srcAdv3.toInt
      rpt1 := desc.srcRpt1.toNat
      rpt2 := desc.srcRpt2.toNat
      rpt3 := desc.srcRpt3.toNat }

def sideOffset (srcDst : Bool) : U64 := if srcDst then desc.dstOffset else desc.srcOffset

/-- The surface format of that side; 0 is pitch linear. -/
def sideFormat (srcDst : Bool) : U8 := if srcDst then desc.dstFormat else desc.srcFormat

def sideCbEnable (srcDst : Bool) : U8 := if srcDst then desc.dstCbEnable else desc.srcCbEnable

/-- The offset that the check of a second destination uses. -/
def secondOffset (srcDst : Bool) : U64 := if srcDst then desc.dst2Offset else 0

/-- The second destination, where it is asked for, passes its own range check. -/
def SecondFits (maxSize2 : U64) (srcDst dst2 : Bool) : Prop :=
  dst2 = true → maxSize2.toNat ≤ 0xFFFFFFFF ∧
    (transfer desc srcDst).SumsInRange (secondOffset desc srcDst) maxSize2

end

end

/-!
## The hardware descriptor as the DMA engine reads it

`readFields` decodes the words of a hardware descriptor.  A field of a packed word
reaches up to the next one, a repeat count and an advance share a word of 8 and 24 bits,
circular buffer positions have a 17th bit in `cb_ext`, and addresses have 40 bits.
`userFields` are the values of the user's descriptor that the checks worked on, and
`Fits` says which of them the words can hold.
-/

section

open Library Program

/-- The fields of a descriptor as numbers. -/
structure Fields where
  /-- source mode, source format, destination mode, destination format -/
  control0 : List ℕ
  /-- bytes per pixel, x direction, y direction, boundary extension, true completion -/
  control1 : List ℕ
  /-- prefetch, destination circular buffer, source circular buffer, surface bits -/
  control2 : List ℕ
  /-- event mode, events, reload -/
  trigger : List ℕ
  tx : ℕ
  ty : ℕ
  px : ℕ
  py : ℕ
  srcLinePitch : ℕ
  dstLinePitch : ℕ
  linkDescId : ℕ
  /-- repeat count and advance -/
  src1 : ℕ × ℤ
  src2 : ℕ × ℤ
  src3 : ℕ × ℤ
  dst1 : ℕ × ℤ
  dst2 : ℕ × ℤ
  dst3 : ℕ × ℤ
  srcCbStart : ℕ
  srcCbSize : ℕ
  dstCbStart : ℕ
  dstCbSize : ℕ
  srcAddr : ℕ
  /-- none for a transfer without a destination -/
  dstAddr : Option ℕ
deriving DecidableEq

/-- A repeat count and a two's complement advance of 24 bits. -/
def readRepeat (cntl : U32) : ℕ × ℤ := ((cntl >>> 24).toNat, (cntl.setWidth 24).toInt)

/-- The 16 low bits and the bit at position `n` of `cb_ext`. -/
def readCircular (low : U16) (cbExt : U8) (n : ℕ) : ℕ :=
  low.toNat + 2 ^ 16 * (cbExt.toNat >>> n % 2)

def readAddr (low : U32) (high : U8) : ℕ := low.toNat + 2 ^ 32 * high.toNat

/-- The fields that the engine reads; `hasDst` is false for a program configuration. -/
def readFields (d : PvaDtd) (hasDst : Bool) : Fields where
  control0 := unpack [3, 1, 3, 1] d.transferControl0.toNat
  control1 := unpack [2, 1, 1, 3, 1] d.transferControl1.toNat
  control2 := unpack [1, 1, 1, 5] d.transferControl2.toNat
  trigger := unpack [2, 10, 4] d.hwSwTrigEvents.toNat
  tx := d.tx.toNat
  ty := d.ty.toNat
  px := d.px.toNat
  py := d.py.toNat
  srcLinePitch := d.slpAdv.toNat
  dstLinePitch := d.dlpAdv.toNat
  linkDescId := d.linkDid.toNat
  src1 := readRepeat d.srcpt1Cntl
  src2 := readRepeat d.srcpt2Cntl
  src3 := readRepeat d.srcpt3Cntl
  dst1 := readRepeat d.dstpt1Cntl
  dst2 := readRepeat d.dstpt2Cntl
  dst3 := readRepeat d.dstpt3Cntl
  srcCbStart := readCircular d.sbStart d.cbExt 0
  srcCbSize := readCircular d.sbSize d.cbExt 4
  dstCbStart := readCircular d.dbStart d.cbExt 2
  dstCbSize := readCircular d.dbSize d.cbExt 6
  srcAddr := readAddr d.srcAdr0 d.srcAdr1
  dstAddr := if hasDst then some (readAddr d.dstAdr0 d.dstAdr1) else none

section

variable (hwgen : ℕ) (desc : DmaDescriptor)

/-- The block-linear mark of an address as a number: the format, at bit 39. -/
def markValue (mode format : U8) : ℕ :=
  if mode = xferMc ∧ hwgen ≤ pvaHwGen2 then format.toNat * 2 ^ 39 else 0

/-- The exact address of the source: the named buffer, the offset, the mark. -/
def srcValue (buffer : U64) : ℕ :=
  buffer.toNat + desc.srcOffset.toNat + markValue hwgen desc.srcTransferMode desc.srcFormat

/-- The exact address of the destination; a MISR descriptor has no mark. -/
def dstValue (misr : Bool) (buffer : U64) : ℕ :=
  buffer.toNat + desc.dstOffset.toNat +
    if misr then 0 else markValue hwgen desc.dstTransferMode desc.dstFormat

/-- Bits 13 to 9 of the surface that the descriptor accesses block-linearly, after the
surface's offset was added to its base address. -/
def surfaceValue (task : DmaTask) (desc : DmaDescriptor) : ℕ :=
  if desc.srcFormat = 1 ∧ desc.srcTransferMode = xferMc then task.srcSurfBaseAddr.toNat >>> 9 % 2 ^ 5
  else if desc.dstFormat = 1 ∧ desc.dstTransferMode = xferMc then
    task.dstSurfBaseAddr.toNat >>> 9 % 2 ^ 5
  else 0

def userFields (surface : ℕ) (misr : Bool) (src : U64) (dst : Option U64) : Fields where
  control0 := [desc.srcTransferMode.toNat, desc.srcFormat.toNat, desc.dstTransferMode.toNat, desc.dstFormat.toNat]
  control1 := [desc.bytePerPixel.toNat, desc.pxDirection.toNat, desc.pyDirection.toNat,
    desc.boundaryPixelExtension.toNat, desc.transTrueCompletion.toNat]
  control2 := [desc.prefetchEnable.toNat, desc.dstCbEnable.toNat, desc.srcCbEnable.toNat, surface]
  trigger := [desc.trigEventMode.toNat, desc.trigVpuEvents.toNat, desc.descReloadEnable.toNat]
  tx := desc.tx.toNat
  ty := desc.ty.toNat
  px := desc.px.toNat
  py := desc.py.toNat
  srcLinePitch := desc.srcLinePitch.toNat
  dstLinePitch := desc.dstLinePitch.toNat
  linkDescId := desc.linkDescId.toNat
  src1 := (desc.srcRpt1.toNat, desc.srcAdv1.toInt)
  src2 := (desc.srcRpt2.toNat, desc.srcAdv2.toInt)
  src3 := (desc.srcRpt3.toNat, desc.srcAdv3.toInt)
  dst1 := (desc.dstRpt1.toNat, desc.dstAdv1.toInt)
  dst2 := (desc.dstRpt2.toNat, desc.dstAdv2.toInt)
  dst3 := (desc.dstRpt3.toNat, desc.dstAdv3.toInt)
  srcCbStart := desc.srcCbStart.toNat
  srcCbSize := desc.srcCbSize.toNat
  dstCbStart := desc.dstCbStart.toNat
  dstCbSize := desc.dstCbSize.toNat
  srcAddr := srcValue hwgen desc src
  dstAddr := dst.map (dstValue hwgen desc misr)

def FitsAdvance (adv : U32) : Prop := -2 ^ 23 ≤ adv.toInt ∧ adv.toInt < 2 ^ 23

/-- Every value is in the range of its field. -/
structure Fits (misr : Bool) (src : U64) (dst : Option U64) : Prop where
  control0 : desc.srcTransferMode.toNat < 8 ∧ desc.srcFormat.toNat < 2 ∧
    desc.dstTransferMode.toNat < 8 ∧ desc.dstFormat.toNat < 2
  control1 : desc.bytePerPixel.toNat < 4 ∧ desc.pxDirection.toNat < 2 ∧
    desc.pyDirection.toNat < 2 ∧ desc.boundaryPixelExtension.toNat < 8 ∧
    desc.transTrueCompletion.toNat < 2
  control2 : desc.prefetchEnable.toNat < 2 ∧ desc.dstCbEnable.toNat < 2 ∧
    desc.srcCbEnable.toNat < 2
  trigger : desc.trigEventMode.toNat < 4 ∧ desc.descReloadEnable.toNat < 16
  py : desc.py.toNat < 256
  srcAdvances : FitsAdvance desc.srcAdv1 ∧ FitsAdvance desc.srcAdv2 ∧ FitsAdvance desc.srcAdv3
  dstAdvances : FitsAdvance desc.dstAdv1 ∧ FitsAdvance desc.dstAdv2 ∧ FitsAdvance desc.dstAdv3
  srcCircular : desc.srcCbStart.toNat < 2 ^ 17 ∧ desc.srcCbSize.toNat < 2 ^ 17
  dstCircular : desc.dstCbStart.toNat < 2 ^ 17 ∧ desc.dstCbSize.toNat < 2 ^ 17
  srcAddr : srcValue hwgen desc src < 2 ^ 40
  dstAddr : ∀ addr, dst = some addr → dstValue hwgen desc misr addr < 2 ^ 40

end

section

variable (env : DmaEnv)

/-- The addresses that the two pointers of a descriptor name: the start of a buffer or
symbol, the pointer itself for a MISR destination, no destination for a program
configuration. -/
def namedAddresses (task : DmaTask) (descNum : ℕ) : Except ℤ (U64 × Option U64) := do
  let desc := task.dmaDescriptors descNum
  let (src, _) ← srcBuffer env task desc
  if desc.srcTransferMode = srcXferVpuConfig then pure (src.addr, none)
  else if isMisr task descNum then pure (src.addr, some (desc.dstPtr.setWidth 64))
  else do
    let (_, task) ← srcAddrBase env task.version task desc descNum (task.descBlockHeightLog2 descNum)
    let (dst, _) ← dstBuffer env task desc
    pure (src.addr, some dst.addr)

end

end

/-!
## Chains of DMA descriptors

A descriptor links to at most one other one, by an id that counts from 1.  A channel's
chain is what its first descriptor reaches.  `WellFormedChains` is the shape of the
user's input on which the walk gives every descriptor the block height of its channel.
-/

section

open Program

variable (t : DmaTask)

/-- The descriptor `a` links to `b`. -/
def LinksTo (a b : ℕ) : Prop := (t.dmaDescriptors a).linkDescId.toNat = b + 1

/-- `b` is on the chain that starts at `a`. -/
def Reaches (a b : ℕ) : Prop := Relation.ReflTransGen (LinksTo t) a b

/-- The channel `c` is walked by the driver, not by the hardware sequencer. -/
def SoftwareChannel (c : ℕ) : Prop :=
  c < t.numDmaChannels.toNat ∧ (t.dmaChannels c).hwseqEnable ≠ 1

/-- The descriptor `d` is on the chain of channel `c`.  The index 255 starts no chain: its
id is 0. -/
def InChain (c d : ℕ) : Prop :=
  (t.dmaChannels c).descIndex ≠ 255 ∧ Reaches t (t.dmaChannels c).descIndex.toNat d

/-- Every walked chain starts at one of the task's descriptors. -/
def StartsInRange : Prop :=
  ∀ c, SoftwareChannel t c → (t.dmaChannels c).descIndex ≠ 255 →
    (t.dmaChannels c).descIndex.toNat < t.numDmaDescriptors.toNat

/-- All walked channels have one block height. -/
def SameHeights : Prop :=
  ∀ c c', SoftwareChannel t c → SoftwareChannel t c' →
    (t.dmaChannels c).blockHeight = (t.dmaChannels c').blockHeight

/-- No walked chain meets another one, or itself except by a descriptor that links to
itself. -/
structure SeparateChains : Prop where
  disjoint : ∀ c c' d, SoftwareChannel t c → SoftwareChannel t c' →
    InChain t c d → InChain t c' d → c = c'
  acyclic : ∀ c a b, SoftwareChannel t c → InChain t c a → LinksTo t a b → a ≠ b →
    ¬ Reaches t b a

/-- The chains that the walk handles as intended. -/
structure WellFormedChains : Prop where
  starts : StartsInRange t
  heights : SameHeights t ∨ SeparateChains t

/-- Without channels nothing is mapped; without descriptors there is nothing to map. -/
def WalkedAsIntended : Prop :=
  t.numDmaDescriptors ≠ 0 → t.numDmaChannels ≠ 0 ∧ WellFormedChains t

/-- Walked channels that share a descriptor of the task have one block height. -/
def HeightsAgree : Prop :=
  ∀ c c', ∀ d < t.numDmaDescriptors.toNat, SoftwareChannel t c → SoftwareChannel t c' →
    InChain t c d → InChain t c' d → (t.dmaChannels c).blockHeight = (t.dmaChannels c').blockHeight

/-- What no input that fails it can be mapped without. -/
def Mappable : Prop :=
  t.numDmaDescriptors ≠ 0 → t.numDmaChannels ≠ 0 ∧ StartsInRange t ∧ HeightsAgree t

/-- What a finished mapping has done: each descriptor was mapped exactly once, those on a
walked channel's chain with the channel's block height. -/
structure MappedOnce (mapped : List (ℕ × U8)) : Prop where
  once : ∀ d < t.numDmaDescriptors.toNat, (mapped.map Prod.fst).count d = 1
  heights : ∀ c, ∀ d < t.numDmaDescriptors.toNat, SoftwareChannel t c → InChain t c d →
    (d, (t.dmaChannels c).blockHeight) ∈ mapped

end

/-!
## What the checks of a sequencer program are for

The tiles of a program stay in vector memory, or in the circular buffer that it sets up there, and the frame
stays in its buffer.  Here the sizes are integers, and nothing wraps.
-/

section

open Library Program

/-! ### Tiles in vector memory -/

/-- A tile of `tx` by `ty` pixels, from line to line `pitch` pixels apart, ends before `room`. -/
def TileFits (d : DmaDescriptor) (pitch : U16) (bpp offset room : ℕ) : Prop :=
  offset + (pitch.toNat * (d.ty.toNat - 1) + d.tx.toNat) * bpp ≤ room

/-- The tiles of both descriptors, laid out as the head descriptor says. -/
def TilesFit (h : Hwseq) (pitch : U16) (offset room : ℕ) : Prop :=
  TileFits h.headDesc pitch (bppSize h.headDesc).toNat offset room ∧
    TileFits h.tailDesc pitch (bppSize h.headDesc).toNat offset room

/-- The validators of a circular buffer: one for software sequencing, and two for the sequencer. -/
inductive CbValidator
  | addressRange (desc : DmaDescriptor) (maxSize maxSize2 : U64) (srcDst dst2 : Bool) (blockHeightLog2 : U8)
  | dstVmem (h : Hwseq)
  | srcVmem (h : Hwseq)

namespace CbValidator

/-- The validator accepts its descriptors. -/
def Accepts : CbValidator → Prop
  | addressRange desc maxSize maxSize2 srcDst dst2 blockHeightLog2 =>
    checkAddressRange desc maxSize maxSize2 srcDst dst2 blockHeightLog2 = .ok ()
  | dstVmem h => ∃ count, validateDstVmem h = .ok count
  | srcVmem h => ∃ count, validateSrcVmem h = .ok count

def MovesTiles : CbValidator → Prop
  | addressRange desc _ _ _ _ _ => desc.tx ≠ 0 ∧ desc.ty ≠ 0
  | dstVmem h | srcVmem h => (h.headDesc.tx ≠ 0 ∧ h.headDesc.ty ≠ 0) ∧ (h.tailDesc.tx ≠ 0 ∧ h.tailDesc.ty ≠ 0)

/-- The circular buffer is not larger than the buffer that it lives in, and holds a tile.  The sequencer
without a circular buffer keeps its tiles in the buffer. -/
def Inside : CbValidator → Prop
  | addressRange desc maxSize _ srcDst _ _ =>
    let cbEnable := if srcDst then desc.dstCbEnable else desc.srcCbEnable
    let cbSize := if srcDst then desc.dstCbSize else desc.srcCbSize
    let pitch := if srcDst then desc.dstLinePitch else desc.srcLinePitch
    cbEnable = 1 → cbSize.toNat ≤ maxSize.toNat ∧ TileFits desc pitch (bppSize desc).toNat 0 cbSize.toNat
  | dstVmem h =>
    (h.headDesc.dstCbEnable = 1 → h.headDesc.dstCbSize.toNat ≤ (h.getBufferSizeHwseq true).toNat ∧
      TilesFit h h.headDesc.dstLinePitch 0 h.headDesc.dstCbSize.toNat) ∧
    (h.headDesc.dstCbEnable = 0 → TilesFit h h.headDesc.dstLinePitch h.headDesc.dstOffset.toNat
      (h.getBufferSizeHwseq true).toNat)
  | srcVmem h =>
    (h.headDesc.srcCbEnable = 1 → h.headDesc.srcCbSize.toNat ≤ (h.getBufferSizeHwseq false).toNat ∧
      TilesFit h h.headDesc.srcLinePitch 0 h.headDesc.srcCbSize.toNat) ∧
    (h.headDesc.srcCbEnable = 0 → TilesFit h h.headDesc.srcLinePitch h.headDesc.srcOffset.toNat
      (h.getBufferSizeHwseq false).toNat)

def largestPixels (h : Hwseq) (pitch : U16) : ℕ :=
  pitch.toNat * (max h.headDesc.ty.toNat h.tailDesc.ty.toNat - 1) + max h.headDesc.tx.toNat h.tailDesc.tx.toNat

/-- With split padding, the tail is measured with the height of the head, or in vertical mining with its
width. -/
def tailLarger (h : Hwseq) : Prop :=
  if h.isRasterScan then h.headDesc.ty.toNat < h.tailDesc.ty.toNat
  else h.headDesc.tx.toNat < h.tailDesc.tx.toNat

def LeftOut : CbValidator → Prop
  -- the buffer itself, and the padding of the source
  | addressRange desc maxSize _ srcDst _ _ =>
    let cbEnable := if srcDst then desc.dstCbEnable else desc.srcCbEnable
    let cbSize := if srcDst then desc.dstCbSize else desc.srcCbSize
    cbEnable = 1 → cbSize.toNat ≤ maxSize.toNat ∧
      (srcDst = false → ¬ (desc.px = 0 ∧ desc.py = 0) →
        TileFits desc desc.srcLinePitch (bppSize desc).toNat 0 desc.srcCbSize.toNat)
  -- absurd pixel sizes, a larger tail with split padding, and a sum that wraps
  | dstVmem h =>
    (h.headDesc.dstCbEnable = 1 →
      32 ≤ h.headDesc.bytePerPixel.toNat ∨ h.isSplitPadding = true ∧ tailLarger h →
      TilesFit h h.headDesc.dstLinePitch 0 h.headDesc.dstCbSize.toNat) ∧
    (h.headDesc.dstCbEnable = 0 → 32 ≤ h.headDesc.bytePerPixel.toNat ∨
      2 ^ 64 ≤ largestPixels h h.headDesc.dstLinePitch * 2 ^ h.headDesc.bytePerPixel.toNat +
        h.headDesc.dstOffset.toNat →
      TilesFit h h.headDesc.dstLinePitch h.headDesc.dstOffset.toNat (h.getBufferSizeHwseq true).toNat)
  -- every pixel of more than one byte, and a sum that wraps
  | srcVmem h =>
    (h.headDesc.srcCbEnable = 1 → h.headDesc.bytePerPixel ≠ 0 →
      TilesFit h h.headDesc.srcLinePitch 0 h.headDesc.srcCbSize.toNat) ∧
    (h.headDesc.srcCbEnable = 0 → h.headDesc.bytePerPixel ≠ 0 ∨
      2 ^ 64 ≤ largestPixels h h.headDesc.srcLinePitch + h.headDesc.srcOffset.toNat →
      TilesFit h h.headDesc.srcLinePitch h.headDesc.srcOffset.toNat (h.getBufferSizeHwseq false).toNat)

end CbValidator

/-! ### The frame in its buffer -/

/-- A frame in pixels, from a first column and line up to a last one that does not belong to it. -/
structure FrameSpan where
  startX : ℤ
  startY : ℤ
  endX : ℤ
  endY : ℤ

def exactSpanY (gi : HwseqGridInfo) : ℤ × ℤ :=
  let dimOffset := gi.gridStepY.toInt * (gi.gridSizeY.toInt - 1)
  let adjust := if gi.gridStepY.toInt < 0 then (gi.padY 0).toInt else 0
  (min dimOffset 0 + adjust, max dimOffset 0 + ((gi.tileY 1).toInt - (gi.padY 0).toInt - (gi.padY 1).toInt))

/-- The columns of tiles that do not overlap. -/
def exactSplitSpanX (gi : HwseqGridInfo) : ℤ × ℤ :=
  let dimOffset := gi.gridStepX.toInt * (gi.gridSizeX.toInt - 1)
  (min dimOffset 0, max dimOffset 0 + (gi.tileX 1).toInt)

/-- The columns of tiles that include their padding. -/
def exactPaddedSpanX (gi : HwseqGridInfo) : ℤ × ℤ :=
  let dimOffset := gi.gridStepX.toInt * (gi.gridSizeX.toInt - 1)
  let headOffset := gi.gridStepX.toInt * (gi.headTileCount.toInt - 1)
  let padStart := if 0 ≤ gi.gridStepX.toInt then (gi.padX 0).toInt else (gi.padX 1).toInt
  let padEnd := if 0 ≤ gi.gridStepX.toInt then (gi.padX 1).toInt else (gi.padX 0).toInt
  let adjust := if gi.gridStepX.toInt < 0 then (gi.padX 0).toInt else 0
  let single := if gi.headTileCount = gi.gridSizeX then padEnd else 0
  (min (min headOffset 0 + adjust) (min dimOffset 0 + adjust),
    max (max headOffset 0 + ((gi.tileX 0).toInt - padStart) - single)
      (max dimOffset 0 + ((gi.tileX 1).toInt - (gi.padX 0).toInt - (gi.padX 1).toInt)))

/-- The span of a grid without any wrap. -/
def exactFrameInfo (gi : HwseqGridInfo) : FrameSpan :=
  let x := if gi.isSplitPadding then exactSplitSpanX gi else exactPaddedSpanX gi
  { startX := x.1, startY := (exactSpanY gi).1, endX := x.2, endY := (exactSpanY gi).2 }

def exactFrame (h : Hwseq) : FrameSpan :=
  let frame := exactFrameInfo (gridInfo h)
  if h.isRasterScan then frame
  else { startX := frame.startY, startY := frame.startX, endX := frame.endY, endY := frame.endX }

/-- The first pixel of the frame, from the frame's origin in its buffer. -/
def exactStart (h : Hwseq) : ℤ :=
  (exactFrame h).startY * (frameLinePitch h).toNat + (exactFrame h).startX

def exactEnd (h : Hwseq) : ℤ :=
  ((exactFrame h).endY - 1) * (frameLinePitch h).toNat + (exactFrame h).endX

/-- The bounds of the frame are the exact ones, and the frame is in its buffer. -/
structure BoundsExact (h : Hwseq) : Prop where
  gridX : (gridOffsetX (gridInfo h)).toInt =
    (gridInfo h).gridStepX.toInt * ((gridInfo h).gridSizeX.toInt - 1)
  gridY : (gridOffsetY (gridInfo h)).toInt =
    (gridInfo h).gridStepY.toInt * ((gridInfo h).gridSizeY.toInt - 1)
  headX : (headOffsetX (gridInfo h)).toInt =
    (gridInfo h).gridStepX.toInt * ((gridInfo h).headTileCount.toInt - 1)
  start : ∀ fi, frameInfo h = .ok fi → (frameBufferStart h fi).toInt = exactStart h
  stop : ∀ fi, frameInfo h = .ok fi → (frameBufferEnd h fi).toInt = exactEnd h
  low : ∀ offset, frameBufferOffset h = .ok offset →
    0 ≤ exactStart h * 2 ^ h.headDesc.bytePerPixel.toNat + offset.toInt
  high : ∀ offset, frameBufferOffset h = .ok offset →
    exactEnd h * 2 ^ h.headDesc.bytePerPixel.toNat + offset.toInt ≤ (frameBufferSize h).toInt

/-- The two products fit 32 bits, and the two sums with the offset fit 64 bits. -/
structure NothingWraps (h : Hwseq) : Prop where
  start : -2 ^ 31 ≤ exactStart h ∧ exactStart h < 2 ^ 31
  stop : -2 ^ 31 ≤ exactEnd h ∧ exactEnd h < 2 ^ 31
  low : ∀ offset, frameBufferOffset h = .ok offset →
    -2 ^ 63 ≤ exactStart h * 2 ^ h.headDesc.bytePerPixel.toNat + offset.toInt
  high : ∀ offset, frameBufferOffset h = .ok offset →
    exactEnd h * 2 ^ h.headDesc.bytePerPixel.toNat + offset.toInt < 2 ^ 63

/-! ### The columns of a grid -/

/-- The width of the tile in column `i` of the grid. -/
def columnWidth (gi : HwseqGridInfo) (i : ℤ) : ℤ :=
  if i < gi.headTileCount.toInt then (gi.tileX 0).toInt else (gi.tileX 1).toInt

/-- Every pixel column of every tile is in the span. -/
def SpanCovers (gi : HwseqGridInfo) (fi : HwseqFrameInfo) : Prop :=
  ∀ i x : ℤ, 0 ≤ i → i < gi.gridSizeX.toInt →
    i * gi.gridStepX.toInt ≤ x → x < i * gi.gridStepX.toInt + columnWidth gi i →
    fi.startX.toInt ≤ x ∧ x < fi.endX.toInt

end

end NvidiaOot.Model
