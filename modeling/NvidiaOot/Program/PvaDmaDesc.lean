import NvidiaOot.Program.PvaDma
import NvidiaOot.Library.Fallible

/-!
# From the user's DMA descriptor to the hardware's

For each descriptor the driver validates the fields, resolves the source and destination
pointers to memory, checks the transfer against the size of that memory, and packs the
fields into the descriptor that the DMA engine reads.  The buffers of `nvpva_buffer.c` and
the symbol tables of the loaded programs are parameters (`DmaEnv`).

Sources are in `drivers/video/tegra/host/pva/`.
-/

namespace NvidiaOot.Program

open Library Function

/-! ## Generations (pva.h:253-255) -/

def pvaHwGen1 : ℕ := 1
def pvaHwGen2 : ℕ := 2
def pvaHwGen3 : ℕ := 3

/-! ## Transfer modes (pva_dma.h:37-57); the two sides share their first six codes -/

def xferInval : U8 := 0
def xferMc : U8 := 1
def xferVmem : U8 := 2
def xferL2Ram : U8 := 3
def xferR5Tcm : U8 := 4
def xferMmio : U8 := 5
def srcXferVpuConfig : U8 := 7

/-! ## Trigger modes (pva_dma.h:30-35, nvpva_ioctl.h:243-246) -/

def trigEventModeDim4 : U8 := 1
def trigEventModeDim3 : U8 := 2
def nvpvaHwseqtmDmatrig : U32 := 1

/-! ## Limits and special ids (nvpva_ioctl.h:27, 542-557; pva_queue.h:172) -/

def nvpvaInvalidSymbolId : U32 := 0xFFFF
def nvpvaNoopExeId : U32 := 65535
def nvpvaReservedDescriptorsStartIdx : ℕ := 60
def nvpvaNumReservedDescriptors : ℕ := 4
def maxPinnedMemory : ℕ := 256

/--
The hardware's descriptor.

SOURCE: fw_include/pva-sys-dma.h:110-158
-/
structure PvaDtd where
  transferControl0 : U8
  linkDid : U8
  srcAdr1 : U8
  dstAdr1 : U8
  srcAdr0 : U32
  dstAdr0 : U32
  tx : U16
  ty : U16
  slpAdv : U16
  dlpAdv : U16
  srcpt1Cntl : U32
  dstpt1Cntl : U32
  srcpt2Cntl : U32
  dstpt2Cntl : U32
  srcpt3Cntl : U32
  dstpt3Cntl : U32
  sbStart : U16
  dbStart : U16
  sbSize : U16
  dbSize : U16
  trigChEvents : U16
  hwSwTrigEvents : U16
  px : U8
  py : U8
  transferControl1 : U8
  transferControl2 : U8
  cbExt : U8
  rsvd : U8
  frda : U16
deriving DecidableEq, Inhabited, Repr

/--
Sizes of the buffers that a descriptor addresses.

SOURCE: pva_queue.h:71-75
-/
structure BufferInfo where
  srcBufferSize : U64
  dstBufferSize : U64
  dst2BufferSize : U64
deriving DecidableEq, Inhabited, Repr

/-- A buffer in the address space of the DMA engine. -/
structure Buffer where
  addr : U64
  size : U64
deriving DecidableEq, Inhabited, Repr

/--
A user DMA channel.

SOURCE: include/uapi/linux/nvpva_ioctl.h:399-417
-/
structure DmaChannel where
  descIndex : U8
  blockHeight : U8
  adbSize : U16
  vdbSize : U8
  adbOffset : U16
  vdbOffset : U8
  outputEnableMask : U32
  padValue : U32
  reqPerGrant : U8
  prefetchEnable : U8
  chRepFactor : U8
  hwseqStart : U8
  hwseqEnd : U8
  hwseqEnable : U8
  hwseqTraversalOrder : U8
  hwseqTxSelect : U8
  hwseqTriggerDone : U8
deriving DecidableEq, Inhabited, Repr

/--
The fields of a submitted task that the DMA mapping reads and writes.  Arrays are
functions of the index.

SOURCE: pva_queue.h:103-187
-/
structure DmaTask where
  version : ℕ
  exeId1 : U32
  exeId2 : U32
  l2AllocSize : U32
  isSystemApp : Bool
  numDmaDescriptors : U8
  numDmaChannels : U8
  dmaDescriptors : ℕ → DmaDescriptor
  dmaChannels : ℕ → DmaChannel
  misrEnable : U32
  misrDescriptorMask : U64
  hwseqTrigMode : U32
  hwseqBufPinId : U32
  hwseqBufSize : U32
  numPinned : ℕ
  specialAccess : U8
  srcSurfBaseAddr : U64
  dstSurfBaseAddr : U64
  taskBuffInfo : ℕ → BufferInfo
  descHwseqFrm : ℕ → Bool
  descHwseqT26x : ℕ → Bool
  descProcessed : ℕ → Bool
  numDmaDescProcessed : U8
  descBlockHeightLog2 : ℕ → U8
deriving Inhabited

/-- What the mapping asks of other files: pinning the buffer with an id
(`nvpva_buffer_submit_pin_id`, at its n-th use) and the symbols of a loaded program
(`pva_get_sym_offset`: address and size). -/
structure DmaEnv where
  submitPinId : ℕ → U32 → Except ℤ Buffer
  getSymOffset : U16 → U32 → Except ℤ (U32 × U32)

section

variable (env : DmaEnv)

/--
The program whose symbols the task uses.

SOURCE: pva_dma.c:278-289
-/
def getSymExeId (task : DmaTask) : U16 :=
  if task.exeId1 ≠ nvpvaNoopExeId then task.exeId1.setWidth 16
  else if task.exeId2 ≠ nvpvaNoopExeId then task.exeId2.setWidth 16
  else nvpvaNoopExeId.setWidth 16

/--
Pin a buffer by its id.

SOURCE: pva_queue.c:150-183
-/
def pvaTaskPinMem (task : DmaTask) (id : U32) : Except ℤ (Buffer × DmaTask) := do
  reject (maxPinnedMemory ≤ task.numPinned) (-eNOMEM)
  reject (id = 0) (-eFAULT)
  let mem ← env.submitPinId task.numPinned id
  pure (mem, { task with numPinned := task.numPinned + 1 })

/-- A symbol's memory; a failed lookup is -EINVAL. -/
def symbolBuffer (task : DmaTask) (symId : U32) : Except ℤ Buffer :=
  match env.getSymOffset (getSymExeId task) symId with
  | .ok (addr, size) => .ok ⟨addr.setWidth 64, size.setWidth 64⟩
  | .error _ => .error (-eINVAL)

/-- `L2RAM`: a pinned buffer on the first generation, later the task's own window. -/
def l2Buffer (task : DmaTask) (ptr : U32) : Except ℤ (Buffer × DmaTask) :=
  if task.version = pvaHwGen1 then pvaTaskPinMem env task ptr
  else .ok (⟨0, task.l2AllocSize.setWidth 64⟩, task)

/-- Bit 39 of the address of a block-linear surface in memory asks for XBAR_RAW swizzling,
up to the second generation. -/
def formatMark (hwgen : ℕ) (mode format : U8) : U64 :=
  if mode = xferMc ∧ hwgen ≤ pvaHwGen2 then format.setWidth 64 <<< 39 else 0

/-- `U32_MAX` -/
def u32Max : U64 := 0xFFFFFFFF

/--
The memory that the source pointer names.

SOURCE: pva_dma.c:332-486
-/
def srcBuffer (task : DmaTask) (desc : DmaDescriptor) : Except ℤ (Buffer × DmaTask) :=
  if desc.srcTransferMode = xferL2Ram then l2Buffer env task desc.srcPtr
  else if desc.srcTransferMode = xferVmem then do
    reject (u32Max < desc.srcOffset) (-eINVAL)
    let buffer ← symbolBuffer env task desc.srcPtr
    pure (buffer, task)
  else if desc.srcTransferMode = srcXferVpuConfig then do
    -- the destination must be null
    reject (desc.dstPtr ≠ nvpvaInvalidSymbolId ∨ desc.dst2Ptr ≠ nvpvaInvalidSymbolId ∨
      u32Max < desc.srcOffset) (-eINVAL)
    let buffer ← symbolBuffer env task desc.srcPtr
    pure (buffer, task)
  else if desc.srcTransferMode = xferMc then do
    let (buffer, task) ← pvaTaskPinMem env task desc.srcPtr
    pure (buffer, { task with srcSurfBaseAddr := buffer.addr })
  else if desc.srcTransferMode = xferR5Tcm then do
    reject (!task.isSystemApp) (-eFAULT)
    pure (⟨0, 0⟩, { task with specialAccess := 1 })
  else if desc.srcTransferMode.toNat < 8 then .error (-eINVAL)
  else .error (-eFAULT)

/-- Which source modes are checked against the size of their memory: not the
program's configuration, not the R5 memory, and not a hardware-sequenced frame outside
the vector memory or the first generation's L2. -/
def srcChecked (task : DmaTask) (desc : DmaDescriptor) (descId : ℕ) : Bool :=
  if desc.srcTransferMode = xferL2Ram then
    task.version = pvaHwGen1 || !task.descHwseqFrm descId
  else if desc.srcTransferMode = xferVmem then true
  else if desc.srcTransferMode = xferMc then !task.descHwseqFrm descId
  else false

/--
The source side: resolve, check, and remember the size.

SOURCE: pva_dma.c:332-486
-/
def srcAddrBase (hwgen : ℕ) (task : DmaTask) (desc : DmaDescriptor) (descId : ℕ)
    (blockHeightLog2 : U8) : Except ℤ (U64 × DmaTask) := do
  let (buffer, task) ← srcBuffer env task desc
  onlyIf (srcChecked task desc descId)
    (checkAddressRange desc buffer.size 0 false false blockHeightLog2)
  let info := task.taskBuffInfo descId
  let info := if desc.srcTransferMode = xferR5Tcm then info
    else { info with srcBufferSize := buffer.size }
  pure (buffer.addr ||| formatMark hwgen desc.srcTransferMode desc.srcFormat,
    { task with taskBuffInfo := update task.taskBuffInfo descId info })

/-- The second destination, when there is one; its address must be aligned to 64 bytes. -/
def secondBuffer (task : DmaTask) (desc : DmaDescriptor) : Except ℤ (Option Buffer) :=
  if desc.dst2Ptr = nvpvaInvalidSymbolId then .ok none
  else do
    let buffer ← symbolBuffer env task desc.dst2Ptr
    reject ((buffer.addr + desc.dst2Offset) &&& 0x3F ≠ 0) (-eINVAL)
    pure (some buffer)

/--
The memory that the destination pointer names.

SOURCE: pva_dma.c:518-675
-/
def dstBuffer (task : DmaTask) (desc : DmaDescriptor) : Except ℤ (Buffer × DmaTask) :=
  if desc.dstTransferMode = xferL2Ram then l2Buffer env task desc.dstPtr
  else if desc.dstTransferMode = xferVmem then do
    reject (u32Max < desc.dstOffset ∨ u32Max < desc.dst2Offset) (-eINVAL)
    let buffer ← symbolBuffer env task desc.dstPtr
    pure (buffer, task)
  else if desc.dstTransferMode = xferMc then do
    let (buffer, task) ← pvaTaskPinMem env task desc.dstPtr
    pure (buffer, { task with dstSurfBaseAddr := buffer.addr })
  else if desc.dstTransferMode = xferR5Tcm then do
    reject (!task.isSystemApp) (-eFAULT)
    pure (⟨0, 0⟩, { task with specialAccess := 1 })
  else if desc.dstTransferMode.toNat < 8 then .error (-eINVAL)
  else .error (-eFAULT)

/-- Check the destination against the size of its memory, and remember the size.  The
R5 memory is not checked. -/
def checkDst (task : DmaTask) (desc : DmaDescriptor) (info : BufferInfo) (buffer : Buffer)
    (blockHeightLog2 : U8) : Except ℤ BufferInfo :=
  if desc.dstTransferMode = xferR5Tcm then .ok info
  else if desc.dstTransferMode = xferVmem then do
    let second ← secondBuffer env task desc
    let size2 := (second.map Buffer.size).getD 0
    checkAddressRange desc buffer.size size2 true second.isSome blockHeightLog2
    pure { info with dstBufferSize := buffer.size, dst2BufferSize := size2 }
  else do
    checkAddressRange desc buffer.size 0 true false blockHeightLog2
    pure { info with dstBufferSize := buffer.size }

/--
The destination side.  A MISR descriptor takes its pointer as the address.

SOURCE: pva_dma.c:502-675
-/
def dstAddrBase (hwgen : ℕ) (task : DmaTask) (desc : DmaDescriptor) (descId : ℕ) (isMisr : Bool)
    (blockHeightLog2 : U8) : Except ℤ (U64 × DmaTask) :=
  if isMisr then do
    reject (desc.dstTransferMode ≠ xferL2Ram ∧ desc.dstTransferMode ≠ xferMc) (-eINVAL)
    pure (desc.dstPtr.setWidth 64, task)
  else do
    let (buffer, task) ← dstBuffer env task desc
    let info ← checkDst env task desc (task.taskBuffInfo descId) buffer blockHeightLog2
    pure (buffer.addr ||| formatMark hwgen desc.dstTransferMode desc.dstFormat,
      { task with taskBuffInfo := update task.taskBuffInfo descId info })

/-- The low word and the high byte of an address. -/
def adr0 (addr : U64) : U32 := addr.setWidth 32
def adr1 (addr : U64) : U8 := (addr >>> 32).setWidth 8

def PvaDtd.withSrc (dtd : PvaDtd) (addr : U64) : PvaDtd :=
  { dtd with srcAdr0 := adr0 addr, srcAdr1 := adr1 addr }

def PvaDtd.withDst (dtd : PvaDtd) (addr : U64) : PvaDtd :=
  { dtd with dstAdr0 := adr0 addr, dstAdr1 := adr1 addr }

/--
Resolve, check and write the two addresses.  A program configuration transfer has no
destination.

SOURCE: pva_dma.c:318-687
-/
def patchDmaDescAddress (task : DmaTask) (desc : DmaDescriptor) (dtd : PvaDtd) (descId : ℕ)
    (isMisr : Bool) (blockHeightLog2 : U8) : Except ℤ (DmaTask × PvaDtd) := do
  let hwgen := task.version
  let (base, task) ← srcAddrBase env hwgen task desc descId blockHeightLog2
  let dtd := dtd.withSrc (base + desc.srcOffset)
  if desc.srcTransferMode = srcXferVpuConfig then pure (task, dtd)
  else do
    let (base, task) ← dstAddrBase env hwgen task desc descId isMisr blockHeightLog2
    pure (task, dtd.withDst (base + desc.dstOffset))

end

/--
Does the trigger of a descriptor match what it transfers?

SOURCE: pva_dma.c:689-750, pva_dma.h:11-28
-/
def isValidVpuTriggerMode (desc : DmaDescriptor) (triggerMode : U32) : Bool :=
  if desc.trigEventMode = 0 then true
  else match desc.trigVpuEvents.toNat with
    -- no trigger
    | 0 => triggerMode = nvpvaHwseqtmDmatrig
    -- configuration start
    | 3 => desc.srcTransferMode = srcXferVpuConfig
    -- read starts
    | 1 | 4 | 6 | 8 | 10 | 12 | 14 =>
      desc.srcTransferMode = srcXferVpuConfig ∨ desc.dstTransferMode = xferVmem
    -- store starts
    | 2 | 5 | 7 | 9 | 11 | 13 | 15 =>
      desc.srcTransferMode = srcXferVpuConfig ∨ desc.srcTransferMode = xferVmem
    | _ => false

/--
Validate the fields of a descriptor.

SOURCE: pva_dma.c:752-812
-/
def validateDescriptor (desc : DmaDescriptor) (triggerMode : U32) (dim3CheckRelaxed : Bool) :
    Except ℤ Unit :=
  reject
    ((desc.dstTransferMode = xferVmem ∧
        ((desc.px ≠ 0 ∧ desc.tx.toNat ≤ desc.px.toNat) ∨
          (desc.py ≠ 0 ∧ desc.ty.toNat ≤ desc.py.toNat))) ∨
      ¬ isValidVpuTriggerMode desc triggerMode ∨
      (desc.trigEventMode = trigEventModeDim4 ∧
        (desc.srcRpt1 = 0 ∨ desc.srcRpt2 = 0 ∨ desc.dstRpt1 = 0 ∨ desc.dstRpt2 = 0)) ∨
      (desc.trigEventMode = trigEventModeDim3 ∧
        (if dim3CheckRelaxed then desc.dstRpt1 = 0 ∨ desc.dstRpt1 < desc.srcRpt1
          else desc.srcRpt1 = 0 ∨ desc.dstRpt1 = 0)) ∨
      (desc.srcFormat = 1 ∧ desc.srcTransferMode ≠ xferMc) ∨
      (desc.dstFormat = 1 ∧ desc.dstTransferMode ≠ xferMc))
    (-eINVAL)

section

variable (desc : DmaDescriptor)

/-- A byte in the `int` of the packing expressions. -/
def byte (x : U8) : U32 := x.setWidth 32

def transferControl0 : U8 :=
  (byte desc.srcTransferMode ||| (byte desc.srcFormat <<< 3) |||
    (byte desc.dstTransferMode <<< 4) ||| (byte desc.dstFormat <<< 7)).setWidth 8

def transferControl1 : U8 :=
  (byte desc.bytePerPixel ||| (byte desc.pxDirection <<< 2) ||| (byte desc.pyDirection <<< 3) |||
    (byte desc.boundaryPixelExtension <<< 4) ||| (byte desc.transTrueCompletion <<< 7)).setWidth 8

def transferControl2 : U8 :=
  (byte desc.prefetchEnable ||| (byte desc.dstCbEnable <<< 1) |||
    (byte desc.srcCbEnable <<< 2)).setWidth 8

/-- Bits 13 to 9 of a surface address, at bits 7 to 3. -/
def surfaceBits (surfBaseAddr : U64) : U8 := ((surfBaseAddr &&& 0x3E00) >>> 6).setWidth 8

def hwSwTrigEvents : U16 :=
  (byte desc.trigEventMode ||| (byte desc.trigVpuEvents <<< 2) |||
    (byte desc.descReloadEnable <<< 12)).setWidth 16

/-- `((x >> 16) & 0x1) << n` -/
def bit16 (x : U32) (n : ℕ) : U32 := ((x >>> 16) &&& 1) <<< n

def cbExt : U8 :=
  (bit16 desc.srcCbStart 0 ||| bit16 desc.dstCbStart 2 ||| bit16 desc.srcCbSize 4 |||
    bit16 desc.dstCbSize 6).setWidth 8

/-- A repeat count in the high byte, an advance in the low 24 bits. -/
def ptCntl (rpt : U8) (adv : U32) : U32 := ((byte rpt &&& 0xFF) <<< 24) ||| (adv &&& 0xFFFFFF)

/-- The words that only repack the user's fields.  SOURCE: pva_dma.c:884-1016 -/
def packDescriptor (dtd : PvaDtd) : PvaDtd :=
  { dtd with
    transferControl0 := transferControl0 desc
    transferControl1 := transferControl1 desc
    linkDid := desc.linkDescId
    tx := desc.tx
    ty := desc.ty
    dlpAdv := desc.dstLinePitch
    slpAdv := desc.srcLinePitch
    dbStart := desc.dstCbStart.setWidth 16
    dbSize := desc.dstCbSize.setWidth 16
    sbStart := desc.srcCbStart.setWidth 16
    sbSize := desc.srcCbSize.setWidth 16
    trigChEvents := 0
    hwSwTrigEvents := hwSwTrigEvents desc
    px := desc.px
    py := desc.py.setWidth 8
    cbExt := cbExt desc
    srcpt1Cntl := ptCntl desc.srcRpt1 desc.srcAdv1
    dstpt1Cntl := ptCntl desc.dstRpt1 desc.dstAdv1
    srcpt2Cntl := ptCntl desc.srcRpt2 desc.srcAdv2
    dstpt2Cntl := ptCntl desc.dstRpt2 desc.dstAdv2
    srcpt3Cntl := ptCntl desc.srcRpt3 desc.srcAdv3
    dstpt3Cntl := ptCntl desc.dstRpt3 desc.dstAdv3 }

end

section

variable (env : DmaEnv)

/-- `is_misr`: the descriptor is in the MISR mask and MISR is on. -/
def isMisr (task : DmaTask) (descNum : ℕ) : Bool :=
  task.misrDescriptorMask &&& ((1 : U64) <<< descNum) ≠ 0 ∧ task.misrEnable ≠ 0

/-- A block-linear surface in memory adds its offset to the surface's base address; the
word then carries bits 13 to 9 of the sum.  SOURCE: pva_dma.c:911-931 -/
def addSurface (task : DmaTask) (desc : DmaDescriptor) : DmaTask × U8 :=
  if desc.srcFormat = 1 ∧ desc.srcTransferMode = xferMc then
    let addr := task.srcSurfBaseAddr + desc.surfBLOffset
    ({ task with srcSurfBaseAddr := addr }, transferControl2 desc ||| surfaceBits addr)
  else if desc.dstFormat = 1 ∧ desc.dstTransferMode = xferMc then
    let addr := task.dstSurfBaseAddr + desc.surfBLOffset
    ({ task with dstSurfBaseAddr := addr }, transferControl2 desc ||| surfaceBits addr)
  else (task, transferControl2 desc)

/-- The address of the second destination in units of 64 bytes. -/
def frdaBits (task : DmaTask) (desc : DmaDescriptor) (old : U16) : Except ℤ U16 :=
  if desc.dst2Ptr = nvpvaInvalidSymbolId then .ok old
  else do
    let (addr, _) ← env.getSymOffset (getSymExeId task) desc.dst2Ptr
    let addr : U32 := (addr.setWidth 64 + desc.dst2Offset).setWidth 32
    pure (old ||| ((addr >>> 6) &&& 0x3FFF).setWidth 16)

/-- A link is 0 or the id of one of the task's descriptors, and not of a reserved one. -/
def linkAccepted (numDmaDescriptors linkDescId : U8) : Except ℤ Unit :=
  reject (numDmaDescriptors < linkDescId ∨
    (nvpvaReservedDescriptorsStartIdx < linkDescId.toNat ∧ linkDescId.toNat ≤
      nvpvaReservedDescriptorsStartIdx + nvpvaNumReservedDescriptors)) (-eINVAL)

/--
The body of the loop of `nvpva_task_dma_desc_mapping`: validate, patch and pack the
descriptor `descNum`.  Returns the task, the hardware descriptor and whether the
descriptor is block linear.

SOURCE: pva_dma.c:854-1016
-/
def mapDescriptor (task : DmaTask) (dtd : PvaDtd) (descNum : ℕ) :
    Except ℤ (DmaTask × PvaDtd × Bool) := do
  let desc := task.dmaDescriptors descNum
  let relaxed := task.descHwseqFrm descNum || task.descHwseqT26x descNum
  validateDescriptor desc task.hwseqTrigMode relaxed
  let (task, dtd) ← patchDmaDescAddress env task desc dtd descNum (isMisr task descNum)
    (task.descBlockHeightLog2 descNum)
  reject (desc.prefetchEnable ≠ 0 ∧ (desc.tx = 0 ∨ desc.ty = 0 ∨
    desc.srcTransferMode ≠ xferMc ∨ desc.dstTransferMode ≠ xferVmem)) (-eINVAL)
  let surface := addSurface task desc
  linkAccepted task.numDmaDescriptors desc.linkDescId
  let frda ← frdaBits env surface.1 desc dtd.frda
  let dtd := { packDescriptor desc dtd with transferControl2 := surface.2, frda := frda }
  pure (surface.1, dtd, desc.srcFormat = 1 ∨ desc.dstFormat = 1)

end

end NvidiaOot.Program
