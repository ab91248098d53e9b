import NvidiaOot.Program.PvaDmaDesc

/-!
# The descriptor walk of a PVA task

For each channel the driver follows the chain of descriptors from the channel's first one
and maps those not mapped before; a last pass maps the rest.  Ids are bytes that count from
1, indices count from 0.  The model stops with `badIndex` at the first array index that is
not below the number of descriptors: the arrays hold nothing there.  `mapped` lists the
descriptors that were validated and patched, latest first, with the block height used.

The hardware sequencer's program (`verify_hwseq_blob`, `validate_dma_boundaries`) is a
parameter.  Out of the model: the base addresses and sizes that `pva_task_write_dma_info`
writes beside the walk.

Sources are in `drivers/video/tegra/host/pva/`.
-/

namespace NvidiaOot.Program

open Library Function

/-- Why the mapping stops: an error code, or an index outside the descriptors. -/
inductive Stop
  | err (code : ℤ)
  | badIndex (index : ℕ)
deriving DecidableEq, Repr

/-- An error code of a called function. -/
def liftErr {α : Type} : Except ℤ α → Except Stop α
  | .ok a => .ok a
  | .error e => .error (.err e)

/--
The configuration of a hardware channel.

SOURCE: fw_include/pva-sys-dma.h:32-46
-/
structure ChConfig where
  chNumber : U32
  cntl0 : U32
  cntl1 : U32
  boundaryPad : U32
  hwseqcntl : U32
deriving DecidableEq, Inhabited, Repr

/-- What a verified sequencer program changes: the descriptors it uses in frame mode, their
block heights, and whether its bounds are to be checked later. -/
structure HwseqEffect where
  descHwseqFrm : ℕ → Bool
  descBlockHeightLog2 : ℕ → U8
  blXfersInUse : Bool
  verifyBounds : Bool

/-- The calls of the walk that are not modelled. -/
structure WalkEnv extends DmaEnv where
  verifyHwseqBlob : DmaTask → DmaChannel → Except ℤ HwseqEffect
  validateDmaBoundaries : DmaTask → ℕ → Except ℤ Unit

/-- The state of the walk. -/
structure DmaWalk where
  task : DmaTask
  dmaDesc : ℕ → PvaDtd
  channels : ℕ → ChConfig
  dmaTriggers : ℕ → U32
  verifyBounds : ℕ → Bool
  did : U8
  blXfersInUse : Bool
  mapped : List (ℕ × U8)

section

variable (env : DmaEnv)

/-- The arrays of the task hold `num_dma_descriptors` descriptors. -/
def useIndex (task : DmaTask) (index : ℕ) : Except Stop Unit :=
  reject (task.numDmaDescriptors.toNat ≤ index) (.badIndex index)

/-- Set the bit of `desc_processed` and count it. -/
def DmaWalk.markProcessed (w : DmaWalk) (descNum : ℕ) : DmaWalk :=
  { w with
    task := { w.task with
      descProcessed := update w.task.descProcessed descNum true
      numDmaDescProcessed := w.task.numDmaDescProcessed + 1 } }

/-- `desc_block_height_log2[did] = height` -/
def DmaWalk.setHeight (w : DmaWalk) (index : ℕ) (height : U8) : DmaWalk :=
  { w with
    task := { w.task with
      descBlockHeightLog2 := update w.task.descBlockHeightLog2 index height } }

/-- Map one descriptor and go on to the one it links to. -/
def mapOne (w : DmaWalk) (descNum : ℕ) : Except Stop DmaWalk := do
  useIndex w.task descNum
  let (task, dtd, bl) ← liftErr (mapDescriptor env w.task (w.dmaDesc descNum) descNum)
  pure { w with
    task := task
    dmaDesc := update w.dmaDesc descNum dtd
    did := (w.task.dmaDescriptors descNum).linkDescId
    blXfersInUse := w.blXfersInUse || bl
    mapped := (descNum, w.task.descBlockHeightLog2 descNum) :: w.mapped }

/-- The loop of `nvpva_task_dma_desc_mapping` from index `i` on, for at most `fuel` rounds;
`i` grows in each, so `numDescs` rounds are all there are. -/
def descLoop (numDescs : ℕ) : (fuel i descNum : ℕ) → DmaWalk → Except Stop DmaWalk
  | 0, _, _, w => .ok w
  | fuel + 1, i, descNum, w =>
    if i < numDescs ∧ w.task.numDmaDescProcessed < w.task.numDmaDescriptors then
      if w.task.descProcessed descNum then descLoop numDescs fuel (i + 1) (descNum + 1) w
      else
        let w := w.markProcessed descNum
        -- the reserved descriptors are skipped
        if descNum = nvpvaReservedDescriptorsStartIdx then
          descLoop numDescs fuel (i + nvpvaNumReservedDescriptors + 1)
            (nvpvaReservedDescriptorsStartIdx + nvpvaNumReservedDescriptors) w
        else do
          let w ← mapOne env w descNum
          descLoop numDescs fuel (i + 1) (descNum + 1) w
    else .ok w

/--
Map up to `numDescs` descriptors from `did` on.

SOURCE: pva_dma.c:815-1021
-/
def nvpvaTaskDmaDescMapping (numDescs : ℕ) (w : DmaWalk) : Except Stop DmaWalk :=
  descLoop env numDescs numDescs 0 w.did.toNat w

end

section

/-- `PVA_NUM_DYNAMIC_VDB_BUFFS`, `PVA_NUM_DYNAMIC_ADB_BUFFS_*` (fw_config.h:50-114) -/
def pvaNumDynamicVdbBuffs : ℕ := 128
def pvaNumDynamicAdbBuffsT19x : ℕ := 248
def pvaNumDynamicAdbBuffsT23x : ℕ := 256

/--
Put a block height into the channel's control word.

SOURCE: pva_dma.c:2025-2043
-/
def nvpvaUpdateBlockheight (ch : ChConfig) (blockHeightLog2 : U8) : Except ℤ ChConfig :=
  if nvpvaMaxValidBlkHgtLg2 < blockHeightLog2 then .error (-eINVAL)
  else .ok { ch with
    cntl0 := (ch.cntl0 &&& ~~~((0x7 : U32) <<< 25)) ||| ((byte blockHeightLog2 &&& 7) <<< 25) }

/-- The control words of a channel. -/
def channelWords (user : DmaChannel) (hwgen : ℕ) (ch : ChConfig) : ChConfig :=
  let cntl0 : U32 := ((byte user.descIndex + 1) &&& 0xFF) ||| ((byte user.vdbSize &&& 0xFF) <<< 8)
    ||| ((user.adbSize.setWidth 32 &&& 0x1FF) <<< 16) ||| ((0x5 : U32) <<< 25)
    ||| ((byte user.prefetchEnable &&& 1) <<< 30) ||| ((0x1 : U32) <<< 31)
  let cntl1 : U32 := ((byte user.reqPerGrant &&& 0x7) <<< 2) ||| ((byte user.vdbOffset &&& 0x7F) <<< 16)
    ||| (if hwgen = pvaHwGen1 then (user.adbOffset.setWidth 32 &&& 0xFF) <<< 24
      else (user.adbOffset.setWidth 32 &&& 0x1FF) <<< 23)
  { ch with cntl0 := cntl0, cntl1 := cntl1, boundaryPad := user.padValue }

/-- The sequencer words of a channel, from the second generation on. -/
def hwseqWords (user : DmaChannel) (ch : ChConfig) : ChConfig :=
  { ch with
    cntl1 := ch.cntl1 ||| ((byte user.chRepFactor &&& 0x7) <<< 8)
    hwseqcntl := (byte user.hwseqStart &&& 0xFF) ||| ((byte user.hwseqEnd &&& 0xFF) <<< 12)
      ||| ((byte user.hwseqTriggerDone &&& 0x3) <<< 24) ||| ((byte user.hwseqTxSelect &&& 0x1) <<< 27)
      ||| ((byte user.hwseqTraversalOrder &&& 0x1) <<< 30)
      ||| ((byte user.hwseqEnable &&& 0x1) <<< 31) }

/-- Is the channel's control data acceptable?  A first descriptor strictly inside the
reserved range is not. -/
def channelAccepted (user : DmaChannel) (hwgen : ℕ) : Except ℤ Unit := do
  reject ((nvpvaReservedDescriptorsStartIdx < user.descIndex.toNat ∧ user.descIndex.toNat ≤
      nvpvaReservedDescriptorsStartIdx + nvpvaNumReservedDescriptors - 1) ∨
    pvaNumDynamicVdbBuffs < user.vdbSize.toNat + user.vdbOffset.toNat) (-eINVAL)
  reject ((if hwgen = pvaHwGen1 then pvaNumDynamicAdbBuffsT19x else pvaNumDynamicAdbBuffsT23x) <
    user.adbSize.toNat + user.adbOffset.toNat) (-eINVAL)

/-- A verified sequencer program, put into the state. -/
def DmaWalk.withHwseq (w : DmaWalk) (chNum : ℕ) (effect : HwseqEffect) : DmaWalk :=
  { w with
    task := { w.task with
      descHwseqFrm := effect.descHwseqFrm
      descBlockHeightLog2 := effect.descBlockHeightLog2 }
    verifyBounds := update w.verifyBounds chNum effect.verifyBounds }

def DmaWalk.setChannel (w : DmaWalk) (chNum : ℕ) (ch : ChConfig) : DmaWalk :=
  { w with channels := update w.channels chNum ch }

variable (env : WalkEnv)

/--
Map one channel.

SOURCE: pva_dma.c:2045-2170
-/
def nvpvaTaskDmaChannelMapping (w : DmaWalk) (chNum : ℕ) (hwseqInUse : Bool) :
    Except ℤ DmaWalk := do
  let user := w.task.dmaChannels chNum
  let hwgen := w.task.version
  channelAccepted user hwgen
  let ch := channelWords user hwgen (w.channels chNum)
  if hwgen = pvaHwGen1 then pure (w.setChannel chNum ch)
  else if user.chRepFactor ≠ 0 ∧ user.chRepFactor ≠ 6 then .error (-eINVAL)
  else
    let ch := hwseqWords user ch
    if user.hwseqEnable &&& 0x1 ≠ 0 ∧ hwseqInUse then do
      let effect ← env.verifyHwseqBlob w.task user
      let w := w.withHwseq chNum effect
      if effect.blXfersInUse then do
        let ch ← nvpvaUpdateBlockheight ch user.blockHeight
        pure (w.setChannel chNum ch)
      else pure (w.setChannel chNum ch)
    else pure (w.setChannel chNum ch)

/-- The bits of the output enable mask, spread over the trigger registers.
SOURCE: pva_dma.c:2285-2302 -/
def addTriggers (triggers : ℕ → U32) (hwgen : ℕ) (mask : U32) (chNum : ℕ) : ℕ → U32 := fun j =>
  let bit (k : ℕ) : U32 := (mask >>> k) &&& 1
  if j < 7 then triggers j ||| (bit (2 * j) <<< chNum) ||| (bit (2 * j + 1) <<< (chNum + 16))
  else if j = 7 then triggers j ||| (bit 14 <<< chNum)
  else if j = 8 ∧ hwgen = pvaHwGen2 then
    triggers j ||| (bit 15 <<< chNum) ||| (bit 16 <<< (chNum + 16))
  else triggers j

end

section

variable (env : WalkEnv)

/-- One round of the walk: step back to the index, note the channel's block height, map. -/
def walkStep (blockHeight : U8) (w : DmaWalk) : Except Stop DmaWalk := do
  let w := { w with did := w.did - 1 }
  useIndex w.task w.did.toNat
  nvpvaTaskDmaDescMapping env.toDmaEnv 1 (w.setHeight w.did.toNat blockHeight)

/--
Follow the chain from `did`; none when `fuel` rounds do not reach its end.

SOURCE: pva_dma.c:2305-2321
-/
def walkChain (blockHeight : U8) : (fuel : ℕ) → (prevDid : U8) → DmaWalk →
    Option (Except Stop DmaWalk)
  | 0, _, _ => none
  | fuel + 1, prevDid, w =>
    if w.did ≠ 0 ∧ w.did ≠ prevDid then
      match walkStep env blockHeight w with
      | .error e => some (.error e)
      | .ok w' => walkChain blockHeight fuel w.did w'
    else some (.ok w)

/-- Rounds that are enough for every chain: 256 ids for each of 256 descriptors. -/
def walkFuel : ℕ := 65536

/-- The part of a channel before its walk. -/
def prepareChannel (hwseqMode : Bool) (w : DmaWalk) (chNum : ℕ) : Except Stop DmaWalk := do
  let w := { w with blXfersInUse := false }
  let w ← liftErr (nvpvaTaskDmaChannelMapping env w chNum hwseqMode)
  reject (!hwseqMode ∧ (w.channels chNum).hwseqcntl ≠ 0) (.err (-eINVAL))
  let ch := { w.channels chNum with chNumber := BitVec.ofNat 32 (chNum + 1) }
  pure { w.setChannel chNum ch with
    dmaTriggers := addTriggers w.dmaTriggers w.task.version
      (w.task.dmaChannels chNum).outputEnableMask (chNum + 1) }

/-- After the walk, the block height of a channel with block-linear transfers; an invalid
one leaves the default. -/
def finishChannel (w : DmaWalk) (chNum : ℕ) : DmaWalk :=
  if w.blXfersInUse then
    match nvpvaUpdateBlockheight (w.channels chNum) (w.task.dmaChannels chNum).blockHeight with
    | .ok ch => w.setChannel chNum ch
    | .error _ => w
  else w

/-- The walk of a software-sequenced channel. -/
def softwareWalk (w : DmaWalk) (chNum : ℕ) : Option (Except Stop DmaWalk) :=
  let user := w.task.dmaChannels chNum
  match walkChain env user.blockHeight walkFuel 0 { w with did := user.descIndex + 1 } with
  | some (.ok w) => some (.ok (finishChannel w chNum))
  | other => other

/--
The channels in order.

SOURCE: pva_dma.c:2257-2326
-/
def writeChannels (hwseqMode : Bool) : List ℕ → DmaWalk → Option (Except Stop DmaWalk)
  | [], w => some (.ok w)
  | chNum :: rest, w =>
    match prepareChannel env hwseqMode w chNum with
    | .error e => some (.error e)
    | .ok w =>
      if (w.task.dmaChannels chNum).hwseqEnable = 1 then writeChannels hwseqMode rest w
      else
        match softwareWalk env w chNum with
        | some (.ok w) => writeChannels hwseqMode rest w
        | other => other

/-- The arrays are cleared before the walk. -/
def DmaWalk.cleared (w : DmaWalk) : DmaWalk :=
  { w with
    task := { w.task with
      descBlockHeightLog2 := fun _ => 255
      descProcessed := fun _ => false
      numDmaDescProcessed := 0
      specialAccess := 0
      descHwseqFrm := fun _ => false
      descHwseqT26x := fun _ => false }
    verifyBounds := fun _ => false
    mapped := [] }

def pvaHwseqRamSize : ℕ := 1024

/-- Is the hardware sequencer in use?  Its buffer is pinned.
SOURCE: pva_dma.c:2207-2246 -/
def hwseqSetup (w : DmaWalk) : Except Stop (Bool × DmaWalk) :=
  if w.task.hwseqBufPinId = 0 then .ok (false, w)
  else do
    reject (w.task.version = pvaHwGen1) (.err (-eINVAL))
    reject (w.task.hwseqBufSize = 0 ∨ pvaHwseqRamSize < w.task.hwseqBufSize.toNat) (.err (-eINVAL))
    let (_, task) ← liftErr (pvaTaskPinMem env.toDmaEnv w.task w.task.hwseqBufPinId)
    pure (true, { w with task := task })

/-- The bounds of the frame-mode channels, up to the second generation. -/
def checkBounds (w : DmaWalk) : List ℕ → Except Stop Unit
  | [] => .ok ()
  | chNum :: rest => do
    if w.verifyBounds chNum then
      match env.validateDmaBoundaries w.task chNum with
      | .ok () => checkBounds w rest
      | .error _ => .error (.err (-eINVAL))
    else checkBounds w rest

/-- The last pass and the bounds. -/
def finishDmaInfo (w : DmaWalk) : Except Stop DmaWalk := do
  let w ← nvpvaTaskDmaDescMapping env.toDmaEnv w.task.numDmaDescriptors.toNat { w with did := 0 }
  if w.task.version ≤ pvaHwGen2 then do
    checkBounds env w (List.range w.task.numDmaChannels.toNat)
    pure w
  else pure w

/--
Map the channels and descriptors of a task.  Without descriptors or without channels there
is nothing to do.

SOURCE: pva_dma.c:2173-2363
-/
def pvaTaskWriteDmaInfo (w : DmaWalk) : Option (Except Stop DmaWalk) :=
  let w := w.cleared
  if w.task.numDmaDescriptors = 0 ∨ w.task.numDmaChannels = 0 then some (.ok w)
  else
    match hwseqSetup env w with
    | .error e => some (.error e)
    | .ok (hwseqMode, w) =>
      match writeChannels env hwseqMode (List.range w.task.numDmaChannels.toNat) w with
      | some (.ok w) => some (finishDmaInfo env w)
      | other => other

end

end NvidiaOot.Program
