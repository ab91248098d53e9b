import NvidiaOot.Library.TraceLoop
import NvidiaOot.Program.PvaHwseq

/-!
# The blob of the hardware sequencer

A blob in a user's buffer has a frame header, and for each column or row a header and words of two descriptors.  A
running start is checked against the end of the blob in bytes, and two pointers walk over the headers and words.

The memory is seen from the buffer's offset on: `blob` has the bytes there, also those behind the buffer.  The trace has
the headers and words that are read, and the entries of the channel that are written.

Not modelled: what is configured for later hardware, and pointers to the blob that are kept for later checks.

Sources are in `drivers/video/tegra/host/pva/`.
-/

namespace NvidiaOot.Program

open Library Function

section

/-- `PVA_HWSEQ_FRAME_ADDR`, `PVA_HWSEQ_DESC_ADDR` -/
def pvaHwseqFrameAddr : U16 := 0xC0DE
def pvaHwseqDescAddr : U16 := 0xDEAD

/-- `PVA_HWSEQ_COL_ROW_LIMIT`, `PVA_HWSEQ_DESC_LIMIT` -/
def pvaHwseqColRowLimit : ℕ := 1
def pvaHwseqDescLimit : ℕ := 2

/-- SOURCE: pva_hwseq.h:57-65 -/
def isFrameMode (id : U16) : Bool := id = pvaHwseqFrameAddr
def isDescMode (id : U16) : Bool := id = pvaHwseqDescAddr

/-- `sizeof(struct pva_hwseq_frame_header_s)`, `sizeof(struct pva_hwseq_cr_header_s)`,
`sizeof(struct pva_hwseq_desc_header_s)`, `sizeof(struct pva_hw_sweq_blob_s)`
SOURCE: pva_hwseq.h:21-55 -/
def sizeofFrameHeader : ℕ := 12
def sizeofCrHeader : ℕ := 4
def sizeofDescHeader : ℕ := 4
def sizeofHwSweqBlob : ℕ := sizeofFrameHeader + sizeofCrHeader + sizeofDescHeader

variable (blob : ℕ → U8) (p : ℕ)

/-- `fid`, `no_cr` -/
def hwseqFid : U16 := blob (p + 1) ++ blob p
def hwseqNoCr : ℕ := (blob (p + 3)).toNat

def hwseqFrameHeader : HwseqFrameHeader :=
  ⟨blob (p + 5) ++ blob (p + 4), blob (p + 8), blob (p + 9), blob (p + 10), blob (p + 11)⟩

/-- `dec` of a column or row -/
def hwseqDec : ℕ := (blob p).toNat

end

/-- `max_desc_id`
SOURCE: pva_dma.c:31-36 -/
def maxDescId (version : ℕ) : ℕ := if version = 0 then 0 else 60

/-- The checks of the transfer modes in frame mode. -/
def hwseqXferModes (desc : DmaDescriptor) : Except ℤ Unit :=
  if desc.srcTransferMode = xferVmem then
    reject ((desc.dstTransferMode ≠ xferMc ∧ desc.dstTransferMode ≠ xferL2Ram) ∨ desc.dstCbEnable = 1) (-eINVAL)
  else if desc.srcTransferMode = xferL2Ram ∨ desc.srcTransferMode = xferMc then
    reject (desc.dstTransferMode ≠ xferVmem ∨ desc.srcCbEnable = 1) (-eINVAL)
  else .error (-eINVAL)

/-- The checks of split padding. -/
def hwseqTilePadding (desc : DmaDescriptor) (hdr : HwseqFrameHeader) (traversalOrder : U8) : Except ℤ Unit := do
  reject ((desc.srcFormat = 1 ∨ desc.dstFormat = 1) ∧ hdr.tileOffset = 0) (-eINVAL)
  if traversalOrder = 0 then
    reject (0xFFFF < desc.tx.toNat + hdr.padL.toNat ∨ 0xFFFF < desc.tx.toNat + hdr.padR.toNat) (-eINVAL)
  else if traversalOrder = 1 then
    reject (0xFFFF < desc.ty.toNat + hdr.padT.toNat ∨ 0xFFFF < desc.ty.toNat + hdr.padB.toNat) (-eINVAL)
  else .error (-eINVAL)

/-- What the walk over the blob changes of the task and its channel. -/
structure HwseqParse where
  task : DmaTask
  blXfersInUse : Bool
  descEntries : ℕ → HwseqDescEntry
  tilesPerPacket : U32

/-- SOURCE: pva_dma.c:1022-1132 -/
def verifyDmaDescHwseq (userCh : DmaChannel) (hdr : HwseqFrameHeader) (did : ℕ) (mode : U16) (s : HwseqParse) :
    Except ℤ HwseqParse := do
  reject (did = 0 ∨ maxDescId s.task.version ≤ did ∨
    (nvpvaReservedDescriptorsStartIdx ≤ did - 1 ∧
      did - 1 ≤ nvpvaReservedDescriptorsStartIdx + nvpvaNumReservedDescriptors - 1)) (-eINVAL)
  let did := arrayIndexNospec (did - 1) (maxDescId s.task.version)
  let desc := s.task.dmaDescriptors did
  let s := { s with blXfersInUse := s.blXfersInUse || (desc.srcFormat = 1 || desc.dstFormat = 1) }
  if isDescMode mode then .ok s
  else if s.task.descHwseqFrm did then .ok s
  else
    let s := { s with task := { s.task with descHwseqFrm := update s.task.descHwseqFrm did true } }
    reject (desc.px ≠ 0 ∨ desc.py ≠ 0 ∨ desc.descReloadEnable ≠ 0) (-eINVAL)
    hwseqXferModes desc
    onlyIf (userCh.hwseqTxSelect = 1) (hwseqTilePadding desc hdr userCh.hwseqTraversalOrder)
    .ok s

section

/-- What is read of the blob, from the buffer's offset on, and the index of an entry that is written. -/
inductive HwseqAccess
  | read (start len : ℕ)
  | entry (k : ℕ)
deriving DecidableEq, Repr

variable (blob : ℕ → U8) (userCh : DmaChannel) (hdr : HwseqFrameHeader) (fid : U16)

/-- A descriptor of a word is checked, and is entry `k` in frame mode.
SOURCE: pva_dma.c:1945-1967, 1975-1997 -/
def hwseqDescriptor (did dr : U8) (k : ℕ) (s : HwseqParse) : List HwseqAccess × Except ℤ HwseqParse :=
  match verifyDmaDescHwseq userCh hdr did.toNat fid s with
  | .error e => ([], .error e)
  | .ok s =>
    let did := arrayIndexNospec (did.toNat - 1) (maxDescId s.task.version)
    let s := { s with
      task := { s.task with
        descBlockHeightLog2 := update s.task.descBlockHeightLog2 did userCh.blockHeight } }
    if isDescMode fid then ([], .ok s)
    else
      ([.entry k], .ok { s with
        descEntries := update s.descEntries k ⟨BitVec.ofNat 8 did, dr⟩
        tilesPerPacket := s.tilesPerPacket + (byte dr + 1) })

/-- The loop over the words of a column or row: the number of the next entry, the pointer to the next word, and whether
the loop has been left. -/
structure HwseqWords where
  parse : HwseqParse
  k : ℕ
  blobDesc : ℕ
  left : Bool

/-- The body of the loop over the words.
SOURCE: pva_dma.c:1944-1999 -/
def hwseqWord (numDescriptors : ℕ) (w : HwseqWords) : List HwseqAccess × Except ℤ HwseqWords :=
  if w.left then ([], .ok w)
  else
    let word := HwseqAccess.read w.blobDesc sizeofDescHeader
    match hwseqDescriptor userCh hdr fid (blob w.blobDesc) (blob (w.blobDesc + 1)) w.k w.parse with
    | (trace, .error e) => (word :: trace, .error e)
    | (trace, .ok s) =>
      let w := { w with parse := s, k := w.k + 1 }
      if numDescriptors ≤ w.k then
        (word :: trace, .ok { w with blobDesc := w.blobDesc + sizeofDescHeader, left := true })
      else
        match hwseqDescriptor userCh hdr fid (blob (w.blobDesc + 2)) (blob (w.blobDesc + 3)) w.k w.parse with
        | (trace', .error e) => (word :: (trace ++ trace'), .error e)
        | (trace', .ok s) =>
          (word :: (trace ++ trace'), .ok { w with parse := s, blobDesc := w.blobDesc + sizeofDescHeader })

/-- The loop over the columns or rows: the running start, and the pointers to the next header and word. -/
structure HwseqWalk where
  parse : HwseqParse
  start : ℕ
  crHeader : ℕ
  blobDesc : ℕ

/-- The body of the loop over the columns or rows.  `stop` is the end of the blob.
SOURCE: pva_dma.c:1914-2013 -/
def hwseqColRow (stop : ℕ) (v : HwseqWalk) : List HwseqAccess × Except ℤ HwseqWalk :=
  let header := HwseqAccess.read v.crHeader sizeofCrHeader
  let numDescriptors := hwseqDec blob v.crHeader + 1
  let numDescEntries := (hwseqDec blob v.crHeader + 2) / 2
  let entrySize := numDescEntries * sizeofDescHeader + sizeofCrHeader
  if isFrameMode fid ∧ pvaHwseqDescLimit < numDescriptors then ([header], .error (-eINVAL))
  else if stop < v.start + entrySize then ([header], .error (-eINVAL))
  else
    match tracedTurns (fun _ => hwseqWord blob userCh hdr fid numDescriptors) numDescEntries 0
      ⟨v.parse, 0, v.blobDesc, false⟩ with
    | (trace, .error e) => (header :: trace, .error e)
    | (trace, .ok w) =>
      if stop < w.blobDesc then (header :: trace, .error (-eINVAL))
      else (header :: trace, .ok ⟨w.parse, v.start + entrySize, w.blobDesc, w.blobDesc + sizeofCrHeader⟩)

/-- SOURCE: pva_dma.c:1817-2023 -/
def verifyHwseqBlob (s : HwseqParse) : List HwseqAccess × Except ℤ HwseqParse :=
  let stop := userCh.hwseqEnd.toNat * 4
  let start := userCh.hwseqStart.toNat * 4
  if stop ≤ start ∨ stop - start + 4 < sizeofHwSweqBlob then ([], .error (-eINVAL))
  else if s.task.hwseqBufSize.toNat < stop then ([], .error (-eINVAL))
  else
    let frame := HwseqAccess.read start sizeofFrameHeader
    let fid := hwseqFid blob start
    let crCount := hwseqNoCr blob start + 1
    if isDescMode fid ∧ s.task.hwseqTrigMode = nvpvaHwseqtmDmatrig then ([frame], .error (-eINVAL))
    else if isDescMode fid = false ∧ isFrameMode fid = false then ([frame], .error (-eINVAL))
    else if pvaHwseqColRowLimit < crCount ∧ s.task.version ≤ pvaHwGen2 then ([frame], .error (-eINVAL))
    else
      let crHeader := start + sizeofFrameHeader
      let (trace, result) :=
        tracedTurns (fun _ => hwseqColRow blob userCh (hwseqFrameHeader blob start) fid (stop + 4)) crCount 0
          ⟨s, crHeader, crHeader, crHeader + sizeofCrHeader⟩
      (frame :: trace, result.map HwseqWalk.parse)

end

end NvidiaOot.Program
