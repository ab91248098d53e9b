import NvidiaOot.Library.SearchTree
import NvidiaOot.Program.PvaElfImages

/-!
# The pinned buffers of a PVA client

A buffer that a client pins is mapped for the accelerator and gets an id.  The buffers are in
two red-black trees, by what was pinned and by id, and in a list.  A tree is a tree of
pointers; that `rb_insert_color` and `rb_erase` rebalance it is not modelled here but is what
`RbTree` stands for.

`vm` is the memory behind the pointers, of which `kzalloc` returns one that was not used
before.  `mapped` has the buffers for which a mapping exists, that is `dma_buf_attach` and
`dma_buf_map_attachment` were called and not undone; each holds a reference on its `dma_buf`.
The locks are not modelled: each call is one step.

Sources are in `drivers/video/tegra/host/pva/`.
-/

namespace NvidiaOot.Program

open Library Function

/-- The rebalancing of the red-black trees. -/
structure RbTree where
  rbInsertColor : ℕ → BinaryTree ℕ → BinaryTree ℕ
  rbErase : ℕ → BinaryTree ℕ → BinaryTree ℕ

/-- `pdev_priv` and `pdev_user` -/
inductive PlatformDevice where
  | priv
  | user
deriving DecidableEq, Repr

structure DmaBufAttachment where
  dmabuf : U64
  dev : PlatformDevice
deriving DecidableEq, Repr

inductive NvpvaBuffersHeap where
  | dram
deriving DecidableEq, Repr

/-- A pinned buffer; a `dma_buf` is known by its address.
SOURCE: nvpva_buffer.c:16-47 -/
structure NvpvaVmBuffer where
  attach : Option DmaBufAttachment
  dmabuf : U64
  addr : U64
  size : U64
  heap : NvpvaBuffersHeap
  userMapCount : ℤ
  submitMapCount : ℤ
  id : U32
  userAddr : U64
  userOffset : U64
  userSize : U64
  userSerialId : U64
deriving DecidableEq, Repr

/-- What `kzalloc` returns. -/
def zeroVmBuffer : NvpvaVmBuffer := ⟨none, 0, 0, 0, .dram, 0, 0, 0, 0, 0, 0, 0⟩

/-- The buffers of a client. -/
structure NvpvaBuffers where
  listHead : List ℕ
  rbRoot : BinaryTree ℕ
  rbRootId : BinaryTree ℕ
  ids : ℕ → U32
  numAssignedIds : ℕ
  kref : ℕ
  vm : ℕ → NvpvaVmBuffer
  mapped : List ℕ
  nextVm : ℕ

/-- `NVPVA_SEGMENT_USER`, `NVPVA_SEGMENT_MAX` (nvpva_ioctl.h:137-142) -/
def nvpvaSegmentUser : U32 := 2
def nvpvaSegmentMax : U32 := 4

/-- `NVPVA_ENOSLOT` (nvpva_ioctl.h:33), `NVPVA_MAX_NUM_UNIQUE_IDS` (nvpva_buffer.h:28-29) -/
def nvpvaEnoslot : U32 := 102
def nvpvaMaxNumUniqueIds : ℕ := 32 * 1024

/-- SOURCE: nvpva_buffer.c:328-357 -/
def nvpvaBufferInit : NvpvaBuffers where
  listHead := []
  rbRoot := .nil
  rbRootId := .nil
  ids _ := 0
  numAssignedIds := 0
  kref := 1
  vm _ := zeroVmBuffer
  mapped := []
  nextVm := 0

section

variable (s : NvpvaBuffers)

/-- SOURCE: nvpva_buffer.c:49-69 -/
def getUniqueId : U32 × NvpvaBuffers :=
  let id := rmosFindFirstZeroBit s.ids nvpvaMaxNumUniqueIds
  if id = nvpvaMaxNumUniqueIds then (0, s)
  else
    (BitVec.ofNat 32 id ||| 0x554c0000,
      { s with
        ids := update s.ids (id / 32) (rmosSetBit32 (id % 32) (s.ids (id / 32)))
        numAssignedIds := s.numAssignedIds + 1 })

/-- SOURCE: nvpva_buffer.c:71-81 -/
def putUniqueId (id : U32) : NvpvaBuffers :=
  let id := (id &&& ~~~(0x554c0000 : U32)).toNat
  if !rmosTestBit32 (id % 32) (s.ids (id / 32)) then s
  else
    { s with
      ids := update s.ids (id / 32) (rmosClearBit32 (id % 32) (s.ids (id / 32)))
      numAssignedIds := s.numAssignedIds - 1 }

end

section

/-- How three numbers compare with three others, the first ones first.
SOURCE: nvpva_buffer.c:83-100 -/
def compareAndAssign (a1 a2 b1 b2 c1 c2 : U64) : Ordering :=
  if a2 < a1 then .gt
  else if a1 < a2 then .lt
  else if b2 < b1 then .gt
  else if b1 < b2 then .lt
  else if c2 < c1 then .gt
  else if c1 < c2 then .lt
  else .eq

variable (rb : RbTree) (s : NvpvaBuffers)

/-- SOURCE: nvpva_buffer.c:104-133 -/
def nvpvaFindMapBuffer (offset size dmabuf : U64) : Option ℕ :=
  search (fun p => compareAndAssign (s.vm p).dmabuf dmabuf (s.vm p).userOffset offset
    (s.vm p).userSize size) s.rbRoot

/-- SOURCE: nvpva_buffer.c:135-156 -/
def nvpvaFindMapBufferId (id : U32) : Option ℕ :=
  search (fun p => if id < (s.vm p).id then .gt else if (s.vm p).id ≠ id then .lt else .eq)
    s.rbRootId

/-- SOURCE: nvpva_buffer.c:157-191 -/
def nvpvaBufferInsertMapBuffer (newVm : ℕ) : NvpvaBuffers :=
  { s with
    rbRoot := rb.rbInsertColor newVm (link (fun p => compareAndAssign (s.vm p).dmabuf
      (s.vm newVm).dmabuf (s.vm p).userOffset (s.vm newVm).userOffset (s.vm p).userSize
      (s.vm newVm).userSize) newVm s.rbRoot)
    listHead := s.listHead ++ [newVm] }

/-- SOURCE: nvpva_buffer.c:193-216 -/
def nvpvaBufferInsertMapBufferId (newVm : ℕ) : NvpvaBuffers :=
  { s with
    rbRootId := rb.rbInsertColor newVm
      (link (fun p => if (s.vm newVm).id < (s.vm p).id then .gt else .lt) newVm s.rbRootId) }

/-- Write through a pointer. -/
def NvpvaBuffers.modify (p : ℕ) (f : NvpvaVmBuffer → NvpvaVmBuffer) : NvpvaBuffers :=
  { s with vm := update s.vm p (f (s.vm p)) }

end

section

/-- One element of a request to pin, and what the kernel answers if it is asked: whether
memory can be had, whether the `dma_buf` can be attached, and its physical and its bus
address or the error in the pointer that `dma_buf_map_attachment` returns, 0 for `NULL`. -/
structure PinElement where
  dmabuf : U64
  dmabufSize : U64
  offset : U64
  size : U64
  serialId : U64
  kzalloc : Bool
  attach : Bool
  sgt : Except ℤ (U64 × U64)

variable (rb : RbTree) (s : NvpvaBuffers) (p : ℕ)

/-- Map what is asked for and note it in the buffer.  The code of a failed attachment is taken
from the pointer to the `dma_buf`.
SOURCE: nvpva_buffer.c:218-295 -/
def nvpvaBufferMap (e : PinElement) (isUser : Bool) : ℤ × NvpvaBuffers :=
  if !e.attach then (toInt32 e.dmabuf, s)
  else
    match e.sgt with
    | .error err => (err, s)
    | .ok (physAddr, sgAddr) =>
      let dmaAddr := if sgAddr = 0 then physAddr else sgAddr
      let s := s.modify p fun vm => { vm with
        heap := .dram
        attach := some ⟨e.dmabuf, if isUser then .user else .priv⟩
        dmabuf := e.dmabuf
        addr := dmaAddr
        userAddr := dmaAddr + e.offset
        size := e.dmabufSize
        userOffset := e.offset
        userSize := e.size
        userSerialId := e.serialId
        userMapCount := 1 }
      (0, { s with mapped := p :: s.mapped })

/-- Nothing, as long as one of the counts is not zero.
SOURCE: nvpva_buffer.c:305-326 -/
def nvpvaBufferUnmap : NvpvaBuffers :=
  if (s.vm p).userMapCount ≠ 0 ∨ (s.vm p).submitMapCount ≠ 0 then s
  else
    let s := { s with
      mapped := s.mapped.erase p
      rbRoot := rb.rbErase p s.rbRoot
      listHead := s.listHead.erase p
      rbRootId := rb.rbErase p s.rbRootId }
    putUniqueId s (s.vm p).id

end

section

variable (rb : RbTree) (s : NvpvaBuffers)

/-- One less, but not less than zero. -/
def dropCount (count : ℤ) : ℤ := if toI32 (count - 1) < 0 then 0 else toI32 (count - 1)

def unpinElement (key : U64 × U64 × U64) : NvpvaBuffers :=
  match nvpvaFindMapBuffer s key.2.1 key.2.2 key.1 with
  | none => s
  | some p => nvpvaBufferUnmap rb
      (s.modify p fun vm => { vm with userMapCount := dropCount vm.userMapCount }) p

/-- The elements are `dma_buf`, offset and size.
SOURCE: nvpva_buffer.c:524-553 -/
def nvpvaBufferUnpin (elements : List (U64 × U64 × U64)) : NvpvaBuffers :=
  elements.foldl (unpinElement rb) s

def unpinIdElement (id : U32) : NvpvaBuffers :=
  match nvpvaFindMapBufferId s id with
  | none => s
  | some p => nvpvaBufferUnmap rb
      (s.modify p fun vm => { vm with userMapCount := dropCount vm.userMapCount }) p

/-- SOURCE: nvpva_buffer.c:555-577 -/
def nvpvaBufferUnpinId (ids : List U32) : NvpvaBuffers := ids.foldl (unpinIdElement rb) s

def submitUnpinIdElement (id : U32) : NvpvaBuffers :=
  match nvpvaFindMapBufferId s id with
  | none => s
  | some p => nvpvaBufferUnmap rb
      (s.modify p fun vm => { vm with submitMapCount := dropCount vm.submitMapCount }) p

/-- SOURCE: nvpva_buffer.c:498-522 -/
def nvpvaBufferSubmitUnpinId (ids : List U32) : NvpvaBuffers :=
  let s := ids.foldl (submitUnpinIdElement rb) s
  { s with kref := s.kref - 1 }

/-- SOURCE: nvpva_buffer.c:579-593 -/
def nvpvaBufferRelease : NvpvaBuffers :=
  let s := s.listHead.foldl
    (fun s p => nvpvaBufferUnmap rb (s.modify p fun vm => { vm with userMapCount := 0 }) p) s
  { s with kref := s.kref - 1 }

/-- What a task gets of a buffer. -/
structure SubmittedBuffer where
  paddr : U64
  dmabuf : U64
  psize : U64
  serialId : U64
  heap : NvpvaBuffersHeap
deriving DecidableEq, Repr

/-- The body of the loop of `nvpva_buffer_submit_pin_id`. -/
def submitPinElement (id : U32) : Option (SubmittedBuffer × NvpvaBuffers) :=
  match nvpvaFindMapBufferId s id with
  | none => none
  | some p =>
    let s := s.modify p fun vm => { vm with submitMapCount := toI32 (vm.submitMapCount + 1) }
    let vm := s.vm p
    some (⟨vm.userAddr, vm.dmabuf, vm.userSize, vm.userSerialId, vm.heap⟩, s)

/-- The loop: whether it failed, and what was taken before. -/
def submitPinLoop : NvpvaBuffers → List U32 → Bool × List SubmittedBuffer × NvpvaBuffers
  | s, [] => (false, [], s)
  | s, id :: ids =>
    match submitPinElement s id with
    | none => (true, [], s)
    | some (buffer, s) =>
      let r := submitPinLoop s ids
      (r.1, buffer :: r.2.1, r.2.2)

/-- SOURCE: nvpva_buffer.c:359-402 -/
def nvpvaBufferSubmitPinId (ids : List U32) : ℤ × List SubmittedBuffer × NvpvaBuffers :=
  let r := submitPinLoop { s with kref := s.kref + 1 } ids
  if r.1 then (-eINVAL, r.2.1, nvpvaBufferSubmitUnpinId rb r.2.2 (ids.take r.2.1.length))
  else (0, r.2.1, r.2.2)

/-- `U64_MAX` -/
def u64Max : ℕ := 0xFFFFFFFFFFFFFFFF

/-- The body of the loop of `nvpva_buffer_pin`: the id, or `err` and `*eerr`. -/
def pinElement (segment : U32) (e : PinElement) : Except (ℤ × U32) U32 × NvpvaBuffers :=
  if u64Max - e.size.toNat < e.offset.toNat then (.error (-eFAULT, 0), s)
  else if e.dmabufSize < e.size + e.offset then (.error (-eFAULT, 0), s)
  else
    match nvpvaFindMapBuffer s e.offset e.size e.dmabuf with
    | some p =>
      let s := s.modify p fun vm => { vm with userMapCount := toI32 (vm.userMapCount + 1) }
      (.ok (s.vm p).id, s)
    | none =>
      if !e.kzalloc then (.error (-eNOMEM, 0), s)
      else
        let p := s.nextVm
        let s := { s with nextVm := s.nextVm + 1, vm := update s.vm p zeroVmBuffer }
        let (id, s) := getUniqueId s
        let s := s.modify p fun vm => { vm with id := id }
        if id = 0 then (.error (-eINVAL, nvpvaEnoslot), s)
        else
          let (err, s) := nvpvaBufferMap s p e (segment = nvpvaSegmentUser)
          if err ≠ 0 then (.error (err, 0), putUniqueId s id)
          else
            let s := nvpvaBufferInsertMapBuffer rb s p
            let s := nvpvaBufferInsertMapBufferId rb s p
            (.ok id, s)

/-- The loop: how it failed, and the ids that were given before. -/
def pinLoop (segment : U32) :
    NvpvaBuffers → List PinElement → Option (ℤ × U32) × List U32 × NvpvaBuffers
  | s, [] => (none, [], s)
  | s, e :: elements =>
    let r := pinElement rb s segment e
    match r.1 with
    | .error err => (some err, [], r.2)
    | .ok id =>
      let r := pinLoop segment r.2 elements
      (r.1, id :: r.2.1, r.2.2)

/-- SOURCE: nvpva_buffer.c:404-496 -/
def nvpvaBufferPin (segment : U32) (elements : List PinElement) :
    ℤ × U32 × List U32 × NvpvaBuffers :=
  if nvpvaSegmentMax ≤ segment then (-eINVAL, 0, [], s)
  else
    let r := pinLoop rb segment s elements
    match r.1 with
    | none => (0, 0, r.2.1, r.2.2)
    | some (err, eerr) =>
      (err, eerr, r.2.1, nvpvaBufferUnpin rb r.2.2
        ((elements.take r.2.1.length).map fun e => (e.dmabuf, e.offset, e.size)))

end

end NvidiaOot.Program
