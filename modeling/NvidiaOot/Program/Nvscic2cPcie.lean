import NvidiaOot.Library.ByteArea
import NvidiaOot.Library.Slots
import NvidiaOot.Program.Types

/-!
# Chip-to-chip streams over PCIe

The channel between two endpoints, and the objects, exports and copies of the streams on it.

Sources are in `drivers/misc/nvscic2c-pcie/`.
-/

namespace NvidiaOot.Program

open Function

/-!
## The comm channel of nvscic2c-pcie

Each side keeps its counters in a header of its own and has a second header, and the frames of
the messages to it, in memory that the peer writes over PCIe.  `Fifo.accept` is what such a
posted write does to the memory of the peer.  `send_msg` and the body of the receive loop are
given by their parts, in the order in which the code has them.
-/

/-- `enum peer_cpu_t` -/
inductive PeerCpu where
  | nvcpuOrin
  | nvcpuX86_64
  deriving DecidableEq

/-! ### `enum comm_msg_type` -/

def commMsgTypeInvalid : U32 := 0
def commMsgTypeBootstrap : U32 := 1
def commMsgTypeLink : U32 := 2
def commMsgTypeRegister : U32 := 3
def commMsgTypeUnregister : U32 := 4
def commMsgTypeEdmaRxDescIovaReturn : U32 := 5
def commMsgTypeShutdown : U32 := 6
def commMsgTypeMaximum : U32 := 7

/-- `struct comm_msg`; the union has the members of its largest ones, `reg` and `unreg`.
SOURCE: comm-channel.h:74-109 -/
structure CommMsg where
  type : U32
  exportDesc : U64
  iova : U64
  size : U64
  offsetof : U64
  deriving DecidableEq

/-- `COMM_CHANNEL_NFRAMES` -/
def commChannelNframes : U32 := 1024

/-- `struct header` -/
structure Header where
  wrCount : U32
  rdCount : U32

/-- `struct fifo_t`; `recv` has the frames, one for each position. -/
structure CommFifo where
  nframes : U32
  recvHdr : Header
  localHdr : Header
  recv : U32 → CommMsg
  wrPos : U32
  rdPos : U32

/-- A write through the PCIe aperture to the memory of the peer, or its notification. -/
inductive PostedWrite where
  | frame (pos : U32) (msg : CommMsg)
  | wrCount (count : U32)
  | rdCount (count : U32)
  | notify

/-- What a write of the peer does to the memory that it sees as `send` and `send_hdr`. -/
def CommFifo.accept (fifo : CommFifo) : PostedWrite → CommFifo
  | .frame pos msg => { fifo with recv := update fifo.recv pos msg }
  | .wrCount count => { fifo with recvHdr := { fifo.recvHdr with wrCount := count } }
  | .rdCount count => { fifo with recvHdr := { fifo.recvHdr with rdCount := count } }
  | .notify => fifo

/-- The next position: `pos + 1`, or `0` behind the last frame. -/
def nextFrame (nframes pos : U32) : U32 := if pos + 1 ≥ nframes then 0 else pos + 1

/-- SOURCE: comm-channel.c:137-160 -/
def canSend (fifo : CommFifo) : Bool × ℤ :=
  let peerToread := fifo.localHdr.wrCount - fifo.recvHdr.rdCount
  if peerToread < fifo.nframes then (true, 0)
  else if peerToread = fifo.nframes then (false, -eAGAIN)
  else (false, -eOVERFLOW)

/-- `send_msg`: the copy of the message to the frame at `wr_pos`.
SOURCE: comm-channel.c:209-212 -/
def sendFrame (fifo : CommFifo) (msg : CommMsg) : PostedWrite := .frame fifo.wrPos msg

/-- `send_msg`: `wr_count` here and then at the peer.
SOURCE: comm-channel.c:214-216 -/
def sendCount (fifo : CommFifo) : CommFifo × PostedWrite :=
  let wrCount := fifo.localHdr.wrCount + 1
  ({ fifo with localHdr := { fifo.localHdr with wrCount := wrCount } }, .wrCount wrCount)

/-- `send_msg`: the notification of the peer and the result of the call; `irq` is what
`pci_client_raise_irq` returns.
SOURCE: comm-channel.c:218-228 -/
def sendNotify (peerCpu : PeerCpu) (irq : ℤ) : ℤ × List PostedWrite :=
  match peerCpu with
  | .nvcpuX86_64 => (irq, if irq = 0 then [.notify] else [])
  | .nvcpuOrin => (0, [.notify])

/-- `send_msg`: the next write position.
SOURCE: comm-channel.c:230-232 -/
def sendAdvance (fifo : CommFifo) : CommFifo :=
  { fifo with wrPos := nextFrame fifo.nframes fifo.wrPos }

/-- The entry that a message is sent through. -/
inductive SendEntry where
  | ctrl
  | app
  deriving DecidableEq

/-- The types that an entry accepts.
SOURCE: comm-channel.c:248-252,274-276 -/
def SendEntry.types : SendEntry → List U32
  | .ctrl => [commMsgTypeBootstrap, commMsgTypeEdmaRxDescIovaReturn, commMsgTypeShutdown,
      commMsgTypeLink]
  | .app => [commMsgTypeRegister, commMsgTypeUnregister]

/-- The checks of `comm_channel_ctrl_msg_send` and `comm_channel_msg_send` before `send_msg`.
SOURCE: comm-channel.c:239-285 -/
def sendCheck (entry : SendEntry) (linkUp : Bool) (msg : CommMsg) : ℤ :=
  if msg.type ∉ entry.types then -eINVAL
  else if entry = .app ∧ !linkUp then -eNOLINK
  else 0

/-- SOURCE: comm-channel.c:162-185 -/
def canRecv (fifo : CommFifo) : Bool × ℤ :=
  let toread := fifo.recvHdr.wrCount - fifo.localHdr.rdCount
  if toread = 0 then (false, -eNODATA)
  else if toread ≤ fifo.nframes then (true, 0)
  else (false, -eOVERFLOW)

/-- `recv_taskfn`: the message at `rd_pos`.
SOURCE: comm-channel.c:312-313 -/
def recvHead (fifo : CommFifo) : CommMsg := fifo.recv fifo.rdPos

/-- Whether the message has a callback, with the types that have one registered.
SOURCE: comm-channel.c:315-321 -/
def hasCallback (cbOps : U32 → Bool) (msg : CommMsg) : Bool :=
  decide (msg.type > commMsgTypeInvalid) && decide (msg.type < commMsgTypeMaximum) &&
    cbOps msg.type

/-- `recv_taskfn`: `rd_count` here and then at the peer.
SOURCE: comm-channel.c:327-330 -/
def recvCount (fifo : CommFifo) : CommFifo × PostedWrite :=
  let rdCount := fifo.localHdr.rdCount + 1
  ({ fifo with localHdr := { fifo.localHdr with rdCount := rdCount } }, .rdCount rdCount)

/-- `recv_taskfn`: the next read position.
SOURCE: comm-channel.c:334-336 -/
def recvAdvance (fifo : CommFifo) : CommFifo :=
  { fifo with rdPos := nextFrame fifo.nframes fifo.rdPos }

/-!
## Copy requests of nvscic2c-pcie

The arguments of a copy request are copied from the user to arrays that were allocated when the
limits were set, validated, and turned into eDMA descriptors.  An array is the size that was asked
for and the bytes at its address; a copy from the user that is too short zeroes the rest.
-/

section

open Library

/-! ### Sizes of the elements of the arrays -/

def sizeofS32 : U64 := 4
def sizeofU64 : U64 := 8
def sizeofPointer : U64 := 8
def sizeofFlushRange : U64 := 24
def sizeofEdmaDesc : U64 := 24

/-- `enum nvscic2c_pcie_obj_type` -/
inductive ObjType where
  | sourceMem
  | targetMem
  | localSync
  | remoteSync
  | import
  deriving DecidableEq

/-- `STREAM_OBJ_TYPE_MEM`, `STREAM_OBJ_TYPE_SYNC` -/
def streamObjTypeMem : U32 := 0
def streamObjTypeSync : U32 := 1

/-- `struct stream_ext_obj` and the part of its `vmap` that is used here. -/
structure StreamObj where
  type : ObjType
  socId : U32
  cntrlrId : U32
  epId : U32
  markedForDel : Bool
  iova : U64
  size : U64
  importType : U32
  aper : U64
  deriving DecidableEq

/-- What `fget` returns: no file, a file of another driver, or a file of a stream object whose
`private_data` may be gone. -/
inductive FdFile where
  | none
  | other
  | stream (privateData : Option StreamObj)

/-- The object of a descriptor, for code that does not check. -/
def FdFile.privateData : FdFile → Option StreamObj
  | .stream privateData => privateData
  | _ => .none

/-- The fields of `struct stream_ext_ctx_t` that do not change; `epc` is the mode of the driver. -/
structure StreamConfig where
  epc : Bool
  socId : U32
  cntrlrId : U32
  epId : U32

/-- `struct copy_req_limits` -/
structure CopyReqLimits where
  maxCopyRequests : U64
  maxFlushRanges : U64
  maxPostFences : U64
  deriving DecidableEq

/-- The memory of `kzalloc(size)`. -/
structure KArray where
  size : U64
  bytes : ℕ → U8

def kzalloc (size : U64) : KArray := ⟨size, fun _ => 0⟩

/-- The bytes at a pointer of the user, and how many of those that are asked for are not copied. -/
structure UserCopy where
  data : ℕ → U8
  left : U64

/-- `copy_from_user(a, u.data, n)`, which returns `u.left` -/
def KArray.copyFromUser (a : KArray) (u : UserCopy) (n : U64) : KArray :=
  { a with bytes := blit (blit a.bytes 0 n.toNat fun _ => 0) 0 (n.toNat - u.left.toNat) u.data }

/-- Four and eight bytes in the order of the machine. -/
def leU32 (bytes : ℕ → U8) (off : ℕ) : U32 :=
  bytes (off + 3) ++ bytes (off + 2) ++ bytes (off + 1) ++ bytes off

def leU64 (bytes : ℕ → U8) (off : ℕ) : U64 := leU32 bytes (off + 4) ++ leU32 bytes off

/-- `struct nvscic2c_pcie_flush_range` -/
structure FlushRange where
  srcHandle : U32
  dstHandle : U32
  offset : U64
  size : U64
  deriving DecidableEq

/-- `flush_ranges[i]` -/
def flushRangeAt (bytes : ℕ → U8) (i : ℕ) : FlushRange where
  srcHandle := leU32 bytes (24 * i)
  dstHandle := leU32 bytes (24 * i + 4)
  offset := leU64 bytes (24 * i + 8)
  size := leU64 bytes (24 * i + 16)

section

variable (cfg : StreamConfig) (files : U32 → FdFile)

/-- `validate_handle`
SOURCE: stream-extensions.c:1156-1192 -/
def validateHandle (handle : U32) (type : ObjType) : ℤ :=
  match files handle with
  | .stream (some obj) =>
    if obj.markedForDel then -eINVAL
    else if obj.socId ≠ cfg.socId ∨ obj.cntrlrId ≠ cfg.cntrlrId ∨ obj.epId ≠ cfg.epId then -eINVAL
    else if obj.type ≠ type then -eINVAL
    else 0
  | _ => -eINVAL

/-- `validate_import_handle`
SOURCE: stream-extensions.c:1194-1214 -/
def validateImportHandle (handle : U32) (importType : U32) : ℤ :=
  if validateHandle cfg files handle .import ≠ 0 then validateHandle cfg files handle .import
  else
    match (files handle).privateData with
    | some obj => if obj.importType ≠ importType then -eINVAL else 0
    | none => -eINVAL

/-- Whether the end of a range is behind the object, as the code computes it. -/
def endsBehind (range : FlushRange) (handle : U32) : Bool :=
  match (files handle).privateData with
  | some obj => decide (range.offset + range.size > obj.size)
  | none => true

/-- `validate_flush_range`
SOURCE: stream-extensions.c:1216-1264 -/
def validateFlushRange (range : FlushRange) : ℤ :=
  if range.size = 0 then -eINVAL
  else if range.size > 0xffffffff then -eINVAL
  else if range.size &&& 3 ≠ 0 then -eINVAL
  else if range.offset &&& 3 ≠ 0 then -eINVAL
  else if validateHandle cfg files range.srcHandle .sourceMem ≠ 0 then
    validateHandle cfg files range.srcHandle .sourceMem
  else if validateImportHandle cfg files range.dstHandle streamObjTypeMem ≠ 0 then
    validateImportHandle cfg files range.dstHandle streamObjTypeMem
  else if endsBehind files range range.srcHandle then -eINVAL
  else if endsBehind files range range.dstHandle then -eINVAL
  else 0

/-- The first error of `f i`, `f (i + 1)`, ... -/
def firstError (f : ℕ → ℤ) : ℕ → ℕ → ℤ
  | _, 0 => 0
  | i, n + 1 => if f i ≠ 0 then f i else firstError f (i + 1) n

/-- `for (i = 0; i < n; i++)` with an index of 32 bits: from `2 ^ 32` on it does not end by itself,
and comes to the same indices again. -/
def u32Loop (n : U64) (f : ℕ → ℤ) : Option ℤ :=
  if firstError f 0 (min n.toNat (2 ^ 32)) ≠ 0 ∨ n.toNat < 2 ^ 32 then
    some (firstError f 0 (min n.toNat (2 ^ 32)))
  else none

end

/-- `struct copy_req_params`; an array is missing when its allocation failed. -/
structure CopyReqParams where
  numLocalPostFences : U64
  localPostFences : Option KArray
  numRemotePostFences : U64
  remotePostFences : Option KArray
  numFlushRanges : U64
  remotePostFenceValues : Option KArray
  flushRanges : Option KArray

/-- The handles and ranges that the arrays have. -/
def CopyReqParams.handleAt (a : Option KArray) (i : ℕ) : U32 :=
  a.elim 0 fun a => leU32 a.bytes (4 * i)

def CopyReqParams.rangeAt (p : CopyReqParams) (i : ℕ) : FlushRange :=
  p.flushRanges.elim ⟨0, 0, 0, 0⟩ fun a => flushRangeAt a.bytes i

/-- `validate_copy_req_params`: there is no result when a loop does not end.
SOURCE: stream-extensions.c:1266-1304 -/
def validateCopyReqParams (cfg : StreamConfig) (files : U32 → FdFile) (p : CopyReqParams) : Option ℤ :=
  (u32Loop p.numLocalPostFences fun i =>
    validateHandle cfg files (CopyReqParams.handleAt p.localPostFences i) .localSync).bind fun ret =>
  if ret ≠ 0 then some ret else
  (u32Loop p.numRemotePostFences fun i =>
    validateImportHandle cfg files (CopyReqParams.handleAt p.remotePostFences i)
      streamObjTypeSync).bind fun ret =>
  if ret ≠ 0 then some ret else
  u32Loop p.numFlushRanges fun i => validateFlushRange cfg files (p.rangeAt i)

/-- `struct nvscic2c_pcie_submit_copy_args`, with what the user has at the pointers. -/
structure SubmitCopyArgs where
  numLocalPostFences : U64
  localPostFences : UserCopy
  numRemotePostFences : U64
  remotePostFences : UserCopy
  numFlushRanges : U64
  flushRanges : UserCopy
  remotePostFenceValues : UserCopy

/-- One of the copies of `copy_args_from_user`, and whether its result is an error for the code.
There is no result when there is no array. -/
def copyPart (a : Option KArray) (u : UserCopy) (n : U64) : Option (KArray × Bool) :=
  a.map fun a => (a.copyFromUser u n, decide (toInt32 u.left < 0))

/-- `copy_args_from_user`
SOURCE: stream-extensions.c:1306-1354 -/
def copyArgsFromUser (limits : CopyReqLimits) (args : SubmitCopyArgs) (p : CopyReqParams) :
    Option (ℤ × CopyReqParams) :=
  if args.numLocalPostFences = 0 ∨ args.numFlushRanges = 0 ∨ args.numRemotePostFences = 0 then
    some (-eINVAL, p)
  else if args.numLocalPostFences + args.numRemotePostFences > limits.maxPostFences then
    some (-eINVAL, p)
  else if args.numFlushRanges > limits.maxFlushRanges then some (-eINVAL, p)
  else
    let p := { p with
      numLocalPostFences := args.numLocalPostFences
      numRemotePostFences := args.numRemotePostFences
      numFlushRanges := args.numFlushRanges }
    (copyPart p.localPostFences args.localPostFences (p.numLocalPostFences * sizeofS32)).bind fun r =>
    let p := { p with localPostFences := some r.1 }
    if r.2 then some (-eFAULT, p) else
    (copyPart p.remotePostFences args.remotePostFences
      (p.numRemotePostFences * sizeofS32)).bind fun r =>
    let p := { p with remotePostFences := some r.1 }
    if r.2 then some (-eFAULT, p) else
    (copyPart p.remotePostFenceValues args.remotePostFenceValues
      (p.numRemotePostFences * sizeofU64)).bind fun r =>
    let p := { p with remotePostFenceValues := some r.1 }
    if r.2 then some (-eFAULT, p) else
    (copyPart p.flushRanges args.flushRanges (p.numFlushRanges * sizeofFlushRange)).bind fun r =>
    let p := { p with flushRanges := some r.1 }
    some (if r.2 then -eFAULT else 0, p)

/-- `struct tegra_pcie_edma_desc` -/
structure EdmaDesc where
  src : U64
  dst : U64
  sz : U32
  deriving DecidableEq

/-- `struct copy_request`: the sizes of its arrays and what was stored to them. -/
structure CopyRequest where
  handlesSize : U64
  edmaDescSize : U64
  localPostFencesSize : U64
  remotePostFencesSize : U64
  remoteBufObjsSize : U64
  remotePostFenceValuesSize : U64
  handles : List StreamObj
  edmaDesc : List EdmaDesc
  localPostFences : List StreamObj
  remotePostFences : List StreamObj
  remoteBufObjs : List StreamObj
  remotePostFenceValues : List U64

/-- `allocate_copy_request`, when it does not fail.
SOURCE: stream-extensions.c:1375-1445 -/
def allocateCopyRequest (limits : CopyReqLimits) : CopyRequest where
  handlesSize := sizeofPointer * (2 * limits.maxFlushRanges + limits.maxPostFences)
  edmaDescSize := sizeofEdmaDesc * limits.maxFlushRanges
  localPostFencesSize := sizeofPointer * limits.maxPostFences
  remotePostFencesSize := sizeofPointer * limits.maxPostFences
  remoteBufObjsSize := sizeofPointer * limits.maxFlushRanges
  remotePostFenceValuesSize := sizeofU64 * limits.maxPostFences
  handles := []
  edmaDesc := []
  localPostFences := []
  remotePostFences := []
  remoteBufObjs := []
  remotePostFenceValues := []

/-- `allocate_copy_req_params`, when it does not fail.
SOURCE: stream-extensions.c:1463-1510 -/
def allocateCopyReqParams (limits : CopyReqLimits) (p : CopyReqParams) : CopyReqParams :=
  { p with
    flushRanges := some (kzalloc (sizeofFlushRange * limits.maxFlushRanges))
    localPostFences := some (kzalloc (sizeofS32 * limits.maxPostFences))
    remotePostFences := some (kzalloc (sizeofS32 * limits.maxPostFences))
    remotePostFenceValues := some (kzalloc (sizeofU64 * limits.maxPostFences)) }

/-- `free_copy_req_params` -/
def freeCopyReqParams (p : CopyReqParams) : CopyReqParams :=
  { p with
    flushRanges := none
    localPostFences := none
    remotePostFences := none
    remotePostFenceValues := none }

/-- The objects of the first `n` handles; there is no result when one has no object. -/
def objectsOf (files : U32 → FdFile) (handle : ℕ → U32) (n : ℕ) : Option (List StreamObj) :=
  (List.range n).mapM fun i => (files (handle i)).privateData

/-- `cache_copy_request_handles`
SOURCE: stream-extensions.c:1095-1154 -/
def cacheCopyRequestHandles (files : U32 → FdFile) (p : CopyReqParams) (cr : CopyRequest) :
    Option CopyRequest :=
  (objectsOf files (CopyReqParams.handleAt p.localPostFences) p.numLocalPostFences.toNat).bind
    fun locals =>
  (objectsOf files (CopyReqParams.handleAt p.remotePostFences) p.numRemotePostFences.toNat).bind
    fun remotes =>
  (objectsOf files (fun i => (p.rangeAt i).srcHandle) p.numFlushRanges.toNat).bind fun srcs =>
  (objectsOf files (fun i => (p.rangeAt i).dstHandle) p.numFlushRanges.toNat).map fun dsts =>
  { cr with
    handles := locals ++ remotes ++ (srcs.zip dsts).flatMap fun o => [o.1, o.2]
    localPostFences := locals
    remotePostFences := remotes
    remotePostFenceValues := (List.range p.numRemotePostFences.toNat).map fun i =>
      p.remotePostFenceValues.elim 0 fun a => leU64 a.bytes (8 * i)
    remoteBufObjs := dsts }

/-- `prepare_edma_desc`
SOURCE: stream-extensions.c:987-1021 -/
def prepareEdmaDesc (cfg : StreamConfig) (files : U32 → FdFile) (p : CopyReqParams) :
    Option (List EdmaDesc) :=
  (List.range p.numFlushRanges.toNat).mapM fun i =>
    (files (p.rangeAt i).srcHandle).privateData.bind fun src =>
    (files (p.rangeAt i).dstHandle).privateData.map fun dst =>
    { src := src.iova + (p.rangeAt i).offset
      dst := (if cfg.epc then dst.aper else dst.iova) + (p.rangeAt i).offset
      sz := (p.rangeAt i).size.setWidth 32 }

end

/-!
## Mappings that are exported to a peer

An exported mapping is named by a descriptor with its number.  The tables of mappings of one SoC and
of the exports that it knows of the other one are given with the functions on them.
-/

section

open Library

/-! ### Reference counts -/

/-- The value of a `kref` that has overflowed, for all of them. -/
def krefSaturated : ℕ := 2 ^ 31

/-- `kref_get` -/
def krefGet (r : ℕ) : ℕ := if r = 0 ∨ krefSaturated ≤ r + 1 then krefSaturated else r + 1

/-- `kref_put`: the count, which is not changed any more once it has overflowed. -/
def krefPut (r : ℕ) : ℕ := if krefSaturated ≤ r then r else r - 1

/-! ### Descriptors -/

/-- `DESC_MAGIC_CODE_32BIT` -/
def descMagicCode : BitVec 32 := 0x69152734

/-- `struct node_info_t` -/
structure NodeInfo where
  boardId : U32
  socId : U32
  cntrlrId : U32

/-- `gen_desc`; `reserved2` is not set, so it is what is on the stack.
SOURCE: descriptor.h:52-81 -/
def genDesc (peer : NodeInfo) (epId : U32) (reserved2 : BitVec 4) (handleType : U32) (handleId : ℕ) : U64 :=
  BitVec.ofNat 11 handleId ++ (handleType.setWidth 1 ++ (reserved2 ++ epId.setWidth 4 ++
    peer.cntrlrId.setWidth 4 ++ peer.socId.setWidth 4 ++ peer.boardId.setWidth 4 ++ descMagicCode))

/-- `desc.bit.handle_type` and `desc.bit.handle_id` -/
def descHandleType (desc : U64) : U32 := (desc.extractLsb' 52 1).setWidth 32

def descHandleId (desc : U64) : ℕ := (desc.extractLsb' 53 11).toNat

/-- SOURCE: descriptor.h:83-103 -/
def validateDesc (desc : U64) (l : NodeInfo) (epId : U32) : Bool :=
  decide (desc.extractLsb' 0 32 = descMagicCode ∧
    (desc.extractLsb' 32 4).setWidth 32 = l.boardId ∧ (desc.extractLsb' 36 4).setWidth 32 = l.socId ∧
    (desc.extractLsb' 40 4).setWidth 32 = l.cntrlrId ∧ (desc.extractLsb' 44 4).setWidth 32 = epId)

/-! ### Mappings -/

/-- The two tables of mappings. -/
inductive MapKind where
  | mem
  | sync
  deriving DecidableEq

/-- `MEMOBJ_START` and `SYNCOBJ_START` -/
def mapobjStart : ℕ := 1

/-- `MAX_STREAM_MEMOBJS`, `MAX_STREAM_SYNCOBJS` -/
def MapKind.last : MapKind → ℕ
  | .mem => 1024
  | .sync => 1024

def MapKind.type : MapKind → U32
  | .mem => streamObjTypeMem
  | .sync => streamObjTypeSync

/-- `struct vmap_obj_attributes`, the fields that a peer is told. -/
structure VmapAttrib where
  iova : U64
  size : U64
  offsetof : U64
  deriving DecidableEq

/-- `struct memobj_map_ref` and `struct syncobj_map_ref`; `object` is the dma-buf or the id of the
syncpoint.  The last four fields count successful exports, `UNREGISTER` messages that were
processed, successful imports, and imported handles that were freed; nothing reads them. -/
structure MapRef where
  refcount : ℕ
  object : U64
  clientMngd : Bool
  attrib : VmapAttrib
  exports : ℕ
  unregs : ℕ
  imported : ℕ
  freed : ℕ
  deriving DecidableEq

/-- `mem_idr` and `sync_idr` -/
abbrev VmapTables := MapKind → Slots MapRef

/-- What has a number is replaced or removed. -/
def setMap (t : VmapTables) (k : MapKind) (i : ℕ) (o : Option MapRef) : VmapTables :=
  update t k ((t k).put i o)

/-- What a function that maps an object meets: memory for the structure and for the table, and
whether the object can be pinned, with which attributes. -/
structure PinEnv where
  memOk : Bool
  idrOk : Bool
  pinOk : Bool
  attrib : VmapAttrib

/-- A new mapping with one reference. -/
def newMapRef (object : U64) (clientMngd : Bool) (attrib : VmapAttrib) : MapRef :=
  ⟨1, object, clientMngd, attrib, 0, 0, 0, 0⟩

def addMapRef (t : VmapTables) (k : MapKind) (m : MapRef) (env : PinEnv) : Option (ℕ × VmapTables) :=
  if env.memOk && env.idrOk && env.pinOk then
    ((t k).alloc mapobjStart k.last m).map fun r => (r.1, update t k r.2)
  else none

/-- `memobj_map`: the number of the mapping, and the tables.  `data` is what `match_dmabuf` compares
the dma-bufs with; the code gives it the address of its own variable.
SOURCE: vmap.c:45-127 -/
def memobjMap (t : VmapTables) (dmabuf data : U64) (clientMngd : Bool) (env : PinEnv) :
    Option (ℕ × VmapTables) :=
  match (t .mem).find fun m => decide (m.object = data) with
  | some i => ((t .mem).get i).bind fun m =>
    if clientMngd ≠ m.clientMngd then none
    else some (i, setMap t .mem i (some { m with refcount := krefGet m.refcount }))
  | none => addMapRef t .mem (newMapRef dmabuf clientMngd env.attrib) env

/-- SOURCE: vmap.c:206-269 -/
def syncobjMap (t : VmapTables) (syncptId : U64) (clientMngd : Bool) (env : PinEnv) :
    Option (ℕ × VmapTables) :=
  match (t .sync).find fun m => decide (m.object = syncptId) with
  | some _ => none
  | none => addMapRef t .sync (newMapRef syncptId clientMngd env.attrib) env

/-- `memobj_getref` and `syncobj_getref` -/
def vmapGetref (t : VmapTables) (k : MapKind) (i : ℕ) : Option VmapTables :=
  ((t k).get i).map fun m => setMap t k i (some { m with refcount := krefGet m.refcount })

/-- `memobj_putref` and `syncobj_putref`: the mapping is unpinned and gone with its last reference,
and `f` is counted on one that stays. -/
def vmapPutref (f : MapRef → MapRef) (t : VmapTables) (k : MapKind) (i : ℕ) : VmapTables :=
  match (t k).get i with
  | none => t
  | some m =>
    setMap t k i
      (if krefPut m.refcount = 0 then none else some (f { m with refcount := krefPut m.refcount }))

/-! ### Exports of the peer -/

/-- `IMPORTOBJ_START`, `IMPORTOBJ_END` -/
def importobjStart : ℕ := 1
def importobjEnd : ℕ := 2048

/-- `struct importobj_map_ref` -/
structure ImportRef where
  refcount : ℕ
  exportDesc : U64
  nrExport : U32
  nrImport : U32
  attrib : VmapAttrib
  deriving DecidableEq

/-- The entry for a descriptor. -/
def findDesc (t : Slots ImportRef) (desc : U64) : Option ℕ :=
  t.find fun e => decide (e.exportDesc = desc)

/-- `vmap_importobj_register`; `memOk` and `idrOk` say whether there is memory.
SOURCE: vmap.c:589-650 -/
def importobjRegister (t : Slots ImportRef) (msg : CommMsg) (memOk idrOk : Bool) : Slots ImportRef :=
  match findDesc t msg.exportDesc with
  | some i =>
    match t.get i with
    | some e =>
      if msg.iova = e.attrib.iova ∧ msg.size = e.attrib.size ∧ msg.offsetof = e.attrib.offsetof then
        t.put i (some { e with nrExport := e.nrExport + 1, refcount := krefGet e.refcount })
      else t
    | none => t
  | none =>
    if memOk && idrOk then
      match t.alloc importobjStart importobjEnd
        ⟨1, msg.exportDesc, 1, 0, ⟨msg.iova, msg.size, msg.offsetof⟩⟩ with
      | some r => r.2
      | none => t
    else t

/-- `importobj_map`: the number of the entry, its attributes, and the table.
SOURCE: vmap.c:343-381 -/
def importobjMap (t : Slots ImportRef) (desc : U64) : Option (ℕ × VmapAttrib × Slots ImportRef) :=
  (findDesc t desc).bind fun i => (t.get i).bind fun e =>
    if e.nrImport = e.nrExport then none
    else some (i, e.attrib, t.put i (some { e with nrImport := e.nrImport + 1 }))

/-- `importobj_unmap`: the `UNREGISTER` message, and the table.
SOURCE: vmap.c:384-436 -/
def importobjUnmap (t : Slots ImportRef) (i : ℕ) : Option (CommMsg × Slots ImportRef) :=
  (t.get i).bind fun e =>
    if e.nrImport = 0 then none
    else some (⟨commMsgTypeUnregister, e.exportDesc, e.attrib.iova, e.attrib.size, e.attrib.offsetof⟩,
      t.put i (if krefPut e.refcount = 0 then none else some { e with refcount := krefPut e.refcount }))

end

/-!
## The lifetime of the stream objects of nvscic2c-pcie

An object is reached by the `private_data` of the file of its descriptor, and by the copy requests
that cache it.  Files and objects are numbered, and a descriptor table says which file a descriptor
is for.
-/

/-- `struct stream_ext_obj`, the fields for its lifetime.  `ready` tells whether `allocate_handle` is
done with it; `unmaps` and `unlinks` are how often its mapping was given up and how often it was
taken from `obj_list`. -/
structure LiveObj where
  refcount : ℕ
  markedForDel : Bool
  ready : Bool
  unmaps : ℕ
  unlinks : ℕ
  deriving DecidableEq

/-- The object that `kzalloc` gives. -/
def zeroedObj : LiveObj := ⟨0, false, false, 0, 0⟩

/-- The end of `allocate_handle`: the list and `kref_init`.
SOURCE: stream-extensions.c:924-934 -/
def LiveObj.init (o : LiveObj) : LiveObj := { o with refcount := 1, ready := true }

/-- `kref_get` -/
def LiveObj.get (o : LiveObj) : LiveObj := { o with refcount := o.refcount + 1 }

/-- `kref_put` with `streamobj_free`, which unmaps.
SOURCE: stream-extensions.c:313-329 -/
def LiveObj.put (o : LiveObj) : LiveObj :=
  { o with
    refcount := o.refcount - 1
    unmaps := o.unmaps + if o.refcount = 1 then 1 else 0 }

/-- What `fops_release` and `ioctl_free_obj` do to the object of a file.
SOURCE: stream-extensions.c:342-344, stream-extensions.c:375-379 -/
def LiveObj.delete (o : LiveObj) : LiveObj :=
  { o with unlinks := o.unlinks + 1, markedForDel := true }.put

/-- `release_copy_request_handles` on the objects.
SOURCE: stream-extensions.c:1081-1093 -/
def releaseHandles (objs : List LiveObj) (handles : List ℕ) : List LiveObj :=
  handles.foldl (fun objs i => objs.modify i LiveObj.put) objs

/-- What a descriptor is for. -/
inductive FdRef where
  | none
  | other
  | file (k : ℕ)
  deriving DecidableEq

/-- A look at a descriptor in `validate_copy_req_params`: `validate_handle` checks what it finds,
and what follows it takes the file and its object to be there. -/
inductive Probe where
  | check (fd : ℕ)
  | deref (fd : ℕ)
  deriving DecidableEq

/-- The descriptors of a submission. -/
structure SubmitHandles where
  localPostFences : List ℕ
  remotePostFences : List ℕ
  flushRanges : List (ℕ × ℕ)
  deriving DecidableEq

/-- The looks of `validate_copy_req_params`, in their order.
SOURCE: stream-extensions.c:1194-1304 -/
def SubmitHandles.probes (a : SubmitHandles) : List Probe :=
  a.localPostFences.map Probe.check ++
    (a.remotePostFences.flatMap fun fd => [.check fd, .deref fd]) ++
    a.flushRanges.flatMap fun r => [.check r.1, .check r.2, .deref r.2, .deref r.1, .deref r.2]

/-- The descriptors of the ranges. -/
def SubmitHandles.ranges (a : SubmitHandles) : List ℕ := a.flushRanges.flatMap fun r => [r.1, r.2]

/-- The descriptors that are cached, in their order.
SOURCE: stream-extensions.c:1095-1154 -/
def SubmitHandles.cached (a : SubmitHandles) : List ℕ :=
  a.localPostFences ++ a.remotePostFences ++ a.ranges

end NvidiaOot.Program
