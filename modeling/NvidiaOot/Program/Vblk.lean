import NvidiaOot.Library.ByteArea
import NvidiaOot.Program.Types

/-!
# The virtual block device

The driver takes block requests from a list, reserves a slot for each, and sends a frame to the storage
server over an IVC channel.  The data of a request lies in the slice of a memory pool that belongs to
its slot, or in a scatter list that is mapped for the request.  A response names the slot.

What a function does outside of the device (a request that it ends, a frame that the channel accepts, a
scatter list that it maps or frees) is returned as a list of effects, in order.

Sources are in `drivers/block/tegra_virt_storage/`.
-/

namespace NvidiaOot.Program

open Library Function

def MAX_VSC_REQS : U32 := 32
def UFS_IOCTL_MAX_SIZE_SUPPORTED : U32 := 0x80000
def SECTOR_SIZE : U32 := 512
def HSI_ERROR_MAGIC : U32 := 0xDEADDEAD

def VS_DATA_REQ : U32 := 1

def VS_BLK_READ : U32 := 1
def VS_BLK_WRITE : U32 := 2
def VS_BLK_FLUSH : U32 := 3
def VS_BLK_DISCARD : U32 := 4
def VS_BLK_SECURE_ERASE : U32 := 5
def VS_BLK_IOCTL : U32 := 6
def VS_BLK_ERASE : U32 := 7
def VS_UNKNOWN_BLK_CMD : U32 := 0xffffffff

def VS_BLK_READ_OP_F : U32 := 1 <<< 1
def VS_BLK_WRITE_OP_F : U32 := 1 <<< 2
def VS_BLK_DISCARD_OP_F : U32 := 1 <<< 4
def VS_BLK_SECURE_ERASE_OP_F : U32 := 1 <<< 5
def VS_BLK_IOCTL_OP_F : U32 := 1 <<< 6
def VS_BLK_ERASE_OP_F : U32 := 1 <<< 7

def DISCARD_ERASE_SECERASE_MASK : U32 :=
  VS_BLK_DISCARD_OP_F ||| VS_BLK_SECURE_ERASE_OP_F ||| VS_BLK_ERASE_OP_F

def VSC_DEV_UFS : U32 := 2

/-! ## Block requests -/

/-- `req_op`, with one value for the operations that the driver does not know. -/
inductive ReqOp where
  | read
  | write
  | flush
  | discard
  | secureErase
  | drvIn
  | other
deriving DecidableEq, Repr

inductive BlkStatus where
  | ok
  | ioerr
deriving DecidableEq, Repr

/-- SOURCE: tegra_vblk.h:37-42 -/
structure VblkIoctlReq where
  ioctlId : U32
  ioctlBuf : Option (List U8)
  ioctlLen : U32
deriving DecidableEq, Repr

/-- A `struct request`: its sector, its length in bytes, the bytes of its segments, and the ioctl that
`completion_data` points to.  The tag tells one request from another. -/
structure Request where
  tag : ℕ
  op : ReqOp
  pos : U64
  dataLen : U32
  segments : List (List U8)
  completionData : Option VblkIoctlReq
deriving DecidableEq, Repr

namespace Request

/-- `blk_rq_pos(rq) * (uint64_t)SECTOR_SIZE` -/
def startOffset (r : Request) : U64 := r.pos * SECTOR_SIZE.setWidth 64

/-- `blk_rq_sectors` -/
def sectors (r : Request) : U32 := r.dataLen >>> 9

/-- The request reads or writes data. -/
def isRw (r : Request) : Bool := r.op = .read || r.op = .write

end Request

/-! ## Frames -/

/-- SOURCE: include/tegra_virt_storage_spec.h:85-97 -/
structure VsBlkRequest where
  blkOffset : U64
  numBlks : U32
  dataOffset : U32
  iovaAddr : U64
deriving DecidableEq, Repr

/-- SOURCE: include/tegra_virt_storage_spec.h:108-114 -/
structure VsIoctlRequest where
  ioctlId : U32
  ioctlLen : U32
  dataOffset : U32
deriving DecidableEq, Repr

/-- A request frame.  The two members of the union are kept beside each other; a request reads the one
that its operation has set.
SOURCE: include/tegra_virt_storage_spec.h:116-122, 214-221 -/
structure VsRequest where
  reqId : U32
  type : U32
  reqOp : U32
  blkReq : VsBlkRequest
  ioctlReq : VsIoctlRequest
deriving DecidableEq, Repr

/-- The frame after `memset`. -/
def VsRequest.zero : VsRequest where
  reqId := 0
  type := 0
  reqOp := 0
  blkReq := ⟨0, 0, 0, 0⟩
  ioctlReq := ⟨0, 0, 0⟩

/-- A response frame.  `blk_resp.status` and `ioctl_resp.status` are the same word of the union.
SOURCE: include/tegra_virt_storage_spec.h:132-154, 222-229 -/
structure VsResponse where
  reqId : U32
  status : ℤ
  respStatus : ℤ
  numBlks : U32
deriving DecidableEq, Repr

/-- SOURCE: include/tegra_virt_storage_spec.h:162-178 -/
structure VsBlkDevConfig where
  hardblkSize : U32
  maxReadBlksPerIo : U32
  maxWriteBlksPerIo : U32
  reqOpsSupported : U32
  numBlks : U64
  useVmAddress : U32
deriving DecidableEq, Repr

/-- SOURCE: include/tegra_virt_storage_spec.h:207-218 -/
structure VsConfigInfo where
  blkConfig : VsBlkDevConfig
  physDev : U32
deriving DecidableEq, Repr

/-- `req_ops_supported & flag` -/
def VsConfigInfo.supports (config : VsConfigInfo) (flag : U32) : Bool :=
  config.blkConfig.reqOpsSupported &&& flag ≠ 0

/-! ## The device -/

/-- `mempool_virt` is the shared buffer plus `mempool_offset`.  A scatter list is known by a number.
SOURCE: tegra_vblk.h:49-64 -/
structure VscRequest where
  vsReq : VsRequest
  req : Option Request
  ioctlReq : Option VblkIoctlReq
  mempoolOffset : U32
  mempoolLen : U32
  id : U32
  vblkdev : Bool
  sgLst : Option ℕ
deriving DecidableEq, Repr

def VscRequest.zero : VscRequest where
  vsReq := VsRequest.zero
  req := none
  ioctlReq := none
  mempoolOffset := 0
  mempoolLen := 0
  id := 0
  vblkdev := false
  sgLst := none

inductive VblkQueueState where
  | unknown
  | suspended
  | active
deriving DecidableEq, Repr

/-- `queue` says whether the pointer is set, `req_queue_empty` counts its completions, and `sgAllocs`
the scatter lists that were allocated.
SOURCE: tegra_vblk.h:75-118 -/
structure VblkDev where
  config : VsConfigInfo
  size : U64
  queue : Bool
  reqList : List Request
  sharedBuffer : ℕ → U8
  reqs : ℕ → VscRequest
  pendingReqs : ℕ → Bool
  inflightReqs : U32
  inflightIoctlReqs : U32
  maxRequests : U32
  maxIoctlRequests : U32
  hsierrorStatus : ℤ
  queueState : VblkQueueState
  reqQueueEmpty : ℕ
  sgAllocs : ℕ

/-- What the driver does outside of the device. -/
inductive VblkEffect where
  /-- `blk_mq_end_request` -/
  | ended (tag : ℕ) (status : BlkStatus)
  /-- The channel has accepted a frame for a request. -/
  | sent (req : Request) (frame : VsRequest)
  /-- A response was read from the channel. -/
  | answered (resp : VsResponse)
  /-- The segments of a request were written. -/
  | filled (tag : ℕ) (segments : List (List U8))
  /-- The status and the buffer of an ioctl were written. -/
  | ioctlFilled (tag : ℕ) (status : ℤ) (buf : List U8)
  /-- `dma_map_sg`, `dma_unmap_sg`, `devm_kfree` -/
  | mapped (sg : ℕ)
  | unmapped (sg : ℕ)
  | freed (sg : ℕ)
deriving DecidableEq, Repr

/-! ## Setting up the device -/

/-- The pool is reserved for an eMMC device, and for a UFS device with pass-through.
SOURCE: tegra_hv_vblk.c:1039-1041 -/
def usesMempool (config : VsConfigInfo) : Bool :=
  (config.blkConfig.useVmAddress = 1 && config.supports VS_BLK_IOCTL_OP_F) ||
    config.blkConfig.useVmAddress = 0

/-- SOURCE: tegra_hv_vblk.c:1029-1030 -/
def maxIoBytes (config : VsConfigInfo) : U32 :=
  config.blkConfig.hardblkSize * config.blkConfig.maxReadBlksPerIo

/-- `max_requests` and `max_ioctl_requests`, from the frames of the channel and the size of the pool.
SOURCE: tegra_hv_vblk.c:1071-1082, 1095-1096 -/
def requestLimits (config : VsConfigInfo) (nframes : U32) (ivmSize : U64) : U32 × U32 :=
  if config.blkConfig.useVmAddress = 1 then
    let ioctls : U32 := (ivmSize / UFS_IOCTL_MAX_SIZE_SUPPORTED.setWidth 64).setWidth 32
    (if MAX_VSC_REQS < nframes then MAX_VSC_REQS else nframes,
      if !config.supports VS_BLK_IOCTL_OP_F then 0
      else if MAX_VSC_REQS < ioctls then MAX_VSC_REQS else ioctls)
  else
    let requests : U32 := (ivmSize / (maxIoBytes config).setWidth 64).setWidth 32
    (if MAX_VSC_REQS < requests then MAX_VSC_REQS else requests, requests)

/-- SOURCE: tegra_hv_vblk.c:1143-1153 -/
def slotOffset (config : VsConfigInfo) (maxIoctlRequests reqId : U32) : U32 :=
  if config.blkConfig.useVmAddress = 0 then reqId * maxIoBytes config
  else if config.supports VS_BLK_IOCTL_OP_F then
    reqId % maxIoctlRequests * UFS_IOCTL_MAX_SIZE_SUPPORTED
  else 0

/-- SOURCE: tegra_hv_vblk.c:1141-1157 -/
def setupSlot (config : VsConfigInfo) (maxIoctlRequests reqId : U32) : VscRequest :=
  { VscRequest.zero with
    mempoolOffset := slotOffset config maxIoctlRequests reqId
    mempoolLen := maxIoBytes config
    id := reqId
    vblkdev := true }

/-- The device that is set up, from the answer of the server, the frames of the channel, and the size
and the bytes of the pool where one could be reserved and mapped.  The calls of the block layer succeed.
SOURCE: tegra_hv_vblk.c:969-1166, 1410-1425 -/
def setupDevice (config : VsConfigInfo) (nframes : U32) (ivmk : Option (U64 × (ℕ → U8))) :
    Option VblkDev :=
  if config.blkConfig.maxReadBlksPerIo ≠ config.blkConfig.maxWriteBlksPerIo then none
  else if maxIoBytes config = 0 then none
  else if usesMempool config && ivmk.isNone then none
  -- No pool was reserved, and its size would be read through a null pointer.
  else if !usesMempool config && config.blkConfig.useVmAddress ≠ 1 then none
  else
    let ivmSize := (ivmk.map Prod.fst).getD 0
    let (maxRequests, maxIoctlRequests) := requestLimits config nframes ivmSize
    if nframes < maxRequests && config.supports
        (VS_BLK_READ_OP_F ||| VS_BLK_WRITE_OP_F ||| VS_BLK_IOCTL_OP_F) then none
    else if maxRequests = 0 then none
    else some {
      config := config
      size := config.blkConfig.numBlks * config.blkConfig.hardblkSize.setWidth 64
      queue := true
      reqList := []
      sharedBuffer := (ivmk.map Prod.snd).getD fun _ => 0
      reqs := fun i =>
        if i < maxRequests.toNat then setupSlot config maxIoctlRequests (BitVec.ofNat 32 i)
        else VscRequest.zero
      pendingReqs := fun _ => false
      inflightReqs := 0
      inflightIoctlReqs := 0
      maxRequests := maxRequests
      maxIoctlRequests := maxIoctlRequests
      hsierrorStatus := 0
      queueState := .active
      reqQueueEmpty := 0
      sgAllocs := 0 }

/-! ## Slots -/

/-- The first of `n` bits that is clear, and `n` if all are set. -/
def findFirstZeroBit (bits : ℕ → Bool) (n : ℕ) : ℕ := ((List.range n).find? fun i => !bits i).getD n

/-- The first free slot is reserved.
SOURCE: tegra_hv_vblk.c:73-80 -/
def vblkReserve (dev : VblkDev) : Option ℕ × VblkDev :=
  let bit := findFirstZeroBit dev.pendingReqs dev.maxRequests.toNat
  if bit < dev.maxRequests.toNat then
    let req := dev.reqs bit
    (some bit, { dev with
      reqs := update dev.reqs bit
        { req with vsReq := { req.vsReq with reqId := BitVec.ofNat 32 bit } }
      pendingReqs := update dev.pendingReqs bit true
      inflightReqs := dev.inflightReqs + 1 })
  else (none, dev)

/-- SOURCE: tegra_hv_vblk.c:65-84 -/
def vblkGetReq (dev : VblkDev) : Option ℕ × VblkDev :=
  if dev.queueState ≠ .active then (none, dev) else vblkReserve dev

/-- SOURCE: tegra_hv_vblk.c:86-104 -/
def vblkGetReqBySrNum (dev : VblkDev) (num : U32) : Option ℕ :=
  if dev.maxRequests ≤ num then none
  else if !dev.pendingReqs (dev.reqs num.toNat).id.toNat then none
  else some num.toNat

/-- What is checked of a slot before it is freed.
SOURCE: tegra_hv_vblk.c:113-136 -/
def vblkPutCheck (dev : VblkDev) (slot : ℕ) : Bool :=
  let req := dev.reqs slot
  if !req.vblkdev then false
  else if dev.maxRequests ≤ req.id then false
  else if slot ≠ req.id.toNat then false
  else dev.pendingReqs req.id.toNat

/-- SOURCE: tegra_hv_vblk.c:138-142 -/
def vblkRelease (dev : VblkDev) (slot : ℕ) : VblkDev :=
  let req := dev.reqs slot
  { dev with
    pendingReqs := update dev.pendingReqs req.id.toNat false
    reqs := update dev.reqs slot { req with vsReq := VsRequest.zero, req := none }
    inflightReqs := dev.inflightReqs - 1 }

/-- SOURCE: tegra_hv_vblk.c:144-145 -/
def vblkDrained (dev : VblkDev) : Bool := dev.inflightReqs = 0 && dev.queueState = .suspended

/-- `complete(&vblkdev->req_queue_empty)`
SOURCE: tegra_hv_vblk.c:146, 1517 -/
def vblkSignal (dev : VblkDev) : VblkDev := { dev with reqQueueEmpty := dev.reqQueueEmpty + 1 }

/-- SOURCE: tegra_hv_vblk.c:109-150 -/
def vblkPutReq (dev : VblkDev) (slot : ℕ) : VblkDev :=
  if !vblkPutCheck dev slot then dev
  else if vblkDrained (vblkRelease dev slot) then vblkSignal (vblkRelease dev slot)
  else vblkRelease dev slot

/-- SOURCE: tegra_hv_vblk.c:228-237 -/
def reqErrorHandler (breq : Request) : VblkEffect := .ended breq.tag .ioerr

/-! ## Copies between the pool and the segments -/

/-- The bytes of the pool are copied into the segments, up to `limit` bytes in all.
SOURCE: tegra_hv_vblk.c:264-287 -/
def copyToSegments (mem : ℕ → U8) (offset limit : ℕ) : ℕ → List (List U8) → List (List U8)
  | _, [] => []
  | totalSize, seg :: rest =>
    let size := if limit < totalSize + seg.length then limit - totalSize else seg.length
    let seg' := slice mem (offset + totalSize) size ++ seg.drop size
    if totalSize + size = limit then seg' :: rest
    else seg' :: copyToSegments mem offset limit (totalSize + size) rest

/-- The segments are copied to the pool, up to `limit` bytes in all.
SOURCE: tegra_hv_vblk.c:607-636 -/
def copyFromSegments (offset limit : ℕ) : ℕ → List (List U8) → (ℕ → U8) → ℕ → U8
  | _, [], mem => mem
  | totalSize, seg :: rest, mem =>
    let size := if limit < totalSize + seg.length then limit - totalSize else seg.length
    let mem' := blit mem (offset + totalSize) size fun j => seg.getD j 0
    if totalSize + size = limit then mem'
    else copyFromSegments offset limit (totalSize + size) rest mem'

/-! ## Responses -/

/-- `num_blks * hardblk_size`, a product of 32 bits. -/
def transferBytes (dev : VblkDev) (blkReq : VsBlkRequest) : ℕ :=
  (blkReq.numBlks * dev.config.blkConfig.hardblkSize).toNat

/-- SOURCE: tegra_hv_vblk.c:251-262 -/
def nonIoctlRespFails (bioReq : Request) (blkReq : VsBlkRequest) (resp : VsResponse) : Bool :=
  resp.respStatus ≠ 0 || (bioReq.op ≠ .flush && blkReq.numBlks ≠ resp.numBlks)

/-- SOURCE: tegra_hv_vblk.c:239-313 -/
def handleNonIoctlResp (dev : VblkDev) (vscReq : VscRequest) (bioReq : Request) (resp : VsResponse) :
    List VblkEffect :=
  let blkReq := vscReq.vsReq.blkReq
  let fails := nonIoctlRespFails bioReq blkReq resp
  (if !fails && bioReq.op = .read && dev.config.blkConfig.useVmAddress = 0 then
    [.filled bioReq.tag (copyToSegments dev.sharedBuffer vscReq.mempoolOffset.toNat
      (transferBytes dev blkReq) 0 bioReq.segments)]
  else []) ++
  (if dev.config.blkConfig.useVmAddress ≠ 0 && bioReq.isRw then
    (vscReq.sgLst.elim [] fun sg => [.unmapped sg, .freed sg])
  else []) ++
  [if fails then reqErrorHandler bioReq else .ended bioReq.tag .ok]

/-- SOURCE: tegra_hv_ioctl.c:22-40 -/
def vblkCompleteIoctlReq (dev : VblkDev) (vscReq : VscRequest) (bioReq : Request) (status : ℤ) :
    List VblkEffect :=
  match vscReq.ioctlReq with
  | none => []
  | some ioctlReq => [.ioctlFilled bioReq.tag status
      (slice dev.sharedBuffer vscReq.mempoolOffset.toNat ioctlReq.ioctlLen.toNat)]

/-- A response to the request of a slot.
SOURCE: tegra_hv_vblk.c:366-399 -/
def completeRequest (dev : VblkDev) (vscReq : VscRequest) (resp : VsResponse) :
    VblkDev × List VblkEffect :=
  let ioctlOp := dev.config.supports VS_BLK_IOCTL_OP_F
  let lessIoctl : VblkDev := { dev with inflightIoctlReqs := dev.inflightIoctlReqs - 1 }
  match vscReq.req with
  | none => (dev, [])
  | some bioReq =>
    if resp.status = 0 then
      if ioctlOp && bioReq.op = .drvIn then
        (lessIoctl, vblkCompleteIoctlReq dev vscReq bioReq resp.respStatus ++ [.ended bioReq.tag .ok])
      else if bioReq.op ≠ .drvIn then (dev, handleNonIoctlResp dev vscReq bioReq resp)
      else (dev, [])
    else
      -- The inner branch ends the request, and what follows it ends the request once more.
      let (dev, inner) : VblkDev × List VblkEffect :=
        if !ioctlOp && bioReq.op = .drvIn then (dev, [])
        else if ioctlOp && bioReq.op = .drvIn then (lessIoctl, [reqErrorHandler bioReq])
        else (dev, [reqErrorHandler bioReq])
      (if bioReq.op = .drvIn then { dev with inflightIoctlReqs := dev.inflightIoctlReqs - 1 } else dev,
        inner ++ [reqErrorHandler bioReq])

/-- A response that was read, and the slot that is to be freed.  The flag is `CONFIG_TEGRA_HSIERRRPTINJ`.
SOURCE: tegra_hv_vblk.c:340-399 -/
def completeResponse (hsiErrRptInj : Bool) (dev : VblkDev) (resp : VsResponse) :
    Option ℕ × VblkDev × List VblkEffect :=
  if hsiErrRptInj && resp.reqId = HSI_ERROR_MAGIC then
    (none, { dev with hsierrorStatus := resp.respStatus }, [.answered resp])
  else
    match vblkGetReqBySrNum dev resp.reqId with
    | none => (none, dev, [.answered resp])
    | some slot =>
      let (dev', effects) := completeRequest dev (dev.reqs slot) resp
      (some slot, dev', .answered resp :: effects)

/-- One call, with the response that it reads, if there is one.
SOURCE: tegra_hv_vblk.c:319-409 -/
def completeBioReq (hsiErrRptInj : Bool) (dev : VblkDev) (read : Option VsResponse) :
    Bool × VblkDev × List VblkEffect :=
  match read with
  | none => (false, dev, [])
  | some resp =>
    match completeResponse hsiErrRptInj dev resp with
    | (none, dev, effects) => (true, dev, effects)
    | (some slot, dev, effects) => (true, vblkPutReq dev slot, effects)

/-! ## Submitting a request -/

/-- SOURCE: tegra_hv_vblk.c:411-455 -/
def bioReqSanityCheck (dev : VblkDev) (bioReq : Request) (mempoolLen : U32) : Bool :=
  let blk := dev.config.blkConfig
  let reqBytes : U64 := bioReq.dataLen.setWidth 64
  if dev.size ≤ bioReq.startOffset || dev.size < reqBytes ||
      dev.size < bioReq.startOffset + reqBytes then false
  else if bioReq.startOffset % blk.hardblkSize.setWidth 64 ≠ 0 then false
  else if reqBytes % blk.hardblkSize.setWidth 64 ≠ 0 then false
  else if blk.useVmAddress = 0 && bioReq.op ≠ .discard && bioReq.op ≠ .secureErase &&
      mempoolLen.setWidth 64 < reqBytes then false
  else true

/-- SOURCE: tegra_hv_vblk.c:457-472 -/
def cleanupOpSupported (config : VsConfigInfo) : U32 :=
  let ops := config.blkConfig.reqOpsSupported &&& DISCARD_ERASE_SECERASE_MASK
  if ops = VS_BLK_SECURE_ERASE_OP_F then VS_BLK_SECURE_ERASE
  else if ops = VS_BLK_ERASE_OP_F then VS_BLK_ERASE
  else if ops = VS_BLK_DISCARD_OP_F then VS_BLK_DISCARD
  else VS_UNKNOWN_BLK_CMD

/-- The operation that a frame asks for, or nothing where the request is refused.
SOURCE: tegra_hv_vblk.c:551-580 -/
def blkCmdOp (config : VsConfigInfo) (op : ReqOp) : Option U32 :=
  let cleanup (other : U32) : Option U32 :=
    if config.physDev = VSC_DEV_UFS then
      if cleanupOpSupported config = VS_UNKNOWN_BLK_CMD then none else some (cleanupOpSupported config)
    else some other
  match op with
  | .read => some VS_BLK_READ
  | .write => some VS_BLK_WRITE
  | .flush => some VS_BLK_FLUSH
  | .discard => cleanup VS_BLK_DISCARD
  | .secureErase => cleanup VS_BLK_SECURE_ERASE
  | .drvIn | .other => none

/-- SOURCE: tegra_hv_vblk.c:588-590 -/
def blkOffset (config : VsConfigInfo) (bioReq : Request) : U64 :=
  bioReq.startOffset / config.blkConfig.hardblkSize.setWidth 64

/-- SOURCE: tegra_hv_vblk.c:591-593 -/
def blkCount (config : VsConfigInfo) (bioReq : Request) : U32 :=
  bioReq.sectors * SECTOR_SIZE / config.blkConfig.hardblkSize

/-- What the calls outside of the driver return: whether a frame can be written, whether a scatter list
can be allocated, the address that it is mapped at, and the result of the write. -/
structure VblkSubmitEnv where
  canWrite : Bool
  sgAlloc : Bool
  sgMap : Option U64
  ivcWrite : ℤ
deriving DecidableEq, Repr

/-- The scatter list of a request that transfers data is mapped.
SOURCE: tegra_hv_vblk.c:523-544 -/
def usesSg (config : VsConfigInfo) (bioReq : Request) : Bool :=
  config.blkConfig.useVmAddress ≠ 0 && bioReq.isRw

/-- The first entry is taken from the list, unless it is an ioctl and too many are under way.
SOURCE: tegra_hv_vblk.c:503-518 -/
def ioctlLimited (dev : VblkDev) (bioReq : Request) : Bool :=
  dev.config.supports VS_BLK_IOCTL_OP_F && bioReq.op = .drvIn &&
    dev.config.blkConfig.useVmAddress ≠ 0 && dev.maxIoctlRequests ≤ dev.inflightIoctlReqs

def takeEntry (dev : VblkDev) : Option (Request × VblkDev) :=
  match dev.reqList with
  | [] => none
  | bioReq :: rest =>
    if ioctlLimited dev bioReq then none else some (bioReq, { dev with reqList := rest })

/-- SOURCE: tegra_hv_vblk.c:523-544 -/
def mapSg (env : VblkSubmitEnv) (dev : VblkDev) (slot : ℕ) : Option U64 × VblkDev × List VblkEffect :=
  if !env.sgAlloc then
    (none, { dev with reqs := update dev.reqs slot { dev.reqs slot with sgLst := none } }, [])
  else
    let sg := dev.sgAllocs
    let dev : VblkDev := { dev with
      reqs := update dev.reqs slot { dev.reqs slot with sgLst := some sg }
      sgAllocs := sg + 1 }
    match env.sgMap with
    | none => (none, dev, [])
    | some addr => (some addr, dev, [.mapped sg])

/-- The frame of a request that is no ioctl, and the data of a write.
SOURCE: tegra_hv_vblk.c:551-636 -/
def fillBlkReq (dev : VblkDev) (slot : ℕ) (bioReq : Request) (sgDmaAddr : U64) : Option VblkDev :=
  let req := dev.reqs slot
  let blk := dev.config.blkConfig
  match blkCmdOp dev.config bioReq.op with
  | none => none
  | some op =>
    if bioReq.op = .flush then
      some { dev with reqs := update dev.reqs slot { req with vsReq := { req.vsReq with
        reqOp := op
        blkReq := { req.vsReq.blkReq with blkOffset := 0, numBlks := blk.numBlks.setWidth 32 } } } }
    else if !bioReqSanityCheck dev bioReq req.mempoolLen then none
    else
      let blkReq : VsBlkRequest := { req.vsReq.blkReq with
        blkOffset := blkOffset dev.config bioReq
        numBlks := blkCount dev.config bioReq
        dataOffset := if blk.useVmAddress = 0 then req.mempoolOffset else 0
        iovaAddr := if blk.useVmAddress = 0 then req.vsReq.blkReq.iovaAddr else sgDmaAddr }
      some { dev with
        reqs := update dev.reqs slot { req with vsReq := { req.vsReq with
          reqOp := op
          blkReq := blkReq } }
        sharedBuffer :=
          if bioReq.op = .write && blk.useVmAddress = 0 then
            copyFromSegments req.mempoolOffset.toNat (transferBytes dev blkReq) 0 bioReq.segments
              dev.sharedBuffer
          else dev.sharedBuffer }

/-- What the preparation of an ioctl checks; the buffer is that of the ioctl.
SOURCE: tegra_hv_ioctl.c:49-67 -/
def ioctlReqCheck (ioctlReq : Option VblkIoctlReq) (mempoolLen : U32) :
    Option (VblkIoctlReq × List U8) :=
  ioctlReq.bind fun ioctl =>
    if mempoolLen < ioctl.ioctlLen then none else ioctl.ioctlBuf.map fun buf => (ioctl, buf)

/-- SOURCE: tegra_hv_ioctl.c:42-79 -/
def vblkPrepIoctlReq (dev : VblkDev) (slot : ℕ) (ioctlReq : Option VblkIoctlReq) : Option VblkDev :=
  let req := dev.reqs slot
  (ioctlReqCheck ioctlReq req.mempoolLen).map fun (ioctl, buf) => { dev with
    reqs := update dev.reqs slot { req with
      vsReq := { req.vsReq with
        reqOp := VS_BLK_IOCTL
        ioctlReq := ⟨ioctl.ioctlId, ioctl.ioctlLen, req.mempoolOffset⟩ }
      ioctlReq := some ioctl }
    sharedBuffer := blit dev.sharedBuffer req.mempoolOffset.toNat ioctl.ioctlLen.toNat
      fun j => buf.getD j 0 }

/-- The frame of an ioctl, which is counted.
SOURCE: tegra_hv_vblk.c:637-660 -/
def fillIoctlReq (dev : VblkDev) (slot : ℕ) (bioReq : Request) : Option VblkDev :=
  if !dev.config.supports VS_BLK_IOCTL_OP_F then none
  else
    (vblkPrepIoctlReq dev slot bioReq.completionData).map fun dev =>
      { dev with inflightIoctlReqs := dev.inflightIoctlReqs + 1 }

/-- SOURCE: tegra_hv_vblk.c:546-661 -/
def fillVsReq (dev : VblkDev) (slot : ℕ) (bioReq : Request) (sgDmaAddr : U64) : Option VblkDev :=
  let req := dev.reqs slot
  let dev : VblkDev := { dev with reqs := update dev.reqs slot { req with
    req := some bioReq
    vsReq := { req.vsReq with type := VS_DATA_REQ } } }
  if bioReq.op ≠ .drvIn then fillBlkReq dev slot bioReq sgDmaAddr else fillIoctlReq dev slot bioReq

/-- The scatter list, the frame and the write of a request that was taken from the list.  The result is
false where the source goes to its exit.
SOURCE: tegra_hv_vblk.c:523-671 -/
def submitFill (env : VblkSubmitEnv) (dev : VblkDev) (slot : ℕ) (bioReq : Request) :
    Bool × VblkDev × List VblkEffect :=
  let (sgDmaAddr, dev, effects) : Option U64 × VblkDev × List VblkEffect :=
    if usesSg dev.config bioReq then mapSg env dev slot else (some 0, dev, [])
  match sgDmaAddr with
  | none => (false, dev, effects)
  | some addr =>
    match fillVsReq dev slot bioReq addr with
    | none => (false, dev, effects)
    | some dev =>
      -- A negative result passes for a frame that was written.
      if env.ivcWrite = 0 then (false, dev, effects)
      else (true, dev, effects ++
        if 0 < env.ivcWrite then [.sent bioReq (dev.reqs slot).vsReq] else [])

/-- A request that was taken from the list, in the slot that was reserved for it.
SOURCE: tegra_hv_vblk.c:523-681 -/
def submitTaken (env : VblkSubmitEnv) (dev : VblkDev) (slot : ℕ) (bioReq : Request) :
    Bool × VblkDev × List VblkEffect :=
  match submitFill env dev slot bioReq with
  | (false, dev, effects) => (true, vblkPutReq dev slot, effects ++ [reqErrorHandler bioReq])
  | (true, dev, effects) => (true, dev, effects)

/-- SOURCE: tegra_hv_vblk.c:478-684 -/
def submitBioReq (env : VblkSubmitEnv) (dev : VblkDev) : Bool × VblkDev × List VblkEffect :=
  if !env.canWrite then (false, dev, [])
  else if !dev.queue then (false, dev, [])
  else
    match vblkGetReq dev with
    | (none, dev) => (false, dev, [])
    | (some slot, dev) =>
      match takeEntry dev with
      | none => (false, vblkPutReq dev slot, [])
      | some (bioReq, dev) => submitTaken env dev slot bioReq

/-- The request is put on the list, if the entry for it can be allocated.
SOURCE: tegra_hv_vblk.c:711-739 -/
def vblkRequest (dev : VblkDev) (req : Request) (alloc : Bool) : Bool × VblkDev :=
  if alloc then (true, { dev with reqList := dev.reqList ++ [req] }) else (false, dev)

/-! ## Suspending and resuming the device -/

/-- The state that `vblk_get_req` and `vblk_put_req` read.
SOURCE: tegra_hv_vblk.c:1513, 1536 -/
def vblkSetQueueState (dev : VblkDev) (queueState : VblkQueueState) : VblkDev :=
  { dev with queueState := queueState }

/-- SOURCE: tegra_hv_vblk.c:1515-1517 -/
def vblkSuspendCheck (dev : VblkDev) : VblkDev :=
  if dev.inflightReqs = 0 then vblkSignal dev else dev

/-- `wait_for_completion(&vblkdev->req_queue_empty)`
SOURCE: tegra_hv_vblk.c:1520 -/
def vblkWait (dev : VblkDev) : Option VblkDev :=
  if 0 < dev.reqQueueEmpty then some { dev with reqQueueEmpty := dev.reqQueueEmpty - 1 } else none

/-- `reinit_completion(&vblkdev->req_queue_empty)`
SOURCE: tegra_hv_vblk.c:1537 -/
def vblkReinit (dev : VblkDev) : VblkDev := { dev with reqQueueEmpty := 0 }

end NvidiaOot.Program
