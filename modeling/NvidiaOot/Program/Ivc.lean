import NvidiaOot.Library.SharedProgram
import NvidiaOot.Library.ByteArea
import NvidiaOot.Program.Types

/-!
# Inter-VM communication channels

The functions of drivers/platform/tegra/tegra-ivc.c as programs over the state that
one endpoint works on: its own `struct ivc`, the two channel headers in shared memory
and the two frame areas behind them.  Every `READ_ONCE`, `WRITE_ONCE`, plain access to
a header field and `memcpy` is one access of the program; the fields of `struct ivc`
are private to the endpoint.

Memory barriers and the cache maintenance of `ivc_invalidate_counter`,
`ivc_flush_counter`, `ivc_invalidate_frame` and `ivc_flush_frame` have no effect on the
coherent, sequentially consistent memory of the model; the address computations that
the last two make, which can reach `BUG()`, are kept.

A frame pointer is an offset into the frame area `(void *)(ch + 1)`.
-/

namespace NvidiaOot.Program

open Library

/-! ## Data -/

/-- `enum ivc_state`; the shared field is a plain `uint32_t`.
SOURCE: tegra-ivc.c:56-85 -/
def ivcStateEstablished : U32 := 0
@[inherit_doc ivcStateEstablished] def ivcStateSync : U32 := 1
@[inherit_doc ivcStateEstablished] def ivcStateAck : U32 := 2

/-- `struct ivc_channel_header`: the first two fields are owned by the transmitting end,
the last one by the receiving end.
SOURCE: tegra-ivc.c:87-108 -/
structure IvcChannelHeader where
  wCount : U32
  state : U32
  rCount : U32
  deriving DecidableEq

/-- `IVC_ALIGN`, `sizeof(struct ivc_channel_header)` and the offsets of its fields.
SOURCE: tegra-ivc-instance.h:11, tegra-ivc.c:94-108 -/
def ivcAlign : ℕ := 64
@[inherit_doc ivcAlign] def sizeofIvcChannelHeader : ℕ := 128
@[inherit_doc ivcAlign] def offsetofWCount : ℕ := 0
@[inherit_doc ivcAlign] def offsetofRCount : ℕ := 64

/-- `struct ivc`, the part of an endpoint that only this endpoint touches.
SOURCE: tegra-ivc-instance.h:15-24 -/
structure Ivc where
  rxChannel : U64
  txChannel : U64
  wPos : U32
  rPos : U32
  nframes : U32
  frameSize : U32
  peerDevice : Bool
  rxHandle : U64
  txHandle : U64
  deriving DecidableEq

/-- The two channels of an endpoint: the one it receives from and the one it transmits to. -/
inductive Side where
  | rx
  | tx
  deriving DecidableEq

/-- The fields of a channel header. -/
inductive Field where
  | wCount
  | state
  | rCount
  deriving DecidableEq

/-- What one endpoint works on: its `struct ivc`, both headers, both frame areas, and how
often it called `notify`. -/
structure IvcWorld where
  ivc : Ivc
  rx : IvcChannelHeader
  tx : IvcChannelHeader
  rxFrames : ℕ → U8
  txFrames : ℕ → U8
  notified : ℕ

/-- The accesses of an endpoint that others can see. -/
inductive IvcEvent where
  | load (ch : Side) (f : Field) (v : U32)
  | store (ch : Side) (f : Field) (v : U32)
  | copyOut (off len : ℕ)
  | copyIn (off len : ℕ)
  | notify
  deriving DecidableEq

/-- The places where the code reaches `BUG()`. -/
inductive IvcBug where
  | framePointer
  | frameHandle
  | safeAddU64
  | safeMultU32
  | safeAddU32
  | safeSubtractU32
  | noBuffer
  deriving DecidableEq

/-- A program of the driver. -/
abbrev IvcProg := Prog IvcWorld IvcEvent IvcBug

/-- The header of a side. -/
def IvcWorld.header (s : IvcWorld) : Side → IvcChannelHeader
  | .rx => s.rx
  | .tx => s.tx

/-- A field of a header. -/
def IvcChannelHeader.get (h : IvcChannelHeader) : Field → U32
  | .wCount => h.wCount
  | .state => h.state
  | .rCount => h.rCount

/-- A header with one field changed. -/
def IvcChannelHeader.set (h : IvcChannelHeader) (v : U32) : Field → IvcChannelHeader
  | .wCount => { h with wCount := v }
  | .state => { h with state := v }
  | .rCount => { h with rCount := v }

/-- The state with one header field changed. -/
def IvcWorld.store (s : IvcWorld) (ch : Side) (f : Field) (v : U32) : IvcWorld :=
  match ch with
  | .rx => { s with rx := s.rx.set v f }
  | .tx => { s with tx := s.tx.set v f }

/-! ## Single accesses -/

/-- `READ_ONCE(ch->f)` and plain loads of a header field. -/
def readOnce (ch : Side) (f : Field) : IvcProg U32 :=
  .act (fun s => (.load ch f ((s.header ch).get f), s)) fun s => .ret ((s.header ch).get f)

/-- `WRITE_ONCE(ch->f, v)` and plain stores to a header field. -/
def writeOnce (ch : Side) (f : Field) (v : U32) : IvcProg Unit :=
  .act (fun s => (.store ch f v, s.store ch f v)) fun _ => .ret ()

/-- Read the endpoint's own `struct ivc`. -/
def getIvc : IvcProg Ivc := .own id fun s => .ret s.ivc

/-- Assign `ivc->w_pos`. -/
def setWPos (v : U32) : IvcProg Unit :=
  .own (fun s => { s with ivc := { s.ivc with wPos := v } }) fun _ => .ret ()

/-- Assign `ivc->r_pos`. -/
def setRPos (v : U32) : IvcProg Unit :=
  .own (fun s => { s with ivc := { s.ivc with rPos := v } }) fun _ => .ret ()

/-- `memcpy` of `len` bytes out of the receive frame area. -/
def copyFromFrame (off len : ℕ) : IvcProg (List U8) :=
  .act (fun s => (.copyOut off len, s)) fun s => .ret (slice s.rxFrames off len)

/-- `memcpy` or `memset` of `len` bytes into the transmit frame area. -/
def copyToFrame (off len : ℕ) (src : ℕ → U8) : IvcProg Unit :=
  .act (fun s => (.copyIn off len, { s with txFrames := blit s.txFrames off len src }))
    fun _ => .ret ()

/-- `ivc->notify(ivc)` -/
def notify : IvcProg Unit :=
  .act (fun s => (.notify, { s with notified := s.notified + 1 })) fun _ => .ret ()

/-! ## Checked arithmetic -/

/-- SOURCE: tegra-ivc.c:110-113 -/
def isU32SubtractionSafe (a b : U32) : Bool := a ≥ b

/-- SOURCE: tegra-ivc.c:115-121 -/
def safeSubtractU32 (a b : U32) : IvcProg U32 :=
  if !isU32SubtractionSafe a b then .bug .safeSubtractU32 else pure (a - b)

/-- `ULLONG_MAX - a >= b`
SOURCE: tegra-ivc.c:123-126 -/
def isU64AdditionSafe (a b : U64) : Bool := BitVec.allOnes 64 - a ≥ b

/-- SOURCE: tegra-ivc.c:128-134 -/
def safeAddU64 (a b : U64) : IvcProg U64 :=
  if !isU64AdditionSafe a b then .bug .safeAddU64 else pure (a + b)

/-- `UINT_MAX - a >= b`
SOURCE: tegra-ivc.c:136-139 -/
def isU32AdditionSafe (a b : U32) : Bool := BitVec.allOnes 32 - a ≥ b

/-- SOURCE: tegra-ivc.c:141-147 -/
def safeAddU32 (a b : U32) : IvcProg U32 :=
  if !isU32AdditionSafe a b then .bug .safeAddU32 else pure (a + b)

/-- SOURCE: tegra-ivc.c:149-154 -/
def isU32U32U32MultiplicationSafe (a b : U32) : Bool :=
  if a = 0 ∨ b = 0 then true else BitVec.allOnes 32 / b ≥ a

/-- SOURCE: tegra-ivc.c:156-161 -/
def isU32U32U64MultiplicationSafe (a b : U32) : Bool :=
  if a = 0 ∨ b = 0 then true else BitVec.allOnes 64 / b.setWidth 64 ≥ a.setWidth 64

/-- SOURCE: tegra-ivc.c:163-169 -/
def safeMultU32U32U64 (a b : U32) : IvcProg U64 :=
  if !isU32U32U64MultiplicationSafe a b then .bug .safeMultU32
  else pure (a.setWidth 64 * b.setWidth 64)

/-! ## Counters and positions -/

/-- SOURCE: tegra-ivc.c:188-213 -/
def ivcChannelEmpty (ch : Side) : IvcProg Bool := do
  let wCount ← readOnce ch .wCount
  let rCount ← readOnce ch .rCount
  let ivc ← getIvc
  -- an over-full channel is reported as empty: the peer may be malicious
  if wCount - rCount > ivc.nframes then
    return true
  return wCount = rCount

/-- SOURCE: tegra-ivc.c:215-224 -/
def ivcChannelFull (ch : Side) : IvcProg Bool := do
  let wCount ← readOnce ch .wCount
  let rCount ← readOnce ch .rCount
  let ivc ← getIvc
  return wCount - rCount ≥ ivc.nframes

/-- SOURCE: tegra-ivc.c:226-236 -/
def ivcChannelAvailCount (ch : Side) : IvcProg U32 := do
  let wCount ← readOnce ch .wCount
  let rCount ← readOnce ch .rCount
  return wCount - rCount

/-- The test that decides on a notification, `ivc_channel_avail_count(ivc, ch) == count`.
SOURCE: tegra-ivc.c:423-424, 529-530, 593-594, 689-690 -/
def notifyIfAvailCount (ch : Side) (count : U32) : IvcProg Unit := do
  if (← ivcChannelAvailCount ch) = count then
    notify

/-- SOURCE: tegra-ivc.c:238-246 -/
def ivcAdvanceTx : IvcProg Unit := do
  let wCount ← readOnce .tx .wCount
  writeOnce .tx .wCount (wCount + 1)
  let ivc ← getIvc
  if ivc.wPos = ivc.nframes - 1 then
    setWPos 0
  else
    setWPos (ivc.wPos + 1)

/-- SOURCE: tegra-ivc.c:248-256 -/
def ivcAdvanceRx : IvcProg Unit := do
  let rCount ← readOnce .rx .rCount
  writeOnce .rx .rCount (rCount + 1)
  let ivc ← getIvc
  if ivc.rPos = ivc.nframes - 1 then
    setRPos 0
  else
    setRPos (ivc.rPos + 1)

/-- SOURCE: tegra-ivc.c:258-283 -/
def ivcCheckRead : IvcProg ℤ := do
  let state ← readOnce .tx .state
  if state ≠ ivcStateEstablished then
    return -eCONNRESET
  if !(← ivcChannelEmpty .rx) then
    return 0
  if ← ivcChannelEmpty .rx then
    return -eNOMEM
  return 0

/-- SOURCE: tegra-ivc.c:285-296 -/
def ivcCheckWrite : IvcProg ℤ := do
  let state ← readOnce .tx .state
  if state ≠ ivcStateEstablished then
    return -eCONNRESET
  if !(← ivcChannelFull .tx) then
    return 0
  if ← ivcChannelFull .tx then
    return -eNOMEM
  return 0

/-- SOURCE: tegra-ivc.c:319-327 -/
def tegraIvcTxFramesAvailable : IvcProg U32 := do
  let ivc ← getIvc
  let _ ← safeAddU32 (ivc.txHandle.setWidth 32) (BitVec.ofNat 32 offsetofRCount)
  let wCount ← readOnce .tx .wCount
  let rCount ← readOnce .tx .rCount
  let used ← safeSubtractU32 wCount rCount
  safeSubtractU32 ivc.nframes used

/-! ## Frames -/

/-- The offset of a frame in the frame area; the product is a 32-bit one.
SOURCE: tegra-ivc.c:330-335 -/
def ivcFramePointer (frame : U32) : IvcProg ℕ := do
  let ivc ← getIvc
  if frame ≥ ivc.nframes then
    .bug .framePointer
  else
    return (ivc.frameSize * frame).toNat

/-- SOURCE: tegra-ivc.c:337-345 -/
def ivcFrameHandle (channelHandle : U64) (frame : U32) : IvcProg U64 := do
  let ivc ← getIvc
  if !ivc.peerDevice then
    .bug .frameHandle
  else if frame ≥ ivc.nframes then
    .bug .frameHandle
  else do
    let base ← safeAddU64 channelHandle (BitVec.ofNat 64 sizeofIvcChannelHeader)
    let off ← safeMultU32U32U64 ivc.frameSize frame
    safeAddU64 base off

/-- SOURCE: tegra-ivc.c:347-355 -/
def ivcInvalidateFrame (channelHandle : U64) (frame : U32) (offset : U64) : IvcProg Unit := do
  let ivc ← getIvc
  if !ivc.peerDevice then
    return ()
  else do
    let handle ← ivcFrameHandle channelHandle frame
    let _ ← safeAddU64 handle offset
    return ()

/-- The same address computation as `ivc_invalidate_frame`.
SOURCE: tegra-ivc.c:357-366 -/
def ivcFlushFrame (channelHandle : U64) (frame : U32) (offset : U64) : IvcProg Unit :=
  ivcInvalidateFrame channelHandle frame offset

/-! ## Receiving -/

/-- The buffer arguments of the frame-copying functions: none, a kernel buffer, or a user
buffer together with whether the user copy faults.  No caller passes both. -/
inductive CopyBuffer where
  | none
  | kernel
  | user (faults : Bool)
  deriving DecidableEq

/-- The branches on `buf` and `user_buf` when a frame is read.
SOURCE: tegra-ivc.c:398-404 -/
def copyToBuffer (buf : CopyBuffer) (src len : ℕ) : IvcProg (List U8) :=
  match buf with
  | .none => .bug .noBuffer
  | _ => copyFromFrame src len

/-- The result code and the bytes that reach the caller's buffer.
SOURCE: tegra-ivc.c:368-427 -/
def ivcReadFrame (buf : CopyBuffer) (maxRead : U64) : IvcProg (ℤ × List U8) := do
  let ivc ← getIvc
  if maxRead > ivc.frameSize.setWidth 64 then
    return (-e2BIG, [])
  let result ← ivcCheckRead
  if result ≠ 0 then
    return (result, [])
  ivcInvalidateFrame ivc.rxHandle ivc.rPos 0
  let src ← ivcFramePointer ivc.rPos
  let data ← copyToBuffer buf src maxRead.toNat
  if buf = .user true then
    return (-eFAULT, [])
  ivcAdvanceRx
  notifyIfAvailCount .rx (ivc.nframes - 1)
  return (toInt32 maxRead, data)

/-- SOURCE: tegra-ivc.c:429-432 -/
def tegraIvcRead (maxRead : U64) : IvcProg (ℤ × List U8) := ivcReadFrame .kernel maxRead

/-- SOURCE: tegra-ivc.c:435-438 -/
def tegraIvcReadUser (faults : Bool) (maxRead : U64) : IvcProg (ℤ × List U8) :=
  ivcReadFrame (.user faults) maxRead

/-- SOURCE: tegra-ivc.c:442-471 -/
def tegraIvcReadPeek (off count : U64) : IvcProg (ℤ × List U8) := do
  if !isU64AdditionSafe off count then
    return (-eFAULT, [])
  let ivc ← getIvc
  if off > ivc.frameSize.setWidth 64 ∨ off + count > ivc.frameSize.setWidth 64 then
    return (-e2BIG, [])
  let result ← ivcCheckRead
  if result ≠ 0 then
    return (result, [])
  ivcInvalidateFrame ivc.rxHandle ivc.rPos off
  let src ← ivcFramePointer ivc.rPos
  let data ← copyFromFrame (src + off.toNat) count.toNat
  return (toInt32 count, data)

/-- `ERR_PTR(result)` or the offset of the frame.
SOURCE: tegra-ivc.c:475-490 -/
def tegraIvcReadGetNextFrame : IvcProg (Except ℤ ℕ) := do
  let result ← ivcCheckRead
  if result ≠ 0 then
    return .error result
  let ivc ← getIvc
  ivcInvalidateFrame ivc.rxHandle ivc.rPos 0
  let src ← ivcFramePointer ivc.rPos
  return .ok src

/-- SOURCE: tegra-ivc.c:493-533 -/
def tegraIvcReadAdvance : IvcProg ℤ := do
  let result ← ivcCheckRead
  if result ≠ 0 then
    return result
  let ivc ← getIvc
  if !isU64AdditionSafe ivc.rxHandle (BitVec.ofNat 64 offsetofRCount) then
    return -eFAULT
  if !isU64AdditionSafe ivc.rxHandle (BitVec.ofNat 64 offsetofWCount) then
    return -eFAULT
  if !isU32SubtractionSafe ivc.nframes 1 then
    return -eFAULT
  ivcAdvanceRx
  notifyIfAvailCount .rx (ivc.nframes - 1)
  return 0

/-! ## Transmitting -/

/-- The branches on `buf` and `user_buf` when a frame is written.
SOURCE: tegra-ivc.c:559-565 -/
def copyFromBuffer (buf : CopyBuffer) (p size : ℕ) (contents : ℕ → U8) : IvcProg Unit :=
  match buf with
  | .none => .bug .noBuffer
  | _ => copyToFrame p size contents

/-- `contents` is what the copy leaves in the first `size` bytes of the frame, also when a
user copy faults.
SOURCE: tegra-ivc.c:536-597 -/
def ivcWriteFrame (buf : CopyBuffer) (contents : ℕ → U8) (size : U64) : IvcProg ℤ := do
  let ivc ← getIvc
  if size > ivc.frameSize.setWidth 64 then
    return -e2BIG
  let result ← ivcCheckWrite
  if result ≠ 0 then
    return result
  let p ← ivcFramePointer ivc.wPos
  copyFromBuffer buf p size.toNat contents
  if buf = .user true then
    return -eFAULT
  copyToFrame (p + size.toNat) (ivc.frameSize.toNat - size.toNat) fun _ => 0
  ivcFlushFrame ivc.txHandle ivc.wPos 0
  ivcAdvanceTx
  notifyIfAvailCount .tx 1
  return toInt32 size

/-- SOURCE: tegra-ivc.c:599-602 -/
def tegraIvcWrite (contents : ℕ → U8) (size : U64) : IvcProg ℤ :=
  ivcWriteFrame .kernel contents size

/-- SOURCE: tegra-ivc.c:605-609 -/
def tegraIvcWriteUser (faults : Bool) (contents : ℕ → U8) (size : U64) : IvcProg ℤ :=
  ivcWriteFrame (.user faults) contents size

/-- SOURCE: tegra-ivc.c:613-638 -/
def tegraIvcWritePoke (contents : ℕ → U8) (off count : U64) : IvcProg ℤ := do
  if !isU64AdditionSafe off count then
    return -eFAULT
  if off.toNat > 2 ^ 32 - 1 ∨ count.toNat > 2 ^ 31 - 1 ∨ (off + count).toNat > 2 ^ 32 - 1 then
    return -eFAULT
  let ivc ← getIvc
  if off > ivc.frameSize.setWidth 64 ∨ off + count > ivc.frameSize.setWidth 64 then
    return -e2BIG
  let result ← ivcCheckWrite
  if result ≠ 0 then
    return result
  let dest ← ivcFramePointer ivc.wPos
  copyToFrame (dest + off.toNat) count.toNat contents
  return toInt32 count

/-- `ERR_PTR(result)` or the offset of the frame.
SOURCE: tegra-ivc.c:642-649 -/
def tegraIvcWriteGetNextFrame : IvcProg (Except ℤ ℕ) := do
  let result ← ivcCheckWrite
  if result ≠ 0 then
    return .error result
  let ivc ← getIvc
  let dest ← ivcFramePointer ivc.wPos
  return .ok dest

/-- The 32-bit test of the DMA handle comes after the counter was advanced.
SOURCE: tegra-ivc.c:653-693 -/
def tegraIvcWriteAdvance : IvcProg ℤ := do
  let result ← ivcCheckWrite
  if result ≠ 0 then
    return result
  let ivc ← getIvc
  ivcFlushFrame ivc.txHandle ivc.wPos 0
  ivcAdvanceTx
  if !isU32AdditionSafe (ivc.txHandle.setWidth 32) (BitVec.ofNat 32 offsetofRCount) then
    return -eFAULT
  notifyIfAvailCount .tx 1
  return 0

/-! ## Reset protocol -/

/-- SOURCE: tegra-ivc.c:696-702 -/
def tegraIvcChannelReset : IvcProg Unit := do
  writeOnce .tx .state ivcStateSync
  notify

/-- Clear the counters this end owns and both positions.
SOURCE: tegra-ivc.c:747-751, 785-789 -/
def resetCounters : IvcProg Unit := do
  writeOnce .tx .wCount 0
  writeOnce .rx .rCount 0
  setWPos 0
  setRPos 0

/-- SOURCE: tegra-ivc.c:725-843 -/
def tegraIvcChannelNotified : IvcProg ℤ := do
  let peerState ← readOnce .rx .state
  if peerState = ivcStateSync then
    resetCounters
    writeOnce .tx .state ivcStateAck
    notify
  else if (← readOnce .tx .state) = ivcStateSync ∧ peerState = ivcStateAck then
    resetCounters
    writeOnce .tx .state ivcStateEstablished
    notify
  else if (← readOnce .tx .state) = ivcStateAck then
    writeOnce .tx .state ivcStateEstablished
    notify
  if (← readOnce .tx .state) = ivcStateEstablished then
    return 0
  return -eAGAIN

/-- SOURCE: tegra-ivc.c:849-858 -/
def tegraIvcChannelSync : IvcProg ℤ := do
  let ivc ← getIvc
  if ivc.nframes = 0 then
    return -eINVAL
  let wCount ← readOnce .tx .wCount
  setWPos (wCount % ivc.nframes)
  let rCount ← readOnce .rx .rCount
  setRPos (rCount % ivc.nframes)
  return 0

/-! ## Initialisation -/

/-- SOURCE: tegra-ivc.c:867-876 -/
def tegraIvcTotalQueueSize (queueSize : U32) : Except IvcBug U32 :=
  if queueSize &&& BitVec.ofNat 32 (ivcAlign - 1) ≠ 0 then
    .ok 0
  else if !isU32AdditionSafe queueSize (BitVec.ofNat 32 sizeofIvcChannelHeader) then
    .error .safeAddU32
  else
    .ok (queueSize + BitVec.ofNat 32 sizeofIvcChannelHeader)

/-- The three `BUG_ON`s test offsets and sizes that are constants and never fail.
SOURCE: tegra-ivc.c:879-926 -/
def checkIvcParams (queueBase1 queueBase2 : U64) (nframes frameSize : U32) : ℤ :=
  let alignMask := BitVec.ofNat 64 (ivcAlign - 1)
  if nframes.setWidth 64 * frameSize.setWidth 64 ≥ 0x100000000 then -eINVAL
  else if queueBase1 &&& alignMask ≠ 0 then -eINVAL
  else if queueBase2 &&& alignMask ≠ 0 then -eINVAL
  else if frameSize &&& BitVec.ofNat 32 (ivcAlign - 1) ≠ 0 then -eINVAL
  else if queueBase1 < queueBase2 then
    if queueBase1 + (frameSize * nframes).setWidth 64 > queueBase2 then -eINVAL else 0
  else
    if queueBase2 + (frameSize * nframes).setWidth 64 > queueBase1 then -eINVAL else 0

/-- What the DMA layer answers for the peer device. -/
structure PeerDevice where
  mapSingle : U64 → U64 → U64
  mappingError : U64 → Bool

/-- Choose or map the DMA handles of the two channels.
SOURCE: tegra-ivc.c:957-975 -/
def mapHandles (ivc : Ivc) (rxHandle txHandle : U64) (queueSize : U32) :
    Option PeerDevice → ℤ × Ivc
  | none => (0, ivc)
  | some dev =>
    if rxHandle ≠ 0 ∧ !dev.mappingError rxHandle then
      (0, { ivc with rxHandle := rxHandle, txHandle := txHandle })
    else
      let ivc := { ivc with rxHandle := dev.mapSingle ivc.rxChannel (queueSize.setWidth 64) }
      if dev.mappingError ivc.rxHandle then (-eNOMEM, ivc)
      else
        let ivc := { ivc with txHandle := dev.mapSingle ivc.txChannel (queueSize.setWidth 64) }
        if dev.mappingError ivc.txHandle then (-eNOMEM, ivc) else (0, ivc)

/-- The result code and the resulting `struct ivc`; `ivc` and `notify` are not `NULL`.
SOURCE: tegra-ivc.c:928-990 -/
def tegraIvcInitBody (ivc : Ivc) (rxBase rxHandle txBase txHandle : U64)
    (nframes frameSize : U32) (peerDevice : Option PeerDevice) : Except IvcBug (ℤ × Ivc) :=
  let result := checkIvcParams rxBase txBase nframes frameSize
  if result ≠ 0 then .ok (result, ivc)
  else if !isU32U32U32MultiplicationSafe nframes frameSize then .ok (-eFAULT, ivc)
  else match tegraIvcTotalQueueSize (nframes * frameSize) with
    | .error bug => .error bug
    | .ok queueSize =>
      if frameSize.toNat > 2 ^ 31 - 1 then .ok (-e2BIG, ivc)
      else
        let ivc := { ivc with rxChannel := rxBase, txChannel := txBase }
        let (result, ivc) := mapHandles ivc rxHandle txHandle queueSize peerDevice
        if result ≠ 0 then .ok (result, ivc)
        else
          .ok (0, { ivc with frameSize := frameSize, nframes := nframes,
                             peerDevice := peerDevice.isSome, wPos := 0, rPos := 0 })

/-- SOURCE: tegra-ivc.c:992-998 -/
def tegraIvcInit (ivc : Ivc) (rxBase txBase : U64) (nframes frameSize : U32)
    (peerDevice : Option PeerDevice) : Except IvcBug (ℤ × Ivc) :=
  tegraIvcInitBody ivc rxBase 0 txBase 0 nframes frameSize peerDevice

end NvidiaOot.Program
