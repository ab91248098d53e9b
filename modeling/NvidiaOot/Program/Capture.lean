import NvidiaOot.Program.IvcBus

/-!
# Camera capture

The capture drivers: control messages, the IVC channels they travel on, and the buffers of the requests.

Sources are in `drivers/media/platform/tegra/camera/fusa-capture/`.
-/

namespace NvidiaOot.Program

/-!
## Control messages of the capture channels

A VI or an ISP channel sends its control requests to the camera firmware, one at a time, and waits for up
to a second for a response.  One completion and one response buffer serve all of its requests.

The channel is initialised.  A message is its header, its words, and its size in bytes.
-/

def CAPTURE_CHANNEL_SETUP_REQ : U32 := 0x1E
def CAPTURE_CHANNEL_SETUP_RESP : U32 := 0x11
def CAPTURE_CHANNEL_RESET_REQ : U32 := 0x12
def CAPTURE_CHANNEL_RESET_RESP : U32 := 0x13
def CAPTURE_CHANNEL_RELEASE_REQ : U32 := 0x14
def CAPTURE_CHANNEL_RELEASE_RESP : U32 := 0x15
def CAPTURE_COMPAND_CONFIG_REQ : U32 := 0x16
def CAPTURE_COMPAND_CONFIG_RESP : U32 := 0x17
def CAPTURE_PDAF_CONFIG_REQ : U32 := 0x18
def CAPTURE_PDAF_CONFIG_RESP : U32 := 0x19
def CAPTURE_SYNCGEN_ENABLE_REQ : U32 := 0x1A
def CAPTURE_SYNCGEN_ENABLE_RESP : U32 := 0x1B
def CAPTURE_SYNCGEN_DISABLE_REQ : U32 := 0x1C
def CAPTURE_SYNCGEN_DISABLE_RESP : U32 := 0x1D
def CAPTURE_CHANNEL_ISP_SETUP_REQ : U32 := 0x20
def CAPTURE_CHANNEL_ISP_SETUP_RESP : U32 := 0x21
def CAPTURE_CHANNEL_ISP_RESET_REQ : U32 := 0x22
def CAPTURE_CHANNEL_ISP_RESET_RESP : U32 := 0x23
def CAPTURE_CHANNEL_ISP_RELEASE_REQ : U32 := 0x24
def CAPTURE_CHANNEL_ISP_RELEASE_RESP : U32 := 0x25
def CAPTURE_PHY_STREAM_OPEN_REQ : U32 := 0x36
def CAPTURE_PHY_STREAM_OPEN_RESP : U32 := 0x37
def CAPTURE_PHY_STREAM_CLOSE_REQ : U32 := 0x38
def CAPTURE_PHY_STREAM_CLOSE_RESP : U32 := 0x39
def CAPTURE_PHY_STREAM_DUMPREGS_REQ : U32 := 0x3C
def CAPTURE_PHY_STREAM_DUMPREGS_RESP : U32 := 0x3D
def CAPTURE_CSI_STREAM_SET_CONFIG_REQ : U32 := 0x40
def CAPTURE_CSI_STREAM_SET_CONFIG_RESP : U32 := 0x41
def CAPTURE_CSI_STREAM_SET_PARAM_REQ : U32 := 0x42
def CAPTURE_CSI_STREAM_SET_PARAM_RESP : U32 := 0x43
def CAPTURE_CSI_STREAM_TPG_SET_CONFIG_REQ : U32 := 0x44
def CAPTURE_CSI_STREAM_TPG_SET_CONFIG_RESP : U32 := 0x45
def CAPTURE_CSI_STREAM_TPG_START_REQ : U32 := 0x46
def CAPTURE_CSI_STREAM_TPG_START_RESP : U32 := 0x47
def CAPTURE_CSI_STREAM_TPG_STOP_REQ : U32 := 0x48
def CAPTURE_CSI_STREAM_TPG_STOP_RESP : U32 := 0x49
def CAPTURE_CSI_STREAM_TPG_START_RATE_REQ : U32 := 0x4A
def CAPTURE_CSI_STREAM_TPG_START_RATE_RESP : U32 := 0x4B
def CAPTURE_CSI_STREAM_TPG_APPLY_GAIN_REQ : U32 := 0x4C
def CAPTURE_CSI_STREAM_TPG_APPLY_GAIN_RESP : U32 := 0x4D
def CAPTURE_CHANNEL_EI_REQ : U32 := 0x50
def CAPTURE_CHANNEL_EI_RESP : U32 := 0x51
def CAPTURE_HSM_CHANSEL_ERROR_MASK_REQ : U32 := 0x54
def CAPTURE_HSM_CHANSEL_ERROR_MASK_RESP : U32 := 0x55

def CAPTURE_OK : U32 := 0

def CAPTURE_CHANNEL_RESET_FLAG_IMMEDIATE : U32 := 0x01

/-- `CAPTURE_CHANNEL_INVALID_ID` and `CAPTURE_CHANNEL_ISP_INVALID_ID` -/
def CAPTURE_CHANNEL_INVALID_ID : U16 := 0xFFFF
def NVCSI_STREAM_INVALID_ID : U32 := 0xFFFF
def NVCSI_PORT_UNSPECIFIED : U32 := 0xFFFFFFFF
def NVCSI_STREAM_INVALID_TPG_VC_ID : U32 := 0xFFFF

def eEXIST : ℤ := 17

/-- The second word is a channel, or the transaction of a setup.
SOURCE: include/soc/tegra/camrtc-capture-messages.h:27-51 -/
structure CaptureMsgHeader where
  msgId : U32
  channelId : U32
deriving DecidableEq, Repr

/-- The words are those that follow the header.
SOURCE: include/soc/tegra/camrtc-capture-messages.h:1731-1896 -/
structure CaptureControlMsg where
  header : CaptureMsgHeader
  words : List U32
  size : ℕ
deriving DecidableEq, Repr

namespace CaptureControlMsg

def word (msg : CaptureControlMsg) (i : ℕ) : U32 := msg.words.getD i 0

/-- The bytes of the header. -/
def HEADER_SIZE : ℕ := 8

/-- A message of the driver's own.  The size is that of the type, and any size will do that holds the
header. -/
def ofHeader (msgId channelId : U32) (words : List U32) : CaptureControlMsg where
  header := ⟨msgId, channelId⟩
  words := words
  size := HEADER_SIZE + 4 * words.length

end CaptureControlMsg

/-- Whether the channel is one of VI or of ISP. -/
inductive CaptureUnit where
  | vi
  | isp
deriving DecidableEq, Repr

/-- What the control requests of a channel read and write.  `control_resp` counts its completions; the
streams are those of a VI channel.
SOURCE: include/media/fusa-capture/capture-vi.h:34-93,
capture-isp.c:62-112 -/
structure CaptureControl where
  channelId : U16
  controlResp : ℕ
  controlRespMsg : CaptureControlMsg
  streamId : U32
  csiPort : U32
  virtualChannelId : U32
  isStreamOpened : Bool
deriving DecidableEq, Repr

/-! ### Responses -/

/-- SOURCE: capture-vi.c:412-435 -/
def viCaptureIvcControlAccepts (msgId : U32) : Bool :=
  msgId ∈ [CAPTURE_CHANNEL_SETUP_RESP, CAPTURE_CHANNEL_RESET_RESP, CAPTURE_CHANNEL_RELEASE_RESP,
    CAPTURE_COMPAND_CONFIG_RESP, CAPTURE_PDAF_CONFIG_RESP, CAPTURE_SYNCGEN_ENABLE_RESP,
    CAPTURE_SYNCGEN_DISABLE_RESP, CAPTURE_PHY_STREAM_OPEN_RESP, CAPTURE_PHY_STREAM_CLOSE_RESP,
    CAPTURE_PHY_STREAM_DUMPREGS_RESP, CAPTURE_CSI_STREAM_SET_CONFIG_RESP,
    CAPTURE_CSI_STREAM_SET_PARAM_RESP, CAPTURE_CSI_STREAM_TPG_SET_CONFIG_RESP,
    CAPTURE_CSI_STREAM_TPG_START_RESP, CAPTURE_CSI_STREAM_TPG_START_RATE_RESP,
    CAPTURE_CSI_STREAM_TPG_APPLY_GAIN_RESP, CAPTURE_CSI_STREAM_TPG_STOP_RESP, CAPTURE_CHANNEL_EI_RESP,
    CAPTURE_HSM_CHANSEL_ERROR_MASK_RESP]

/-- SOURCE: capture-isp.c:889-896 -/
def ispCaptureIvcControlAccepts (msgId : U32) : Bool :=
  msgId ∈ [CAPTURE_CHANNEL_ISP_SETUP_RESP, CAPTURE_CHANNEL_ISP_RESET_RESP, CAPTURE_CHANNEL_ISP_RELEASE_RESP]

namespace CaptureUnit

def accepts : CaptureUnit → U32 → Bool
  | .vi => viCaptureIvcControlAccepts
  | .isp => ispCaptureIvcControlAccepts

/-- The request and the response of a setup. -/
def setupIds : CaptureUnit → U32 × U32
  | .vi => (CAPTURE_CHANNEL_SETUP_REQ, CAPTURE_CHANNEL_SETUP_RESP)
  | .isp => (CAPTURE_CHANNEL_ISP_SETUP_REQ, CAPTURE_CHANNEL_ISP_SETUP_RESP)

def resetIds : CaptureUnit → U32 × U32
  | .vi => (CAPTURE_CHANNEL_RESET_REQ, CAPTURE_CHANNEL_RESET_RESP)
  | .isp => (CAPTURE_CHANNEL_ISP_RESET_REQ, CAPTURE_CHANNEL_ISP_RESET_RESP)

def releaseIds : CaptureUnit → U32 × U32
  | .vi => (CAPTURE_CHANNEL_RELEASE_REQ, CAPTURE_CHANNEL_RELEASE_RESP)
  | .isp => (CAPTURE_CHANNEL_ISP_RELEASE_REQ, CAPTURE_CHANNEL_ISP_RELEASE_RESP)

end CaptureUnit

/-- The messages of user space, with the responses that they wait for.
SOURCE: capture-vi.c:1013-1083 -/
def viControlIds : List (U32 × U32) :=
  [ (CAPTURE_COMPAND_CONFIG_REQ, CAPTURE_COMPAND_CONFIG_RESP), (CAPTURE_PDAF_CONFIG_REQ, CAPTURE_PDAF_CONFIG_RESP),
    (CAPTURE_SYNCGEN_ENABLE_REQ, CAPTURE_SYNCGEN_ENABLE_RESP),
    (CAPTURE_SYNCGEN_DISABLE_REQ, CAPTURE_SYNCGEN_DISABLE_RESP),
    (CAPTURE_PHY_STREAM_OPEN_REQ, CAPTURE_PHY_STREAM_OPEN_RESP),
    (CAPTURE_PHY_STREAM_CLOSE_REQ, CAPTURE_PHY_STREAM_CLOSE_RESP),
    (CAPTURE_PHY_STREAM_DUMPREGS_REQ, CAPTURE_PHY_STREAM_DUMPREGS_RESP),
    (CAPTURE_CSI_STREAM_SET_CONFIG_REQ, CAPTURE_CSI_STREAM_SET_CONFIG_RESP),
    (CAPTURE_CSI_STREAM_SET_PARAM_REQ, CAPTURE_CSI_STREAM_SET_PARAM_RESP),
    (CAPTURE_CSI_STREAM_TPG_SET_CONFIG_REQ, CAPTURE_CSI_STREAM_TPG_SET_CONFIG_RESP),
    (CAPTURE_CSI_STREAM_TPG_START_REQ, CAPTURE_CSI_STREAM_TPG_START_RESP),
    (CAPTURE_CSI_STREAM_TPG_START_RATE_REQ, CAPTURE_CSI_STREAM_TPG_START_RATE_RESP),
    (CAPTURE_CSI_STREAM_TPG_APPLY_GAIN_REQ, CAPTURE_CSI_STREAM_TPG_APPLY_GAIN_RESP),
    (CAPTURE_CSI_STREAM_TPG_STOP_REQ, CAPTURE_CSI_STREAM_TPG_STOP_RESP),
    (CAPTURE_CHANNEL_EI_REQ, CAPTURE_CHANNEL_EI_RESP),
    (CAPTURE_HSM_CHANSEL_ERROR_MASK_REQ, CAPTURE_HSM_CHANSEL_ERROR_MASK_RESP) ]

/-- The response that a message waits for, or nothing where the message is unknown. -/
def viControlRespId (msgId : U32) : Option U32 :=
  (viControlIds.find? fun ids => ids.1 = msgId).map Prod.snd

/-! ### Requests -/

/-- A stream is opened that is open, or closed that is closed: there is nothing to send.
SOURCE: capture-vi.c:1027-1032, 1038-1044 -/
def viControlSkips (capture : CaptureControl) (msg : CaptureControlMsg) : Bool :=
  (msg.header.msgId = CAPTURE_PHY_STREAM_OPEN_REQ && capture.isStreamOpened) ||
    (msg.header.msgId = CAPTURE_PHY_STREAM_CLOSE_REQ && !capture.isStreamOpened)

/-- What a message leaves in the channel before it is sent.
SOURCE: capture-vi.c:1034-1036, 1059-1067 -/
def viControlNote (capture : CaptureControl) (msg : CaptureControlMsg) : CaptureControl :=
  if msg.header.msgId = CAPTURE_PHY_STREAM_OPEN_REQ then
    { capture with streamId := msg.word 0, csiPort := msg.word 1 }
  else if msg.header.msgId = CAPTURE_CSI_STREAM_TPG_START_REQ ||
      msg.header.msgId = CAPTURE_CSI_STREAM_TPG_START_RATE_REQ then
    { capture with virtualChannelId := msg.word 1 }
  else capture

/-- What a control call does before it sends: it returns at once, or it waits for the lock. -/
inductive CaptureControlEntry where
  | returns (err : ℤ)
  | sends (msg : CaptureControlMsg) (respId : U32)
deriving DecidableEq, Repr

/-- The header of a message of user space names the channel.
SOURCE: capture-vi.c:1000-1086 -/
def viCaptureControlSendMessage (capture : CaptureControl) (msg : CaptureControlMsg) :
    CaptureControlEntry × CaptureControl :=
  let msg : CaptureControlMsg := { msg with
    header := { msg.header with channelId := capture.channelId.setWidth 32 } }
  match viControlRespId msg.header.msgId with
  | none => (.returns (- eINVAL), capture)
  | some respId =>
    if viControlSkips capture msg then (.returns 0, capture)
    else (.sends msg respId, viControlNote capture msg)

/-- SOURCE: capture-vi.c:1092-1095 -/
def viControlSent (capture : CaptureControl) (msgId : U32) : CaptureControl :=
  if msgId = CAPTURE_PHY_STREAM_OPEN_REQ then { capture with isStreamOpened := true }
  else if msgId = CAPTURE_PHY_STREAM_CLOSE_REQ then { capture with isStreamOpened := false }
  else capture

/-- The setup of a VI channel notes its stream.
SOURCE: capture-vi.c:642-646, 673-695,
capture-isp.c:996-1000, 1133-1136 -/
def captureSetupEntry (u : CaptureUnit) (capture : CaptureControl) (transaction : U32)
    (stream : U32 × U32 × U32) : CaptureControlEntry × CaptureControl :=
  if capture.channelId ≠ CAPTURE_CHANNEL_INVALID_ID then (.returns (- eEXIST), capture)
  else
    (.sends (.ofHeader u.setupIds.1 transaction []) u.setupIds.2,
      match u with
      | .vi => { capture with
          streamId := stream.1, csiPort := stream.2.1, virtualChannelId := stream.2.2 }
      | .isp => capture)

/-- A request that names the channel.
SOURCE: capture-vi.c:856-882, 926-940,
capture-isp.c:1258-1269, 1367-1396 -/
def captureChannelEntry (capture : CaptureControl) (ids : U32 × U32) (resetFlags : U32) :
    CaptureControlEntry :=
  if capture.channelId = CAPTURE_CHANNEL_INVALID_ID then .returns (- eNODEV)
  else .sends (.ofHeader ids.1 (capture.channelId.setWidth 32) [resetFlags]) ids.2

/-! ### Results -/

/-- What a release returns, from the result of its response, or where its request has failed.
SOURCE: capture-vi.c:939-953,
capture-isp.c:1268-1278 -/
def captureReleaseResult (u : CaptureUnit) (err : ℤ) (result : U32) : ℤ :=
  match u with
  | .vi => if err < 0 || result ≠ CAPTURE_OK then - eIO else 0
  | .isp => if err < 0 then err else if result ≠ CAPTURE_OK then - eINVAL else 0

/-- The channel after a release that has come to its end.
SOURCE: capture-vi.c:987-990,
capture-isp.c:1336 -/
def captureReleased (u : CaptureUnit) (capture : CaptureControl) : CaptureControl :=
  match u with
  | .vi => { capture with
      channelId := CAPTURE_CHANNEL_INVALID_ID
      streamId := NVCSI_STREAM_INVALID_ID
      csiPort := NVCSI_PORT_UNSPECIFIED
      virtualChannelId := NVCSI_STREAM_INVALID_TPG_VC_ID }
  | .isp => { capture with channelId := CAPTURE_CHANNEL_INVALID_ID }

/-!
## Callback contexts of the capture channels

A client registers a function and its private context under a capture channel, or under a temporary
transaction identifier that it later exchanges for a channel.  A transaction context that is not in
use is on the list of available contexts.  The receive worker calls the function of the context that
a message names.

Each function here is one critical section of the source, or what a call does around them.
-/

def NUM_CAPTURE_CHANNELS : ℕ := 88
def TRANS_ID_START_IDX : ℕ := NUM_CAPTURE_CHANNELS
def TOTAL_CHANNELS : ℕ := 2 * NUM_CAPTURE_CHANNELS

/-- What `cb_func` and `priv_context` were set to, and by which registration.
SOURCE: drivers/platform/tegra/rtcpu/capture-ivc-priv.h:19-29 -/
structure TegraCaptureIvcCbCtx where
  cbFunc : ℕ
  privContext : ℕ
  registration : ℕ
deriving DecidableEq, Repr

/-- A context is `none` where `cb_func` and `priv_context` are `NULL`.  The last field counts the
runtime references on the channel.
SOURCE: drivers/platform/tegra/rtcpu/capture-ivc-priv.h:31-55 -/
structure TegraCaptureIvc where
  cbCtx : List (Option TegraCaptureIvcCbCtx)
  avlCtxList : List ℕ
  runtimeRefs : ℤ
deriving DecidableEq, Repr

/-- SOURCE: drivers/platform/tegra/rtcpu/capture-ivc.c:475-481 -/
def tegraCaptureIvcProbe : TegraCaptureIvc where
  cbCtx := List.replicate TOTAL_CHANNELS none
  avlCtxList := List.range' TRANS_ID_START_IDX (TOTAL_CHANNELS - TRANS_ID_START_IDX)
  runtimeRefs := 0

namespace TegraCaptureIvc

/-- The context with an index. -/
def ctx (civc : TegraCaptureIvc) (id : ℕ) : Option TegraCaptureIvcCbCtx := (civc.cbCtx[id]?).join

/-- The reference is counted also where `pm_runtime_get_sync` fails.
SOURCE: drivers/platform/tegra/rtcpu/ivc-bus.c:55-61 -/
def runtimeGet (civc : TegraCaptureIvc) : TegraCaptureIvc :=
  { civc with runtimeRefs := civc.runtimeRefs + 1 }

/-- SOURCE: drivers/platform/tegra/rtcpu/ivc-bus.c:63-69 -/
def runtimePut (civc : TegraCaptureIvc) : TegraCaptureIvc :=
  { civc with runtimeRefs := civc.runtimeRefs - 1 }

/-- The first available context is taken.
SOURCE: drivers/platform/tegra/rtcpu/capture-ivc.c:124-136 -/
def takeCtx (civc : TegraCaptureIvc) : Option (ℕ × TegraCaptureIvc) :=
  match civc.avlCtxList with
  | [] => none
  | id :: avl => some (id, { civc with avlCtxList := avl })

/-- SOURCE: drivers/platform/tegra/rtcpu/capture-ivc.c:212-214, 298-300 -/
def addCtx (civc : TegraCaptureIvc) (id : ℕ) : TegraCaptureIvc :=
  { civc with avlCtxList := civc.avlCtxList ++ [id] }

/-- A context is set, unless it is busy.
SOURCE: drivers/platform/tegra/rtcpu/capture-ivc.c:147-158, 244-254 -/
def setCb (civc : TegraCaptureIvc) (id : ℕ) (new : TegraCaptureIvcCbCtx) : Option TegraCaptureIvc :=
  if (civc.ctx id).isSome then none else some { civc with cbCtx := civc.cbCtx.set id (some new) }

/-- A context moves from a transaction to a channel.
SOURCE: drivers/platform/tegra/rtcpu/capture-ivc.c:187-210 -/
def moveCb (civc : TegraCaptureIvc) (chanId transId : ℕ) : Except ℤ TegraCaptureIvc :=
  match civc.ctx transId with
  | none => .error (- eBADF)
  | some old =>
    if (civc.ctx chanId).isSome then .error (- eBUSY)
    else .ok { civc with cbCtx := (civc.cbCtx.set chanId (some old)).set transId none }

/-- A context is cleared, unless it is idle.
SOURCE: drivers/platform/tegra/rtcpu/capture-ivc.c:279-290, 323-334 -/
def clearCb (civc : TegraCaptureIvc) (id : ℕ) : Except ℤ (TegraCaptureIvcCbCtx × TegraCaptureIvc) :=
  match civc.ctx id with
  | none => .error (- eBADF)
  | some old => .ok (old, { civc with cbCtx := civc.cbCtx.set id none })

end TegraCaptureIvc

/-! ### What the calls check -/

/-- SOURCE: drivers/platform/tegra/rtcpu/capture-ivc.c:111-114 -/
def registerControlCbCheck (cbFunc : Option ℕ) (transId : Bool) : Except ℤ ℕ :=
  match cbFunc with
  | none => .error (- eINVAL)
  | some f => if transId then .ok f else .error (- eINVAL)

/-- SOURCE: drivers/platform/tegra/rtcpu/capture-ivc.c:138-144 -/
def ctxIdIsTransaction (id : ℕ) : Bool := TRANS_ID_START_IDX ≤ id && id < TOTAL_CHANNELS

/-- SOURCE: drivers/platform/tegra/rtcpu/capture-ivc.c:173-178 -/
def notifyChanIdCheck (chanId transId : U32) : Bool :=
  chanId.toNat < NUM_CAPTURE_CHANNELS && TRANS_ID_START_IDX ≤ transId.toNat &&
    transId.toNat < TOTAL_CHANNELS

/-- SOURCE: drivers/platform/tegra/rtcpu/capture-ivc.c:227-232 -/
def registerCaptureCbCheck (cbFunc : Option ℕ) (chanId : U32) : Except ℤ ℕ :=
  match cbFunc with
  | none => .error (- eINVAL)
  | some f => if chanId.toNat < NUM_CAPTURE_CHANNELS then .ok f else .error (- eINVAL)

/-- SOURCE: drivers/platform/tegra/rtcpu/capture-ivc.c:270-271, 385 -/
def idIsChannel (id : U32) : Bool := id.toNat < TOTAL_CHANNELS

/-- SOURCE: drivers/platform/tegra/rtcpu/capture-ivc.c:313-314 -/
def unregisterCaptureCbCheck (chanId : U32) : Bool := chanId.toNat < NUM_CAPTURE_CHANNELS

/-!
## Pinned buffers of the ISP requests

Each slot of a descriptor queue has a list of the mappings that its request has pinned.  A slot is in use
while its list is not empty.  An ISP channel has a queue of process descriptors and one of programs.
-/

def MAX_PIN_BUFFER_PER_REQUEST : ℕ := 24

/-- The unpins of a descriptor queue, while they are allocated.  A pin is known by a number.
SOURCE: capture-isp.c:40-57 -/
structure IspDescRec where
  queueDepth : U32
  allocated : Bool
  unpinsList : ℕ → List ℕ

namespace IspDescRec

/-- The slot is one of the list. -/
def has (ctx : IspDescRec) (bufferIndex : ℕ) : Bool :=
  ctx.allocated && bufferIndex < ctx.queueDepth.toNat

def setUnpins (ctx : IspDescRec) (bufferIndex : ℕ) (pins : List ℕ) : IspDescRec :=
  { ctx with unpinsList := Function.update ctx.unpinsList bufferIndex pins }

/-- The mappings of a slot are put, and its list is cleared.
SOURCE: capture-isp.c:498-515, 524-541 -/
def requestUnpin (ctx : IspDescRec) (bufferIndex : ℕ) : IspDescRec × List ℕ :=
  (ctx.setUnpins bufferIndex [], ctx.unpinsList bufferIndex)

/-- What a request checks of its queue and its slot before it takes the lock.
SOURCE: capture-isp.c:575-584, 1628-1637 -/
def requestCheck (ctx : IspDescRec) (bufferIndex : U32) : Except ℤ Unit :=
  if !ctx.allocated then .error (- eINVAL)
  else if ctx.queueDepth ≤ bufferIndex then .error (- eINVAL)
  else .ok ()

end IspDescRec

/-- How the pinning of the buffers of a descriptor comes out. -/
inductive IspPinResult where
  | busy
  | failed (pins : List ℕ)
  | pinned (pins : List ℕ)
deriving DecidableEq, Repr

/-- The descriptor names `count` buffers that can be pinned, and then one that cannot, unless `ok`.  The
pins are numbered from `next`.  What was pinned before a failure stays in the list.
SOURCE: capture-isp.c:1487-1602, 1674-1688,
capture-common.c:475-521 -/
def pinIspCaptureRequestBuffers (ctx : IspDescRec) (bufferIndex next count : ℕ) (ok : Bool) :
    IspPinResult × IspDescRec :=
  if ctx.unpinsList bufferIndex ≠ [] then (.busy, ctx)
  else
    let pins := List.range' next (min count MAX_PIN_BUFFER_PER_REQUEST)
    (if ok && count ≤ MAX_PIN_BUFFER_PER_REQUEST then .pinned pins else .failed pins,
      ctx.setUnpins bufferIndex pins)

/-- A program has one buffer, and a failure has pinned nothing.
SOURCE: capture-isp.c:600-631 -/
def pinIspProgram (ctx : IspDescRec) (bufferIndex next count : ℕ) (ok : Bool) :
    IspPinResult × IspDescRec :=
  if ctx.unpinsList bufferIndex ≠ [] then (.busy, ctx)
  else if !ok then (.failed [], ctx)
  else
    let pins := List.range' next (min count 1)
    (.pinned pins, ctx.setUnpins bufferIndex pins)

/-!
## Table of the buffers that a capture channel has mapped

A mapping is known by its number, and mappings that were freed keep theirs.  The chain of a dma-buf has its
mappings in the order of the whole table, so one chain stands for all of them.
-/

def BUFFER_READ : U32 := 0x01
def BUFFER_WRITE : U32 := 0x02
def BUFFER_ADD : U32 := 0x04
def BUFFER_RDWR : U32 := BUFFER_READ ||| BUFFER_WRITE

def eNOENT : ℤ := 2

/-- All the bits of the second flags are set in the first ones.
SOURCE: capture-common.c:73-78 -/
def flagCompatible (self other : U32) : Bool := self &&& other = other

/-- SOURCE: capture-common.c:87-91 -/
def flagAccessMode (flag : U32) : U32 := flag &&& BUFFER_RDWR

/-- A dma-buf, by its address. -/
structure DmaBuf where
  addr : ℕ
  size : U64
deriving DecidableEq, Repr

/-- A segment of a scatter list. -/
structure SgEntry where
  dmaAddress : U64
  phys : U64
  dmaLen : U32
deriving DecidableEq, Repr

namespace SgEntry

/-- The bus address of a segment. -/
def busAddress (sg : SgEntry) : U64 := if sg.dmaAddress = 0 then sg.phys else sg.dmaAddress

end SgEntry

/-- SOURCE: capture-common.c:48-58 -/
structure CaptureMapping where
  refcnt : U32
  buf : DmaBuf
  sgt : List SgEntry
  flag : U32
deriving DecidableEq, Repr

/-- The address of an offset in the segments, or 0.
SOURCE: capture-common.c:112-154 -/
def sgtIova : List SgEntry → U64 → U64
  | [], _ => 0
  | sg :: rest, offset =>
    if offset < sg.dmaLen.setWidth 64 then
      let iova := sg.busAddress + offset
      if iova < offset then 0 else iova
    else sgtIova rest (offset - sg.dmaLen.setWidth 64)

namespace CaptureMapping

def mappingIova (pin : CaptureMapping) (memOffset : U64) : U64 := sgtIova pin.sgt memOffset

/-- SOURCE: capture-common.c:169-182 -/
def mappingPreserved (pin : CaptureMapping) : Bool := pin.flag &&& BUFFER_ADD ≠ 0

/-- SOURCE: capture-common.c:199, 202 -/
def setPreserved (pin : CaptureMapping) (val : Bool) : CaptureMapping :=
  { pin with flag := if val then pin.flag ||| BUFFER_ADD else pin.flag &&& ~~~BUFFER_ADD }

/-- The base address and the size that a descriptor gets for an offset in the mapping.
SOURCE: capture-common.c:500-516 -/
def surface (map : CaptureMapping) (memOffset : U64) : Except ℤ (U64 × U64) :=
  if map.buf.size ≤ memOffset then .error (- eINVAL)
  else
    let iova := map.mappingIova memOffset
    if iova = 0 then .error (- eINVAL) else .ok (iova, map.buf.size - memOffset)

end CaptureMapping

/-- The table, and the mappings that were ever made.
SOURCE: capture-common.c:26-34 -/
structure CaptureBufferTable where
  hhead : List ℕ
  mapping : ℕ → CaptureMapping
  next : ℕ

namespace CaptureBufferTable

def empty : CaptureBufferTable := ⟨[], fun _ => ⟨0, ⟨0, 0⟩, [], 0⟩, 0⟩

def setMapping (tab : CaptureBufferTable) (pin : ℕ) (map : CaptureMapping) : CaptureBufferTable :=
  { tab with mapping := Function.update tab.mapping pin map }

def setRefcnt (tab : CaptureBufferTable) (pin : ℕ) (refcnt : U32) : CaptureBufferTable :=
  tab.setMapping pin { tab.mapping pin with refcnt := refcnt }

/-- A mapping of the buffer with these flags that is not about to be freed.
SOURCE: capture-common.c:219-246 -/
def findMapping (tab : CaptureBufferTable) (buf : DmaBuf) (flag : U32) : Option ℕ :=
  tab.hhead.find? fun pin =>
    (tab.mapping pin).buf = buf && flagCompatible (tab.mapping pin).flag flag &&
      (tab.mapping pin).refcnt ≠ 0

def atomicInc (tab : CaptureBufferTable) (pin : ℕ) : CaptureBufferTable :=
  tab.setRefcnt pin ((tab.mapping pin).refcnt + 1)

def atomicDec (tab : CaptureBufferTable) (pin : ℕ) : CaptureBufferTable :=
  tab.setRefcnt pin ((tab.mapping pin).refcnt - 1)

/-- A buffer that was mapped gets into the table.
SOURCE: capture-common.c:302-309 -/
def addMapping (tab : CaptureBufferTable) (buf : DmaBuf) (flag : U32) (sgt : List SgEntry) :
    CaptureBufferTable :=
  { tab.setMapping tab.next ⟨1, buf, sgt, flag⟩ with
    hhead := tab.next :: tab.hhead
    next := tab.next + 1 }

def hashDel (tab : CaptureBufferTable) (pin : ℕ) : CaptureBufferTable :=
  { tab with hhead := tab.hhead.erase pin }

def setPreserved (tab : CaptureBufferTable) (pin : ℕ) (val : Bool) : CaptureBufferTable :=
  tab.setMapping pin ((tab.mapping pin).setPreserved val)

end CaptureBufferTable

end NvidiaOot.Program
