import NvidiaOot.Library.Machine
import NvidiaOot.Program.Capture

/-!
# Runs of the capture channels

The control messages, and the callbacks of the IVC channels.

Sources are in `drivers/media/platform/tegra/camera/fusa-capture/`.
-/

namespace NvidiaOot.Model

/-!
## Control requests of a channel under any interleaving

Any number of threads call the control functions of one channel.  A request that was sent gets a number,
its ticket.  The firmware answers the requests in order, each once, after any delay; the receive worker
copies a response into the buffer of the channel if a callback is registered for its header, and then
signals the completion.  A thread that waits may be told that its second is over while there is no
completion.
-/

section

open Library Program

/-- The control calls of a channel.  The transaction of a setup is the one that was registered for it. -/
inductive CaptureControlCall where
  | setup (transaction : U32) (stream : U32 × U32 × U32)
  | reset (flags : U32)
  | release (flags : U32)
  /-- A message of user space, or one that the driver sends in the same way. -/
  | message (msg : CaptureControlMsg)
deriving DecidableEq, Repr

/-- What a thread does next.  The header is the one that it expects. -/
inductive CaptureControlStage where
  | idle
  | locking (call : CaptureControlCall) (msg : CaptureControlMsg) (respId : U32)
  | waiting (call : CaptureControlCall) (ticket : ℕ) (header : CaptureMsgHeader)
  | comparing (call : CaptureControlCall) (ticket : ℕ) (header : CaptureMsgHeader)
  /-- The request has returned 0, and its caller has not yet read the response. -/
  | reading (call : CaptureControlCall) (ticket : ℕ)
deriving DecidableEq, Repr

namespace CaptureControlStage

/-- The thread holds the lock of the control messages. -/
def holds : CaptureControlStage → Bool
  | .waiting _ _ _ | .comparing _ _ _ => true
  | _ => false

def isReading : CaptureControlStage → Bool
  | .reading _ _ => true
  | _ => false

/-- The thread waits for the response to this request. -/
def waitsFor (ticket : ℕ) : CaptureControlStage → Bool
  | .waiting _ k _ => k = ticket
  | _ => false

end CaptureControlStage

/-- How a request has ended: what it returned, the ticket it was sent with, whether its response had arrived
by then, and the ticket of the response that its caller has read. -/
structure CaptureControlResult where
  err : ℤ
  ticket : Option ℕ
  answered : Bool
  read : Option ℕ
deriving DecidableEq, Repr

/-- A request as the firmware has received it. -/
structure CaptureFirmwareReq where
  ticket : ℕ
  header : CaptureMsgHeader
deriving DecidableEq, Repr

/-- `registered` are the channels and transactions with a callback, `respOf` is the ticket of the response
in the buffer, and `copied` that of one that was copied and is not yet signalled.  A response has arrived
when the firmware has given it, and it is received when it was signalled. -/
structure CaptureControlState where
  capture : CaptureControl
  calls : List CaptureControlStage
  lock : Option ℕ
  resetLock : Option ℕ
  registered : List U32
  atFirmware : List CaptureFirmwareReq
  sent : ℕ
  respOf : Option ℕ
  copied : Option ℕ
  arrived : List ℕ
  received : List ℕ
  results : List CaptureControlResult

/-- `held` is what the frame of the message held.  The flags of a read say whether the callback of a setup
can be moved to its channel, and whether the callback of the captures can be registered. -/
inductive CaptureControlOp where
  | call (thread : ℕ) (call : CaptureControlCall)
  | submit (thread : ℕ) (err : ℤ) (held : CaptureMsgHeader)
  | wake (thread : ℕ)
  | timeout (thread : ℕ)
  | compare (thread : ℕ)
  | read (thread : ℕ) (notifies registers : Bool)
  /-- The firmware answers its next request, and the response is copied or dropped. -/
  | answer (words : List U32)
  /-- The response that was copied is signalled. -/
  | signal
deriving DecidableEq, Repr

/-- The response that the firmware gives to a request.
SOURCE: include/soc/tegra/camrtc-capture-messages.h:121-396, 1383-1639 -/
def captureRespId (msgId : U32) : U32 :=
  if msgId = CAPTURE_CHANNEL_SETUP_REQ then CAPTURE_CHANNEL_SETUP_RESP else msgId + 1

def captureRespHeader (header : CaptureMsgHeader) : CaptureMsgHeader :=
  { header with msgId := captureRespId header.msgId }

/-- The header of a message as it arrives: a word that the size cuts off is the one of the frame. -/
def captureReceivedHeader (msg : CaptureControlMsg) (held : CaptureMsgHeader) : CaptureMsgHeader :=
  if msg.size < CaptureControlMsg.HEADER_SIZE then
    ⟨if msg.size < 4 then held.msgId else msg.header.msgId, held.channelId⟩
  else msg.header

namespace CaptureControlState

def goto (s : CaptureControlState) (thread : ℕ) (stage : CaptureControlStage) : CaptureControlState :=
  { s with calls := s.calls.set thread stage }

/-- The request has ended, and its thread is done. -/
def done (s : CaptureControlState) (thread : ℕ) (result : CaptureControlResult) :
    CaptureControlState :=
  { (s.goto thread .idle) with
    resetLock := if s.resetLock = some thread then none else s.resetLock
    results := result :: s.results }

/-- What a call does in the channel when its request has failed.
SOURCE: capture-vi.c:756-759, 800-816, 939-993 -/
def failed (u : CaptureUnit) (s : CaptureControlState) : CaptureControlCall → CaptureControlState
  | .setup transaction _ => { s with registered := s.registered.erase transaction }
  | .release _ =>
    match u with
    | .vi => { s with
        capture := captureReleased .vi s.capture
        registered := s.registered.erase (s.capture.channelId.setWidth 32) }
    | .isp => s
  | .reset _ | .message _ => s

def enter (u : CaptureUnit) (s : CaptureControlState) (thread : ℕ) (call : CaptureControlCall) :
    Option CaptureControlState :=
  let go (entry : CaptureControlEntry) (s : CaptureControlState) : CaptureControlState :=
    match entry with
    -- The caller of a message that is not sent reads the buffer as well.
    | .returns err => s.done thread ⟨err, none, false, if err = 0 then s.respOf else none⟩
    | .sends msg respId => s.goto thread (.locking call msg respId)
  match call with
  | .setup transaction stream =>
    if transaction ∈ s.registered then none
    else
      let (entry, capture) := captureSetupEntry u s.capture transaction stream
      some (go entry { s with
        capture := capture
        registered :=
          if s.capture.channelId = CAPTURE_CHANNEL_INVALID_ID then transaction :: s.registered
          else s.registered })
  | .reset flags =>
    if s.resetLock.isSome then none
    else some (go (captureChannelEntry s.capture u.resetIds flags) { s with resetLock := some thread })
  | .release flags => some (go (captureChannelEntry s.capture u.releaseIds flags) s)
  | .message msg =>
    match u with
    | .isp => none
    | .vi =>
      let (entry, capture) := viCaptureControlSendMessage s.capture msg
      some (go entry { s with capture := capture })

/-- What a call does with the response that it reads.  A setup of an ISP channel that cannot register its
callbacks releases the channel.
SOURCE: capture-vi.c:761-798, 886-903, 949-996, 1092-1097,
capture-isp.c:1175-1205, 1274-1342, 1400-1432 -/
def finish (u : CaptureUnit) (s : CaptureControlState) (thread ticket : ℕ)
    (notifies registers : Bool) (call : CaptureControlCall) : CaptureControlState :=
  let resp := s.capture.controlRespMsg
  let result : CaptureControlResult := ⟨0, some ticket, ticket ∈ s.arrived, s.respOf⟩
  match call with
  | .setup transaction _ =>
    if resp.word 0 ≠ CAPTURE_OK then (s.failed u call).done thread result
    else
      let channelId : U16 := (resp.word 1).setWidth 16
      let s : CaptureControlState := { s with
        capture := { s.capture with channelId := channelId }
        registered :=
          if notifies then channelId.setWidth 32 :: s.registered.erase transaction else s.registered }
      if notifies && registers then s.done thread result
      else
        match u with
        | .vi => (s.failed u call).done thread result
        | .isp =>
          let flags := CAPTURE_CHANNEL_RESET_FLAG_IMMEDIATE
          match captureChannelEntry s.capture u.releaseIds flags with
          | .returns _ => s.done thread result
          | .sends msg respId =>
            (s.done thread result).goto thread (.locking (.release flags) msg respId)
  | .reset _ => s.done thread result
  | .release _ =>
    if u = .isp && captureReleaseResult u 0 (resp.word 0) < 0 then s.done thread result
    else
      ({ s with
        capture := captureReleased u s.capture
        registered := s.registered.erase (s.capture.channelId.setWidth 32) }).done thread result
  | .message msg => ({ s with capture := viControlSent s.capture msg.header.msgId }).done thread result

end CaptureControlState

/-- One step.
SOURCE: capture-vi.c:337-442,
capture-isp.c:815-902 -/
def captureControlStep (u : CaptureUnit) (s : CaptureControlState) :
    CaptureControlOp → Option CaptureControlState
  | .call thread call =>
    if s.calls[thread]? = some .idle then s.enter u thread call else none
  | .submit thread err held =>
    match s.calls[thread]? with
    | some (.locking call msg respId) =>
      if s.lock.isSome then none
      else if err < 0 then some ((s.failed u call).done thread ⟨err, none, false, none⟩)
      else some { (s.goto thread (.waiting call s.sent { msg.header with msgId := respId })) with
        lock := some thread
        atFirmware := s.atFirmware ++ [⟨s.sent, captureReceivedHeader msg held⟩]
        sent := s.sent + 1 }
    | _ => none
  | .wake thread =>
    match s.calls[thread]? with
    | some (.waiting call ticket header) =>
      if s.capture.controlResp = 0 then none
      else some { (s.goto thread (.comparing call ticket header)) with
        capture := { s.capture with controlResp := s.capture.controlResp - 1 } }
    | _ => none
  | .timeout thread =>
    match s.calls[thread]? with
    | some (.waiting call ticket _) =>
      if s.capture.controlResp = 0 then
        some ({ (s.failed u call) with lock := none }.done thread
          ⟨- eTIMEDOUT, some ticket, ticket ∈ s.arrived, none⟩)
      else none
    | _ => none
  | .compare thread =>
    match s.calls[thread]? with
    | some (.comparing call ticket header) =>
      if header = s.capture.controlRespMsg.header then
        some { (s.goto thread (.reading call ticket)) with lock := none }
      else
        some ({ (s.failed u call) with lock := none }.done thread
          ⟨- eINVAL, some ticket, ticket ∈ s.arrived, none⟩)
    | _ => none
  | .read thread notifies registers =>
    match s.calls[thread]? with
    | some (.reading call ticket) => some (s.finish u thread ticket notifies registers call)
    | _ => none
  | .answer words =>
    match s.copied, s.atFirmware with
    | none, req :: rest =>
      let header := captureRespHeader req.header
      let resp : CaptureControlMsg := .ofHeader header.msgId header.channelId words
      if resp.header.channelId ∈ s.registered && u.accepts resp.header.msgId then
        some { s with
          capture := { s.capture with controlRespMsg := resp }
          atFirmware := rest
          respOf := some req.ticket
          copied := some req.ticket
          arrived := req.ticket :: s.arrived }
      else some { s with atFirmware := rest, arrived := req.ticket :: s.arrived }
    | _, _ => none
  | .signal =>
    s.copied.map fun ticket => { s with
      capture := { s.capture with controlResp := s.capture.controlResp + 1 }
      copied := none
      received := ticket :: s.received }

/-- The channel is initialised, and no thread is in a call. -/
def captureControlStart (threads : ℕ) : CaptureControlState where
  capture := {
    channelId := CAPTURE_CHANNEL_INVALID_ID
    controlResp := 0
    controlRespMsg := ⟨⟨0, 0⟩, [], 0⟩
    streamId := NVCSI_STREAM_INVALID_ID
    csiPort := NVCSI_PORT_UNSPECIFIED
    virtualChannelId := NVCSI_STREAM_INVALID_TPG_VC_ID
    isStreamOpened := false }
  calls := List.replicate threads .idle
  lock := none
  resetLock := none
  registered := []
  atFirmware := []
  sent := 0
  respOf := none
  copied := none
  arrived := []
  received := []
  results := []

/-! ### The orders that go wrong -/

/-- The message is of a stream that is open or closed already. -/
def captureControlSkips (s : CaptureControlState) : CaptureControlCall → Bool
  | .message msg => viControlSkips s.capture msg
  | _ => false

/-- No message is sent that is shorter than its header, and no stream is opened or closed that is so
already; a response finds the callback of its request registered exactly while the thread of the request
waits for it, and no caller that has still to read another; and the second is not over between the copy
and the signal of a response. -/
def captureControlCareful (s : CaptureControlState) : CaptureControlOp → Prop
  | .call _ call => captureControlSkips s call = false
  | .submit thread _ _ => s.calls[thread]?.all (fun stage => match stage with
      | .locking _ msg _ => CaptureControlMsg.HEADER_SIZE ≤ msg.size
      | _ => true) = true
  | .timeout _ => s.copied = none
  | .answer _ => s.atFirmware.head?.all (fun req =>
      if req.header.channelId ∈ s.registered then
        s.calls.any (CaptureControlStage.waitsFor req.ticket) && s.calls.all fun stage => !stage.isReading
      else !s.calls.any (CaptureControlStage.waitsFor req.ticket)) = true
  | _ => True

instance captureControlCareful.decidable (s : CaptureControlState) (op : CaptureControlOp) :
    Decidable (captureControlCareful s op) :=
  match op with
  | .call _ call => inferInstanceAs (Decidable (captureControlSkips s call = false))
  | .submit thread _ _ => inferInstanceAs (Decidable (s.calls[thread]?.all _ = true))
  | .timeout _ => inferInstanceAs (Decidable (s.copied = none))
  | .answer _ => inferInstanceAs (Decidable (s.atFirmware.head?.all _ = true))
  | .wake _ | .compare _ | .read _ _ _ | .signal => isTrue trivial

/-! ### What a run keeps -/

structure CaptureControlSound (s : CaptureControlState) : Prop where
  /-- A request has returned 0 after its response was received, and the buffer holds that response until
  the caller has read it. -/
  own : ∀ (thread : ℕ) call ticket, s.calls[thread]? = some (.reading call ticket) →
    ticket ∈ s.received ∧ s.respOf = some ticket
  /-- What the caller of a request that returned 0 has read is the response to its request. -/
  success : ∀ r ∈ s.results, r.err = 0 →
    ∃ ticket ∈ s.received, r.ticket = some ticket ∧ r.read = some ticket
  /-- A request that was sent fails only when its second is over and its response has not arrived. -/
  failure : ∀ r ∈ s.results, r.err ≠ 0 → r.ticket.isSome = true →
    r.err = - eTIMEDOUT ∧ r.answered = false

end

/-!
## Callback contexts under any interleaving

The two services have their own contexts, their own worker and any number of calls under way.  A call
is known by what it does next, and one of its steps is a critical section, or an update of the runtime
count.  The worker reads the function for the test, the function for the call and the private context
in three steps, and calls in a fourth.
-/

section

open Library Program

inductive CivcCall where
  /-- A registration looks for an available context. -/
  | takeCtx (cbFunc privContext : ℕ)
  /-- It sets the context that it has taken. -/
  | setTrans (id cbFunc privContext : ℕ)
  | setCapture (chanId cbFunc privContext : ℕ)
  /-- It has failed, and puts its reference. -/
  | putFail (ret : ℤ)
  /-- The transaction context whose registration has moved becomes available. -/
  | addCtx (id : ℕ)
  /-- The same for a registration that has ended. -/
  | addCtxPut (id registration : ℕ)
  /-- The registration has ended: its reference is put, and the call returns. -/
  | putUnregistered (registration : ℕ)
deriving DecidableEq, Repr

/-- What the worker has read of the context of its message. -/
inductive CivcWorker where
  | asleep
  | receiving
  | received (id : ℕ)
  | tested (id : ℕ)
  | func (id : ℕ) (cbFunc : Option TegraCaptureIvcCbCtx)
  | ready (cbFunc privContext : Option TegraCaptureIvcCbCtx)
deriving DecidableEq, Repr

/-- A callback that has started: the contexts that its function and its argument were read from, and
whether the registration of the function had been ended by a call that has returned. -/
structure CivcDelivery where
  cbFunc : Option TegraCaptureIvcCbCtx
  privContext : Option TegraCaptureIvcCbCtx
  late : Bool
deriving DecidableEq, Repr

/-- What a call returns, and `*trans_id`. -/
structure CivcResult where
  ret : ℤ
  transId : Option ℕ
deriving DecidableEq, Repr

/-- One service.  Registrations are numbered, and `gone` are those whose end has returned. -/
structure CivcRun where
  civc : TegraCaptureIvc
  calls : List CivcCall
  worker : CivcWorker
  registrations : ℕ
  gone : List ℕ
  delivered : List CivcDelivery
  returned : List CivcResult
deriving DecidableEq, Repr

inductive CivcOp where
  | registerControlCb (cbFunc : Option ℕ) (transId : Bool) (privContext : ℕ) (pm : ℤ)
  | notifyChanId (chanId transId : U32)
  | registerCaptureCb (cbFunc : Option ℕ) (chanId : U32) (privContext : ℕ) (pm : ℤ)
  | unregisterControlCb (id : U32)
  | unregisterCaptureCb (chanId : U32)
  /-- A call that is under way does its next step. -/
  | goOn (i : ℕ)
  /-- The worker starts, or ends. -/
  | wake
  | sleep
  /-- A message with this `channel_id`. -/
  | receive (id : U32)
  /-- The worker does its next step with the message. -/
  | work
deriving DecidableEq, Repr

namespace CivcCall

def holdsCtx (id : ℕ) : CivcCall → Bool
  | .setTrans id' _ _ => id' = id
  | .addCtx id' => id' = id
  | .addCtxPut id' _ => id' = id
  | _ => false

def holdsRef : CivcCall → Bool
  | .addCtx _ => false
  | _ => true

/-- The call is to return from the end of a registration. -/
def ends (registration : ℕ) : CivcCall → Bool
  | .addCtxPut _ r => r = registration
  | .putUnregistered r => r = registration
  | _ => false

end CivcCall

namespace CivcWorker

/-- The worker has tested the context, and has not read all of it. -/
def reads (id : ℕ) : CivcWorker → Bool
  | .tested id' => id' = id
  | .func id' _ => id' = id
  | _ => false

/-- The worker is about to call a function of the registration. -/
def starts (registration : ℕ) : CivcWorker → Bool
  | .ready (some old) _ => old.registration = registration
  | _ => false

/-- The reference of the worker, while it looks for messages. -/
def refs : CivcWorker → ℤ
  | .asleep => 0
  | _ => 1

/-- The call is about to return from the end of the registration whose function is to be called. -/
def isOutrun (w : CivcWorker) : CivcCall → Bool
  | .putUnregistered registration => w.starts registration
  | _ => false

end CivcWorker

namespace CivcRun

def ret (s : CivcRun) (ret : ℤ) : CivcRun := { s with returned := s.returned ++ [⟨ret, none⟩] }

def begin (s : CivcRun) (civc : TegraCaptureIvc) (call : CivcCall) : CivcRun :=
  { s with civc := civc, calls := s.calls ++ [call] }

def next (s : CivcRun) (i : ℕ) (civc : TegraCaptureIvc) (call : CivcCall) : CivcRun :=
  { s with civc := civc, calls := s.calls.set i call }

def finish (s : CivcRun) (i : ℕ) (civc : TegraCaptureIvc) (result : CivcResult) : CivcRun :=
  { s with civc := civc, calls := s.calls.eraseIdx i, returned := s.returned ++ [result] }

/-- What a registration that was started sets. -/
def newCtx (s : CivcRun) (cbFunc privContext : ℕ) : TegraCaptureIvcCbCtx :=
  ⟨cbFunc, privContext, s.registrations⟩

def goOn (s : CivcRun) (i : ℕ) : CivcCall → CivcRun
  | .takeCtx cbFunc privContext =>
    match s.civc.takeCtx with
    | none => s.next i s.civc (.putFail (- eAGAIN))
    | some (id, civc) =>
      if ctxIdIsTransaction id then s.next i civc (.setTrans id cbFunc privContext)
      else s.next i civc (.putFail (- eIO))
  | .setTrans id cbFunc privContext =>
    match s.civc.setCb id (s.newCtx cbFunc privContext) with
    | none => s.next i s.civc (.putFail (- eIO))
    | some civc => { s.finish i civc ⟨0, some id⟩ with registrations := s.registrations + 1 }
  | .setCapture chanId cbFunc privContext =>
    match s.civc.setCb chanId (s.newCtx cbFunc privContext) with
    | none => s.next i s.civc (.putFail (- eBUSY))
    | some civc => { s.finish i civc ⟨0, none⟩ with registrations := s.registrations + 1 }
  | .putFail ret => s.finish i s.civc.runtimePut ⟨ret, none⟩
  | .addCtx id => s.finish i (s.civc.addCtx id) ⟨0, none⟩
  | .addCtxPut id registration => s.next i (s.civc.addCtx id) (.putUnregistered registration)
  | .putUnregistered registration =>
    { s.finish i s.civc.runtimePut ⟨0, none⟩ with gone := s.gone ++ [registration] }

/-- The next step of the worker.
SOURCE: drivers/platform/tegra/rtcpu/capture-ivc.c:342-356 -/
def work (s : CivcRun) : Option CivcRun :=
  match s.worker with
  | .asleep => none
  | .receiving => none
  | .received id =>
    some { s with worker := if (s.civc.ctx id).isSome then .tested id else .receiving }
  | .tested id => some { s with worker := .func id (s.civc.ctx id) }
  | .func id cbFunc => some { s with worker := .ready cbFunc (s.civc.ctx id) }
  | .ready cbFunc privContext =>
    some { s with
      worker := .receiving
      delivered := s.delivered ++
        [⟨cbFunc, privContext, cbFunc.any fun old => s.gone.contains old.registration⟩] }

end CivcRun

def civcStep (s : CivcRun) : CivcOp → Option CivcRun
  | .registerControlCb cbFunc transId privContext pm =>
    match registerControlCbCheck cbFunc transId with
    | .error ret => some (s.ret ret)
    | .ok f =>
      if pm < 0 then some ({ s with civc := s.civc.runtimeGet }.ret pm)
      else some (s.begin s.civc.runtimeGet (.takeCtx f privContext))
  | .notifyChanId chanId transId =>
    if notifyChanIdCheck chanId transId then
      match s.civc.moveCb chanId.toNat transId.toNat with
      | .error ret => some (s.ret ret)
      | .ok civc => some (s.begin civc (.addCtx transId.toNat))
    else some (s.ret (- eINVAL))
  | .registerCaptureCb cbFunc chanId privContext pm =>
    match registerCaptureCbCheck cbFunc chanId with
    | .error ret => some (s.ret ret)
    | .ok f =>
      if pm < 0 then some ({ s with civc := s.civc.runtimeGet }.ret pm)
      else some (s.begin s.civc.runtimeGet (.setCapture chanId.toNat f privContext))
  | .unregisterControlCb id =>
    if idIsChannel id then
      match s.civc.clearCb id.toNat with
      | .error ret => some (s.ret ret)
      | .ok (old, civc) =>
        if TRANS_ID_START_IDX ≤ id.toNat then
          some (s.begin civc (.addCtxPut id.toNat old.registration))
        else some (s.begin civc (.putUnregistered old.registration))
    else some (s.ret (- eINVAL))
  | .unregisterCaptureCb chanId =>
    if unregisterCaptureCbCheck chanId then
      match s.civc.clearCb chanId.toNat with
      | .error ret => some (s.ret ret)
      | .ok (old, civc) => some (s.begin civc (.putUnregistered old.registration))
    else some (s.ret (- eINVAL))
  | .goOn i => (s.calls[i]?).map (s.goOn i)
  | .wake =>
    if s.worker = .asleep ∧ 0 < s.civc.runtimeRefs then
      some { s with civc := s.civc.runtimeGet, worker := .receiving }
    else none
  | .sleep =>
    if s.worker = .receiving then some { s with civc := s.civc.runtimePut, worker := .asleep } else none
  | .receive id =>
    if s.worker = .receiving then
      some (if idIsChannel id then { s with worker := .received id.toNat } else s)
    else none
  | .work => s.work

def civcStart : CivcRun := ⟨tegraCaptureIvcProbe, [], .asleep, 0, [], [], []⟩

/-! ### The two services -/

inductive CaptureService where
  | control
  | capture
deriving DecidableEq, Repr

/-- `__scivc_control` and `__scivc_capture`. -/
structure CaptureIvcDriver where
  control : Option CivcRun
  capture : Option CivcRun
deriving DecidableEq, Repr

def CaptureIvcDriver.get (d : CaptureIvcDriver) : CaptureService → Option CivcRun
  | .control => d.control
  | .capture => d.capture

def CaptureIvcDriver.set (d : CaptureIvcDriver) (s : CivcRun) : CaptureService → CaptureIvcDriver
  | .control => { d with control := some s }
  | .capture => { d with capture := some s }

/-- The calls of one service are not calls of the other. -/
def CivcOp.isOf : CivcOp → CaptureService → Bool
  | .registerControlCb .., service => service = .control
  | .notifyChanId .., service => service = .control
  | .unregisterControlCb .., service => service = .control
  | .registerCaptureCb .., service => service = .capture
  | .unregisterCaptureCb .., service => service = .capture
  | _, _ => true

/-- Without the service, a call returns `-ENODEV`. -/
def captureIvcStep (d : CaptureIvcDriver) (op : CaptureService × CivcOp) : Option CaptureIvcDriver :=
  if op.2.isOf op.1 then
    match d.get op.1 with
    | none => some d
    | some s => (civcStep s op.2).map fun s' => d.set s' op.1
  else none

/-! ### What is promised -/

/-- A context is in use by a registration, or by a call under way. -/
def CivcRun.inUse (s : CivcRun) (id : ℕ) : Bool :=
  (s.civc.ctx id).isSome || s.calls.any (CivcCall.holdsCtx id)

/-- The references that are owed: to contexts, to calls under way and to the worker. -/
def CivcRun.owed (s : CivcRun) : ℤ :=
  s.civc.cbCtx.countP Option.isSome + s.calls.countP CivcCall.holdsRef + s.worker.refs

structure CivcRun.Sound (s : CivcRun) : Prop where
  available : ∀ id, s.civc.avlCtxList.count id =
    if ctxIdIsTransaction id = true ∧ s.inUse id = false then 1 else 0
  refs : s.civc.runtimeRefs = s.owed
  registered : ∀ d ∈ s.delivered, d.cbFunc.isSome = true ∧ d.privContext = d.cbFunc
  notLate : ∀ d ∈ s.delivered, d.late = false

def CaptureIvcDriver.Sound (d : CaptureIvcDriver) : Prop :=
  ∀ service s, d.get service = some s → s.Sound

/-! ### When it is kept -/

/-- The device resumes for a registration, no context is cleared while the worker reads it, and the
end of a registration does not return while the worker is about to call its function. -/
def civcCareful (s : CivcRun) : CivcOp → Prop
  | .registerControlCb cbFunc transId _ pm =>
    (registerControlCbCheck cbFunc transId).isOk = true → 0 ≤ pm
  | .registerCaptureCb cbFunc chanId _ pm => (registerCaptureCbCheck cbFunc chanId).isOk = true → 0 ≤ pm
  | .notifyChanId chanId transId =>
    notifyChanIdCheck chanId transId = true →
      (s.civc.moveCb chanId.toNat transId.toNat).isOk = true → s.worker.reads transId.toNat = false
  | .unregisterControlCb id => s.worker.reads id.toNat = false
  | .unregisterCaptureCb chanId =>
    unregisterCaptureCbCheck chanId = true → s.worker.reads chanId.toNat = false
  | .goOn i => (s.calls[i]?).any s.worker.isOutrun = false
  | _ => True

instance civcCareful.decidable (s : CivcRun) (op : CivcOp) : Decidable (civcCareful s op) := by
  cases op with
  | registerControlCb cbFunc transId privContext pm => exact inferInstanceAs (Decidable (_ → _))
  | notifyChanId chanId transId => exact inferInstanceAs (Decidable (_ → _ → _))
  | registerCaptureCb cbFunc chanId privContext pm => exact inferInstanceAs (Decidable (_ → _))
  | unregisterControlCb id => exact inferInstanceAs (Decidable (_ = _))
  | unregisterCaptureCb chanId => exact inferInstanceAs (Decidable (_ → _))
  | goOn i => exact inferInstanceAs (Decidable (_ = _))
  | wake | sleep | receive id | work => exact instDecidableTrue

def captureIvcCareful (d : CaptureIvcDriver) (op : CaptureService × CivcOp) : Prop :=
  match d.get op.1 with
  | none => True
  | some s => civcCareful s op.2

instance captureIvcCareful.decidable (d : CaptureIvcDriver) (op : CaptureService × CivcOp) :
    Decidable (captureIvcCareful d op) := by
  unfold captureIvcCareful
  split
  · exact instDecidableTrue
  · exact civcCareful.decidable _ _

end

end NvidiaOot.Model
