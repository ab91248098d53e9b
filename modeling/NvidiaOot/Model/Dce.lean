import NvidiaOot.Library.Machine
import NvidiaOot.Program.Dce

/-!
# Runs of the display controller engine

The boot and its state machine, the messages and client channels, the calls that wait and the event work.
-/

namespace NvidiaOot.Model

open Function

/-!
## Posts of events at the same time

Any number of posts is under way, from threads, interrupts and callbacks alike: each sets the state,
then its callback returns, then, if that failed, the state is set back.
-/

section

open Library Program

/-- A post that has been accepted: its event, the state before it, whether its callback has failed, and
whether another event has been accepted since. -/
structure DcePost where
  event : DceFsmEvent
  prevState : DceFsmState
  failed : Bool
  later : Bool
deriving DecidableEq, Repr

/-- The machine and its posts.  `outstanding` has the requests that were accepted, by their posts, and
are neither failed nor answered; `aborted` says that an abort has been accepted since the machine was
last started or stopped; the last two say that a state of a later event was overwritten, and that a
request or an answer was accepted in spite of an abort. -/
structure DceFsmRun where
  fsm : DceFsmInfo
  posts : ℕ → Option DcePost
  next : ℕ
  outstanding : List (ℕ × DceWait)
  aborted : Bool
  overwritten : Bool
  acceptedAborted : Bool

inductive DceFsmOp where
  | post (event : DceFsmEvent)
  /-- The callback of a post returns. -/
  | callback (i : ℕ) (ret : ℤ)
  | rollback (i : ℕ)
deriving DecidableEq, Repr

/-- The kind of request that an event makes. -/
def requestKind : DceFsmEvent → Option DceWait
  | .bootCompleteRequested => some .bootComplete
  | .bootCmdMsgRequested => some .bootCmd
  | .adminIpcMsgRequested => some .adminIpc
  | .sc7EnterRequested => some .sc7Enter
  | .logRequested => some .log
  | _ => none

/-- The kind of request that an event answers. -/
def answerKind : DceFsmEvent → Option DceWait
  | .bootCompleteReceived => some .bootComplete
  | .bootCmdMsgReceived => some .bootCmd
  | .adminIpcMsgReceived => some .adminIpc
  | .sc7EnteredReceived => some .sc7Enter
  | .logReadyReceived => some .log
  | _ => none

/-- Events after which no request is outstanding. -/
def dropsRequests (event : DceFsmEvent) : Bool := event = .fsmStart ∨ event = .sc7ExitReceived

def isAbort (event : DceFsmEvent) : Bool :=
  event = .abortReceived ∨ event = .crashLogReceived ∨ event = .logOverflowReceived

/-- Events that no aborted machine accepts: all but those to start and to stop it. -/
def isRequestOrAnswer (event : DceFsmEvent) : Bool :=
  (requestKind event).isSome ∨ (answerKind event).isSome ∨ event = .sc7ExitReceived ∨ isAbort event

/-- The requests that are outstanding after an event of post `i`. -/
def outstandingAfter (outstanding : List (ℕ × DceWait)) (i : ℕ) (event : DceFsmEvent) :
    List (ℕ × DceWait) :=
  if dropsRequests event then []
  else
    match requestKind event, answerKind event with
    | some k, _ => outstanding ++ [(i, k)]
    | none, some k => outstanding.filter fun r => r.2 ≠ k
    | none, none => outstanding

def DceFsmRun.accept (s : DceFsmRun) (event : DceFsmEvent) (fsm : DceFsmInfo) : DceFsmRun where
  fsm := fsm
  posts := fun i =>
    if i = s.next then some ⟨event, s.fsm.cState, false, false⟩
    else (s.posts i).map fun p => { p with later := true }
  next := s.next + 1
  outstanding := outstandingAfter s.outstanding s.next event
  aborted := if isAbort event then true else s.aborted && decide (event ≠ .fsmStop)
  overwritten := s.overwritten
  acceptedAborted := s.acceptedAborted || s.aborted && isRequestOrAnswer event

def dceFsmStep (s : DceFsmRun) : DceFsmOp → Option DceFsmRun
  | .post event =>
    match dceFsmPostLocked s.fsm event with
    | none => some s
    | some fsm => some (s.accept event fsm)
  | .callback i ret =>
    match s.posts i with
    | none => none
    | some p =>
      if p.failed then none
      else if ret = 0 then some { s with posts := update s.posts i none }
      else if p.event.canFail then
        some { s with
          posts := update s.posts i (some { p with failed := true })
          outstanding := s.outstanding.filter fun r => r.1 ≠ i }
      else none
  | .rollback i =>
    match s.posts i with
    | none => none
    | some p =>
      if p.failed then
        some { s with
          fsm := { s.fsm with cState := p.prevState }
          posts := update s.posts i none
          overwritten := s.overwritten || p.later && decide (p.prevState ≠ s.fsm.cState) }
      else none

/-- The machine behind `EVENT_ID_DCE_FSM_START`, with no other post under way. -/
def dceFsmStarted (fsm : DceFsmInfo) : DceFsmRun where
  fsm := dceFsmSetState fsm .fsmStart
  posts := fun _ => none
  next := 0
  outstanding := []
  aborted := false
  overwritten := false
  acceptedAborted := false

/-! ### What is promised -/

structure DceFsmRun.Sound (s : DceFsmRun) : Prop where
  bits : ∀ k : DceWait, s.fsm.requestedIpcs &&& k.bit ≠ 0 ↔ ∃ i, (i, k) ∈ s.outstanding
  notOverwritten : s.overwritten = false
  notAcceptedAborted : s.acceptedAborted = false

/-! ### When it is kept -/

/-- In the state of an abort the machine is stopped and nothing else is posted; a callback fails only
when its request is outstanding no more, or another one of the kind still is; and the state is set
back only if it is the same or no event has been accepted since. -/
def dceFsmCareful (s : DceFsmRun) : DceFsmOp → Prop
  | .post event => s.fsm.cState = .abort → event = .fsmStop
  | .callback i ret =>
    ret ≠ 0 → ∀ r ∈ s.outstanding, r.1 = i → ∃ r' ∈ s.outstanding, r'.1 ≠ i ∧ r'.2 = r.2
  | .rollback i =>
    ∀ p ∈ s.posts i, p.later = true → p.prevState = s.fsm.cState

instance dceFsmCareful.decidable (s : DceFsmRun) (op : DceFsmOp) : Decidable (dceFsmCareful s op) := by
  cases op with
  | post event => exact inferInstanceAs (Decidable (_ → _))
  | callback i ret => exact inferInstanceAs (Decidable (_ → _))
  | rollback i => exact inferInstanceAs (Decidable (∀ p ∈ s.posts i, _))

end

/-!
## Requests, the engine's answers and interrupts

One thread posts requests one after another, the engine answers commands in order and after any delay,
and interrupts run beside the thread, one at a time.  Each has a place in the code, and a step of it
is what happens under one lock or to one flag.
-/

section

open Library Program

/-- The kinds of requests while the engine boots. -/
inductive DceBootKind where
  | boot
  | cmd
deriving DecidableEq, Repr

def DceBootKind.requested : DceBootKind → DceFsmEvent
  | .boot => .bootCompleteRequested
  | .cmd => .bootCmdMsgRequested

def DceBootKind.received : DceBootKind → DceFsmEvent
  | .boot => .bootCompleteReceived
  | .cmd => .bootCmdMsgReceived

/-- Where the thread is: in the handler of `BOOT_COMPLETE_REQUESTED`, before it reads the bit, before it
posts that the boot is complete, before the callback of that, before it resets the wait, or in the
wait; in the handler of `BOOT_CMD_MSG_REQUESTED`, before it sends, in the wait, or before it reads the
status, the wait interrupted or not; or behind a handler.  `prev` is the state before the request. -/
inductive DceThread where
  | idle
  | bootRead (prev : DceFsmState)
  | bootPost (prev : DceFsmState)
  | bootWake (prev : DceFsmState)
  | bootReset (prev : DceFsmState) (ret : ℤ)
  | bootWait (prev : DceFsmState)
  | cmdSend (prev : DceFsmState)
  | cmdWait (prev : DceFsmState)
  | cmdStatus (prev : DceFsmState) (interrupted : Bool)
  | returning (prev : DceFsmState) (ret : ℤ) (interrupted : Bool)
deriving DecidableEq, Repr

/-- Where the interrupt is: the status is stored, is to be stored again, the event is to be posted, or
its callback is to wake the thread. -/
inductive DceIsr where
  | idle
  | stored (k : DceBootKind)
  | storeAgain (status : U32)
  | post (k : DceBootKind)
  | wake (k : DceBootKind)
deriving DecidableEq, Repr

/-- A request has come back: with this value, its answer received or not, its wait interrupted or not. -/
structure DceBootReturn where
  ret : ℤ
  answered : Bool
  interrupted : Bool
deriving DecidableEq, Repr

/-- The machine, the completions, the bit of the engine's semaphore, the mailbox, the commands that the
engine has taken, the thread and the interrupt; the number of the request, whether its answer has been
received, what requests returned, and whether one was posted with a completion of its kind left. -/
structure DceBootRun where
  fsm : DceFsmInfo
  complete : DceBootKind → Bool
  sema : Bool
  mb : DceMailbox
  commands : List ℕ
  thread : DceThread
  isr : DceIsr
  tag : ℕ
  answered : Bool
  returns : List DceBootReturn
  leftover : Bool

inductive DceBootOp where
  | request (k : DceBootKind)
  /-- The thread goes on. -/
  | thread
  /-- The wait of the thread ends early. -/
  | interrupt
  /-- The engine sets or clears the bit. -/
  | sema (b : Bool)
  /-- The engine takes a command. -/
  | take
  /-- The interrupt with the status of a command. -/
  | answer (status : U32)
  /-- The interrupt that the engine is ready. -/
  | ready
  /-- The interrupt goes on. -/
  | isr
deriving DecidableEq, Repr

/-- The thread is in a handler that waits for the boot. -/
def DceThread.awaitsBoot : DceThread → Bool
  | .bootRead _ | .bootPost _ | .bootWait _ => true
  | _ => false

/-- The thread has sent a command and has not read its status. -/
def DceThread.awaitsCmd : DceThread → Bool
  | .cmdWait _ | .cmdStatus _ _ => true
  | _ => false

def DceThread.postsBoot : DceThread → Bool
  | .bootPost _ => true
  | _ => false

def DceThread.waitsCmd : DceThread → Bool
  | .cmdWait _ => true
  | _ => false

def DceBootKind.start : DceBootKind → DceFsmState → DceThread
  | .boot => .bootRead
  | .cmd => .cmdSend

namespace DceBootRun

def setComplete (s : DceBootRun) (k : DceBootKind) (b : Bool) : DceBootRun :=
  { s with complete := update s.complete k b }

def request (s : DceBootRun) (k : DceBootKind) : DceBootRun :=
  let s := { s with tag := s.tag + 1, answered := false, leftover := s.leftover || s.complete k }
  match dceFsmPostLocked s.fsm k.requested with
  | none => { s with returns := s.returns ++ [⟨-eINVAL, false, false⟩] }
  | some fsm => { s with fsm := fsm, thread := k.start s.fsm.cState }

def threadStep (s : DceBootRun) : Option DceBootRun :=
  match s.thread with
  | .idle => none
  | .bootRead prev =>
    -- A bit that is set is an answer.
    if s.sema then some { s with thread := .bootPost prev, answered := true }
    else some { s with thread := .bootWait prev }
  | .bootPost prev =>
    match dceFsmPostLocked s.fsm .bootCompleteReceived with
    | none => some { s with thread := .bootReset prev (-eINVAL) }
    | some fsm => some { s with fsm := fsm, thread := .bootWake prev }
  | .bootWake prev => some { s.setComplete .boot true with thread := .bootReset prev 0 }
  | .bootReset prev ret =>
    some { s.setComplete .boot false with thread := .returning prev ret false }
  | .bootWait prev =>
    if s.complete .boot then
      some { s.setComplete .boot false with thread := .returning prev 0 false }
    else none
  | .cmdSend prev =>
    (dceMailboxSendCmd s.mb s.tag).map fun r =>
      { s with mb := r.1, thread := r.2.elim (.cmdWait prev) fun ret => .returning prev ret false }
  | .cmdWait prev =>
    if s.complete .cmd then
      some { s.setComplete .cmd false with thread := .cmdStatus prev false }
    else none
  | .cmdStatus prev interrupted =>
    some { s with thread := .returning prev (dceMailboxWaitBootInterfaceResult s.mb) interrupted }
  | .returning prev ret interrupted =>
    some { s with
      fsm := if ret = 0 then s.fsm else { s.fsm with cState := prev }
      thread := .idle
      returns := s.returns ++ [⟨ret, s.answered, interrupted⟩] }

def isrStep (s : DceBootRun) : Option DceBootRun :=
  match s.isr with
  | .idle => none
  | .stored k =>
    match dceBootInterfaceIsr s.mb with
    | none => some { s with isr := .idle }
    | some event =>
      if event = .bootCmdMsgReceived then
        some { s with isr := .storeAgain (dceMailboxGetInterfaceStatus s.mb) }
      else some { s with isr := .post k }
  | .storeAgain status =>
    (dceMailboxStoreInterfaceStatus s.mb status).map fun mb => { s with mb := mb, isr := .post .cmd }
  | .post k =>
    match dceFsmPostLocked s.fsm k.received with
    | none => some { s with isr := .idle }
    | some fsm => some { s with fsm := fsm, isr := .wake k }
  | .wake k => some { s.setComplete k true with isr := .idle }

end DceBootRun

def dceBootStep (s : DceBootRun) : DceBootOp → Option DceBootRun
  | .request k => if s.thread = .idle then some (s.request k) else none
  | .thread => s.threadStep
  | .interrupt =>
    match s.thread with
    | .bootWait prev =>
      if s.complete .boot then none else some { s with thread := .returning prev (-eINTR) true }
    | .cmdWait prev => if s.complete .cmd then none else some { s with thread := .cmdStatus prev true }
    | _ => none
  | .sema b => some { s with sema := b }
  | .take =>
    match s.mb.sMb with
    | none => none
    | some tag => some { s with mb := { s.mb with sMb := none }, commands := s.commands ++ [tag] }
  | .answer status =>
    match s.commands with
    | [] => none
    | tag :: commands =>
      if s.isr = .idle ∧ dceIrqGetStatusType status = DCE_IRQ_STATUS_TYPE_BOOT_CMD ∧
          status ≠ 0xffffffff then
        (dceMailboxStoreInterfaceStatus s.mb status).map fun mb =>
          { s with
            mb := mb
            commands := commands
            isr := .stored .cmd
            answered := s.answered || s.thread.awaitsCmd && decide (tag = s.tag) }
      else none
  | .ready =>
    if s.isr = .idle ∧ s.sema = true then
      (dceMailboxStoreInterfaceStatus s.mb DCE_IRQ_READY).map fun mb =>
        { s with
          mb := mb
          isr := .stored .boot
          answered := s.answered || s.thread.awaitsBoot }
    else none
  | .isr => s.isrStep

/-- An idle machine, with anything in the mailbox but no command. -/
def dceBootStart (requestedIpcs : U32) (sema : Bool) (ackValue : U32) (valid : Bool) : DceBootRun where
  fsm := ⟨true, .fsmIdle, requestedIpcs⟩
  complete := fun _ => false
  sema := sema
  mb := ⟨none, ackValue, valid, false⟩
  commands := []
  thread := .idle
  isr := .idle
  tag := 0
  answered := false
  returns := []
  leftover := false

/-! ### What is promised -/

/-- A request returns 0 only with its answer, and with its answer if its wait was not interrupted. -/
structure DceBootReturn.Right (r : DceBootReturn) : Prop where
  zero : r.ret = 0 → r.answered = true
  answered : r.answered = true → r.interrupted = false → r.ret = 0

structure DceBootRun.Sound (s : DceBootRun) : Prop where
  returns : ∀ r ∈ s.returns, r.Right
  noLeftover : s.leftover = false

/-! ### When it is kept -/

/-- The interrupt is about this kind of request. -/
def DceIsr.isOf (isr : DceIsr) (k : DceBootKind) : Bool :=
  match isr with
  | .idle => false
  | .stored j => j = k
  | .storeAgain _ => .cmd = k
  | .post j => j = k
  | .wake j => j = k

/-- A request is posted when no answer to an earlier one is on its way or being handled; a wait is not
interrupted between the acceptance of its answer and its wake, and its answer is not accepted behind
the interruption; the handler of the boot posts its event only if none was accepted before; a status
has no error; and no interrupt of readiness comes between the answer to a command and the read of its
status. -/
def dceBootCareful (s : DceBootRun) : DceBootOp → Prop
  | .request .boot => s.isr.isOf .boot = false
  | .request .cmd => s.mb.sMb = none ∧ s.commands = [] ∧ s.isr.isOf .cmd = false
  | .thread => s.thread.postsBoot = true → s.fsm.cState = .bootWait
  | .interrupt => s.isr ≠ .wake .boot ∧ s.isr ≠ .wake .cmd
  | .sema _ => True
  | .take => True
  | .answer status => status &&& DCE_BOOT_CMD_ERR_FLAG = 0
  | .ready => s.thread.awaitsCmd = true → s.answered = false
  | .isr =>
    (s.isr = .post .boot → s.fsm.cState = .bootWait → s.thread.awaitsBoot = true) ∧
      (s.isr = .post .cmd → s.fsm.cState = .bootcmdWfi → s.thread.waitsCmd = true)

instance dceBootCareful.decidable (s : DceBootRun) (op : DceBootOp) : Decidable (dceBootCareful s op) := by
  unfold dceBootCareful
  split <;> infer_instance

end

/-!
## A message from one end to the other

The peer sends a message, and may put another length in its header; then the frame is read.
-/

section

open Library Program

/-- The frame, of `frameSize` bytes, with any contents; the message; the length that the peer puts
in the header instead of the one that was sent; the receive buffer; and what the queues say. -/
structure DceExchange where
  frameSize : U32
  frame : ℕ → U8
  writer : IvcFrameKind
  writeNext : Option ℤ
  data : ℕ → U8
  size : U64
  writeAdvance : ℤ
  header : Option U32
  reader : IvcFrameKind
  readNext : Option ℤ
  bufferSize : U64
  readAdvance : ℤ

namespace DceExchange

def sent (x : DceExchange) : DceIpcCall :=
  dceIpcSendMessage x.writer true x.writeNext x.frame (some x.data) x.size x.writeAdvance

/-- The frame as it is when it is read. -/
def arrived (x : DceExchange) : ℕ → U8 :=
  match x.header with
  | some length => putWord x.sent.frame 0 length
  | none => x.sent.frame

/-- The frame is read by this kind of code. -/
def readBy (x : DceExchange) (kind : IvcFrameKind) : DceIpcCall :=
  dceIpcReadMessage kind true x.readNext x.arrived true x.bufferSize x.readAdvance

def read (x : DceExchange) : DceIpcCall := x.readBy x.reader

end DceExchange

/-! ### What is promised -/

def DceIpcCall.InFrame (c : DceIpcCall) (frameSize : U32) : Prop :=
  ∀ a ∈ c.accessed, a.1 + a.2 ≤ frameSize.toNat

/-- What is promised of a read of any frame. -/
structure DceExchange.ReadSound (x : DceExchange) : Prop where
  inBuffer : x.read.copied.length ≤ x.bufferSize.toNat
  inFrame : DceIpcCall.InFrame x.read x.frameSize
  unmodified : x.read.frame = x.arrived
  same : (x.readBy .iosysMap).copied = (x.readBy .pointer).copied

structure DceExchange.Sound (x : DceExchange) : Prop where
  send : x.sent.ret = 0 → DceIpcCall.InFrame x.sent x.frameSize
  read : x.ReadSound
  intact : x.writeNext = none → x.sent.ret = 0 → x.header = none → x.readNext = none → x.read.ret = 0 →
    ∀ i < min x.size.toNat x.bufferSize.toNat, x.read.copied[i]? = some (x.data i)

/-! ### When it is kept -/

/-- The length in the header of the frame that arrives. -/
def DceExchange.length (x : DceExchange) : U32 :=
  x.header.getD (if x.writeNext = none then x.size.setWidth 32 else getWord x.frame 0)

/-- A message that is sent fits the frame with its header, and a frame that is read has a message of
just the length of the buffer, which fits the frame with the header. -/
structure DceExchange.Fits (x : DceExchange) : Prop where
  send : x.writeNext = none → x.writeAdvance = 0 → SIZEOF_DCE_IPC_HEADER + x.size.toNat ≤ x.frameSize.toNat
  buffer : x.readNext = none → x.length.toNat = x.bufferSize.toNat
  frame : x.readNext = none → SIZEOF_DCE_IPC_HEADER + x.bufferSize.toNat ≤ x.frameSize.toNat

end

/-!
## Runs of the clients of the display controller engine

Clients register and unregister and send messages with any handles; between their calls the engine
signals channels, and the work for its events runs.
-/

section

open Library Program

/-- The tables, and the handles that were issued and not unregistered. -/
structure ClientRun where
  tables : ClientTables
  issued : List U32

inductive ClientOp where
  | register (type : U32) (callbackFn : Option ℕ) (data : ℕ) (handlep : Bool) (env : RegisterEnv)
  | unregister (handle : U32)
  | sendRecv (handle : U32) (msg : Bool) (env : SendEnv)
  | wakeup (d chType : ℕ)
  | eventWork (d : ℕ)

def clientCall (s : ClientTables) : ClientOp → ClientCall
  | .register type callbackFn data handlep env =>
    (tegraDceRegisterIpcClient s type callbackFn data handlep env).2
  | .unregister handle => tegraDceUnregisterIpcClient s handle
  | .sendRecv handle msg env => tegraDceClientIpcSendRecv s handle msg env
  | .wakeup d chType => ⟨some 0, dceClientIpcWakeup s d chType, []⟩
  | .eventWork d => ⟨some 0, s, (dceClientAsyncEventWork s d).2⟩

def ClientRun.handlesAfter (s : ClientRun) : ClientOp → List U32
  | .register type callbackFn data handlep env =>
    let (handle, call) := tegraDceRegisterIpcClient s.tables type callbackFn data handlep env
    if call.ret = some 0 then handle.toList ++ s.issued else s.issued
  | .unregister handle =>
    if (tegraDceUnregisterIpcClient s.tables handle).ret = some 0 then
      s.issued.filter (· ≠ handle)
    else s.issued
  | .sendRecv _ _ _ | .wakeup _ _ | .eventWork _ => s.issued

def clientStep (s : ClientRun) (op : ClientOp) : Option ClientRun :=
  some ⟨(clientCall s.tables op).tables, s.handlesAfter op⟩

def clientStart : ClientRun := ⟨⟨fun _ => ClientIpc.zero, fun _ _ => none⟩, []⟩

/-! ### What is promised -/

/-- A handle is usable: its entry is valid, a caller that waits for an answer finds an entry to wait
at, and the events of the engine reach the client, if it is for events. -/
def ClientUsable (s : ClientTables) (handle : U32) : Prop :=
  ∃ i d, dceClientIpcLookupHandle handle = some i ∧ (s.clientHandles i).valid = true ∧
    (s.clientHandles i).handle = handle ∧ (s.clientHandles i).d = some d ∧
    (dceClientIpcWaitEntry s d (s.clientHandles i).intType).1.isSome = true ∧
    ((s.clientHandles i).type = DCE_CLIENT_IPC_TYPE_RM_EVENT →
      s.dClients d DCE_CLIENT_IPC_TYPE_RM_EVENT = some i)

structure ClientRun.Sound (s : ClientRun) : Prop where
  /-- `d_clients[t]` is `NULL` or a valid entry whose type is `t`. -/
  clients : ∀ d type i, s.tables.dClients d type = some i →
    i < DCE_CLIENT_IPC_TYPE_MAX ∧ (s.tables.clientHandles i).valid = true ∧
      (s.tables.clientHandles i).type = type
  usable : ∀ handle ∈ s.issued, ClientUsable s.tables handle

/-- The same registrations: only flags for answers differ. -/
def SameRegistrations (s s' : ClientTables) : Prop :=
  s'.dClients = s.dClients ∧
    ∀ i, { s'.clientHandles i with complete := false } = { s.clientHandles i with complete := false }

structure ClientCallSound (s : ClientTables) (op : ClientOp) : Prop where
  /-- Of an entry that is not valid only the flag `valid` is read. -/
  stale : (clientCall s op).stale = []
  /-- A call that fails changes neither table; a message that fails may have consumed an answer. -/
  failed : ∀ ret, (clientCall s op).ret = some ret → ret ≠ 0 →
    SameRegistrations s (clientCall s op).tables ∧
      ((∀ handle msg env, op ≠ .sendRecv handle msg env) → (clientCall s op).tables = s)

/-! ### The condition -/

/-- Another entry than `i` is for the same device and type. -/
def HasTwin (s : ClientTables) (d : Option ℕ) (type i : ℕ) : Prop :=
  ∃ j < DCE_CLIENT_IPC_TYPE_MAX, j ≠ i ∧ (s.clientHandles j).valid = true ∧
    (s.clientHandles j).d = d ∧ (s.clientHandles j).type = type

instance HasTwin.decidable (s : ClientTables) (d : Option ℕ) (type i : ℕ) :
    Decidable (HasTwin s d type i) := by
  unfold HasTwin
  infer_instance

/-- The entry of a handle is valid, if it has one. -/
def HandleFresh (s : ClientTables) (handle : U32) : Prop :=
  ∀ i ∈ dceClientIpcLookupHandle handle, (s.clientHandles i).valid = true

instance HandleFresh.decidable (s : ClientTables) (handle : U32) : Decidable (HandleFresh s handle) := by
  unfold HandleFresh
  infer_instance

/-- A registration that gets an entry and then fails, or is for events, is the only one of its
type; a client that unregisters is, too; and the handles of unregistrations and messages are of
valid entries. -/
def ClientRun.Careful (s : ClientRun) : ClientOp → Prop
  | .register type _ _ handlep env =>
    handlep = true → type.toNat < DCE_CLIENT_IPC_TYPE_MAX → env.dce.isSome = true →
      env.bootWait = 0 → (dceClientIpcHandleAlloc s.tables).isSome = true →
      (env.condInit ≠ 0 ∨ type.toNat = DCE_CLIENT_IPC_TYPE_RM_EVENT) →
      ¬ HasTwin s.tables env.dce type.toNat DCE_CLIENT_IPC_TYPE_MAX
  | .unregister handle =>
    HandleFresh s.tables handle ∧ ∀ i ∈ dceClientIpcLookupHandle handle,
      ¬ HasTwin s.tables (s.tables.clientHandles i).d (s.tables.clientHandles i).type i
  | .sendRecv handle msg _ => msg = true → HandleFresh s.tables handle
  | .wakeup _ _ | .eventWork _ => True

instance ClientRun.decidableCareful (s : ClientRun) : ∀ op, Decidable (s.Careful op)
  | .register .. => inferInstanceAs (Decidable (_ → _ → _ → _ → _ → (_ ∨ _) → ¬ _))
  | .unregister handle => inferInstanceAs (Decidable (HandleFresh s.tables handle ∧ ∀ i ∈ _, _))
  | .sendRecv .. => inferInstanceAs (Decidable (_ → _))
  | .wakeup _ _ | .eventWork _ => isTrue trivial

end

/-!
## Calls of any number of threads

Each call is at one of four places: it waits, it has seen the flag, it has cleared it, or it has
returned.  The engine answers in order and interrupts for each answer, and an interrupt that is
pending stands for any number.
-/

section

open Library Program

inductive DceCallPhase where
  | waiting
  | woken
  | cleared
deriving DecidableEq, Repr

structure DceCall where
  message : ℕ
  phase : DceCallPhase
deriving DecidableEq, Repr

/-- The handler of the interrupt, before it looks for data and before it sets the flag. -/
inductive DceSignalPhase where
  | idle
  | look
  | wake
deriving DecidableEq, Repr

/-- The channel, what the engine has taken and not answered, the interrupt, the calls under way in the
order of their messages, and for each call that has read an answer its message and the answer. -/
structure DceSyncRun where
  ch : DceSyncChannel
  engine : List ℕ
  pending : Bool
  handler : DceSignalPhase
  calls : List DceCall
  next : ℕ
  returns : List (ℕ × ℕ)
deriving DecidableEq, Repr

inductive DceSyncOp where
  | send
  | wake (message : ℕ)
  | clear (message : ℕ)
  | read (message : ℕ)
  /-- The engine takes a message. -/
  | take
  /-- The engine answers and interrupts. -/
  | answer
  /-- The interrupt is taken. -/
  | interrupt
  /-- The handler of the interrupt goes on. -/
  | handle
deriving DecidableEq, Repr

namespace DceSyncRun

def move (s : DceSyncRun) (message : ℕ) (phase : DceCallPhase) : DceSyncRun :=
  { s with calls := s.calls.map fun c => if c.message = message then ⟨message, phase⟩ else c }

def leave (s : DceSyncRun) (message : ℕ) : DceSyncRun :=
  { s with calls := s.calls.filter fun c => c.message ≠ message }

end DceSyncRun

def dceSyncStep (s : DceSyncRun) : DceSyncOp → Option DceSyncRun
  | .send =>
    match dceSyncSendMessage s.ch s.next with
    | none => some s
    | some ch => some { s with ch := ch, calls := s.calls ++ [⟨s.next, .waiting⟩], next := s.next + 1 }
  | .wake message =>
    if ⟨message, .waiting⟩ ∈ s.calls ∧ dceClientIpcWaitEnds s.ch = true then
      some (s.move message .woken)
    else none
  | .clear message =>
    if ⟨message, .woken⟩ ∈ s.calls then
      some { s.move message .cleared with ch := dceClientIpcClear s.ch }
    else none
  | .read message =>
    if ⟨message, .cleared⟩ ∈ s.calls then
      match dceSyncReadMessage s.ch with
      | none => some (s.leave message)
      | some (answer, ch) =>
        some { s.leave message with ch := ch, returns := s.returns ++ [(message, answer)] }
    else none
  | .take =>
    match s.ch.tx with
    | [] => none
    | message :: tx => some { s with ch := { s.ch with tx := tx }, engine := s.engine ++ [message] }
  | .answer =>
    match s.engine with
    | [] => none
    | message :: engine =>
      if s.ch.rx.length < s.ch.nframes then
        some { s with
          ch := { s.ch with rx := s.ch.rx ++ [message] }
          engine := engine
          pending := true }
      else none
  | .interrupt =>
    if s.pending = true ∧ s.handler = .idle then some { s with pending := false, handler := .look }
    else none
  | .handle =>
    match s.handler with
    | .idle => none
    | .look => some { s with handler := if dceIpcIsDataAvailable s.ch then .wake else .idle }
    | .wake => some { s with ch := dceSyncWakeup s.ch, handler := .idle }

def dceSyncStart (nframes : ℕ) : DceSyncRun where
  ch := ⟨nframes, [], [], false⟩
  engine := []
  pending := false
  handler := .idle
  calls := []
  next := 0
  returns := []

/-! ### What is promised -/

/-- A call that waits for what is in the channel is on its way to be woken. -/
def DceSyncRun.NotStuck (s : DceSyncRun) : Prop :=
  ∀ c ∈ s.calls, c.phase = .waiting → c.message ∈ s.ch.rx →
    s.pending = true ∨ s.handler ≠ .idle ∨ s.ch.complete = true

structure DceSyncRun.Sound (s : DceSyncRun) : Prop where
  own : ∀ r ∈ s.returns, r.2 = r.1
  once : (s.returns.map Prod.snd).Nodup
  notStuck : s.NotStuck

/-! ### When it is kept -/

/-- A message is sent when no call before it is to clear the flag, nor to read where the channel has
room for more than one answer. -/
def dceSyncCareful (s : DceSyncRun) : DceSyncOp → Prop
  | .send => ∀ c ∈ s.calls, c.phase = .cleared ∧ s.ch.nframes ≤ 1
  | _ => True

instance dceSyncCareful.decidable (s : DceSyncRun) (op : DceSyncOp) : Decidable (dceSyncCareful s op) := by
  cases op with
  | send => exact inferInstanceAs (Decidable (∀ c ∈ s.calls, _))
  | wake message | clear message | read message | take | answer | interrupt | handle => exact instDecidableTrue

end

/-!
## Events under any interleaving

The engine publishes events and interrupts for them; an interrupt that is pending stands for any
number.  Any number of handlers are in progress, and each looks for data, goes over the work items one
by one and queues the one that it has taken.  The client is registered, and allocations succeed.

Events are numbered in the order in which they are published.
-/

section

open Library Program

/-- What a handler of the interrupt does next: it looks for data, it tries a work item, or it queues
the one that it has taken. -/
inductive DceEventHandlerPhase where
  | look
  | scan (i : U8)
  | queue (i : ℕ)
deriving DecidableEq, Repr

/-- A handler, and the number of events whose interrupt it handles. -/
structure DceEventHandler where
  covers : ℕ
  phase : DceEventHandlerPhase
deriving DecidableEq, Repr

/-- What the worker does next, for which item: it checks for data, reads an event, calls back, or clears
`in_use`. -/
inductive DceEventWorker where
  | idle
  | check (i : ℕ)
  | read (i : ℕ)
  | callback (i event : ℕ)
  | clear (i : ℕ)
deriving DecidableEq, Repr

/-- The events that are not read, the numbers of those published, interrupted for and handled, and those
passed to the callback. -/
structure DceEventRun where
  info : DceAsyncIpcInfo
  worker : DceEventWorker
  handlers : List DceEventHandler
  unread : List ℕ
  published : ℕ
  raised : ℕ
  pending : Bool
  handled : ℕ
  callbacks : List ℕ
deriving DecidableEq, Repr

inductive DceEventOp where
  /-- The engine publishes an event. -/
  | publish
  /-- It interrupts. -/
  | raise
  /-- The interrupt is taken. -/
  | interrupt
  /-- A handler goes on. -/
  | handle (j : ℕ)
  /-- The worker goes on. -/
  | work
deriving DecidableEq, Repr

namespace DceEventRun

def next (s : DceEventRun) (j : ℕ) (h : DceEventHandler) (phase : DceEventHandlerPhase) : DceEventRun :=
  { s with handlers := s.handlers.set j { h with phase := phase } }

def finish (s : DceEventRun) (j : ℕ) (h : DceEventHandler) : DceEventRun :=
  { s with handlers := s.handlers.eraseIdx j, handled := max s.handled h.covers }

/-- The next step of a handler.
SOURCE: drivers/platform/tegra/dce/dce-admin.c:74-91, dce-client-ipc.c:334-353 -/
def handle (s : DceEventRun) (j : ℕ) (h : DceEventHandler) : DceEventRun :=
  match h.phase with
  | .look => if s.unread.isEmpty then s.finish j h else s.next j h (.scan 0)
  | .scan i =>
    if i.toNat < s.info.inUse.length then
      match s.info.take i.toNat with
      | none => s.next j h (.scan (i + 1))
      | some info => { s.next j h (.queue i.toNat) with info := info }
    else s.finish j h
  | .queue i => { s.finish j h with info := s.info.queueWork i }

/-- The next step of the worker.
SOURCE: drivers/platform/tegra/dce/dce-client-ipc.c:107-118, 296-332 -/
def work (s : DceEventRun) : Option DceEventRun :=
  match s.worker with
  | .idle => s.info.dequeue.map fun result => { s with worker := .check result.1, info := result.2 }
  | .check i => some { s with worker := if s.unread.isEmpty then .clear i else .read i }
  | .read i =>
    match s.unread with
    | [] => some { s with worker := .clear i }
    | event :: unread => some { s with worker := .callback i event, unread := unread }
  | .callback i event => some { s with worker := .check i, callbacks := s.callbacks ++ [event] }
  | .clear i => some { s with worker := .idle, info := s.info.setInUse i false }

end DceEventRun

def dceEventStep (s : DceEventRun) : DceEventOp → Option DceEventRun
  | .publish => some { s with unread := s.unread ++ [s.published], published := s.published + 1 }
  | .raise => some { s with raised := s.published, pending := true }
  | .interrupt =>
    if s.pending then
      some { s with pending := false, handlers := s.handlers ++ [⟨s.raised, .look⟩] }
    else none
  | .handle j => (s.handlers[j]?).map (s.handle j)
  | .work => s.work

/-- Nothing has happened, and no item is in use. -/
def dceEventStart (count : ℕ) : DceEventRun :=
  ⟨DceAsyncIpcInfo.init count, .idle, [], [], 0, 0, false, 0, []⟩

/-! ### What is promised -/

/-- The worker will check for data before its item ends. -/
def DceEventWorker.willCheck : DceEventWorker → Bool
  | .check _ => true
  | .read _ => true
  | .callback _ _ => true
  | _ => false

def DceEventHandler.willQueue (h : DceEventHandler) : Bool :=
  match h.phase with
  | .queue _ => true
  | _ => false

/-- Some item is queued, is about to be queued, or will check for data. -/
def DceEventRun.Active (s : DceEventRun) : Prop :=
  s.info.eventWq ≠ [] ∨ (∃ h ∈ s.handlers, h.willQueue = true) ∨ s.worker.willCheck = true

/-- The event that the worker has read and not passed on. -/
def DceEventWorker.event : DceEventWorker → List ℕ
  | .callback _ event => [event]
  | _ => []

structure DceEventRun.Sound (s : DceEventRun) : Prop where
  notLost : (∃ event ∈ s.unread, event < s.handled) → s.Active
  inOrder : s.callbacks ++ s.worker.event ++ s.unread = List.range s.published

end

end NvidiaOot.Model
