import NvidiaOot.Library.WordBytes
import NvidiaOot.Program.Types

/-!
# The display controller engine

The driver of the DCE: its state machine and boot, the messages and the client channels, the calls that wait for an
answer, and the events that it handles in a work item.

Sources are in `drivers/platform/tegra/dce/`.
-/

namespace NvidiaOot.Program

open Function

/-!
## The state machine of the display controller engine

Each event is checked against the state, sets the state and the requests that are outstanding, and
then runs a callback.  The checks and the new states are tables.
-/

/-- `enum dce_fsm_event_id_type`
SOURCE: drivers/platform/tegra/dce/include/dce-fsm.h:16-34 -/
inductive DceFsmEvent where
  | invalid
  | fsmStart
  | bootCompleteRequested
  | bootCompleteReceived
  | bootCmdMsgRequested
  | bootCmdMsgReceived
  | adminIpcMsgRequested
  | adminIpcMsgReceived
  | sc7EnterRequested
  | sc7EnteredReceived
  | sc7ExitReceived
  | logRequested
  | logReadyReceived
  | abortReceived
  | crashLogReceived
  | logOverflowReceived
  | fsmStop
deriving DecidableEq, Repr

/-- `enum dce_fsm_state`
SOURCE: drivers/platform/tegra/dce/include/dce-fsm.h:39-49 -/
inductive DceFsmState where
  | invalid
  | fsmIdle
  | bootWait
  | bootcmdWfi
  | adminWfi
  | sc7EnterWfi
  | sc7Entered
  | logReadyWfi
  | abort
deriving DecidableEq, Repr

/-- `DCE_WAIT_BOOT_COMPLETE` to `DCE_WAIT_LOG`
SOURCE: drivers/platform/tegra/dce/include/dce-worker.h:15-20 -/
inductive DceWait where
  | bootComplete
  | bootCmd
  | adminIpc
  | sc7Enter
  | log
deriving DecidableEq, Repr

def DceWait.id : DceWait → ℕ
  | .bootComplete => 0
  | .bootCmd => 1
  | .adminIpc => 2
  | .sc7Enter => 3
  | .log => 4

/-- `DCE_BIT` of a kind of request -/
def DceWait.bit (k : DceWait) : U32 := (1 : U32) <<< k.id

/-- `struct dce_fsm_info`
SOURCE: drivers/platform/tegra/dce/include/dce-fsm.h:60-66 -/
structure DceFsmInfo where
  initialized : Bool
  cState : DceFsmState
  requestedIpcs : U32
deriving DecidableEq, Repr

namespace DceFsmInfo

/-- A request has been posted, and the machine waits in this state. -/
def request (fsm : DceFsmInfo) (state : DceFsmState) (k : DceWait) : DceFsmInfo :=
  { fsm with cState := state, requestedIpcs := fsm.requestedIpcs ||| k.bit }

/-- The answer to a request has come. -/
def answer (fsm : DceFsmInfo) (state : DceFsmState) (k : DceWait) : DceFsmInfo :=
  { fsm with cState := state, requestedIpcs := fsm.requestedIpcs &&& ~~~k.bit }

end DceFsmInfo

/-- SOURCE: dce-fsm.c:125-211 -/
def dceFsmSetState (fsm : DceFsmInfo) : DceFsmEvent → DceFsmInfo
  | .fsmStart => { fsm with cState := .fsmIdle, requestedIpcs := 0 }
  | .bootCompleteRequested => fsm.request .bootWait .bootComplete
  | .bootCompleteReceived => fsm.answer .fsmIdle .bootComplete
  | .bootCmdMsgRequested => fsm.request .bootcmdWfi .bootCmd
  | .bootCmdMsgReceived => fsm.answer .fsmIdle .bootCmd
  | .adminIpcMsgRequested => fsm.request .adminWfi .adminIpc
  | .adminIpcMsgReceived => fsm.answer .fsmIdle .adminIpc
  | .sc7EnterRequested => fsm.request .sc7EnterWfi .sc7Enter
  | .sc7EnteredReceived => fsm.answer .sc7Entered .sc7Enter
  | .sc7ExitReceived => { fsm with cState := .fsmIdle, requestedIpcs := 0 }
  | .logRequested => fsm.request .logReadyWfi .log
  | .logReadyReceived => fsm.answer .fsmIdle .log
  | .fsmStop => { fsm with cState := .invalid }
  | .abortReceived | .crashLogReceived | .logOverflowReceived => { fsm with cState := .abort }
  | .invalid => fsm

/-- The events of a state in which the machine waits for `received`, apart from that a request to enter
SC7 may come. -/
def dceFsmWaitAccepts (received : DceFsmEvent) (event : DceFsmEvent) : Bool :=
  event = received ∨ event = .abortReceived ∨ event = .crashLogReceived ∨
    event = .logOverflowReceived ∨ event = .fsmStop

/-- The events of each state.  The `switch` of the source has no `case` for `STATE_DCE_ABORT`, and its
`default` leaves `ret` at zero.
SOURCE: dce-fsm.c:241-372 -/
def dceFsmStateAccepts (state : DceFsmState) (event : DceFsmEvent) : Bool :=
  match state with
  | .invalid => event = .fsmStart
  | .fsmIdle =>
    ¬ (event = .bootCompleteReceived ∨ event = .bootCmdMsgReceived ∨ event = .adminIpcMsgReceived ∨
      event = .sc7EnteredReceived ∨ event = .logReadyReceived ∨ event = .fsmStart)
  | .bootWait => dceFsmWaitAccepts .bootCompleteReceived event ∨ event = .sc7EnterRequested
  | .bootcmdWfi => dceFsmWaitAccepts .bootCmdMsgReceived event ∨ event = .sc7EnterRequested
  | .adminWfi => dceFsmWaitAccepts .adminIpcMsgReceived event ∨ event = .sc7EnterRequested
  | .sc7EnterWfi => dceFsmWaitAccepts .sc7EnteredReceived event
  | .logReadyWfi => dceFsmWaitAccepts .logReadyReceived event ∨ event = .sc7EnterRequested
  | .sc7Entered => event = .sc7ExitReceived
  | .abort => true

/-- SOURCE: dce-fsm.c:223-384 -/
def dceFsmValidateEvent (fsm : DceFsmInfo) (event : DceFsmEvent) : ℤ :=
  if fsm.initialized = false then -eINVAL
  else if dceFsmStateAccepts fsm.cState event then 0
  else -eINVAL

/-- The events whose callbacks do more than to wake a thread, to schedule a work or nothing: the others
return 0.
SOURCE: dce-fsm.c:17-82 -/
def DceFsmEvent.canFail : DceFsmEvent → Bool
  | .bootCompleteRequested | .bootCmdMsgRequested | .adminIpcMsgRequested | .sc7EnterRequested => true
  | _ => false

/-- The locked part of `dce_fsm_post_event`: `none` where the event is not accepted.
SOURCE: dce-fsm.c:428-438 -/
def dceFsmPostLocked (fsm : DceFsmInfo) (event : DceFsmEvent) : Option DceFsmInfo :=
  if dceFsmValidateEvent fsm event = 0 then some (dceFsmSetState fsm event) else none

/-!
## Requests while the display controller engine boots

The driver waits for the engine to boot, and then sends it commands through a mailbox.  Interrupts on
the boot interface say that the engine is ready, or have the status of a command.
-/

def eBADE : ℤ := 52

/-- SOURCE: drivers/platform/tegra/dce/include/interface/dce-boot-cmds.h:114 -/
def DCE_BOOT_CMD_ERR_FLAG : U32 := 0x800000
/-- SOURCE: drivers/platform/tegra/dce/include/interface/dce-interface.h:111 -/
def DCE_IRQ_READY : U32 := 0x800000
/-- SOURCE: drivers/platform/tegra/dce/include/interface/dce-interface.h:100-101 -/
def DCE_IRQ_STATUS_TYPE_IRQ : U32 := 0
def DCE_IRQ_STATUS_TYPE_BOOT_CMD : U32 := 1

/-- `DCE_IRQ_GET_STATUS_TYPE`, the bits 30 to 27 -/
def dceIrqGetStatusType (status : U32) : U32 := (status >>> 27) &&& 0xf

/-- `struct dce_mailbox_interface` of the boot interface, with the register that it sends by: `sMb` is
the request whose command the engine has not taken yet.  `locked` says that its lock was left held.
SOURCE: drivers/platform/tegra/dce/include/dce-mailbox.h:27-37 -/
structure DceMailbox where
  sMb : Option ℕ
  ackValue : U32
  valid : Bool
  locked : Bool
deriving DecidableEq, Repr

/-- `none` where the lock is not to be had.
SOURCE: dce-mailbox.c:77-85 -/
def dceMailboxStoreInterfaceStatus (mb : DceMailbox) (v : U32) : Option DceMailbox :=
  if mb.locked then none else some { mb with ackValue := v, valid := true }

/-- SOURCE: dce-mailbox.c:95-103 -/
def dceMailboxGetInterfaceStatus (mb : DceMailbox) : U32 := if mb.valid then mb.ackValue else 0xffffffff

/-- The part of `dce_handle_mailbox_send_cmd_sync` before the wait, for the command of request `tag`:
what it returns, `none` where it goes on to the wait.  Where the last command is not taken, the lock
is not given back.
SOURCE: dce-mailbox.c:176-194 -/
def dceMailboxSendCmd (mb : DceMailbox) (tag : ℕ) : Option (DceMailbox × Option ℤ) :=
  if mb.locked then none
  else if mb.sMb.isSome then some ({ mb with locked := true }, some (-1))
  else some ({ mb with sMb := some tag, valid := false }, none)

/-- What `dce_mailbox_wait_boot_interface` returns: the result of the wait is printed only.
SOURCE: dce-bootstrap.c:359-383 -/
def dceMailboxWaitBootInterfaceResult (mb : DceMailbox) : ℤ :=
  if dceMailboxGetInterfaceStatus mb &&& DCE_BOOT_CMD_ERR_FLAG ≠ 0 then -eBADE else 0

/-- The events that an interrupt on the boot interface posts, of those about the boot.
SOURCE: dce-bootstrap.c:220-281, 290-312 -/
def dceBootInterfaceIsr (mb : DceMailbox) : Option DceFsmEvent :=
  let status := dceMailboxGetInterfaceStatus mb
  if status = 0xffffffff then none
  else if dceIrqGetStatusType status = DCE_IRQ_STATUS_TYPE_IRQ then
    if status &&& DCE_IRQ_READY ≠ 0 then some .bootCompleteReceived else none
  else if dceIrqGetStatusType status = DCE_IRQ_STATUS_TYPE_BOOT_CMD then some .bootCmdMsgReceived
  else none

/-!
## Messages in the frames of the display controller engine

A message in a frame is its length, in a header of one word, and its bytes.  The code exists twice,
for frames behind an `iosys_map` and for frames behind a pointer.

The memory of a frame is counted from its first byte on.  What the queue of frames says comes from
outside: whether it has a frame, and whether it advances.
-/

section

open Library

/-- `NV_TEGRA_IVC_STRUCT_HAS_IOSYS_MAP` is defined or it is not. -/
inductive IvcFrameKind where
  | iosysMap
  | pointer
deriving DecidableEq, Repr

/-- `sizeof(struct dce_ipc_header)`, of one word `length` -/
def SIZEOF_DCE_IPC_HEADER : ℕ := 4

/-- SOURCE: include/linux/platform/tegra/dce/dce-client-ipc.h:14 -/
def DCE_CLIENT_MAX_IPC_MSG_SIZE : U64 := 4096
/-- SOURCE: drivers/platform/tegra/dce/include/dce-ipc.h:29 -/
def DCE_DISPRM_EVENT_NOTIFY_CMD_MAX_FSIZE : U32 := 4096

/-- A call: what it returns, the memory after it, the places and lengths that it accessed there, and
the bytes that it copied out. -/
structure DceIpcCall where
  ret : ℤ
  frame : ℕ → U8
  accessed : List (ℕ × ℕ)
  copied : List U8

/-- The error for a queue without a frame.
SOURCE: dce-ipc.c:517-539, 634-658 -/
def dceIpcNextBuffError (kind : IvcFrameKind) (err : ℤ) : ℤ :=
  match kind with
  | .iosysMap => err
  | .pointer => -eNOMEM

/-- The place behind the header. -/
def dceIpcPayload (msgHeader : Bool) : ℕ := if msgHeader then SIZEOF_DCE_IPC_HEADER else 0

/-- The same for both kinds; `data` is `none` for a null pointer.
SOURCE: dce-ipc.c:551-581 -/
def dceIpcWriteChannel (msgHeader : Bool) (frame : ℕ → U8) (data : Option (ℕ → U8)) (size : U64)
    (advance : ℤ) : DceIpcCall :=
  let header := if msgHeader then [(0, SIZEOF_DCE_IPC_HEADER)] else []
  let frame := if msgHeader then putWord frame 0 (size.setWidth 32) else frame
  let payload := dceIpcPayload msgHeader
  match data with
  | some data =>
    if size > 0 then
      ⟨advance, blit frame payload size.toNat data, header ++ [(payload, size.toNat)], []⟩
    else ⟨advance, frame, header, []⟩
  | none => ⟨advance, frame, header, []⟩

/-- SOURCE: dce-ipc.c:593-625 -/
def dceIpcSendMessage (kind : IvcFrameKind) (msgHeader : Bool) (next : Option ℤ) (frame : ℕ → U8)
    (data : Option (ℕ → U8)) (size : U64) (advance : ℤ) : DceIpcCall :=
  match next with
  | some err => ⟨dceIpcNextBuffError kind err, frame, [], []⟩
  | none => dceIpcWriteChannel msgHeader frame data size advance

/-- The map variant writes `length` where the pointer variant reads it; `data` says whether there is
a buffer, of `size` bytes.
SOURCE: dce-ipc.c:669-698 -/
def dceIpcReadChannel (kind : IvcFrameKind) (msgHeader : Bool) (frame : ℕ → U8) (data : Bool)
    (size : U64) (advance : ℤ) : DceIpcCall :=
  let header := if msgHeader then [(0, SIZEOF_DCE_IPC_HEADER)] else []
  let payload := dceIpcPayload msgHeader
  let (frame, size) :=
    match kind with
    | .iosysMap => (if msgHeader then putWord frame 0 (size.setWidth 32) else frame, size)
    | .pointer => (frame, if msgHeader then (getWord frame 0).setWidth 64 else size)
  if data = true ∧ size > 0 then
    ⟨advance, frame, header ++ [(payload, size.toNat)], slice frame payload size.toNat⟩
  else ⟨advance, frame, header, []⟩

/-- SOURCE: dce-ipc.c:710-737 -/
def dceIpcReadMessage (kind : IvcFrameKind) (msgHeader : Bool) (next : Option ℤ) (frame : ℕ → U8)
    (data : Bool) (size : U64) (advance : ℤ) : DceIpcCall :=
  match next with
  | some err => ⟨dceIpcNextBuffError kind err, frame, [], []⟩
  | none => dceIpcReadChannel kind msgHeader frame data size advance

/-- A read of `dce_client_process_event_ipc`, which passes `DCE_CLIENT_MAX_IPC_MSG_SIZE` as the length
of every message to the callback.
SOURCE: dce-client-ipc.c:313-328 -/
def dceClientProcessEventRead (kind : IvcFrameKind) (frame : ℕ → U8) (advance : ℤ) : DceIpcCall :=
  dceIpcReadMessage kind true none frame true DCE_CLIENT_MAX_IPC_MSG_SIZE advance

end

/-!
## Clients of the display controller engine

A client registers for a type of messages and gets a handle, which encodes the place of its entry
in the table `client_handles`.  Messages from the engine reach a client through a second table,
`d_clients`, by their type.

Devices, the data of a client and its callback are named by numbers.
-/

/-! ### Types (include/linux/platform/tegra/dce/dce-client-ipc.h:11-14) -/

def DCE_CLIENT_IPC_TYPE_CPU_RM : ℕ := 0
def DCE_CLIENT_IPC_TYPE_HDCP_KMD : ℕ := 1
def DCE_CLIENT_IPC_TYPE_RM_EVENT : ℕ := 2
def DCE_CLIENT_IPC_TYPE_MAX : ℕ := 3

/-- SOURCE: dce-client-ipc.c:12 -/
def DCE_CLIENT_IPC_HANDLE_INVALID : U32 := 0
/-- SOURCE: dce-client-ipc.c:13 -/
def DCE_CLIENT_IPC_HANDLE_VALID : U32 := 1 <<< 31

/-- The channels of the types: `DCE_IPC_TYPE_DISPRM`, `DCE_IPC_TYPE_HDCP`, `DCE_IPC_TYPE_RM_NOTIFY`.
SOURCE: dce-client-ipc.c:17-21 -/
def dceInterfaceTypeMap : List ℕ := [1, 2, 3]

/-- `int_type` of a type. -/
def intTypeOf (type : ℕ) : ℕ := dceInterfaceTypeMap[type]?.getD 0

/-- SOURCE: dce-client-ipc.c:26-35 -/
def dceClientGetType (intType : ℕ) : ℕ := dceInterfaceTypeMap.findIdx (· == intType)

/-- `struct tegra_dce_client_ipc`; of the condition variable `recv_wait` it is kept whether it is
initialized.
SOURCE: drivers/platform/tegra/dce/include/dce-client-ipc-internal.h:29-39 -/
structure ClientIpc where
  valid : Bool
  data : ℕ
  type : ℕ
  handle : U32
  intType : ℕ
  d : Option ℕ
  recvWait : Bool
  complete : Bool
  callbackFn : Option ℕ
deriving DecidableEq, Repr

/-- An entry after `memset`. -/
def ClientIpc.zero : ClientIpc := ⟨false, 0, 0, 0, 0, none, false, false, none⟩

/-- The table `client_handles`, of `DCE_CLIENT_IPC_TYPE_MAX` entries, and the table `d_clients` of
each device with the places of the entries it points to. -/
structure ClientTables where
  clientHandles : ℕ → ClientIpc
  dClients : ℕ → ℕ → Option ℕ

/-- A call: what it returns, `none` where it does not return; the tables after it; and the entries
that were not valid when more of them than the flag `valid` was read or written. -/
structure ClientCall where
  ret : Option ℤ
  tables : ClientTables
  stale : List ℕ

namespace ClientTables

def setEntry (s : ClientTables) (i : ℕ) (cl : ClientIpc) : ClientTables :=
  { s with clientHandles := update s.clientHandles i cl }

def setClient (s : ClientTables) (d type : ℕ) (cl : Option ℕ) : ClientTables :=
  { s with dClients := update s.dClients d (update (s.dClients d) type cl) }

/-- What an access to the fields of an entry adds to `ClientCall.stale`. -/
def access (s : ClientTables) (i : ℕ) : List ℕ := if (s.clientHandles i).valid then [] else [i]

end ClientTables

/-! ### Handles -/

/-- SOURCE: dce-client-ipc.c:37-40 -/
def clientHandleToIndex (handle : U32) : ℕ := (handle &&& ~~~DCE_CLIENT_IPC_HANDLE_VALID).toNat

/-- SOURCE: dce-client-ipc.c:42-56 -/
def isClientHandleValid (handle : U32) : Bool :=
  if handle &&& DCE_CLIENT_IPC_HANDLE_VALID = 0 then false
  else if clientHandleToIndex handle ≥ DCE_CLIENT_IPC_TYPE_MAX then false
  else true

/-- SOURCE: dce-client-ipc.c:58-69 -/
def dceClientIpcLookupHandle (handle : U32) : Option ℕ :=
  if isClientHandleValid handle then some (clientHandleToIndex handle) else none

/-- The handle of an entry. -/
def handleOf (index : ℕ) : U32 := BitVec.ofNat 32 index ||| DCE_CLIENT_IPC_HANDLE_VALID

/-- The first entry that is not valid, which becomes valid.
SOURCE: dce-client-ipc.c:72-90 -/
def dceClientIpcHandleAlloc (s : ClientTables) : Option (ℕ × ClientTables) :=
  ((List.range DCE_CLIENT_IPC_TYPE_MAX).find? fun index => !(s.clientHandles index).valid).map
    fun index => (index, s.setEntry index { s.clientHandles index with valid := true })

/-- SOURCE: dce-client-ipc.c:92-105 -/
def dceClientIpcHandleFree (s : ClientTables) : Option ℕ → ℤ × ClientTables
  | none => (-eINVAL, s)
  | some i =>
    let cl := s.clientHandles i
    if cl.valid = false then (-eINVAL, s)
    else
      match cl.d with
      | none => (0, s.setEntry i ClientIpc.zero)
      | some d => (0, (s.setClient d cl.type none).setEntry i ClientIpc.zero)

/-! ### Calls of the clients -/

/-- What the rest of the driver answers to a registration: the device of the channel, the end of
the wait for the bootstrap, and `dce_cond_init`, which returns 0 in this driver. -/
structure RegisterEnv where
  dce : Option ℕ
  bootWait : ℤ
  condInit : ℤ
deriving DecidableEq, Repr

/-- The fields of a new entry.
SOURCE: dce-client-ipc.c:170-182 -/
def newClient (d type data : ℕ) (callbackFn : Option ℕ) (index : ℕ) : ClientIpc where
  valid := true
  data := data
  type := type
  handle := handleOf index
  intType := intTypeOf type
  d := some d
  recvWait := true
  complete := false
  callbackFn := callbackFn

/-- The handle that `*handlep` gets, `none` where it is not written, and the call.  The fields are
written while the entry is valid.
SOURCE: dce-client-ipc.c:120-195 -/
def tegraDceRegisterIpcClient (s : ClientTables) (type : U32) (callbackFn : Option ℕ) (data : ℕ)
    (handlep : Bool) (env : RegisterEnv) : Option U32 × ClientCall :=
  if !handlep then (none, ⟨some (-eINVAL), s, []⟩)
  else if type.toNat ≥ DCE_CLIENT_IPC_TYPE_MAX then (none, ⟨some (-eINVAL), s, []⟩)
  else
    match env.dce with
    | none =>
      (some DCE_CLIENT_IPC_HANDLE_INVALID, ⟨some (-eINVAL), (dceClientIpcHandleFree s none).2, []⟩)
    | some d =>
      if env.bootWait ≠ 0 then
        (some DCE_CLIENT_IPC_HANDLE_INVALID, ⟨some env.bootWait, (dceClientIpcHandleFree s none).2, []⟩)
      else
        match dceClientIpcHandleAlloc s with
        | none => (some DCE_CLIENT_IPC_HANDLE_INVALID, ⟨some (-1), (dceClientIpcHandleFree s none).2, []⟩)
        | some (index, s) =>
          let s := s.setEntry index (newClient d type.toNat data callbackFn index)
          if env.condInit ≠ 0 then
            (some DCE_CLIENT_IPC_HANDLE_INVALID,
              ⟨some env.condInit, (dceClientIpcHandleFree s (some index)).2, []⟩)
          else (some (handleOf index), ⟨some 0, s.setClient d type.toNat (some index), []⟩)

/-- `dce_cond_destroy` and `atomic_set` are before the flag `valid` is read.
SOURCE: dce-client-ipc.c:198-211 -/
def tegraDceUnregisterIpcClient (s : ClientTables) (handle : U32) : ClientCall :=
  match dceClientIpcLookupHandle handle with
  | none => ⟨some (-eINVAL), s, []⟩
  | some i =>
    let freed := dceClientIpcHandleFree
      (s.setEntry i { s.clientHandles i with recvWait := false, complete := false }) (some i)
    ⟨some freed.1, freed.2, s.access i⟩

/-- The callback of an event runs in the work `dce_client_async_event_work`.
SOURCE: dce-client-ipc.c:355-379 -/
def dceClientIpcWakeup (s : ClientTables) (d chType : ℕ) : ClientTables :=
  if dceClientGetType chType = DCE_CLIENT_IPC_TYPE_MAX then s
  else
    match s.dClients d (dceClientGetType chType) with
    | none => s
    | some i =>
      let cl := s.clientHandles i
      if cl.valid = false ∨ cl.intType ≠ chType then s
      else if dceClientGetType chType = DCE_CLIENT_IPC_TYPE_RM_EVENT then s
      else s.setEntry i { cl with complete := true }

/-- The client whose callback the work for an event calls, and the entries it accesses.
SOURCE: dce-client-ipc.c:107-118, 296-334 -/
def dceClientAsyncEventWork (s : ClientTables) (d : ℕ) : Option ℕ × List ℕ :=
  match s.dClients d DCE_CLIENT_IPC_TYPE_RM_EVENT with
  | none => (none, [])
  | some i =>
    let cl := s.clientHandles i
    if cl.callbackFn = none ∨ cl.type ≠ DCE_CLIENT_IPC_TYPE_RM_EVENT then (none, s.access i)
    else (some i, s.access i)

/-- The entry whose flag a caller waits for, and the entries that are accessed.
SOURCE: dce-client-ipc.c:271-283 -/
def dceClientIpcWaitEntry (s : ClientTables) (d intType : ℕ) : Option ℕ × List ℕ :=
  if dceClientGetType intType ≥ DCE_CLIENT_IPC_TYPE_MAX then (none, [])
  else
    match s.dClients d (dceClientGetType intType) with
    | none => (none, [])
    | some i =>
      if (s.clientHandles i).intType ≠ intType then (none, s.access i) else (some i, s.access i)

/-- The call waits until the flag is set; `woken` says whether the engine signals the channel.
SOURCE: dce-client-ipc.c:266-294 -/
def dceClientIpcWait (s : ClientTables) (d intType : ℕ) (woken : Bool) : ClientCall :=
  match dceClientIpcWaitEntry s d intType with
  | (none, stale) => ⟨some (-eINVAL), s, stale⟩
  | (some i, stale) =>
    let s := if woken then dceClientIpcWakeup s d intType else s
    if (s.clientHandles i).complete then
      ⟨some 0, s.setEntry i { s.clientHandles i with complete := false }, stale⟩
    else ⟨none, s, stale⟩

/-- What sending and reading return, and whether the engine signals the channel. -/
structure SendEnv where
  send : ℤ
  woken : Bool
  read : ℤ
deriving DecidableEq, Repr

/-- `dce_ipc_send_message_sync` of a client, which follows the pointer `d`.
SOURCE: dce-ipc.c:749-779 -/
def dceIpcSendMessageSync (s : ClientTables) (d : Option ℕ) (intType : ℕ) (env : SendEnv) : ClientCall :=
  match d with
  | none => ⟨none, s, []⟩
  | some d =>
    if env.send ≠ 0 then ⟨some env.send, s, []⟩
    else
      let wait := dceClientIpcWait s d intType env.woken
      if wait.ret = some 0 then { wait with ret := some env.read } else wait

/-- SOURCE: dce-client-ipc.c:214-234 -/
def tegraDceClientIpcSendRecv (s : ClientTables) (handle : U32) (msg : Bool) (env : SendEnv) :
    ClientCall :=
  if !msg then ⟨some (-1), s, []⟩
  else
    match dceClientIpcLookupHandle handle with
    | none => ⟨some (-1), s, []⟩
    | some i =>
      let call := dceIpcSendMessageSync s (s.clientHandles i).d (s.clientHandles i).intType env
      { call with stale := s.access i ++ call.stale }

/-!
## Synchronous messages to the display controller engine

A call sends a message, waits for the flag `complete` of its client, clears it and reads a message.
The channel is locked for the send and for the read, and not between them.

Messages are named by numbers, and an answer by the number of the message that it answers.
-/

/-- The channel of a client, of `nframes` frames in each direction, and the client's flag. -/
structure DceSyncChannel where
  nframes : ℕ
  tx : List ℕ
  rx : List ℕ
  complete : Bool
deriving DecidableEq, Repr

/-- `dce_ipc_send_message`: `none` where there is no free frame.
SOURCE: dce-ipc.c:593-625 -/
def dceSyncSendMessage (ch : DceSyncChannel) (message : ℕ) : Option DceSyncChannel :=
  if ch.tx.length < ch.nframes then some { ch with tx := ch.tx ++ [message] } else none

/-- `dce_ipc_read_message`: `none` where there is nothing to read.
SOURCE: dce-ipc.c:710-737 -/
def dceSyncReadMessage (ch : DceSyncChannel) : Option (ℕ × DceSyncChannel) :=
  match ch.rx with
  | [] => none
  | answer :: rx => some (answer, { ch with rx := rx })

/-- SOURCE: dce-ipc.c:837-863 -/
def dceIpcIsDataAvailable (ch : DceSyncChannel) : Bool := !ch.rx.isEmpty

/-- SOURCE: dce-client-ipc.c:355-379 -/
def dceSyncWakeup (ch : DceSyncChannel) : DceSyncChannel := { ch with complete := true }

/-- The wait ends when the flag is set: without it, also where a signal ends it, it is waited again.
SOURCE: dce-client-ipc.c:285-289 -/
def dceClientIpcWaitEnds (ch : DceSyncChannel) : Bool := ch.complete

/-- SOURCE: dce-client-ipc.c:291 -/
def dceClientIpcClear (ch : DceSyncChannel) : DceSyncChannel := { ch with complete := false }

/-!
## Work items for events of the display controller engine

The interrupt for an event takes the first work item that is not in use and queues it.  The item reads
events until there are none, and is then no longer in use.
-/

/-- The work items by whether they are in use, and the queue of their workqueue.
SOURCE: drivers/platform/tegra/dce/include/dce-client-ipc-internal.h:42-53 -/
structure DceAsyncIpcInfo where
  inUse : List Bool
  eventWq : List ℕ
deriving DecidableEq, Repr

namespace DceAsyncIpcInfo

/-- SOURCE: dce-client-ipc.c:237-256 -/
def init (count : ℕ) : DceAsyncIpcInfo := ⟨List.replicate count false, []⟩

/-- `in_use` of an item. -/
def used (info : DceAsyncIpcInfo) (i : ℕ) : Bool := (info.inUse[i]?).getD false

/-- `atomic_set` of `in_use` -/
def setInUse (info : DceAsyncIpcInfo) (i : ℕ) (value : Bool) : DceAsyncIpcInfo :=
  { info with inUse := info.inUse.set i value }

/-- `atomic_add_unless(&d_work->in_use, 1, 1)` takes an item that is not in use.
SOURCE: dce-client-ipc.c:343 -/
def take (info : DceAsyncIpcInfo) (i : ℕ) : Option DceAsyncIpcInfo :=
  if info.used i then none else some (info.setInUse i true)

/-- `queue_work`: an item that is pending is not queued twice.
SOURCE: dce-client-ipc.c:344-345 -/
def queueWork (info : DceAsyncIpcInfo) (i : ℕ) : DceAsyncIpcInfo :=
  if i ∈ info.eventWq then info else { info with eventWq := info.eventWq ++ [i] }

/-- The worker takes the item that was queued first, which is then no longer pending. -/
def dequeue (info : DceAsyncIpcInfo) : Option (ℕ × DceAsyncIpcInfo) :=
  match info.eventWq with
  | [] => none
  | i :: queue => some (i, { info with eventWq := queue })

end DceAsyncIpcInfo

end NvidiaOot.Program
