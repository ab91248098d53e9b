import NvidiaOot.Library.Machine
import NvidiaOot.Program.Nvscic2cPcie

/-!
# Runs of the chip-to-chip streams

The channel, and the copies, exports and objects of the streams.

Sources are in `drivers/misc/nvscic2c-pcie/`.
-/

namespace NvidiaOot.Model

/-!
## Messages from one side of the channel to the other

The calls of the sender, which its mutex makes one after another, and the receive loop of the
other side are interleaved part by part.  Writes to the memory of the peer are posted: they
arrive one after another, at any time after they were made.
-/

section

open Library Program

/-- Where the call that holds `send_lock` is. -/
inductive SendPc where
  | free
  | frame (msg : CommMsg)
  | count (msg : CommMsg)
  | notify (msg : CommMsg)
  | advance (msg : CommMsg) (ret : ℤ)
  deriving DecidableEq

def SendPc.isNotify : SendPc → Bool
  | .notify _ => true
  | _ => false

inductive RecvPc where
  | wait
  | read
  | count
  | advance
  | stopped
  deriving DecidableEq

structure SendCall where
  msg : CommMsg
  ret : ℤ
  deriving DecidableEq

/-- The two sides and the writes between them.  `published` has the messages whose `wr_count` was
written, `taken` those that the receive loop has read and `seen` those whose callback ran. -/
structure Channel where
  peerCpu : PeerCpu
  cbOps : U32 → Bool
  sender : CommFifo
  receiver : CommFifo
  toReceiver : List PostedWrite
  toSender : List PostedWrite
  sendPc : SendPc
  recvPc : RecvPc
  recvCount : U32
  shutdown : Bool
  calls : List SendCall
  published : List CommMsg
  taken : List CommMsg
  seen : List CommMsg

/-- What happens next: a call gets the mutex; the call that has it makes its next part, where
`irq` is what `pci_client_raise_irq` returns; a write arrives; the receive loop is notified for
no reason, makes its next part or is told to stop. -/
inductive ChannelOp where
  | call (entry : SendEntry) (linkUp : Bool) (msg : CommMsg)
  | send (irq : ℤ)
  | arrive
  | arriveBack
  | kick
  | receive
  | stop

section

variable (s : Channel)

def Channel.return (msg : CommMsg) (ret : ℤ) : Channel :=
  { s with sendPc := .free, calls := s.calls ++ [⟨msg, ret⟩] }

/-- A call up to `can_send`. -/
def callStep (entry : SendEntry) (linkUp : Bool) (msg : CommMsg) : Option Channel :=
  if sendCheck entry linkUp msg ≠ 0 then
    some { s with calls := s.calls ++ [⟨msg, sendCheck entry linkUp msg⟩] }
  else if s.sendPc = .free then
    some (if (canSend s.sender).1 then { s with sendPc := .frame msg } else s.return msg (canSend s.sender).2)
  else none

/-- The next part of `send_msg`. -/
def sendStep (irq : ℤ) : Option Channel :=
  match s.sendPc with
  | .free => none
  | .frame msg =>
    some { s with
      toReceiver := s.toReceiver ++ [sendFrame s.sender msg]
      sendPc := .count msg }
  | .count msg =>
    some { s with
      sender := (Program.sendCount s.sender).1
      toReceiver := s.toReceiver ++ [(Program.sendCount s.sender).2]
      published := s.published ++ [msg]
      sendPc := .notify msg }
  | .notify msg =>
    some { s with
      toReceiver := s.toReceiver ++ (sendNotify s.peerCpu irq).2
      sendPc := .advance msg (sendNotify s.peerCpu irq).1 }
  | .advance msg ret => some ({ s with sender := sendAdvance s.sender }.return msg ret)

/-- The first write that is under way arrives; a notification adds to `recv_count`. -/
def arriveStep : Option Channel :=
  match s.toReceiver with
  | [] => none
  | w :: rest =>
    some { s with
      receiver := s.receiver.accept w
      toReceiver := rest
      recvCount := match w with
        | .notify => s.recvCount + 1
        | _ => s.recvCount }

def arriveBackStep : Option Channel :=
  match s.toSender with
  | [] => none
  | w :: rest => some { s with sender := s.sender.accept w, toSender := rest }

def receiveStep : Option Channel :=
  match s.recvPc with
  | .stopped => none
  | .wait =>
    if s.shutdown then some { s with recvPc := .stopped }
    else if s.recvCount = 0 then none
    else some { s with recvCount := s.recvCount - 1, recvPc := .read }
  | .read =>
    if (canRecv s.receiver).1 then
      some { s with
        taken := s.taken ++ [recvHead s.receiver]
        seen := if hasCallback s.cbOps (recvHead s.receiver) then s.seen ++ [recvHead s.receiver]
          else s.seen
        recvPc := .count }
    else some { s with recvPc := .wait }
  | .count =>
    some { s with
      receiver := (Program.recvCount s.receiver).1
      toSender := s.toSender ++ [(Program.recvCount s.receiver).2]
      recvPc := .advance }
  | .advance => some { s with receiver := recvAdvance s.receiver, recvPc := .read }

def channelStep : ChannelOp → Option Channel
  | .call entry linkUp msg => callStep s entry linkUp msg
  | .send irq => sendStep s irq
  | .arrive => arriveStep s
  | .arriveBack => arriveBackStep s
  | .kick => some { s with recvCount := s.recvCount + 1 }
  | .receive => receiveStep s
  | .stop => some { s with shutdown := true }

end

/-- A side at the start; all counters are `c`. -/
def newFifo (c : U32) (recv : U32 → CommMsg) : CommFifo :=
  ⟨commChannelNframes, ⟨c, c⟩, ⟨c, c⟩, recv, 0, 0⟩

def newChannel (peerCpu : PeerCpu) (cbOps : U32 → Bool) (c : U32) (recv : U32 → CommMsg) :
    Channel :=
  ⟨peerCpu, cbOps, newFifo c recv, newFifo c recv, [], [], .free, .wait, 0, false, [], [], [], []⟩

/-- The interrupt for a peer that is notified by one is raised. -/
def IrqWorks (s : Channel) : ChannelOp → Prop
  | .send irq => s.sendPc.isNotify = true → s.peerCpu = .nvcpuX86_64 → irq = 0
  | _ => True

instance IrqWorks.decidable (s : Channel) : ∀ op, Decidable (IrqWorks s op)
  | .send irq =>
    inferInstanceAs (Decidable (s.sendPc.isNotify = true → s.peerCpu = .nvcpuX86_64 → irq = 0))
  | .call .. | .arrive | .arriveBack | .kick | .receive | .stop => isTrue trivial

/-- The messages of the calls that have returned 0. -/
def succeeded (calls : List SendCall) : List CommMsg :=
  (calls.filter fun c => c.ret = 0).map SendCall.msg

/-- The frames carry the messages in order. -/
structure InOrder (s : Channel) : Prop where
  taken : s.taken <+: s.published
  seen : s.seen = s.taken.filter (hasCallback s.cbOps)
  outstanding : s.published.length ≤ s.taken.length + commChannelNframes.toNat
  /-- When no write is under way, what is not taken can be read. -/
  readable : s.toReceiver = [] → s.recvPc = .read →
    (s.receiver.recvHdr.wrCount - s.receiver.localHdr.rdCount).toNat + s.taken.length =
      s.published.length
  wrPos : s.sendPc = .free → s.sender.wrPos.toNat = s.published.length % commChannelNframes.toNat
  rdPos : s.recvPc = .wait ∨ s.recvPc = .read →
    s.receiver.rdPos.toNat = s.taken.length % commChannelNframes.toNat

/-- The calls that have returned 0 are those whose message was published. -/
def CallsTell (s : Channel) : Prop := s.sendPc = .free → s.published = succeeded s.calls

end

/-!
## A context of copy requests

The limits are set and requests are submitted, one call after the other; requests that were
submitted complete in any order.  What reaches `schedule_edma_xfer` is recorded.
-/

section

open Library Program

/-- What `schedule_edma_xfer` is called with, and the call that it is called from. -/
structure EdmaXfer where
  params : CopyReqParams
  request : CopyRequest
  args : SubmitCopyArgs
  files : U32 → FdFile

/-- The fields of `struct stream_ext_ctx_t` that change, the requests in flight, and those that
reached `schedule_edma_xfer`. -/
structure StreamCopy where
  limits : CopyReqLimits
  params : CopyReqParams
  freeList : List CopyRequest
  inFlight : List CopyRequest
  scheduled : List EdmaXfer

/-- What a call of `ioctl_submit_copy_request` meets. -/
structure StreamSubmitEnv where
  linkUp : Bool
  files : U32 → FdFile
  xferOk : Bool

/-- The ioctls, and the completion of the request at a position.  `setMax` says whether the arrays
of the parameters and all the requests could be allocated. -/
inductive StreamCopyOp where
  | setMax (limits : CopyReqLimits) (paramsOk requestsOk : Bool)
  | submit (args : SubmitCopyArgs) (env : StreamSubmitEnv)
  | complete (i : ℕ)

section

variable (cfg : StreamConfig) (s : StreamCopy)

/-- `ioctl_set_max_copy_requests`.  The index has 32 bits: without a failed allocation the loop
ends only for fewer than `2 ^ 32` requests.  On a failure the limits stay.
SOURCE: stream-extensions.c:632-692 -/
def setMaxStep (limits : CopyReqLimits) (paramsOk requestsOk : Bool) : Option StreamCopy :=
  if limits.maxCopyRequests = 0 ∨ limits.maxFlushRanges = 0 ∨ limits.maxPostFences = 0 then some s
  else if s.limits.maxCopyRequests ≠ 0 ∨ s.limits.maxFlushRanges ≠ 0 ∨ s.limits.maxPostFences ≠ 0 then
    some s
  else
    if !paramsOk ∨ !requestsOk then
      some { s with limits := limits, params := freeCopyReqParams s.params, freeList := [] }
    else if limits.maxCopyRequests.toNat < 2 ^ 32 then
      some { s with
        limits := limits
        params := allocateCopyReqParams limits s.params
        freeList := List.replicate limits.maxCopyRequests.toNat (allocateCopyRequest limits) ++
          s.freeList }
    else none

/-- The rest of a submission, with the request that was taken from the list. -/
def submitRequest (args : SubmitCopyArgs) (env : StreamSubmitEnv) (p : CopyReqParams) (cr : CopyRequest)
    (rest : List CopyRequest) : Option StreamCopy :=
  (cacheCopyRequestHandles env.files p cr).bind fun cr =>
  (prepareEdmaDesc cfg env.files p).map fun desc =>
  let cr := { cr with edmaDesc := desc }
  { s with
    params := p
    freeList := if env.xferOk then rest else rest ++ [cr]
    inFlight := if env.xferOk then s.inFlight ++ [cr] else s.inFlight
    scheduled := s.scheduled ++ [⟨p, cr, args, env.files⟩] }

/-- `ioctl_submit_copy_request`
SOURCE: stream-extensions.c:553-630 -/
def submitStep (args : SubmitCopyArgs) (env : StreamSubmitEnv) : Option StreamCopy :=
  if !env.linkUp then some s
  else
    (copyArgsFromUser s.limits args s.params).bind fun r =>
    if r.1 ≠ 0 then some { s with params := r.2 }
    else
      (validateCopyReqParams cfg env.files r.2).bind fun ret =>
      if ret ≠ 0 then some { s with params := r.2 }
      else
        match s.freeList with
        | [] => some { s with params := r.2 }
        | cr :: rest => submitRequest cfg s args env r.2 cr rest

/-- `callback_edma_xfer`
SOURCE: stream-extensions.c:957-985 -/
def completeStep (i : ℕ) : Option StreamCopy :=
  s.inFlight[i]?.map fun cr =>
    { s with freeList := s.freeList ++ [cr], inFlight := s.inFlight.eraseIdx i }

def streamCopyStep : StreamCopyOp → Option StreamCopy
  | .setMax limits paramsOk requestsOk => setMaxStep s limits paramsOk requestsOk
  | .submit args env => submitStep cfg s args env
  | .complete i => completeStep s i

end

def newStreamCopy : StreamCopy where
  limits := ⟨0, 0, 0⟩
  params := ⟨0, none, 0, none, 0, none, none⟩
  freeList := []
  inFlight := []
  scheduled := []

/-- An array that holds `n` elements of `size` bytes. -/
def holdsElements (bytes : U64) (n size : ℕ) : Prop := size * n ≤ bytes.toNat

/-- A copy of at least `n` elements of `size` bytes. -/
def copiesElements (asked : U64) (u : UserCopy) (n size : ℕ) : Prop :=
  size * n ≤ asked.toNat - u.left.toNat

/-- What is promised of a request that reaches `schedule_edma_xfer`. -/
structure EdmaXferOk (x : EdmaXfer) : Prop where
  ranges : ∀ i < x.params.numFlushRanges.toNat, ∃ src dst : StreamObj,
    (x.files (x.params.rangeAt i).srcHandle).privateData = some src ∧
    (x.files (x.params.rangeAt i).dstHandle).privateData = some dst ∧
    (x.params.rangeAt i).offset.toNat + (x.params.rangeAt i).size.toNat ≤ src.size.toNat ∧
    (x.params.rangeAt i).offset.toNat + (x.params.rangeAt i).size.toNat ≤ dst.size.toNat
  params : ∃ locals remotes values ranges : KArray,
    x.params.localPostFences = some locals ∧ x.params.remotePostFences = some remotes ∧
    x.params.remotePostFenceValues = some values ∧ x.params.flushRanges = some ranges ∧
    holdsElements locals.size x.params.numLocalPostFences.toNat 4 ∧
    holdsElements remotes.size x.params.numRemotePostFences.toNat 4 ∧
    holdsElements values.size x.params.numRemotePostFences.toNat 8 ∧
    holdsElements ranges.size x.params.numFlushRanges.toNat 24
  handles : holdsElements x.request.handlesSize (x.params.numLocalPostFences.toNat +
    x.params.numRemotePostFences.toNat + 2 * x.params.numFlushRanges.toNat) 8
  edmaDesc : holdsElements x.request.edmaDescSize x.params.numFlushRanges.toNat 24
  localPostFences : holdsElements x.request.localPostFencesSize x.params.numLocalPostFences.toNat 8
  remotePostFences : holdsElements x.request.remotePostFencesSize x.params.numRemotePostFences.toNat 8
  remoteBufObjs : holdsElements x.request.remoteBufObjsSize x.params.numFlushRanges.toNat 8
  remotePostFenceValues :
    holdsElements x.request.remotePostFenceValuesSize x.params.numRemotePostFences.toNat 8
  copiedLocals : copiesElements (x.params.numLocalPostFences * sizeofS32) x.args.localPostFences
    x.params.numLocalPostFences.toNat 4
  copiedRemotes : copiesElements (x.params.numRemotePostFences * sizeofS32) x.args.remotePostFences
    x.params.numRemotePostFences.toNat 4
  copiedValues : copiesElements (x.params.numRemotePostFences * sizeofU64)
    x.args.remotePostFenceValues x.params.numRemotePostFences.toNat 8
  copiedRanges : copiesElements (x.params.numFlushRanges * sizeofFlushRange) x.args.flushRanges
    x.params.numFlushRanges.toNat 24

/-- The sizes of the arrays for these limits are not cut to 64 bits. -/
def LimitsFit (limits : CopyReqLimits) : Prop :=
  8 * (2 * limits.maxFlushRanges.toNat + limits.maxPostFences.toNat) < 2 ^ 64 ∧
    24 * limits.maxFlushRanges.toNat < 2 ^ 64

/-- The submissions that are within the arrays and the objects: everything is copied, and no range
ends behind the largest offset. -/
def StreamCopyCareful (s : StreamCopy) : StreamCopyOp → Prop
  | .submit args _ =>
    LimitsFit s.limits ∧ args.localPostFences.left = 0 ∧ args.remotePostFences.left = 0 ∧
      args.remotePostFenceValues.left = 0 ∧ args.flushRanges.left = 0 ∧
      ∀ i < args.numFlushRanges.toNat, (flushRangeAt args.flushRanges.data i).offset.toNat +
        (flushRangeAt args.flushRanges.data i).size.toNat < 2 ^ 64
  | _ => True

instance (s : StreamCopy) : ∀ op, Decidable (StreamCopyCareful s op)
  | .submit args _ => inferInstanceAs (Decidable
      ((_ ∧ _) ∧ _ ∧ _ ∧ _ ∧ _ ∧ ∀ i < args.numFlushRanges.toNat, _ < _))
  | .setMax _ _ _ | .complete _ => isTrue trivial

end

/-!
## Exports and imports between two SoCs

One SoC maps objects, exports them and frees its handles; the other one imports what was exported
and frees what it imported.  `REGISTER` and `UNREGISTER` messages are delivered in order, and a call
that sends one may find that the channel refuses it.  A handle that is freed is not in use by a copy,
so its object is unmapped at once.
-/

section

open Library Program

/-- The table that an object is mapped by. -/
def objKind : ObjType → MapKind
  | .sourceMem | .targetMem | .import => .mem
  | .localSync | .remoteSync => .sync

/-- The mapping that a descriptor names. -/
def descKind (desc : U64) : MapKind :=
  if descHandleType desc = streamObjTypeMem then .mem else .sync

def Names (desc : U64) (k : MapKind) (i : ℕ) : Prop := descKind desc = k ∧ descHandleId desc = i

instance (desc : U64) (k : MapKind) (i : ℕ) : Decidable (Names desc k i) :=
  inferInstanceAs (Decidable (descKind desc = k ∧ descHandleId desc = i))

structure LocalObj where
  type : ObjType
  epId : U32
  id : ℕ
  attrib : VmapAttrib
  deriving DecidableEq

/-- A handle of the importer: the entry that it is for.  Nothing reads `desc`, the descriptor that
was imported. -/
structure ImportObj where
  id : ℕ
  attrib : VmapAttrib
  desc : U64
  deriving DecidableEq

/-- The mappings and the handles of the exporter, the messages in flight, and the entries and the
handles of the importer. -/
structure ExportShare where
  maps : VmapTables
  handles : List LocalObj
  regs : List CommMsg
  unregs : List CommMsg
  imports : Slots ImportRef
  importHandles : List ImportObj

/-- What a call that makes a handle meets: memory for the object, a descriptor, the aperture of the
peer and its mapping; and whether the channel takes the message of an unmapping. -/
structure StreamImportEnv where
  objOk : Bool
  fdOk : Bool
  aperOk : Bool
  ioremapOk : Bool
  peerCpu : PeerCpu
  sendOk : Bool

inductive ExportOp where
  | map (type : ObjType) (epId : U32) (object data : U64) (env : PinEnv) (objOk fdOk : Bool)
  | exportObj (j : ℕ) (type : ObjType) (epId : U32) (reserved2 : BitVec 4) (sendOk : Bool)
  | freeObj (j : ℕ)
  | register (memOk idrOk : Bool)
  | importObj (desc : U64) (epId : U32) (env : StreamImportEnv)
  | mapImport (desc : U64) (env : StreamImportEnv)
  | freeImport (j : ℕ) (sendOk : Bool)
  | unregister

section

variable (node : NodeInfo) (s : ExportShare)

/-- Something is counted on the mapping that a descriptor names. -/
def ExportShare.counted (f : MapRef → MapRef) (desc : U64) : ExportShare :=
  match (s.maps (descKind desc)).get (descHandleId desc) with
  | none => s
  | some m => { s with maps := setMap s.maps (descKind desc) (descHandleId desc) (some (f m)) }

def MapRef.addExport (m : MapRef) : MapRef := { m with exports := m.exports + 1 }
def MapRef.addUnreg (m : MapRef) : MapRef := { m with unregs := m.unregs + 1 }
def MapRef.addImport (m : MapRef) : MapRef := { m with imported := m.imported + 1 }
def MapRef.addFree (m : MapRef) : MapRef := { m with freed := m.freed + 1 }

/-- `vmap_obj_map` of an object that is not an import. -/
def vmapObjMap (t : VmapTables) (object data : U64) (env : PinEnv) : ObjType → Option (ℕ × VmapTables)
  | .sourceMem => memobjMap t object data false env
  | .targetMem => memobjMap t object data true env
  | .localSync => syncobjMap t object false env
  | .remoteSync => syncobjMap t object true env
  | .import => none

/-- `ioctl_map_obj` and `allocate_handle`, for an object that is not an import.
SOURCE: stream-extensions.c:844-936 -/
def mapObjStep (type : ObjType) (epId : U32) (object data : U64) (env : PinEnv) (objOk fdOk : Bool) :
    ExportShare :=
  match vmapObjMap s.maps object data env type with
  | none => s
  | some (i, maps) =>
    match (maps (objKind type)).get i with
    | none => s
    | some m =>
      if objOk && fdOk then
        { s with maps := maps, handles := s.handles ++ [⟨type, epId, i, m.attrib⟩] }
      else { s with maps := vmapPutref id maps (objKind type) i }

/-- `ioctl_export_obj`.
SOURCE: stream-extensions.c:388-456 -/
def exportObjStep (j : ℕ) (type : ObjType) (epId : U32) (reserved2 : BitVec 4) (sendOk : Bool) :
    ExportShare :=
  match s.handles[j]? with
  | none => s
  | some o =>
    if o.epId = epId ∧ o.type = type ∧ (type = .targetMem ∨ type = .remoteSync) then
      match vmapGetref s.maps (objKind o.type) o.id with
      | none => s
      | some maps =>
        let desc := genDesc node epId reserved2 (objKind type).type o.id
        if sendOk then
          ({ s with
            maps := maps
            regs := s.regs ++
              [⟨commMsgTypeRegister, desc, o.attrib.iova, o.attrib.size, o.attrib.offsetof⟩] } :
            ExportShare).counted MapRef.addExport desc
        else { s with maps := vmapPutref id maps (objKind o.type) o.id }
    else s

/-- `ioctl_free_obj` or the last `close`, of a handle of the exporter.
SOURCE: stream-extensions.c:312-386 -/
def freeObjStep (j : ℕ) : ExportShare :=
  match s.handles[j]? with
  | none => s
  | some o =>
    { s with handles := s.handles.eraseIdx j, maps := vmapPutref id s.maps (objKind o.type) o.id }

/-- `vmap_obj_unmap` of an entry; the result of the sending is ignored. -/
def ExportShare.unmapImport (i : ℕ) (sendOk : Bool) : ExportShare :=
  match importobjUnmap s.imports i with
  | none => s
  | some (msg, t) =>
    { s with imports := t, unregs := if sendOk then s.unregs ++ [msg] else s.unregs }

/-- `allocate_handle` of an import; the second result says whether there is a handle. -/
def ExportShare.allocateImport (desc : U64) (env : StreamImportEnv) : ExportShare × Bool :=
  match importobjMap s.imports desc with
  | none => (s, false)
  | some (i, attrib, t) =>
    if env.objOk && env.fdOk then
      ({ s with imports := t, importHandles := s.importHandles ++ [⟨i, attrib, desc⟩] }, true)
    else (({ s with imports := t } : ExportShare).unmapImport i env.sendOk, false)

/-- Whether a handle for a descriptor can be mapped.
SOURCE: stream-extensions.c:501-524 -/
def StreamImportEnv.aperture (env : StreamImportEnv) (desc : U64) : Bool :=
  env.aperOk && (decide (env.peerCpu = .nvcpuX86_64 ∨ descHandleType desc ≠ streamObjTypeSync) || env.ioremapOk)

/-- `ioctl_import_obj`; the handle stays when the aperture cannot be mapped.
SOURCE: stream-extensions.c:459-529 -/
def importObjStep (desc : U64) (epId : U32) (env : StreamImportEnv) : ExportShare :=
  if validateDesc desc node epId then
    let r := s.allocateImport desc env
    if r.2 && env.aperture desc then r.1.counted MapRef.addImport desc else r.1
  else s

/-- `ioctl_map_obj` of an import, which checks nothing of the descriptor. -/
def mapImportStep (desc : U64) (env : StreamImportEnv) : ExportShare :=
  let r := s.allocateImport desc env
  if r.2 then r.1.counted MapRef.addImport desc else r.1

/-- `ioctl_free_obj` or the last `close`, of an imported handle. -/
def freeImportStep (j : ℕ) (sendOk : Bool) : ExportShare :=
  match s.importHandles[j]? with
  | none => s
  | some h =>
    (({ s with importHandles := s.importHandles.eraseIdx j } : ExportShare).unmapImport h.id
      sendOk).counted MapRef.addFree h.desc

/-- `vmap_importobj_unregister`
SOURCE: vmap.c:567-587 -/
def unregisterStep : Option ExportShare :=
  match s.unregs with
  | [] => none
  | msg :: unregs =>
    some { s with
      unregs := unregs
      maps := vmapPutref MapRef.addUnreg s.maps (descKind msg.exportDesc) (descHandleId msg.exportDesc) }

def registerStep (memOk idrOk : Bool) : Option ExportShare :=
  match s.regs with
  | [] => none
  | msg :: regs =>
    some { s with regs := regs, imports := importobjRegister s.imports msg memOk idrOk }

def exportStep : ExportOp → Option ExportShare
  | .map type epId object data env objOk fdOk => some (mapObjStep s type epId object data env objOk fdOk)
  | .exportObj j type epId reserved2 sendOk => some (exportObjStep node s j type epId reserved2 sendOk)
  | .freeObj j => some (freeObjStep s j)
  | .register memOk idrOk => registerStep s memOk idrOk
  | .importObj desc epId env => some (importObjStep node s desc epId env)
  | .mapImport desc env => some (mapImportStep s desc env)
  | .freeImport j sendOk => some (freeImportStep s j sendOk)
  | .unregister => unregisterStep s

end

def newExportShare : ExportShare := ⟨fun _ => Slots.empty, [], [], [], Slots.empty, []⟩

section

variable (s : ExportShare) (k : MapKind) (i : ℕ)

/-- The handles of the exporter on a mapping. -/
def ExportShare.handlesOn : ℕ := s.handles.countP fun o => decide (objKind o.type = k ∧ o.id = i)

/-- The exports whose `REGISTER` was not yet delivered. -/
def ExportShare.registering : ℕ := s.regs.countP fun msg => decide (Names msg.exportDesc k i)

/-- The exports that the importer knows of and that were not yet imported. -/
def ExportShare.available : ℕ :=
  s.imports.total fun e => if Names e.exportDesc k i then e.nrExport.toNat - e.nrImport.toNat else 0

def ExportShare.openImports : ℕ := s.importHandles.countP fun h => decide (Names h.desc k i)

/-- The frees of imported handles whose `UNREGISTER` was not yet delivered. -/
def ExportShare.unregistering : ℕ := s.unregs.countP fun msg => decide (Names msg.exportDesc k i)

end

structure ExportsOk (s : ExportShare) : Prop where
  /-- The handles of the exporter, and the exports whose `UNREGISTER` was not processed. -/
  references : ∀ (k : MapKind) (i : ℕ) (m : MapRef), (s.maps k).get i = some m →
    m.unregs ≤ m.exports ∧ m.refcount = s.handlesOn k i + (m.exports - m.unregs)
  bounded : ∀ (i : ℕ) (e : ImportRef), s.imports.get i = some e → e.nrImport ≤ e.nrExport
  /-- Each export is on its way, or can be imported, or was imported with success. -/
  once : ∀ (k : MapKind) (i : ℕ) (m : MapRef), (s.maps k).get i = some m →
    m.exports = s.registering k i + s.available k i + m.imported
  importable : ∀ (i : ℕ) (e : ImportRef), s.imports.get i = some e → e.nrImport ≠ e.nrExport →
    importobjMap s.imports e.exportDesc =
      some (i, e.attrib, s.imports.put i (some { e with nrImport := e.nrImport + 1 }))
  /-- Each handle that was imported with success is open or was freed, and each one that was freed
  has released a reference, or the message for it is on its way. -/
  released : ∀ (k : MapKind) (i : ℕ) (m : MapRef), (s.maps k).get i = some m →
    m.imported = s.openImports k i + m.freed ∧ m.freed = s.unregistering k i + m.unregs
  pinned : ∀ h ∈ s.importHandles, ∃ m, (s.maps (descKind h.desc)).get (descHandleId h.desc) = some m ∧
    0 < m.refcount ∧ m.attrib = h.attrib

/-- The steps that keep this: no count overflows, what was exported is registered, an import that
finds its export is completed, and the channel takes each `UNREGISTER`. -/
def ExportCareful (node : NodeInfo) (s : ExportShare) : ExportOp → Prop
  | .map type _ _ data _ _ _ => objKind type = .mem →
    ∀ i ∈ (s.maps .mem).find fun m => decide (m.object = data), ∀ m ∈ (s.maps .mem).get i,
      m.refcount + 1 < krefSaturated
  | .exportObj j _ _ _ _ => ∀ o ∈ s.handles[j]?, ∀ m ∈ (s.maps (objKind o.type)).get o.id,
    m.refcount + 1 < krefSaturated
  | .register memOk idrOk => ∀ msg ∈ s.regs.head?,
    (∀ i ∈ findDesc s.imports msg.exportDesc, ∀ e ∈ s.imports.get i,
      e.refcount + 1 < krefSaturated ∧ e.nrExport + 1 ≠ 0) ∧
    (findDesc s.imports msg.exportDesc = none →
      memOk = true ∧ idrOk = true ∧ s.imports.freeNumber importobjStart < importobjEnd)
  | .importObj desc epId env => validateDesc desc node epId = true →
    importobjMap s.imports desc ≠ none → env.objOk = true ∧ env.fdOk = true ∧ env.aperture desc = true
  | .mapImport desc env => importobjMap s.imports desc ≠ none → env.objOk = true ∧ env.fdOk = true
  | .freeImport j sendOk => s.importHandles[j]? ≠ none → sendOk = true
  | .freeObj _ | .unregister => True

instance (node : NodeInfo) (s : ExportShare) : ∀ op, Decidable (ExportCareful node s op)
  | .map .. => inferInstanceAs (Decidable (_ → ∀ i ∈ Slots.find _ _, ∀ m ∈ Slots.get _ i, _ < _))
  | .exportObj j .. => inferInstanceAs (Decidable (∀ o ∈ s.handles[j]?, ∀ m ∈ Slots.get _ _, _ < _))
  | .register .. => inferInstanceAs (Decidable (∀ msg ∈ s.regs.head?,
      (∀ i ∈ findDesc _ _, ∀ e ∈ Slots.get _ i, _ ∧ _ ≠ _) ∧ (_ → _ ∧ _ ∧ _)))
  | .importObj .. => inferInstanceAs (Decidable (_ → _ → _ ∧ _ ∧ _))
  | .mapImport .. => inferInstanceAs (Decidable (_ → _ ∧ _))
  | .freeImport .. => inferInstanceAs (Decidable (_ → _))
  | .freeObj _ | .unregister => isTrue trivial

end

/-!
## Stream objects under asynchronous copies

The ioctls of an endpoint run one at a time, in parts; between two parts descriptors are closed and
made to refer to other files, files are released, and copies complete.
-/

section

open Library Program

/-- Where the ioctl is that has the lock of the endpoint: `allocate_handle` made the descriptor of
an object, `ioctl_free_obj` is going to detach the object and then to close the descriptor, or
`ioctl_submit_copy_request` looks at its descriptors, caches them for the request that it took, and
looks at those of the ranges again for the eDMA.  `crashed`: a file or an object was not there. -/
inductive StreamCall where
  | idle
  | allocating (obj : ℕ)
  | detaching (fd : ℕ)
  | closing (fd : ℕ)
  | validating (probes : List Probe) (args : SubmitHandles)
  | caching (req : ℕ) (handles todo : List ℕ) (args : SubmitHandles)
  | preparing (req : ℕ) (handles todo : List ℕ)
  | crashed
  deriving DecidableEq

/-- A request that the eDMA has, and the objects that it caches. -/
structure InFlight where
  req : ℕ
  handles : List ℕ
  deriving DecidableEq

/-- The objects, `obj_list`, the `private_data` of the files, the descriptors of all processes, the
requests and the ioctl that runs. -/
structure StreamObjs where
  objs : List LiveObj
  objList : List ℕ
  files : List (Option ℕ)
  fds : List FdRef
  freeList : List ℕ
  inFlight : List InFlight
  transferCount : ℕ
  call : StreamCall
  deriving DecidableEq

/-- What happens next. `typeOk` is what a check says about the type and the endpoint of an object. -/
inductive StreamObjsOp where
  | allocate (fd : ℕ)
  | init
  | free (fd : ℕ) (typeOk : Bool)
  | detach
  | closeFd
  | submit (args : SubmitHandles)
  | probe (typeOk : Bool)
  | pop
  | cache
  | prepare
  | schedule (ok : Bool)
  | complete (i : ℕ)
  | close (fd : ℕ)
  | dup (fd newFd : ℕ)
  | openOther (fd : ℕ)
  | release (k : ℕ)

section

variable (s : StreamObjs)

/-- The object of a descriptor, when it is for a file of a stream object that still has it. -/
def StreamObjs.objOf (fd : ℕ) : Option ℕ :=
  match s.fds[fd]? with
  | some (.file k) => s.files[k]?.join
  | _ => none

/-- `validate_handle` -/
def StreamObjs.validHandle (fd : ℕ) (typeOk : Bool) : Bool :=
  match (s.objOf fd).bind fun i => s.objs[i]? with
  | some o => !o.markedForDel && typeOk
  | none => false

/-- The object of a file is deleted, and the file does not have it any more. -/
def StreamObjs.deleteObj (k i : ℕ) : StreamObjs :=
  { s with
    objs := s.objs.modify i LiveObj.delete
    objList := s.objList.erase i
    files := s.files.set k none }

/-- `anon_inode_getfd` for a new object. -/
def allocateStep (fd : ℕ) : Option StreamObjs :=
  if s.call = .idle ∧ s.fds[fd]? = some .none then
    some { s with
      objs := s.objs ++ [zeroedObj]
      files := s.files ++ [some s.objs.length]
      fds := s.fds.set fd (.file s.files.length)
      call := .allocating s.objs.length }
  else none

def initStep : Option StreamObjs :=
  match s.call with
  | .allocating i => some { s with
      objs := s.objs.modify i LiveObj.init
      objList := s.objList ++ [i]
      call := .idle }
  | _ => none

/-- `ioctl_free_obj` takes the object from the file, when there still is one.
SOURCE: stream-extensions.c:367-380 -/
def detachStep : Option StreamObjs :=
  match s.call with
  | .detaching fd =>
    match s.fds[fd]? with
    | some (.file k) =>
      match s.files[k]?.join with
      | some i => some { s.deleteObj k i with call := .closing fd }
      | none => some { s with call := .closing fd }
    | _ => some { s with call := .crashed }
  | _ => none

/-- `close_fd`, for whatever the descriptor is for by now. -/
def closeFdStep : Option StreamObjs :=
  match s.call with
  | .closing fd => some { s with fds := s.fds.set fd .none, call := .idle }
  | _ => none

/-- A look at a descriptor during the validation. -/
def probeStep (typeOk : Bool) : Option StreamObjs :=
  match s.call with
  | .validating (.check fd :: probes) args =>
    some { s with call := if s.validHandle fd typeOk then .validating probes args else .idle }
  | .validating (.deref fd :: probes) args =>
    some { s with call :=
      (if s.objOf fd = none then .crashed else if typeOk then .validating probes args else .idle) }
  | _ => none

/-- The first request of the list is taken, if there is one. -/
def popStep : Option StreamObjs :=
  match s.call with
  | .validating [] args =>
    match s.freeList with
    | [] => some { s with call := .idle }
    | req :: rest => some { s with freeList := rest, call := .caching req [] args.cached args }
  | _ => none

/-- `cache_copy_request_handles`, for one descriptor. -/
def cacheStep : Option StreamObjs :=
  match s.call with
  | .caching req handles (fd :: todo) args =>
    match s.objOf fd with
    | some i => some { s with
        objs := s.objs.modify i LiveObj.get
        call := .caching req (handles ++ [i]) todo args }
    | none => some { s with call := .crashed }
  | .caching req handles [] args => some { s with call := .preparing req handles args.ranges }
  | _ => none

/-- `prepare_edma_desc`, for one descriptor. -/
def prepareStep : Option StreamObjs :=
  match s.call with
  | .preparing req handles (fd :: todo) =>
    some { s with call := if s.objOf fd = none then .crashed else .preparing req handles todo }
  | _ => none

/-- The transfer is submitted, or the request is released and goes back to the list.
SOURCE: stream-extensions.c:609-629 -/
def scheduleStep (ok : Bool) : Option StreamObjs :=
  match s.call with
  | .preparing req handles [] =>
    some (if ok then
      { s with
        inFlight := s.inFlight ++ [⟨req, handles⟩]
        transferCount := s.transferCount + 1
        call := .idle }
    else
      { s with
        objs := releaseHandles s.objs handles
        freeList := s.freeList ++ [req]
        call := .idle })
  | _ => none

/-- `callback_edma_xfer`
SOURCE: stream-extensions.c:957-985 -/
def completeXferStep (i : ℕ) : Option StreamObjs :=
  s.inFlight[i]?.map fun f =>
    { s with
      objs := releaseHandles s.objs f.handles
      freeList := s.freeList ++ [f.req]
      inFlight := s.inFlight.eraseIdx i
      transferCount := s.transferCount - 1 }

/-- `fops_release`, for a file that no descriptor is for any more.
SOURCE: stream-extensions.c:331-348 -/
def releaseStep (k : ℕ) : Option StreamObjs :=
  if FdRef.file k ∉ s.fds then
    s.files[k]?.map fun file =>
      match file with
      | some i => s.deleteObj k i
      | none => s
  else none

def streamObjsStep : StreamObjsOp → Option StreamObjs
  | .allocate fd => allocateStep s fd
  | .init => initStep s
  | .free fd typeOk =>
    if s.call = .idle then
      some { s with call := if s.validHandle fd typeOk then .detaching fd else .idle }
    else none
  | .detach => detachStep s
  | .closeFd => closeFdStep s
  | .submit args => if s.call = .idle then some { s with call := .validating args.probes args } else none
  | .probe typeOk => probeStep s typeOk
  | .pop => popStep s
  | .cache => cacheStep s
  | .prepare => prepareStep s
  | .schedule ok => scheduleStep s ok
  | .complete i => completeXferStep s i
  | .close fd => some { s with fds := s.fds.set fd .none }
  | .dup fd newFd => s.fds[fd]?.map fun r => { s with fds := s.fds.set newFd r }
  | .openOther fd => some { s with fds := s.fds.set fd .other }
  | .release k => releaseStep s k

end

/-- A context with requests and free descriptors. -/
def newStreamObjs (requests descriptors : ℕ) : StreamObjs where
  objs := []
  objList := []
  files := []
  fds := List.replicate descriptors .none
  freeList := List.range requests
  inFlight := []
  transferCount := 0
  call := .idle

/-- The request that the ioctl has, and the objects that it cached so far. -/
def StreamCall.request : StreamCall → Option ℕ
  | .caching req _ _ _ => some req
  | .preparing req _ _ => some req
  | _ => none

def StreamCall.handles : StreamCall → List ℕ
  | .caching _ handles _ _ => handles
  | .preparing _ handles _ => handles
  | _ => []

/-- How often requests in flight, and the one that is being submitted, cache an object. -/
def StreamObjs.cachedTimes (s : StreamObjs) (i : ℕ) : ℕ :=
  (s.inFlight.map fun f => f.handles.count i).sum + s.call.handles.count i

/-- The requests are where they belong, and the references and the ends of the objects are those of
what caches them. -/
structure StreamObjsOk (requests : ℕ) (s : StreamObjs) : Prop where
  requests : ∀ r < requests, s.freeList.count r + s.inFlight.countP (fun f => decide (f.req = r)) +
    (decide (s.call.request = some r)).toNat = 1
  transfers : s.transferCount = s.inFlight.length
  refcount : ∀ (i : ℕ) (o : LiveObj), s.objs[i]? = some o → o.ready = true →
    o.refcount = (!o.markedForDel).toNat + s.cachedTimes i
  unmapped : ∀ (i : ℕ) (o : LiveObj), s.objs[i]? = some o →
    o.unmaps = if o.markedForDel = true ∧ s.cachedTimes i = 0 then 1 else 0
  unlinked : ∀ (i : ℕ) (o : LiveObj), s.objs[i]? = some o → o.unlinks = o.markedForDel.toNat ∧
    s.objList.count i = (o.ready && !o.markedForDel).toNat

/-- The descriptor that a submission caches, or looks at for the eDMA, next. -/
def StreamCall.uses : StreamCall → Option ℕ
  | .caching _ _ (fd :: _) _ => some fd
  | .preparing _ _ (fd :: _) => some fd
  | _ => none

def StreamCall.detaches : StreamCall → Option ℕ
  | .detaching fd => some fd
  | _ => none

def StreamCall.allocates : StreamCall → Option ℕ
  | .allocating i => some i
  | _ => none

/-- The steps whose descriptors did not change under them: the descriptors that a submission caches
and looks at again have an object, the one that `ioctl_free_obj` detaches is not for another file,
and a file is not released while `allocate_handle` is at its object. -/
def StreamObjsCareful (s : StreamObjs) : StreamObjsOp → Prop
  | .detach => ∀ fd ∈ s.call.detaches, s.fds[fd]? ≠ some .other
  | .cache | .prepare => ∀ fd ∈ s.call.uses, s.objOf fd ≠ none
  | .release k => ∀ i ∈ s.call.allocates, s.files[k]? ≠ some (some i)
  | _ => True

instance (s : StreamObjs) : ∀ op, Decidable (StreamObjsCareful s op)
  | .detach => inferInstanceAs (Decidable (∀ fd ∈ s.call.detaches, _))
  | .cache | .prepare => inferInstanceAs (Decidable (∀ fd ∈ s.call.uses, _))
  | .release _ => inferInstanceAs (Decidable (∀ i ∈ s.call.allocates, _))
  | .allocate _ | .init | .free _ _ | .closeFd | .submit _ | .probe _ | .pop | .schedule _
  | .complete _ | .close _ | .dup _ _ | .openOther _ => isTrue trivial

end

end NvidiaOot.Model
