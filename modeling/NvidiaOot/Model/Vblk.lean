import NvidiaOot.Library.Machine
import NvidiaOot.Library.Ranges
import NvidiaOot.Program.Vblk

/-!
# Runs of the virtual block device

The requests, their data and the suspension.
-/

namespace NvidiaOot.Model

open Function

/-!
## The virtual block device, its requests and its server

The worker calls `complete_bio_req` and `submit_bio_req` in turn until neither has anything to do.
Requests are queued at any time, a response may name any slot, the server may write the pool, and the
calls outside of the driver return anything.

A ledger keeps account of what the driver does outside of the device: which request each slot of the
channel carries, which requests the server has answered with success, and what was ended and mapped.
-/

section

open Library Program

/-- The response reports success, and for a request with data the number of blocks of the request. -/
def vblkGoodAnswer (config : VsConfigInfo) (r : Request) (resp : VsResponse) : Bool :=
  resp.status = 0 && (r.op = .drvIn || resp.respStatus = 0) &&
    (r.op = .drvIn || r.op = .flush || resp.numBlks = blkCount config r)

/-- The requests that were sent in a frame and not yet answered, by the number in the frame, those that
were answered with success, those that were ended, and the scatter lists. -/
structure VblkLedger where
  awaiting : ℕ → Option Request
  answeredOk : List ℕ
  ended : List (ℕ × BlkStatus)
  mapped : List ℕ
  unmapped : List ℕ
  freed : List ℕ

namespace VblkLedger

def empty : VblkLedger := ⟨fun _ => none, [], [], [], [], []⟩

/-- A response is taken for the request whose slot it names. -/
def answer (config : VsConfigInfo) (l : VblkLedger) (resp : VsResponse) : VblkLedger :=
  match l.awaiting resp.reqId.toNat with
  | none => l
  | some r => { l with
      awaiting := update l.awaiting resp.reqId.toNat none
      answeredOk := if vblkGoodAnswer config r resp then r.tag :: l.answeredOk else l.answeredOk }

def enter (config : VsConfigInfo) (l : VblkLedger) : VblkEffect → VblkLedger
  | .ended tag status => { l with ended := (tag, status) :: l.ended }
  | .sent r frame => { l with awaiting := update l.awaiting frame.reqId.toNat (some r) }
  | .answered resp => l.answer config resp
  | .filled _ _ => l
  | .ioctlFilled _ _ _ => l
  | .mapped sg => { l with mapped := sg :: l.mapped }
  | .unmapped sg => { l with unmapped := sg :: l.unmapped }
  | .freed sg => { l with freed := sg :: l.freed }

def endings (l : VblkLedger) (tag : ℕ) : ℕ := (l.ended.map Prod.fst).count tag

end VblkLedger

inductive VblkWorker where
  | idle
  | completing
  | submitting (completed : Bool)
deriving DecidableEq, Repr

structure VblkState where
  dev : VblkDev
  ledger : VblkLedger
  queued : List ℕ
  worker : VblkWorker

inductive VblkOp where
  /-- A request is queued, and the entry for it can be allocated or not. -/
  | request (r : Request) (alloc : Bool)
  /-- The worker starts, if the channel needs no reset. -/
  | work (notified : ℤ)
  | complete (read : Option VsResponse)
  | submit (env : VblkSubmitEnv)
  /-- The server writes the pool. -/
  | pool (mem : ℕ → U8)

namespace VblkState

/-- A function of the worker has been called. -/
def call (s : VblkState) (result : VblkDev × List VblkEffect) (worker : VblkWorker) : VblkState :=
  { s with
    dev := result.1
    ledger := result.2.foldl (VblkLedger.enter s.dev.config) s.ledger
    worker := worker }

/-- The number of bits among those of the slots. -/
def slotCount (p : ℕ → Bool) : ℕ := (List.range MAX_VSC_REQS.toNat).countP p

end VblkState

/-- SOURCE: drivers/block/tegra_virt_storage/tegra_hv_vblk.c:686-739 -/
def vblkStep (hsiErrRptInj : Bool) (s : VblkState) : VblkOp → Option VblkState
  | .request r alloc =>
    if r.tag ∈ s.queued then none
    else
      let (ok, dev) := vblkRequest s.dev r alloc
      some { s with dev := dev, queued := if ok then r.tag :: s.queued else s.queued }
  | .work notified =>
    if s.worker = .idle then
      some { s with worker := if notified ≠ 0 then .idle else .completing }
    else none
  | .complete read =>
    if s.worker = .completing then
      let (completed, result) := completeBioReq hsiErrRptInj s.dev read
      some (s.call result (.submitting completed))
    else none
  | .submit env =>
    match s.worker with
    | .submitting completed =>
      let (submitted, result) := submitBioReq env s.dev
      some (s.call result (if submitted || completed then .completing else .idle))
    | _ => none
  | .pool mem => some { s with dev := { s.dev with sharedBuffer := mem } }

/-- The device is set up, and no request was queued. -/
def vblkStart (dev : VblkDev) : VblkState where
  dev := dev
  ledger := VblkLedger.empty
  queued := []
  worker := .idle

/-! ### What a run keeps -/

/-- The scatter list of the request in a slot. -/
def VblkState.sgHeld (s : VblkState) (sg i : ℕ) : Bool :=
  (s.ledger.awaiting i).any (usesSg s.dev.config) && (s.dev.reqs i).sgLst = some sg

/-- Requests end once, and the slots, the counters and the scatter lists are in step with what was sent
and answered. -/
structure VblkSound (s : VblkState) : Prop where
  /-- A request that was queued is on the list, in flight, or was ended, and it was ended once. -/
  once : ∀ tag, (s.dev.reqList.map Request.tag).count tag +
    VblkState.slotCount (fun i => (s.ledger.awaiting i).any fun r => r.tag = tag) +
    s.ledger.endings tag = if tag ∈ s.queued then 1 else 0
  /-- A request that was ended with success was answered with success. -/
  success : ∀ tag, (tag, BlkStatus.ok) ∈ s.ledger.ended → tag ∈ s.ledger.answeredOk
  pending : ∀ i, s.dev.pendingReqs i = (s.ledger.awaiting i).isSome
  inflight : s.dev.inflightReqs.toNat = VblkState.slotCount s.dev.pendingReqs
  inflightIoctl : s.dev.inflightIoctlReqs.toNat =
    VblkState.slotCount fun i => (s.ledger.awaiting i).any fun r => r.op = .drvIn
  /-- A scatter list that was mapped belongs to a request in flight, or was unmapped, and it was unmapped
  once. -/
  unmapped : ∀ sg ∈ s.ledger.mapped,
    VblkState.slotCount (s.sgHeld sg) + s.ledger.unmapped.count sg = 1
  freed : ∀ sg ∈ s.ledger.mapped,
    VblkState.slotCount (s.sgHeld sg) + s.ledger.freed.count sg = 1

/-! ### The calls that go wrong -/

/-- The request that a call of `submit_bio_req` takes from the list. -/
def vblkTaken (env : VblkSubmitEnv) (dev : VblkDev) : Option Request :=
  if env.canWrite && findFirstZeroBit dev.pendingReqs dev.maxRequests.toNat < dev.maxRequests.toNat then
    dev.reqList.head?.filter fun r => !ioctlLimited dev r
  else none

/-- The request passes the checks that come before the frame is written. -/
def vblkAccepts (dev : VblkDev) (r : Request) : Bool :=
  if r.op = .drvIn then
    dev.config.supports VS_BLK_IOCTL_OP_F &&
      (ioctlReqCheck r.completionData (maxIoBytes dev.config)).isSome
  else
    (blkCmdOp dev.config r.op).isSome &&
      (r.op = .flush || bioReqSanityCheck dev r (maxIoBytes dev.config))

/-- Once the scatter list of a request is mapped, the request is accepted and its frame is written.  A
frame without one is not refused with an error, and the frame of an ioctl is not refused at all. -/
def vblkSubmitCareful (env : VblkSubmitEnv) (dev : VblkDev) (r : Request) : Prop :=
  if usesSg dev.config r then
    env.sgAlloc = true → env.sgMap.isSome = true → vblkAccepts dev r = true ∧ 0 < env.ivcWrite
  else
    vblkAccepts dev r = true → 0 < env.ivcWrite ∨ (env.ivcWrite = 0 ∧ r.op ≠ .drvIn)

instance vblkSubmitCareful.decidable (env : VblkSubmitEnv) (dev : VblkDev) (r : Request) :
    Decidable (vblkSubmitCareful env dev r) :=
  decidable_of_iff
    ((usesSg dev.config r = true → env.sgAlloc = true → env.sgMap.isSome = true →
        vblkAccepts dev r = true ∧ 0 < env.ivcWrite) ∧
      (usesSg dev.config r = false → vblkAccepts dev r = true →
        0 < env.ivcWrite ∨ (env.ivcWrite = 0 ∧ r.op ≠ .drvIn)))
    (by unfold vblkSubmitCareful; cases usesSg dev.config r <;> simp)

/-- The server reports no error for a request in flight, and no submission fails after a step that it
does not undo. -/
def vblkCareful (s : VblkState) : VblkOp → Prop
  | .complete (some resp) => (s.ledger.awaiting resp.reqId.toNat).isSome = true → resp.status = 0
  | .submit env => ∀ r ∈ vblkTaken env s.dev, vblkSubmitCareful env s.dev r
  | _ => True

instance vblkCareful.decidable (s : VblkState) (op : VblkOp) : Decidable (vblkCareful s op) :=
  match op with
  | .complete (some resp) =>
    inferInstanceAs (Decidable ((s.ledger.awaiting resp.reqId.toNat).isSome = true → resp.status = 0))
  | .submit env => inferInstanceAs (Decidable (∀ r ∈ vblkTaken env s.dev, vblkSubmitCareful env s.dev r))
  | .complete none | .request _ _ | .work _ | .pool _ => isTrue trivial

end

/-!
## Where the data of the virtual block device lies

A request that uses the memory pool has the bytes from the offset of its slot on.  The requests in flight
at once are those of the slots that are reserved between two calls of the worker.
-/

section

open Library Program

def vblkInFlight (dev : VblkDev) (i : ℕ) : Option Request :=
  if dev.pendingReqs i then (dev.reqs i).req else none

/-- An ioctl uses the pool, and so does a transfer of data without an address of the VM. -/
def vblkUsesPool (config : VsConfigInfo) (r : Request) : Bool :=
  r.op = .drvIn || (config.blkConfig.useVmAddress = 0 && r.isRw)

/-- The bytes that a request has in the pool. -/
def vblkPoolBytes (r : Request) : ℕ :=
  if r.op = .drvIn then r.completionData.elim 0 fun ioctl => ioctl.ioctlLen.toNat else r.dataLen.toNat

def vblkPoolRange (dev : VblkDev) (i : ℕ) (r : Request) : Range :=
  ⟨(dev.reqs i).mempoolOffset.toNat, vblkPoolBytes r⟩

/-- The frame of a request that reads, writes, discards or erases describes the bytes of the request. -/
structure VblkDescribes (dev : VblkDev) (frame : VsBlkRequest) (r : Request) : Prop where
  start : frame.blkOffset.toNat * dev.config.blkConfig.hardblkSize.toNat = r.pos.toNat * 512
  bytes : frame.numBlks.toNat * dev.config.blkConfig.hardblkSize.toNat = r.dataLen.toNat
  inDevice : r.pos.toNat * 512 + r.dataLen.toNat ≤ dev.size.toNat

/-- The data of the requests in flight is where it belongs, in a pool of a size. -/
structure VblkPlaced (ivmSize : ℕ) (dev : VblkDev) : Prop where
  inside : ∀ i r, vblkInFlight dev i = some r → vblkUsesPool dev.config r = true →
    (vblkPoolRange dev i r).stop ≤ ivmSize
  apart : ∀ i j r r', i ≠ j → vblkInFlight dev i = some r → vblkInFlight dev j = some r' →
    vblkUsesPool dev.config r = true → vblkUsesPool dev.config r' = true →
      (vblkPoolRange dev i r).Disjoint (vblkPoolRange dev j r')
  described : ∀ i r, vblkInFlight dev i = some r → r.op ≠ .drvIn → r.op ≠ .flush →
    VblkDescribes dev (dev.reqs i).vsReq.blkReq r

/-- A write that is now in flight has its segments in its range, and nothing else of the pool has
changed. -/
def VblkWritten (dev dev' : VblkDev) : Prop :=
  ∀ i r, dev.pendingReqs i = false → vblkInFlight dev' i = some r → r.op = .write →
    dev.config.blkConfig.useVmAddress = 0 →
      slice dev'.sharedBuffer (vblkPoolRange dev' i r).start r.dataLen.toNat = r.segments.flatten ∧
        AgreeOutside dev.sharedBuffer dev'.sharedBuffer (vblkPoolRange dev' i r).start r.dataLen.toNat

/-- A read that a response ends with success has the bytes of its range in its segments. -/
def VblkRead (dev : VblkDev) (resp : VsResponse) (effects : List VblkEffect) : Prop :=
  ∀ r, vblkInFlight dev resp.reqId.toNat = some r → r.op = .read →
    dev.config.blkConfig.useVmAddress = 0 → .ended r.tag .ok ∈ effects →
      ∃ segments, .filled r.tag segments ∈ effects ∧
        segments.map List.length = r.segments.map List.length ∧
        segments.flatten = slice dev.sharedBuffer (vblkPoolRange dev resp.reqId.toNat r).start
          ((dev.reqs resp.reqId.toNat).vsReq.blkReq.numBlks.toNat * dev.config.blkConfig.hardblkSize.toNat)

def VblkMoved (hsiErrRptInj : Bool) (s s' : VblkState) : VblkOp → Prop
  | .submit _ => VblkWritten s.dev s'.dev
  | .complete (some resp) => VblkRead s.dev resp (completeBioReq hsiErrRptInj s.dev (some resp)).2.2
  | _ => True

/-! ### The requests that go to the wrong place -/

/-- What the block layer promises of a request: it has whole sectors, and segments for its bytes. -/
def vblkFormed (r : Request) : Prop :=
  r.dataLen.toNat % 512 = 0 ∧ (r.isRw = true → r.segments.flatten.length = r.dataLen.toNat)

instance vblkFormed.decidable (r : Request) : Decidable (vblkFormed r) :=
  inferInstanceAs (Decidable (_ ∧ _))

/-- Another ioctl in flight has the slice of the pool that a slot has. -/
def vblkSharesSlice (dev : VblkDev) (slot : ℕ) : Bool :=
  (List.range dev.maxRequests.toNat).any fun j =>
    (vblkInFlight dev j).any (fun r => r.op = .drvIn) &&
      j % dev.maxIoctlRequests.toNat = slot % dev.maxIoctlRequests.toNat

/-- The bytes of the request end below `2 ^ 64`; the offset of the slot is below `2 ^ 32`; and an ioctl of
a device with addresses of the VM is no longer than a slice, which no other ioctl in flight has. -/
def vblkPlaceCareful (dev : VblkDev) (slot : ℕ) (r : Request) : Prop :=
  (r.op ≠ .drvIn → r.op ≠ .flush → r.pos.toNat * 512 + r.dataLen.toNat < 2 ^ 64) ∧
  (dev.config.blkConfig.useVmAddress = 0 → vblkUsesPool dev.config r = true →
    slot * (maxIoBytes dev.config).toNat < 2 ^ 32) ∧
  (dev.config.blkConfig.useVmAddress ≠ 0 → r.op = .drvIn →
    vblkPoolBytes r ≤ UFS_IOCTL_MAX_SIZE_SUPPORTED.toNat ∧ vblkSharesSlice dev slot = false)

instance vblkPlaceCareful.decidable (dev : VblkDev) (slot : ℕ) (r : Request) :
    Decidable (vblkPlaceCareful dev slot r) :=
  inferInstanceAs (Decidable (_ ∧ _ ∧ _))

def vblkDataCareful (s : VblkState) : VblkOp → Prop
  | .request r _ => vblkFormed r
  | .submit env => ∀ r ∈ vblkTaken env s.dev, vblkAccepts s.dev r = true →
      vblkPlaceCareful s.dev (findFirstZeroBit s.dev.pendingReqs s.dev.maxRequests.toNat) r
  | _ => True

instance vblkDataCareful.decidable (s : VblkState) (op : VblkOp) : Decidable (vblkDataCareful s op) :=
  match op with
  | .request r _ => inferInstanceAs (Decidable (vblkFormed r))
  | .submit env => inferInstanceAs (Decidable (∀ r ∈ vblkTaken env s.dev, vblkAccepts s.dev r = true →
      vblkPlaceCareful s.dev (findFirstZeroBit s.dev.pendingReqs s.dev.maxRequests.toNat) r))
  | .complete _ | .work _ | .pool _ => isTrue trivial

end

/-!
## Suspending the virtual block device under any interleaving

The worker takes one step at a time: it reads the state of the queue, reserves a slot, takes a request from
the list, writes its frame, handles a response, and frees a slot in the three steps of `vblk_put_req`.  The
steps of suspend and resume come between them, and so do new requests and the responses of the server.

The channel is established, and a response interrupts unless the interrupt is disabled.
-/

section

open Library Program

/-- What the worker goes on with when it has freed a slot: it was called to free the slot of a response, of
a submission that found no request, or of one that has failed. -/
inductive VblkPutNext where
  | completed
  | noRequest (completed : Bool)
  | failed (r : Request)
deriving DecidableEq, Repr

/-- What the worker does next.  The flag is `req_completed`. -/
inductive VblkStage where
  | idle
  | completing
  | submitting (completed : Bool)
  | reserving (completed : Bool)
  | taking (completed : Bool) (slot : ℕ)
  | sending (slot : ℕ) (r : Request)
  | putting (slot : ℕ) (next : VblkPutNext)
  | testing (next : VblkPutNext)
  | signalling (next : VblkPutNext)
  | ending (r : Request)
deriving DecidableEq, Repr

/-- Where suspend or resume is.  `flushing` has the number of the run of the worker that it waits for. -/
inductive VblkPm where
  | running
  | marked
  | waiting
  | drained
  | irqDisabled
  | flushing (upTo : ℕ)
  | suspended
  | resumed
  | reinited
  | irqEnabled
deriving DecidableEq, Repr

/-- The interrupt of the channel queues the work. -/
def VblkPm.listens : VblkPm → Bool
  | .running | .marked | .waiting | .drained | .irqEnabled => true
  | _ => false

/-- The tags of the requests that were queued, ended and sent, the responses in the channel, and the slots
that the server has not answered.  The runs of the worker are counted. -/
structure VblkPmState where
  dev : VblkDev
  queued : List ℕ
  ended : List ℕ
  sent : List ℕ
  rx : List VsResponse
  unanswered : List ℕ
  stage : VblkStage
  workPending : Bool
  started : ℕ
  finished : ℕ
  pm : VblkPm

inductive VblkPmOp where
  /-- A request is queued. -/
  | request (r : Request)
  /-- The server answers. -/
  | answer (resp : VsResponse)
  /-- The work is started. -/
  | start
  /-- The worker goes on. -/
  | work (env : VblkSubmitEnv)
  /-- Suspend or resume goes on. -/
  | pm
deriving DecidableEq, Repr

namespace VblkPmState

def note (s : VblkPmState) : VblkEffect → VblkPmState
  | .ended tag _ => { s with ended := tag :: s.ended }
  | .sent r frame => { s with
      sent := r.tag :: s.sent
      unanswered := frame.reqId.toNat :: s.unanswered }
  | _ => s

/-- The worker goes on to a stage, or returns. -/
def goto (s : VblkPmState) (stage : VblkStage) : VblkPmState :=
  { s with
    stage := stage
    finished := if stage = .idle then s.finished + 1 else s.finished }

/-- The loop of the worker, after a submission that had nothing to submit. -/
def loop (completed : Bool) : VblkStage := if completed then .completing else .idle

/-- The stage after `vblk_put_req`. -/
def afterPut : VblkPutNext → VblkStage
  | .completed => .submitting true
  | .noRequest completed => loop completed
  | .failed r => .ending r

/-- A function of the driver has changed the device. -/
def did (s : VblkPmState) (dev : VblkDev) (effects : List VblkEffect) : VblkPmState :=
  effects.foldl note { s with dev := dev }

/-- The next step of the worker.
SOURCE: drivers/block/tegra_virt_storage/tegra_hv_vblk.c:319-409, 478-707 -/
def work (hsiErrRptInj : Bool) (s : VblkPmState) (env : VblkSubmitEnv) : Option VblkPmState :=
  match s.stage with
  | .idle => none
  | .completing =>
    match s.rx with
    | [] => some (s.goto (.submitting false))
    | resp :: rest =>
      let (slot, dev, effects) := completeResponse hsiErrRptInj s.dev resp
      some ((({ s with rx := rest }).did dev effects).goto
        (slot.elim (.submitting true) fun slot => .putting slot .completed))
  | .submitting completed =>
    if env.canWrite && s.dev.queue && s.dev.queueState = .active then some (s.goto (.reserving completed))
    else some (s.goto (loop completed))
  | .reserving completed =>
    match vblkReserve s.dev with
    | (none, _) => some (s.goto (loop completed))
    | (some slot, dev) => some ((s.did dev []).goto (.taking completed slot))
  | .taking completed slot =>
    match takeEntry s.dev with
    | none => some (s.goto (.putting slot (.noRequest completed)))
    | some (r, dev) => some ((s.did dev []).goto (.sending slot r))
  | .sending slot r =>
    let (written, dev, effects) := submitFill env s.dev slot r
    some ((s.did dev effects).goto (if written then .completing else .putting slot (.failed r)))
  | .putting slot next =>
    if vblkPutCheck s.dev slot then some ((s.did (vblkRelease s.dev slot) []).goto (.testing next))
    else some (s.goto (afterPut next))
  | .testing next => some (s.goto (if vblkDrained s.dev then .signalling next else afterPut next))
  | .signalling next => some ((s.did (vblkSignal s.dev) []).goto (afterPut next))
  | .ending r => some ((s.did s.dev [reqErrorHandler r]).goto .completing)

/-- The next step of suspend, and then of resume.
SOURCE: drivers/block/tegra_virt_storage/tegra_hv_vblk.c:1501-1550 -/
def power (s : VblkPmState) : Option VblkPmState :=
  match s.pm with
  | .running => some { s with dev := vblkSetQueueState s.dev .suspended, pm := .marked }
  | .marked => some { s with dev := vblkSuspendCheck s.dev, pm := .waiting }
  | .waiting => (vblkWait s.dev).map fun dev => { s with dev := dev, pm := .drained }
  | .drained => some { s with pm := .irqDisabled }
  -- The flush waits for the work that is running, and for the work that is pending.
  | .irqDisabled => some { s with pm := .flushing (s.started + if s.workPending then 1 else 0) }
  | .flushing upTo => if upTo ≤ s.finished then some { s with pm := .suspended } else none
  | .suspended => some { s with dev := vblkSetQueueState s.dev .active, pm := .resumed }
  | .resumed => some { s with dev := vblkReinit s.dev, pm := .reinited }
  | .reinited => some { s with pm := .irqEnabled }
  | .irqEnabled => some { s with workPending := true, pm := .running }

end VblkPmState

def vblkPmStep (hsiErrRptInj : Bool) (s : VblkPmState) : VblkPmOp → Option VblkPmState
  | .request r =>
    if r.tag ∈ s.queued then none
    else some { s with
      dev := (vblkRequest s.dev r true).2
      queued := r.tag :: s.queued
      workPending := true }
  | .answer resp => some { s with
      rx := s.rx ++ [resp]
      unanswered := s.unanswered.filter fun slot => slot ≠ resp.reqId.toNat
      workPending := s.workPending || s.pm.listens }
  | .start =>
    if s.workPending && s.stage = .idle then
      some { s with workPending := false, started := s.started + 1, stage := .completing }
    else none
  | .work env => s.work hsiErrRptInj env
  | .pm => s.power

/-- The device is set up, and nothing has happened. -/
def vblkPmStart (dev : VblkDev) : VblkPmState where
  dev := dev
  queued := []
  ended := []
  sent := []
  rx := []
  unanswered := []
  stage := .idle
  workPending := false
  started := 0
  finished := 0
  pm := .running

/-! ### The order that goes wrong -/

/-- The worker has read that the queue is active, and has not yet reserved a slot. -/
def VblkStage.isReserving : VblkStage → Bool
  | .reserving _ => true
  | _ => false

def VblkStage.isSending : VblkStage → Bool
  | .sending _ _ => true
  | _ => false

/-- Suspend does not find that nothing is in flight after the worker has read that the queue is active and
before it has reserved a slot; and no write of a frame ends with an error. -/
def vblkPmCareful (s : VblkPmState) : VblkPmOp → Prop
  | .pm => s.pm = .marked → s.dev.inflightReqs = 0 → s.stage.isReserving = false
  | .work env => s.stage.isSending = true → 0 ≤ env.ivcWrite
  | _ => True

instance vblkPmCareful.decidable (s : VblkPmState) (op : VblkPmOp) : Decidable (vblkPmCareful s op) :=
  match op with
  | .pm => inferInstanceAs (Decidable (s.pm = .marked → s.dev.inflightReqs = 0 → s.stage.isReserving = false))
  | .work env => inferInstanceAs (Decidable (s.stage.isSending = true → 0 ≤ env.ivcWrite))
  | .request _ | .answer _ | .start => isTrue trivial

/-! ### What a run keeps -/

/-- Suspend waits, and the server has answered all requests. -/
def VblkPmState.waits (s : VblkPmState) : Prop :=
  s.pm = .waiting ∧ s.dev.reqQueueEmpty = 0 ∧ s.unanswered = []

def VblkPmOp.isWork : VblkPmOp → Bool
  | .start | .work _ => true
  | _ => false

/-- A step of the worker, or a new request. -/
def VblkPmOp.isOwn : VblkPmOp → Bool
  | .start | .work _ | .request _ => true
  | _ => false

/-- How far the worker is from its next look at the responses. -/
def VblkStage.rank : VblkStage → ℕ
  | .completing => 1
  | .idle => 2
  | .submitting _ => 3
  | .ending _ => 4
  | .signalling _ => 5
  | .testing _ => 6
  | .putting _ _ => 7
  | .sending _ _ => 8
  | .taking _ _ => 9
  | .reserving _ => 10

def VblkPmState.rank (s : VblkPmState) : ℕ := 12 * s.rx.length + s.stage.rank

structure VblkDrains (hsiErrRptInj : Bool) (s : VblkPmState) : Prop where
  /-- When suspend has returned, nothing is in flight. -/
  drained : s.pm = .suspended → ∀ i, s.dev.pendingReqs i = false
  /-- Each request is on the list, or was ended. -/
  kept : s.pm = .suspended → ∀ tag ∈ s.queued,
    tag ∈ s.dev.reqList.map Request.tag ∨ tag ∈ s.ended
  /-- Nothing is sent before resume. -/
  silent : s.pm = .suspended → ∀ op s', vblkPmStep hsiErrRptInj s op = some s' → s'.sent = s.sent
  /-- When suspend waits and the server has answered, there is something left for the worker to do. -/
  progress : s.waits → s.workPending = true ∨ s.stage ≠ .idle
  /-- It waits for a bounded number of steps of the worker. -/
  bounded : s.waits → ∀ ops s', ops.all VblkPmOp.isOwn = true →
    AllSteps (vblkPmStep hsiErrRptInj) vblkPmCareful s ops →
    run (vblkPmStep hsiErrRptInj) s ops = some s' → s'.waits → ops.countP VblkPmOp.isWork ≤ s.rank
  /-- There is no completion before suspend is called. -/
  fresh : s.pm = .running → s.dev.reqQueueEmpty = 0

end

end NvidiaOot.Model
