import NvidiaOot.Program.Types

/-!
# Host1x

The host1x driver: sync points, the push buffer of a channel and its timeouts, the memory contexts, and the fences
with the interrupt that signals them.

Sources are in `drivers/gpu/host1x/`.
-/

namespace NvidiaOot.Program

open Function

/-!
## Syncpoint values

Thresholds are compared with the value of a syncpoint modulo its wrap.
-/

/-- The comparison of a threshold with a value that was read.
SOURCE: syncpt.c:318-327 -/
def host1xSyncptIsExpired (currentVal thresh : U32) : Bool :=
  ((currentVal - thresh) &&& 0x80000000) == 0

/-!
## Command DMA of a host1x channel

The push buffer is a ring of two-word slots, of which `pos` is the next one to write and
`fence` the one that must not be written.  A submission begins, pushes its slots and ends,
by which the job goes to the sync queue; the jobs that have completed are taken off the
front and their slots given back.

What is in a slot is of any type here.  A push that finds no space waits with the lock
released: it is `none`, and `host1xCdmaWait` is what it does before it sleeps.
-/

section

variable {α : Type}

/-- `HOST1X_PUSHBUFFER_SLOTS` -/
def host1xPushbufferSlots : ℕ := 1023

/-- `struct push_buffer`.  `wrote` and `warned` are not in the source: the slots written in
this submission, and whether the `WARN_ON` of a push was hit.
SOURCE: cdma.h:43-51 -/
structure PushBuffer (α : Type) where
  mapped : ℕ → α
  fence : U32
  pos : U32
  size : U32
  wrote : List ℕ
  warned : Bool

/-- SOURCE: cdma.c:84-86 -/
def host1xPushbufferInit (mapped : ℕ → α) : PushBuffer α where
  mapped := mapped
  fence := BitVec.ofNat 32 (host1xPushbufferSlots * 8) - 8
  pos := 0
  size := BitVec.ofNat 32 (host1xPushbufferSlots * 8)
  wrote := []
  warned := false

/-- The slot that is written next. -/
def PushBuffer.slot (pb : PushBuffer α) : ℕ := pb.pos.toNat / 8

/-- SOURCE: cdma.c:140-155 -/
def host1xPushbufferPush (pb : PushBuffer α) (op : α) : PushBuffer α :=
  { pb with
    mapped := fun i => if i = pb.slot then op else pb.mapped i
    pos := if pb.pos + 8 ≥ pb.size then pb.pos + 8 - pb.size else pb.pos + 8
    wrote := pb.wrote ++ [pb.slot]
    warned := pb.warned || pb.pos == pb.fence }

/-- SOURCE: cdma.c:157-168 -/
def host1xPushbufferPop (pb : PushBuffer α) (slots : U32) : PushBuffer α :=
  let fence := pb.fence + slots * 8
  { pb with fence := if fence ≥ pb.size then fence - pb.size else fence }

/-- SOURCE: cdma.c:170-181 -/
def host1xPushbufferSpace (pb : PushBuffer α) : U32 :=
  ((if pb.fence < pb.pos then pb.fence + pb.size else pb.fence) - pb.pos) / 8

/-! ### The channel -/

/-- A job on the sync queue, as far as the command DMA uses it.  `wrote` is not in the
source: the slots that its pushes wrote. -/
structure CdmaJob where
  /-- `job->syncpt`, by its number. -/
  syncpt : ℕ
  syncptEnd : U32
  syncptIncrs : U32
  client : ℕ
  /-- In milliseconds, 0 for none. -/
  timeout : U32
  syncptRecovery : Bool
  cancelled : Bool
  firstGet : U32
  numSlots : U32
  wrote : List ℕ
deriving DecidableEq, Repr

/-- `enum cdma_event` -/
inductive CdmaEvent where
  | none
  | syncQueueEmpty
  | pushBufferSpace
deriving DecidableEq, Repr

/-- `struct buffer_timeout`; the timer runs when there is a client.
SOURCE: cdma.h:53-61 -/
structure BufferTimeout where
  initialized : Bool
  syncpt : ℕ
  syncptVal : U32
  client : Option ℕ
deriving DecidableEq, Repr

/-- `struct host1x_cdma`; `completions` counts the calls of `complete`.
SOURCE: cdma.h:69-84 -/
structure Cdma (α : Type) where
  pushBuffer : PushBuffer α
  event : CdmaEvent
  completions : ℕ
  slotsUsed : U32
  slotsFree : U32
  firstGet : U32
  /-- The last value written to `DMAPUT`. -/
  lastPos : U32
  syncQueue : List CdmaJob
  timeout : BufferTimeout
  running : Bool

/-- SOURCE: cdma.c:508-530 -/
def host1xCdmaInit (mapped : ℕ → α) : Cdma α where
  pushBuffer := host1xPushbufferInit mapped
  event := .none
  completions := 0
  slotsUsed := 0
  slotsFree := 0
  firstGet := 0
  lastPos := 0
  syncQueue := []
  timeout := ⟨false, 0, 0, none⟩
  running := false

/-- SOURCE: hw/cdma_hw.c:46-84 -/
def cdmaStart (cdma : Cdma α) : Cdma α :=
  if cdma.running then cdma
  else { cdma with lastPos := cdma.pushBuffer.pos, running := true }

/-- SOURCE: hw/cdma_hw.c:145-154 -/
def cdmaFlush (cdma : Cdma α) : Cdma α := { cdma with lastPos := cdma.pushBuffer.pos }

/-- SOURCE: cdma.c:275-294 -/
def cdmaStartTimerLocked (job : CdmaJob) (cdma : Cdma α) : Cdma α :=
  if cdma.timeout.client.isSome then cdma
  else
    { cdma with
      timeout :=
        { cdma.timeout with
          client := some job.client
          syncpt := job.syncpt
          syncptVal := job.syncptEnd } }

/-- SOURCE: cdma.c:296-304 -/
def stopCdmaTimerLocked (cdma : Cdma α) : Cdma α :=
  { cdma with timeout := { cdma.timeout with client := none } }

/-! ### Completion -/

/-- A job that is done: the timer is stopped and its slots given back.
SOURCE: cdma.c:337-354 -/
def retireJob (job : CdmaJob) (cdma : Cdma α) : Cdma α :=
  let cdma := if cdma.timeout.client.isSome then stopCdmaTimerLocked cdma else cdma
  if job.numSlots ≠ 0 then
    { cdma with pushBuffer := host1xPushbufferPop cdma.pushBuffer job.numSlots }
  else cdma

/-- The jobs of the queue are taken off while their syncpoint has reached its end or they are
cancelled; the rest of the queue stays.
SOURCE: cdma.c:325-355 -/
def updateQueue (value : ℕ → U32) : List CdmaJob → Cdma α → Cdma α × List CdmaJob
  | [], cdma => ({ cdma with syncQueue := [] }, [])
  | job :: rest, cdma =>
    if !host1xSyncptIsExpired (value job.syncpt) job.syncptEnd && !job.cancelled then
      let cdma := { cdma with syncQueue := job :: rest }
      (if job.timeout ≠ 0 then cdmaStartTimerLocked job cdma else cdma, [])
    else
      let rest := updateQueue value rest (retireJob job cdma)
      (rest.1, job :: rest.2)

/-- The channel after an update with these values of the syncpoints, and the jobs that were
unpinned and taken off the queue.
SOURCE: cdma.c:306-367 -/
def updateCdmaLocked (value : ℕ → U32) (cdma : Cdma α) : Cdma α × List CdmaJob :=
  let updated := updateQueue value cdma.syncQueue cdma
  let signal := (updated.2.any (·.numSlots ≠ 0) && cdma.event == .pushBufferSpace) ||
    (cdma.event == .syncQueueEmpty && updated.1.syncQueue.isEmpty)
  (if signal then
      { updated.1 with event := .none, completions := cdma.completions + 1 }
    else updated.1, updated.2)

/-! ### Submission -/

/-- `locked` says that the syncpoint was locked by a timeout, `timeoutInit` is what the set-up
of the timer returns.
SOURCE: cdma.c:551-590 -/
def host1xCdmaBegin (locked : Bool) (timeoutInit : ℤ) (job : CdmaJob) (cdma : Cdma α) :
    ℤ × Cdma α :=
  let initTimeout := job.timeout ≠ 0 ∧ cdma.timeout.initialized = false
  if locked then (-ePERM, cdma)
  else if initTimeout ∧ timeoutInit ≠ 0 then (timeoutInit, cdma)
  else
    let cdma :=
      if initTimeout then { cdma with timeout := { cdma.timeout with initialized := true } }
      else cdma
    let cdma := cdmaStart cdma
    (0, { cdma with
      slotsFree := 0
      slotsUsed := 0
      firstGet := cdma.pushBuffer.pos
      pushBuffer := { cdma.pushBuffer with wrote := [] } })

/-- Before a push sleeps: what is there is flushed, and the first one to wait leaves its
event.
SOURCE: cdma.c:216-228, cdma.c:252-268 -/
def host1xCdmaWait (cdma : Cdma α) : Cdma α :=
  let cdma := cdmaFlush cdma
  if cdma.event = .none then { cdma with event := .pushBufferSpace } else cdma

/-- `none` where the push waits for space.
SOURCE: cdma.c:592-617 -/
def host1xCdmaPush (op : α) (cdma : Cdma α) : Option (Cdma α) :=
  let space := host1xPushbufferSpace cdma.pushBuffer
  let flushed := if cdma.slotsFree = 0 then cdmaFlush cdma else cdma
  let slotsFree := if cdma.slotsFree = 0 then space else cdma.slotsFree
  if slotsFree = 0 then none
  else
    some { flushed with
      slotsFree := slotsFree - 1
      slotsUsed := cdma.slotsUsed + 1
      pushBuffer := host1xPushbufferPush cdma.pushBuffer op }

/-- The slots needed to keep the two slots of a wide push together at the end of the ring. -/
def pushWideExtra (pb : PushBuffer α) : U32 :=
  if pb.pos + 16 > pb.size then (pb.size - pb.pos) / 8 else 0

/-- `none` where the push waits for space; `restart` is the slot with the RESTART opcode.
SOURCE: cdma.c:619-668 -/
def host1xCdmaPushWide (restart op₁ op₂ : α) (cdma : Cdma α) : Option (Cdma α) :=
  let extra := pushWideExtra cdma.pushBuffer
  let needed := 2 + extra
  let space := host1xPushbufferSpace cdma.pushBuffer
  if space < needed then none
  else
    let pb :=
      if extra > 0 then host1xPushbufferPush cdma.pushBuffer restart else cdma.pushBuffer
    some { cdma with
      slotsFree := space - needed
      slotsUsed := cdma.slotsUsed + needed
      pushBuffer := host1xPushbufferPush (host1xPushbufferPush pb op₁) op₂ }

/-- SOURCE: cdma.c:670-697 -/
def host1xCdmaEnd (job : CdmaJob) (cdma : Cdma α) : Cdma α :=
  let idle := cdma.syncQueue.isEmpty
  let cdma := cdmaFlush cdma
  let job :=
    { job with
      firstGet := cdma.firstGet
      numSlots := cdma.slotsUsed
      wrote := cdma.pushBuffer.wrote }
  let cdma := { cdma with syncQueue := cdma.syncQueue ++ [job] }
  if job.timeout ≠ 0 ∧ idle then cdmaStartTimerLocked job cdma else cdma

end

/-!
## What a channel submits (`HOST1X_HW >= 6`)

The slots that `channel_program_cdma` pushes for a job, by what they do to the syncpoints
when the hardware executes them: the job waits for its fences, takes the MLOCK of its
engine, increments its syncpoint to see the engine idle, works through its commands,
increments the syncpoint again, waits for that and releases the MLOCK.
-/

/-- A slot by its effect.  Where two slots hold one command it takes effect in the second. -/
inductive Slot where
  /-- Nothing that concerns a syncpoint. -/
  | nop
  /-- `INCR_SYNCPT` -/
  | incr (syncpt : ℕ)
  /-- `WAIT_SYNCPT_32` -/
  | wait (syncpt : ℕ) (threshold : U32)
  /-- A gather whose words increment the syncpoint so often. -/
  | gather (syncpt : ℕ) (incrs : ℕ)
deriving DecidableEq, Repr

/-- A call of `host1x_cdma_push` or `host1x_cdma_push_wide`. -/
inductive Push where
  | narrow (op : Slot)
  | wide (op₁ op₂ : Slot)
deriving DecidableEq, Repr

/-- `struct host1x_job_cmd` -/
inductive JobCmd where
  | wait (id : ℕ) (threshold : U32) (relative : Bool)
  /-- With the increments that its words do, and whether its address needs the wide form. -/
  | gather (incrs : ℕ) (wide : Bool)
  | regWrite
deriving DecidableEq, Repr

/-- A wait that comes before the job takes its engine. -/
def JobCmd.isPrefence : JobCmd → Bool
  | .wait _ _ relative => !relative
  | .gather _ _ | .regWrite => false

/-- SOURCE: hw/channel_hw.c:51-78 -/
def submitWait (id : ℕ) (threshold : U32) : Push := .wide .nop (.wait id threshold)

/-- SOURCE: hw/channel_hw.c:80-110 -/
def submitSetclass : Push := .wide .nop .nop

/-- SOURCE: hw/channel_hw.c:112-165 -/
def submitGather (syncpt : ℕ) (jobSyncptBase : U32) : JobCmd → List Push
  | .wait id threshold relative =>
    [submitWait id (if relative then jobSyncptBase + threshold else threshold), submitSetclass]
  | .gather incrs wide =>
    [if wide then .wide .nop (.gather syncpt incrs) else .narrow (.gather syncpt incrs)]
  | .regWrite => [.narrow .nop]

/-- SOURCE: hw/channel_hw.c:238-245 -/
def submitPrefence : JobCmd → List Push
  | .wait id threshold _ => [submitWait id threshold]
  | .gather _ _ | .regWrite => []

/-- The waits for the prefences, in the host1x class. -/
def submitPrefences : List JobCmd → List Push
  | [] => []
  | cmds => .wide .nop .nop :: cmds.flatMap submitPrefence ++ [.narrow .nop]

/-- `job->syncpt_end`, for the maximum of the syncpoint before the job.
SOURCE: hw/channel_hw.c:262-277 -/
def jobSyncptEnd (job : CdmaJob) (max : U32) : U32 := max + 1 + job.syncptIncrs

/-- SOURCE: hw/channel_hw.c:217-291 -/
def channelProgramCdma (job : CdmaJob) (cmds : List JobCmd) (max : U32) : List Push :=
  let syncptEnd := jobSyncptEnd job max
  submitPrefences (cmds.takeWhile JobCmd.isPrefence) ++
    -- enter the engine class and see the engine idle
    [.wide .nop .nop, .narrow (.incr job.syncpt), submitWait job.syncpt (max + 1), submitSetclass] ++
    (cmds.dropWhile JobCmd.isPrefence).flatMap
      (submitGather job.syncpt (syncptEnd - job.syncptIncrs)) ++
    -- see it idle again and release the MLOCK
    [.narrow (.incr job.syncpt), submitWait job.syncpt (syncptEnd + 1), .narrow .nop]

/-- The increments of the gathers. -/
def gatherIncrs (cmds : List JobCmd) : ℕ :=
  (cmds.map fun
    | .gather incrs _ => incrs
    | .wait _ _ _ | .regWrite => 0).sum

/-!
## Recovery from a job that timed out

When the timer of a channel fires its command processor is stopped, the job that is stuck
is looked for in the sync queue and cancelled with the later ones on its syncpoint, and the
channel goes on with the job behind it.
-/

/-- The two words of a slot. -/
abbrev SlotWords := U32 × U32

/-- What a recovery does to the channel. -/
structure Recovery where
  cdma : Cdma SlotWords
  /-- Where `DMAGET` is put. -/
  restartAddr : U32
  /-- The place in the queue of the job that is taken for the stuck one. -/
  stuck : Option ℕ
  /-- The syncpoint that is locked. -/
  locked : Option ℕ
  /-- The increments done by the CPU. -/
  syncptIncrs : U32
  unpinned : List CdmaJob

/-- The slots of a job, as they are computed for overwriting. -/
def jobSlot (job : CdmaJob) (i : ℕ) : ℕ := (job.firstGet.toNat / 8 + i) % host1xPushbufferSlots

/-- What the slots of a cancelled job are overwritten with.
SOURCE: cdma.c:457-480 -/
def cancelledWords (hasWideGather : Bool) (job : CdmaJob) (i : ℕ) : SlotWords :=
  if i = 0 ∧ hasWideGather then
    (0xd0000000 ||| BitVec.ofNat 32 (jobSlot job job.numSlots.toNat * 2), 0)
  else (0x1bad0000, 0x1bad0000)

/-- SOURCE: cdma.c:455-481 -/
def overwriteSlots (hasWideGather : Bool) (job : CdmaJob) (mapped : ℕ → SlotWords) :
    ℕ → SlotWords :=
  (List.range job.numSlots.toNat).foldl
    (fun mapped i slot =>
      if slot = jobSlot job i then cancelledWords hasWideGather job i else mapped slot) mapped

/-- The jobs behind the failed one: those on its syncpoint are overwritten and cancelled.
SOURCE: cdma.c:449-484 -/
def cancelLater (hasWideGather : Bool) (failed : CdmaJob) :
    List CdmaJob → (ℕ → SlotWords) → List CdmaJob × (ℕ → SlotWords)
  | [], mapped => ([], mapped)
  | job :: rest, mapped =>
    if job.syncpt ≠ failed.syncpt then
      let later := cancelLater hasWideGather failed rest mapped
      (job :: later.1, later.2)
    else
      let later :=
        cancelLater hasWideGather failed rest (overwriteSlots hasWideGather job mapped)
      ({ job with cancelled := true } :: later.1, later.2)

/-- SOURCE: hw/cdma_hw.c:86-137, hw/cdma_hw.c:214-226 -/
def cdmaResume (cdma : Cdma SlotWords) : Cdma SlotWords :=
  if cdma.running then cdma
  else { cdma with lastPos := cdma.pushBuffer.pos, running := true }

/-- With what the syncpoints show.
SOURCE: cdma.c:369-497 -/
def host1xCdmaUpdateSyncQueue (hasWideGather : Bool) (value : ℕ → U32) (cdma : Cdma SlotWords) :
    Recovery :=
  let syncptVal := value cdma.timeout.syncpt
  let before := cdma.syncQueue.takeWhile fun job => !decide (syncptVal < job.syncptEnd)
  match cdma.syncQueue.dropWhile fun job => !decide (syncptVal < job.syncptEnd) with
  | [] =>
    -- all jobs have been completed
    { cdma := cdmaResume cdma
      restartAddr := cdma.lastPos
      stuck := none
      locked := none
      syncptIncrs := 0
      unpinned := [] }
  | job :: rest =>
    let restartAddr :=
      match rest with
      | nextJob :: _ => nextJob.firstGet
      | [] => cdma.lastPos
    if job.syncptRecovery then
      { cdma := cdmaResume { cdma with syncQueue := before ++ { job with timeout := 0 } :: rest }
        restartAddr := restartAddr
        stuck := some before.length
        locked := none
        syncptIncrs := job.syncptEnd - syncptVal
        unpinned := [] }
    else
      let later := cancelLater hasWideGather job rest cdma.pushBuffer.mapped
      let updated := updateCdmaLocked value
        { cdma with
          syncQueue := before ++ { job with cancelled := true } :: later.1
          pushBuffer := { cdma.pushBuffer with mapped := later.2 } }
      { cdma := cdmaResume updated.1
        restartAddr := restartAddr
        stuck := some before.length
        locked := some job.syncpt
        syncptIncrs := 0
        unpinned := updated.2 }

/-- The timer fires: `none` where it has been stopped or the buffer has completed.
SOURCE: hw/cdma_hw.c:293-343 -/
def cdmaTimeoutHandler (hasWideGather : Bool) (value : ℕ → U32) (cdma : Cdma SlotWords) :
    Option Recovery :=
  if cdma.timeout.client = none then none
  else if 0 ≤ (value cdma.timeout.syncpt - cdma.timeout.syncptVal).toInt then none
  else some (host1xCdmaUpdateSyncQueue hasWideGather value { cdma with running := false })

/-!
## Memory contexts of host1x

A few hardware contexts are shared by the memory contexts of many processes: one is owned by a
process at a time, and taken away from it when it is not active and none is free.  The mappings
of a memory context are pinned for the hardware context that it owns.

Memory contexts, mappings and what `host1x_bo_pin` returns are named by numbers.  All of this is
under one lock, which is released only to wait for a hardware context.
-/

/-- `struct host1x_hw_memory_context`, one of `cdl->devs`.
SOURCE: context.h:22-34 -/
structure HwMemoryContext where
  /-- `dev.iommu->iommu_dev` -/
  iommuDev : ℕ
  ref : ℕ
  /-- The process, by its number. -/
  owner : Option ℕ
  owners : List ℕ
  active : ℕ
deriving DecidableEq, Repr

/-- SOURCE: drivers/gpu/host1x/include/linux/host1x-next.h:495-507 -/
structure MemoryContext where
  /-- The `iommu_dev` of the engine. -/
  iommuDev : ℕ
  pid : ℕ
  ref : ℕ
  /-- The place of the hardware context in `cdl->devs`. -/
  hw : Option ℕ
  mappings : List ℕ
deriving DecidableEq, Repr

/-- `struct host1x_context_mapping`.  `ctx` is not in the source: the context whose list it is
on. -/
structure ContextMapping where
  ctx : ℕ
  bo : ℕ
  mapping : Option ℕ
deriving DecidableEq, Repr

/-- What `host1x_bo_pin` has returned: for which hardware context and which buffer, and how
often it was unpinned. -/
structure BoPins where
  next : ℕ
  target : ℕ → ℕ × ℕ
  undone : ℕ → ℕ

/-- SOURCE: context.h:15-20 -/
structure MemoryContextList where
  devs : List HwMemoryContext
  ctxs : ℕ → Option MemoryContext
  maps : ℕ → Option ContextMapping
  pins : BoPins

/-- A new pin, which is number `pins.next`. -/
def host1xBoPin (hw bo : ℕ) (pins : BoPins) : BoPins where
  next := pins.next + 1
  target := update pins.target pins.next (hw, bo)
  undone := update pins.undone pins.next 0

def host1xBoUnpin (pins : BoPins) : Option ℕ → BoPins
  | none => pins
  | some p => { pins with undone := update pins.undone p (pins.undone p + 1) }

namespace MemoryContextList

def modifyDev (s : MemoryContextList) (h : ℕ) (f : HwMemoryContext → HwMemoryContext) :
    MemoryContextList :=
  { s with devs := s.devs.modify h f }

def setCtx (s : MemoryContextList) (c : ℕ) (ctx : Option MemoryContext) : MemoryContextList :=
  { s with ctxs := update s.ctxs c ctx }

def setMap (s : MemoryContextList) (m : ℕ) (mapping : Option ContextMapping) :
    MemoryContextList :=
  { s with maps := update s.maps m mapping }

end MemoryContextList

/-! ### Hardware contexts -/

/-- What the search for a hardware context finds. -/
inductive HwChoice where
  | owned (h : ℕ)
  | free (h : ℕ)
  | steal (h : ℕ)
  | busy
deriving DecidableEq, Repr

/-- One that the process owns, else the first that is free, else the last that can be stolen.
SOURCE: context.c:127-149 -/
def chooseHw (iommuDev pid : ℕ) :
    ℕ → List HwMemoryContext → Option ℕ → Option ℕ → HwChoice
  | _, [], some free, _ => .free free
  | _, [], none, some canSteal => .steal canSteal
  | _, [], none, none => .busy
  | i, cd :: rest, free, canSteal =>
    if cd.iommuDev ≠ iommuDev then chooseHw iommuDev pid (i + 1) rest free canSteal
    else if cd.owner = some pid then .owned i
    else if cd.owner = none ∧ free = none then
      chooseHw iommuDev pid (i + 1) rest (some i) canSteal
    else if cd.active = 0 then chooseHw iommuDev pid (i + 1) rest free (some i)
    else chooseHw iommuDev pid (i + 1) rest free canSteal

/-- A mapping of a context that loses its hardware context.
SOURCE: context.c:157-160 -/
def stealMapping (s : MemoryContextList) (m : ℕ) : MemoryContextList :=
  match s.maps m with
  | none => s
  | some mapping =>
    { s.setMap m (some { mapping with mapping := none }) with
      pins := host1xBoUnpin s.pins mapping.mapping }

/-- SOURCE: context.c:151-161 -/
def stealContext (s : MemoryContextList) (c : ℕ) : MemoryContextList :=
  match s.ctxs c with
  | none => s
  | some ctx => ctx.mappings.foldl stealMapping (s.setCtx c (some { ctx with hw := none }))

/-- SOURCE: context.c:167-170 -/
def foundHw (pid : ℕ) (cd : HwMemoryContext) : HwMemoryContext :=
  { cd with ref := 1, owner := some pid, owners := [] }

/-- The owners of a hardware context lose it.
SOURCE: context.c:151-163 -/
def stealHw (s : MemoryContextList) (h : ℕ) : MemoryContextList :=
  (s.devs[h]?.elim [] HwMemoryContext.owners).foldl stealContext s

/-- SOURCE: context.c:115-173 -/
def host1xMemoryContextAllocHwLocked (s : MemoryContextList) (iommuDev pid : ℕ) :
    Except ℤ (ℕ × MemoryContextList) :=
  if s.devs = [] then .error (-eOPNOTSUPP)
  else
    match chooseHw iommuDev pid 0 s.devs none none with
    | .owned h => .ok (h, s.modifyDev h fun cd => { cd with ref := cd.ref + 1 })
    | .free h => .ok (h, s.modifyDev h (foundHw pid))
    | .steal h => .ok (h, (stealHw s h).modifyDev h (foundHw pid))
    | .busy => .error (-eBUSY)

/-- SOURCE: context.c:175-181 -/
def host1xMemoryContextHwPut (cd : HwMemoryContext) : HwMemoryContext :=
  if cd.ref - 1 = 0 then { cd with ref := cd.ref - 1, owner := none }
  else { cd with ref := cd.ref - 1 }

/-! ### Memory contexts -/

/-- The context gets the number `c`.
SOURCE: context.c:183-204 -/
def host1xMemoryContextAlloc (s : MemoryContextList) (c iommuDev pid : ℕ) (allocOk : Bool) :
    ℤ × MemoryContextList :=
  if s.devs = [] then (-eOPNOTSUPP, s)
  else if !allocOk then (-eNOMEM, s)
  else (0, s.setCtx c (some ⟨iommuDev, pid, 1, none, []⟩))

/-- The mappings are pinned one after another until a pin fails with its error.
SOURCE: context.c:257-265 -/
def pinMappings (h : ℕ) (pinErr : ℕ → ℤ) :
    List ℕ → MemoryContextList → ℤ × MemoryContextList
  | [], s => (0, s)
  | m :: rest, s =>
    match s.maps m with
    | none => pinMappings h pinErr rest s
    | some mapping =>
      if pinErr m ≠ 0 then (pinErr m, s.setMap m (some { mapping with mapping := none }))
      else
        pinMappings h pinErr rest
          { s.setMap m (some { mapping with mapping := some s.pins.next }) with
            pins := host1xBoPin h mapping.bo s.pins }

/-- A mapping after a pin has failed.
SOURCE: context.c:275-278 -/
def undoPin (s : MemoryContextList) (m : ℕ) : MemoryContextList :=
  { s with pins := host1xBoUnpin s.pins ((s.maps m).bind ContextMapping.mapping) }

/-- The context is put on the list of the owners.
SOURCE: context.c:253-255 -/
def attachHw (s : MemoryContextList) (c : ℕ) (ctx : MemoryContext) (h : ℕ) :
    MemoryContextList :=
  (s.setCtx c (some { ctx with hw := some h })).modifyDev h fun cd =>
    { cd with owners := c :: cd.owners }

/-- The context leaves the list of the owners and drops its reference. -/
def detachHw (c : ℕ) (cd : HwMemoryContext) : HwMemoryContext :=
  let cd := host1xMemoryContextHwPut cd
  { cd with owners := cd.owners.erase c }

/-- `pinErr` is what pinning a mapping returns.  `none` where there is no such context, or all
hardware contexts are busy and the call waits for one.
SOURCE: context.c:213-286 -/
def host1xMemoryContextActive (s : MemoryContextList) (c : ℕ) (pinErr : ℕ → ℤ)
    (interrupted : Bool) : Option (ℤ × MemoryContextList) :=
  (s.ctxs c).bind fun ctx =>
    match ctx.hw with
    | some h => some (0, s.modifyDev h fun cd => { cd with active := cd.active + 1 })
    | none =>
      match host1xMemoryContextAllocHwLocked s ctx.iommuDev ctx.pid with
      | .error err =>
        if err = -eBUSY then if interrupted then some (-eRESTARTSYS, s) else none
        else some (err, s)
      | .ok (h, s) =>
        let pinned := pinMappings h pinErr ctx.mappings (attachHw s c ctx h)
        if pinned.1 = 0 then
          some (0, pinned.2.modifyDev h fun cd => { cd with active := cd.active + 1 })
        else
          some (pinned.1,
            ((ctx.mappings.foldl undoPin pinned.2).modifyDev h (detachHw c)).setCtx c (some ctx))

/-- The mapping gets the number `m`.
SOURCE: context.c:289-323 -/
def host1xMemoryContextMap (s : MemoryContextList) (c m bo : ℕ) (allocOk : Bool) (pinErr : ℤ) :
    Option (ℤ × MemoryContextList) :=
  (s.ctxs c).map fun ctx =>
    let listed := s.setCtx c (some { ctx with mappings := m :: ctx.mappings })
    if !allocOk then (-eNOMEM, s)
    else
      match ctx.hw with
      | none => (0, listed.setMap m (some ⟨c, bo, none⟩))
      | some h =>
        if pinErr ≠ 0 then (pinErr, s)
        else
          (0, { listed.setMap m (some ⟨c, bo, some s.pins.next⟩) with
            pins := host1xBoPin h bo s.pins })

/-- SOURCE: context.c:326-340 -/
def host1xMemoryContextUnmap (s : MemoryContextList) (m : ℕ) : Option MemoryContextList :=
  (s.maps m).map fun mapping =>
    let unlisted :=
      match s.ctxs mapping.ctx with
      | none => s
      | some ctx =>
        s.setCtx mapping.ctx (some { ctx with mappings := ctx.mappings.erase m })
    { unlisted.setMap m none with pins := host1xBoUnpin s.pins mapping.mapping }

/-- `none` where the context owns no hardware context.
SOURCE: context.c:343-366 -/
def host1xMemoryContextInactive (s : MemoryContextList) (c : ℕ) : Option MemoryContextList :=
  (s.ctxs c).bind fun ctx => ctx.hw.map fun h =>
    s.modifyDev h fun cd => { cd with active := cd.active - 1 }

/-- SOURCE: context.c:369-372 -/
def host1xMemoryContextGet (s : MemoryContextList) (c : ℕ) : Option MemoryContextList :=
  (s.ctxs c).map fun ctx => s.setCtx c (some { ctx with ref := ctx.ref + 1 })

/-- SOURCE: context.c:375-393 -/
def host1xMemoryContextPut (s : MemoryContextList) (c : ℕ) : Option MemoryContextList :=
  (s.ctxs c).map fun ctx =>
    if ctx.ref = 1 then
      let detached :=
        match ctx.hw with
        | none => s
        | some h => s.modifyDev h (detachHw c)
      detached.setCtx c none
    else s.setCtx c (some { ctx with ref := ctx.ref - 1 })

/-!
## The references of a syncpoint fence

One fence with its reference count, its place on the list of its syncpoint and its delayed
work, and the three paths that work on it, cut where they can meet: the interrupt path and
the timeout path race for the atomic flag `signaling`, and the list is changed under a lock
that the interrupt path holds to its end.

Gets and puts are counted for each of the two references that `enable_signaling` takes.
-/

/-- `fence->list`: the fence is allocated zeroed and its node initialised when it is added. -/
inductive FenceNode where
  | zeroed
  | linked
  | unlinked
deriving DecidableEq, Repr

/-- Where the handler of the interrupt stands with this fence.
SOURCE: intr.c:88-96, fence.c:83-105 -/
inductive IntrPath where
  | idle
  /-- The fence is off the list and `host1x_fence_signal` is called. -/
  | removed
  /-- The flag was set before. -/
  | lost
  | won
  /-- The delayed work has been cancelled. -/
  | cancelled
  | signal
  | drop
deriving DecidableEq, Repr

/-- Where the delayed work stands.
SOURCE: fence.c:107-131 -/
inductive TimeoutPath where
  | idle
  | begun
  /-- The flag was set before. -/
  | lost
  | won
  /-- The work has removed the fence from the list. -/
  | removed
  | signal
  | drop
deriving DecidableEq, Repr

/-- A fence and those that use it. -/
structure FenceState where
  /-- `f->timeout` -/
  timeout : Bool
  kref : ℕ
  /-- `f->signaling` -/
  signaling : Bool
  node : FenceNode
  /-- `f->timeout_work` is scheduled. -/
  workPending : Bool
  work : TimeoutPath
  intr : IntrPath
  /-- The user has not put its reference. -/
  user : Bool
  /-- The calls of `host1x_fence_cancel` that have not returned. -/
  cancels : ℕ
  /-- `DMA_FENCE_FLAG_ENABLE_SIGNAL_BIT` -/
  enableCalled : Bool
  enables : ℕ
  removals : ℕ
  signals : ℕ
  intrGets : ℕ
  intrPuts : ℕ
  timeoutGets : ℕ
  timeoutPuts : ℕ
  /-- A null pointer was followed. -/
  crashed : Bool
deriving DecidableEq, Repr

/-- SOURCE: fence.c:133-153 -/
def host1xFenceCreate (timeout : Bool) : FenceState where
  timeout := timeout
  kref := 1
  signaling := false
  node := .zeroed
  workPending := false
  work := .idle
  intr := .idle
  user := true
  cancels := 0
  enableCalled := false
  enables := 0
  removals := 0
  signals := 0
  intrGets := 0
  intrPuts := 0
  timeoutGets := 0
  timeoutPuts := 0
  crashed := false

namespace FenceState

/-- Drop the reference of the interrupt path. -/
def putIntr (s : FenceState) : FenceState :=
  { s with kref := s.kref - 1, intrPuts := s.intrPuts + 1 }

/-- Drop the reference of the timeout path. -/
def putTimeout (s : FenceState) : FenceState :=
  { s with kref := s.kref - 1, timeoutPuts := s.timeoutPuts + 1 }

/-- The reference of the timeout path is taken, and the work scheduled unless it is already. -/
def startTimeout (s : FenceState) : FenceState :=
  if s.timeout then
    { s with kref := s.kref + 1, timeoutGets := s.timeoutGets + 1, workPending := true }
  else s

/-- Where the threshold is expired the framework signals the fence itself.
SOURCE: fence.c:40-74, intr.c:45-53 -/
def enableSignaling (s : FenceState) (expired : Bool) : FenceState :=
  if expired then { s with enableCalled := true, signals := s.signals + 1 }
  else
    { { s with kref := s.kref + 1, intrGets := s.intrGets + 1 }.startTimeout with
      node := .linked
      enableCalled := true
      enables := s.enables + 1 }

/-! ### The interrupt path -/

/-- SOURCE: intr.c:94-95 -/
def intrRemove (s : FenceState) : FenceState :=
  { s with node := .unlinked, removals := s.removals + 1, intr := .removed }

/-- SOURCE: fence.c:85 -/
def intrXchg (s : FenceState) : FenceState :=
  { s with signaling := true, intr := if s.signaling then .lost else .won }

/-- SOURCE: fence.c:86-91 -/
def intrLost (s : FenceState) : FenceState := { s.putIntr with intr := .idle }

/-- SOURCE: fence.c:94 -/
def intrCancelWork (s : FenceState) : FenceState :=
  if s.timeout && s.workPending then { s with workPending := false, intr := .cancelled }
  else { s with intr := .signal }

/-- SOURCE: fence.c:95-100 -/
def intrCancelled (s : FenceState) : FenceState := { s.putTimeout with intr := .signal }

/-- SOURCE: fence.c:102 -/
def intrSignal (s : FenceState) : FenceState :=
  { s with signals := s.signals + 1, intr := .drop }

/-- SOURCE: fence.c:103 -/
def intrDrop (s : FenceState) : FenceState := { s.putIntr with intr := .idle }

/-! ### The timeout path -/

/-- The work is taken from its queue. -/
def workBegin (s : FenceState) : FenceState := { s with workPending := false, work := .begun }

/-- SOURCE: fence.c:113 -/
def workXchg (s : FenceState) : FenceState :=
  { s with
    signaling := true
    work := if s.signaling then if s.timeout then .lost else .idle else .won }

/-- SOURCE: fence.c:114-117 -/
def workLost (s : FenceState) : FenceState := { s.putTimeout with work := .idle }

/-- `list_del_init` on a node that is zeroed follows null pointers.
SOURCE: fence.c:120, intr.c:55-74 -/
def workRemove (s : FenceState) : FenceState :=
  match s.node with
  | .zeroed => { s with crashed := true }
  | .linked => { s with node := .unlinked, removals := s.removals + 1, work := .removed }
  | .unlinked => { s with work := .signal }

/-- SOURCE: fence.c:121-125 -/
def workRemoved (s : FenceState) : FenceState := { s.putIntr with work := .signal }

/-- SOURCE: fence.c:127-129 -/
def workSignal (s : FenceState) : FenceState :=
  { s with signals := s.signals + 1, work := if s.timeout then .drop else .idle }

/-- SOURCE: fence.c:130 -/
def workDrop (s : FenceState) : FenceState := { s.putTimeout with work := .idle }

/-! ### The user -/

/-- The work is scheduled unless it is already.
SOURCE: fence.c:175 -/
def cancelSchedule (s : FenceState) : FenceState :=
  { s with workPending := true, cancels := s.cancels + 1 }

/-- The flush has waited for the work.
SOURCE: fence.c:176 -/
def cancelFlushed (s : FenceState) : FenceState := { s with cancels := s.cancels - 1 }

/-- The user's final put. -/
def userPut (s : FenceState) : FenceState := { s with kref := s.kref - 1, user := false }

end FenceState

/-!
## The threshold interrupt of a syncpoint

The fences of one syncpoint, the registers of its threshold interrupt, and what the driver
does to both with the lock of the fence list held.
-/

/-- `struct host1x_syncpt_fence`, as far as the interrupt uses it.  `due` is not in the
source: it is the count of increments at which the syncpoint shows the threshold. -/
structure SyncptFence where
  /-- The address of the fence. -/
  fence : ℕ
  threshold : U32
  due : ℕ
deriving DecidableEq, Repr

/-- The interrupt registers of one syncpoint. -/
structure ThreshIntr where
  /-- `SYNCPT_INT_THRESH` -/
  threshold : U32
  /-- The bit of `SYNCPT_THRESH_INT_ENABLE_CPU0`. -/
  enabled : Bool
  /-- The bit of `SYNCPT_THRESH_CPU0_INT_STATUS`. -/
  pending : Bool
deriving DecidableEq, Repr

/-- The hardware latches the interrupt when it is enabled and the value has reached the
threshold. -/
def ThreshIntr.raise (hw : ThreshIntr) (value : U32) : ThreshIntr :=
  { hw with pending := hw.pending || (hw.enabled && host1xSyncptIsExpired value hw.threshold) }

/-- SOURCE: hw/intr_hw.c:123-128 -/
def ThreshIntr.setSyncptThreshold (hw : ThreshIntr) (value thresh : U32) : ThreshIntr :=
  { hw with threshold := thresh }.raise value

/-- SOURCE: hw/intr_hw.c:130-135 -/
def ThreshIntr.enableSyncptIntr (hw : ThreshIntr) (value : U32) : ThreshIntr :=
  { hw with enabled := true }.raise value

/-- SOURCE: hw/intr_hw.c:137-144 -/
def ThreshIntr.disableSyncptIntr (hw : ThreshIntr) : ThreshIntr :=
  { hw with enabled := false, pending := false }

/-- The scan goes from the tail of the list: put the fence behind the first one found that
is not after it, else in front of all.
SOURCE: intr.c:14-29 -/
def host1xIntrAddFenceToList (list : List SyncptFence) (fence : SyncptFence) :
    List SyncptFence :=
  (list.reverse.orderedInsert
    (fun fence fenceInList => (fenceInList.threshold - fence.threshold).toInt ≤ 0) fence).reverse

/-- SOURCE: intr.c:31-43 -/
def host1xIntrUpdateHwState (value : U32) (list : List SyncptFence) (hw : ThreshIntr) :
    ThreshIntr :=
  match list with
  | fence :: _ => (hw.setSyncptThreshold value fence.threshold).enableSyncptIntr value
  | [] => hw.disableSyncptIntr

/-- The fences from the first one that is not yet expired.
SOURCE: intr.c:88-96 -/
def unexpiredFences (value : U32) (list : List SyncptFence) : List SyncptFence :=
  list.dropWhile fun fence => ((value - fence.threshold) &&& 0x80000000) == 0

end NvidiaOot.Program
