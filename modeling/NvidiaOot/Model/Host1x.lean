import NvidiaOot.Library.Machine
import NvidiaOot.Library.RingSlots
import NvidiaOot.Library.SerialOrder
import NvidiaOot.Program.Host1x

/-!
# Runs of host1x

The push buffer, the jobs of a channel and their timeouts, the memory contexts, the fences and the interrupt.
-/

namespace NvidiaOot.Model

open Function

/-!
## Submissions on one channel

A submission holds the lock of the command DMA from its beginning to its end, except while a
push waits for space; updates come where the lock is free.
-/

section

open Library Program

variable {α : Type}

inductive PushKind where
  | narrow
  | wide
deriving DecidableEq, Repr

/-- A channel and the submission in progress. -/
structure CdmaRun (α : Type) where
  cdma : Cdma α
  job : Option CdmaJob
  /-- The push that waits for space, with the lock released. -/
  waiting : Option PushKind

/-- The steps of submissions and of completion. -/
inductive CdmaOp (α : Type) where
  | begin (locked : Bool) (timeoutInit : ℤ) (job : CdmaJob)
  | push (op : α)
  | pushWide (op₁ op₂ : α)
  | wait (kind : PushKind)
  | finish
  /-- With what the syncpoints show. -/
  | update (value : ℕ → U32)

def PushWaits (cdma : Cdma α) : PushKind → Prop
  | .narrow => cdma.slotsFree = 0 ∧ host1xPushbufferSpace cdma.pushBuffer = 0
  | .wide => host1xPushbufferSpace cdma.pushBuffer < 2 + pushWideExtra cdma.pushBuffer

instance (cdma : Cdma α) : ∀ kind, Decidable (PushWaits cdma kind)
  | .narrow => inferInstanceAs (Decidable (_ ∧ _))
  | .wide => inferInstanceAs (Decidable (_ < _))

/-- A submission goes on with this push. -/
def CdmaRun.Pushing (s : CdmaRun α) (kind : PushKind) : Prop :=
  s.job.isSome = true ∧ (s.waiting = none ∨ s.waiting = some kind)

instance (s : CdmaRun α) (kind : PushKind) : Decidable (s.Pushing kind) :=
  inferInstanceAs (Decidable (_ ∧ _))

/-- Nobody holds the lock of the command DMA. -/
def CdmaRun.LockFree (s : CdmaRun α) : Prop := s.job = none ∨ s.waiting.isSome = true

instance (s : CdmaRun α) : Decidable s.LockFree :=
  decidable_of_iff (s.job.isNone = true ∨ s.waiting.isSome = true)
    (by rw [CdmaRun.LockFree, Option.isNone_iff_eq_none])

/-- A submission begins, or is refused and leaves the channel alone. -/
def CdmaRun.begin (s : CdmaRun α) (locked : Bool) (timeoutInit : ℤ) (job : CdmaJob) :
    CdmaRun α :=
  let begun := host1xCdmaBegin locked timeoutInit job s.cdma
  { s with cdma := begun.2, job := if begun.1 = 0 then some job else none }

/-- One step: `none` where it is not the turn of the party, or the push has to wait. -/
def cdmaStep (restart : α) (s : CdmaRun α) : CdmaOp α → Option (CdmaRun α)
  | .begin locked timeoutInit job =>
    if s.job.isSome then none else some (s.begin locked timeoutInit job)
  | .push op =>
    if s.Pushing .narrow then
      (host1xCdmaPush op s.cdma).map fun cdma => { s with cdma := cdma, waiting := none }
    else none
  | .pushWide op₁ op₂ =>
    if s.Pushing .wide then
      (host1xCdmaPushWide restart op₁ op₂ s.cdma).map fun cdma =>
        { s with cdma := cdma, waiting := none }
    else none
  | .wait kind =>
    if s.Pushing kind ∧ PushWaits s.cdma kind then
      some { s with cdma := host1xCdmaWait s.cdma, waiting := some kind }
    else none
  | .finish =>
    match s.job, s.waiting with
    | some job, none => some { s with cdma := host1xCdmaEnd job s.cdma, job := none }
    | _, _ => none
  | .update value =>
    if s.LockFree then some { s with cdma := (updateCdmaLocked value s.cdma).1 } else none

/-- A channel that has been initialised. -/
def cdmaRunStart (mapped : ℕ → α) : CdmaRun α := ⟨host1xCdmaInit mapped, none, none⟩

/-! ### What is promised -/

def jobSlots (job : CdmaJob) : List ℕ :=
  ringSlots host1xPushbufferSlots (job.firstGet.toNat / 8) job.numSlots.toNat

def slotSum (jobs : List CdmaJob) : ℕ := (jobs.map fun job => job.numSlots.toNat).sum

def CdmaRun.queued (s : CdmaRun α) : ℕ := slotSum s.cdma.syncQueue

/-- The slots of the submission in progress. -/
def CdmaRun.inProgress (s : CdmaRun α) : ℕ :=
  if s.job.isSome then s.cdma.slotsUsed.toNat else 0

def IsPosition (x : U32) : Prop := x.toNat % 8 = 0 ∧ x.toNat < host1xPushbufferSlots * 8

structure CdmaRun.Accounted (s : CdmaRun α) : Prop where
  size : s.cdma.pushBuffer.size.toNat = host1xPushbufferSlots * 8
  pos : IsPosition s.cdma.pushBuffer.pos
  fence : IsPosition s.cdma.pushBuffer.fence
  space : (host1xPushbufferSpace s.cdma.pushBuffer).toNat + s.queued + s.inProgress = 1022
  slotsFree : s.cdma.slotsFree.toNat ≤ (host1xPushbufferSpace s.cdma.pushBuffer).toNat
  not_warned : s.cdma.pushBuffer.warned = false
  disjoint : s.cdma.syncQueue.Pairwise fun a b => (jobSlots a).Disjoint (jobSlots b)
  consecutive : s.cdma.syncQueue.IsChain fun a b =>
    b.firstGet.toNat / 8 = (a.firstGet.toNat / 8 + a.numSlots.toNat) % host1xPushbufferSlots
  written : ∀ job ∈ s.cdma.syncQueue, job.wrote = jobSlots job

/-- From `s` to this state two slots side by side were written last, in order, after a slot of
padding at the end of the ring if any. -/
def CdmaRun.Adjacent (s' s : CdmaRun α) (op₁ op₂ : α) : Prop :=
  ∃ padding k, (padding = [] ∨ padding = [host1xPushbufferSlots - 1]) ∧
    k + 1 < host1xPushbufferSlots ∧
    s'.cdma.pushBuffer.wrote = s.cdma.pushBuffer.wrote ++ padding ++ [k, k + 1] ∧
    s'.cdma.pushBuffer.mapped k = op₁ ∧ s'.cdma.pushBuffer.mapped (k + 1) = op₂

end

/-!
## A channel and the hardware that executes it

Jobs are submitted push by push, the hardware executes the slots up to the last position it
was given, strictly in order, and updates take completed jobs off the queue.  The counts of
the syncpoints have no bound; what is shown of them wraps.

The syncpoints of the channel's jobs are incremented by its slots only; the others, which its
jobs may wait for, by anyone.
-/

section

open Library Program

structure ChannelExec where
  run : CdmaRun Slot
  /-- What the submission in progress has yet to push. -/
  pending : List Push
  /-- The increments that have been submitted, for `host1x_syncpt_read_max`. -/
  max : ℕ → ℕ
  count : ℕ → ℕ
  /-- The counts that were read last, for `sp->min_val`. -/
  cached : ℕ → ℕ
  /-- The slots that the hardware has executed. -/
  got : ℕ
  /-- The increments done of the gather that is executed. -/
  gatherDone : ℕ
  /-- The slots that have been given back. -/
  popped : ℕ
  /-- All slots that were ever pushed. -/
  stream : List Slot

inductive ExecOp where
  | submit (timeoutInit : ℤ) (job : CdmaJob) (cmds : List JobCmd)
  | push
  | wait
  | finish
  | update
  | load (syncpt : ℕ)
  | hardware
  | foreignIncr (syncpt : ℕ)

def bump (counts : ℕ → ℕ) (syncpt n : ℕ) : ℕ → ℕ :=
  fun i => if i = syncpt then counts i + n else counts i

/-- The slots of a push, without the padding. -/
def pushSlots : Push → List Slot
  | .narrow op => [op]
  | .wide op₁ op₂ => [op₁, op₂]

def pushKind : Push → PushKind
  | .narrow _ => .narrow
  | .wide _ _ => .wide

namespace ChannelExec

/-- `channel_submit` up to the first push: the program is fixed by the maximum of the
syncpoint, which nobody else moves until the end of the submission.
SOURCE: drivers/gpu/host1x/hw/channel_hw.c:321-355 -/
def submit (s : ChannelExec) (timeoutInit : ℤ) (job : CdmaJob) (cmds : List JobCmd) :
    ChannelExec :=
  let max := word 31 (s.max job.syncpt)
  let begun := s.run.begin false timeoutInit { job with syncptEnd := jobSyncptEnd job max }
  if begun.job.isSome then
    { s with
      run := begun
      pending := channelProgramCdma job cmds max
      max := bump s.max job.syncpt (job.syncptIncrs.toNat + 2) }
  else { s with run := begun }

/-- The next push, when it finds space. -/
def push (s : ChannelExec) : Option ChannelExec :=
  match s.pending with
  | [] => none
  | .narrow op :: rest =>
    (cdmaStep .nop s.run (.push op)).map fun run =>
      { s with run := run, pending := rest, stream := s.stream ++ [op] }
  | .wide op₁ op₂ :: rest =>
    let padding := if pushWideExtra s.run.cdma.pushBuffer > 0 then [.nop] else []
    (cdmaStep .nop s.run (.pushWide op₁ op₂)).map fun run =>
      { s with run := run, pending := rest, stream := s.stream ++ padding ++ [op₁, op₂] }

/-- The hardware goes on to the next slot. -/
def advance (s : ChannelExec) : ChannelExec := { s with got := s.got + 1, gatherDone := 0 }

/-- One step of the hardware, which stops at `DMAPUT`. -/
def hardware (s : ChannelExec) : Option ChannelExec :=
  let get := s.got % host1xPushbufferSlots
  if s.run.cdma.lastPos.toNat = 8 * get then none
  else
    match s.run.cdma.pushBuffer.mapped get with
    | .nop => some s.advance
    | .incr syncpt => some { s.advance with count := bump s.count syncpt 1 }
    | .wait syncpt threshold =>
      if host1xSyncptIsExpired (word 31 (s.count syncpt)) threshold then some s.advance else none
    | .gather syncpt incrs =>
      if s.gatherDone < incrs then
        some { s with count := bump s.count syncpt 1, gatherDone := s.gatherDone + 1 }
      else some s.advance

/-- `update_cdma_locked` with the values that were read last. -/
def update (s : ChannelExec) : ChannelExec :=
  let updated := updateCdmaLocked (fun syncpt => word 31 (s.cached syncpt)) s.run.cdma
  { s with
    run := { s.run with cdma := updated.1 }
    popped := s.popped + slotSum updated.2 }

end ChannelExec

/-- One step.  A job that is submitted is on a syncpoint of the channel, has not been cancelled,
and its gathers do its increments. -/
def execStep (own : ℕ → Bool) (s : ChannelExec) : ExecOp → Option ChannelExec
  | .submit timeoutInit job cmds =>
    if s.run.job.isNone ∧ own job.syncpt ∧ !job.cancelled ∧
        gatherIncrs cmds = job.syncptIncrs.toNat then
      some (s.submit timeoutInit job cmds)
    else none
  | .push => s.push
  | .wait =>
    match s.pending with
    | [] => none
    | next :: _ =>
      (cdmaStep .nop s.run (.wait (pushKind next))).map fun run => { s with run := run }
  | .finish =>
    if s.pending.isEmpty then (cdmaStep .nop s.run .finish).map fun run => { s with run := run }
    else none
  | .update => if s.run.LockFree then some s.update else none
  | .load syncpt =>
    some { s with cached := fun i => if i = syncpt then s.count i else s.cached i }
  | .hardware => s.hardware
  | .foreignIncr syncpt =>
    if own syncpt then none else some { s with count := bump s.count syncpt 1 }

/-- An idle channel: what was submitted before has been done. -/
def execStart (count : ℕ → ℕ) : ChannelExec where
  run := cdmaRunStart fun _ => .nop
  pending := []
  max := count
  count := count
  cached := count
  got := 0
  gatherDone := 0
  popped := 0
  stream := []

/-- Every slot that has been given back was executed. -/
def ChannelExec.Executed (s : ChannelExec) : Prop := s.popped ≤ s.got

instance (s : ChannelExec) : Decidable s.Executed := inferInstanceAs (Decidable (_ ≤ _))

/-! ### The tail of a job -/

def slotIncrs (syncpt : ℕ) : Slot → ℕ
  | .incr syncpt' => if syncpt' = syncpt then 1 else 0
  | .gather syncpt' incrs => if syncpt' = syncpt then incrs else 0
  | .nop | .wait _ _ => 0

def incrsOn (syncpt : ℕ) (slots : List Slot) : ℕ := (slots.map (slotIncrs syncpt)).sum

/-- The increments done of the gather that is executed. -/
def ChannelExec.midGather (s : ChannelExec) (syncpt : ℕ) : ℕ :=
  match s.stream[s.got]? with
  | some (.gather syncpt' _) => if syncpt' = syncpt then s.gatherDone else 0
  | _ => 0

/-- The hardware is inside the job, whose slots begin at number `start`, and has done the
increment that sees the engine idle and those of the gathers. -/
def ChannelExec.InTail (s : ChannelExec) (start : ℕ) (job : CdmaJob) : Prop :=
  start ≤ s.got ∧ s.got < start + job.numSlots.toNat ∧
    1 + job.syncptIncrs.toNat ≤
      incrsOn job.syncpt ((s.stream.drop start).take (s.got - start)) + s.midGather job.syncpt

/-- Of the jobs that lie from `start` on, the hardware is not in the tail of one whose end the
value read last has reached. -/
def ChannelExec.NotInTail (s : ChannelExec) : ℕ → List CdmaJob → Prop
  | _, [] => True
  | start, job :: rest =>
    (host1xSyncptIsExpired (word 31 (s.cached job.syncpt)) job.syncptEnd = true → ¬ s.InTail start job) ∧
    s.NotInTail (start + job.numSlots.toNat) rest

/-- The condition on a step: at an update the hardware is not in the tail of a queued job whose
end has been read, and at most `2 ^ 31` increments are outstanding on the syncpoint of any
queued job since it was read last. -/
def ChannelExec.Careful (s : ChannelExec) : ExecOp → Prop
  | .update =>
    s.NotInTail s.popped s.run.cdma.syncQueue ∧
      ∀ job ∈ s.run.cdma.syncQueue, s.max job.syncpt ≤ s.cached job.syncpt + 2 ^ 31
  | _ => True

instance (s : ChannelExec) (start : ℕ) (job : CdmaJob) : Decidable (s.InTail start job) :=
  inferInstanceAs (Decidable (_ ∧ _ ∧ _))

instance ChannelExec.NotInTail.decidable (s : ChannelExec) :
    ∀ start jobs, Decidable (s.NotInTail start jobs)
  | _, [] => isTrue trivial
  | start, job :: rest =>
    haveI := NotInTail.decidable s (start + job.numSlots.toNat) rest
    inferInstanceAs (Decidable ((_ → ¬ _) ∧ _))

instance (s : ChannelExec) : ∀ op, Decidable (s.Careful op)
  | .update => inferInstanceAs (Decidable (_ ∧ ∀ _ ∈ s.run.cdma.syncQueue, _))
  | .submit _ _ _ | .push | .wait | .finish | .load _ | .hardware | .foreignIncr _ => isTrue trivial

end

/-!
## The right job of a recovery

What a recovery should do to a queue, for the job that is really stuck: the first one whose
own syncpoint has not reached its end.
-/

section

open Library Program

/-- The job's own syncpoint has reached its end, in wrap-around order. -/
def Reached (value : ℕ → U32) (job : CdmaJob) : Prop :=
  host1xSyncptIsExpired (value job.syncpt) job.syncptEnd = true

instance (value : ℕ → U32) (job : CdmaJob) : Decidable (Reached value job) :=
  inferInstanceAs (Decidable (_ = _))

/-- The place of the first job that has not completed. -/
def firstUnreached (value : ℕ → U32) (jobs : List CdmaJob) : Option ℕ :=
  jobs.findIdx? fun job => !decide (Reached value job)

/-- The job at place `k` is behind the stuck one and on its syncpoint. -/
def LaterOnSyncpt (jobs : List CdmaJob) (stuck : Option ℕ) (k : ℕ) (job : CdmaJob) : Prop :=
  ∃ i failed, stuck = some i ∧ jobs[i]? = some failed ∧ i < k ∧ job.syncpt = failed.syncpt

/-- The recovery of a channel for the job at this place, if any. -/
structure RecoveredAt (stuck : Option ℕ) (cdma : Cdma SlotWords) (r : Recovery) : Prop where
  stuck_eq : r.stuck = stuck
  /-- That job and the later ones on its syncpoint are cancelled, and no others. -/
  jobs : ∀ k job, cdma.syncQueue[k]? = some job → ∃ cancelled,
    (r.unpinned ++ r.cdma.syncQueue)[k]? = some { job with cancelled := cancelled } ∧
    (cancelled = true ↔ job.cancelled = true ∨ stuck = some k ∨ LaterOnSyncpt cdma.syncQueue stuck k job)
  /-- Only slots of the later ones are overwritten. -/
  overwritten : ∀ slot, r.cdma.pushBuffer.mapped slot ≠ cdma.pushBuffer.mapped slot →
    ∃ k job, cdma.syncQueue[k]? = some job ∧ LaterOnSyncpt cdma.syncQueue stuck k job ∧
      slot ∈ jobSlots job
  /-- The other jobs, those on other syncpoints among them, keep their slots. -/
  kept : ∀ k job, cdma.syncQueue[k]? = some job →
    ¬ LaterOnSyncpt cdma.syncQueue stuck k job →
    ∀ slot ∈ jobSlots job, r.cdma.pushBuffer.mapped slot = cdma.pushBuffer.mapped slot
  restart : r.restartAddr =
    ((stuck.bind fun i => cdma.syncQueue[i + 1]?).map (·.firstGet)).getD cdma.lastPos

/-- The comparison of the recovery says of the jobs up to the first one that has not
completed what their own syncpoints say. -/
def ComparesRight (value : ℕ → U32) (cdma : Cdma SlotWords) : Prop :=
  ∀ (k : ℕ) (job : CdmaJob), cdma.syncQueue[k]? = some job →
    (∀ (i : ℕ) (earlier : CdmaJob), cdma.syncQueue[i]? = some earlier → i < k → Reached value earlier) →
    (value cdma.timeout.syncpt < job.syncptEnd ↔ ¬ Reached value job)

end

/-!
## Clients of the memory contexts

Any clients make memory contexts, activate them and end activations, map and unmap buffers and
get and put references.  A call that waits for a hardware context is made again later.
-/

section

open Library Program

/-- The contexts, and the activations of each that its clients have not ended. -/
structure MemctxRun where
  list : MemoryContextList
  activations : ℕ → ℕ

/-- The calls: with the number that is new, and what fails. -/
inductive MemctxOp where
  | alloc (c iommuDev pid : ℕ) (allocOk : Bool)
  | active (c : ℕ) (pinErr : ℕ → ℤ) (interrupted : Bool)
  | inactive (c : ℕ)
  | map (c m bo : ℕ) (allocOk : Bool) (pinErr : ℤ)
  | unmap (m : ℕ)
  | get (c : ℕ)
  | put (c : ℕ)

/-- One call: `none` where it waits, or its argument does not exist.  A client ends only its
activations. -/
def memctxStep (s : MemctxRun) : MemctxOp → Option MemctxRun
  | .alloc c iommuDev pid allocOk =>
    if (s.list.ctxs c).isNone then
      some { s with list := (host1xMemoryContextAlloc s.list c iommuDev pid allocOk).2 }
    else none
  | .active c pinErr interrupted =>
    (host1xMemoryContextActive s.list c pinErr interrupted).map fun (err, list) =>
      ⟨list, if err = 0 then update s.activations c (s.activations c + 1) else s.activations⟩
  | .inactive c =>
    if 0 < s.activations c then
      (host1xMemoryContextInactive s.list c).map fun list =>
        ⟨list, update s.activations c (s.activations c - 1)⟩
    else none
  | .map c m bo allocOk pinErr =>
    if (s.list.maps m).isNone then
      (host1xMemoryContextMap s.list c m bo allocOk pinErr).map fun r => { s with list := r.2 }
    else none
  | .unmap m => (host1xMemoryContextUnmap s.list m).map fun list => { s with list := list }
  | .get c => (host1xMemoryContextGet s.list c).map fun list => { s with list := list }
  | .put c => (host1xMemoryContextPut s.list c).map fun list => { s with list := list }

/-- Hardware contexts behind these IOMMUs, owned by nobody. -/
def memctxStart (iommus : List ℕ) : MemctxRun where
  list :=
    { devs := iommus.map fun iommuDev => ⟨iommuDev, 0, none, [], 0⟩
      ctxs := fun _ => none
      maps := fun _ => none
      pins := ⟨0, fun _ => (0, 0), fun _ => 0⟩ }
  activations := fun _ => 0

/-! ### What is promised -/

/-- The hardware contexts and their owners. -/
structure MemctxRun.HwSound (s : MemctxRun) : Prop where
  /-- A hardware context is active as often as the memory contexts that own it. -/
  active : ∀ (h : ℕ) (cd : HwMemoryContext), s.list.devs[h]? = some cd →
    cd.active = (cd.owners.map s.activations).sum
  /-- An active memory context owns a hardware context. -/
  hw_of_active : ∀ c, 0 < s.activations c →
    ∃ ctx, s.list.ctxs c = some ctx ∧ ctx.hw.isSome = true
  nodup : ∀ (h : ℕ) (cd : HwMemoryContext), s.list.devs[h]? = some cd → cd.owners.Nodup
  owners : ∀ (h : ℕ) (cd : HwMemoryContext), s.list.devs[h]? = some cd → ∀ c,
    c ∈ cd.owners ↔ ∃ ctx, s.list.ctxs c = some ctx ∧ ctx.hw = some h
  owned : ∀ (c : ℕ) (ctx : MemoryContext) (h : ℕ), s.list.ctxs c = some ctx → ctx.hw = some h →
    h < s.list.devs.length
  ref : ∀ (h : ℕ) (cd : HwMemoryContext), s.list.devs[h]? = some cd →
    cd.ref = cd.owners.length
  free : ∀ (h : ℕ) (cd : HwMemoryContext), s.list.devs[h]? = some cd →
    (cd.owner = none ↔ cd.ref = 0)

structure MemctxRun.PinsSound (s : MemctxRun) : Prop where
  /-- A mapping is pinned for the hardware context that its context owns, and not pinned when it
  owns none. -/
  pinned : ∀ (m : ℕ) (mapping : ContextMapping), s.list.maps m = some mapping →
    ∃ ctx, s.list.ctxs mapping.ctx = some ctx ∧ m ∈ ctx.mappings ∧
      (mapping.mapping.map fun p => (s.list.pins.target p, s.list.pins.undone p)) =
        ctx.hw.map fun h => ((h, mapping.bo), 0)
  once : ∀ (m m' : ℕ) (mapping mapping' : ContextMapping) (p : ℕ),
    s.list.maps m = some mapping → s.list.maps m' = some mapping' →
    mapping.mapping = some p → mapping'.mapping = some p → m = m'
  /-- A pin is undone once, when its mapping does not hold it any more. -/
  undone : ∀ p < s.list.pins.next, s.list.pins.undone p ≤ 1 ∧
    (s.list.pins.undone p = 0 ↔
      ∃ (m : ℕ) (mapping : ContextMapping),
        s.list.maps m = some mapping ∧ mapping.mapping = some p)

structure MemctxRun.Sound (s : MemctxRun) : Prop extends s.HwSound, s.PinsSound

/-- The hardware context of an active memory context stays its own. -/
def MemctxRun.KeepsActive (s s' : MemctxRun) : Prop :=
  ∀ (c : ℕ) (ctx : MemoryContext), 0 < s.activations c → s.list.ctxs c = some ctx →
    ∃ ctx', s'.list.ctxs c = some ctx' ∧ ctx'.hw = ctx.hw

/-- No mapping but the first fails to be pinned. -/
def FailsFirst (pinErr : ℕ → ℤ) : List ℕ → Prop
  | [] => True
  | m :: rest => pinErr m ≠ 0 ∨ ∀ m' ∈ rest, pinErr m' = 0

instance FailsFirst.decidable (pinErr : ℕ → ℤ) : ∀ l, Decidable (FailsFirst pinErr l)
  | [] => isTrue trivial
  | _ :: rest => inferInstanceAs (Decidable (_ ∨ ∀ m' ∈ rest, pinErr m' = 0))

/-- An activation that needs a hardware context does not fail to pin a mapping after it has
pinned another. -/
def PinsCarefully (pinErr : ℕ → ℤ) : Option MemoryContext → Prop
  | none => True
  | some ctx => ctx.hw = none → FailsFirst pinErr ctx.mappings

instance PinsCarefully.decidable (pinErr : ℕ → ℤ) : ∀ ctx, Decidable (PinsCarefully pinErr ctx)
  | none => isTrue trivial
  | some ctx => inferInstanceAs (Decidable (ctx.hw = none → _))

/-- The last reference to a context is put when it has no mappings and no activations. -/
def PutsCarefully (activations : ℕ) : Option MemoryContext → Prop
  | none => True
  | some ctx => ctx.ref = 1 → ctx.mappings = [] ∧ activations = 0

instance PutsCarefully.decidable (activations : ℕ) : ∀ ctx, Decidable (PutsCarefully activations ctx)
  | none => isTrue trivial
  | some ctx => inferInstanceAs (Decidable (ctx.ref = 1 → _ ∧ _))

def MemctxRun.Careful (s : MemctxRun) : MemctxOp → Prop
  | .active c pinErr _ => PinsCarefully pinErr (s.list.ctxs c)
  | .put c => PutsCarefully (s.activations c) (s.list.ctxs c)
  | .alloc _ _ _ _ | .inactive _ | .map _ _ _ _ _ | .unmap _ | .get _ => True

instance MemctxRun.decidableCareful (s : MemctxRun) : ∀ op, Decidable (s.Careful op)
  | .active c pinErr _ => inferInstanceAs (Decidable (PinsCarefully pinErr (s.list.ctxs c)))
  | .put c => inferInstanceAs (Decidable (PutsCarefully (s.activations c) (s.list.ctxs c)))
  | .alloc _ _ _ _ | .inactive _ | .map _ _ _ _ _ | .unmap _ | .get _ => isTrue trivial

end

/-!
## The parties of a fence

Which step is enabled when.  The lock of the fence list is held by the interrupt path while
it is not idle; enabling, removing and signalling elsewhere wait for it.  The work is not
run twice at a time, and `host1x_fence_cancel` returns when it is neither pending nor
running.  The user calls nothing after its final put.
-/

section

open Program

inductive FenceOp where
  | enableSignaling (expired : Bool)
  | intrRemove
  | intrXchg
  | intrLost
  | intrCancelWork
  | intrCancelled
  | intrSignal
  | intrDrop
  | workBegin
  | workXchg
  | workLost
  | workRemove
  | workRemoved
  | workSignal
  | workDrop
  | cancelSchedule
  | cancelFlushed
  | userPut
deriving DecidableEq, Repr

def FenceEnabled (s : FenceState) : FenceOp → Prop
  -- the framework calls it once, and not on a fence that has been signalled
  | .enableSignaling _ =>
    s.user = true ∧ s.enableCalled = false ∧ s.signals = 0 ∧ s.intr = .idle
  | .intrRemove => s.node = .linked ∧ s.intr = .idle
  | .intrXchg => s.intr = .removed
  | .intrLost => s.intr = .lost
  | .intrCancelWork => s.intr = .won
  | .intrCancelled => s.intr = .cancelled
  | .intrSignal => s.intr = .signal
  | .intrDrop => s.intr = .drop
  | .workBegin => s.workPending = true ∧ s.work = .idle
  | .workXchg => s.work = .begun
  | .workLost => s.work = .lost
  | .workRemove => s.work = .won ∧ s.intr = .idle
  | .workRemoved => s.work = .removed
  | .workSignal => s.work = .signal ∧ s.intr = .idle
  | .workDrop => s.work = .drop
  | .cancelSchedule => s.user = true
  | .cancelFlushed => 0 < s.cancels ∧ s.workPending = false ∧ s.work = .idle
  | .userPut => s.user = true ∧ s.cancels = 0

def fenceApply (s : FenceState) : FenceOp → FenceState
  | .enableSignaling expired => s.enableSignaling expired
  | .intrRemove => s.intrRemove
  | .intrXchg => s.intrXchg
  | .intrLost => s.intrLost
  | .intrCancelWork => s.intrCancelWork
  | .intrCancelled => s.intrCancelled
  | .intrSignal => s.intrSignal
  | .intrDrop => s.intrDrop
  | .workBegin => s.workBegin
  | .workXchg => s.workXchg
  | .workLost => s.workLost
  | .workRemove => s.workRemove
  | .workRemoved => s.workRemoved
  | .workSignal => s.workSignal
  | .workDrop => s.workDrop
  | .cancelSchedule => s.cancelSchedule
  | .cancelFlushed => s.cancelFlushed
  | .userPut => s.userPut

instance (s : FenceState) : ∀ op, Decidable (FenceEnabled s op)
  | .enableSignaling _ => inferInstanceAs (Decidable (_ ∧ _ ∧ _ ∧ _))
  | .intrRemove | .workBegin | .workRemove | .workSignal | .userPut =>
    inferInstanceAs (Decidable (_ ∧ _))
  | .cancelFlushed => inferInstanceAs (Decidable (_ ∧ _ ∧ _))
  | .intrXchg | .intrLost | .intrCancelWork | .intrCancelled | .intrSignal | .intrDrop
  | .workXchg | .workLost | .workRemoved | .workDrop | .cancelSchedule =>
    inferInstanceAs (Decidable (_ = _))

/-- A step of any party: each one works on the memory of the fence, so that it uses a freed
fence when no reference is left.  The second component is set from then on. -/
def fenceStep (s : FenceState × Bool) (op : FenceOp) : Option (FenceState × Bool) :=
  if FenceEnabled s.1 op then some (fenceApply s.1 op, s.2 || s.1.kref == 0) else none

/-! ### What is promised -/

/-- No path has anything left to do with the fence. -/
def FenceAtRest (s : FenceState) : Prop :=
  s.node ≠ .linked ∧ s.intr = .idle ∧ s.work = .idle ∧ s.workPending = false

/-- The promises on a fence and on whether it was used when freed. -/
structure FenceBalanced (s : FenceState) (usedFreed : Bool) : Prop where
  signalled_once : s.signals ≤ 1
  enabled_once : s.enables ≤ 1
  linked_iff : s.node = .linked ↔ s.enables = 1 ∧ s.removals = 0
  removed_once : s.removals ≤ s.enables
  intr_gets : s.intrGets = s.enables
  intr_puts : s.intrPuts ≤ s.intrGets
  timeout_gets : s.timeoutGets = if s.timeout then s.enables else 0
  timeout_puts : s.timeoutPuts ≤ s.timeoutGets
  dropped : FenceAtRest s →
    s.removals = s.enables ∧ s.intrPuts = s.intrGets ∧ s.timeoutPuts = s.timeoutGets
  not_freed : usedFreed = false
  not_crashed : s.crashed = false

/-- The condition on a step.  The work runs into `host1x_intr_remove_fence` only when the
fence has been enabled.  Where it is created with a timeout: it is not enabled while a run
of the work that an earlier cancel has started goes on, and after it has been enabled it is
cancelled only while its work is pending. -/
def FenceCareful (s : FenceState) : FenceOp → Prop
  | .workRemove => s.node ≠ .zeroed
  | .enableSignaling expired => s.timeout = true → expired = false → s.work = .idle
  | .cancelSchedule => s.timeout = true → s.node ≠ .zeroed → s.workPending = true
  | _ => True

instance (s : FenceState) : ∀ op, Decidable (FenceCareful s op)
  | .workRemove => inferInstanceAs (Decidable (_ ≠ _))
  | .enableSignaling _ | .cancelSchedule => inferInstanceAs (Decidable (_ → _ → _))
  | .intrRemove | .intrXchg | .intrLost | .intrCancelWork | .intrCancelled | .intrSignal
  | .intrDrop | .workBegin | .workXchg | .workLost | .workRemoved | .workSignal | .workDrop
  | .cancelFlushed | .userPut => isTrue trivial

end

/-!
## One syncpoint, its fences and its interrupt

The steps of the parties that meet at a syncpoint: increments by the hardware, a fence
enabled or removed under the lock of the list, and the interrupt service routine, which is
cut where the others can come between its accesses: it reads the status, disables the
interrupt, clears the status, reads the value, and walks the list with the lock held.

The count of increments has no bound; the syncpoint shows it modulo its wrap.
-/

section

open Library Program

inductive IntrHandler where
  | idle
  | seen
  | disabled
  | cleared
  /-- The value was read when the count was this. -/
  | loaded (count : ℕ)
deriving DecidableEq, Repr

/-- A syncpoint with its fence list and its interrupt. -/
structure SyncptState where
  count : ℕ
  /-- `sp->min_val`, the value read last. -/
  minVal : U32
  fences : List SyncptFence
  hw : ThreshIntr
  handler : IntrHandler
deriving DecidableEq, Repr

/-- The value that the syncpoint shows. -/
def SyncptState.value (s : SyncptState) : U32 := word 31 s.count

/-- The fence as it is enabled: the next count that shows its threshold. -/
def SyncptState.arm (s : SyncptState) (fence : ℕ) (threshold : U32) : SyncptFence :=
  ⟨fence, threshold, s.count + (threshold - s.value).toNat⟩

inductive SyncptOp where
  | incr
  /-- `host1x_syncpt_load` by anyone. -/
  | load
  | enableSignaling (fence : ℕ) (threshold : U32)
  | removeFence (fence : ℕ)
  | isrStatus
  | isrDisable
  | isrClear
  | handlerLoad
  | handlerList
deriving DecidableEq, Repr

def SyncptState.incr (s : SyncptState) : SyncptState :=
  { s with count := s.count + 1, hw := s.hw.raise (word 31 (s.count + 1)) }

/-- The list is changed with the lock held, and the registers after it. -/
def SyncptState.updateList (s : SyncptState) (fences : List SyncptFence) : SyncptState :=
  { s with fences := fences, hw := host1xIntrUpdateHwState s.value fences s.hw }

/-- Refused when the value read last says that the threshold has expired.
SOURCE: drivers/gpu/host1x/fence.c:40-74, drivers/gpu/host1x/intr.c:45-53 -/
def SyncptState.enableSignaling (s : SyncptState) (fence : ℕ) (threshold : U32) :
    SyncptState :=
  if host1xSyncptIsExpired s.minVal threshold then s
  else s.updateList (host1xIntrAddFenceToList s.fences (s.arm fence threshold))

/-- A fence that is not in the list is left alone.
SOURCE: drivers/gpu/host1x/intr.c:55-74 -/
def SyncptState.removeFence (s : SyncptState) (fence : ℕ) : SyncptState :=
  if s.fences.any (·.fence == fence) then
    s.updateList (s.fences.eraseP (·.fence == fence))
  else s

/-- One step: `none` where the party is elsewhere.
SOURCE: drivers/gpu/host1x/hw/intr_hw.c:21-46, drivers/gpu/host1x/intr.c:76-99 -/
def syncptStep (s : SyncptState) : SyncptOp → Option SyncptState
  | .incr => some s.incr
  | .load => some { s with minVal := s.value }
  | .enableSignaling fence threshold =>
    -- the fence framework enables a fence once
    if s.fences.any (·.fence == fence) then none else some (s.enableSignaling fence threshold)
  | .removeFence fence => some (s.removeFence fence)
  | .isrStatus =>
    if s.handler = .idle ∧ s.hw.pending then some { s with handler := .seen } else none
  | .isrDisable =>
    if s.handler = .seen then
      some { s with handler := .disabled, hw := { s.hw with enabled := false } }
    else none
  | .isrClear =>
    if s.handler = .disabled then
      some { s with handler := .cleared, hw := { s.hw with pending := false } }
    else none
  | .handlerLoad =>
    if s.handler = .cleared then some { s with handler := .loaded s.count, minVal := s.value }
    else none
  | .handlerList =>
    match s.handler with
    | .loaded count =>
      some { s.updateList (unexpiredFences (word 31 count) s.fences) with handler := .idle }
    | _ => none

/-- No fence, and the interrupt is off. -/
def syncptStart : SyncptState := ⟨0, 0, [], ⟨0, false, false⟩, .idle⟩

/-! ### What is promised -/

/-- The interrupt is latched, or being served. -/
def SyncptState.InterruptPending (s : SyncptState) : Prop :=
  s.hw.pending = true ∨ s.handler ≠ .idle

/-- The fences are in wrap-around order of their thresholds. -/
def SyncptState.Sorted (s : SyncptState) : Prop :=
  s.fences.Pairwise fun a b => notAfter a.threshold b.threshold

/-- The hardware waits for the first fence. -/
def SyncptState.HeadProgrammed (s : SyncptState) : Prop :=
  ∀ fence ∈ s.fences.head?, s.hw.threshold = fence.threshold

/-- A fence whose threshold has been reached has an interrupt on its way. -/
def SyncptState.NoneLost (s : SyncptState) : Prop :=
  ∀ fence ∈ s.fences,
    fence.due ≤ s.count ∨ host1xSyncptIsExpired s.value fence.threshold = true →
      s.InterruptPending

/-- No fence in the list had expired at the value of this count. -/
def SyncptState.NoneExpiredAt (s : SyncptState) (count : ℕ) : Prop :=
  ∀ fence ∈ s.fences,
    count < fence.due ∧ host1xSyncptIsExpired (word 31 count) fence.threshold = false

instance (s : SyncptState) : Decidable s.InterruptPending :=
  inferInstanceAs (Decidable (_ ∨ _))

instance (s : SyncptState) : Decidable s.Sorted := inferInstanceAs (Decidable (List.Pairwise _ _))

instance (s : SyncptState) : Decidable s.HeadProgrammed :=
  inferInstanceAs (Decidable (∀ _ ∈ s.fences.head?, _))

instance (s : SyncptState) : Decidable s.NoneLost :=
  inferInstanceAs (Decidable (∀ _ ∈ s.fences, _))

instance (s : SyncptState) (count : ℕ) : Decidable (s.NoneExpiredAt count) :=
  inferInstanceAs (Decidable (∀ _ ∈ s.fences, _))

/-! ### The conditions on a step -/

/-- A threshold that is enabled is unexpired and less than `2 ^ 31` ahead. -/
def SyncptState.Ahead (s : SyncptState) : SyncptOp → Prop
  | .enableSignaling _ threshold =>
    0 < (threshold - s.value).toNat ∧ (threshold - s.value).toNat < 2 ^ 31
  | _ => True

/-- The listed thresholds, the new one and the values compared with them are less than
`2 ^ 31` apart: a new threshold and those listed, also the ones already reached; and, when
the handler walks the list, the listed thresholds on the one hand and on the other the
value it has read and the value by then. -/
def SyncptState.Near (s : SyncptState) : SyncptOp → Prop
  | .enableSignaling fence threshold =>
    ∀ listed ∈ s.fences, (s.arm fence threshold).due < listed.due + 2 ^ 31
  | .handlerList =>
    match s.handler with
    | .loaded count =>
      ∀ listed ∈ s.fences, listed.due < count + 2 ^ 31 ∧ s.count < listed.due + 2 ^ 31
    | _ => True
  | _ => True

instance (s : SyncptState) : ∀ op, Decidable (s.Ahead op)
  | .enableSignaling _ _ => inferInstanceAs (Decidable (_ ∧ _))
  | .incr | .load | .removeFence _ | .isrStatus | .isrDisable | .isrClear | .handlerLoad
  | .handlerList => isTrue trivial

instance (s : SyncptState) : ∀ op, Decidable (s.Near op)
  | .enableSignaling _ _ => inferInstanceAs (Decidable (∀ _ ∈ s.fences, _))
  | .handlerList =>
    match h : s.handler with
    | .loaded count =>
      decidable_of_iff (∀ listed ∈ s.fences, listed.due < count + 2 ^ 31 ∧ s.count < listed.due + 2 ^ 31)
        (by simp only [SyncptState.Near, h])
    | .idle | .seen | .disabled | .cleared => isTrue (by simp only [SyncptState.Near, h])
  | .incr | .load | .removeFence _ | .isrStatus | .isrDisable | .isrClear | .handlerLoad =>
    isTrue trivial

end

end NvidiaOot.Model
