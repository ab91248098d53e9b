import Mathlib.Data.Prod.Lex
import NvidiaOot.Library.BitTable
import NvidiaOot.Library.Machine
import NvidiaOot.Library.MaximalRuns
import NvidiaOot.Library.Tickets
import NvidiaOot.Program.PvaBuffers
import NvidiaOot.Program.PvaQueue

/-!
# Runs of the PVA queues

The applications and buffers of a client, its submissions and its fences.
-/

namespace NvidiaOot.Model

/-!
## The applications of a client and the tasks that use them

`appStep` lets the user register and unregister executables, write tasks and free them, in
any order.  A task stays in the list from its write until it is freed, also when the
write failed.  `held` has the assignments of ids that the user has registered and not
unregistered; `uses` has the ids of a task with the assignments they stood for when it
was written.
-/

section

open NvidiaOot.Library NvidiaOot.Program

structure AppTask where
  task : SubmitTask
  uses : List (U16 × ℕ)
  submitted : Bool

/-- The task counts for its images: it was submitted, or it failed after it had taken its
references. -/
def AppTask.holds (t : AppTask) : Bool := t.submitted || t.task.pinnedApp

structure Apps where
  elf : NvpvaElfContext
  tasks : List AppTask
  held : List ℕ

def newPvaClient : Apps := ⟨pvaVpuInit, [], []⟩

def usedIds (task : SubmitTask) : List U16 := [task.exeId1, task.exeId2].filter (· ≠ noopExeId)

inductive AppOp where
  | load (file : ElfFile)
  | release (exeId : U16)
  | write (env : TaskEnv) (syncptId : U32) (task : SubmitTask) (hw : HwTask)
  | free (i : ℕ)

/-- A task is written: its memory was cleared before. -/
def writeTask (s : Apps) (env : TaskEnv) (syncptId : U32) (task : SubmitTask) (hw : HwTask) : Apps :=
  let (err, written) := pvaTaskWrite env syncptId ⟨{ task with pinnedApp := false }, hw, s.elf⟩
  { s with
    elf := written.elf
    tasks := ⟨written.task, (usedIds task).map fun e => (e, s.elf.stamp e.toNat), err = 0⟩ :: s.tasks }

/-- One step; only a task of the list can be freed. -/
def appStep (s : Apps) : AppOp → Option Apps
  | .load file =>
    match pvaLoadVpuApp s.elf file with
    | (.ok exeId, elf) => some { s with elf := elf, held := elf.stamp exeId.toNat :: s.held }
    | (.error _, elf) => some { s with elf := elf }
  | .release exeId =>
    match pvaReleaseVpuApp s.elf exeId with
    | (.ok (), elf) =>
      some { s with elf := elf, held := s.held.filter (· ≠ s.elf.stamp exeId.toNat) }
    | (.error _, elf) => some { s with elf := elf }
  | .write env syncptId task hw => some (writeTask s env syncptId task hw)
  | .free i =>
    s.tasks[i]?.map fun t => { s with elf := releaseApps t.task s.elf, tasks := s.tasks.eraseIdx i }

/-- A written task that has an executable has a symbol. -/
def HasSymbols (_ : Apps) : AppOp → Prop
  | .write _ _ task _ => usedIds task ≠ [] → task.numSymbols ≠ 0
  | _ => True

/-- The assignment `k` is still registered by the user, or used by a task. -/
def Needed (s : Apps) (k : ℕ) : Prop :=
  k ∈ s.held ∨ ∃ t ∈ s.tasks, t.holds = true ∧ k ∈ t.uses.map Prod.snd

/-- Images live as long as they are needed and no longer. -/
structure ImagesLive (s : Apps) : Prop where
  /-- The images of a submitted task are loaded, and are those it was submitted with. -/
  stays : ∀ t ∈ s.tasks, t.submitted = true → ∀ u ∈ t.uses,
    pvaVpuElfIsRegistered s.elf u.1 = true ∧ s.elf.stamp u.1.toNat = u.2 ∧ u.2 ∉ s.elf.cleaned
  /-- An image is not unloaded while it is needed. -/
  kept : ∀ k, Needed s k → s.elf.cleaned.count k = 0
  /-- It is unloaded once when it is not. -/
  unloaded : ∀ k < s.elf.loads, ¬ Needed s k → s.elf.cleaned.count k = 1

end

/-!
## A client that pins and unpins buffers

`bufferStep` makes one call on the table of pinned buffers; there is no table left when the
last reference to it is gone.  `TableOk` is what the table keeps, and `Serves` that an id is
that of a mapping made for what was asked for.  `OpFits` is about the three ways in which a
call can go wrong: a mapping that is found but is on the other device, a count that has
reached its largest value, and a failure to map for which there is no error code.
-/

section

open NvidiaOot.Library NvidiaOot.Program

section

inductive BufferOp where
  | pin (segment : U32) (elements : List PinElement)
  | unpin (elements : List (U64 × U64 × U64))
  | unpinId (ids : List U32)
  | submitPinId (ids : List U32)
  | submitUnpinId (ids : List U32)
  | release

/-- What a call leaves; `ids` are those that a pin gives. -/
structure BufferResult where
  err : ℤ
  ids : List U32
  buffers : NvpvaBuffers

variable (rb : RbTree)

def bufferCall (s : NvpvaBuffers) : BufferOp → BufferResult
  | .pin segment elements =>
    let r := nvpvaBufferPin rb s segment elements
    ⟨r.1, r.2.2.1, r.2.2.2⟩
  | .unpin elements => ⟨0, [], nvpvaBufferUnpin rb s elements⟩
  | .unpinId ids => ⟨0, [], nvpvaBufferUnpinId rb s ids⟩
  | .submitPinId ids =>
    let r := nvpvaBufferSubmitPinId rb s ids
    ⟨r.1, [], r.2.2⟩
  | .submitUnpinId ids => ⟨0, [], nvpvaBufferSubmitUnpinId rb s ids⟩
  | .release => ⟨0, [], nvpvaBufferRelease rb s⟩

/-- One call, while there is a reference to the table. -/
def bufferStep (s : NvpvaBuffers) (op : BufferOp) : Option NvpvaBuffers :=
  if s.kref = 0 then none else some (bufferCall rb s op).buffers

end

section

variable (s : NvpvaBuffers)

def entries : List NvpvaVmBuffer := s.listHead.map s.vm

/-- What was pinned: `dma_buf`, offset and size. -/
def pinKey (vm : NvpvaVmBuffer) : U64 × U64 × U64 := (vm.dmabuf, vm.userOffset, vm.userSize)

def treeKey (vm : NvpvaVmBuffer) : ℕ ×ₗ ℕ ×ₗ ℕ :=
  toLex (vm.dmabuf.toNat, toLex (vm.userOffset.toNat, vm.userSize.toNat))

/-- The id for bit `n` of the table of ids. -/
def idOf (n : ℕ) : U32 := BitVec.ofNat 32 n ||| 0x554c0000

def assignedIds : Finset ℕ :=
  (Finset.range nvpvaMaxNumUniqueIds).filter fun n => tableBit s.ids n = true

/-- The counts are in their range, and one of them is positive. -/
structure MapCounted (vm : NvpvaVmBuffer) : Prop where
  user : 0 ≤ vm.userMapCount ∧ vm.userMapCount < 2 ^ 31
  submit : 0 ≤ vm.submitMapCount ∧ vm.submitMapCount < 2 ^ 31
  positive : 0 < vm.userMapCount ∨ 0 < vm.submitMapCount

/-- The trees, the list and the ids agree. -/
structure Linked : Prop where
  root : (inorder s.rbRoot).Perm s.listHead
  rootId : (inorder s.rbRootId).Perm s.listHead
  sorted : KeysSorted (fun p => treeKey (s.vm p)) s.rbRoot
  sortedId : KeysSorted (fun p => (s.vm p).id.toNat) s.rbRootId
  /-- The ids are those whose bits are set, and no two buffers have the same. -/
  ids : ∀ p ∈ s.listHead, ∃ n ∈ assignedIds s, (s.vm p).id = idOf n
  owned : ∀ n ∈ assignedIds s, ∃ p ∈ s.listHead, (s.vm p).id = idOf n
  distinct : ((entries s).map NvpvaVmBuffer.id).Nodup
  assigned : s.numAssignedIds = (assignedIds s).card
  /-- A buffer in the table is mapped, and no other is. -/
  mapped : s.mapped.Perm s.listHead
  attached : ∀ p ∈ s.listHead, ∃ dev, (s.vm p).attach = some ⟨(s.vm p).dmabuf, dev⟩
  fresh : ∀ p ∈ s.listHead, p < s.nextVm

structure TableOk : Prop where
  linked : Linked s
  counted : ∀ vm ∈ entries s, MapCounted vm

def segmentDevice (segment : U32) : PlatformDevice :=
  if segment = nvpvaSegmentUser then .user else .priv

/-- The id is that of a mapping of this element on this device. -/
def Serves (dev : PlatformDevice) (e : PinElement) (id : U32) : Prop :=
  ∃ vm ∈ entries s, vm.id = id ∧ pinKey vm = (e.dmabuf, e.offset, e.size) ∧
    vm.attach = some ⟨e.dmabuf, dev⟩

end

section

variable (rb : RbTree)

/-- The range is in the `dma_buf`. -/
def RangeOk (e : PinElement) : Prop :=
  ¬ u64Max - e.size.toNat < e.offset.toNat ∧ ¬ e.dmabufSize < e.size + e.offset

instance (e : PinElement) : Decidable (RangeOk e) := inferInstanceAs (Decidable (¬ _ ∧ ¬ _))

/-- `dma_buf_map_attachment` has returned `NULL`. -/
def sgtIsNull : Except ℤ (U64 × U64) → Bool
  | .error err => err = 0
  | .ok _ => false

/-- A mapping that is found is on the device and can be counted once more; if there is none,
the failure to map has an error code. -/
def PinFits (segment : U32) (s : NvpvaBuffers) (e : PinElement) : Prop :=
  RangeOk e →
    (∀ p ∈ nvpvaFindMapBuffer s e.offset e.size e.dmabuf,
      (s.vm p).attach = some ⟨e.dmabuf, segmentDevice segment⟩ ∧
        (s.vm p).userMapCount ≠ 2 ^ 31 - 1) ∧
    (nvpvaFindMapBuffer s e.offset e.size e.dmabuf = none → e.kzalloc = true →
      (getUniqueId s).1 ≠ 0 →
      if e.attach = false then toInt32 e.dmabuf ≠ 0 else sgtIsNull e.sgt = false)

instance (segment : U32) (s : NvpvaBuffers) (e : PinElement) : Decidable (PinFits segment s e) :=
  inferInstanceAs (Decidable (RangeOk e → _ ∧ _))

/-- The pins of a request one after another. -/
def pinElementStep (segment : U32) (s : NvpvaBuffers) (e : PinElement) : Option NvpvaBuffers :=
  let r := pinElement rb s segment e
  match r.1 with
  | .ok _ => some r.2
  | .error _ => none

/-- The buffer, if there is one, can be counted once more. -/
def SubmitFits (s : NvpvaBuffers) (id : U32) : Prop :=
  ∀ p ∈ nvpvaFindMapBufferId s id, (s.vm p).submitMapCount ≠ 2 ^ 31 - 1

instance (s : NvpvaBuffers) (id : U32) : Decidable (SubmitFits s id) :=
  inferInstanceAs (Decidable (∀ p ∈ _, _))

def submitElementStep (s : NvpvaBuffers) (id : U32) : Option NvpvaBuffers :=
  (submitPinElement s id).map Prod.snd

def OpFits (s : NvpvaBuffers) : BufferOp → Prop
  | .pin segment elements => ¬ nvpvaSegmentMax ≤ segment →
      AllSteps (pinElementStep rb segment) (PinFits segment) s elements
  | .submitPinId ids => AllSteps submitElementStep SubmitFits { s with kref := s.kref + 1 } ids
  | _ => True

instance (s : NvpvaBuffers) : ∀ op, Decidable (OpFits rb s op)
  | .pin _ _ => inferInstanceAs (Decidable (_ → AllSteps _ _ _ _))
  | .submitPinId _ => inferInstanceAs (Decidable (AllSteps _ _ _ _))
  | .unpin _ | .unpinId _ | .submitUnpinId _ | .release => isTrue trivial

/-- The trees are rebalanced without changing the order of the nodes, and without the one
that is erased. -/
structure Balances : Prop where
  insert : ∀ p t, p ∈ inorder t → inorder (rb.rbInsertColor p t) = inorder t
  erase : ∀ p t, p ∈ inorder t → inorder (rb.rbErase p t) = (inorder t).erase p

end

end

/-!
## A batch that fails

`FreshBatch` is what the ioctl promises of a batch: its tasks come from a pool of 256, none
of them is the end of the firmware's list, and their fence actions were counted.  `Restored`
says that the queue is as it was before.
-/

section

open NvidiaOot.Library NvidiaOot.Program

variable (send : Send) (q q' : QueueState)

/-- `MAX_PVA_TASK_COUNT_PER_QUEUE` -/
def maxPvaTaskCountPerQueue : ℕ := 256

/-- Tasks that are new to the queue.
SOURCE: drivers/video/tegra/host/pva/pva_ioctl.c:263-292, 387-417 -/
structure FreshBatch (tasks : List SubmitTask) : Prop where
  size : tasks.length ≤ maxPvaTaskCountPerQueue
  fences : ∀ t ∈ tasks, ∀ type, (t.numPvaFenceActions type).toNat ≤ nvpvaTaskMaxFenceActions
  fresh : ∀ t ∈ tasks, q.hwTaskTail ≠ some t.poolIndex

/-- The end of the list is what it was, or nothing when that task completed meanwhile. -/
def TailKept : Prop :=
  q'.hwTaskTail = q.hwTaskTail ∨
    q'.hwTaskTail = none ∧ ∃ i ∈ send.completed, q.hwTaskTail = some i

/-- The list and the counters are as before. -/
structure Restored : Prop where
  tail : TailKept send q q'
  /-- The task that was the end of the list has no new successor. -/
  next : ∀ i, q.hwTaskTail = some i → (q'.hw i).next = (q.hw i).next
  syncptMaxval : q'.syncptMaxval = q.syncptMaxval
  currSemaValue : q'.currSemaValue = q.currSemaValue
  localSyncCounter : q'.localSyncCounter = q.localSyncCounter

/-- `pva_task_write` of the first task of the batch fails. -/
def FirstWriteFails (env : SubmitEnv) (first : SubmitTask) : Prop :=
  (pvaTaskWrite (env.taskEnv first.poolIndex) q.syncptId
    ⟨first.withThresholds q.syncptMaxval q.currSemaValue, q.hw first.poolIndex, q.elf⟩).1 ≠ 0

end

/-!
## The values of fence actions over many batches

`queueStep` lets one client submit batches to one queue while tasks of earlier batches
complete.  Of each batch that was submitted `batches` has what the user passed and what came
back, and the counters before it.

Fence actions are processed task by task, by type and then in the order of the user's array.
`processed` has the actions of a task in this order and `precede` those before one of them.
-/

section

open NvidiaOot.Library NvidiaOot.Program

/-- The action signals a syncpoint, or a semaphore. -/
def isSyncpt (action : FenceAction) : Bool := action.fence.type = nvpvaFenceObjSyncpt
def isSem (action : FenceAction) : Bool := action.fence.type = nvpvaFenceObjSem

/-- The action without the values that the driver assigns. -/
def FenceAction.unassigned (action : FenceAction) : FenceAction :=
  { action with fence := { action.fence with syncptId := 0, syncptValue := 0, semValue := 0 } }

/-- The same action, perhaps with other values. -/
def SameAction (action action' : FenceAction) : Prop :=
  FenceAction.unassigned action' = FenceAction.unassigned action

/-- The action is of a type that is processed. -/
def IsProcessed (action : FenceAction) : Prop := action.type.toNat ∈ fenceTypes

/-- The actions of a task that are processed, in processing order. -/
def processed (fences : List FenceAction) : List FenceAction :=
  fenceTypes.flatMap fun type => fences.filter (·.type.toNat = type)

def processedBatch (batch : List (List FenceAction)) : List FenceAction := batch.flatMap processed

/-- The actions of the batch that are processed before position `j` of the task `k`. -/
def precede (batch : List (List FenceAction)) (k j : ℕ) (fences : List FenceAction) (type : ℕ) :
    List FenceAction :=
  (batch.take k).flatMap processed ++
    ((fenceTypes.takeWhile (· ≠ type)).flatMap fun type' => fences.filter (·.type.toNat = type')) ++
    (fences.take j).filter (·.type.toNat = type)

structure Batch where
  syncptMaxval : U32
  currSemaValue : U32
  passed : List UserTask
  returned : List (List FenceAction)

/-- A queue and its batches, oldest first. -/
structure Batches where
  queue : QueueState
  batches : List Batch

inductive QueueOp where
  | submit (env : SubmitEnv) (send : Send) (first : UserTask) (rest : List UserTask)
  | complete (poolIndex : ℕ)

def queueStep (s : Batches) : QueueOp → Batches
  | .submit env send first rest =>
    match pvaSubmit env send first rest s.queue with
    | (.ok returned, q) =>
      ⟨q, s.batches ++ [⟨s.queue.syncptMaxval, s.queue.currSemaValue, first :: rest, returned⟩]⟩
    | (.error _, q) => ⟨q, s.batches⟩
  | .complete poolIndex => { s with queue := updateOneTask poolIndex s.queue }

/-- The actions of all batches in processing order. -/
def Batches.actions (s : Batches) : List FenceAction :=
  s.batches.flatMap fun b => processedBatch b.returned

/-- An action as it comes back: one that is not processed is unchanged. -/
def ComesBack (action action' : FenceAction) : Prop :=
  SameAction action action' ∧ (¬ IsProcessed action → action' = action)

structure Returned (syncptId : U32) (b : Batch) : Prop where
  /-- Each position of an array comes back as the action that the user passed there. -/
  positions : List.Forall₂ (fun user fences => List.Forall₂ ComesBack user.fences fences)
    b.passed b.returned
  /-- A syncpoint action has the queue's syncpoint, and as its threshold the maximum
  before the batch plus the number of actions up to it. -/
  syncpt : ∀ k j fences action, b.returned[k]? = some fences → fences[j]? = some action →
    IsProcessed action → isSyncpt action = true →
    action.fence.syncptId = syncptId ∧ action.fence.syncptValue = b.syncptMaxval +
      BitVec.ofNat 32 ((precede b.returned k j fences action.type.toNat).countP isSyncpt + 1)
  /-- A semaphore action likewise counts on from the semaphore's value. -/
  sem : ∀ k j fences action, b.returned[k]? = some fences → fences[j]? = some action →
    IsProcessed action → isSem action = true →
    action.fence.semValue = b.currSemaValue +
      BitVec.ofNat 32 ((precede b.returned k j fences action.type.toNat).countP isSem + 1)

/-- The counters go through all values that were given out, one after another. -/
structure CountUp (q : QueueState) (s : Batches) : Prop where
  syncpts : Numbered isSyncpt (·.fence.syncptValue) q.syncptMaxval s.actions
  sems : Numbered isSem (·.fence.semValue) q.currSemaValue s.actions
  maxval : s.queue.syncptMaxval = q.syncptMaxval + BitVec.ofNat 32 (s.actions.countP isSyncpt)
  semaValue : s.queue.currSemaValue = q.currSemaValue + BitVec.ofNat 32 (s.actions.countP isSem)

end

/-!
## The windows of tasks that use the L2 memory

A window is a maximal run of tasks that use the L2 memory.  The firmware keeps the memory for the window: its first
task counts the tasks, and all have the size of the largest one.
-/

section

open NvidiaOot.Library NvidiaOot.Program

def UsesL2sram (task : SubmitTask) : Prop := 0 < task.l2AllocSize

instance UsesL2sram.decidable (task : SubmitTask) : Decidable (UsesL2sram task) :=
  inferInstanceAs (Decidable (_ < _))

/-- The hardware task of a task of a window, where the window needs `size`: the first one counts the tasks. -/
def l2sramTask (window : List SubmitTask) (size : U32) (task : SubmitTask) (hw : HwTask) : HwTask :=
  { hw with
    l2sramRefCnt :=
      if window.head?.map SubmitTask.poolIndex = some task.poolIndex then window.length else hw.l2sramRefCnt
    l2sramSize := size }.addFlags pvaTaskFlDecL2sram

/-- The windows of a batch are its maximal runs of tasks that use the L2 memory, and each gets the size of its
largest task. -/
structure WindowsSet (tasks : List SubmitTask) (q q' : QueueState) : Prop where
  windows : ∀ front window back, MaximalRun UsesL2sram tasks front window back →
    ∃ size, (∃ task ∈ window, task.l2AllocSize = size) ∧ (∀ task ∈ window, task.l2AllocSize ≤ size) ∧
      ∀ task ∈ window, q'.hw task.poolIndex = l2sramTask window size task (q.hw task.poolIndex)
  others : ∀ task ∈ tasks, ¬ UsesL2sram task → q'.hw task.poolIndex = q.hw task.poolIndex
  outside : ∀ i, i ∉ tasks.map SubmitTask.poolIndex → q'.hw i = q.hw i

end

end NvidiaOot.Model
