import NvidiaOot.Program.PvaTask
import NvidiaOot.Program.PvaDmaDesc

/-!
# Submitting a batch of PVA tasks

A batch is written task by task, linked behind the last task of the firmware's queue, and
sent.  Hardware tasks live in a pool and are named by their index; `tasklist` has the tasks
that were sent and have not completed.  The values of fences are assigned from the queue's
syncpoint maximum and the client's semaphore value while tasks are written, and added to
these when the batch is submitted.

The send (`Send`) is a parameter: its result, and which earlier tasks complete meanwhile.
A batch has a first task.  Not modelled: the statistics and traces, the runtime power
references, and the standard output buffer.

Sources are in `drivers/video/tegra/host/pva/`.
-/

namespace NvidiaOot.Program

open Library

/-- A queue with its client's semaphore value and images, and the pool of hardware tasks.
SOURCE: nvpva_queue.h:59-95, nvpva_client.h:24-40 -/
structure QueueState where
  id : U32
  taskIdx : U32
  syncptId : U32
  localSyncCounter : U32
  syncptMaxval : U32
  tasklist : List SubmitTask
  oldTail : Option ℕ
  hwTaskTail : Option ℕ
  batchId : U64
  currSemaValue : U32
  elf : NvpvaElfContext
  hw : ℕ → HwTask

/-- What submitting a batch depends on beside the queue: the unmodelled parts of writing
each task, the device, the time and the time limit. -/
structure SubmitEnv where
  taskEnv : ℕ → TaskEnv
  version : ℕ
  mmioCcq : Bool
  timestamp : U64
  executionTimeoutUs : U64

/-- The send of a batch: its error code, and the tasks that complete before it returns. -/
structure Send where
  err : ℤ
  completed : List ℕ

/-- Write to a hardware task. -/
def QueueState.setHw (q : QueueState) (index : ℕ) (f : HwTask → HwTask) : QueueState :=
  { q with hw := Function.update q.hw index (f (q.hw index)) }

/-- `task.next = addr` -/
def QueueState.setNext (q : QueueState) (index : Option ℕ) (addr : U64) : QueueState :=
  match index with
  | none => q
  | some i => q.setHw i fun hw => { hw with next := addr }

/--
A task is freed: it is not a tail any more, and its images are given back.

SOURCE: pva_queue.c:946-974
-/
def pvaTaskFree (task : SubmitTask) (q : QueueState) : QueueState :=
  { q with
    hwTaskTail := if q.hwTaskTail = some task.poolIndex then none else q.hwTaskTail
    oldTail := if q.oldTail = some task.poolIndex then none else q.oldTail
    elf := releaseApps task q.elf }

/-- A task completes: it leaves the list and is freed; an index that is not in the list is
ignored.
SOURCE: pva_queue.c:976-1079 -/
def updateOneTask (poolIndex : ℕ) (q : QueueState) : QueueState :=
  match q.tasklist.find? (·.poolIndex = poolIndex) with
  | none => q
  | some task =>
    pvaTaskFree task { q with tasklist := q.tasklist.eraseP (·.poolIndex = poolIndex) }

section

variable (env : SubmitEnv)

/-- The counters of a task before it is written. -/
def SubmitTask.withThresholds (task : SubmitTask) (thresh semThresh : U32) : SubmitTask :=
  { task with fenceNum := 0, syncptThresh := thresh, semNum := 0, semThresh := semThresh }

/-- One task of the batch is written. -/
def writeOne (thresh semThresh : U32) (task : SubmitTask) (q : QueueState) :
    ℤ × SubmitTask × QueueState :=
  let task := task.withThresholds thresh semThresh
  let (err, s) := pvaTaskWrite (env.taskEnv task.poolIndex) q.syncptId
    ⟨task, q.hw task.poolIndex, q.elf⟩
  (err, s.task, { q.setHw task.poolIndex (fun _ => s.hw) with elf := s.elf })

/-- The local counter goes on, and the task before is linked to this one. -/
def noteWritten (prevHwTask : Option ℕ) (task : SubmitTask) (q : QueueState) :
    SubmitTask × QueueState :=
  let counter := q.localSyncCounter + (1 + task.fenceNum)
  ({ task with localSyncCounter := counter },
    { q with localSyncCounter := counter }.setNext prevHwTask task.dmaAddr)

/-- The loop of `pva_queue_submit` that writes the tasks; the tasks come back as written, also
those before an error. -/
def writeTasks : (thresh semThresh : U32) → (prevHwTask : Option ℕ) → List SubmitTask →
    QueueState → ℤ × List SubmitTask × QueueState
  | _, _, _, [], q => (0, [], q)
  | thresh, semThresh, prevHwTask, task :: rest, q =>
    match writeOne env thresh semThresh task q with
    | (0, task, q) =>
      let (task, q) := noteWritten prevHwTask task q
      let (err, rest, q) :=
        writeTasks task.syncptThresh task.semThresh (some task.poolIndex) rest q
      (err, task :: rest, q)
    | (err, task, q) => (err, task :: rest, q)

/-- `PVA_TASK_FL_DEC_L2SRAM`, `PVA_TASK_FL_DEC_TIMER` -/
def pvaTaskFlDecL2sram : U32 := 1 <<< 12
def pvaTaskFlDecTimer : U32 := 1 <<< 13

def HwTask.addFlags (hw : HwTask) (flags : U32) : HwTask :=
  { hw with actions := { hw.actions with flags := hw.actions.flags ||| flags } }

/-- The number, batch and status interface of one task. -/
def setTask (batchId : U64) (statusInterface : U8) (flag : U32) (task : SubmitTask)
    (q : QueueState) : SubmitTask × QueueState :=
  let taskIdx := (q.taskIdx + 1) &&& 0xFFFFFF
  ({ task with id := taskIdx ||| (q.id <<< 24) },
    { q with taskIdx := taskIdx }.setHw task.poolIndex fun hw =>
      { hw with taskId := task.poolIndex, statusInterface := statusInterface,
                batchId := batchId }.addFlags flag)

/-- The loop over the tasks. -/
def setTasks (batchId : U64) (statusInterface : U8) (flag : U32) :
    List SubmitTask → QueueState → List SubmitTask × QueueState
  | [], q => ([], q)
  | task :: rest, q =>
    let (task, q) := setTask batchId statusInterface flag task q
    let (rest, q) := setTasks batchId statusInterface flag rest q
    (task :: rest, q)

/--
The parameters that all tasks of the batch share.

SOURCE: pva_queue.c:1269-1316
-/
def setTaskParameters (tasks : List SubmitTask) (q : QueueState) : List SubmitTask × QueueState :=
  let batchId := q.batchId
  let q := { q with batchId := q.batchId + 1 }
  let timed : Bool := 0 < env.executionTimeoutUs
  let q := match tasks with
    | first :: _ =>
      if timed then q.setHw first.poolIndex fun hw =>
        { hw with timerRefCnt := tasks.length, timeout := env.executionTimeoutUs }
      else q
    | [] => q
  let statusInterface : U8 :=
    if env.mmioCcq ∧ env.version ≠ pvaHwGen1 then q.id.setWidth 8 + 1 else 0
  setTasks batchId statusInterface (if timed then pvaTaskFlDecTimer else 0) tasks q

/-- A window of tasks that use the L2 memory.
SOURCE: pva_queue.c:1318-1333 -/
def nvpvaTaskConfigL2sramWindow (tasks : List SubmitTask) (size : U32) (q : QueueState) :
    QueueState :=
  let q := match tasks with
    | first :: _ => q.setHw first.poolIndex fun hw => { hw with l2sramRefCnt := tasks.length }
    | [] => q
  tasks.foldl (fun q task => q.setHw task.poolIndex fun hw =>
    { hw with l2sramSize := size }.addFlags pvaTaskFlDecL2sram) q

/-- The loop of `update_batch_tasks`: `window` has the tasks of the open window. -/
def l2sramWindows : (window : List SubmitTask) → (maxSize : U32) → List SubmitTask →
    QueueState → QueueState
  | window, maxSize, [], q => if window = [] then q else nvpvaTaskConfigL2sramWindow window maxSize q
  | window, maxSize, task :: rest, q =>
    if 0 < task.l2AllocSize then
      l2sramWindows (window ++ [task]) (if maxSize < task.l2AllocSize then task.l2AllocSize else maxSize)
        rest q
    else if window = [] then l2sramWindows [] 0 rest q
    else l2sramWindows [] 0 rest (nvpvaTaskConfigL2sramWindow window maxSize q)

/-- SOURCE: pva_queue.c:1335-1378 -/
def updateBatchTasks (tasks : List SubmitTask) (q : QueueState) : QueueState :=
  l2sramWindows [] 0 tasks q

end

section

variable (env : SubmitEnv) (send : Send)

/-- A task is counted and listed before the send. -/
def addTask (q : QueueState) (task : SubmitTask) : QueueState :=
  { q with
    syncptMaxval := q.syncptMaxval + task.fenceNum
    currSemaValue := q.currSemaValue + task.semNum
    tasklist := q.tasklist ++ [task] }.setHw task.poolIndex fun hw =>
      { hw with queuedTime := env.timestamp }

/-- It is taken back after a failed send. -/
def removeTask (q : QueueState) (task : SubmitTask) : QueueState :=
  { q with
    tasklist := q.tasklist.filter (·.poolIndex ≠ task.poolIndex)
    syncptMaxval := q.syncptMaxval - task.fenceNum
    currSemaValue := q.currSemaValue - task.semNum }

/--
Count and list the tasks, and send them.

SOURCE: pva_queue.c:1153-1267
-/
def pvaTaskSubmit (tasks : List SubmitTask) (q : QueueState) : ℤ × QueueState :=
  let q := tasks.foldl (addTask env) q
  let q := send.completed.foldl (fun q i => updateOneTask i q) q
  if send.err = 0 then (0, q) else (send.err, tasks.foldl removeTask q)

/-- The batch becomes the end of the firmware's list. -/
def linkBatch (tasks : List SubmitTask) (q : QueueState) : QueueState :=
  let q := match tasks with
    | first :: _ => q.setNext q.hwTaskTail first.dmaAddr
    | [] => q
  { q with
    oldTail := q.hwTaskTail
    hwTaskTail := tasks.getLast?.map (·.poolIndex) }

/-- The part of `pva_queue_submit` after the tasks are written. -/
def sendBatch (tasks : List SubmitTask) (q : QueueState) : ℤ × List SubmitTask × QueueState :=
  let (tasks, q) := setTaskParameters env tasks q
  let q := if env.version ≠ pvaHwGen1 then updateBatchTasks tasks q else q
  match pvaTaskSubmit env send tasks (linkBatch tasks q) with
  | (0, q) => (0, tasks, q)
  | (err, q) => (err, tasks, { q with hwTaskTail := q.oldTail })

/--
Submit a batch; it has a first task.

SOURCE: pva_queue.c:1380-1446
-/
def pvaQueueSubmit (first : SubmitTask) (rest : List SubmitTask) (q : QueueState) :
    ℤ × List SubmitTask × QueueState :=
  match writeTasks env q.syncptMaxval q.currSemaValue none (first :: rest) q with
  | (0, tasks, q) => sendBatch env send tasks q
  | (err, tasks, q) => (err, tasks, q)

end

/-- `NVPVA_MAX_FENCE_TYPES * NVPVA_TASK_MAX_FENCEACTIONS` -/
def maxUserFenceActions : ℕ := 28

/-- A task of the user: its fence actions come as one array. -/
structure UserTask where
  task : SubmitTask
  fences : List FenceAction

/-- One action is put with those of its type. -/
def groupFence (task : SubmitTask) (fence : FenceAction) : Except ℤ SubmitTask :=
  let type := fence.type.toNat
  if type = 0 ∨ nvpvaMaxFenceTypes ≤ type then .error (-eINVAL)
  else if nvpvaTaskMaxFenceActions ≤ (task.numPvaFenceActions type).toNat then .error (-eINVAL)
  else .ok
    { task.setFenceAction type (task.numPvaFenceActions type).toNat fence with
      numPvaFenceActions := Function.update task.numPvaFenceActions type
        (task.numPvaFenceActions type + 1) }

/-- The loop over the user's array. -/
def groupFences : List FenceAction → SubmitTask → Except ℤ SubmitTask
  | [], task => .ok task
  | fence :: rest, task =>
    match groupFence task fence with
    | .error e => .error e
    | .ok task => groupFences rest task

/--
The fence actions of a user's task, in memory that was cleared.

SOURCE: pva_ioctl.c:206-210, 263-292
-/
def pvaCopyTask (user : UserTask) : Except ℤ SubmitTask :=
  if maxUserFenceActions < user.fences.length then .error (-eINVAL)
  else groupFences user.fences
    { user.task with
      pinnedApp := false
      numUserFenceActions := user.fences.length
      userFenceActions := fun i => user.fences.getD i default
      numPvaFenceActions := fun _ => 0
      pvaFenceActions := fun _ _ => default }

/-- The copies of all tasks, or the first error. -/
def pvaCopyTasks : List UserTask → Except ℤ (List SubmitTask)
  | [] => .ok []
  | user :: rest =>
    match pvaCopyTask user with
    | .error e => .error e
    | .ok task =>
      match pvaCopyTasks rest with
      | .error e => .error e
      | .ok tasks => .ok (task :: tasks)

/-- The loop that returns the fence actions in the user's order; `nCopied` counts those of
each type. -/
def returnFences (task : SubmitTask) : (fuel j : ℕ) → (nCopied : ℕ → ℕ) → List FenceAction
  | 0, _, _ => []
  | fuel + 1, j, nCopied =>
    let type := (task.userFenceActions j).type.toNat
    task.pvaFenceActions type (nCopied type) ::
      returnFences task fuel (j + 1) (Function.update nCopied type (nCopied type + 1))

/-- The user's array of a task when the batch has succeeded.
SOURCE: pva_ioctl.c:451-472 -/
def userFencesOf (task : SubmitTask) : List FenceAction :=
  returnFences task task.numUserFenceActions 0 fun _ => 0

/-- The tasks of a failed batch are freed. -/
def freeTasks (tasks : List SubmitTask) (q : QueueState) : QueueState :=
  tasks.foldl (fun q task => pvaTaskFree task q) q

/--
A batch of the user: copy the tasks, submit them, and return the fence actions of a batch
that was submitted.

SOURCE: pva_ioctl.c:332-494
-/
def pvaSubmit (env : SubmitEnv) (send : Send) (first : UserTask) (rest : List UserTask)
    (q : QueueState) : Except ℤ (List (List FenceAction)) × QueueState :=
  match pvaCopyTask first, pvaCopyTasks rest with
  | .error e, _ => (.error e, q)
  | .ok _, .error e => (.error e, q)
  | .ok first, .ok rest =>
    match pvaQueueSubmit env send first rest q with
    | (0, tasks, q) => (.ok (tasks.map userFencesOf), q)
    | (err, tasks, q) => (.error err, freeTasks tasks q)

end NvidiaOot.Program
