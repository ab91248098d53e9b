import NvidiaOot.Library.ErrorCode
import NvidiaOot.Program.Types

/-!
# The references of a batch

`pva_submit` takes an entry of the task pool, a reference to the device and one to the client for each task, and
`pva_task_free` gives all three back.  A task has a reference of the call, and one of its submission until it completes.

How the steps end is given by the request, and so are the tasks that complete before the call returns.  The trace has
the slots of `tasks` that are dereferenced.  A call that dereferences a slot that is not set ends there.  Not modelled:
what the tasks hold, and the allocation of a task's memory, of which the pool has as much as its semaphore counts.

Sources are in `drivers/video/tegra/host/pva/`.
-/

namespace NvidiaOot.Program

open Library Function

/-- `NVPVA_SUBMIT_MAX_TASKS` -/
def nvpvaSubmitMaxTasks : ℕ := 256

/-- `-ENOSYS` -/
def eNOSYS : ℤ := 38

/-- How the submission ends: writing task `i` fails, the batch cannot be sent, or it is sent and tasks complete. -/
inductive BatchEnd
  | writeFails (i : ℕ) (err : ℤ)
  | sendFails (err : ℤ)
  | sent (completed : ℕ → Bool)

/-- The number of tasks, and how the steps of the call end; 0 is success. -/
structure SubmitRequest where
  numTasks : ℕ
  version : ℕ
  ioctlTasksMem : Bool
  tasksHeaderMem : Bool
  copiedFromUser : Bool
  downTimeout : ℕ → ℤ
  nvhostModuleBusy : ℕ → ℤ
  copyTask : ℕ → ℤ
  batch : BatchEnd
  copiedToUser : ℕ → Bool

/-- The references, the tasks of the call with theirs, and the tasks in flight.
SOURCE: nvpva_client.h:24-40, pva_queue.h:103-205 -/
structure SubmitRefs where
  clientRefCount : ℤ
  moduleBusy : ℤ
  taskPoolSem : ℤ
  numTasks : ℕ
  kref : ℕ → ℕ
  tasklist : List ℕ

/-- SOURCE: pva_queue.c:946-974, nvpva_client.c:128-140 -/
def freeTaskRefs (w : SubmitRefs) : SubmitRefs :=
  { w with moduleBusy := w.moduleBusy - 1, clientRefCount := w.clientRefCount - 1, taskPoolSem := w.taskPoolSem + 1 }

/-- `kref_put(&task->ref, pva_task_free)` -/
def taskKrefPut (w : SubmitRefs) (i : ℕ) : SubmitRefs :=
  let put := { w with kref := update w.kref i (w.kref i - 1) }
  if w.kref i = 1 then freeTaskRefs put else put

/-- `kref_get` for each task -/
def taskKrefGets (w : SubmitRefs) : SubmitRefs :=
  { w with kref := fun i => if i < w.numTasks then w.kref i + 1 else w.kref i }

section

variable (r : SubmitRequest)

/-- The body of the loop over the tasks of the user.
SOURCE: pva_ioctl.c:379-437 -/
def prepareTask (i : ℕ) (w : SubmitRefs) : ℤ × SubmitRefs :=
  if r.downTimeout i ≠ 0 then (-eAGAIN, w)
  else
    let w := { w with
      taskPoolSem := w.taskPoolSem - 1
      kref := update w.kref i 1
      numTasks := w.numTasks + 1 }
    if r.nvhostModuleBusy i ≠ 0 then (r.nvhostModuleBusy i, w)
    else (r.copyTask i, { w with moduleBusy := w.moduleBusy + 1, clientRefCount := w.clientRefCount + 1 })

/-- SOURCE: pva_queue.c:1153-1267, 1380-1446 -/
def queueSubmitRefs (w : SubmitRefs) : List ℕ × ℤ × SubmitRefs :=
  let tasks := List.range w.numTasks
  match r.batch with
  | .writeFails i err => (0 :: tasks.take (i + 1), err, w)
  | .sendFails err => (0 :: tasks, err, tasks.foldl taskKrefPut (taskKrefGets w))
  | .sent completed =>
    (0 :: tasks, 0, (tasks.filter fun i => completed i).foldl taskKrefPut
      { taskKrefGets w with tasklist := tasks.filter fun i => !completed i })

/-- The end of the call: the references of the call are dropped.
SOURCE: pva_ioctl.c:479-485 -/
def freeTasksRefs (trace : List ℕ) (err : ℤ) (w : SubmitRefs) : List ℕ × ℤ × SubmitRefs :=
  let tasks := List.range w.numTasks
  (trace ++ tasks, err, tasks.foldl taskKrefPut w)

/-- The part of the call after the tasks are prepared.
SOURCE: pva_ioctl.c:439-485 -/
def submitPrepared (w : SubmitRefs) : List ℕ × ℤ × SubmitRefs :=
  if w.numTasks = 0 then ([0], -eFAULT, w)
  else
    match queueSubmitRefs r w with
    | (trace, err, w) =>
      if err < 0 then freeTasksRefs trace err w
      else
        let tasks := List.range w.numTasks
        let copied := tasks.takeWhile fun i => r.copiedToUser i
        freeTasksRefs (trace ++ tasks.take (copied.length + 1)) (if copied.length < w.numTasks then -eFAULT else err) w

/-- SOURCE: pva_ioctl.c:322-496 -/
def submitRefs (w : SubmitRefs) : List ℕ × ℤ × SubmitRefs :=
  if nvpvaSubmitMaxTasks < r.numTasks then ([], -eINVAL, w)
  else if 0 < r.version then ([], -eNOSYS, w)
  else if r.ioctlTasksMem = false then ([], -eNOMEM, w)
  else if r.tasksHeaderMem = false then ([], -eNOMEM, w)
  else if r.copiedFromUser = false then ([], -eFAULT, w)
  else
    match forEach (prepareTask r) (List.range r.numTasks) w with
    | (0, w) => submitPrepared r w
    | (err, w) => freeTasksRefs [] err w

end

end NvidiaOot.Program
