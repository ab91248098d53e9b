import NvidiaOot.Program.PvaSubmitTasks

/-!
# Balanced batches

After a call, each task in flight has one reference of each kind, and there are no other references of the call.
-/

namespace NvidiaOot.Model

open Program

/-- The references before a call, which has no tasks yet. -/
def noTasks (clientRefCount moduleBusy taskPoolSem : ℤ) : SubmitRefs :=
  ⟨clientRefCount, moduleBusy, taskPoolSem, 0, fun _ => 0, []⟩

/-- Only slots that are set are dereferenced, and the references are those of the tasks in flight. -/
structure SubmitBalanced (before : SubmitRefs) (result : List ℕ × ℤ × SubmitRefs) : Prop where
  slots : ∀ i ∈ result.1, i < result.2.2.numTasks
  client : result.2.2.clientRefCount = before.clientRefCount + result.2.2.tasklist.length
  busy : result.2.2.moduleBusy = before.moduleBusy + result.2.2.tasklist.length
  pool : result.2.2.taskPoolSem = before.taskPoolSem - result.2.2.tasklist.length

/-- The call comes to its tasks. -/
structure SubmitAdmitted (r : SubmitRequest) : Prop where
  count : r.numTasks ≤ nvpvaSubmitMaxTasks
  version : r.version = 0
  memory : r.ioctlTasksMem = true ∧ r.tasksHeaderMem = true
  copied : r.copiedFromUser = true

structure TaskPrepared (r : SubmitRequest) (i : ℕ) : Prop where
  down : r.downTimeout i = 0
  busy : r.nvhostModuleBusy i = 0
  copy : r.copyTask i = 0

/-- There is a task, and the device can be resumed for each task that the call comes to. -/
structure SubmitCareful (r : SubmitRequest) : Prop where
  nonempty : r.numTasks ≠ 0
  busy : ∀ i < r.numTasks, (∀ j < i, TaskPrepared r j) → r.downTimeout i = 0 → r.nvhostModuleBusy i = 0

end NvidiaOot.Model
