import NvidiaOot.Analysis.PvaSubmit

/-!
# The windows of the L2 memory

A window is configured when its last task has been seen, and the tasks of a batch have their own hardware tasks, so
that what is written for one window does not touch another one.
-/

namespace NvidiaOot.Analysis

open Library Program Model Function

variable {window tasks : List SubmitTask} {size : U32} {q : QueueState} {task : SubmitTask} {i : ℕ}

def setL2sram (size : U32) (q : QueueState) (task : SubmitTask) : QueueState :=
  q.setHw task.poolIndex fun hw => { hw with l2sramSize := size }.addFlags pvaTaskFlDecL2sram

theorem setHw_self (q : QueueState) (i : ℕ) (f : HwTask → HwTask) : (q.setHw i f).hw i = f (q.hw i) :=
  update_self _ _ _

theorem setHw_of_ne {j : ℕ} (q : QueueState) (f : HwTask → HwTask) (hne : i ≠ j) : (q.setHw j f).hw i = q.hw i :=
  update_of_ne hne _ _

theorem setL2srams_of_not_mem (hi : i ∉ window.map SubmitTask.poolIndex) :
    (window.foldl (setL2sram size) q).hw i = q.hw i := by
  induction window generalizing q with
  | nil => rfl
  | cons task window ih =>
    rw [List.map_cons, List.mem_cons, not_or] at hi
    rw [List.foldl_cons, ih hi.2]
    exact setHw_of_ne q _ hi.1

theorem setL2srams_of_mem (hdistinct : (window.map SubmitTask.poolIndex).Nodup) (htask : task ∈ window) :
    (window.foldl (setL2sram size) q).hw task.poolIndex =
      { q.hw task.poolIndex with l2sramSize := size }.addFlags pvaTaskFlDecL2sram := by
  induction window generalizing q with
  | nil => exact absurd htask List.not_mem_nil
  | cons first window ih =>
    obtain ⟨hnot, hdistinct⟩ := List.nodup_cons.mp hdistinct
    rw [List.foldl_cons]
    rcases List.mem_cons.mp htask with rfl | htask
    · rw [setL2srams_of_not_mem hnot]
      exact setHw_self q _ _
    have hne : task.poolIndex ≠ first.poolIndex := by
      intro heq
      exact hnot (heq ▸ List.mem_map_of_mem htask)
    rw [ih hdistinct htask, setL2sram, setHw_of_ne q _ hne]

theorem window_of_not_mem (hi : i ∉ window.map SubmitTask.poolIndex) :
    (nvpvaTaskConfigL2sramWindow window size q).hw i = q.hw i := by
  refine (setL2srams_of_not_mem hi).trans ?_
  cases window with
  | nil => rfl
  | cons first window =>
    rw [List.map_cons, List.mem_cons, not_or] at hi
    exact setHw_of_ne q _ hi.1

/-- **A window that is configured.** -/
theorem window_of_mem (hdistinct : (window.map SubmitTask.poolIndex).Nodup) (htask : task ∈ window) :
    (nvpvaTaskConfigL2sramWindow window size q).hw task.poolIndex =
      l2sramTask window size task (q.hw task.poolIndex) := by
  refine (setL2srams_of_mem hdistinct htask).trans ?_
  unfold l2sramTask
  cases window with
  | nil => exact absurd htask List.not_mem_nil
  | cons first window =>
    have hhead : (first :: window).head?.map SubmitTask.poolIndex = some first.poolIndex := rfl
    by_cases heq : task.poolIndex = first.poolIndex
    · rw [heq, if_pos hhead, setHw_self]
    · rw [if_neg fun h => heq (Option.some.inj (hhead.symm.trans h)).symm, setHw_of_ne q _ heq]

def IsLargest (window : List SubmitTask) (size : U32) : Prop :=
  (window ≠ [] → ∃ task ∈ window, task.l2AllocSize = size) ∧ ∀ task ∈ window, task.l2AllocSize ≤ size

theorem isLargest_nil (size : U32) : IsLargest [] size := ⟨fun hne => absurd rfl hne, List.forall_mem_nil _⟩

theorem IsLargest.push (h : IsLargest window size) (hsize : window = [] → size = 0) :
    IsLargest (window ++ [task]) (if size < task.l2AllocSize then task.l2AllocSize else size) := by
  split
  case isTrue hlarger =>
    refine ⟨fun _ => ⟨task, List.mem_append_right window List.mem_cons_self, rfl⟩, fun t ht => ?_⟩
    rcases List.mem_append.mp ht with ht | ht
    · have hle := h.2 t ht
      rw [BitVec.le_def] at hle ⊢
      rw [BitVec.lt_def] at hlarger
      omega
    · rw [List.mem_singleton.mp ht]
      exact BitVec.le_refl _
  case isFalse hnot =>
    have hle : task.l2AllocSize ≤ size := BitVec.not_lt.mp hnot
    constructor
    · intro _
      by_cases hnil : window = []
      · refine ⟨task, List.mem_append_right window List.mem_cons_self, ?_⟩
        rw [hsize hnil] at hle ⊢
        exact BitVec.le_zero_iff.mp hle
      · obtain ⟨t, ht, heq⟩ := h.1 hnil
        exact ⟨t, List.mem_append_left [task] ht, heq⟩
    · intro t ht
      rcases List.mem_append.mp ht with ht | ht
      · exact h.2 t ht
      · rw [List.mem_singleton.mp ht]
        exact hle

theorem l2sramWindows_of_not_mem (hi : ∀ task ∈ window ++ tasks, UsesL2sram task → task.poolIndex ≠ i)
    (hwindow : ∀ task ∈ window, UsesL2sram task) : (l2sramWindows window size tasks q).hw i = q.hw i := by
  have hnot : i ∉ window.map SubmitTask.poolIndex := by
    intro hmem
    obtain ⟨task, htask, heq⟩ := List.mem_map.mp hmem
    exact hi task (List.mem_append_left tasks htask) (hwindow task htask) heq
  induction tasks generalizing window size q with
  | nil =>
    unfold l2sramWindows
    split
    case isTrue => rfl
    case isFalse => exact window_of_not_mem hnot
  | cons task tasks ih =>
    have hrest : ∀ task ∈ [] ++ tasks, UsesL2sram task → task.poolIndex ≠ i := fun t ht =>
      hi t (List.mem_append_right window (List.mem_cons_of_mem task ht))
    unfold l2sramWindows
    split
    case isTrue huses =>
      have hopen : ∀ t ∈ window ++ [task], UsesL2sram t := by
        rw [List.forall_mem_append, List.forall_mem_singleton]
        exact ⟨hwindow, huses⟩
      refine ih (fun t ht => hi t ?_) hopen ?_
      · rwa [List.append_assoc] at ht
      · rw [List.map_append, List.mem_append, not_or]
        refine ⟨hnot, fun hmem => ?_⟩
        exact hi task (List.mem_append_right window List.mem_cons_self) huses (List.mem_singleton.mp hmem).symm
    case isFalse =>
      split
      case isTrue => exact ih hrest (List.forall_mem_nil _) List.not_mem_nil
      case isFalse => rw [ih hrest (List.forall_mem_nil _) List.not_mem_nil, window_of_not_mem hnot]

/-- **The windows of a batch**, of which the loop has an open window. -/
theorem l2sramWindows_spec (hdistinct : ((window ++ tasks).map SubmitTask.poolIndex).Nodup)
    (hwindow : ∀ task ∈ window, UsesL2sram task) (hlargest : IsLargest window size)
    (hsize : window = [] → size = 0) {front run back : List SubmitTask}
    (hrun : MaximalRun UsesL2sram (window ++ tasks) front run back) :
    ∃ size', IsLargest run size' ∧ ∀ task ∈ run, (l2sramWindows window size tasks q).hw task.poolIndex =
      l2sramTask run size' task (q.hw task.poolIndex) := by
  induction tasks generalizing window size q front with
  | nil =>
    rw [List.append_nil] at hdistinct hrun
    obtain ⟨-, rfl, -⟩ := hrun.eq_of_all hwindow
    refine ⟨size, hlargest, fun task htask => ?_⟩
    unfold l2sramWindows
    rw [if_neg hrun.nonempty]
    exact window_of_mem hdistinct htask
  | cons task tasks ih =>
    unfold l2sramWindows
    split
    case isTrue huses =>
      rw [List.append_cons] at hdistinct hrun
      refine ih hdistinct ?_ (hlargest.push hsize) (fun hnil => absurd hnil (List.append_ne_nil_of_right_ne_nil _ (List.cons_ne_nil _ _)))
        hrun
      rw [List.forall_mem_append, List.forall_mem_singleton]
      exact ⟨hwindow, huses⟩
    case isFalse hnot =>
      have hrest : ((([] : List SubmitTask) ++ tasks).map SubmitTask.poolIndex).Nodup := by
        rw [List.map_append, List.map_cons] at hdistinct
        exact (List.nodup_cons.mp (List.nodup_append.mp hdistinct).2.1).2
      rcases hrun.cases_append hwindow hnot with ⟨-, rfl, -⟩ | ⟨front', -, hrun'⟩
      · -- the window that ends here: the rest does not change it
        rw [if_neg hrun.nonempty]
        rw [List.map_append] at hdistinct
        have happart := (List.nodup_append.mp hdistinct).2.2
        refine ⟨size, hlargest, fun t ht => ?_⟩
        rw [l2sramWindows_of_not_mem _ (List.forall_mem_nil _), window_of_mem (List.nodup_append.mp hdistinct).1 ht]
        intro u hu _ heq
        exact happart _ (List.mem_map_of_mem ht) _ (List.mem_map_of_mem (List.mem_cons_of_mem task hu)) heq.symm
      split
      case isTrue => exact ih hrest (List.forall_mem_nil _) (isLargest_nil 0) (fun _ => rfl) hrun'
      case isFalse =>
        obtain ⟨size', hlargest', hset⟩ := ih (q := nvpvaTaskConfigL2sramWindow window size q) hrest
          (List.forall_mem_nil _) (isLargest_nil 0) (fun _ => rfl) hrun'
        refine ⟨size', hlargest', fun t ht => ?_⟩
        rw [hset t ht, window_of_not_mem]
        intro hmem
        rw [List.map_append] at hdistinct
        have htasks : t ∈ tasks := by
          rw [hrun'.split]
          exact List.mem_append_left back (List.mem_append_right front' ht)
        exact (List.nodup_append.mp hdistinct).2.2 _ hmem _
          (List.mem_map_of_mem (List.mem_cons_of_mem task htasks)) rfl

/--
**The windows of the L2 memory.**  The tasks of a batch have their own hardware tasks.  Each maximal run of tasks that
use the L2 memory gets the size of its largest task and the flag, its first task the number of its tasks, and nothing
else changes.
-/
theorem l2sram_windows_set (q : QueueState) (hdistinct : (tasks.map SubmitTask.poolIndex).Nodup) :
    WindowsSet tasks q (updateBatchTasks tasks q) := by
  refine ⟨fun front window back hrun => ?_, fun task htask hnot => ?_, fun i hi => ?_⟩
  · have hall : (([] ++ tasks).map SubmitTask.poolIndex).Nodup := hdistinct
    obtain ⟨size, hlargest, hset⟩ := l2sramWindows_spec (q := q) hall (List.forall_mem_nil _) (isLargest_nil 0)
      (fun _ => rfl) hrun
    exact ⟨size, hlargest.1 hrun.nonempty, hlargest.2, hset⟩
  · refine l2sramWindows_of_not_mem (fun t ht huses heq => ?_) (List.forall_mem_nil _)
    have hsame := List.inj_on_of_nodup_map hdistinct ht htask heq
    rw [hsame] at huses
    exact hnot huses
  · refine l2sramWindows_of_not_mem (fun t ht _ heq => hi ?_) (List.forall_mem_nil _)
    rw [← heq]
    exact List.mem_map_of_mem ht

/-- A task that uses `size` bytes of the L2 memory. -/
def l2sramUser (poolIndex : ℕ) (size : U32) : SubmitTask :=
  { (default : SubmitTask) with poolIndex := poolIndex, l2AllocSize := size }

/-- A window of two tasks before a task without L2 memory and a window of one. -/
theorem two_windows_set : WindowsSet [l2sramUser 3 8, l2sramUser 0 16, l2sramUser 2 0, l2sramUser 1 4] queueWithTail
    (updateBatchTasks [l2sramUser 3 8, l2sramUser 0 16, l2sramUser 2 0, l2sramUser 1 4] queueWithTail) :=
  l2sram_windows_set queueWithTail (by decide)

end NvidiaOot.Analysis
