import NvidiaOot.Analysis.PvaFences

/-!
# What a failed batch leaves behind

The counters and the end of the list come back.  The local counter has moved as soon as one
task was written, and nothing takes that back; so the queue is as before exactly when the
first task could not be written.
-/

namespace NvidiaOot.Analysis

open Library Program Model

section

variable {env : SubmitEnv} {thresh semThresh : U32} {q q' : QueueState} {t t' : SubmitTask}
  {tasks : List SubmitTask}

section

variable (h : ∀ type, (t.numPvaFenceActions type).toNat ≤ nvpvaTaskMaxFenceActions)

include h

theorem length_cells :
    (cells t fenceTypes).length ≤ 20 := by
  unfold nvpvaTaskMaxFenceActions at h
  have hsum : (cells t fenceTypes).length =
      (t.numPvaFenceActions 2).toNat + ((t.numPvaFenceActions 3).toNat +
        ((t.numPvaFenceActions 4).toNat + ((t.numPvaFenceActions 5).toNat +
          (t.numPvaFenceActions 6).toNat))) := by
    simp [cells, cellsOf, fenceTypes, nvpvaFenceSotR5, nvpvaFenceSotVpu, nvpvaFenceEotVpu,
      nvpvaFenceEotR5, nvpvaFencePost]
  have h2 := h 2
  have h3 := h 3
  have h4 := h 4
  have h5 := h 5
  have h6 := h 6
  omega

theorem fenceNum_le
    (hrun : writeOne env thresh semThresh t q = (0, t', q')) : ∃ n ≤ 20, t'.fenceNum = BitVec.ofNat 32 n := by
  have hdone := writeOne_ok hrun
  refine ⟨_, ?_, hdone.fenceNum.trans (BitVec.zero_add _)⟩
  have hcount := List.countP_le_length (p := isSyncpt) (l := (cells t fenceTypes).map (cell t'))
  rw [List.length_map] at hcount
  exact hcount.trans (length_cells h)

theorem localSyncCounter_noted (prev : Option ℕ)
    (hrun : writeOne env thresh semThresh t q = (0, t', q')) :
    ∃ n, 0 < n ∧ n ≤ 21 ∧ (noteWritten prev t' q').2.localSyncCounter = q.localSyncCounter + BitVec.ofNat 32 n := by
  obtain ⟨a, ha, hfence⟩ := fenceNum_le h hrun
  have hq : q'.localSyncCounter = q.localSyncCounter := by
    rw [← (Prod.mk.inj (Prod.mk.inj hrun).2).2]
    rfl
  have hcounter : (noteWritten prev t' q').2.localSyncCounter =
      q'.localSyncCounter + (1 + t'.fenceNum) := by
    cases prev <;> rfl
  refine ⟨1 + a, by omega, by omega, ?_⟩
  rw [hcounter, hq, hfence, BitVec.ofNat_add]
  rfl

end

/-- **The local counter** moves by at most 21 for each task. -/
theorem localSyncCounter_writeTasks (env : SubmitEnv) (thresh semThresh : U32) (prev : Option ℕ) (q : QueueState)
    (h : ∀ t ∈ tasks, ∀ type, (t.numPvaFenceActions type).toNat ≤ nvpvaTaskMaxFenceActions) :
    ∃ n ≤ 21 * tasks.length, (writeTasks env thresh semThresh prev tasks q).2.2.localSyncCounter =
      q.localSyncCounter + BitVec.ofNat 32 n := by
  induction tasks generalizing thresh semThresh prev q with
  | nil => exact ⟨0, Nat.zero_le _, (BitVec.add_zero _).symm⟩
  | cons t rest ih =>
    obtain ⟨ht, hrest⟩ := List.forall_mem_cons.mp h
    have hone : (writeOne env thresh semThresh t q).2.2.localSyncCounter = q.localSyncCounter := rfl
    unfold writeTasks
    split
    case h_1 t1 q1 hrun =>
      obtain ⟨a, -, ha, hnoted⟩ := localSyncCounter_noted ht prev hrun
      obtain ⟨n, hn, hlocal⟩ := ih t1.syncptThresh t1.semThresh (some t1.poolIndex)
        (noteWritten prev t1 q1).2 hrest
      refine ⟨a + n, ?_, ?_⟩
      · rw [List.length_cons]
        omega
      · rw [BitVec.ofNat_add, ← BitVec.add_assoc, ← hnoted]
        exact hlocal
    case h_2 hrun =>
      rw [hrun] at hone
      exact ⟨0, Nat.zero_le _, hone.trans (BitVec.add_zero _).symm⟩

theorem localSyncCounter_ne (prev : Option ℕ) (hsize : (t :: tasks).length ≤ maxPvaTaskCountPerQueue)
    (h : ∀ t' ∈ t :: tasks, ∀ type, (t'.numPvaFenceActions type).toNat ≤ nvpvaTaskMaxFenceActions)
    (hfirst : (writeOne env thresh semThresh t q).1 = 0) :
    (writeTasks env thresh semThresh prev (t :: tasks) q).2.2.localSyncCounter ≠ q.localSyncCounter := by
  obtain ⟨ht, hrest⟩ := List.forall_mem_cons.mp h
  unfold maxPvaTaskCountPerQueue at hsize
  rw [List.length_cons] at hsize
  unfold writeTasks
  split
  case h_2 hne hrun =>
    rw [hrun] at hfirst
    exact absurd hfirst hne
  case h_1 t1 q1 hrun =>
    obtain ⟨a, hpos, ha, hnoted⟩ := localSyncCounter_noted ht prev hrun
    obtain ⟨n, hn, hlocal⟩ := localSyncCounter_writeTasks env t1.syncptThresh t1.semThresh
      (some t1.poolIndex) (noteWritten prev t1 q1).2 hrest
    change (writeTasks env t1.syncptThresh t1.semThresh (some t1.poolIndex) tasks
      (noteWritten prev t1 q1).2).2.2.localSyncCounter ≠ q.localSyncCounter
    rw [hlocal, hnoted, BitVec.add_assoc, ← BitVec.ofNat_add]
    intro heq
    have hzero : BitVec.ofNat 32 (a + n) = 0#32 := by
      generalize q.localSyncCounter = c at heq
      bv_omega
    have hval := congrArg BitVec.toNat hzero
    rw [BitVec.toNat_ofNat, Nat.mod_eq_of_lt (by omega), BitVec.toNat_ofNat] at hval
    omega

end

section

variable {env : SubmitEnv} {send : Send} {q : QueueState} {tasks : List SubmitTask}

theorem oldTail_updateOneTask (i : ℕ) (q : QueueState) : (updateOneTask i q).oldTail = q.oldTail ∨
      (updateOneTask i q).oldTail = none ∧ q.oldTail = some i := by
  unfold updateOneTask
  split
  case h_1 => exact Or.inl rfl
  case h_2 task hfind =>
    have hindex : task.poolIndex = i := by simpa using List.find?_some hfind
    unfold pvaTaskFree
    rw [hindex]
    split
    case isTrue htail => exact Or.inr ⟨rfl, htail⟩
    case isFalse => exact Or.inl rfl

theorem oldTail_completions (completed : List ℕ) (q : QueueState) :
    (completed.foldl (fun q i => updateOneTask i q) q).oldTail = q.oldTail ∨
      (completed.foldl (fun q i => updateOneTask i q) q).oldTail = none ∧ ∃ i ∈ completed, q.oldTail = some i := by
  induction completed generalizing q with
  | nil => exact Or.inl rfl
  | cons i completed ih =>
    rcases oldTail_updateOneTask i q with hsame | ⟨hnone, htail⟩
    · rcases ih (updateOneTask i q) with hkept | ⟨hnone, j, hj, htail⟩
      · exact Or.inl (hkept.trans hsame)
      · exact Or.inr ⟨hnone, j, List.mem_cons_of_mem i hj, hsame ▸ htail⟩
    refine Or.inr ⟨?_, i, List.mem_cons_self, htail⟩
    rcases ih (updateOneTask i q) with hkept | ⟨hnone', -⟩
    · exact hkept.trans hnone
    · exact hnone'

/-- The end of the list before a batch is the one that a failed send falls back to. -/
theorem oldTail_taskSubmit (env : SubmitEnv) (send : Send) (tasks : List SubmitTask)
    (q : QueueState) : (pvaTaskSubmit env send tasks q).2.oldTail = q.oldTail ∨
      (pvaTaskSubmit env send tasks q).2.oldTail = none ∧ ∃ i ∈ send.completed, q.oldTail = some i := by
  have hadded : (tasks.foldl (addTask env) q).oldTail = q.oldTail :=
    foldl_keeps QueueState.oldTail (addTask env) (fun _ _ => rfl) tasks q
  have hdone := oldTail_completions send.completed (tasks.foldl (addTask env) q)
  rw [hadded] at hdone
  unfold pvaTaskSubmit
  split
  · exact hdone
  · rw [foldl_keeps QueueState.oldTail removeTask (fun _ _ => rfl)]
    exact hdone

theorem localSyncCounter_taskSubmit (env : SubmitEnv) (send : Send) (tasks : List SubmitTask) (q : QueueState) :
    (pvaTaskSubmit env send tasks q).2.localSyncCounter = q.localSyncCounter := by
  have hadded : (tasks.foldl (addTask env) q).localSyncCounter = q.localSyncCounter :=
    foldl_keeps QueueState.localSyncCounter (addTask env) (fun _ _ => rfl) tasks q
  have hdone := foldl_keeps QueueState.localSyncCounter (fun q i => updateOneTask i q)
    (fun q i => by unfold updateOneTask; split <;> rfl) send.completed (tasks.foldl (addTask env) q)
  unfold pvaTaskSubmit
  split
  · exact hdone.trans hadded
  · rw [foldl_keeps QueueState.localSyncCounter removeTask (fun _ _ => rfl)]
    exact hdone.trans hadded

/-- **A failed send** gives the end of the list back, but not the local counter. -/
theorem sendBatch_tail (env : SubmitEnv) (send : Send) (tasks : List SubmitTask) (q : QueueState) :
    ((sendBatch env send tasks q).1 ≠ 0 → TailKept send q (sendBatch env send tasks q).2.2) ∧
      (sendBatch env send tasks q).2.2.localSyncCounter = q.localSyncCounter := by
  have hparams := sameQueue_setTaskParameters env tasks q
  unfold sendBatch
  dsimp only
  generalize setTaskParameters env tasks q = r at hparams ⊢
  obtain ⟨tasks1, q1⟩ := r
  have hsame : SameQueue q
      (if env.version ≠ pvaHwGen1 then updateBatchTasks tasks1 q1 else q1) := by
    split
    · exact hparams.trans (sameQueue_l2sramWindows _ _ _ _)
    · exact hparams
  generalize (if env.version ≠ pvaHwGen1 then updateBatchTasks tasks1 q1 else q1) = q2 at hsame ⊢
  have htail : q2.hwTaskTail = q.hwTaskTail := hsame.field QueueState.hwTaskTail fun _ => rfl
  have hlocal : (linkBatch tasks1 q2).localSyncCounter = q.localSyncCounter := by
    rw [← hsame.field QueueState.localSyncCounter fun _ => rfl]
    unfold linkBatch
    split
    · cases q2.hwTaskTail <;> rfl
    · rfl
  have hold : (linkBatch tasks1 q2).oldTail = q.hwTaskTail := by
    rw [← htail]
    unfold linkBatch
    split
    · cases hcase : q2.hwTaskTail with
      | none | some i => exact hcase
    · rfl
  have hcounter := localSyncCounter_taskSubmit env send tasks1 (linkBatch tasks1 q2)
  have hfallback := oldTail_taskSubmit env send tasks1 (linkBatch tasks1 q2)
  rw [hold] at hfallback
  split
  case h_1 hrun =>
    rw [hrun] at hcounter
    exact ⟨fun hne => absurd rfl hne, hcounter.trans hlocal⟩
  case h_2 hrun =>
    rw [hrun] at hcounter hfallback
    exact ⟨fun _ => hfallback, hcounter.trans hlocal⟩

end

section

variable {env : SubmitEnv} {send : Send} {q q' : QueueState} {first : SubmitTask}
  {rest tasks' : List SubmitTask} {err : ℤ}

theorem failed_submit_tail (herr : err ≠ 0)
    (h : pvaQueueSubmit env send first rest q = (err, tasks', q')) : TailKept send q q' := by
  have htail := writeTasks_keeps QueueState.hwTaskTail (fun _ _ _ _ => rfl) env q.syncptMaxval
    q.currSemaValue none (first :: rest) q
  unfold pvaQueueSubmit at h
  split at h
  case h_1 tasks1 q1 hwrite =>
    rw [hwrite] at htail
    have hsend := (sendBatch_tail env send tasks1 q1).1
    rw [h] at hsend
    unfold TailKept at hsend ⊢
    rw [← htail]
    exact hsend herr
  case h_2 hwrite =>
    rw [hwrite] at htail
    obtain ⟨-, h⟩ := Prod.mk.inj h
    rw [← (Prod.mk.inj h).2]
    exact Or.inl htail

section

variable (hfresh : FreshBatch q (first :: rest))

include hfresh

theorem restored_of_firstWriteFails (hfails : FirstWriteFails q env first)
    (h : pvaQueueSubmit env send first rest q = (err, tasks', q')) : Restored send q q' := by
  have hwrite : (writeOne env q.syncptMaxval q.currSemaValue first q).1 ≠ 0 := hfails
  unfold pvaQueueSubmit writeTasks at h
  have hq' : q' = (writeOne env q.syncptMaxval q.currSemaValue first q).2.2 := by
    split at h
    case h_1 hzero =>
      split at hzero
      case h_1 hone =>
        rw [hone] at hwrite
        exact absurd rfl hwrite
      case h_2 hne hone => exact absurd (Prod.mk.inj hzero).1 hne
    case h_2 herr =>
      split at herr
      case h_1 hone =>
        rw [hone] at hwrite
        exact absurd rfl hwrite
      case h_2 hone =>
        rw [hone]
        have hfinal := (Prod.mk.inj (Prod.mk.inj herr).2).2
        exact ((Prod.mk.inj (Prod.mk.inj h).2).2.symm.trans hfinal.symm)
  subst hq'
  refine ⟨Or.inl rfl, fun i hi => ?_, rfl, rfl, rfl⟩
  have hne : i ≠ first.poolIndex := by
    intro heq
    exact hfresh.fresh first List.mem_cons_self (heq ▸ hi)
  exact congrArg HwTask.next (Function.update_of_ne hne _ _)

theorem localSyncCounter_of_failed (hok : ¬ FirstWriteFails q env first)
    (h : pvaQueueSubmit env send first rest q = (err, tasks', q')) : q'.localSyncCounter ≠ q.localSyncCounter := by
  have hwrite : (writeOne env q.syncptMaxval q.currSemaValue first q).1 = 0 := not_not.mp hok
  have hmoved := localSyncCounter_ne none hfresh.size hfresh.fences hwrite
  unfold pvaQueueSubmit at h
  split at h
  case h_1 tasks1 q1 hrun =>
    rw [hrun] at hmoved
    have hsend := (sendBatch_tail env send tasks1 q1).2
    rw [h] at hsend
    rw [hsend]
    exact hmoved
  case h_2 hrun =>
    rw [hrun] at hmoved
    rw [← (Prod.mk.inj (Prod.mk.inj h).2).2]
    exact hmoved

/--
**A failed batch.**  The end of the firmware's list, the syncpoint maximum and the
semaphore value always come back.  All of the queue is as before if and only if it was the first
task that could not be written.

SOURCE: drivers/video/tegra/host/pva/pva_queue.c:946-974, 1153-1267, 1380-1446
-/
theorem failed_submit_restores_iff (herr : err ≠ 0)
    (h : pvaQueueSubmit env send first rest q = (err, tasks', q')) :
    TailKept send q q' ∧ q'.syncptMaxval = q.syncptMaxval ∧ q'.currSemaValue = q.currSemaValue ∧
      (Restored send q q' ↔ FirstWriteFails q env first) := by
  obtain ⟨-, hvalues⟩ := Prod.mk.inj (queueSubmit_error herr h)
  obtain ⟨hmax, hsema⟩ := Prod.mk.inj hvalues
  refine ⟨failed_submit_tail herr h, hmax, hsema, ?_, ?_⟩
  · intro hrestored
    by_contra hok
    exact localSyncCounter_of_failed hfresh hok h hrestored.localSyncCounter
  · intro hfails
    exact restored_of_firstWriteFails hfresh hfails h

end

def queueWithTail : QueueState where
  id := 0
  taskIdx := 0
  syncptId := 5
  localSyncCounter := 3
  syncptMaxval := 10
  tasklist := []
  oldTail := none
  hwTaskTail := some 7
  batchId := 0
  currSemaValue := 0
  elf := pvaVpuInit
  hw := fun _ => default

/-- A task without executables, with the flags `flags`. -/
def bareTask (flags : U32) : SubmitTask :=
  { (default : SubmitTask) with
    dmaAddr := 0x8000
    poolIndex := 1
    exeId1 := noopExeId
    exeId2 := noopExeId
    flags := flags
    numPvaFenceActions := fun _ => 0 }

theorem freshBatch_bareTask (flags : U32) : FreshBatch queueWithTail [bareTask flags] := by
  refine ⟨(by decide : 1 ≤ 256), ?_, ?_⟩
  · intro t ht type
    rw [List.mem_singleton.mp ht]
    exact Nat.zero_le _
  · intro t ht
    rw [List.mem_singleton.mp ht]
    exact fun h => absurd (Option.some.inj h) (by decide : (7 : ℕ) ≠ 1)

/-- A task that names no VPU is refused, and the queue is as before. -/
theorem refused_task_restores : ∃ q', Restored ⟨0, []⟩ queueWithTail q' ∧
    (pvaQueueSubmit quietSubmit ⟨0, []⟩ (bareTask 0) [] queueWithTail).2.2 = q' := by
  have herr : (pvaQueueSubmit quietSubmit ⟨0, []⟩ (bareTask 0) [] queueWithTail).1 ≠ 0 := by decide
  have hfails : FirstWriteFails queueWithTail quietSubmit (bareTask 0) := by
    unfold FirstWriteFails
    decide
  exact ⟨_, (failed_submit_restores_iff (freshBatch_bareTask 0) herr rfl).2.2.2.mpr hfails, rfl⟩

/-- A batch whose send times out: the old tail still names it as its successor, and the local
counter has moved. -/
theorem failed_send_stays_linked : (pvaQueueSubmit quietSubmit ⟨-110, []⟩ (bareTask 1) [] queueWithTail).1 = -110 ∧
    (queueWithTail.hw 7).next ≠ (bareTask 1).dmaAddr ∧
    ((pvaQueueSubmit quietSubmit ⟨-110, []⟩ (bareTask 1) [] queueWithTail).2.2.hw 7).next = (bareTask 1).dmaAddr ∧
    queueWithTail.localSyncCounter = 3 ∧
    (pvaQueueSubmit quietSubmit ⟨-110, []⟩ (bareTask 1) [] queueWithTail).2.2.localSyncCounter = 4 := by
  decide

end

end NvidiaOot.Analysis
