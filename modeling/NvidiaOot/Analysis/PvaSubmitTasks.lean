import NvidiaOot.Model.PvaSubmitTasks

/-!
# The references of a batch are balanced

The references of the call are dropped for all tasks that it has counted.  A task is counted before the device is
resumed for it, so a resume that fails leaves it with one reference less to the device and one less to the client.
-/

namespace NvidiaOot.Analysis

open Library Program Model Function

variable {r : SubmitRequest} {w w' before : SubmitRefs} {i n : ℕ}

/-- `c` tasks have been freed. -/
structure Freed (c : ℕ) (w w' : SubmitRefs) : Prop where
  client : w'.clientRefCount = w.clientRefCount - c
  busy : w'.moduleBusy = w.moduleBusy - c
  pool : w'.taskPoolSem = w.taskPoolSem + c
  numTasks : w'.numTasks = w.numTasks
  tasklist : w'.tasklist = w.tasklist

theorem Freed.trans {c c' : ℕ} {w'' : SubmitRefs} (h : Freed c w w') (h' : Freed c' w' w'') : Freed (c' + c) w w'' where
  client := by rw [h'.client, h.client, Nat.cast_add]; omega
  busy := by rw [h'.busy, h.busy, Nat.cast_add]; omega
  pool := by rw [h'.pool, h.pool, Nat.cast_add]; omega
  numTasks := h'.numTasks.trans h.numTasks
  tasklist := h'.tasklist.trans h.tasklist

theorem freed_krefPut (w : SubmitRefs) (i : ℕ) :
    Freed (if w.kref i = 1 then 1 else 0) w (taskKrefPut w i) ∧
      (taskKrefPut w i).kref = update w.kref i (w.kref i - 1) := by
  unfold taskKrefPut
  split
  case isTrue => exact ⟨⟨rfl, rfl, rfl, rfl, rfl⟩, rfl⟩
  case isFalse => exact ⟨⟨(Int.sub_zero _).symm, (Int.sub_zero _).symm, (Int.add_zero _).symm, rfl, rfl⟩, rfl⟩

/-- **Dropping one reference of each task** frees those that have no other. -/
theorem foldl_krefPut {l : List ℕ} (hl : l.Nodup) (w : SubmitRefs) :
    Freed (l.countP fun i => w.kref i = 1) w (l.foldl taskKrefPut w) ∧
      ∀ i, (l.foldl taskKrefPut w).kref i = if i ∈ l then w.kref i - 1 else w.kref i := by
  induction l generalizing w with
  | nil => exact ⟨⟨(Int.sub_zero _).symm, (Int.sub_zero _).symm, (Int.add_zero _).symm, rfl, rfl⟩, fun i => rfl⟩
  | cons i l ih =>
    obtain ⟨hi, hl⟩ := List.nodup_cons.mp hl
    obtain ⟨hfreed, hkref⟩ := ih hl (taskKrefPut w i)
    obtain ⟨hone, hself⟩ := freed_krefPut w i
    have hcount : (l.countP fun j => (taskKrefPut w i).kref j = 1) = l.countP fun j => w.kref j = 1 := by
      refine List.countP_congr fun j hj => ?_
      have hne : j ≠ i := fun heq => hi (heq ▸ hj)
      rw [hself, update_of_ne hne]
    refine ⟨?_, fun j => ?_⟩
    · have hboth := hone.trans (hcount ▸ hfreed)
      rw [List.foldl_cons, List.countP_cons]
      simpa only [decide_eq_true_eq] using hboth
    · rw [List.foldl_cons, hkref, hself]
      by_cases hji : j = i
      · rw [hji, if_neg hi, update_self, if_pos List.mem_cons_self]
      · rw [update_of_ne hji]
        exact if_congr (by rw [List.mem_cons, or_iff_right hji]) rfl rfl

/-- Before task `i` is prepared: each task has a reference of each kind, and none is in flight. -/
structure PreparedInv (before : SubmitRefs) (i : ℕ) (w : SubmitRefs) : Prop where
  numTasks : w.numTasks = i
  client : w.clientRefCount = before.clientRefCount + i
  busy : w.moduleBusy = before.moduleBusy + i
  pool : w.taskPoolSem = before.taskPoolSem - i
  kref : ∀ j < i, w.kref j = 1
  tasklist : w.tasklist = []

/-- A task that is counted has its first reference. -/
theorem PreparedInv.counted (h : PreparedInv before i w) : ∀ j < i + 1, update w.kref i 1 j = 1 := by
  intro j hj
  rcases Nat.lt_succ_iff_lt_or_eq.mp hj with hlt | rfl
  · rw [update_of_ne hlt.ne]
    exact h.kref j hlt
  · exact update_self _ _ _

theorem prepareTask_eq (hdown : r.downTimeout i = 0) (hbusy : r.nvhostModuleBusy i = 0) (w : SubmitRefs) :
    prepareTask r i w = (r.copyTask i, { w with
      taskPoolSem := w.taskPoolSem - 1
      kref := update w.kref i 1
      numTasks := w.numTasks + 1
      moduleBusy := w.moduleBusy + 1
      clientRefCount := w.clientRefCount + 1 }) := by
  unfold prepareTask
  rw [if_neg (not_not.mpr hdown), if_neg (not_not.mpr hbusy)]

/-- **A task that is resumed for** has its references, also when it cannot be copied. -/
theorem PreparedInv.next (h : PreparedInv before i w) (hdown : r.downTimeout i = 0)
    (hbusy : r.nvhostModuleBusy i = 0) : PreparedInv before (i + 1) (prepareTask r i w).2 := by
  obtain ⟨hnum, hclient, hmodule, hpool, -, hlist⟩ := id h
  rw [prepareTask_eq hdown hbusy]
  exact ⟨congrArg (· + 1) hnum, by push_cast; omega, by push_cast; omega, by push_cast; omega, h.counted, hlist⟩

theorem knownTurns_prepareTask (r : SubmitRequest) (before : SubmitRefs) (n : ℕ) :
    KnownTurns (prepareTask r) (PreparedInv before) (TaskPrepared r) n := by
  refine ⟨fun i _ w h => ⟨fun hcode => ?_, fun hprep => ?_⟩, fun i _ w h hprep => h.next hprep.down hprep.busy⟩
  · by_cases hdown : r.downTimeout i = 0
    · by_cases hbusy : r.nvhostModuleBusy i = 0
      · rw [prepareTask_eq hdown hbusy] at hcode
        exact ⟨hdown, hbusy, hcode⟩
      · unfold prepareTask at hcode
        rw [if_neg (not_not.mpr hdown), if_pos hbusy] at hcode
        exact absurd hcode hbusy
    · unfold prepareTask at hcode
      rw [if_pos hdown] at hcode
      exact absurd hcode (show -eAGAIN ≠ 0 by decide)
  · rw [prepareTask_eq hprep.down hprep.busy]
    exact hprep.copy

section

variable {trace : List ℕ} {err : ℤ}

section

variable (h : PreparedInv before n w)

include h

/-- Where all references are those of the call, dropping them leaves none. -/
theorem PreparedInv.balanced (htrace : ∀ i ∈ trace, i < n) (err : ℤ) :
    SubmitBalanced before (freeTasksRefs trace err w) := by
  have hfreed := (foldl_krefPut List.nodup_range w (l := List.range w.numTasks)).1
  have hcount : ((List.range w.numTasks).countP fun i => w.kref i = 1) = n := by
    rw [h.numTasks, List.countP_eq_length.mpr fun i hi => decide_eq_true (h.kref i (List.mem_range.mp hi)),
      List.length_range]
  have hlist : (List.foldl taskKrefPut w (List.range w.numTasks)).tasklist.length = 0 := by
    rw [hfreed.tasklist, h.tasklist]
    rfl
  unfold freeTasksRefs
  refine ⟨fun i hi => ?_, ?_, ?_, ?_⟩
  · rw [hfreed.numTasks, h.numTasks]
    rcases List.mem_append.mp hi with hi | hi
    · exact htrace i hi
    · exact h.numTasks ▸ List.mem_range.mp hi
  · rw [hlist, hfreed.client, h.client]
    omega
  · rw [hlist, hfreed.busy, h.busy]
    omega
  · rw [hlist, hfreed.pool, h.pool]
    omega

/-- The submission has a reference of each task. -/
theorem PreparedInv.krefGets : ∀ i < n, (taskKrefGets w).kref i = 2 := by
  intro i hi
  unfold taskKrefGets
  dsimp only
  rw [if_pos (h.numTasks.symm ▸ hi), h.kref i hi]

/-- Where the batch cannot be sent, the references of the submission are given back. -/
theorem PreparedInv.unsent :
    PreparedInv before n ((List.range w.numTasks).foldl taskKrefPut (taskKrefGets w)) := by
  obtain ⟨hfreed, hkref⟩ := foldl_krefPut List.nodup_range (taskKrefGets w) (l := List.range w.numTasks)
  have hgets := h.krefGets
  have hnone : ((List.range w.numTasks).countP fun i => (taskKrefGets w).kref i = 1) = 0 := by
    refine List.countP_eq_zero.mpr fun i hi hone => ?_
    rw [decide_eq_true_eq, hgets i (h.numTasks ▸ List.mem_range.mp hi)] at hone
    cases hone
  rw [hnone] at hfreed
  refine ⟨hfreed.numTasks.trans h.numTasks, ?_, ?_, ?_, fun i hi => ?_, hfreed.tasklist.trans h.tasklist⟩
  · exact hfreed.client.trans ((Int.sub_zero _).trans h.client)
  · exact hfreed.busy.trans ((Int.sub_zero _).trans h.busy)
  · exact hfreed.pool.trans ((Int.add_zero _).trans h.pool)
  · rw [hkref, if_pos (List.mem_range.mpr (h.numTasks.symm ▸ hi)), hgets i hi]

/-- **A batch that is sent**: the tasks that have completed are freed, and the others are in flight. -/
theorem PreparedInv.sent (htrace : ∀ i ∈ trace, i < n) (err : ℤ) (completed : ℕ → Bool) :
    SubmitBalanced before (freeTasksRefs trace err
      (((List.range w.numTasks).filter fun i => completed i).foldl taskKrefPut
        { taskKrefGets w with tasklist := (List.range w.numTasks).filter fun i => !completed i })) := by
  obtain ⟨hdone, hkref⟩ := foldl_krefPut (List.nodup_range.filter fun i => completed i)
    { taskKrefGets w with tasklist := (List.range w.numTasks).filter fun i => !completed i }
  have hgets := h.krefGets
  -- a task that completes has the reference of the call
  have hnone : (((List.range w.numTasks).filter fun i => completed i).countP fun i => (taskKrefGets w).kref i = 1) = 0 := by
    refine List.countP_eq_zero.mpr fun i hi hone => ?_
    rw [decide_eq_true_eq, hgets i (h.numTasks ▸ List.mem_range.mp (List.mem_of_mem_filter hi))] at hone
    cases hone
  rw [hnone] at hdone
  generalize List.foldl taskKrefPut _ ((List.range w.numTasks).filter fun i => completed i) = v at hdone hkref ⊢
  have hnum : v.numTasks = n := hdone.numTasks.trans h.numTasks
  obtain ⟨hfreed, -⟩ := foldl_krefPut List.nodup_range v (l := List.range v.numTasks)
  have hlast : ∀ i ∈ List.range n, decide (v.kref i = 1) = completed i := by
    intro i hi
    have hrange : i ∈ List.range w.numTasks := h.numTasks.symm ▸ hi
    rw [hkref, hgets i (List.mem_range.mp hi)]
    cases hcomp : completed i with
    | true => rw [if_pos (List.mem_filter.mpr ⟨hrange, hcomp⟩)]; rfl
    | false => rw [if_neg fun hmem => Bool.false_ne_true (hcomp.symm.trans (List.mem_filter.mp hmem).2)]; rfl
  have hcount : ((List.range v.numTasks).countP fun i => v.kref i = 1) = (List.range n).countP completed := by
    rw [hnum]
    exact List.countP_congr fun i hi => by rw [hlast i hi]
  have hflight : v.tasklist.length + (List.range n).countP completed = n := by
    have hnot : ((List.range n).countP fun i => !completed i) = (List.range n).countP fun i => ¬ completed i :=
      List.countP_congr fun i _ => by simp
    have hsum := List.length_eq_countP_add_countP completed (l := List.range n)
    rw [List.length_range, ← hnot] at hsum
    rw [hdone.tasklist, ← List.countP_eq_length_filter, h.numTasks]
    omega
  have hdoneClient := hdone.client
  have hdoneBusy := hdone.busy
  have hdonePool := hdone.pool
  dsimp only [taskKrefGets] at hdoneClient hdoneBusy hdonePool
  unfold freeTasksRefs
  refine ⟨fun i hi => ?_, ?_, ?_, ?_⟩
  · rw [hfreed.numTasks, hnum]
    rcases List.mem_append.mp hi with hi | hi
    · exact htrace i hi
    · exact hnum ▸ List.mem_range.mp hi
  · rw [hfreed.tasklist, hfreed.client, hdoneClient, h.client]
    omega
  · rw [hfreed.tasklist, hfreed.busy, hdoneBusy, h.busy]
    omega
  · rw [hfreed.tasklist, hfreed.pool, hdonePool, h.pool]
    omega

/-- **The submission** comes to tasks that are set, and dropping the references of the call is all that is left. -/
theorem PreparedInv.queued (hn : 0 < n) (r : SubmitRequest) :
    ∃ trace err v, queueSubmitRefs r w = (trace, err, v) ∧ (∀ i ∈ trace, i < n) ∧ v.numTasks = n ∧
      ∀ (trace' : List ℕ) (err' : ℤ), (∀ i ∈ trace', i < n) → SubmitBalanced before (freeTasksRefs trace' err' v) := by
  have hrange : ∀ i ∈ 0 :: List.range w.numTasks, i < n := by
    intro i hi
    rcases List.mem_cons.mp hi with rfl | hi
    · exact hn
    · exact h.numTasks ▸ List.mem_range.mp hi
  unfold queueSubmitRefs
  cases r.batch with
  | writeFails i err =>
    have htake : ∀ j ∈ 0 :: (List.range w.numTasks).take (i + 1), j < n := fun j hj =>
      hrange j ((List.take_sublist _ _).cons_cons 0 |>.subset hj)
    exact ⟨_, _, _, rfl, htake, h.numTasks, fun _ err' htrace => h.balanced htrace err'⟩
  | sendFails err =>
    exact ⟨_, _, _, rfl, hrange, h.unsent.numTasks, fun _ err' htrace => h.unsent.balanced htrace err'⟩
  | sent completed =>
    have hdone := (foldl_krefPut (List.nodup_range.filter fun i => completed i) (l := (List.range w.numTasks).filter _)
      { taskKrefGets w with tasklist := (List.range w.numTasks).filter fun i => !completed i }).1
    exact ⟨_, _, _, rfl, hrange, hdone.numTasks.trans h.numTasks, fun _ err' htrace => h.sent htrace err' completed⟩

/-- **After its tasks are prepared** the call is balanced. -/
theorem PreparedInv.submitted (hn : 0 < n) (r : SubmitRequest) :
    SubmitBalanced before (submitPrepared r w) := by
  obtain ⟨trace, err, v, hqueue, htrace, hnum, hbalanced⟩ := h.queued hn r
  unfold submitPrepared
  rw [if_neg (h.numTasks ▸ hn.ne'), hqueue]
  dsimp only
  split
  · exact hbalanced trace err htrace
  refine hbalanced _ _ fun i hi => ?_
  rcases List.mem_append.mp hi with hi | hi
  · exact htrace i hi
  · exact hnum ▸ List.mem_range.mp (List.mem_of_mem_take hi)

end

end

section

variable {c b p : ℤ}

theorem preparedInv_noTasks : PreparedInv (noTasks c b p) 0 (noTasks c b p) :=
  ⟨rfl, (Int.add_zero _).symm, (Int.add_zero _).symm, (Int.sub_zero _).symm, nofun, rfl⟩

theorem submit_refused (h : ¬ SubmitAdmitted r) :
    SubmitBalanced (noTasks c b p) (submitRefs r (noTasks c b p)) := by
  have hsame (err : ℤ) : SubmitBalanced (noTasks c b p) ([], err, noTasks c b p) :=
    ⟨nofun, (Int.add_zero _).symm, (Int.add_zero _).symm, (Int.sub_zero _).symm⟩
  unfold submitRefs
  split_ifs with hcount hversion hmem hheader hcopied
  all_goals first | exact hsame _ | skip
  exact absurd ⟨Nat.le_of_not_lt hcount, Nat.eq_zero_of_not_pos hversion,
    ⟨eq_true_of_ne_false hmem, eq_true_of_ne_false hheader⟩, eq_true_of_ne_false hcopied⟩ h

theorem submitRefs_eq {run : ℤ × SubmitRefs} (h : SubmitAdmitted r)
    (hrun : forEach (prepareTask r) (List.range r.numTasks) w = run) :
    submitRefs r w = if run.1 = 0 then submitPrepared r run.2 else freeTasksRefs [] run.1 run.2 := by
  unfold submitRefs
  rw [if_neg (Nat.not_lt.mpr h.count), if_neg (h.version ▸ Nat.lt_irrefl 0), if_neg (by simp [h.memory.1]),
    if_neg (by simp [h.memory.2]), if_neg (by simp [h.copied]), hrun]
  split
  · exact (if_pos rfl).symm
  case h_2 hne => exact (if_neg hne).symm

/-- **A task that the device is not resumed for** is counted, so the references of one task more are dropped. -/
theorem PreparedInv.unbalanced (h : PreparedInv before i w) (hdown : r.downTimeout i = 0)
    (hbusy : r.nvhostModuleBusy i ≠ 0) :
    ¬ SubmitBalanced before (freeTasksRefs [] (prepareTask r i w).1 (prepareTask r i w).2) := by
  unfold prepareTask
  rw [if_neg (not_not.mpr hdown), if_pos hbusy]
  intro hbalanced
  have hclient := hbalanced.client
  unfold freeTasksRefs at hclient
  dsimp only at hclient
  generalize hv : { w with
    taskPoolSem := w.taskPoolSem - 1, kref := update w.kref i 1, numTasks := w.numTasks + 1 } = v at hclient
  have hfreed := (foldl_krefPut List.nodup_range v (l := List.range (w.numTasks + 1))).1
  have hcount : ((List.range (w.numTasks + 1)).countP fun j => v.kref j = 1) = i + 1 := by
    rw [h.numTasks, List.countP_eq_length.mpr, List.length_range]
    exact fun j hj => decide_eq_true (hv ▸ h.counted j (List.mem_range.mp hj))
  have hbefore : v.clientRefCount = before.clientRefCount + i := hv ▸ h.client
  rw [hfreed.client, hcount, hbefore] at hclient
  omega

/-- **The references of a batch are balanced** when the batch has a task and the device is resumed for each. -/
theorem submit_balanced_iff (r : SubmitRequest) (c b p : ℤ) :
    SubmitBalanced (noTasks c b p) (submitRefs r (noTasks c b p)) ↔ (SubmitAdmitted r → SubmitCareful r) := by
  by_cases hadm : SubmitAdmitted r
  case neg => exact iff_of_true (submit_refused hadm) fun h => absurd h hadm
  have hturns := knownTurns_prepareTask r (noTasks c b p) r.numTasks
  have hstart : PreparedInv (noTasks c b p) 0 (noTasks c b p) := preparedInv_noTasks
  refine ⟨fun hbalanced _ => ⟨fun hempty => ?_, fun i hi hprep hdown => ?_⟩, fun hcareful => ?_⟩
  · rw [submitRefs_eq hadm (show _ = (0, noTasks c b p) by rw [hempty]; rfl), if_pos rfl] at hbalanced
    exact absurd (hbalanced.slots 0 List.mem_cons_self) (Nat.lt_irrefl 0)
  · by_contra hbusy
    have hno : ¬ TaskPrepared r i := fun h => hbusy h.busy
    have hbefore := hturns.before hstart hi.le hprep
    have hcode := mt (hturns.code i hi _ hbefore).mp hno
    rw [submitRefs_eq hadm (hturns.stops hstart hi hprep hno), if_neg hcode] at hbalanced
    exact hbefore.unbalanced hdown hbusy hbalanced
  · obtain ⟨hnonempty, hbusy⟩ := hcareful hadm
    by_cases hall : ∀ i < r.numTasks, TaskPrepared r i
    · obtain ⟨hcode, hinv⟩ := hturns.run hstart
      rw [submitRefs_eq hadm rfl, if_pos (hcode.mpr hall)]
      exact (hinv hall).submitted (Nat.pos_of_ne_zero hnonempty) r
    -- the first task that is not prepared
    have hex : ∃ i, i < r.numTasks ∧ ¬ TaskPrepared r i := by simpa using hall
    classical
    obtain ⟨hi, hno⟩ := Nat.find_spec hex
    have hprep : ∀ j < Nat.find hex, TaskPrepared r j := fun j hj =>
      not_not.mp fun h => Nat.find_min hex hj ⟨hj.trans hi, h⟩
    generalize Nat.find hex = i at hi hno hprep
    have hbefore := hturns.before hstart hi.le hprep
    have hcode := mt (hturns.code i hi _ hbefore).mp hno
    rw [submitRefs_eq hadm (hturns.stops hstart hi hprep hno), if_neg hcode]
    by_cases hdown : r.downTimeout i = 0
    · exact (hbefore.next hdown (hbusy i hi hprep hdown)).balanced (List.forall_mem_nil _) _
    · unfold prepareTask
      rw [if_pos hdown]
      exact hbefore.balanced (List.forall_mem_nil _) _

/-- The device cannot be resumed for a task: the client loses a reference. -/
theorem submit_unbalanced_busy :
    let r : SubmitRequest := ⟨1, 0, true, true, true, fun _ => 0, fun _ => -eINVAL, fun _ => 0, .sent fun _ => false, fun _ => true⟩
    SubmitAdmitted r ∧ ¬ SubmitBalanced (noTasks 1 0 256) (submitRefs r (noTasks 1 0 256)) := by
  refine ⟨⟨by decide, rfl, ⟨rfl, rfl⟩, rfl⟩, fun h => ?_⟩
  have hclient := h.client
  revert hclient
  decide

end

end NvidiaOot.Analysis
