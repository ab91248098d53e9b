import NvidiaOot.Analysis.PvaFences

/-!
# What comes back to the user

The user's array is grouped by type and index when a task is copied, and flattened again
when the batch was submitted; `userFencesOf_spec` says that both orders fit together.  Over
the batches of a run the values that come back are consecutive.
-/

namespace NvidiaOot.Analysis

open Library Program Model Function

section

variable {user : UserTask} {t t' : SubmitTask} {fence : FenceAction} {done rest : List FenceAction}

/-- The actions by type and index, at most four of a type. -/
structure Copied (fences : List FenceAction) (t : SubmitTask) : Prop where
  grouped : Grouped (fun a : FenceAction => a.type.toNat)
    (fun k => (t.numPvaFenceActions k).toNat) t.pvaFenceActions fences
  limit : ∀ k, (t.numPvaFenceActions k).toNat ≤ nvpvaTaskMaxFenceActions

def SameArray (t t' : SubmitTask) : Prop :=
  t'.numUserFenceActions = t.numUserFenceActions ∧ t'.userFenceActions = t.userFenceActions

theorem groupFence_ok (h : groupFence t fence = .ok t') (hdone : Copied done t) :
    Copied (done ++ [fence]) t' ∧ SameArray t t' := by
  unfold groupFence at h
  dsimp only at h
  split at h
  · cases h
  split at h
  · cases h
  rename_i _ hroom
  rw [← Except.ok.inj h]
  unfold nvpvaTaskMaxFenceActions at hroom
  have hcount : (t.numPvaFenceActions fence.type.toNat + 1).toNat =
      (t.numPvaFenceActions fence.type.toNat).toNat + 1 := by
    generalize t.numPvaFenceActions fence.type.toNat = n at hroom ⊢
    bv_omega
  have hcounts : (fun k => (update t.numPvaFenceActions fence.type.toNat
      (t.numPvaFenceActions fence.type.toNat + 1) k).toNat) =
      update (fun k => (t.numPvaFenceActions k).toNat) fence.type.toNat
        ((t.numPvaFenceActions fence.type.toNat).toNat + 1) := by
    funext k
    by_cases hk : k = fence.type.toNat
    · rw [hk, update_self, update_self, hcount]
    · rw [update_of_ne hk, update_of_ne hk]
  refine ⟨⟨?_, fun k => ?_⟩, rfl, rfl⟩
  · rw [hcounts]
    exact hdone.grouped.push
  · dsimp only
    by_cases hk : k = fence.type.toNat
    · rw [hk, update_self, hcount]
      unfold nvpvaTaskMaxFenceActions
      omega
    · rw [update_of_ne hk]
      exact hdone.limit k

/-- **The loop over the user's array.** -/
theorem groupFences_ok (h : groupFences rest t = .ok t') (hdone : Copied done t) :
    Copied (done ++ rest) t' ∧ SameArray t t' := by
  induction rest generalizing done t with
  | nil =>
    rw [← Except.ok.inj h, List.append_nil]
    exact ⟨hdone, rfl, rfl⟩
  | cons fence rest ih =>
    unfold groupFences at h
    split at h
    · cases h
    rename_i t1 hone
    obtain ⟨hone, hsame⟩ := groupFence_ok hone hdone
    obtain ⟨hall, hsame'⟩ := ih h hone
    rw [List.append_assoc, List.singleton_append] at hall
    exact ⟨hall, hsame'.1.trans hsame.1, hsame'.2.trans hsame.2⟩

/-- **A copied task** has the user's actions. -/
theorem pvaCopyTask_ok (h : pvaCopyTask user = .ok t) :
    Copied user.fences t ∧ t.numUserFenceActions = user.fences.length ∧
      t.userFenceActions = fun i => user.fences.getD i default := by
  unfold pvaCopyTask at h
  split at h
  · cases h
  have hstart : Copied [] { user.task with
      pinnedApp := false
      numUserFenceActions := user.fences.length
      userFenceActions := fun i => user.fences.getD i default
      numPvaFenceActions := fun _ => 0
      pvaFenceActions := fun _ _ => default } :=
    ⟨.nil, fun _ => Nat.zero_le _⟩
  exact groupFences_ok h hstart

theorem returnFences_eq (t : SubmitTask) (fuel j : ℕ) (next : ℕ → ℕ) :
    returnFences t fuel j next = ungroup (fun a : FenceAction => a.type.toNat) t.pvaFenceActions
      ((List.range fuel).map fun i => t.userFenceActions (j + i)) next := by
  induction fuel generalizing j next with
  | zero => rfl
  | succ fuel ih =>
    rw [List.range_succ_eq_map, List.map_cons, List.map_map]
    unfold returnFences ungroup
    dsimp only
    rw [ih, Nat.add_zero]
    congr 2
    apply List.map_congr_left
    intro i _
    change t.userFenceActions (j + 1 + i) = t.userFenceActions (j + (i + 1))
    rw [Nat.add_assoc, Nat.add_comm 1 i]

theorem map_getD_range (l : List FenceAction) :
    (List.range l.length).map (fun i => l.getD (0 + i) default) = l := by
  apply List.ext_getElem
  · simp
  · intro i _ hi
    simp [hi]

theorem sameAction_type {a b : FenceAction} (h : SameAction a b) : b.type = a.type :=
  have htype : (FenceAction.unassigned b).type = (FenceAction.unassigned a).type := by rw [h]
  htype

variable {id thresh semThresh : U32}

/-- **What comes back of a task**: each position is the user's action with its value, and by
type and position these are the actions that were processed. -/
theorem userFencesOf_spec (hcopy : pvaCopyTask user = .ok t)
    (h : Processed id (t.withThresholds thresh semThresh) (cells t fenceTypes) t') :
    List.Forall₂ ComesBack user.fences (userFencesOf t') ∧ processed (userFencesOf t') = taskActions t' := by
  obtain ⟨hcopied, hnum, harray⟩ := pvaCopyTask_ok hcopy
  have hfixed : fixedPart t' = fixedPart t := h.same
  have hnum' : (fixedPart t').numUserFenceActions = user.fences.length := by rw [hfixed]; exact hnum
  have harray' : (fixedPart t').userFenceActions = fun i => user.fences.getD i default := by
    rw [hfixed]
    exact harray
  have hreturn : userFencesOf t' = ungroup (fun a : FenceAction => a.type.toNat)
      t'.pvaFenceActions user.fences fun _ => 0 := by
    unfold userFencesOf
    rw [returnFences_eq]
    change ungroup _ _ ((List.range (fixedPart t').numUserFenceActions).map fun i =>
      (fixedPart t').userFenceActions (0 + i)) _ = _
    rw [hnum', harray', map_getD_range]
  have hback : List.Forall₂ ComesBack user.fences (userFencesOf t') := by
    rw [hreturn]
    refine hcopied.grouped.forall₂_ungroup fun k i hkey => ⟨h.sameAction (k, i), fun hno => ?_⟩
    refine h.untouched (k, i) fun hmem => hno ?_
    unfold IsProcessed
    rw [hkey]
    exact fst_mem_of_mem_cells hmem
  refine ⟨hback, ?_⟩
  have htypes : List.Forall₂ (fun a b : FenceAction => b.type.toNat = a.type.toNat) user.fences
      (userFencesOf t') := hback.imp fun a b hab => congrArg BitVec.toNat (sameAction_type hab.1)
  unfold processed taskActions cells
  rw [List.map_flatMap]
  apply List.flatMap_congr
  intro type _
  rw [hreturn] at htypes ⊢
  rw [filter_ungroup htypes, hcopied.grouped.length]
  unfold cellsOf
  rw [List.map_map, h.counts]
  apply List.map_congr_left
  intro i _
  change t'.pvaFenceActions type (0 + i) = t'.pvaFenceActions type i
  rw [Nat.zero_add]

end

section

variable {id thresh semThresh : U32} {users : List UserTask} {tasks tasks' : List SubmitTask}
  {returned : List (List FenceAction)}

theorem pvaCopyTasks_ok (h : pvaCopyTasks users = .ok tasks) :
    List.Forall₂ (fun user t => pvaCopyTask user = .ok t) users tasks := by
  induction users generalizing tasks with
  | nil =>
    rw [← Except.ok.inj h]
    exact .nil
  | cons user users ih =>
    unfold pvaCopyTasks at h
    split at h
    · cases h
    rename_i t hone
    split at h
    · cases h
    · rename_i tasks1 hrest
      rw [← Except.ok.inj h]
      exact .cons hone (ih hrest)

theorem returned_spec (hcopy : List.Forall₂ (fun user t => pvaCopyTask user = .ok t) users tasks)
    (h : WrittenBatch id thresh semThresh tasks tasks') :
    List.Forall₂ (fun user fences => List.Forall₂ ComesBack user.fences fences) users (tasks'.map userFencesOf) ∧
    processedBatch (tasks'.map userFencesOf) = batchActions tasks' ∧
    ∀ action ∈ batchActions tasks', isSyncpt action = true → action.fence.syncptId = id := by
  induction h generalizing users with
  | nil =>
    cases hcopy
    exact ⟨.nil, rfl, fun _ hmem => absurd hmem List.not_mem_nil⟩
  | @cons thresh semThresh t t' tasks tasks' hfirst _ ih =>
    obtain ⟨user, users', hone, hrest, rfl⟩ := List.forall₂_cons_right_iff.mp hcopy
    obtain ⟨hpositions, horder, hids⟩ := ih hrest
    obtain ⟨hback, htask⟩ := userFencesOf_spec hone hfirst
    refine ⟨.cons hback hpositions, ?_, ?_⟩
    · rw [batchActions_cons, ← horder, ← htask]
      exact List.flatMap_cons
    · intro action hmem hsyncpt
      rw [batchActions_cons, hfirst.actions] at hmem
      rcases List.mem_append.mp hmem with hhere | hlater
      · obtain ⟨c, hc, rfl⟩ := List.mem_map.mp hhere
        exact hfirst.syncptId c hc hsyncpt
      · exact hids action hlater hsyncpt

theorem eq_take_append {α : Type} {l : List α} {i : ℕ} {a : α} (h : l[i]? = some a) :
    l = l.take i ++ a :: l.drop (i + 1) := by
  obtain ⟨hi, rfl⟩ := List.getElem?_eq_some_iff.mp h
  rw [List.getElem_cons_drop, List.take_append_drop]

theorem eq_takeWhile_append {l : List ℕ} {a : ℕ} (h : a ∈ l) : ∃ post, l = l.takeWhile (· ≠ a) ++ a :: post := by
  induction l with
  | nil => exact absurd h List.not_mem_nil
  | cons b l ih =>
    by_cases hb : b = a
    · subst hb
      exact ⟨l, by simp⟩
    · obtain ⟨post, hpost⟩ := ih ((List.mem_cons.mp h).resolve_left (Ne.symm hb))
      refine ⟨post, ?_⟩
      rw [List.takeWhile_cons_of_pos (by simpa using hb), List.cons_append, ← hpost]

/-- **An action in processing order**: those before it, the action, and the others. -/
theorem processedBatch_split {k j : ℕ} {fences : List FenceAction} {action : FenceAction}
    (hk : returned[k]? = some fences) (hj : fences[j]? = some action) (htype : IsProcessed action) :
    ∃ rest, processedBatch returned = precede returned k j fences action.type.toNat ++ action :: rest := by
  obtain ⟨post, hpost⟩ := eq_takeWhile_append htype
  have hrow : fences.filter (fun a => a.type.toNat = action.type.toNat) =
      (fences.take j).filter (fun a => a.type.toNat = action.type.toNat) ++ action ::
        (fences.drop (j + 1)).filter (fun a => a.type.toNat = action.type.toNat) := by
    conv_lhs => rw [eq_take_append hj]
    rw [List.filter_append, List.filter_cons_of_pos (by simp)]
  have htask : processed fences =
      (fenceTypes.takeWhile (· ≠ action.type.toNat)).flatMap (fun type =>
        fences.filter (·.type.toNat = type)) ++
      (fences.filter (·.type.toNat = action.type.toNat) ++
        post.flatMap fun type => fences.filter (·.type.toNat = type)) := by
    unfold processed
    conv_lhs => rw [hpost]
    rw [List.flatMap_append, List.flatMap_cons]
  refine ⟨(fences.drop (j + 1)).filter (fun a => a.type.toNat = action.type.toNat) ++
    ((post.flatMap fun type => fences.filter (·.type.toNat = type)) ++
      (returned.drop (k + 1)).flatMap processed), ?_⟩
  unfold processedBatch precede
  conv_lhs => rw [eq_take_append hk]
  rw [List.flatMap_append, List.flatMap_cons, htask, hrow]
  simp only [List.append_assoc, List.cons_append]

variable {env : SubmitEnv} {send : Send} {first : UserTask} {rest : List UserTask} {q q' : QueueState}

/-- **A batch that was submitted** returns the next values and counts them. -/
theorem pvaSubmit_ok (h : pvaSubmit env send first rest q = (.ok returned, q')) :
    Returned q.syncptId ⟨q.syncptMaxval, q.currSemaValue, first :: rest, returned⟩ ∧
    Numbered isSyncpt (·.fence.syncptValue) q.syncptMaxval (processedBatch returned) ∧
    Numbered isSem (·.fence.semValue) q.currSemaValue (processedBatch returned) ∧ counters q' = (q.syncptId,
      q.syncptMaxval + BitVec.ofNat 32 ((processedBatch returned).countP isSyncpt),
      q.currSemaValue + BitVec.ofNat 32 ((processedBatch returned).countP isSem)) := by
  unfold pvaSubmit at h
  split at h
  · cases (Prod.mk.inj h).1
  · cases (Prod.mk.inj h).1
  · rename_i t ts hfirst hrest
    split at h
    case h_2 => cases (Prod.mk.inj h).1
    case h_1 tasks' q1 hsubmit =>
      obtain ⟨hreturned, rfl⟩ := Prod.mk.inj h
      rw [← Except.ok.inj hreturned]
      obtain ⟨hwritten, hcounters⟩ := queueSubmit_ok hsubmit
      obtain ⟨hpositions, horder, hids⟩ :=
        returned_spec (.cons hfirst (pvaCopyTasks_ok hrest)) hwritten
      have hsyncpts := hwritten.syncpts
      have hsems := hwritten.sems
      rw [← horder] at hsyncpts hsems hcounters hids
      refine ⟨⟨hpositions, ?_, ?_⟩, hsyncpts, hsems, hcounters⟩
      · intro k j fences action hk hj htype hsyncpt
        obtain ⟨post, hsplit⟩ := processedBatch_split hk hj htype
        rw [hsplit] at hsyncpts hids
        exact ⟨hids action (List.mem_append_right _ List.mem_cons_self) hsyncpt, hsyncpts.value_eq hsyncpt⟩
      · intro k j fences action hk hj htype hsem
        obtain ⟨post, hsplit⟩ := processedBatch_split hk hj htype
        rw [hsplit] at hsems
        exact hsems.value_eq hsem

theorem counters_freeTasks (tasks : List SubmitTask) (q : QueueState) : counters (freeTasks tasks q) = counters q :=
  foldl_keeps counters (fun q task => pvaTaskFree task q) (fun _ _ => rfl) _ _

theorem pvaSubmit_error {e : ℤ} (h : pvaSubmit env send first rest q = (.error e, q')) :
    counters q' = counters q := by
  unfold pvaSubmit at h
  split at h
  · rw [← (Prod.mk.inj h).2]
  · rw [← (Prod.mk.inj h).2]
  · split at h
    case h_1 => cases (Prod.mk.inj h).1
    case h_2 err tasks' q1 hne hsubmit =>
      rw [← (Prod.mk.inj h).2, counters_freeTasks]
      exact queueSubmit_error hne hsubmit

end

section

variable {q : QueueState} {s : Batches}

structure FencesInv (q : QueueState) (s : Batches) : Prop where
  countUp : CountUp q s
  syncptId : s.queue.syncptId = q.syncptId
  returned : ∀ b ∈ s.batches, Returned q.syncptId b

theorem FencesInv.init (q : QueueState) : FencesInv q ⟨q, []⟩ :=
  ⟨⟨.nil, .nil, (BitVec.add_zero _).symm, (BitVec.add_zero _).symm⟩, rfl, fun _ h => absurd h List.not_mem_nil⟩

theorem FencesInv.quiet {q' : QueueState} (h : FencesInv q s) (heq : counters q' = counters s.queue) :
    FencesInv q { s with queue := q' } := by
  obtain ⟨hid, hvalues⟩ := Prod.mk.inj heq
  obtain ⟨hmax, hsema⟩ := Prod.mk.inj hvalues
  exact ⟨⟨h.countUp.syncpts, h.countUp.sems, hmax.trans h.countUp.maxval,
    hsema.trans h.countUp.semaValue⟩, hid.trans h.syncptId, h.returned⟩

/-- **One step.** -/
theorem FencesInv.step (h : FencesInv q s) (op : QueueOp) : FencesInv q (queueStep s op) := by
  cases op with
  | complete i => exact h.quiet (counters_updateOneTask i s.queue)
  | submit env send first rest =>
    unfold queueStep
    dsimp only
    split
    case h_2 hrun => exact h.quiet (pvaSubmit_error hrun)
    case h_1 returned q' hrun =>
      obtain ⟨hreturned, hsyncpts, hsems, hcounters⟩ := pvaSubmit_ok hrun
      obtain ⟨hid, hvalues⟩ := Prod.mk.inj hcounters
      obtain ⟨hmax, hsema⟩ := Prod.mk.inj hvalues
      rw [h.countUp.maxval] at hsyncpts hmax
      rw [h.countUp.semaValue] at hsems hsema
      have hactions : Batches.actions ⟨q', s.batches ++
          [⟨s.queue.syncptMaxval, s.queue.currSemaValue, first :: rest, returned⟩]⟩ =
          s.actions ++ processedBatch returned := by
        unfold Batches.actions
        rw [List.flatMap_append, List.flatMap_singleton]
      refine ⟨⟨?_, ?_, ?_, ?_⟩, hid.trans h.syncptId, ?_⟩
      · rw [hactions]
        exact h.countUp.syncpts.append hsyncpts
      · rw [hactions]
        exact h.countUp.sems.append hsems
      · rw [hactions, List.countP_append, BitVec.ofNat_add, ← BitVec.add_assoc]
        exact hmax
      · rw [hactions, List.countP_append, BitVec.ofNat_add, ← BitVec.add_assoc]
        exact hsema
      · intro b hb
        rcases List.mem_append.mp hb with hold | hnew
        · exact h.returned b hold
        · rw [List.mem_singleton.mp hnew, ← h.syncptId]
          exact hreturned

theorem FencesInv.run (h : FencesInv q s) (ops : List QueueOp) : FencesInv q (ops.foldl queueStep s) := by
  induction ops generalizing s with
  | nil => exact h
  | cons op ops ih => exact ih (h.step op)

/--
**Fence values count up.**  After any batches of one client to one queue, submitted or failed,
and completions in between: each action that came back of a submitted batch is the one the
user passed at that position, with the value that counts the actions up to it from the
counters before the batch; the values of all batches are consecutive, and none is given out
twice before a counter has gone round.

SOURCE: drivers/video/tegra/host/pva/pva_queue.c:294-429, 1153-1267, 1380-1446;
drivers/video/tegra/host/pva/pva_ioctl.c:263-292, 451-472
-/
theorem fence_values_count_up (q : QueueState) (ops : List QueueOp) :
    (∀ b ∈ (ops.foldl queueStep ⟨q, []⟩).batches, Returned q.syncptId b) ∧ CountUp q (ops.foldl queueStep ⟨q, []⟩) ∧
    ((ops.foldl queueStep ⟨q, []⟩).actions.countP isSyncpt ≤ 2 ^ 32 →
      (((ops.foldl queueStep ⟨q, []⟩).actions.filter isSyncpt).map (·.fence.syncptValue)).Nodup) ∧
    ((ops.foldl queueStep ⟨q, []⟩).actions.countP isSem ≤ 2 ^ 32 →
      (((ops.foldl queueStep ⟨q, []⟩).actions.filter isSem).map (·.fence.semValue)).Nodup) := by
  have hinv := (FencesInv.init q).run ops
  refine ⟨hinv.returned, hinv.countUp, fun hround => ?_, fun hround => ?_⟩
  · have hvalues := hinv.countUp.syncpts
    rw [hvalues]
    exact nodup_tickets hround
  · have hvalues := hinv.countUp.sems
    rw [hvalues]
    exact nodup_tickets hround

def syncptAction (type value : U32) : FenceAction :=
  ⟨type, ⟨nvpvaFenceObjSyncpt, 0, value, 0, 0, 0⟩, 0, 0⟩

def queueAtTen : QueueState :=
  ⟨0, 0, 5, 0, 10, [], none, none, 0, 0, pvaVpuInit, fun _ => default⟩

def plainTask (fences : List FenceAction) : UserTask :=
  ⟨{ (default : SubmitTask) with exeId1 := noopExeId, exeId2 := noopExeId, flags := 1 }, fences⟩

/-- An action of type `NVPVA_FENCE_PRE` is accepted and comes back as it was passed, with no
value of the counter. -/
theorem preFence_not_assigned : ((queueStep ⟨queueAtTen, []⟩ (.submit quietSubmit ⟨0, []⟩
      (plainTask [syncptAction 1 77, syncptAction 6 5, syncptAction 2 5]) [])).batches.map fun b =>
        (b.syncptMaxval, b.returned.map (·.map (·.fence.syncptValue)))) = [(10, [[77, 12, 11]])] ∧
    isSyncpt (syncptAction 1 77) = true ∧ ∀ n < 4, (77 : U32) ≠ 10 + BitVec.ofNat 32 n := by
  decide

end

end NvidiaOot.Analysis
