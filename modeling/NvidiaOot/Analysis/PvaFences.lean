import NvidiaOot.Analysis.PvaTaskWrite
import NvidiaOot.Library.Grouping
import NvidiaOot.Model.PvaQueue

/-!
# Fence values count up

`Processed` describes a task after some of its fence actions: their values are the next ones
of the two counters, and nothing else of the user's arrays has changed.  One action keeps it,
so the loops do, and the later steps of the writer do not touch it.  A batch chains the
counters from task to task; the queue's own counters follow when the batch is submitted.
-/

namespace NvidiaOot.Analysis

open Library Program Model Function

section

variable {env : TaskEnv} {id : U32} {t t' : SubmitTask} {s s' : TaskState} {type i : ℕ}

def cell (t : SubmitTask) (c : ℕ × ℕ) : FenceAction := t.pvaFenceActions c.1 c.2

def withValue (id : U32) (t : SubmitTask) (action : FenceAction) : FenceAction :=
  if isSyncpt action then
    { action with fence := { action.fence with syncptId := id, syncptValue := t.syncptThresh + 1 } }
  else { action with fence := { action.fence with semValue := t.semThresh + 1 } }

def countOne (p : FenceAction → Bool) (action : FenceAction) : U32 := if p action then 1 else 0

def afterAction (id : U32) (t : SubmitTask) (type i : ℕ) (numPinned : U32) : SubmitTask :=
  let action := t.pvaFenceActions type i
  { t.setFenceAction type i (withValue id t action) with
    fenceNum := t.fenceNum + countOne isSyncpt action
    syncptThresh := t.syncptThresh + countOne isSyncpt action
    semNum := t.semNum + countOne isSem action
    semThresh := t.semThresh + countOne isSem action
    numPinned := numPinned }

theorem isSem_eq_false {action : FenceAction} (h : isSyncpt action = true) : isSem action = false := by
  unfold isSyncpt at h
  unfold isSem
  rw [decide_eq_true_iff] at h
  rw [h]
  rfl

theorem fenceValue_ok {addr : U64} {value : U32} (h : fenceValue env id type i t = .ok (addr, value, t')) :
    ∃ n, t' = afterAction id t type i n := by
  unfold fenceValue at h
  dsimp only at h
  split at h
  case isTrue htype =>
    have hsyncpt : isSyncpt (t.pvaFenceActions type i) = true := decide_eq_true htype
    have hsem := isSem_eq_false hsyncpt
    unfold syncptFence at h
    dsimp only at h
    split at h
    · cases h
    obtain ⟨-, h⟩ := Prod.mk.inj (Except.ok.inj h)
    obtain ⟨-, rfl⟩ := Prod.mk.inj h
    refine ⟨t.numPinned, ?_⟩
    unfold afterAction withValue countOne
    simp [hsyncpt, hsem, SubmitTask.setFenceAction]
  case isFalse htype =>
    have hsyncpt : isSyncpt (t.pvaFenceActions type i) = false := decide_eq_false htype
    split at h
    case isTrue hobj =>
      have hsem : isSem (t.pvaFenceActions type i) = true := decide_eq_true hobj
      unfold semFence at h
      dsimp only at h
      split at h
      · cases h
      rename_i mem t1 hpin
      obtain ⟨-, h⟩ := Prod.mk.inj (Except.ok.inj h)
      obtain ⟨-, rfl⟩ := Prod.mk.inj h
      rw [pinMem_task hpin]
      refine ⟨t.numPinned + 1, ?_⟩
      unfold afterAction withValue countOne
      simp [hsyncpt, hsem, SubmitTask.setFenceAction]
    case isFalse => cases h

theorem pinMem_error {env : TaskEnv} {pin : U32} {e : ℤ} (h : t.pinMem env pin = .error e) : e ≠ 0 := by
  unfold SubmitTask.pinMem at h
  dsimp only at h
  split at h
  · rw [← Except.error.inj h]
    decide
  split at h
  · rw [← Except.error.inj h]
    decide
  · split at h
    case isTrue hne => rwa [← Except.error.inj h]
    case isFalse => cases h

theorem fenceValue_error {e : ℤ} (h : fenceValue env id type i t = .error e) : e ≠ 0 := by
  unfold fenceValue at h
  dsimp only at h
  split at h
  · unfold syncptFence at h
    dsimp only at h
    split at h
    · rw [← Except.error.inj h]
      decide
    · cases h
  split at h
  · unfold semFence at h
    dsimp only at h
    split at h
    case h_1 hpin =>
      rw [← Except.error.inj h]
      exact pinMem_error hpin
    case h_2 => cases h
  · rw [← Except.error.inj h]
    decide

theorem timestampAddr_ok {action : FenceAction} {addr : U64}
    (h : timestampAddr env action t = .ok (addr, t')) : ∃ n, t' = { t with numPinned := n } := by
  unfold timestampAddr at h
  split at h
  · obtain ⟨-, rfl⟩ := Prod.mk.inj (Except.ok.inj h)
    exact ⟨t.numPinned, rfl⟩
  split at h
  · cases h
  · rename_i hpin
    obtain ⟨-, rfl⟩ := Prod.mk.inj (Except.ok.inj h)
    exact ⟨_, pinMem_task hpin⟩

theorem timestampAddr_error {action : FenceAction} {e : ℤ} (h : timestampAddr env action t = .error e) : e ≠ 0 := by
  unfold timestampAddr at h
  split at h
  · cases h
  split at h
  case h_1 hpin =>
    rw [← Except.error.inj h]
    exact pinMem_error hpin
  case h_2 => cases h

/-- **One fence action.**  When it succeeds the task has the action's value. -/
theorem processFenceAction_ok (h : processFenceAction env id type i s = (0, s')) :
    ∃ n, s'.task = afterAction id s.task type i n := by
  unfold processFenceAction at h
  dsimp only at h
  split at h
  case h_1 hvalue => exact absurd (congrArg Prod.fst h) (fenceValue_error hvalue)
  case h_2 hvalue =>
    obtain ⟨n, rfl⟩ := fenceValue_ok hvalue
    split at h
    case h_1 htime => exact absurd (congrArg Prod.fst h) (timestampAddr_error htime)
    case h_2 htime =>
      obtain ⟨n', rfl⟩ := timestampAddr_ok htime
      obtain ⟨-, rfl⟩ := Prod.mk.inj h
      exact ⟨n', rfl⟩

end

section

variable {env : TaskEnv} {id : U32} {t t' t0 : SubmitTask} {s s' : TaskState}
  {done : List (ℕ × ℕ)} {c : ℕ × ℕ} {n : U32}

/-- What neither the writer nor the queue changes of a task. -/
def fixedPart (t : SubmitTask) : SubmitTask :=
  { outsideFences (outsideParams t) with localSyncCounter := 0, id := 0 }

/-- The task after the actions `done`, from `t0` before. -/
structure Processed (id : U32) (t0 : SubmitTask) (done : List (ℕ × ℕ)) (t : SubmitTask) : Prop where
  same : fixedPart t = fixedPart t0
  untouched : ∀ c ∉ done, cell t c = cell t0 c
  sameAction : ∀ c, SameAction (cell t0 c) (cell t c)
  syncptId : ∀ c ∈ done, isSyncpt (cell t c) = true → (cell t c).fence.syncptId = id
  syncpts : Numbered isSyncpt (·.fence.syncptValue) t0.syncptThresh (done.map (cell t))
  sems : Numbered isSem (·.fence.semValue) t0.semThresh (done.map (cell t))
  fenceNum : t.fenceNum = t0.fenceNum + BitVec.ofNat 32 ((done.map (cell t)).countP isSyncpt)
  syncptThresh :
    t.syncptThresh = t0.syncptThresh + BitVec.ofNat 32 ((done.map (cell t)).countP isSyncpt)
  semNum : t.semNum = t0.semNum + BitVec.ofNat 32 ((done.map (cell t)).countP isSem)
  semThresh : t.semThresh = t0.semThresh + BitVec.ofNat 32 ((done.map (cell t)).countP isSem)

theorem Processed.nil (id : U32) (t : SubmitTask) : Processed id t [] t where
  same := rfl
  untouched _ _ := rfl
  sameAction _ := rfl
  syncptId _ h := absurd h List.not_mem_nil
  syncpts := .nil
  sems := .nil
  fenceNum := (BitVec.add_zero _).symm
  syncptThresh := (BitVec.add_zero _).symm
  semNum := (BitVec.add_zero _).symm
  semThresh := (BitVec.add_zero _).symm

theorem cell_afterAction_self : cell (afterAction id t c.1 c.2 n) c = withValue id t (cell t c) := by
  change update t.pvaFenceActions c.1 _ c.1 c.2 = _
  rw [update_self, update_self]
  rfl

theorem cell_afterAction_of_ne {c' : ℕ × ℕ} (h : c' ≠ c) : cell (afterAction id t c.1 c.2 n) c' = cell t c' := by
  change update t.pvaFenceActions c.1 _ c'.1 c'.2 = _
  by_cases htype : c'.1 = c.1
  · rw [htype, update_self, update_of_ne fun hi => h (Prod.ext htype hi)]
    exact congrFun (congrArg t.pvaFenceActions htype.symm) c'.2
  · rw [update_of_ne htype]
    rfl

theorem isSyncpt_withValue (a : FenceAction) : isSyncpt (withValue id t a) = isSyncpt a := by
  unfold withValue
  split <;> rfl

theorem isSem_withValue (a : FenceAction) : isSem (withValue id t a) = isSem a := by
  unfold withValue
  split <;> rfl

theorem sameAction_withValue (a : FenceAction) : SameAction a (withValue id t a) := by
  unfold SameAction withValue
  split <;> rfl

theorem ofNat_countP_snoc (p : FenceAction → Bool) (m : U32) (l : List FenceAction) (a : FenceAction) :
    m + BitVec.ofNat 32 ((l ++ [a]).countP p) = m + BitVec.ofNat 32 (l.countP p) + countOne p a := by
  rw [List.countP_append, BitVec.ofNat_add, BitVec.add_assoc]
  unfold countOne
  cases hp : p a
  · rw [List.countP_singleton, hp]
    rfl
  · rw [List.countP_singleton, hp]
    rfl

/-- **One more action.** -/
theorem Processed.afterAction (h : Processed id t0 done t) (hc : c ∉ done) :
    Processed id t0 (done ++ [c]) (afterAction id t c.1 c.2 n) := by
  have hcell : cell t c = cell t0 c := h.untouched c hc
  have hmap : (done ++ [c]).map (cell (Analysis.afterAction id t c.1 c.2 n)) =
      done.map (cell t) ++ [withValue id t (cell t c)] := by
    rw [List.map_append, List.map_singleton, cell_afterAction_self]
    congr 1
    apply List.map_congr_left
    intro c' hc'
    exact cell_afterAction_of_ne fun heq => hc (heq ▸ hc')
  have hsyncpt : countOne isSyncpt (withValue id t (cell t c)) = countOne isSyncpt (cell t c) := by
    unfold countOne
    rw [isSyncpt_withValue]
  have hsem : countOne isSem (withValue id t (cell t c)) = countOne isSem (cell t c) := by
    unfold countOne
    rw [isSem_withValue]
  refine ⟨h.same, fun c' hc' => ?_, fun c' => ?_, fun c' hc' hp => ?_, ?_, ?_, ?_, ?_, ?_, ?_⟩
  · rw [List.mem_append, List.mem_singleton, not_or] at hc'
    rw [cell_afterAction_of_ne hc'.2, h.untouched c' hc'.1]
  · by_cases heq : c' = c
    · rw [heq, cell_afterAction_self, ← hcell]
      exact sameAction_withValue _
    · rw [cell_afterAction_of_ne heq]
      exact h.sameAction c'
  · by_cases heq : c' = c
    · rw [heq, cell_afterAction_self] at hp ⊢
      rw [isSyncpt_withValue] at hp
      unfold withValue
      rw [if_pos hp]
    · rw [cell_afterAction_of_ne heq] at hp ⊢
      rw [List.mem_append, List.mem_singleton] at hc'
      exact h.syncptId c' (hc'.resolve_right heq) hp
  · rw [hmap]
    refine h.syncpts.snoc fun hp => ?_
    rw [isSyncpt_withValue] at hp
    unfold withValue
    rw [if_pos hp, ← h.syncptThresh]
  · rw [hmap]
    refine h.sems.snoc fun hp => ?_
    rw [isSem_withValue] at hp
    have hno : isSyncpt (cell t c) = false := by
      by_contra hyes
      rw [Bool.not_eq_false] at hyes
      rw [isSem_eq_false hyes] at hp
      cases hp
    unfold withValue
    rw [hno, if_neg Bool.false_ne_true, ← h.semThresh]
  · rw [hmap, ofNat_countP_snoc, hsyncpt, ← h.fenceNum]
    rfl
  · rw [hmap, ofNat_countP_snoc, hsyncpt, ← h.syncptThresh]
    rfl
  · rw [hmap, ofNat_countP_snoc, hsem, ← h.semNum]
    rfl
  · rw [hmap, ofNat_countP_snoc, hsem, ← h.semThresh]
    rfl

def cellsOf (type i : ℕ) : List (ℕ × ℕ) := (List.range i).map fun j => (type, j)

/-- The actions of the types, in processing order. -/
def cells (t : SubmitTask) (types : List ℕ) : List (ℕ × ℕ) :=
  types.flatMap fun type => cellsOf type (t.numPvaFenceActions type).toNat

theorem mem_cellsOf {type i : ℕ} : c ∈ cellsOf type i ↔ c.1 = type ∧ c.2 < i := by
  unfold cellsOf
  rw [List.mem_map]
  constructor
  · rintro ⟨j, hj, rfl⟩
    exact ⟨rfl, List.mem_range.mp hj⟩
  · rintro ⟨htype, hi⟩
    exact ⟨c.2, List.mem_range.mpr hi, Prod.ext htype.symm rfl⟩

theorem fst_mem_of_mem_cells {types : List ℕ} (h : c ∈ cells t types) : c.1 ∈ types := by
  obtain ⟨type, htype, hc⟩ := List.mem_flatMap.mp h
  rwa [(mem_cellsOf.mp hc).1]

theorem Processed.counts (h : Processed id t0 done t) : t.numPvaFenceActions = t0.numPvaFenceActions :=
  have hcounts : (fixedPart t).numPvaFenceActions = (fixedPart t0).numPvaFenceActions := by rw [h.same]
  hcounts

theorem Processed.type {type : ℕ} (h : Processed id t0 done s.task) (hnew : ∀ c ∈ done, c.1 ≠ type)
    (hrun : processFenceType env id type s = (0, s')) :
    Processed id t0 (done ++ cellsOf type (t0.numPvaFenceActions type).toNat) s'.task := by
  unfold processFenceType at hrun
  rw [h.counts] at hrun
  refine forEach_ok (P := fun l s => Processed id t0 (done ++ l.map fun j => (type, j)) s.task)
    ?_ ?_ hrun
  · intro pre j post s1 s2 hrange hpre hbody
    obtain ⟨n, htask⟩ := processFenceAction_ok hbody
    rw [htask, List.map_append, ← List.append_assoc, List.map_singleton]
    refine hpre.afterAction (c := (type, j)) fun hmem => ?_
    rcases List.mem_append.mp hmem with hold | hsame
    · exact hnew _ hold rfl
    obtain ⟨j', hj', heq⟩ := List.mem_map.mp hsame
    have hnodup : (pre ++ j :: post).Nodup := hrange ▸ List.nodup_range
    have hne := List.nodup_append.mp hnodup
    exact hne.2.2 j' hj' j List.mem_cons_self (Prod.mk.inj heq).2
  · simpa using h

/-- **All fence actions.** -/
theorem processFenceActions_ok (hrun : pvaTaskProcessFenceActions env id s = (0, s')) :
    Processed id s.task (cells s.task fenceTypes) s'.task := by
  refine forEach_ok (P := fun types s' => Processed id s.task (cells s.task types) s'.task)
    ?_ ?_ hrun
  · intro pre type post s1 s2 htypes hpre hbody
    have hnodup : (pre ++ type :: post).Nodup := htypes ▸ (by decide : fenceTypes.Nodup)
    have hstep := hpre.type (fun c hc heq => by
      have hmem := fst_mem_of_mem_cells hc
      rw [heq] at hmem
      exact (List.nodup_append.mp hnodup).2.2 type hmem type List.mem_cons_self rfl) hbody
    unfold cells at hstep ⊢
    rw [List.flatMap_append, List.flatMap_singleton]
    exact hstep
  · exact .nil id s.task

theorem Processed.congr {t0' : SubmitTask} (h : Processed id t0 done t)
    (h0 : outsideParams t0' = outsideParams t0) (h1 : outsideParams t' = outsideParams t) :
    Processed id t0' done t' := by
  have hout : Processed id (outsideParams t0) done (outsideParams t) :=
    ⟨h.same, h.untouched, h.sameAction, h.syncptId, h.syncpts, h.sems, h.fenceNum, h.syncptThresh,
      h.semNum, h.semThresh⟩
  rw [← h0, ← h1] at hout
  exact ⟨hout.same, hout.untouched, hout.sameAction, hout.syncptId, hout.syncpts, hout.sems,
    hout.fenceNum, hout.syncptThresh, hout.semNum, hout.semThresh⟩

/-- The queue's own number of the task and its local counter do not matter either. -/
theorem Processed.renumber (h : Processed id t0 done t) (number counter : U32) :
    Processed id t0 done { t with id := number, localSyncCounter := counter } :=
  ⟨h.same, h.untouched, h.sameAction, h.syncptId, h.syncpts, h.sems, h.fenceNum, h.syncptThresh,
    h.semNum, h.semThresh⟩

theorem pvaTaskWrite_processed (h : pvaTaskWrite env id s = (0, s')) :
    Processed id s.task (cells s.task fenceTypes) s'.task := by
  obtain ⟨s1, s2, hbefore, hfences, hafter⟩ := pvaTaskWrite_fences h
  have hcounts : (outsideParams s1.task).numPvaFenceActions =
      (outsideParams s.task).numPvaFenceActions := by rw [hbefore]
  change s1.task.numPvaFenceActions = s.task.numPvaFenceActions at hcounts
  have hdone := (processFenceActions_ok hfences).congr hbefore.symm hafter
  unfold cells at hdone ⊢
  rwa [hcounts] at hdone

end

section

variable {env : SubmitEnv} {id thresh semThresh : U32} {q q' : QueueState} {t t' : SubmitTask}
  {tasks tasks' : List SubmitTask}

/-- The actions of a task that have been processed. -/
def taskActions (t : SubmitTask) : List FenceAction := (cells t fenceTypes).map (cell t)

def batchActions (tasks : List SubmitTask) : List FenceAction := tasks.flatMap taskActions

/-- The tasks of a batch as written: each starts with the counters of the one before. -/
inductive WrittenBatch (id : U32) : U32 → U32 → List SubmitTask → List SubmitTask → Prop where
  | nil (thresh semThresh : U32) : WrittenBatch id thresh semThresh [] []
  | cons {thresh semThresh : U32} {t t' : SubmitTask} {tasks tasks' : List SubmitTask}
    (h : Processed id (t.withThresholds thresh semThresh) (cells t fenceTypes) t')
    (hrest : WrittenBatch id t'.syncptThresh t'.semThresh tasks tasks') :
    WrittenBatch id thresh semThresh (t :: tasks) (t' :: tasks')

theorem Processed.actions (h : Processed id (t.withThresholds thresh semThresh)
    (cells t fenceTypes) t') : taskActions t' = (cells t fenceTypes).map (cell t') := by
  unfold taskActions cells
  rw [h.counts]
  rfl

theorem batchActions_cons : batchActions (t :: tasks) = taskActions t ++ batchActions tasks :=
  List.flatMap_cons

section

variable (h : WrittenBatch id thresh semThresh tasks tasks')

include h

/-- **The values of a batch are consecutive.** -/
theorem WrittenBatch.syncpts :
    Numbered isSyncpt (·.fence.syncptValue) thresh (batchActions tasks') := by
  induction h with
  | nil => exact .nil
  | cons hfirst _ ih =>
    rw [batchActions_cons, hfirst.actions]
    rw [hfirst.syncptThresh] at ih
    exact hfirst.syncpts.append ih

theorem WrittenBatch.sems :
    Numbered isSem (·.fence.semValue) semThresh (batchActions tasks') := by
  induction h with
  | nil => exact .nil
  | cons hfirst _ ih =>
    rw [batchActions_cons, hfirst.actions]
    rw [hfirst.semThresh] at ih
    exact hfirst.sems.append ih

def CountsActions (t : SubmitTask) : Prop :=
  t.fenceNum = BitVec.ofNat 32 ((taskActions t).countP isSyncpt) ∧
    t.semNum = BitVec.ofNat 32 ((taskActions t).countP isSem)

theorem WrittenBatch.counts :
    ∀ t ∈ tasks', CountsActions t := by
  induction h with
  | nil => exact fun _ hmem => absurd hmem List.not_mem_nil
  | cons hfirst _ ih =>
    refine List.forall_mem_cons.mpr ⟨?_, ih⟩
    unfold CountsActions
    rw [hfirst.actions]
    exact ⟨hfirst.fenceNum.trans (BitVec.zero_add _), hfirst.semNum.trans (BitVec.zero_add _)⟩

end

/-- The counters of the queue and the client, and the queue's syncpoint. -/
def counters (q : QueueState) : U32 × U32 × U32 := (q.syncptId, q.syncptMaxval, q.currSemaValue)

@[simp] theorem counters_setNext (i : Option ℕ) (addr : U64) : counters (q.setNext i addr) = counters q := by
  cases i <;> rfl

theorem writeOne_ok (h : writeOne env thresh semThresh t q = (0, t', q')) :
    Processed q.syncptId (t.withThresholds thresh semThresh) (cells t fenceTypes) t' := by
  obtain ⟨hcode, h⟩ := Prod.mk.inj h
  obtain ⟨rfl, -⟩ := Prod.mk.inj h
  exact pvaTaskWrite_processed (Prod.ext hcode rfl)

/-- Writing a batch changes the hardware tasks, the images and the local counter. -/
theorem writeTasks_keeps {γ : Type} (g : QueueState → γ)
    (hg : ∀ q hw elf counter, g { q with hw := hw, elf := elf, localSyncCounter := counter } = g q)
    (env : SubmitEnv) (thresh semThresh : U32) (prev : Option ℕ) (tasks : List SubmitTask)
    (q : QueueState) : g (writeTasks env thresh semThresh prev tasks q).2.2 = g q := by
  induction tasks generalizing thresh semThresh prev q with
  | nil => rfl
  | cons t rest ih =>
    have hone : g (writeOne env thresh semThresh t q).2.2 = g q := hg q _ _ _
    unfold writeTasks
    split
    case h_1 t1 q1 hrun =>
      rw [hrun] at hone
      have hnoted : g (noteWritten prev t1 q1).2 = g q1 := by
        cases prev with
        | none | some i => exact hg q1 _ _ _
      rw [ih, hnoted, ← hone]
    case h_2 hrun =>
      rw [hrun] at hone
      exact hone

theorem counters_writeTasks (env : SubmitEnv) (thresh semThresh : U32) (prev : Option ℕ)
    (tasks : List SubmitTask) (q : QueueState) :
    counters (writeTasks env thresh semThresh prev tasks q).2.2 = counters q :=
  writeTasks_keeps counters (fun _ _ _ _ => rfl) env thresh semThresh prev tasks q

/-- **The loop that writes the tasks.** -/
theorem writeTasks_ok {prev : Option ℕ} (h : writeTasks env thresh semThresh prev tasks q = (0, tasks', q')) :
    WrittenBatch q.syncptId thresh semThresh tasks tasks' := by
  induction tasks generalizing thresh semThresh prev q tasks' q' with
  | nil =>
    obtain ⟨-, h⟩ := Prod.mk.inj h
    obtain ⟨rfl, -⟩ := Prod.mk.inj h
    exact .nil _ _
  | cons t rest ih =>
    unfold writeTasks at h
    split at h
    case h_1 t1 q1 hone =>
      have hcounters : counters (noteWritten prev t1 q1).2 = counters q := by
        unfold noteWritten
        rw [counters_setNext, ← (Prod.mk.inj (Prod.mk.inj hone).2).2]
        rfl
      have hid : (noteWritten prev t1 q1).2.syncptId = q.syncptId := congrArg Prod.fst hcounters
      dsimp only at h
      obtain ⟨hcode, h⟩ := Prod.mk.inj h
      obtain ⟨rfl, -⟩ := Prod.mk.inj h
      have hrest := ih (Prod.ext hcode rfl)
      rw [hid] at hrest
      exact .cons ((writeOne_ok hone).renumber _ _) hrest
    case h_2 hne _ =>
      obtain ⟨hcode, -⟩ := Prod.mk.inj h
      exact absurd hcode hne

/-- The queue without its hardware tasks and its numbers of tasks and batches. -/
def outsideHw (q : QueueState) : QueueState :=
  { q with hw := fun _ => default, taskIdx := 0, batchId := 0 }

def SameQueue (q q' : QueueState) : Prop := outsideHw q' = outsideHw q

theorem SameQueue.field {γ : Type} (g : QueueState → γ) (hg : ∀ q, g (outsideHw q) = g q)
    (h : SameQueue q q') : g q' = g q := by
  rw [← hg q', ← hg q, h]

theorem SameQueue.trans {q'' : QueueState} (h : SameQueue q q') (h' : SameQueue q' q'') :
    SameQueue q q'' := Eq.trans h' h

theorem SameQueue.counters (h : SameQueue q q') : counters q' = counters q :=
  h.field Analysis.counters fun _ => rfl

theorem setTasks_written {batchId : U64} {statusInterface : U8} {flag : U32}
    (h : WrittenBatch id thresh semThresh tasks tasks') (q : QueueState) :
    WrittenBatch id thresh semThresh tasks (setTasks batchId statusInterface flag tasks' q).1 := by
  induction h generalizing q with
  | nil => exact .nil _ _
  | @cons thresh semThresh t t' tasks tasks' hfirst _ ih =>
    exact .cons (hfirst.renumber _ _) (ih (setTask batchId statusInterface flag t' q).2)

theorem sameQueue_setTasks (batchId : U64) (statusInterface : U8) (flag : U32)
    (tasks : List SubmitTask) (q : QueueState) : SameQueue q (setTasks batchId statusInterface flag tasks q).2 := by
  induction tasks generalizing q with
  | nil => exact rfl
  | cons t tasks ih => exact ih (setTask batchId statusInterface flag t q).2

theorem setTaskParameters_written (env : SubmitEnv)
    (h : WrittenBatch id thresh semThresh tasks tasks') (q : QueueState) :
    WrittenBatch id thresh semThresh tasks (setTaskParameters env tasks' q).1 :=
  setTasks_written h _

theorem sameQueue_setTaskParameters (env : SubmitEnv) (tasks : List SubmitTask) (q : QueueState) :
    SameQueue q (setTaskParameters env tasks q).2 := by
  refine SameQueue.trans ?_ (sameQueue_setTasks _ _ _ _ _)
  split
  · split <;> exact rfl
  · exact rfl

theorem outsideHw_setHw (q : QueueState) (i : ℕ) (f : HwTask → HwTask) :
    outsideHw (q.setHw i f) = outsideHw q := rfl

theorem sameQueue_window (tasks : List SubmitTask) (size : U32) (q : QueueState) :
    SameQueue q (nvpvaTaskConfigL2sramWindow tasks size q) := by
  refine (foldl_keeps outsideHw _ ?_ _ _).trans ?_
  · intro q task
    exact outsideHw_setHw q _ _
  · split <;> exact rfl

theorem sameQueue_l2sramWindows (window : List SubmitTask) (maxSize : U32) (tasks : List SubmitTask)
    (q : QueueState) : SameQueue q (l2sramWindows window maxSize tasks q) := by
  induction tasks generalizing window maxSize q with
  | nil =>
    unfold l2sramWindows
    split
    · exact rfl
    · exact sameQueue_window _ _ _
  | cons task rest ih =>
    unfold l2sramWindows
    split
    · exact ih _ _ _
    · split
      · exact ih _ _ _
      · exact (sameQueue_window _ _ _).trans (ih _ _ _)

theorem counters_linkBatch (tasks : List SubmitTask) (q : QueueState) :
    counters (linkBatch tasks q) = counters q := by
  unfold linkBatch
  split
  · exact counters_setNext _ _
  · rfl

theorem counters_updateOneTask (i : ℕ) (q : QueueState) : counters (updateOneTask i q) = counters q := by
  unfold updateOneTask
  split <;> rfl

theorem counters_addTasks (h : ∀ t ∈ tasks, CountsActions t) (q : QueueState) :
    counters (tasks.foldl (addTask env) q) = (q.syncptId,
      q.syncptMaxval + BitVec.ofNat 32 ((batchActions tasks).countP isSyncpt),
      q.currSemaValue + BitVec.ofNat 32 ((batchActions tasks).countP isSem)) := by
  induction tasks generalizing q with
  | nil => simp [batchActions, counters]
  | cons t tasks ih =>
    obtain ⟨⟨hfence, hsem⟩, hrest⟩ := List.forall_mem_cons.mp h
    rw [List.foldl_cons, ih hrest, batchActions_cons, List.countP_append, List.countP_append,
      BitVec.ofNat_add, BitVec.ofNat_add, ← hfence, ← hsem, ← BitVec.add_assoc, ← BitVec.add_assoc]
    rfl

theorem counters_removeTasks (h : ∀ t ∈ tasks, CountsActions t) (q : QueueState) :
    counters (tasks.foldl removeTask q) = (q.syncptId,
      q.syncptMaxval - BitVec.ofNat 32 ((batchActions tasks).countP isSyncpt),
      q.currSemaValue - BitVec.ofNat 32 ((batchActions tasks).countP isSem)) := by
  induction tasks generalizing q with
  | nil => simp [batchActions, counters]
  | cons t tasks ih =>
    obtain ⟨⟨hfence, hsem⟩, hrest⟩ := List.forall_mem_cons.mp h
    have hsub (a b c : U32) : a - (b + c) = a - b - c := by bv_omega
    rw [List.foldl_cons, ih hrest, batchActions_cons, List.countP_append, List.countP_append,
      BitVec.ofNat_add, BitVec.ofNat_add, ← hfence, ← hsem, hsub, hsub]
    rfl

/-- **The counters after a batch**: its actions are counted when it was sent, and else not. -/
theorem counters_taskSubmit (env : SubmitEnv) (send : Send) (h : ∀ t ∈ tasks, CountsActions t) (q : QueueState) :
    ((pvaTaskSubmit env send tasks q).1 = 0 → counters (pvaTaskSubmit env send tasks q).2 =
      (q.syncptId, q.syncptMaxval + BitVec.ofNat 32 ((batchActions tasks).countP isSyncpt),
        q.currSemaValue + BitVec.ofNat 32 ((batchActions tasks).countP isSem))) ∧
    ((pvaTaskSubmit env send tasks q).1 ≠ 0 → counters (pvaTaskSubmit env send tasks q).2 = counters q) := by
  have hadded : counters (send.completed.foldl (fun q i => updateOneTask i q)
      (tasks.foldl (addTask env) q)) = _ :=
    (foldl_keeps counters _ (fun q i => counters_updateOneTask i q) _ _).trans (counters_addTasks h q)
  unfold pvaTaskSubmit
  dsimp only
  generalize send.completed.foldl (fun q i => updateOneTask i q) (tasks.foldl (addTask env) q) = q1
    at hadded
  split
  case isTrue => exact ⟨fun _ => hadded, fun hne => absurd rfl hne⟩
  case isFalse hcode =>
    refine ⟨fun hzero => absurd hzero hcode, fun _ => ?_⟩
    obtain ⟨hid, hvalues⟩ := Prod.mk.inj hadded
    obtain ⟨hmax, hsema⟩ := Prod.mk.inj hvalues
    rw [counters_removeTasks h, hid, hmax, hsema, BitVec.add_sub_cancel, BitVec.add_sub_cancel]
    rfl

variable {first : SubmitTask} {rest : List SubmitTask}

/-- **A batch after it was written**: it is sent with the counters as they were. -/
theorem sendBatch_spec (env : SubmitEnv) (send : Send) (q : QueueState)
    (h : WrittenBatch id thresh semThresh tasks tasks') : ((sendBatch env send tasks' q).1 = 0 →
      WrittenBatch id thresh semThresh tasks (sendBatch env send tasks' q).2.1 ∧
      counters (sendBatch env send tasks' q).2.2 = (q.syncptId, q.syncptMaxval + BitVec.ofNat 32
          ((batchActions (sendBatch env send tasks' q).2.1).countP isSyncpt), q.currSemaValue + BitVec.ofNat 32
          ((batchActions (sendBatch env send tasks' q).2.1).countP isSem))) ∧ ((sendBatch env send tasks' q).1 ≠ 0 →
      counters (sendBatch env send tasks' q).2.2 = counters q) := by
  have hwritten := setTaskParameters_written env h q
  have hparams := (sameQueue_setTaskParameters env tasks' q).counters
  unfold sendBatch
  dsimp only
  generalize setTaskParameters env tasks' q = r at hwritten hparams ⊢
  obtain ⟨tasks1, q1⟩ := r
  have hlinked : counters (linkBatch tasks1
      (if env.version ≠ pvaHwGen1 then updateBatchTasks tasks1 q1 else q1)) = counters q := by
    rw [counters_linkBatch, ← hparams]
    split
    · exact (sameQueue_l2sramWindows _ _ _ _).counters
    · rfl
  generalize linkBatch tasks1
    (if env.version ≠ pvaHwGen1 then updateBatchTasks tasks1 q1 else q1) = q2 at hlinked ⊢
  have hsubmit := counters_taskSubmit env send hwritten.counts q2
  obtain ⟨hid, hvalues⟩ := Prod.mk.inj hlinked
  obtain ⟨hmax, hsema⟩ := Prod.mk.inj hvalues
  rw [hid, hmax, hsema] at hsubmit
  split
  case h_1 hrun =>
    rw [hrun] at hsubmit
    exact ⟨fun _ => ⟨hwritten, hsubmit.1 rfl⟩, fun hne => absurd rfl hne⟩
  case h_2 hne hrun =>
    rw [hrun] at hsubmit
    exact ⟨fun hzero => absurd hzero hne, fun _ => (hsubmit.2 hne).trans hlinked⟩

/-- **A batch that was submitted.** -/
theorem queueSubmit_ok {send : Send} (h : pvaQueueSubmit env send first rest q = (0, tasks', q')) :
    WrittenBatch q.syncptId q.syncptMaxval q.currSemaValue (first :: rest) tasks' ∧ counters q' = (q.syncptId,
        q.syncptMaxval + BitVec.ofNat 32 ((batchActions tasks').countP isSyncpt),
        q.currSemaValue + BitVec.ofNat 32 ((batchActions tasks').countP isSem)) := by
  unfold pvaQueueSubmit at h
  split at h
  case h_1 tasks1 q1 hwrite =>
    have hcounters :=
      counters_writeTasks env q.syncptMaxval q.currSemaValue none (first :: rest) q
    rw [hwrite] at hcounters
    obtain ⟨hid, hvalues⟩ := Prod.mk.inj hcounters
    obtain ⟨hmax, hsema⟩ := Prod.mk.inj hvalues
    have hsend := (sendBatch_spec env send q1 (writeTasks_ok hwrite)).1
    rw [h, hid, hmax, hsema] at hsend
    exact hsend rfl
  case h_2 hne _ =>
    obtain ⟨hcode, -⟩ := Prod.mk.inj h
    exact absurd hcode hne

/-- **A batch that was not**: the counters are as before. -/
theorem queueSubmit_error {send : Send} {err : ℤ} (herr : err ≠ 0)
    (h : pvaQueueSubmit env send first rest q = (err, tasks', q')) : counters q' = counters q := by
  have hwritten :=
    counters_writeTasks env q.syncptMaxval q.currSemaValue none (first :: rest) q
  unfold pvaQueueSubmit at h
  split at h
  case h_1 tasks1 q1 hwrite =>
    rw [hwrite] at hwritten
    have hsend := (sendBatch_spec env send q1 (writeTasks_ok hwrite)).2
    rw [h] at hsend
    exact (hsend herr).trans hwritten
  case h_2 hwrite =>
    rw [hwrite] at hwritten
    obtain ⟨-, h⟩ := Prod.mk.inj h
    rw [← (Prod.mk.inj h).2]
    exact hwritten

end

def quietSubmit : SubmitEnv := ⟨fun _ => quietEnv, pvaHwGen1, false, 0, 0⟩

end NvidiaOot.Analysis
