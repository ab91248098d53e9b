import NvidiaOot.Library.Positions
import NvidiaOot.Analysis.Host1xCdma

/-!
# Which job a recovery hits

The recovery does to the channel what it should for the job that it takes for the stuck
one; that is the right one exactly when the plain comparison with the value of one syncpoint
agrees with the wrap-around comparisons of the jobs' own.
-/

namespace NvidiaOot.Analysis

open Library Program Model

/-! ## The parts of a recovery -/

theorem updateQueue_jobs {α : Type} (value : ℕ → U32) (jobs : List CdmaJob) (cdma : Cdma α) :
    (updateQueue value jobs cdma).2 ++ (updateQueue value jobs cdma).1.syncQueue = jobs := by
  induction jobs generalizing cdma with
  | nil => rfl
  | cons job rest ih =>
    unfold updateQueue
    split
    · dsimp only
      split_ifs with htimeout
      · unfold cdmaStartTimerLocked
        split <;> rfl
      · rfl
    · exact congrArg (job :: ·) (ih (retireJob job cdma))

theorem updateCdmaLocked_jobs {α : Type} (value : ℕ → U32) (cdma : Cdma α) :
    (updateCdmaLocked value cdma).2 ++ (updateCdmaLocked value cdma).1.syncQueue = cdma.syncQueue := by
  have h := updateQueue_jobs value cdma.syncQueue cdma
  unfold updateCdmaLocked
  dsimp only
  split <;> exact h

/-- An update gives slots back and starts or stops the timer; the rest stays. -/
theorem updateQueue_frame {α : Type} (value : ℕ → U32) (jobs : List CdmaJob) (cdma : Cdma α) :
    (updateQueue value jobs cdma).1.pushBuffer.mapped = cdma.pushBuffer.mapped ∧
      (updateQueue value jobs cdma).1.lastPos = cdma.lastPos := by
  induction jobs generalizing cdma with
  | nil => exact ⟨rfl, rfl⟩
  | cons job rest ih =>
    unfold updateQueue
    split
    · dsimp only
      by_cases htimeout : job.timeout ≠ 0
      · rw [if_pos htimeout]
        unfold cdmaStartTimerLocked
        split <;> exact ⟨rfl, rfl⟩
      · rw [if_neg htimeout]
        exact ⟨rfl, rfl⟩
    dsimp only
    rw [(ih (retireJob job cdma)).1, (ih (retireJob job cdma)).2]
    unfold retireJob
    split <;> split <;> exact ⟨rfl, rfl⟩

theorem updateCdmaLocked_frame {α : Type} (value : ℕ → U32) (cdma : Cdma α) :
    (updateCdmaLocked value cdma).1.pushBuffer.mapped = cdma.pushBuffer.mapped ∧
      (updateCdmaLocked value cdma).1.lastPos = cdma.lastPos := by
  have h := updateQueue_frame value cdma.syncQueue cdma
  unfold updateCdmaLocked
  dsimp only
  split <;> exact h

theorem cdmaResume_syncQueue (cdma : Cdma SlotWords) : (cdmaResume cdma).syncQueue = cdma.syncQueue := by
  unfold cdmaResume
  split <;> rfl

theorem cdmaResume_pushBuffer (cdma : Cdma SlotWords) : (cdmaResume cdma).pushBuffer = cdma.pushBuffer := by
  unfold cdmaResume
  split <;> rfl

theorem mem_jobSlots {job : CdmaJob} {slot : ℕ} :
    slot ∈ jobSlots job ↔ ∃ i < job.numSlots.toNat, jobSlot job i = slot := mem_ringSlots

theorem overwriteSlots_of_notMem {hasWideGather : Bool} {job : CdmaJob} {slot : ℕ}
    (h : slot ∉ jobSlots job) (mapped : ℕ → SlotWords) :
    overwriteSlots hasWideGather job mapped slot = mapped slot := by
  have hfold : ∀ (l : List ℕ) (m : ℕ → SlotWords), (∀ i ∈ l, i < job.numSlots.toNat) →
      l.foldl (fun mapped i slot =>
        if slot = jobSlot job i then cancelledWords hasWideGather job i else mapped slot) m slot =
      m slot := by
    intro l
    induction l with
    | nil => intros; rfl
    | cons i l ih =>
      intro m hl
      rw [List.foldl_cons, ih _ fun j hj => hl j (List.mem_cons_of_mem i hj)]
      have hne : slot ≠ jobSlot job i := by
        rintro rfl
        exact h (mem_jobSlots.mpr ⟨i, hl i List.mem_cons_self, rfl⟩)
      rw [if_neg hne]
  exact hfold _ _ fun i hi => List.mem_range.mp hi

theorem cancelLater_jobs (hasWideGather : Bool) (failed : CdmaJob) (rest : List CdmaJob) (mapped : ℕ → SlotWords) :
    (cancelLater hasWideGather failed rest mapped).1 = rest.map fun job =>
      { job with cancelled := job.cancelled || decide (job.syncpt = failed.syncpt) } := by
  induction rest generalizing mapped with
  | nil => rfl
  | cons job rest ih =>
    unfold cancelLater
    split
    · next hne => simp [ih, hne]
    · next heq => simp [ih, not_not.mp heq]

theorem cancelLater_mapped {hasWideGather : Bool} {failed : CdmaJob} {rest : List CdmaJob}
    {mapped : ℕ → SlotWords} {slot : ℕ} (h : (cancelLater hasWideGather failed rest mapped).2 slot ≠ mapped slot) :
    ∃ job ∈ rest, job.syncpt = failed.syncpt ∧ slot ∈ jobSlots job := by
  induction rest generalizing mapped with
  | nil => exact absurd rfl h
  | cons job rest ih =>
    unfold cancelLater at h
    split at h
    · obtain ⟨later, hmem, hsp, hslot⟩ := ih h
      exact ⟨later, List.mem_cons_of_mem job hmem, hsp, hslot⟩
    next heq =>
    by_cases hslot : slot ∈ jobSlots job
    · exact ⟨job, List.mem_cons_self, not_not.mp heq, hslot⟩
    · rw [← overwriteSlots_of_notMem hslot mapped] at h
      obtain ⟨later, hmem, hsp, hlater⟩ := ih h
      exact ⟨later, List.mem_cons_of_mem job hmem, hsp, hlater⟩

/-! ## A recovery for the job that it takes for the stuck one -/

section

variable {queue before rest : List CdmaJob} {job : CdmaJob}

theorem laterOnSyncpt_iff (hqueue : queue = before ++ job :: rest) {k : ℕ} {other : CdmaJob} :
    LaterOnSyncpt queue (some before.length) k other ↔ before.length < k ∧ other.syncpt = job.syncpt := by
  have hget : queue[before.length]? = some job := by
    rw [hqueue]
    exact getElem?_append_cons_iff.mpr (Or.inr (Or.inl ⟨rfl, rfl⟩))
  constructor
  · rintro ⟨i, failed, hi, hfailed, hlt, hsp⟩
    cases hi
    rw [hget] at hfailed
    cases hfailed
    exact ⟨hlt, hsp⟩
  · rintro ⟨hlt, hsp⟩
    exact ⟨_, job, rfl, hget, hlt, hsp⟩

theorem cancelled_jobs (hqueue : queue = before ++ job :: rest) {k : ℕ} {other : CdmaJob}
    (hk : queue[k]? = some other) : ∃ cancelled, (before ++ { job with cancelled := true } :: rest.map fun later =>
        { later with
          cancelled := later.cancelled || decide (later.syncpt = job.syncpt) })[k]? =
        some { other with cancelled := cancelled } ∧
      (cancelled = true ↔ other.cancelled = true ∨ some before.length = some k ∨
        LaterOnSyncpt queue (some before.length) k other) := by
  rw [laterOnSyncpt_iff hqueue, Option.some.injEq]
  rw [hqueue] at hk
  rcases getElem?_append_cons_iff.mp hk with ⟨hlt, hget⟩ | ⟨rfl, rfl⟩ | ⟨m, rfl, hget⟩
  · refine ⟨other.cancelled, getElem?_append_cons_iff.mpr (Or.inl ⟨hlt, hget⟩), ?_⟩
    constructor
    · exact Or.inl
    · rintro (h | h | h)
      · exact h
      · omega
      · omega
  · exact ⟨true, getElem?_append_cons_iff.mpr (Or.inr (Or.inl ⟨rfl, rfl⟩)), by simp⟩
  · refine ⟨other.cancelled || decide (other.syncpt = job.syncpt),
      getElem?_append_cons_iff.mpr (Or.inr (Or.inr ⟨m, rfl, ?_⟩)), ?_⟩
    · rw [List.getElem?_map, hget]
      rfl
    · rw [Bool.or_eq_true, decide_eq_true_eq]
      constructor
      · rintro (h | h)
        · exact Or.inl h
        · exact Or.inr (Or.inr ⟨by omega, h⟩)
      · rintro (h | h | h)
        · exact Or.inl h
        · omega
        · exact Or.inr h.2

theorem eq_of_mem_jobSlots (hdisjoint : queue.Pairwise fun a b => (jobSlots a).Disjoint (jobSlots b)) {k l slot : ℕ}
    {a b : CdmaJob} (ha : queue[k]? = some a) (hb : queue[l]? = some b)
    (hslota : slot ∈ jobSlots a) (hslotb : slot ∈ jobSlots b) : k = l := by
  obtain ⟨hklt, rfl⟩ := List.getElem?_eq_some_iff.mp ha
  obtain ⟨hllt, rfl⟩ := List.getElem?_eq_some_iff.mp hb
  have hpair := List.pairwise_iff_getElem.mp hdisjoint
  rcases lt_trichotomy k l with hlt | heq | hgt
  · exact absurd hslotb (hpair k l hklt hllt hlt hslota)
  · exact heq
  · exact absurd hslota (hpair l k hllt hklt hgt hslotb)

end

variable {hasWideGather : Bool} {value : ℕ → U32} {cdma : Cdma SlotWords}

/-- The recovery does what it should for the job that it takes for the stuck one. -/
theorem recoveredAt_stuck (hasWideGather : Bool) (value : ℕ → U32) {cdma : Cdma SlotWords}
    (hdisjoint : cdma.syncQueue.Pairwise fun a b => (jobSlots a).Disjoint (jobSlots b))
    (hplain : ∀ job ∈ cdma.syncQueue, job.syncptRecovery = false) :
    RecoveredAt (host1xCdmaUpdateSyncQueue hasWideGather value cdma).stuck cdma
      (host1xCdmaUpdateSyncQueue hasWideGather value cdma) := by
  unfold host1xCdmaUpdateSyncQueue
  dsimp only
  have hqueue := List.takeWhile_append_dropWhile (l := cdma.syncQueue)
    (p := fun job => !decide (value cdma.timeout.syncpt < job.syncptEnd))
  generalize cdma.syncQueue.takeWhile _ = before at hqueue ⊢
  generalize cdma.syncQueue.dropWhile _ = behind at hqueue ⊢
  cases behind with
  | nil =>
    have hnone : ∀ k job, ¬ LaterOnSyncpt cdma.syncQueue none k job := by
      rintro k job ⟨i, failed, hi, -⟩
      cases hi
    exact {
      stuck_eq := rfl
      jobs := by
        intro k job hk
        refine ⟨job.cancelled, ?_, ?_⟩
        · rw [List.nil_append, cdmaResume_syncQueue]
          exact hk
        · simp [hnone]
      overwritten := by
        intro slot hne
        rw [cdmaResume_pushBuffer] at hne
        exact absurd rfl hne
      kept := by
        intro k job _ _ slot _
        rw [cdmaResume_pushBuffer]
      restart := rfl }
  | cons job rest =>
    have hmem : job ∈ cdma.syncQueue := by
      rw [← hqueue]
      simp
    dsimp only
    rw [if_neg (Bool.eq_false_iff.mp (hplain job hmem))]
    have hover : ∀ slot, (cancelLater hasWideGather job rest cdma.pushBuffer.mapped).2 slot ≠
        cdma.pushBuffer.mapped slot → ∃ k other, cdma.syncQueue[k]? = some other ∧
          LaterOnSyncpt cdma.syncQueue (some before.length) k other ∧ slot ∈ jobSlots other := by
      intro slot hne
      obtain ⟨other, hother, hsp, hslot⟩ := cancelLater_mapped hne
      obtain ⟨m, hm⟩ := List.getElem?_of_mem hother
      refine ⟨before.length + 1 + m, other, ?_, ?_, hslot⟩
      · rw [← hqueue]
        exact getElem?_append_cons_iff.mpr (Or.inr (Or.inr ⟨m, rfl, hm⟩))
      · exact (laterOnSyncpt_iff hqueue.symm).mpr ⟨by omega, hsp⟩
    exact {
      stuck_eq := rfl
      jobs := by
        intro k other hk
        rw [cdmaResume_syncQueue, updateCdmaLocked_jobs, cancelLater_jobs]
        exact cancelled_jobs hqueue.symm hk
      overwritten := by
        intro slot hne
        rw [cdmaResume_pushBuffer, (updateCdmaLocked_frame _ _).1] at hne
        exact hover slot hne
      kept := by
        intro k other hk hnot slot hslot
        rw [cdmaResume_pushBuffer, (updateCdmaLocked_frame _ _).1]
        by_contra hne
        obtain ⟨l, later, hl, hlater, hslot'⟩ := hover slot hne
        obtain rfl := eq_of_mem_jobSlots hdisjoint hk hl hslot hslot'
        rw [hk] at hl
        exact hnot (Option.some.inj hl ▸ hlater)
      restart := by
        have hnext : cdma.syncQueue[before.length + 1]? = rest[0]? := by
          rw [← hqueue, List.getElem?_append_right (by omega)]
          simp
        show _ = (Option.map _ (cdma.syncQueue[before.length + 1]?)).getD _
        rw [hnext]
        cases rest <;> rfl }

theorem stuck_eq_findIdx? : (host1xCdmaUpdateSyncQueue hasWideGather value cdma).stuck =
      cdma.syncQueue.findIdx? fun job => decide (value cdma.timeout.syncpt < job.syncptEnd) := by
  rw [findIdx?_of_dropWhile]
  unfold host1xCdmaUpdateSyncQueue
  dsimp only
  cases cdma.syncQueue.dropWhile fun job => !decide (value cdma.timeout.syncpt < job.syncptEnd) with
  | nil => rfl
  | cons job rest =>
    dsimp only
    split <;> rfl

/-! ## The right job -/

/-- It is the first job that has not completed exactly when the comparison is right about the
jobs up to that one. -/
theorem stuck_eq_firstUnreached_iff (hasWideGather : Bool) (value : ℕ → U32) (cdma : Cdma SlotWords) :
    (host1xCdmaUpdateSyncQueue hasWideGather value cdma).stuck =
        firstUnreached value cdma.syncQueue ↔ ComparesRight value cdma := by
  rw [stuck_eq_findIdx?, firstUnreached, findIdx?_eq_iff, ComparesRight]
  simp only [decide_eq_decide, ← decide_not, decide_eq_false_iff_not, not_not]

/-- **The timeout hits the right job** exactly when the comparison is right about the jobs up
to the first one that has not completed. -/
theorem timeout_hits_right_job_iff {r : Recovery} (hfired : cdmaTimeoutHandler hasWideGather value cdma = some r)
    (hdisjoint : cdma.syncQueue.Pairwise fun a b => (jobSlots a).Disjoint (jobSlots b))
    (hplain : ∀ job ∈ cdma.syncQueue, job.syncptRecovery = false) :
    RecoveredAt (firstUnreached value cdma.syncQueue) cdma r ↔ ComparesRight value cdma := by
  unfold cdmaTimeoutHandler at hfired
  simp only [Option.ite_none_left_eq_some, Option.some.injEq] at hfired
  obtain ⟨-, -, rfl⟩ := hfired
  -- the freeze stops the channel before the queue is looked through
  have hstuck := stuck_eq_firstUnreached_iff hasWideGather value { cdma with running := false }
  have hdone : RecoveredAt _ { cdma with running := false } _ :=
    recoveredAt_stuck hasWideGather value hdisjoint hplain
  constructor
  · intro h
    exact hstuck.mp h.stuck_eq
  · intro h
    rw [hstuck.mpr h] at hdone
    exact { hdone with }

/-- A channel with two jobs of one slot each, on syncpoints 0 and 1, and the timer of the
first. -/
def twoJobsQueued (syncptEnd₀ syncptEnd₁ : U32) : Cdma SlotWords :=
  { host1xCdmaInit (fun _ => (0, 0)) with
    syncQueue :=
      [⟨0, syncptEnd₀, 1, 0, 10, false, false, 0, 1, [0]⟩, ⟨1, syncptEnd₁, 1, 0, 10, false, false, 8, 1, [1]⟩]
    timeout := ⟨true, 0, syncptEnd₀, some 0⟩
    running := true }

theorem twoJobsQueued_disjoint (syncptEnd₀ syncptEnd₁ : U32) :
    (twoJobsQueued syncptEnd₀ syncptEnd₁).syncQueue.Pairwise fun a b => (jobSlots a).Disjoint (jobSlots b) := by
  show List.Pairwise _ [_, _]
  simp [jobSlots, ringSlots, host1xPushbufferSlots]

theorem twoJobsQueued_plain (syncptEnd₀ syncptEnd₁ : U32) :
    ∀ job ∈ (twoJobsQueued syncptEnd₀ syncptEnd₁).syncQueue, job.syncptRecovery = false := by
  simp [twoJobsQueued]

theorem timeout_hits_right_job_iff_two : ∃ r, cdmaTimeoutHandler true (fun _ => 3) (twoJobsQueued 5 9) = some r ∧
      (RecoveredAt (firstUnreached (fun _ => 3) (twoJobsQueued 5 9).syncQueue) (twoJobsQueued 5 9) r ↔
        ComparesRight (fun _ => 3) (twoJobsQueued 5 9)) :=
  ⟨_, rfl, timeout_hits_right_job_iff rfl (twoJobsQueued_disjoint 5 9) (twoJobsQueued_plain 5 9)⟩

/-- The end of the first job lies beyond the wrap: the second one, on another syncpoint, is
taken for the stuck one. -/
theorem timeout_hits_wrong_job :
    ∃ r, cdmaTimeoutHandler true (fun _ => 0xfffffff0) (twoJobsQueued 0x10 0xffffffff) = some r ∧
      firstUnreached (fun _ => 0xfffffff0) (twoJobsQueued 0x10 0xffffffff).syncQueue = some 0 ∧
      r.stuck = some 1 ∧ r.locked = some 1 ∧
      ¬ RecoveredAt (firstUnreached (fun _ => 0xfffffff0) (twoJobsQueued 0x10 0xffffffff).syncQueue)
        (twoJobsQueued 0x10 0xffffffff) r := by
  refine ⟨_, rfl, by decide, by decide, by decide, ?_⟩
  intro h
  exact absurd h.stuck_eq (by decide)

end NvidiaOot.Analysis
