import NvidiaOot.Model.Host1x

/-!
# No threshold interrupt of a syncpoint is lost

The comparisons of the driver are exact within `2 ^ 31` of each other, so as long as the
thresholds and values that meet are that near, the list is sorted by the counts at which
its fences are due, the hardware waits for the first of them, and a fence that is due has
an interrupt on its way.
-/

namespace NvidiaOot.Analysis

open Library Program Model

/-! ## The comparisons -/

theorem host1xSyncptIsExpired_iff (value threshold : U32) :
    host1xSyncptIsExpired value threshold = true ↔ reached value threshold := by
  have hbit : (0x80000000 : U32) = BitVec.twoPow 32 31 := by decide
  have hne : BitVec.twoPow 32 31 ≠ 0 := by decide
  rw [host1xSyncptIsExpired, beq_iff_eq, hbit, BitVec.and_twoPow, reached, BitVec.msb_eq_getLsbD_last]
  cases (value - threshold).getLsbD 31 <;> simp

theorem due_le_of_expired {count due : ℕ} (hnear : due < count + 2 ^ 31)
    (h : host1xSyncptIsExpired (word 31 count) (word 31 due) = true) : due ≤ count := by
  by_contra hlt
  exact not_reached_of_lt (not_le.mp hlt) hnear.le ((host1xSyncptIsExpired_iff _ _).mp h)

theorem expired_of_due_le {count due : ℕ} (hle : due ≤ count) (hnear : count < due + 2 ^ 31) :
    host1xSyncptIsExpired (word 31 count) (word 31 due) = true :=
  (host1xSyncptIsExpired_iff _ _).mpr (reached_of_le hle hnear)

/-! ## The registers -/

theorem host1xIntrUpdateHwState_cons (value : U32) (fence : SyncptFence)
    (list : List SyncptFence) (hw : ThreshIntr) : host1xIntrUpdateHwState value (fence :: list) hw =
      ⟨fence.threshold, true, hw.pending || host1xSyncptIsExpired value fence.threshold⟩ := by
  simp only [host1xIntrUpdateHwState, ThreshIntr.setSyncptThreshold,
    ThreshIntr.enableSyncptIntr, ThreshIntr.raise, Bool.true_and]
  cases hw.pending <;> cases hw.enabled <;> simp

/-! ## The list -/

/-- A list in the order of its counts, within half a turn and not further ahead. -/
structure FencesOrdered (count : ℕ) (fences : List SyncptFence) : Prop where
  shows : ∀ fence ∈ fences, fence.threshold = word 31 fence.due
  sorted : fences.Pairwise fun a b => a.due ≤ b.due
  span : ∀ a ∈ fences, ∀ b ∈ fences, b.due < a.due + 2 ^ 31
  ahead : ∀ fence ∈ fences, fence.due < count + 2 ^ 31

namespace FencesOrdered

variable {count : ℕ} {fences : List SyncptFence}

theorem sublist {rest : List SyncptFence} (h : FencesOrdered count fences)
    (hsub : rest.Sublist fences) : FencesOrdered count rest where
  shows := fun fence hf => h.shows fence (hsub.subset hf)
  sorted := h.sorted.sublist hsub
  span := fun a ha b hb => h.span a (hsub.subset ha) b (hsub.subset hb)
  ahead := fun fence hf => h.ahead fence (hsub.subset hf)

theorem later (h : FencesOrdered count fences) {count' : ℕ} (hle : count ≤ count') : FencesOrdered count' fences :=
  { h with ahead := fun fence hf => by have := h.ahead fence hf; omega }

theorem mem_add {fence other : SyncptFence} :
    other ∈ host1xIntrAddFenceToList fences fence ↔ other = fence ∨ other ∈ fences := by
  rw [host1xIntrAddFenceToList, List.mem_reverse, List.mem_orderedInsert, List.mem_reverse]

theorem add (h : FencesOrdered count fences) {fence : SyncptFence}
    (hshows : fence.threshold = word 31 fence.due) (hunexpired : count < fence.due)
    (hahead : fence.due < count + 2 ^ 31) (hnear : ∀ listed ∈ fences, fence.due < listed.due + 2 ^ 31) :
    FencesOrdered count (host1xIntrAddFenceToList fences fence) where
  shows := by
    intro other hmem
    rcases mem_add.mp hmem with rfl | hin
    · exact hshows
    · exact h.shows other hin
  sorted := by
    rw [host1xIntrAddFenceToList, List.pairwise_reverse]
    apply pairwise_orderedInsert SyncptFence.due
    · intro listed hmem
      have hin := List.mem_reverse.mp hmem
      have hlisted := h.ahead listed hin
      have hfence := hnear listed hin
      rw [h.shows listed hin, hshows]
      exact notAfter_word_iff (by omega) hfence.le
    · exact List.pairwise_reverse.mpr h.sorted
  span := by
    intro a ha b hb
    rcases mem_add.mp ha with rfl | hina <;> rcases mem_add.mp hb with rfl | hinb
    · omega
    · have := h.ahead b hinb
      omega
    · exact hnear a hina
    · exact h.span a hina b hinb
  ahead := by
    intro other hmem
    rcases mem_add.mp hmem with rfl | hin
    · exact hahead
    · exact h.ahead other hin

/-- The handler leaves the fences that are due later than the count it has read. -/
theorem lt_due_of_unexpired (h : FencesOrdered count fences) {read : ℕ}
    (hnear : ∀ listed ∈ fences, listed.due < read + 2 ^ 31 ∧ read < listed.due + 2 ^ 31) :
    ∀ fence ∈ unexpiredFences (word 31 read) fences, read < fence.due := by
  apply lt_key_of_mem_dropWhile SyncptFence.due _ h.sorted
  intro listed hmem
  obtain ⟨hahead, hpast⟩ := hnear listed hmem
  rw [h.shows listed hmem]
  constructor
  · exact due_le_of_expired hahead
  · intro hle
    exact expired_of_due_le hle hpast

end FencesOrdered

/-! ## The invariant -/

/-- The invariant of a syncpoint and its interrupt. -/
structure IntrInv (s : SyncptState) : Prop where
  ordered : FencesOrdered s.count s.fences
  programmed : s.HeadProgrammed
  enabled : s.handler = .idle → s.fences ≠ [] → s.hw.enabled = true
  latched : s.handler = .idle → ∀ fence ∈ s.fences, fence.due ≤ s.count → s.hw.pending = true
  read : ∀ count, s.handler = .loaded count → count ≤ s.count

theorem intrInv_start : IntrInv syncptStart where
  ordered := ⟨by simp [syncptStart], by simp [syncptStart], by simp [syncptStart],
    by simp [syncptStart]⟩
  programmed := by simp [SyncptState.HeadProgrammed, syncptStart]
  enabled := by simp [syncptStart]
  latched := by simp [syncptStart]
  read := by simp [syncptStart]

variable {s s' : SyncptState}

/-- After a change of the list the registers follow its head; what is left to show is that
a head which is due has its interrupt latched. -/
theorem intrInv_updateList {fences : List SyncptFence} (handler : IntrHandler)
    (hordered : FencesOrdered s.count fences)
    (hlatched : handler = .idle → ∀ fence ∈ fences.head?, fence.due ≤ s.count →
      s.hw.pending = true ∨ host1xSyncptIsExpired s.value fence.threshold = true)
    (hread : ∀ count, handler = .loaded count → count ≤ s.count) :
    IntrInv { s.updateList fences with handler := handler } where
  ordered := hordered
  programmed := by
    cases fences with
    | nil => simp [SyncptState.HeadProgrammed, SyncptState.updateList]
    | cons fence rest =>
      simp [SyncptState.HeadProgrammed, SyncptState.updateList, host1xIntrUpdateHwState_cons]
  enabled := by
    intro _ hne
    cases fences with
    | nil => exact absurd rfl hne
    | cons fence rest => simp only [SyncptState.updateList, host1xIntrUpdateHwState_cons]
  latched := by
    intro hidle other hmem hdue
    cases fences with
    | nil => cases hmem
    | cons fence rest =>
      have hfirst : fence.due ≤ other.due := by
        rcases List.mem_cons.mp hmem with rfl | hrest
        · exact le_refl _
        · exact (List.pairwise_cons.mp hordered.sorted).1 other hrest
      have hhead := hlatched hidle fence rfl (hfirst.trans hdue)
      simp only [SyncptState.updateList, host1xIntrUpdateHwState_cons, Bool.or_eq_true]
      exact hhead
  read := hread

namespace IntrInv

/-- The hardware raises the interrupt at the increment that reaches the first threshold. -/
theorem incr (h : IntrInv s) : IntrInv s.incr where
  ordered := h.ordered.later (Nat.le_succ _)
  programmed := h.programmed
  enabled := h.enabled
  latched := by
    intro hidle fence hmem hdue
    show (s.hw.pending || (s.hw.enabled && _)) = true
    rcases Nat.le_or_eq_of_le_succ hdue with hold | hnow
    · rw [h.latched hidle fence hmem hold, Bool.true_or]
    cases hlist : s.fences with
    | nil => simp [hlist, SyncptState.incr] at hmem
    | cons head rest =>
      have hin : head ∈ s.fences := by simp [hlist]
      have hle : head.due ≤ fence.due := by
        have hsorted := h.ordered.sorted
        have hmem' : fence ∈ head :: rest := hlist ▸ hmem
        rw [hlist] at hsorted
        rcases List.mem_cons.mp hmem' with rfl | hrest
        · exact le_refl _
        · exact (List.pairwise_cons.mp hsorted).1 fence hrest
      rcases Nat.le_or_eq_of_le_succ (hle.trans hdue) with hold | hhead
      · rw [h.latched hidle head hin hold, Bool.true_or]
      have hthresh : s.hw.threshold = word 31 (s.count + 1) := by
        rw [h.programmed head (by simp [hlist]), h.ordered.shows head hin, hhead]
      have henabled := h.enabled hidle (by simp [hlist])
      rw [henabled, hthresh, expired_of_due_le (le_refl _) (by omega)]
      simp
  read := fun count hload => (h.read count hload).trans (Nat.le_succ _)

theorem arm_shows (s : SyncptState) (fence : ℕ) (threshold : U32) :
    (s.arm fence threshold).threshold = word 31 (s.arm fence threshold).due := by
  show threshold = word 31 (s.count + (threshold - s.value).toNat)
  rw [word, BitVec.ofNat_add, BitVec.ofNat_toNat, BitVec.setWidth_eq]
  show threshold = s.value + (threshold - s.value)
  rw [BitVec.add_comm, BitVec.sub_add_cancel]

section

variable (h : IntrInv s)

include h

theorem enableSignaling {fence : ℕ} {threshold : U32}
    (hahead : s.Ahead (.enableSignaling fence threshold)) (hnear : s.Near (.enableSignaling fence threshold)) :
    IntrInv (s.enableSignaling fence threshold) := by
  unfold SyncptState.enableSignaling
  split
  · exact h
  have hdue : (s.arm fence threshold).due = s.count + (threshold - s.value).toNat := rfl
  obtain ⟨hpos, hlt⟩ := hahead
  apply intrInv_updateList s.handler
  · exact h.ordered.add (arm_shows s fence threshold) (by omega) (by omega) hnear
  · intro hidle head hhead hle
    -- the new fence is not due, so the head was in the list before
    rcases FencesOrdered.mem_add.mp (List.mem_of_mem_head? hhead) with rfl | hin
    · omega
    · exact Or.inl (h.latched hidle head hin hle)
  · exact h.read

theorem removeFence (fence : ℕ) : IntrInv (s.removeFence fence) := by
  unfold SyncptState.removeFence
  split
  · have hsub := List.eraseP_sublist (p := (·.fence == fence)) (l := s.fences)
    apply intrInv_updateList s.handler
    · exact h.ordered.sublist hsub
    · intro hidle head hhead hle
      exact Or.inl (h.latched hidle head (hsub.subset (List.mem_of_mem_head? hhead)) hle)
    · exact h.read
  · exact h

theorem near_read {count : ℕ} (hload : s.handler = .loaded count) (hnear : s.Near .handlerList) :
    ∀ listed ∈ s.fences, (listed.due < count + 2 ^ 31 ∧ count < listed.due + 2 ^ 31) ∧
      s.count < listed.due + 2 ^ 31 := by
  intro listed hmem
  simp only [SyncptState.Near, hload] at hnear
  obtain ⟨hahead, hpast⟩ := hnear listed hmem
  exact ⟨⟨hahead, (h.read count hload).trans_lt hpast⟩, hpast⟩

theorem handlerList {count : ℕ} (hload : s.handler = .loaded count) (hnear : s.Near .handlerList) :
    IntrInv { s.updateList (unexpiredFences (word 31 count) s.fences) with handler := .idle } := by
  have hsub : (unexpiredFences (word 31 count) s.fences).Sublist s.fences :=
    List.dropWhile_sublist _
  apply intrInv_updateList .idle
  · exact h.ordered.sublist hsub
  · intro _ head hhead hle
    have hin := hsub.subset (List.mem_of_mem_head? hhead)
    rw [h.ordered.shows head hin]
    exact Or.inr (expired_of_due_le hle (h.near_read hload hnear head hin).2)
  · simp

theorem noneExpiredAt {count : ℕ} (hload : s.handler = .loaded count)
    (hnear : s.Near .handlerList) (hstep : syncptStep s .handlerList = some s') : s'.NoneExpiredAt count := by
  simp only [syncptStep, hload, Option.some.injEq] at hstep
  subst hstep
  intro fence hmem
  have hfence : fence ∈ unexpiredFences (word 31 count) s.fences := hmem
  have hin := (List.dropWhile_sublist _).subset hfence
  have hnear' := h.near_read hload hnear
  have hlt := h.ordered.lt_due_of_unexpired (fun f hf => (hnear' f hf).1) fence hfence
  refine ⟨hlt, ?_⟩
  rw [← Bool.not_eq_true, h.ordered.shows fence hin]
  intro hexpired
  exact absurd (due_le_of_expired (hnear' fence hin).1.1 hexpired) (not_le.mpr hlt)

theorem step {op : SyncptOp} (hcare : s.Ahead op ∧ s.Near op)
    (hstep : syncptStep s op = some s') : IntrInv s' := by
  cases op with
  | incr =>
    cases hstep
    exact h.incr
  | load =>
    cases hstep
    exact { h with }
  | enableSignaling fence threshold =>
    simp only [syncptStep, Option.ite_none_left_eq_some, Option.some.injEq] at hstep
    exact hstep.2 ▸ h.enableSignaling hcare.1 hcare.2
  | removeFence fence =>
    cases hstep
    exact h.removeFence fence
  | isrStatus | isrDisable | isrClear =>
    -- from here to the end of the walk nothing is asked of the registers but the threshold
    simp only [syncptStep, Option.ite_none_right_eq_some, Option.some.injEq] at hstep
    obtain ⟨-, rfl⟩ := hstep
    exact { h with enabled := by simp, latched := by simp, read := by simp }
  | handlerLoad =>
    simp only [syncptStep, Option.ite_none_right_eq_some, Option.some.injEq] at hstep
    obtain ⟨-, rfl⟩ := hstep
    exact { h with
      enabled := by simp
      latched := by simp
      read := fun count hload => (IntrHandler.loaded.inj hload).ge }
  | handlerList =>
    cases hload : s.handler with
    | loaded count =>
      simp only [syncptStep, hload, Option.some.injEq] at hstep
      exact hstep ▸ h.handlerList hload hcare.2
    | idle | seen | disabled | cleared => simp [syncptStep, hload] at hstep

/-! ## What the invariant gives -/

theorem wrapSorted : s.Sorted := by
  apply List.Pairwise.imp_of_mem _ h.ordered.sorted
  intro a b ha hb hle
  rw [h.ordered.shows a ha, h.ordered.shows b hb]
  have hspan := h.ordered.span a ha b hb
  exact (notAfter_word_iff (by omega) hspan.le).mpr hle

theorem noneLost : s.NoneLost := by
  intro fence hmem hdue
  by_cases hidle : s.handler = .idle
  · left
    apply h.latched hidle fence hmem
    rcases hdue with hle | hexpired
    · exact hle
    · rw [h.ordered.shows fence hmem] at hexpired
      exact due_le_of_expired (h.ordered.ahead fence hmem) hexpired
  · exact Or.inr hidle

end

end IntrInv

/-! ## The runs -/

/-- **No fence interrupt is lost** in a run whose thresholds and values are near enough to
each other: the fences are in order, the hardware waits for the first one, a fence whose
threshold is reached has its interrupt on the way, and a walk of the handler leaves no fence
that had expired at the value it read. -/
theorem syncpt_interrupts_kept {ops : List SyncptOp} {s : SyncptState}
    (hrun : run syncptStep syncptStart ops = some s)
    (hcare : AllSteps syncptStep (fun s op => s.Ahead op ∧ s.Near op) syncptStart ops) :
    s.Sorted ∧ s.HeadProgrammed ∧ s.NoneLost ∧ ∀ count s', s.handler = .loaded count → s.Near .handlerList →
        syncptStep s .handlerList = some s' → s'.NoneExpiredAt count := by
  have hinv : IntrInv s :=
    run_invariant_of_allSteps (I := IntrInv) (fun _ _ _ h hop hstep => h.step hop hstep)
      intrInv_start hcare hrun
  refine ⟨hinv.wrapSorted, hinv.programmed, hinv.noneLost, ?_⟩
  intro count s' hload hnear hstep
  exact hinv.noneExpiredAt hload hnear hstep

/-- Three fences around the wrap of a half turn, of which one is removed and two are
signalled. -/
def nearRun : List SyncptOp :=
  [.enableSignaling 1 0x7fffffff, .enableSignaling 2 1, .enableSignaling 3 2, .incr,
    .isrStatus, .isrDisable, .isrClear, .removeFence 3, .incr, .enableSignaling 4 0x80000000, .handlerLoad]

theorem syncpt_interrupts_kept_near : ∃ s, run syncptStep syncptStart nearRun = some s ∧
      (s.Sorted ∧ s.HeadProgrammed ∧ s.NoneLost ∧ ∀ count s', s.handler = .loaded count → s.Near .handlerList →
          syncptStep s .handlerList = some s' → s'.NoneExpiredAt count) := by
  exact exists_of_map (fun _ => ()) () (by decide +kernel)
    fun s hs _ => syncpt_interrupts_kept hs (by decide +kernel)

/-! ## Where the comparisons fail -/

theorem run_incr_of_pending {s : SyncptState} (h : s.hw.pending = true) (n : ℕ) :
    run syncptStep s (List.replicate n .incr) = some { s with count := s.count + n } := by
  have hlatch : ∀ k, s.hw.raise (word 31 k) = s.hw := by
    intro k
    rw [ThreshIntr.raise, h, Bool.true_or, ← h]
  induction n generalizing s with
  | zero => rfl
  | succ n ih =>
    rw [List.replicate_succ, run]
    show run syncptStep s.incr (List.replicate n .incr) = _
    have hincr : s.incr = { s with count := s.count + 1 } := by
      rw [SyncptState.incr, hlatch]
    rw [hincr, ih (s := { s with count := s.count + 1 }) h hlatch]
    simp [Nat.add_assoc, Nat.add_comm 1 n]

/-- Fence 1 is reached; before its interrupt is served, fence 2 is enabled half a turn after
it and goes to the front. -/
def farEnableRun : List SyncptOp :=
  [.enableSignaling 1 1, .incr, .incr, .incr, .load, .enableSignaling 2 0x80000002,
    .isrStatus, .isrDisable, .isrClear, .handlerLoad, .handlerList]

/-- The handler has read the value 1; before its walk, fence 1 is removed and fence 3 is
enabled more than half a turn after that value. -/
def staleReadRun : List SyncptOp :=
  [.enableSignaling 1 1, .enableSignaling 2 4, .incr, .isrStatus, .isrDisable, .isrClear,
    .handlerLoad, .removeFence 1, .incr, .incr, .load, .enableSignaling 3 0x80000002]

/-- Fences 1 and 2 while the interrupt of the first one is latched. -/
def latchedRun : List SyncptOp := [.enableSignaling 1 1, .enableSignaling 2 2, .incr]

def serveRun : List SyncptOp := [.isrStatus, .isrDisable, .isrClear, .handlerLoad]

/-- The state in which the handler is about to walk the list, half a turn after the first
fence was reached. -/
def overrunState : SyncptState :=
  ⟨1 + 2 ^ 31, 0x80000001, [⟨1, 1, 1⟩, ⟨2, 2, 2⟩], ⟨1, false, false⟩, .loaded (1 + 2 ^ 31)⟩

theorem run_overrun : run syncptStep syncptStart (latchedRun ++ (List.replicate (2 ^ 31) .incr ++ serveRun)) =
      some overrunState := by
  have hlatched : run syncptStep syncptStart latchedRun =
      some ⟨1, 0, [⟨1, 1, 1⟩, ⟨2, 2, 2⟩], ⟨1, true, true⟩, .idle⟩ := by decide +kernel
  rw [run_append, hlatched, Option.bind_some, run_append, run_incr_of_pending rfl, Option.bind_some]
  decide +kernel

theorem allSteps_overrun : AllSteps syncptStep (fun s op => s.Ahead op ∧ s.Near op) syncptStart
      (latchedRun ++ (List.replicate (2 ^ 31) .incr ++ serveRun)) := by
  have hlatched : ∃ s, run syncptStep syncptStart latchedRun = some s :=
    Option.isSome_iff_exists.mp (by decide +kernel)
  obtain ⟨s, hs⟩ := hlatched
  refine AllSteps.append (by decide +kernel) hs (allSteps_of_forall_mem ?_ s)
  intro op hmem t
  rcases List.mem_append.mp hmem with hincr | hserve
  · rw [(List.mem_replicate.mp hincr).2]
    exact ⟨trivial, trivial⟩
  · simp only [serveRun, List.mem_cons, List.not_mem_nil, or_false] at hserve
    rcases hserve with rfl | rfl | rfl | rfl <;> exact ⟨trivial, trivial⟩

/-- Each of the three conditions is needed: without the first a fence that is reached stays
without an interrupt, and without either of the others the handler's walk leaves a fence that
had expired at the value it read. -/
theorem syncpt_interrupts_lost_far : (∃ ops s, run syncptStep syncptStart ops = some s ∧
      AllSteps syncptStep SyncptState.Ahead syncptStart ops ∧ ¬ s.NoneLost) ∧
    (∃ ops s s' count, run syncptStep syncptStart ops = some s ∧
      AllSteps syncptStep (fun s op => s.Ahead op ∧ s.Near op) syncptStart ops ∧
      s.handler = .loaded count ∧ (∀ listed ∈ s.fences, s.count < listed.due + 2 ^ 31) ∧
      syncptStep s .handlerList = some s' ∧ ¬ s'.NoneExpiredAt count) ∧
    ∃ ops s s' count, run syncptStep syncptStart ops = some s ∧
      AllSteps syncptStep (fun s op => s.Ahead op ∧ s.Near op) syncptStart ops ∧
      s.handler = .loaded count ∧ (∀ listed ∈ s.fences, listed.due < count + 2 ^ 31) ∧
      syncptStep s .handlerList = some s' ∧ ¬ s'.NoneExpiredAt count := by
  refine ⟨⟨farEnableRun, ?_⟩, ⟨staleReadRun, ?_⟩,
    ⟨latchedRun ++ (List.replicate (2 ^ 31) .incr ++ serveRun), overrunState, ?_⟩⟩
  · exact ⟨_, by rfl, by decide +kernel, by decide +kernel⟩
  · exact ⟨_, _, _, by rfl, by decide +kernel, by rfl, by decide +kernel, by rfl,
      by decide +kernel⟩
  · exact ⟨_, _, run_overrun, allSteps_overrun, rfl, by decide +kernel, rfl, by decide +kernel⟩

end NvidiaOot.Analysis
