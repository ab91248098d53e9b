import NvidiaOot.Model.Host1x

/-!
# The references of a fence balance

Each reference belongs to exactly one place: the one of the interrupt path to the list, to
the handler or to the work that has removed the fence; the one of the timeout path to the
work that is pending, to the one that runs, or to the handler that has cancelled it.  A step
moves references between these places, takes them or drops them
(`intrRefs_step`, `timeoutRefs_step`, `kref_step`).
-/

namespace NvidiaOot.Analysis

open Library Program Model

/-! ## Who holds what -/

/-- The places that hold the reference of the interrupt path. -/
def intrRefs (s : FenceState) : ℕ :=
  (if s.node = .linked then 1 else 0) + (if s.intr = .idle then 0 else 1) +
    (if s.work = .removed then 1 else 0)

/-- The places that hold the reference of the timeout path. -/
def timeoutRefs (s : FenceState) : ℕ :=
  if s.timeout = true ∧ s.node ≠ .zeroed then
    (if s.workPending then 1 else 0) + (if s.work = .idle then 0 else 1) +
      (if s.intr = .cancelled then 1 else 0)
  else 0

def userRefs (s : FenceState) : ℕ := if s.user then 1 else 0

/-- The paths that have won the race and have yet to signal. -/
def toSignal (s : FenceState) : ℕ :=
  (if s.intr = .won ∨ s.intr = .cancelled ∨ s.intr = .signal then 1 else 0) +
    (if s.work = .won ∨ s.work = .removed ∨ s.work = .signal then 1 else 0)

structure FenceShape (s : FenceState) : Prop where
  enables : s.enables = if s.node = .zeroed then 0 else 1
  enableCalled : s.enableCalled = false → s.node = .zeroed
  removals : s.removals = if s.node = .unlinked then 1 else 0
  intrGets : s.intrGets = s.enables
  timeoutGets : s.timeoutGets = if s.timeout then s.enables else 0
  signals : s.node ≠ .zeroed → s.signals + toSignal s = if s.signaling then 1 else 0
  zeroed : s.node = .zeroed → s.intr = .idle ∧ s.signals ≤ 1 ∧
    (s.work = .idle ∨ s.work = .begun ∨ s.work = .won) ∧
    (s.signaling = true ↔ s.work = .won)
  /-- Where no reference is held for the work, a cancel waits for it. -/
  waits : (s.workPending = true ∨ s.work ≠ .idle) →
    (s.timeout = true ∧ s.node ≠ .zeroed) ∨ 0 < s.cancels
  user : 0 < s.cancels → s.user = true
  timeoutOnly : s.work = .lost ∨ s.work = .drop ∨ s.intr = .cancelled → s.timeout = true
  crashed : s.crashed = false

/-- The invariant of a fence: the count is that of the holders, and what was taken is held
or has been dropped. -/
structure FenceInv (s : FenceState) : Prop extends FenceShape s where
  kref : s.kref = userRefs s + intrRefs s + timeoutRefs s
  intr : intrRefs s + s.intrPuts = s.intrGets
  timeoutPath : timeoutRefs s + s.timeoutPuts = s.timeoutGets

theorem fenceInv_create (timeout : Bool) : FenceInv (host1xFenceCreate timeout) := by
  have hshape : FenceShape (host1xFenceCreate timeout) := by
    cases timeout <;> constructor <;> simp [host1xFenceCreate, toSignal]
  exact { hshape with
    kref := by simp [host1xFenceCreate, intrRefs, timeoutRefs, userRefs]
    intr := by simp [host1xFenceCreate, intrRefs]
    timeoutPath := by simp [host1xFenceCreate, timeoutRefs] }

variable {s : FenceState} {op : FenceOp}

theorem FenceInv.kref_pos (h : FenceInv s) (hen : FenceEnabled s op) : 0 < s.kref := by
  have hkref := h.kref
  have hwaits := h.waits
  have huser := h.user
  unfold intrRefs timeoutRefs userRefs at hkref
  cases op <;> simp only [FenceEnabled] at hen <;> grind

/-! ## Where the references go -/

/-- The reference of the interrupt path goes from the list to whoever removes the fence. -/
theorem intrRefs_step (h : FenceShape s) (hen : FenceEnabled s op) (hcare : FenceCareful s op) :
    intrRefs (fenceApply s op) + (fenceApply s op).intrPuts + s.intrGets =
      intrRefs s + s.intrPuts + (fenceApply s op).intrGets := by
  have hzeroed := h.enableCalled
  cases op with
  | enableSignaling expired =>
    grind [fenceApply, FenceEnabled, FenceState.enableSignaling, FenceState.startTimeout, intrRefs]
  | intrRemove => grind [fenceApply, FenceEnabled, FenceState.intrRemove, intrRefs]
  | intrXchg => grind [fenceApply, FenceEnabled, FenceState.intrXchg, intrRefs]
  | intrCancelWork => grind [fenceApply, FenceEnabled, FenceState.intrCancelWork, intrRefs]
  | intrCancelled =>
    grind [fenceApply, FenceEnabled, FenceState.intrCancelled, FenceState.putTimeout, intrRefs]
  | intrSignal => grind [fenceApply, FenceEnabled, FenceState.intrSignal, intrRefs]
  | intrLost => grind [fenceApply, FenceEnabled, FenceState.intrLost, FenceState.putIntr, intrRefs]
  | intrDrop => grind [fenceApply, FenceEnabled, FenceState.intrDrop, FenceState.putIntr, intrRefs]
  | workBegin => grind [fenceApply, FenceEnabled, FenceState.workBegin, intrRefs]
  | workXchg => grind [fenceApply, FenceEnabled, FenceState.workXchg, intrRefs]
  | workLost =>
    grind [fenceApply, FenceEnabled, FenceState.workLost, FenceState.putTimeout, intrRefs]
  | workRemove => grind [fenceApply, FenceEnabled, FenceState.workRemove, FenceCareful, intrRefs]
  | workRemoved =>
    grind [fenceApply, FenceEnabled, FenceState.workRemoved, FenceState.putIntr, intrRefs]
  | workSignal => grind [fenceApply, FenceEnabled, FenceState.workSignal, intrRefs]
  | workDrop =>
    grind [fenceApply, FenceEnabled, FenceState.workDrop, FenceState.putTimeout, intrRefs]
  | cancelSchedule | cancelFlushed | userPut => rfl

/-- The reference of the timeout path goes with the delayed work, and to the handler that
cancels it. -/
theorem timeoutRefs_step (h : FenceShape s) (hen : FenceEnabled s op) (hcare : FenceCareful s op) :
    timeoutRefs (fenceApply s op) + (fenceApply s op).timeoutPuts + s.timeoutGets =
      timeoutRefs s + s.timeoutPuts + (fenceApply s op).timeoutGets := by
  have hcalled := h.enableCalled
  have hzeroed := h.zeroed
  have honly := h.timeoutOnly
  cases op with
  | enableSignaling expired =>
    grind [fenceApply, FenceEnabled, FenceState.enableSignaling, FenceState.startTimeout, FenceCareful, timeoutRefs]
  | intrRemove => grind [fenceApply, FenceEnabled, FenceState.intrRemove, timeoutRefs]
  | intrXchg => grind [fenceApply, FenceEnabled, FenceState.intrXchg, timeoutRefs]
  | intrCancelWork => grind [fenceApply, FenceEnabled, FenceState.intrCancelWork, timeoutRefs]
  | intrCancelled =>
    grind [fenceApply, FenceEnabled, FenceState.intrCancelled, FenceState.putTimeout, timeoutRefs]
  | intrSignal => grind [fenceApply, FenceEnabled, FenceState.intrSignal, timeoutRefs]
  | intrLost =>
    grind [fenceApply, FenceEnabled, FenceState.intrLost, FenceState.putIntr, timeoutRefs]
  | intrDrop =>
    grind [fenceApply, FenceEnabled, FenceState.intrDrop, FenceState.putIntr, timeoutRefs]
  | workBegin => grind [fenceApply, FenceEnabled, FenceState.workBegin, timeoutRefs]
  | workXchg => grind [fenceApply, FenceEnabled, FenceState.workXchg, timeoutRefs]
  | workLost =>
    grind [fenceApply, FenceEnabled, FenceState.workLost, FenceState.putTimeout, timeoutRefs]
  | workRemove => grind [fenceApply, FenceEnabled, FenceState.workRemove, FenceCareful, timeoutRefs]
  | workRemoved =>
    grind [fenceApply, FenceEnabled, FenceState.workRemoved, FenceState.putIntr, timeoutRefs]
  | workSignal => grind [fenceApply, FenceEnabled, FenceState.workSignal, timeoutRefs]
  | workDrop =>
    grind [fenceApply, FenceEnabled, FenceState.workDrop, FenceState.putTimeout, timeoutRefs]
  | cancelSchedule =>
    -- the work is pending already
    grind [fenceApply, FenceState.cancelSchedule, FenceCareful, timeoutRefs]
  | cancelFlushed | userPut => rfl

theorem kref_step (hpos : 0 < s.kref) (hen : FenceEnabled s op) :
    (fenceApply s op).kref + (fenceApply s op).intrPuts + (fenceApply s op).timeoutPuts +
        userRefs s + s.intrGets + s.timeoutGets = s.kref + s.intrPuts + s.timeoutPuts + userRefs (fenceApply s op) +
        (fenceApply s op).intrGets + (fenceApply s op).timeoutGets := by
  cases op with
  | enableSignaling expired =>
    grind [fenceApply, FenceState.enableSignaling, FenceState.startTimeout, userRefs]
  | intrLost => grind [fenceApply, FenceState.intrLost, FenceState.putIntr, userRefs]
  | intrDrop => grind [fenceApply, FenceState.intrDrop, FenceState.putIntr, userRefs]
  | workRemoved => grind [fenceApply, FenceState.workRemoved, FenceState.putIntr, userRefs]
  | intrCancelled => grind [fenceApply, FenceState.intrCancelled, FenceState.putTimeout, userRefs]
  | workLost => grind [fenceApply, FenceState.workLost, FenceState.putTimeout, userRefs]
  | workDrop => grind [fenceApply, FenceState.workDrop, FenceState.putTimeout, userRefs]
  | userPut => grind [fenceApply, FenceEnabled, FenceState.userPut, userRefs]
  | intrCancelWork => grind [fenceApply, FenceState.intrCancelWork, userRefs]
  | workRemove => grind [fenceApply, FenceState.workRemove, userRefs]
  | intrRemove | intrXchg | intrSignal | workBegin | workXchg | workSignal | cancelSchedule
  | cancelFlushed => rfl

/-! ## The steps -/

/-! Each step leaves the parties at places they can be at: first the steps of the user and of the handler. -/

theorem FenceShape.enableSignaling {expired : Bool} (h : FenceShape s) (hen : FenceEnabled s (.enableSignaling expired))
    (hcare : FenceCareful s (.enableSignaling expired)) : FenceShape (fenceApply s (.enableSignaling expired)) := by
  simp only [fenceApply, FenceState.enableSignaling, FenceState.startTimeout]
  constructor <;> grind [toSignal, FenceShape, FenceEnabled, FenceCareful]

section

variable (h : FenceShape s)

include h

theorem FenceShape.intrRemove (hen : FenceEnabled s .intrRemove) :
    FenceShape (fenceApply s .intrRemove) := by
  simp only [fenceApply, FenceState.intrRemove]
  constructor <;> grind [toSignal, FenceShape, FenceEnabled]

theorem FenceShape.intrXchg (hen : FenceEnabled s .intrXchg) :
    FenceShape (fenceApply s .intrXchg) := by
  simp only [fenceApply, FenceState.intrXchg]
  constructor <;> grind [toSignal, FenceShape, FenceEnabled]

theorem FenceShape.intrLost (hen : FenceEnabled s .intrLost) :
    FenceShape (fenceApply s .intrLost) := by
  simp only [fenceApply, FenceState.intrLost, FenceState.putIntr]
  constructor <;> grind [toSignal, FenceShape, FenceEnabled]

theorem FenceShape.intrDrop (hen : FenceEnabled s .intrDrop) :
    FenceShape (fenceApply s .intrDrop) := by
  simp only [fenceApply, FenceState.intrDrop, FenceState.putIntr]
  constructor <;> grind [toSignal, FenceShape, FenceEnabled]

theorem FenceShape.intrCancelWork (hen : FenceEnabled s .intrCancelWork) :
    FenceShape (fenceApply s .intrCancelWork) := by
  simp only [fenceApply, FenceState.intrCancelWork]
  constructor <;> grind [toSignal, FenceShape, FenceEnabled]

theorem FenceShape.intrCancelled (hen : FenceEnabled s .intrCancelled) :
    FenceShape (fenceApply s .intrCancelled) := by
  simp only [fenceApply, FenceState.intrCancelled, FenceState.putTimeout]
  constructor <;> grind [toSignal, FenceShape, FenceEnabled]

theorem FenceShape.intrSignal (hen : FenceEnabled s .intrSignal) :
    FenceShape (fenceApply s .intrSignal) := by
  simp only [fenceApply, FenceState.intrSignal]
  constructor <;> grind [toSignal, FenceShape, FenceEnabled]

/-! Then those of the delayed work. -/

theorem FenceShape.workBegin (hen : FenceEnabled s .workBegin) :
    FenceShape (fenceApply s .workBegin) := by
  simp only [fenceApply, FenceState.workBegin]
  constructor <;> grind [toSignal, FenceShape, FenceEnabled]

theorem FenceShape.workXchg (hen : FenceEnabled s .workXchg) :
    FenceShape (fenceApply s .workXchg) := by
  simp only [fenceApply, FenceState.workXchg]
  constructor <;> grind [toSignal, FenceShape, FenceEnabled]

theorem FenceShape.workLost (hen : FenceEnabled s .workLost) :
    FenceShape (fenceApply s .workLost) := by
  simp only [fenceApply, FenceState.workLost, FenceState.putTimeout]
  constructor <;> grind [toSignal, FenceShape, FenceEnabled]

theorem FenceShape.workDrop (hen : FenceEnabled s .workDrop) :
    FenceShape (fenceApply s .workDrop) := by
  simp only [fenceApply, FenceState.workDrop, FenceState.putTimeout]
  constructor <;> grind [toSignal, FenceShape, FenceEnabled]

theorem FenceShape.workRemove (hen : FenceEnabled s .workRemove)
    (hcare : FenceCareful s .workRemove) : FenceShape (fenceApply s .workRemove) := by
  simp only [fenceApply, FenceState.workRemove]
  constructor <;> grind [toSignal, FenceShape, FenceEnabled, FenceCareful]

theorem FenceShape.workRemoved (hen : FenceEnabled s .workRemoved) :
    FenceShape (fenceApply s .workRemoved) := by
  simp only [fenceApply, FenceState.workRemoved, FenceState.putIntr]
  constructor <;> grind [toSignal, FenceShape, FenceEnabled]

theorem FenceShape.workSignal (hen : FenceEnabled s .workSignal) :
    FenceShape (fenceApply s .workSignal) := by
  simp only [fenceApply, FenceState.workSignal]
  constructor <;> grind [toSignal, FenceShape, FenceEnabled]

/-- **The shape after a step.** -/
theorem FenceShape.step (hen : FenceEnabled s op) (hcare : FenceCareful s op) :
    FenceShape (fenceApply s op) := by
  cases op with
  | enableSignaling expired => exact h.enableSignaling hen hcare
  | intrRemove => exact h.intrRemove hen
  | intrXchg => exact h.intrXchg hen
  | intrLost => exact h.intrLost hen
  | intrDrop => exact h.intrDrop hen
  | intrCancelWork => exact h.intrCancelWork hen
  | intrCancelled => exact h.intrCancelled hen
  | intrSignal => exact h.intrSignal hen
  | workBegin => exact h.workBegin hen
  | workXchg => exact h.workXchg hen
  | workLost => exact h.workLost hen
  | workDrop => exact h.workDrop hen
  | workRemove => exact h.workRemove hen hcare
  | workRemoved => exact h.workRemoved hen
  | workSignal => exact h.workSignal hen
  | cancelSchedule | cancelFlushed | userPut =>
    simp only [fenceApply, FenceState.cancelSchedule, FenceState.cancelFlushed, FenceState.userPut]
    constructor <;> grind [toSignal, FenceShape, FenceEnabled]

end

theorem FenceInv.step (h : FenceInv s) (hen : FenceEnabled s op) (hcare : FenceCareful s op) :
    FenceInv (fenceApply s op) := by
  have hshape := h.toFenceShape.step hen hcare
  have hintr := intrRefs_step h.toFenceShape hen hcare
  have htimeout := timeoutRefs_step h.toFenceShape hen hcare
  have hkref := kref_step (h.kref_pos hen) hen
  exact { hshape with
    kref := by
      have := h.kref
      have := h.intr
      have := h.timeoutPath
      omega
    intr := by
      have := h.intr
      omega
    timeoutPath := by
      have := h.timeoutPath
      omega }

theorem FenceInv.balanced (h : FenceInv s) : FenceBalanced s false where
  signalled_once := by
    by_cases hz : s.node = .zeroed
    · exact (h.zeroed hz).2.1
    · have := h.signals hz
      split at this <;> omega
  enabled_once := by
    rw [h.enables]
    split <;> omega
  linked_iff := by
    rw [h.enables, h.removals]
    cases s.node <;> simp
  removed_once := by
    rw [h.enables, h.removals]
    cases s.node <;> simp
  intr_gets := h.intrGets
  intr_puts := by
    have := h.intr
    omega
  timeout_gets := h.timeoutGets
  timeout_puts := by
    have := h.timeoutPath
    omega
  dropped := by
    rintro ⟨hnode, hidle, hwork, hpending⟩
    have hintr := h.intr
    have htimeout := h.timeoutPath
    simp only [intrRefs, hnode, hidle, hwork, if_true, if_false, reduceCtorEq] at hintr
    simp only [timeoutRefs, hidle, hwork, hpending, if_true, if_false, reduceCtorEq,
      Bool.false_eq_true, add_zero, ite_self] at htimeout
    refine ⟨?_, by omega, by omega⟩
    rw [h.enables, h.removals]
    cases hcase : s.node
    · simp
    · exact absurd hcase hnode
    · simp
  not_freed := rfl
  not_crashed := h.crashed

/-- **The references of a fence balance** in every run whose steps are careful. -/
theorem fence_references_balance {timeout : Bool} {ops : List FenceOp} {s : FenceState} {usedFreed : Bool}
    (hrun : run fenceStep (host1xFenceCreate timeout, false) ops = some (s, usedFreed))
    (hcare : AllSteps fenceStep (fun s op => FenceCareful s.1 op) (host1xFenceCreate timeout, false) ops) :
    FenceBalanced s usedFreed := by
  have hinv : FenceInv s ∧ usedFreed = false := by
    apply run_invariant_of_allSteps (I := fun t => FenceInv t.1 ∧ t.2 = false) _ _ hcare hrun
    · rintro ⟨t, used⟩ op ⟨t', used'⟩ ⟨hinv, hused⟩ hop hstep
      simp only [fenceStep, Option.ite_none_right_eq_some, Option.some.injEq, Prod.mk.injEq] at hstep
      obtain ⟨hen, rfl, rfl⟩ := hstep
      refine ⟨hinv.step hen hop, ?_⟩
      have hpos := hinv.kref_pos hen
      simp only at hused
      simp [hused, hpos.ne']
    · exact ⟨fenceInv_create timeout, rfl⟩
  obtain ⟨hinv, rfl⟩ := hinv
  exact hinv.balanced

/-- A fence that is cancelled while the interrupt path has removed it: the work loses the
race. -/
def cancelledRun : List FenceOp :=
  [.enableSignaling false, .intrRemove, .cancelSchedule, .workBegin, .intrXchg, .workXchg,
    .intrCancelWork, .intrSignal, .workLost, .intrDrop, .cancelFlushed, .userPut]

theorem fence_references_balance_cancelled :
    ∃ s usedFreed, run fenceStep (host1xFenceCreate true, false) cancelledRun =
      some (s, usedFreed) ∧ FenceBalanced s usedFreed := by
  have hsome : (run fenceStep (host1xFenceCreate true, false) cancelledRun).isSome = true := by
    decide +kernel
  obtain ⟨⟨s, usedFreed⟩, hs⟩ := Option.isSome_iff_exists.mp hsome
  exact ⟨s, usedFreed, hs, fence_references_balance hs (by decide +kernel)⟩

/-- The fence is signalled by the interrupt path, which cancels the work, and then cancelled. -/
def cancelAfterSignalRun : List FenceOp :=
  [.enableSignaling false, .intrRemove, .intrXchg, .intrCancelWork, .intrCancelled, .intrSignal,
    .intrDrop, .cancelSchedule, .workBegin, .workXchg, .workLost, .cancelFlushed]

def cancelBeforeEnableRun : List FenceOp := [.cancelSchedule, .workBegin, .workXchg, .workRemove]

/-- The fence is enabled while the work of an earlier cancel runs. -/
def enableWhileCancelledRun : List FenceOp :=
  [.cancelSchedule, .workBegin, .enableSignaling false, .workXchg, .workRemove, .workRemoved,
    .workSignal, .workDrop, .workBegin, .workXchg, .workLost, .cancelFlushed]

/-- A fence with a timeout that is cancelled after the interrupt path has signalled it loses
a reference too many, and the user's fence is freed; one that is cancelled before it is
enabled crashes; and one that is enabled meanwhile loses a reference too many. -/
theorem fence_references_unbalanced :
    (∃ s, run fenceStep (host1xFenceCreate true, false) cancelAfterSignalRun = some (s, true) ∧
      s.timeoutPuts = 2 ∧ s.timeoutGets = 1 ∧ s.user = true ∧ ¬ FenceBalanced s true) ∧
    (∃ s, run fenceStep (host1xFenceCreate false, false) cancelBeforeEnableRun =
      some (s, false) ∧ s.crashed = true ∧ ¬ FenceBalanced s false) ∧
    ∃ s, run fenceStep (host1xFenceCreate true, false) enableWhileCancelledRun = some (s, true) ∧
      s.timeoutPuts = 2 ∧ s.timeoutGets = 1 ∧ ¬ FenceBalanced s true := by
  refine ⟨⟨_, by rfl, by rfl, by rfl, by rfl, ?_⟩, ⟨_, by rfl, by rfl, ?_⟩,
    ⟨_, by rfl, by rfl, by rfl, ?_⟩⟩
  · exact fun h => absurd h.not_freed (by decide)
  · exact fun h => absurd h.not_crashed (by decide)
  · exact fun h => absurd h.not_freed (by decide)

end NvidiaOot.Analysis
