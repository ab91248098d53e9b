import NvidiaOot.Model.RtcpuTrace

/-!
# The rings are drained, but the events are not synchronized

Each flush passes on what was committed since the last one, in order, and synchronizes the entries
of the exceptions that it reads.  For the events it synchronizes other entries than it reads, so
that each flush that finds an event reads an entry that was not synchronized.
-/

namespace NvidiaOot.Analysis

open Library Program Model

variable {α : Type}

/-! ## The loop -/

/-- **The loop of a flush** passes on the entries from the last index up to the new one. -/
theorem traceLoop_eq {n : ℕ} : ∀ {k fuel p : ℕ}, k ≤ fuel → k < n →
    traceLoop n ((p + k) % n) fuel (p % n) = ringSlots n p k := by
  intro k
  induction k with
  | zero =>
    intro fuel p _ _
    cases fuel with
    | zero => rfl
    | succ fuel => simp [traceLoop]
  | succ k ih =>
    intro fuel p hfuel hk
    obtain ⟨fuel, rfl⟩ : ∃ f, fuel = f + 1 := ⟨fuel - 1, by omega⟩
    have hn : 0 < n := by omega
    have hp := Nat.mod_lt p hn
    have hne : p % n ≠ (p + (k + 1)) % n :=
      mod_ne_of_outstanding (c := p) le_rfl (by omega) (by omega)
    have hnext : (if p % n + 1 = n then 0 else p % n + 1) = (p + 1) % n := by
      have hadd : (p + 1) % n = (p % n + 1) % n := by simp
      rw [hadd]
      split
      next heq => rw [heq, Nat.mod_self]
      next hlt => exact (Nat.mod_eq_of_lt (by omega : p % n + 1 < n)).symm
    have hsplit : ringSlots n p (k + 1) = p % n :: ringSlots n (p + 1) k := by
      rw [Nat.add_comm k 1, ringSlots_add]
      simp [ringSlots]
    unfold traceLoop
    have hlast : p + (k + 1) = p + 1 + k := by omega
    have hrest := @ih fuel (p + 1) (by omega) (by omega)
    simp only [if_neg hne, arrayIndexNospec, if_pos hp, hnext]
    rw [hsplit, hlast, hrest]

/-! ## The ranges -/

/-- The ranges that `rtcpu_trace_invalidate_entries` synchronizes. -/
def entryRanges (addr oldNext newNext entrySize entryCount : ℕ) : List (ℕ × ℕ) :=
  if newNext > oldNext then [(addr + oldNext * entrySize, (newNext - oldNext) * entrySize)]
  else
    [(addr + oldNext * entrySize, (entryCount - oldNext) * entrySize), (addr, newNext * entrySize)]

theorem mulU32_of_le {a n z : ℕ} (hz : n * z < 2 ^ 32) (ha : a ≤ n) : mulU32 a z = a * z :=
  Nat.mod_eq_of_lt ((Nat.mul_le_mul_right z ha).trans_lt hz)

theorem rtcpuTraceInvalidateEntries_eq {addr old new z n : ℕ} (hz : n * z < 2 ^ 32) (hold : old < n)
    (hnew : new < n) :
    rtcpuTraceInvalidateEntries addr old new z n =
      (entryRanges addr old new z n).map fun r => .syncForCpu r.1 r.2 := by
  unfold rtcpuTraceInvalidateEntries entryRanges
  rw [mulU32_of_le hz hold.le, mulU32_of_le hz hnew.le, mulU32_of_le hz (by omega : new - old ≤ n),
    mulU32_of_le hz (by omega : n - old ≤ n)]
  split
  · rfl
  · rfl

theorem entryRanges_inside {addr old new z n : ℕ} (hold : old < n) (hnew : new < n) :
    ∀ r ∈ entryRanges addr old new z n, addr ≤ r.1 ∧ r.1 + r.2 ≤ addr + n * z := by
  intro r hr
  unfold entryRanges at hr
  have hnz : new * z ≤ n * z := Nat.mul_le_mul_right z hnew.le
  split at hr
  next hlt =>
    obtain rfl := List.mem_singleton.mp hr
    have hsum : old * z + (new - old) * z = new * z := by
      rw [← Nat.add_mul, Nat.add_sub_cancel' (Nat.le_of_lt hlt)]
    omega
  next hge =>
    have hsum : old * z + (n - old) * z = n * z := by
      rw [← Nat.add_mul, Nat.add_sub_cancel' hold.le]
    simp only [List.mem_cons, List.not_mem_nil, or_false] at hr
    obtain rfl | rfl := hr
    · omega
    · omega

/-- **The entries that the loop reads are in the ranges**, when these start at the ring. -/
theorem entryRanges_cover {dma base z n p k i : ℕ} (hk : k < n) (hi : i ∈ ringSlots n p k) :
    ∃ r ∈ entryRanges (dma + base) (p % n) ((p + k) % n) z n,
      InRange dma r.1 r.2 (base + z * i, z) := by
  obtain ⟨j, hj, rfl⟩ := mem_ringSlots.mp hi
  have hn : 0 < n := by omega
  have hp := Nat.mod_lt p hn
  have hnew : (p + k) % n = if p % n + k ≥ n then p % n + k - n else p % n + k := by
    rw [ring_advance hp hk.le]
    simp
  have hat : (p + j) % n = if p % n + j ≥ n then p % n + j - n else p % n + j := by
    rw [ring_advance hp (hj.trans hk).le]
    simp
  rw [hnew, hat]
  generalize p % n = old at hp
  unfold entryRanges InRange
  split
  · rw [if_neg (by omega)]
    by_cases hj' : old + j ≥ n
    · refine ⟨_, List.mem_cons_of_mem _ (List.mem_singleton.mpr rfl), ?_⟩
      rw [if_pos hj']
      have hle : (old + j - n + 1) * z ≤ (old + k - n) * z := Nat.mul_le_mul_right z (by omega)
      rw [Nat.add_mul, Nat.one_mul] at hle
      rw [Nat.mul_comm z]
      omega
    refine ⟨_, List.mem_cons_self, ?_⟩
    rw [if_neg hj']
    have hle : (old + j + 1) * z ≤ n * z := Nat.mul_le_mul_right z (by omega)
    have hsum : old * z + (n - old) * z = n * z := by
      rw [← Nat.add_mul, Nat.add_sub_cancel' hp.le]
    rw [Nat.add_mul, Nat.one_mul, Nat.add_mul] at hle
    rw [Nat.mul_comm z, Nat.add_mul]
    omega
  rw [if_pos (by omega), if_neg (by omega)]
  refine ⟨_, List.mem_singleton.mpr rfl, ?_⟩
  have hle : (j + 1) * z ≤ k * z := Nat.mul_le_mul_right z (by omega)
  rw [Nat.add_mul, Nat.one_mul] at hle
  rw [Nat.mul_comm z, Nat.add_mul, Nat.add_sub_cancel_left]
  omega

/-- **An event that the loop reads is in no range**, as these start at the exceptions. -/
theorem entryRanges_miss {dma n p k : ℕ} (hk : k < n) (hpos : 0 < k) :
    ∃ i ∈ ringSlots n p k,
      ∀ r ∈ entryRanges (dma + CAMRTC_TRACE_EXCEPTION_OFFSET) (p % n) ((p + k) % n)
          CAMRTC_TRACE_EVENT_SIZE n,
        ¬ InRange dma r.1 r.2 (eventOffset i, CAMRTC_TRACE_EVENT_SIZE) := by
  have hn : 0 < n := by omega
  have hp := Nat.mod_lt p hn
  have hnew : (p + k) % n = if p % n + k ≥ n then p % n + k - n else p % n + k := by
    rw [ring_advance hp hk.le]
    simp
  unfold InRange eventOffset CAMRTC_TRACE_EVENT_SIZE CAMRTC_TRACE_EXCEPTION_OFFSET
    CAMRTC_TRACE_EVENT_OFFSET
  by_cases hwrap : p % n + k ≥ n
  · -- The last entry of the ring is read.
    refine ⟨n - 1, mem_ringSlots.mpr ⟨n - 1 - p % n, by omega, ?_⟩, ?_⟩
    · rw [Nat.add_mod, Nat.mod_eq_of_lt (by omega : n - 1 - p % n < n),
        Nat.add_sub_cancel' (by omega), Nat.mod_eq_of_lt (by omega)]
    · intro r hr
      rw [hnew, if_pos hwrap] at hr
      generalize p % n = old at *
      unfold entryRanges at hr
      rw [if_neg (by omega)] at hr
      simp only [List.mem_cons, List.not_mem_nil, or_false] at hr
      obtain rfl | rfl := hr
      · omega
      · omega
  -- The last entry that is read is the one before the new index.
  refine ⟨p % n + (k - 1), mem_ringSlots.mpr ⟨k - 1, by omega, ?_⟩, ?_⟩
  · rw [Nat.add_mod, Nat.mod_eq_of_lt (by omega : k - 1 < n), Nat.mod_eq_of_lt (by omega)]
  · intro r hr
    rw [hnew, if_neg hwrap] at hr
    generalize p % n = old at *
    unfold entryRanges at hr
    rw [if_pos (by omega)] at hr
    obtain rfl := List.mem_singleton.mp hr
    omega

/-! ## Accesses -/

theorem foldl_syncForCpu (s : TraceRun α) (ranges : List (ℕ × ℕ)) :
    (ranges.map fun r => TraceAccess.syncForCpu r.1 r.2).foldl TraceRun.access s =
      { s with
        synced := s.synced ++ ranges
        unsynced := s.unsynced.filter fun entry =>
          ranges.all fun r => !decide (InRange s.tracer.dmaHandle r.1 r.2 entry) } := by
  induction ranges generalizing s with
  | nil => simp
  | cons r ranges ih =>
    rw [List.map_cons, List.foldl_cons, ih]
    simp [TraceRun.access, List.filter_filter, Bool.and_comm]

theorem foldl_exception (s : TraceRun α) (l : List ℕ) :
    (l.map fun i => TraceAccess.exception (exceptionOffset i)).foldl TraceRun.access s =
      { s with
        exceptions := { s.exceptions with
          processed := s.exceptions.processed ++ l.map fun i => s.memory (exceptionOffset i) }
        staleReads := s.staleReads ++
          l.flatMap fun i => s.readStale (exceptionOffset i, CAMRTC_TRACE_EXCEPTION_SIZE) } := by
  induction l generalizing s with
  | nil => simp
  | cons i l ih =>
    rw [List.map_cons, List.foldl_cons, ih]
    simp [TraceRun.access, TraceRun.readStale]

theorem foldl_event (s : TraceRun α) (l : List ℕ) :
    (l.map fun i => TraceAccess.event (eventOffset i)).foldl TraceRun.access s =
      { s with
        events := { s.events with processed := s.events.processed ++ l.map fun i => s.memory (eventOffset i) }
        staleReads := s.staleReads ++
          l.flatMap fun i => s.readStale (eventOffset i, CAMRTC_TRACE_EVENT_SIZE) } := by
  induction l generalizing s with
  | nil => simp
  | cons i l ih =>
    rw [List.map_cons, List.foldl_cons, ih]
    simp [TraceRun.access, TraceRun.readStale]

theorem foldl_access_tracer {tracer : RtcpuTrace} (acts : List TraceAccess) (s : TraceRun α)
    (h : tracer.dmaHandle = s.tracer.dmaHandle) :
    acts.foldl TraceRun.access { s with tracer := tracer } =
      { acts.foldl TraceRun.access s with tracer := tracer } := by
  induction acts generalizing s with
  | nil => rfl
  | cons a acts ih =>
    have hone : TraceRun.access { s with tracer := tracer } a =
        { s.access a with tracer := tracer } := by
      cases a with
      | syncForCpu addr size => simp [TraceRun.access, h]
      | exception offset | event offset => rfl
    have htracer : (s.access a).tracer = s.tracer := by
      cases a with
      | syncForCpu addr size | exception offset | event offset => rfl
    rw [List.foldl_cons, List.foldl_cons, hone]
    apply ih
    rw [htracer]
    exact h

/-! ## The driver -/

/-- The number of events that the memory has room for. -/
def eventEntriesOf (size : U32) : ℕ := (size.toNat - CAMRTC_TRACE_EVENT_OFFSET) / CAMRTC_TRACE_EVENT_SIZE

/-- The driver after it has passed on some exceptions and events. -/
def tracerAt (size : U32) (dmaHandle exceptions events : ℕ) : RtcpuTrace :=
  { rtcpuTraceInitMemory size dmaHandle with
    eventEntries := eventEntriesOf size
    exceptionLastIdx := exceptions % 7
    eventLastIdx := events % eventEntriesOf size
    nExceptions := exceptions
    nEvents := events }

theorem rtcpuTraceInitMemory_eq {size : U32} (hsize : CAMRTC_TRACE_EVENT_OFFSET ≤ size.toNat)
    (dmaHandle : ℕ) : rtcpuTraceInitMemory size dmaHandle = tracerAt size dmaHandle 0 0 := by
  have hsub : (size - BitVec.ofNat 32 CAMRTC_TRACE_EVENT_OFFSET).toNat =
      size.toNat - CAMRTC_TRACE_EVENT_OFFSET := by
    bv_omega
  unfold tracerAt eventEntriesOf
  rw [← hsub]
  simp [rtcpuTraceInitMemory]

theorem eventEntriesOf_inside {size : U32} (hsize : CAMRTC_TRACE_EVENT_OFFSET ≤ size.toNat) :
    CAMRTC_TRACE_EVENT_OFFSET + eventEntriesOf size * CAMRTC_TRACE_EVENT_SIZE ≤ size.toNat := by
  have hdiv := Nat.div_mul_le_self (size.toNat - CAMRTC_TRACE_EVENT_OFFSET) CAMRTC_TRACE_EVENT_SIZE
  unfold eventEntriesOf
  omega

/-- The ranges that are synchronized for `k` new entries. -/
def newRanges (addr p k z n : ℕ) : List (ℕ × ℕ) :=
  if k = 0 then [] else entryRanges addr (p % n) ((p + k) % n) z n

theorem mod_eq_mod_add_iff {n p k : ℕ} (hk : k < n) : p % n = (p + k) % n ↔ k = 0 := by
  constructor
  · intro heq
    by_contra hne
    exact mod_ne_of_outstanding (c := p) le_rfl (by omega) (by omega) heq
  · rintro rfl
    rfl

/-- **What a flush does for the exceptions.** -/
theorem rtcpuTraceExceptions_eq (size : U32) (dma a b : ℕ) {k : ℕ} (hk : k < 7) :
    rtcpuTraceExceptions (tracerAt size dma a b) ((a + k) % 7) =
      ((newRanges (dma + CAMRTC_TRACE_EXCEPTION_OFFSET) a k CAMRTC_TRACE_EXCEPTION_SIZE 7).map
          (fun r => .syncForCpu r.1 r.2) ++
        (ringSlots 7 a k).map (fun i => .exception (exceptionOffset i)),
        tracerAt size dma (a + k) b) := by
  have hlt : (a + k) % 7 < 7 := Nat.mod_lt _ (by decide)
  unfold rtcpuTraceExceptions newRanges
  by_cases hzero : k = 0
  · subst hzero
    simp [tracerAt]
  have hne : a % 7 ≠ (a + k) % 7 := fun heq => hzero ((mod_eq_mod_add_iff hk).mp heq)
  have hentries : (tracerAt size dma a b).exceptionEntries = 7 := rfl
  have hloop := @traceLoop_eq 7 k 7 a hk.le hk
  have hranges := @rtcpuTraceInvalidateEntries_eq (dma + CAMRTC_TRACE_EXCEPTION_OFFSET) (a % 7)
    ((a + k) % 7) CAMRTC_TRACE_EXCEPTION_SIZE 7 (by decide) (Nat.mod_lt a (by decide)) hlt
  have hlast : (tracerAt size dma a b).exceptionLastIdx = a % 7 := rfl
  have hdma : (tracerAt size dma a b).dmaHandleExceptions = dma + CAMRTC_TRACE_EXCEPTION_OFFSET := rfl
  simp only [hlast, if_neg hne, hentries, if_neg (not_le.mpr hlt), arrayIndexNospec, if_pos hlt,
    hdma, hloop, hranges, if_neg hzero, length_ringSlots]
  rfl

/-- **What a flush does for the events**: the ranges start at the exceptions. -/
theorem rtcpuTraceEvents_eq {size : U32} (hsize : CAMRTC_TRACE_EVENT_OFFSET ≤ size.toNat) (dma a b : ℕ)
    {k : ℕ} (hk : k < eventEntriesOf size) :
    rtcpuTraceEvents (tracerAt size dma a b) ((b + k) % eventEntriesOf size) =
      ((newRanges (dma + CAMRTC_TRACE_EXCEPTION_OFFSET) b k CAMRTC_TRACE_EVENT_SIZE
          (eventEntriesOf size)).map (fun r => .syncForCpu r.1 r.2) ++
        (ringSlots (eventEntriesOf size) b k).map (fun i => .event (eventOffset i)),
        tracerAt size dma a (b + k)) := by
  have hinside := eventEntriesOf_inside hsize
  have hlast : (tracerAt size dma a b).eventLastIdx = b % eventEntriesOf size := rfl
  have hentries : (tracerAt size dma a b).eventEntries = eventEntriesOf size := rfl
  have hdma : (tracerAt size dma a b).dmaHandleEvents = dma + CAMRTC_TRACE_EXCEPTION_OFFSET := rfl
  have hdone : tracerAt size dma a (b + k) =
      { tracerAt size dma a b with
        eventLastIdx := (b + k) % eventEntriesOf size
        nEvents := (tracerAt size dma a b).nEvents + k } := rfl
  rw [hdone]
  unfold rtcpuTraceEvents newRanges
  generalize eventEntriesOf size = n at *
  have hlt : (b + k) % n < n := Nat.mod_lt _ (by omega)
  by_cases hzero : k = 0
  · subst hzero
    rw [Nat.add_zero] at hlt
    simp only [Nat.add_zero, hentries, hlast, if_neg (not_le.mpr hlt), arrayIndexNospec, if_pos hlt,
      if_true, ringSlots_zero, List.map_nil, List.append_nil]
    rw [← hlast, ← hentries]
  have hne : b % n ≠ (b + k) % n := fun heq => hzero ((mod_eq_mod_add_iff hk).mp heq)
  have hloop := @traceLoop_eq n k n b hk.le hk
  have hranges := @rtcpuTraceInvalidateEntries_eq (dma + CAMRTC_TRACE_EXCEPTION_OFFSET) (b % n)
    ((b + k) % n) CAMRTC_TRACE_EVENT_SIZE n (by omega) (Nat.mod_lt b (by omega)) hlt
  simp only [hentries, hlast, if_neg (not_le.mpr hlt), arrayIndexNospec, if_pos hlt, if_neg hne,
    hdma, hloop, hranges, if_neg hzero, length_ringSlots]
  rfl

/-! ## Runs -/

structure TraceInv (size : U32) (dmaHandle : ℕ) (s : TraceRun α) : Prop where
  tracer : s.tracer =
    tracerAt size dmaHandle s.exceptions.processed.length s.events.processed.length
  exceptions : Stored 7 (fun i => s.memory (exceptionOffset i)) s.exceptions.committed
    s.exceptions.processed
  events : Stored (eventEntriesOf size) (fun i => s.memory (eventOffset i)) s.events.committed
    s.events.processed
  exceptionsRoom : s.exceptions.committed.length < s.exceptions.processed.length + 7
  eventsRoom : s.events.committed.length < s.events.processed.length + eventEntriesOf size
  synced : s.SyncsInside size dmaHandle
  /-- Nothing synchronizes an event before it is flushed. -/
  unsynced : ∀ i ∈ ringSlots (eventEntriesOf size) s.events.processed.length
      (s.events.committed.length - s.events.processed.length),
    (eventOffset i, CAMRTC_TRACE_EVENT_SIZE) ∈ s.unsynced

variable {size : U32} {dma : ℕ} {s s' : TraceRun α}

theorem TraceInv.dmaHandle (h : TraceInv size dma s) : s.tracer.dmaHandle = dma := by
  rw [h.tracer]
  rfl

theorem traceInv_start (hsize : CAMRTC_TRACE_EVENT_OFFSET + CAMRTC_TRACE_EVENT_SIZE ≤ size.toNat)
    (dma : ℕ) (memory : ℕ → α) : TraceInv size dma (traceStart size dma memory) := by
  have hentries : 0 < eventEntriesOf size := by
    apply Nat.div_pos
    · omega
    · decide
  constructor
  · exact rtcpuTraceInitMemory_eq (by omega) dma
  · exact Stored.empty _ _
  · exact Stored.empty _ _
  · simp [traceStart]
  · simpa [traceStart] using hentries
  · nofun
  · nofun

theorem TraceInv.syncs (h : TraceInv size dma s) (hsize : CAMRTC_TRACE_EVENT_OFFSET ≤ size.toNat)
    {ranges : List (ℕ × ℕ)}
    (hranges : ∀ r ∈ ranges, dma ≤ r.1 ∧ r.1 + r.2 ≤ dma + CAMRTC_TRACE_EVENT_OFFSET) :
    TraceInv size dma ((ranges.map fun r => .syncForCpu r.1 r.2).foldl TraceRun.access s) := by
  rw [foldl_syncForCpu]
  refine ⟨h.tracer, h.exceptions, h.events, h.exceptionsRoom, h.eventsRoom, ?_, ?_⟩
  · intro r hr
    obtain hold | hnew := List.mem_append.mp hr
    · exact h.synced r hold
    · obtain ⟨hle, hend⟩ := hranges r hnew
      exact ⟨hle, by omega⟩
  · intro i hi
    refine List.mem_filter.mpr ⟨h.unsynced i hi, ?_⟩
    rw [List.all_eq_true]
    intro r hr
    have hend := (hranges r hr).2
    rw [h.dmaHandle]
    have hmiss : ¬ InRange dma r.1 r.2 (eventOffset i, CAMRTC_TRACE_EVENT_SIZE) := by
      unfold InRange eventOffset
      unfold CAMRTC_TRACE_EVENT_SIZE
      omega
    simpa using hmiss

def afterExceptions (s : TraceRun α) : TraceRun α :=
  let flush := rtcpuTraceExceptions s.tracer (s.exceptions.nextIdx 7)
  { flush.1.foldl TraceRun.access s with tracer := flush.2 }

def afterEvents (size : U32) (s : TraceRun α) : TraceRun α :=
  let flush := rtcpuTraceEvents s.tracer (s.events.nextIdx (eventEntriesOf size))
  { flush.1.foldl TraceRun.access s with tracer := flush.2 }

section

variable (h : TraceInv size dma s)

include h

/-- **The exceptions are drained**, and none is read that was not synchronized. -/
theorem TraceInv.flushExceptions
    (hsize : CAMRTC_TRACE_EVENT_OFFSET ≤ size.toNat) :
    TraceInv size dma (afterExceptions s) ∧
      (afterExceptions s).exceptions = ⟨s.exceptions.committed, s.exceptions.committed⟩ ∧
      (afterExceptions s).events = s.events ∧ (afterExceptions s).staleReads = s.staleReads := by
  obtain ⟨k, hk⟩ := Nat.exists_eq_add_of_le h.exceptions.isPrefix.length_le
  have hroom := h.exceptionsRoom
  have hlt : k < 7 := by omega
  have hranges : ∀ r ∈ newRanges (dma + CAMRTC_TRACE_EXCEPTION_OFFSET) s.exceptions.processed.length k
      CAMRTC_TRACE_EXCEPTION_SIZE 7, dma ≤ r.1 ∧ r.1 + r.2 ≤ dma + CAMRTC_TRACE_EVENT_OFFSET := by
    intro r hr
    unfold newRanges at hr
    split at hr
    next => cases hr
    next =>
      obtain ⟨hle, hend⟩ := entryRanges_inside (Nat.mod_lt _ (by decide)) (Nat.mod_lt _ (by decide)) r hr
      unfold CAMRTC_TRACE_EXCEPTION_OFFSET CAMRTC_TRACE_EXCEPTION_SIZE at *
      unfold CAMRTC_TRACE_EVENT_OFFSET
      omega
  have hsyncs := h.syncs hsize hranges
  have hall : s.exceptions.processed ++ (ringSlots 7 s.exceptions.processed.length k).map
      (fun i => s.memory (exceptionOffset i)) = s.exceptions.committed := by
    have hdrain := h.exceptions.receive_all
    rwa [hk, Nat.add_sub_cancel_left] at hdrain
  unfold afterExceptions TraceRing.nextIdx
  rw [hk, h.tracer, rtcpuTraceExceptions_eq size dma _ _ hlt]
  dsimp only
  rw [List.foldl_append]
  rw [foldl_syncForCpu] at hsyncs ⊢
  rw [foldl_exception]
  have hfresh : (ringSlots 7 s.exceptions.processed.length k).flatMap (fun i =>
      TraceRun.readStale { s with
        synced := s.synced ++ newRanges (dma + CAMRTC_TRACE_EXCEPTION_OFFSET)
          s.exceptions.processed.length k CAMRTC_TRACE_EXCEPTION_SIZE 7
        unsynced := s.unsynced.filter fun entry => (newRanges (dma + CAMRTC_TRACE_EXCEPTION_OFFSET)
          s.exceptions.processed.length k CAMRTC_TRACE_EXCEPTION_SIZE 7).all fun r =>
            !decide (InRange s.tracer.dmaHandle r.1 r.2 entry) }
        (exceptionOffset i, CAMRTC_TRACE_EXCEPTION_SIZE)) = [] := by
    rw [List.flatMap_eq_nil_iff]
    intro i hi
    apply if_neg
    intro hmem
    have hall := List.all_eq_true.mp (List.mem_filter.mp hmem).2
    have hne : k ≠ 0 := by
      rintro rfl
      cases hi
    obtain ⟨r, hr, hin⟩ := @entryRanges_cover dma CAMRTC_TRACE_EXCEPTION_OFFSET
      CAMRTC_TRACE_EXCEPTION_SIZE 7 _ k i hlt hi
    unfold newRanges at hall
    rw [if_neg hne] at hall
    have hout := hall r hr
    rw [h.dmaHandle] at hout
    simp only [Bool.not_eq_true', decide_eq_false_iff_not] at hout
    exact hout hin
  refine ⟨?_, ?_, rfl, ?_⟩
  · have hlen : s.exceptions.processed.length + k = s.exceptions.committed.length := hk.symm
    refine ⟨?_, ?_, hsyncs.events, ?_, hsyncs.eventsRoom, hsyncs.synced, hsyncs.unsynced⟩
    · rw [hall, hlen]
    · rw [hall]
      exact Stored.drained _ _ _
    · dsimp only
      rw [hall]
      omega
  · rw [hall]
  · rw [hfresh, List.append_nil]

/-- **The events are drained**, and the flush reads an event that was not synchronized if it finds
any. -/
theorem TraceInv.flushEvents
    (hsize : CAMRTC_TRACE_EVENT_OFFSET ≤ size.toNat) :
    TraceInv size dma (afterEvents size s) ∧
      (afterEvents size s).events = ⟨s.events.committed, s.events.committed⟩ ∧
      (afterEvents size s).exceptions = s.exceptions ∧
      (∃ stale, (afterEvents size s).staleReads = s.staleReads ++ stale ∧
        (stale = [] ↔ s.events.committed.length = s.events.processed.length)) := by
  obtain ⟨k, hk⟩ := Nat.exists_eq_add_of_le h.events.isPrefix.length_le
  have hroom := h.eventsRoom
  have hinside := eventEntriesOf_inside hsize
  have hunsynced := h.unsynced
  have hall : s.events.processed ++ (ringSlots (eventEntriesOf size) s.events.processed.length k).map
      (fun i => s.memory (eventOffset i)) = s.events.committed := by
    have hdrain := h.events.receive_all
    rwa [hk, Nat.add_sub_cancel_left] at hdrain
  rw [hk, Nat.add_sub_cancel_left] at hunsynced
  have hlt : k < eventEntriesOf size := by omega
  unfold afterEvents TraceRing.nextIdx
  rw [hk, h.tracer, rtcpuTraceEvents_eq hsize dma _ _ hlt]
  dsimp only
  rw [List.foldl_append, foldl_syncForCpu, foldl_event]
  refine ⟨?_, ?_, rfl, _, rfl, ?_⟩
  · have hlen : s.events.processed.length + k = s.events.committed.length := hk.symm
    refine ⟨?_, h.exceptions, ?_, h.exceptionsRoom, ?_, ?_, ?_⟩
    · rw [hall, hlen]
    · rw [hall]
      exact Stored.drained _ _ _
    · dsimp only
      rw [hall]
      omega
    · intro r hr
      obtain hold | hnew := List.mem_append.mp hr
      · exact h.synced r hold
      · unfold newRanges at hnew
        split at hnew
        next => cases hnew
        next =>
          obtain ⟨hle, hend⟩ :=
            entryRanges_inside (Nat.mod_lt _ (by omega)) (Nat.mod_lt _ (by omega)) r hnew
          unfold CAMRTC_TRACE_EXCEPTION_OFFSET at *
          unfold CAMRTC_TRACE_EVENT_OFFSET at *
          omega
    · rw [hall, Nat.sub_self]
      nofun
  · rw [hall]
  · rw [List.flatMap_eq_nil_iff]
    constructor
    · intro hnone
      by_contra hne
      have hpos : 0 < k := by omega
      obtain ⟨i, hi, hmiss⟩ := @entryRanges_miss dma (eventEntriesOf size) s.events.processed.length k
        hlt hpos
      have hstale := hnone i hi
      unfold TraceRun.readStale at hstale
      rw [if_pos] at hstale
      · cases hstale
      · refine List.mem_filter.mpr ⟨hunsynced i hi, ?_⟩
        rw [List.all_eq_true]
        intro r hr
        unfold newRanges at hr
        rw [if_neg hpos.ne'] at hr
        rw [h.dmaHandle]
        simpa using hmiss r hr
    · intro heq i hi
      have hzero : k = 0 := by omega
      subst hzero
      cases hi

theorem TraceInv.exceptionEntries : s.tracer.exceptionEntries = 7 := by
  rw [h.tracer]
  rfl

theorem TraceInv.eventEntries :
    s.tracer.eventEntries = eventEntriesOf size := by
  rw [h.tracer]
  rfl

end

theorem tracer_foldl_access (acts : List TraceAccess) (s : TraceRun α) :
    (acts.foldl TraceRun.access s).tracer = s.tracer := by
  induction acts generalizing s with
  | nil => rfl
  | cons a acts ih =>
    rw [List.foldl_cons, ih]
    cases a with
    | syncForCpu addr size | exception offset | event offset => rfl

theorem TraceInv.traceStep_flush (h : TraceInv size dma s) {s₁ : TraceRun α}
    (hs₁ : s₁ = s.access (.syncForCpu s.tracer.dmaHandlePointers CAMRTC_TRACE_NEXT_IDX_SIZE))
    (h₂ : TraceInv size dma (afterExceptions s₁)) (hevents : (afterExceptions s₁).events = s.events) :
    traceStep s .flush = some (afterEvents size (afterExceptions s₁)) := by
  subst hs₁
  have hdma := h₂.dmaHandle
  unfold traceStep tegraRtcpuTraceFlush
  rw [h.exceptionEntries, h.eventEntries]
  unfold afterEvents
  rw [hevents]
  unfold afterExceptions at hdma ⊢
  have htracer : (s.access (.syncForCpu s.tracer.dmaHandlePointers
      CAMRTC_TRACE_NEXT_IDX_SIZE)).tracer = s.tracer := rfl
  have hexceptions : (s.access (.syncForCpu s.tracer.dmaHandlePointers
      CAMRTC_TRACE_NEXT_IDX_SIZE)).exceptions = s.exceptions := rfl
  dsimp only at hdma ⊢
  rw [htracer, hexceptions] at hdma ⊢
  generalize rtcpuTraceExceptions s.tracer (s.exceptions.nextIdx 7) = e at hdma ⊢
  generalize s.events.nextIdx (eventEntriesOf size) = next
  rw [List.foldl_cons, List.foldl_append]
  generalize hx : s.access (.syncForCpu s.tracer.dmaHandlePointers CAMRTC_TRACE_NEXT_IDX_SIZE) = x at *
  have hsame := @foldl_access_tracer _ e.2 (rtcpuTraceEvents e.2 next).1 (e.1.foldl TraceRun.access x)
    (by rw [tracer_foldl_access, hdma, htracer, h.dmaHandle])
  rw [hsame]

/-- **A flush** drains both rings. -/
theorem TraceInv.flush (h : TraceInv size dma s) (hsize : CAMRTC_TRACE_EVENT_OFFSET ≤ size.toNat)
    (hstep : traceStep s .flush = some s') :
    TraceInv size dma s' ∧ s'.Drained ∧
      ∃ stale, s'.staleReads = s.staleReads ++ stale ∧ (stale = [] ↔ s.Careful .flush) := by
  have hpointers : ∀ r ∈ [(s.tracer.dmaHandlePointers, CAMRTC_TRACE_NEXT_IDX_SIZE)],
      dma ≤ r.1 ∧ r.1 + r.2 ≤ dma + CAMRTC_TRACE_EVENT_OFFSET := by
    intro r hr
    obtain rfl := List.mem_singleton.mp hr
    have haddr : s.tracer.dmaHandlePointers = dma + exceptionNextIdxOffset := by
      rw [h.tracer]
      rfl
    unfold exceptionNextIdxOffset at haddr
    unfold CAMRTC_TRACE_NEXT_IDX_SIZE CAMRTC_TRACE_EVENT_OFFSET
    omega
  have h₁ := h.syncs hsize hpointers
  rw [List.map_singleton, List.foldl_cons, List.foldl_nil] at h₁
  obtain ⟨h₂, hexceptions, hevents, hreads⟩ := h₁.flushExceptions hsize
  obtain ⟨h₃, hevents', hexceptions', stale, hstale, hiff⟩ := h₂.flushEvents hsize
  obtain rfl := Option.some.inj ((h.traceStep_flush rfl h₂ hevents).symm.trans hstep)
  rw [hevents] at hiff hevents'
  refine ⟨h₃, ⟨?_, ?_⟩, stale, ?_, hiff⟩
  · rw [hexceptions', hexceptions]
  · rw [hevents']
  · rw [hstale, hreads]
    rfl

/-! ## Commits -/

theorem exceptionOffset_inj {i j : ℕ} (h : exceptionOffset i = exceptionOffset j) : i = j := by
  unfold exceptionOffset CAMRTC_TRACE_EXCEPTION_SIZE at h
  omega

theorem eventOffset_inj {i j : ℕ} (h : eventOffset i = eventOffset j) : i = j := by
  unfold eventOffset CAMRTC_TRACE_EVENT_SIZE at h
  omega

theorem exceptionOffset_ne_eventOffset {i : ℕ} (hi : i < 7) (j : ℕ) :
    exceptionOffset i ≠ eventOffset j := by
  unfold exceptionOffset eventOffset CAMRTC_TRACE_EXCEPTION_SIZE CAMRTC_TRACE_EXCEPTION_OFFSET
    CAMRTC_TRACE_EVENT_OFFSET
  omega

theorem stored_commit {n : ℕ} {offset : ℕ → ℕ} (hinj : ∀ i j, offset i = offset j → i = j)
    {memory : ℕ → α} {r : TraceRing α} (h : Stored n (fun i => memory (offset i)) r.committed r.processed)
    (hroom : r.committed.length < r.processed.length + n) (x : α) :
    Stored n (fun i => if offset i = offset (r.nextIdx n) then x else memory (offset i))
      (r.commit x).committed (r.commit x).processed := by
  have hfill : Stored n (fun i => if offset i = offset (r.nextIdx n) then x else memory (offset i))
      r.committed r.processed := by
    apply h.fill hroom
    intro j _ hne
    apply if_neg
    exact fun heq => hne (hinj _ _ heq)
  have hsend := hfill.send hroom
  have hslot : (if offset (r.committed.length % n) = offset (r.nextIdx n) then x
      else memory (offset (r.committed.length % n))) = x := if_pos rfl
  rwa [hslot] at hsend

theorem TraceInv.commitException (h : TraceInv size dma s) {x : α}
    (hstep : traceStep s (.commitException x) = some s') : TraceInv size dma s' := by
  obtain ⟨hroom, hs'⟩ := Option.ite_none_right_eq_some.mp hstep
  cases hs'
  rw [h.exceptionEntries] at hroom ⊢
  refine ⟨h.tracer, ?_, ?_, ?_, h.eventsRoom, h.synced, ?_⟩
  · exact stored_commit (fun _ _ => exceptionOffset_inj) h.exceptions h.exceptionsRoom x
  · have hother : (fun i => (s.store (exceptionOffset (s.exceptions.nextIdx 7))
        CAMRTC_TRACE_EXCEPTION_SIZE x).memory (eventOffset i)) = fun i => s.memory (eventOffset i) := by
      funext i
      apply if_neg
      exact (exceptionOffset_ne_eventOffset (Nat.mod_lt _ (by decide)) i).symm
    rw [hother]
    exact h.events
  · unfold TraceRing.HasRoom at hroom
    simpa [TraceRing.commit] using hroom
  · intro i hi
    exact List.mem_cons_of_mem _ (h.unsynced i hi)

theorem TraceInv.commitEvent (h : TraceInv size dma s) {x : α}
    (hstep : traceStep s (.commitEvent x) = some s') : TraceInv size dma s' := by
  obtain ⟨hroom, hs'⟩ := Option.ite_none_right_eq_some.mp hstep
  cases hs'
  have hprefix := h.events.isPrefix.length_le
  rw [h.eventEntries] at hroom ⊢
  refine ⟨h.tracer, ?_, ?_, h.exceptionsRoom, ?_, h.synced, ?_⟩
  · refine ⟨h.exceptions.isPrefix, h.exceptions.outstanding, ?_⟩
    intro i hi hlt
    have hne : exceptionOffset (i % 7) ≠ eventOffset (s.events.nextIdx (eventEntriesOf size)) :=
      exceptionOffset_ne_eventOffset (Nat.mod_lt _ (by decide)) _
    have hmemory : (s.store (eventOffset (s.events.nextIdx (eventEntriesOf size)))
        CAMRTC_TRACE_EVENT_SIZE x).memory (exceptionOffset (i % 7)) = s.memory (exceptionOffset (i % 7)) :=
      if_neg hne
    rw [hmemory]
    exact h.exceptions.contents i hi hlt
  · exact stored_commit (fun _ _ => eventOffset_inj) h.events h.eventsRoom x
  · unfold TraceRing.HasRoom at hroom
    simpa [TraceRing.commit] using hroom
  · intro i hi
    have hlen : (s.events.commit x).committed.length - (s.events.commit x).processed.length =
        s.events.committed.length - s.events.processed.length + 1 := by
      simp only [TraceRing.commit, List.length_append, List.length_singleton]
      omega
    rw [hlen, ringSlots_succ] at hi
    obtain hold | hnew := List.mem_append.mp hi
    · exact List.mem_cons_of_mem _ (h.unsynced i hold)
    · obtain rfl := List.mem_singleton.mp hnew
      have hnext : (s.events.commit x).processed.length +
          (s.events.committed.length - s.events.processed.length) = s.events.committed.length := by
        simp only [TraceRing.commit]
        omega
      rw [hnext]
      exact List.mem_cons_self

/-- **A step** keeps the invariant. -/
theorem traceInv_step (hsize : CAMRTC_TRACE_EVENT_OFFSET ≤ size.toNat) {op : TraceOp α}
    (h : TraceInv size dma s) (hstep : traceStep s op = some s') : TraceInv size dma s' := by
  cases op with
  | commitException x => exact h.commitException hstep
  | commitEvent x => exact h.commitEvent hstep
  | flush => exact (h.flush hsize hstep).1

/-- **The stale reads of a run**: there are none just when no flush finds an event. -/
theorem staleReads_run (hsize : CAMRTC_TRACE_EVENT_OFFSET ≤ size.toNat) {ops : List (TraceOp α)}
    {s t : TraceRun α} (h : TraceInv size dma s) (hrun : run traceStep s ops = some t) :
    ∃ stale, t.staleReads = s.staleReads ++ stale ∧
      (stale = [] ↔ AllSteps traceStep TraceRun.Careful s ops) := by
  induction ops generalizing s with
  | nil =>
    rw [run_nil, Option.some.injEq] at hrun
    exact ⟨[], by simp [hrun], by simp [AllSteps]⟩
  | cons op ops ih =>
    obtain ⟨s', hstep, hrest⟩ := run_cons_eq_some.mp hrun
    obtain ⟨rest, hrest', hiff⟩ := ih (traceInv_step hsize h hstep) hrest
    have hone : ∃ stale, s'.staleReads = s.staleReads ++ stale ∧ (stale = [] ↔ s.Careful op) := by
      cases op with
      | commitException x | commitEvent x =>
        obtain ⟨_, hs'⟩ := Option.ite_none_right_eq_some.mp hstep
        cases hs'
        exact ⟨[], by simp [TraceRun.store], by simp [TraceRun.Careful]⟩
      | flush => exact (h.flush hsize hstep).2.2
    obtain ⟨stale, hstale, hcareful⟩ := hone
    refine ⟨stale ++ rest, ?_, ?_⟩
    · rw [hrest', hstale, List.append_assoc]
    · rw [List.append_eq_nil_iff, hcareful, hiff]
      simp [AllSteps, hstep]

/-- **Draining the trace.**  Every flush drains both rings in order, and synchronizes ranges inside
the memory only; but every entry that is read was synchronized since its commit if and only if no
flush finds an event. -/
theorem trace_flushes_sound_iff (size : U32) (dmaHandle : ℕ) (memory : ℕ → α) (ops : List (TraceOp α))
    (t : TraceRun α) (hsize : CAMRTC_TRACE_EVENT_OFFSET + CAMRTC_TRACE_EVENT_SIZE ≤ size.toNat)
    (hrun : run traceStep (traceStart size dmaHandle memory) ops = some t) :
    (AllSteps traceStep FlushDrains (traceStart size dmaHandle memory) ops ∧ t.InOrder ∧
      t.SyncsInside size dmaHandle) ∧
    (TraceSound size dmaHandle memory ops ↔
      AllSteps traceStep TraceRun.Careful (traceStart size dmaHandle memory) ops) := by
  have hle : CAMRTC_TRACE_EVENT_OFFSET ≤ size.toNat := by omega
  have hstart := traceInv_start hsize dmaHandle memory
  have hinv : TraceInv size dmaHandle t :=
    run_invariant (fun _ _ _ h hstep => traceInv_step hle h hstep) hstart hrun
  have hdrains : AllSteps traceStep FlushDrains (traceStart size dmaHandle memory) ops := by
    apply allSteps_of_invariant (fun _ _ _ h hstep => traceInv_step hle h hstep) _ hstart
    intro s op h
    cases op with
    | commitException x | commitEvent x => trivial
    | flush => exact fun s' hstep => (h.flush hle hstep).2.1
  have horder : t.InOrder := ⟨hinv.exceptions.isPrefix, hinv.events.isPrefix⟩
  obtain ⟨stale, hstale, hiff⟩ := staleReads_run hle hstart hrun
  have hreads : t.ReadsSynced ↔ stale = [] := by
    unfold TraceRun.ReadsSynced
    rw [hstale]
    simp [traceStart]
  refine ⟨⟨hdrains, horder, hinv.synced⟩, ?_⟩
  rw [← hiff, ← hreads]
  constructor
  · intro hsound
    exact (hsound.final t hrun).2.2
  · intro hsynced
    refine ⟨hdrains, ?_⟩
    intro t' hrun'
    obtain rfl := Option.some.inj (hrun.symm.trans hrun')
    exact ⟨horder, hinv.synced, hsynced⟩

/-- Exceptions around the end of their ring, in a memory for one event. -/
def exceptionsRun : List (TraceOp ℕ) :=
  [.commitException 1, .commitException 2, .commitException 3, .commitException 4, .flush,
    .commitException 5, .commitException 6, .commitException 7, .commitException 8, .flush]

theorem trace_flushes_exceptionsRun :
    ∃ t, run traceStep (traceStart 0x10040 0 fun _ => 0) exceptionsRun = some t ∧
      t.exceptions.processed = [1, 2, 3, 4, 5, 6, 7, 8] ∧
      TraceSound 0x10040 0 (fun _ => 0) exceptionsRun := by
  refine exists_of_map (fun t => t.exceptions.processed) [1, 2, 3, 4, 5, 6, 7, 8] (by decide +kernel)
    fun t ht hp => ?_
  have hcareful : AllSteps traceStep TraceRun.Careful (traceStart 0x10040 0 fun _ => 0)
      exceptionsRun := by
    decide +kernel
  exact ⟨hp, (trace_flushes_sound_iff 0x10040 0 (fun _ => 0) exceptionsRun t (by decide) ht).2.mpr
    hcareful⟩

/-- **One event is enough**: the flush synchronizes the memory 0xf000 bytes before it. -/
theorem trace_flush_stale_event :
    ¬ TraceSound 0x10080 0 (fun _ => 0) [TraceOp.commitEvent 1, .flush] := by
  intro hsound
  have hstale : (run traceStep (traceStart 0x10080 0 fun _ => 0) [TraceOp.commitEvent 1, .flush]).map
      TraceRun.staleReads = some [0x10000] := by
    decide +kernel
  obtain ⟨t, ht, hreads⟩ := Option.map_eq_some_iff.mp hstale
  have hsynced := (hsound.final t ht).2.2
  rw [hsynced] at hreads
  cases hreads

end NvidiaOot.Analysis
