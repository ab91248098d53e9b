import NvidiaOot.Analysis.Host1xTimeout
import NvidiaOot.Analysis.Host1xIntr

/-!
# What an update gives back has been executed

A syncpoint of the channel stands at its count at the start and the increments of the slots
that the hardware has executed.  A job ends at the increments of all slots up to its last
gather, so when its end is reached the hardware has done these; what is left of the job then
is its tail.
-/

namespace NvidiaOot.Analysis

open Library Program Model

/-! ## Increments -/

@[simp] theorem incrsOn_nil (syncpt : ℕ) : incrsOn syncpt [] = 0 := rfl

@[simp] theorem incrsOn_cons (syncpt : ℕ) (slot : Slot) (slots : List Slot) :
    incrsOn syncpt (slot :: slots) = slotIncrs syncpt slot + incrsOn syncpt slots := by
  simp [incrsOn]

@[simp] theorem incrsOn_append (syncpt : ℕ) (l m : List Slot) :
    incrsOn syncpt (l ++ m) = incrsOn syncpt l + incrsOn syncpt m := by
  simp [incrsOn]

theorem incrsOn_take_succ {syncpt n : ℕ} {stream : List Slot} {slot : Slot} (h : stream[n]? = some slot) :
    incrsOn syncpt (stream.take (n + 1)) = incrsOn syncpt (stream.take n) + slotIncrs syncpt slot := by
  rw [List.take_add_one, h, incrsOn_append]
  simp

theorem incrsOn_take_of_le {syncpt a n : ℕ} (h : a ≤ n) (stream : List Slot) : incrsOn syncpt (stream.take n) =
      incrsOn syncpt (stream.take a) + incrsOn syncpt ((stream.drop a).take (n - a)) := by
  rw [← incrsOn_append, ← List.take_add]
  rw [Nat.add_sub_cancel' h]

/-- The slots of a submission that have yet to be pushed. -/
def pendingSlots (pending : List Push) : List Slot := pending.flatMap pushSlots

@[simp] theorem pendingSlots_nil : pendingSlots [] = [] := rfl

@[simp] theorem pendingSlots_cons (push : Push) (rest : List Push) :
    pendingSlots (push :: rest) = pushSlots push ++ pendingSlots rest := rfl

@[simp] theorem pendingSlots_append (l m : List Push) :
    pendingSlots (l ++ m) = pendingSlots l ++ pendingSlots m := by
  simp [pendingSlots]

theorem incrsOn_prefences (syncpt : ℕ) (cmds : List JobCmd) :
    incrsOn syncpt (pendingSlots (submitPrefences cmds)) = 0 := by
  have hwaits : ∀ l : List JobCmd,
      incrsOn syncpt (pendingSlots (l.flatMap submitPrefence)) = 0 := by
    intro l
    induction l with
    | nil => rfl
    | cons cmd l ih =>
      rw [List.flatMap_cons, pendingSlots_append, incrsOn_append, ih]
      cases cmd <;> rfl
  cases cmds with
  | nil => rfl
  | cons cmd rest =>
    show incrsOn syncpt (pendingSlots (_ :: (_ ++ _))) = 0
    rw [pendingSlots_cons, pendingSlots_append, incrsOn_append, incrsOn_append, hwaits]
    rfl

theorem incrsOn_submitGather (syncpt syncpt' : ℕ) (base : U32) (cmds : List JobCmd) :
    incrsOn syncpt (pendingSlots (cmds.flatMap (submitGather syncpt' base))) =
      if syncpt' = syncpt then gatherIncrs cmds else 0 := by
  induction cmds with
  | nil => simp [gatherIncrs]
  | cons cmd rest ih =>
    rw [List.flatMap_cons, pendingSlots_append, incrsOn_append, ih]
    cases cmd with
    | wait id threshold relative =>
      simp [submitGather, submitWait, submitSetclass, pushSlots, slotIncrs, gatherIncrs]
    | regWrite => simp [submitGather, pushSlots, slotIncrs, gatherIncrs]
    | gather incrs wide =>
      cases wide <;> by_cases heq : syncpt' = syncpt <;>
        simp [submitGather, pushSlots, slotIncrs, gatherIncrs, heq]

theorem gatherIncrs_dropWhile (cmds : List JobCmd) :
    gatherIncrs (cmds.dropWhile JobCmd.isPrefence) = gatherIncrs cmds := by
  induction cmds with
  | nil => rfl
  | cons cmd rest ih =>
    cases cmd with
    | wait id threshold relative =>
      cases relative with
      | true => rfl
      | false =>
        refine Eq.trans ih ?_
        simp [gatherIncrs]
    | gather incrs wide | regWrite => rfl

/-- A job's program increments its syncpoint before its gathers, in them and after them. -/
theorem incrsOn_program (syncpt : ℕ) (job : CdmaJob) (cmds : List JobCmd) (max : U32) :
    incrsOn syncpt (pendingSlots (channelProgramCdma job cmds max)) =
      if job.syncpt = syncpt then gatherIncrs cmds + 2 else 0 := by
  unfold channelProgramCdma
  rw [pendingSlots_append, pendingSlots_append, pendingSlots_append, incrsOn_append,
    incrsOn_append, incrsOn_append, incrsOn_prefences, incrsOn_submitGather, gatherIncrs_dropWhile]
  by_cases heq : job.syncpt = syncpt
  · simp [heq, submitWait, submitSetclass, pushSlots, slotIncrs]
    omega
  · simp [heq, submitWait, submitSetclass, pushSlots, slotIncrs]

/-! ## The slots in the ring -/

/-- The slots that have not been given back, the last of the stream, are in the ring. -/
structure Filled (popped : ℕ) (stream : List Slot) (pb : PushBuffer Slot) : Prop where
  inUse : ∃ used, stream.length = popped + used ∧ RingInUse popped used pb
  stored : Stored 1023 pb.mapped stream (stream.take popped)

theorem RingInUse.used_eq {pb : PushBuffer Slot} {start used used' : ℕ}
    (h : RingInUse start used pb) (h' : RingInUse start used' pb) : used = used' := by
  have hspace := h.space.symm.trans h'.space
  have hfits := h.fits
  have hfits' := h'.fits
  omega

namespace Filled

variable {popped : ℕ} {stream : List Slot} {pb : PushBuffer Slot}

section

variable (h : Filled popped stream pb)

include h

theorem length_eq {used : ℕ} (hring : RingInUse popped used pb) :
    stream.length = popped + used := by
  obtain ⟨used', hlength, hring'⟩ := h.inUse
  rw [hlength, hring'.used_eq hring]

theorem popped_le : popped ≤ stream.length := by
  obtain ⟨used, hlength, -⟩ := h.inUse
  omega

theorem pos : AtSlot pb.pos stream.length := by
  obtain ⟨used, hlength, hring⟩ := h.inUse
  rw [hlength]
  exact hring.pos

theorem space : (host1xPushbufferSpace pb).toNat + stream.length = popped + 1022 := by
  obtain ⟨used, hlength, hring⟩ := h.inUse
  have hspace := hring.space
  have hfits := hring.fits
  omega

theorem getElem? {i : ℕ} (hpopped : popped ≤ i)
    (hlt : i < stream.length) : stream[i]? = some (pb.mapped (i % 1023)) := by
  apply h.stored.contents i _ hlt
  rw [List.length_take]
  omega

theorem push (op : Slot) (hfree : 0 < (host1xPushbufferSpace pb).toNat) :
    Filled popped (stream ++ [op]) (host1xPushbufferPush pb op) := by
  have hspace := h.space
  have hle := h.popped_le
  have hslot : pb.slot = stream.length % 1023 := h.pos.div
  have hroom : stream.length < (stream.take popped).length + 1023 := by
    rw [List.length_take]
    omega
  obtain ⟨used, hlength, hring⟩ := h.inUse
  constructor
  · refine ⟨used + 1, ?_, hring.push (by omega) op⟩
    rw [List.length_append, hlength, List.length_singleton, add_assoc]
  · have hother : ∀ j, j < 1023 → j ≠ stream.length % 1023 →
        (host1xPushbufferPush pb op).mapped j = pb.mapped j := by
      intro j _ hne
      rw [← hslot] at hne
      exact if_neg hne
    have hnew : (host1xPushbufferPush pb op).mapped (stream.length % 1023) = op :=
      if_pos hslot.symm
    have hsent := (h.stored.fill hroom hother).send hroom
    rwa [hnew, ← List.take_append_of_le_length hle] at hsent

theorem space_push (op : Slot) (hfree : 0 < (host1xPushbufferSpace pb).toNat) :
    (host1xPushbufferSpace (host1xPushbufferPush pb op)).toNat + 1 = (host1xPushbufferSpace pb).toNat := by
  have hspace := h.space
  have hspace' := (h.push op hfree).space
  rw [List.length_append, List.length_singleton] at hspace'
  omega

theorem pop {popped' used : ℕ} {pb' : PushBuffer Slot}
    (hlength : stream.length = popped' + used) (hring : RingInUse popped' used pb')
    (hle : popped ≤ popped') (hmapped : pb'.mapped = pb.mapped) : Filled popped' stream pb' := by
  have hfits := hring.fits
  refine ⟨⟨used, hlength, hring⟩, List.take_prefix popped' stream, ?_, ?_⟩
  · rw [List.length_take]
    omega
  · intro i hpopped hlt
    rw [List.length_take] at hpopped
    rw [hmapped]
    exact h.getElem? (by omega) hlt

end

end Filled

/-! ## Pushes -/

/-- What a push leaves alone; it may flush what was there before. -/
structure PushFrame (cdma cdma' : Cdma Slot) : Prop where
  syncQueue : cdma'.syncQueue = cdma.syncQueue
  lastPos : cdma'.lastPos = cdma.lastPos ∨ cdma'.lastPos = cdma.pushBuffer.pos

section

variable {popped : ℕ} {stream : List Slot} {run : CdmaRun Slot} {cdma : Cdma Slot}

theorem filled_push (hrun : RunInv popped run) (hfilled : Filled popped stream run.cdma.pushBuffer)
    {op : Slot} (hpush : host1xCdmaPush op run.cdma = some cdma) :
    Filled popped (stream ++ [op]) cdma.pushBuffer ∧ PushFrame run.cdma cdma := by
  have hcached := hrun.slotsFree
  have hspace := hrun.space
  unfold host1xCdmaPush at hpush
  simp only [Option.ite_none_left_eq_some, Option.some.injEq] at hpush
  obtain ⟨hne, rfl⟩ := hpush
  -- the slots that are taken for free are no more than the space
  have hfree : 0 < (host1xPushbufferSpace run.cdma.pushBuffer).toNat := by
    by_cases hzero : run.cdma.slotsFree = 0
    · rw [if_pos hzero] at hne
      have := toNat_pred_of_ne hne
      omega
    · have := toNat_pred_of_ne hzero
      omega
  refine ⟨hfilled.push op hfree, ?_, ?_⟩
  · split <;> rfl
  · split
    · exact Or.inr rfl
    · exact Or.inl rfl

theorem filled_pushWide (hfilled : Filled popped stream run.cdma.pushBuffer) {op₁ op₂ : Slot}
    (hpush : host1xCdmaPushWide .nop op₁ op₂ run.cdma = some cdma) :
    Filled popped (stream ++ (if pushWideExtra run.cdma.pushBuffer > 0 then [.nop] else []) ++
      [op₁, op₂]) cdma.pushBuffer ∧ PushFrame run.cdma cdma := by
  have hextra : pushWideExtra run.cdma.pushBuffer = 0 ∨ pushWideExtra run.cdma.pushBuffer = 1 := by
    obtain ⟨used, -, hring⟩ := hfilled.inUse
    rw [RunInv.pushWideExtra_eq hring]
    split
    · exact Or.inr rfl
    · exact Or.inl rfl
  unfold host1xCdmaPushWide at hpush
  simp only [Option.ite_none_left_eq_some, Option.some.injEq, BitVec.not_lt] at hpush
  obtain ⟨hspace, rfl⟩ := hpush
  refine ⟨?_, rfl, Or.inl rfl⟩
  rcases hextra with hextra | hextra
  · rw [hextra] at hspace ⊢
    rw [if_neg (by decide), if_neg (by decide), List.append_nil]
    have hle : 2 ≤ (host1xPushbufferSpace run.cdma.pushBuffer).toNat := hspace
    have h₁ := hfilled.push op₁ (by omega)
    have hspace₁ := hfilled.space_push op₁ (by omega)
    have h₂ := h₁.push op₂ (by omega)
    rwa [List.append_assoc] at h₂
  rw [hextra] at hspace ⊢
  have hle : 3 ≤ (host1xPushbufferSpace run.cdma.pushBuffer).toNat := hspace
  have h₀ := hfilled.push .nop (by omega)
  have hspace₀ := hfilled.space_push .nop (by omega)
  have h₁ := h₀.push op₁ (by omega)
  have hspace₁ := h₀.space_push op₁ (by omega)
  have h₂ := h₁.push op₂ (by omega)
  rwa [List.append_assoc] at h₂

end

/-! ## What is flushed -/

theorem host1xCdmaBegin_lastPos (locked : Bool) (timeoutInit : ℤ) (job : CdmaJob) (cdma : Cdma Slot) :
    (host1xCdmaBegin locked timeoutInit job cdma).2.lastPos = cdma.lastPos ∨
      (host1xCdmaBegin locked timeoutInit job cdma).2.lastPos = cdma.pushBuffer.pos := by
  unfold host1xCdmaBegin
  dsimp only
  split
  · exact Or.inl rfl
  split
  · exact Or.inl rfl
  unfold cdmaStart
  split <;> split
  · exact Or.inl rfl
  · exact Or.inr rfl
  · exact Or.inl rfl
  · exact Or.inr rfl

theorem host1xCdmaEnd_lastPos (job : CdmaJob) (cdma : Cdma Slot) :
    (host1xCdmaEnd job cdma).lastPos = cdma.pushBuffer.pos := by
  unfold host1xCdmaEnd
  dsimp only
  split
  · unfold cdmaStartTimerLocked
    split <;> rfl
  · rfl

/-! ## The invariant -/

/-- A job of the channel whose slots begin at number `start`: its end counts the increments
before it, the one that sees the engine idle and those of its gathers. -/
structure JobAt (own : ℕ → Bool) (count₀ max : ℕ → ℕ) (stream : List Slot) (start : ℕ)
    (job : CdmaJob) : Prop where
  start_le : start ≤ stream.length
  own : own job.syncpt = true
  not_cancelled : job.cancelled = false
  syncptEnd : job.syncptEnd =
    word 31 (count₀ job.syncpt + incrsOn job.syncpt (stream.take start) + 1 + job.syncptIncrs.toNat)
  end_le : count₀ job.syncpt + incrsOn job.syncpt (stream.take start) + 1 +
    job.syncptIncrs.toNat ≤ max job.syncpt

def JobsAt (own : ℕ → Bool) (count₀ max : ℕ → ℕ) (stream : List Slot) : ℕ → List CdmaJob → Prop
  | _, [] => True
  | start, job :: rest =>
    JobAt own count₀ max stream start job ∧
      JobsAt own count₀ max stream (start + job.numSlots.toNat) rest

section

variable {own : ℕ → Bool} {count₀ max max' : ℕ → ℕ} {stream : List Slot} {start : ℕ}
  {job : CdmaJob} {jobs : List CdmaJob}

theorem JobAt.mono (h : JobAt own count₀ max stream start job) (more : List Slot)
    (hmax : ∀ syncpt, max syncpt ≤ max' syncpt) : JobAt own count₀ max' (stream ++ more) start job where
  start_le := by
    have := h.start_le
    rw [List.length_append]
    omega
  own := h.own
  not_cancelled := h.not_cancelled
  syncptEnd := by
    rw [List.take_append_of_le_length h.start_le]
    exact h.syncptEnd
  end_le := by
    rw [List.take_append_of_le_length h.start_le]
    exact h.end_le.trans (hmax _)

theorem JobsAt.mono (h : JobsAt own count₀ max stream start jobs) (more : List Slot)
    (hmax : ∀ syncpt, max syncpt ≤ max' syncpt) : JobsAt own count₀ max' (stream ++ more) start jobs := by
  induction jobs generalizing start with
  | nil => trivial
  | cons job rest ih => exact ⟨h.1.mono more hmax, ih h.2⟩

theorem JobsAt.append (h : JobsAt own count₀ max stream start jobs)
    (hjob : JobAt own count₀ max stream (start + slotSum jobs) job) :
    JobsAt own count₀ max stream start (jobs ++ [job]) := by
  induction jobs generalizing start with
  | nil => exact ⟨hjob, trivial⟩
  | cons first rest ih =>
    rw [slotSum_cons, ← add_assoc] at hjob
    exact ⟨h.1, ih h.2 hjob⟩

end

structure ExecInv (own : ℕ → Bool) (count₀ : ℕ → ℕ) (s : ChannelExec) : Prop where
  run : RunInv s.popped s.run
  filled : Filled s.popped s.stream s.run.cdma.pushBuffer
  /-- The hardware is between what has been given back and the last position it was given. -/
  executed : s.popped ≤ s.got
  put : ∃ put, AtSlot s.run.cdma.lastPos put ∧ s.got ≤ put ∧ put ≤ s.stream.length
  gather : 0 < s.gatherDone →
    ∃ syncpt incrs, s.stream[s.got]? = some (.gather syncpt incrs) ∧ s.gatherDone ≤ incrs
  count : ∀ syncpt, own syncpt = true → s.count syncpt =
    count₀ syncpt + incrsOn syncpt (s.stream.take s.got) + s.midGather syncpt
  max : ∀ syncpt, own syncpt = true → s.max syncpt =
    count₀ syncpt + incrsOn syncpt (s.stream ++ pendingSlots s.pending)
  cached : ∀ syncpt, s.cached syncpt ≤ s.count syncpt
  jobs : JobsAt own count₀ s.max s.stream s.popped s.run.cdma.syncQueue
  current : ∀ job, s.run.job = some job →
    JobAt own count₀ s.max s.stream (s.popped + s.run.queued) job
  idle : s.run.job = none → s.pending = []

theorem execInv_start (own : ℕ → Bool) (count : ℕ → ℕ) : ExecInv own count (execStart count) where
  run := runInv_start _
  filled := ⟨⟨0, rfl, ringInUse_init _⟩, Stored.empty 1023 _⟩
  executed := le_refl 0
  put := ⟨0, rfl, le_refl 0, le_refl 0⟩
  gather := by simp [execStart]
  count := by simp [execStart, ChannelExec.midGather]
  max := by simp [execStart]
  cached := fun _ => le_refl _
  jobs := trivial
  current := by simp [execStart, cdmaRunStart]
  idle := fun _ => rfl

namespace ExecInv

variable {own : ℕ → Bool} {count₀ : ℕ → ℕ} {s s' : ChannelExec}

section

variable (h : ExecInv own count₀ s)

include h

theorem got_le : s.got ≤ s.stream.length := by
  obtain ⟨put, -, hgot, hput⟩ := h.put
  exact hgot.trans hput

theorem put_of_flush {lastPos : U32} {stream : List Slot}
    (hlength : s.stream.length ≤ stream.length)
    (hflush : lastPos = s.run.cdma.lastPos ∨ lastPos = s.run.cdma.pushBuffer.pos) :
    ∃ put, AtSlot lastPos put ∧ s.got ≤ put ∧ put ≤ stream.length := by
  rcases hflush with hsame | hpos
  · obtain ⟨put, hat, hgot, hput⟩ := h.put
    exact ⟨put, by rwa [hsame], hgot, hput.trans hlength⟩
  · exact ⟨s.stream.length, by rw [hpos]; exact h.filled.pos, h.got_le, hlength⟩

/-- The slot that the hardware is at is the same in a longer stream, unless there was none. -/
theorem midGather_append (more : List Slot) (syncpt : ℕ)
    {run : CdmaRun Slot} {pending : List Push} :
    ({ s with run := run, pending := pending, stream := s.stream ++ more } :
      ChannelExec).midGather syncpt = s.midGather syncpt := by
  unfold ChannelExec.midGather
  by_cases hlt : s.got < s.stream.length
  · rw [List.getElem?_append_left hlt]
  have hnone : s.stream[s.got]? = none := List.getElem?_eq_none (by omega)
  have hzero : s.gatherDone = 0 := by
    by_contra hne
    obtain ⟨syncpt, incrs, hsome, -⟩ := h.gather (by omega)
    rw [hnone] at hsome
    cases hsome
  rw [hnone, hzero]
  split
  · exact ite_self 0
  · rfl

theorem extend {run : CdmaRun Slot} {pending : List Push}
    {more : List Slot} (hrun : RunInv s.popped run)
    (hfilled : Filled s.popped (s.stream ++ more) run.cdma.pushBuffer)
    (hframe : PushFrame s.run.cdma run.cdma) (hjob : run.job = s.run.job) (hbusy : s.run.job.isSome = true)
    (hpending : ∀ syncpt, incrsOn syncpt more + incrsOn syncpt (pendingSlots pending) =
      incrsOn syncpt (pendingSlots s.pending)) : ExecInv own count₀
      { s with run := run, pending := pending, stream := s.stream ++ more } where
  run := hrun
  filled := hfilled
  executed := h.executed
  put := h.put_of_flush (by rw [List.length_append]; omega) hframe.lastPos
  gather := by
    intro hpos
    obtain ⟨syncpt, incrs, hget, hle⟩ := h.gather hpos
    have hlt := (List.getElem?_eq_some_iff.mp hget).1
    exact ⟨syncpt, incrs, by rw [List.getElem?_append_left hlt]; exact hget, hle⟩
  count := by
    intro syncpt hown
    rw [h.midGather_append more, List.take_append_of_le_length h.got_le]
    exact h.count syncpt hown
  max := by
    intro syncpt hown
    have hmax := h.max syncpt hown
    have hsum := hpending syncpt
    rw [incrsOn_append] at hmax
    dsimp only
    rw [incrsOn_append, incrsOn_append]
    omega
  cached := h.cached
  jobs := by
    show JobsAt _ _ _ _ _ run.cdma.syncQueue
    rw [hframe.syncQueue]
    exact h.jobs.mono more fun _ => le_refl _
  current := by
    intro job hsome
    have hqueued : run.queued = s.run.queued := congrArg slotSum hframe.syncQueue
    show JobAt _ _ _ _ (s.popped + run.queued) job
    rw [hqueued]
    exact (h.current job (hjob ▸ hsome)).mono more fun _ => le_refl _
  idle := by
    intro hnone
    rw [← hjob, hnone] at hbusy
    cases hbusy

theorem push (hpush : s.push = some s') : ExecInv own count₀ s' := by
  unfold ChannelExec.push at hpush
  split at hpush
  · cases hpush
  · next op rest hpending =>
    simp only [cdmaStep, Option.map_eq_some_iff, Option.ite_none_right_eq_some] at hpush
    obtain ⟨run, ⟨hpushing, cdma, hcdma, rfl⟩, rfl⟩ := hpush
    obtain ⟨hfilled, hframe⟩ := filled_push h.run h.filled hcdma
    apply h.extend (h.run.push hpushing.1 hcdma) hfilled hframe rfl hpushing.1
    intro syncpt
    rw [hpending, pendingSlots_cons, incrsOn_append]
    rfl
  · next op₁ op₂ rest hpending =>
    simp only [cdmaStep, Option.map_eq_some_iff, Option.ite_none_right_eq_some] at hpush
    obtain ⟨run, ⟨hpushing, cdma, hcdma, rfl⟩, rfl⟩ := hpush
    obtain ⟨hfilled, hframe⟩ := filled_pushWide h.filled hcdma
    rw [List.append_assoc] at hfilled ⊢
    apply h.extend (h.run.pushWide hpushing.1 hcdma) hfilled hframe rfl hpushing.1
    intro syncpt
    rw [hpending, pendingSlots_cons, incrsOn_append, incrsOn_append]
    -- the padding increments nothing
    have hpadding : incrsOn syncpt
        (if pushWideExtra s.run.cdma.pushBuffer > 0 then [.nop] else []) = 0 := by
      split <;> rfl
    rw [hpadding, zero_add]
    rfl

theorem wait {kind : PushKind} {run : CdmaRun Slot}
    (hwait : cdmaStep .nop s.run (.wait kind) = some run) : ExecInv own count₀ { s with run := run } := by
  simp only [cdmaStep, Option.ite_none_right_eq_some, Option.some.injEq] at hwait
  obtain ⟨-, rfl⟩ := hwait
  have hput := h.put_of_flush (le_refl s.stream.length)
    (Or.inr rfl : s.run.cdma.pushBuffer.pos = _ ∨ s.run.cdma.pushBuffer.pos = _)
  have hrun := h.run
  unfold host1xCdmaWait
  dsimp only
  split <;> exact { h with run := { hrun with }, put := hput }

theorem finish (hempty : s.pending = []) {run : CdmaRun Slot}
    (hfinish : cdmaStep .nop s.run .finish = some run) : ExecInv own count₀ { s with run := run } := by
  simp only [cdmaStep] at hfinish
  split at hfinish
  · next job hjob hwaiting =>
    cases hfinish
    obtain ⟨hpb, -, hqueue⟩ := host1xCdmaEnd_fields job s.run.cdma
    exact { h with
      run := h.run.finish hjob
      filled := by
        rw [hpb]
        exact h.filled
      put := by
        apply h.put_of_flush (le_refl s.stream.length)
        exact Or.inr (host1xCdmaEnd_lastPos job s.run.cdma)
      jobs := by
        rw [hqueue]
        have hcurrent := h.current job hjob
        exact h.jobs.append { hcurrent with }
      current := by
        intro _ hnone
        cases hnone
      idle := fun _ => hempty }
  · cases hfinish

theorem submit {timeoutInit : ℤ} {job : CdmaJob}
    {cmds : List JobCmd} (hnone : s.run.job = none) (hown : own job.syncpt = true)
    (hcancelled : job.cancelled = false) (hgathers : gatherIncrs cmds = job.syncptIncrs.toNat) :
    ExecInv own count₀ (s.submit timeoutInit job cmds) := by
  have hlength := h.filled.length_eq h.run.ring
  have hbefore := h.max job.syncpt hown
  rw [h.idle hnone, pendingSlots_nil, List.append_nil] at hbefore
  rw [CdmaRun.inProgress, hnone] at hlength
  unfold ChannelExec.submit
  dsimp only
  obtain ⟨job', hjob'⟩ : ∃ job' : CdmaJob,
    job' = { job with syncptEnd := jobSyncptEnd job (word 31 (s.max job.syncpt)) } := ⟨_, rfl⟩
  rw [← hjob']
  have hrun := h.run.begin hnone false timeoutInit job'
  have hflush := host1xCdmaBegin_lastPos false timeoutInit job' s.run.cdma
  rcases host1xCdmaBegin_cases false timeoutInit job' s.run.cdma with ⟨hne, heq⟩ | ⟨hok, hbegun⟩
  · -- it is refused
    have hsame : s.run.begin false timeoutInit job' = s.run := by
      rw [CdmaRun.begin, heq, if_neg hne, ← hnone]
    rw [hsame, hnone]
    exact h
  have hbegin : (s.run.begin false timeoutInit job').job = some job' := if_pos hok
  have hqueue : (s.run.begin false timeoutInit job').cdma.syncQueue = s.run.cdma.syncQueue :=
    hbegun.syncQueue
  have hpb : (s.run.begin false timeoutInit job').cdma.pushBuffer =
      { s.run.cdma.pushBuffer with wrote := [] } := hbegun.pushBuffer
  rw [hbegin, if_pos (by rfl)]
  have hmax : ∀ syncpt, s.max syncpt ≤
      bump s.max job.syncpt (job.syncptIncrs.toNat + 2) syncpt := by
    intro syncpt
    unfold bump
    split <;> omega
  exact {
    run := hrun
    filled := by
      rw [hpb]
      obtain ⟨used, hused, hring⟩ := h.filled.inUse
      exact h.filled.pop hused { hring with } (le_refl _) rfl
    executed := h.executed
    put := h.put_of_flush (le_refl s.stream.length) hflush
    gather := h.gather
    count := h.count
    max := by
      intro syncpt hsp
      have hold := h.max syncpt hsp
      rw [h.idle hnone, pendingSlots_nil, List.append_nil] at hold
      dsimp only
      rw [incrsOn_append, incrsOn_program, hgathers, ← add_assoc, ← hold]
      unfold bump
      by_cases heq : job.syncpt = syncpt
      · rw [if_pos heq.symm, if_pos heq]
      · rw [if_neg (Ne.symm heq), if_neg heq, add_zero]
    cached := h.cached
    jobs := by
      rw [hqueue]
      have hmono := h.jobs.mono [] hmax
      rwa [List.append_nil] at hmono
    current := by
      intro current hcurrent
      rw [hbegin, Option.some.injEq] at hcurrent
      subst hcurrent
      have hqueued : (s.run.begin false timeoutInit job').queued = s.run.queued :=
        congrArg slotSum hqueue
      have htake : s.stream.take (s.popped + s.run.queued) = s.stream :=
        List.take_of_length_le (by simpa using hlength.le)
      rw [hqueued]
      subst hjob'
      refine ⟨by simpa using hlength.ge, hown, hcancelled, ?_, ?_⟩
      · rw [htake, ← hbefore]
        simp [jobSyncptEnd, word, BitVec.ofNat_add]
      · rw [htake, ← hbefore]
        simp [bump]
        omega
    idle := by
      intro hnot
      rw [hbegin] at hnot
      cases hnot }

theorem advance {slot : Slot} {count : ℕ → ℕ} (hslot : s.stream[s.got]? = some slot)
    (hput : ∃ put, AtSlot s.run.cdma.lastPos put ∧ s.got < put ∧ put ≤ s.stream.length)
    (hcount : ∀ syncpt, count syncpt + s.midGather syncpt = s.count syncpt + slotIncrs syncpt slot)
    (hle : ∀ syncpt, s.count syncpt ≤ count syncpt) : ExecInv own count₀ { s.advance with count := count } where
  run := h.run
  filled := h.filled
  executed := h.executed.trans (Nat.le_succ _)
  put := hput
  gather := by simp [ChannelExec.advance]
  count := by
    intro syncpt hown
    have hold := h.count syncpt hown
    have hnew := hcount syncpt
    have hmid : ({ s.advance with count := count } : ChannelExec).midGather syncpt = 0 := by
      unfold ChannelExec.midGather
      split
      · exact ite_self 0
      · rfl
    rw [hmid]
    show count syncpt = _ + incrsOn syncpt (s.stream.take (s.got + 1)) + 0
    rw [incrsOn_take_succ hslot]
    omega
  max := h.max
  cached := fun syncpt => (h.cached syncpt).trans (hle syncpt)
  jobs := h.jobs
  current := h.current
  idle := h.idle

end

theorem midGather_of_gather {syncpt' incrs : ℕ}
    (hslot : s.stream[s.got]? = some (.gather syncpt' incrs)) (syncpt : ℕ) :
    s.midGather syncpt = if syncpt' = syncpt then s.gatherDone else 0 := by
  rw [ChannelExec.midGather, hslot]

theorem midGather_of_ne {slot : Slot} (hslot : s.stream[s.got]? = some slot)
    (hne : ∀ syncpt incrs, slot ≠ .gather syncpt incrs) (syncpt : ℕ) : s.midGather syncpt = 0 := by
  rw [ChannelExec.midGather, hslot]
  cases slot with
  | gather syncpt' incrs => exact absurd rfl (hne syncpt' incrs)
  | nop | incr _ | wait _ _ => rfl

section

variable (h : ExecInv own count₀ s)

include h

theorem hardware (hstep : s.hardware = some s') : ExecInv own count₀ s' := by
  unfold ChannelExec.hardware at hstep
  obtain ⟨put, hat, hgot, hlength⟩ := h.put
  simp only [Option.ite_none_left_eq_some] at hstep
  obtain ⟨hne, hstep⟩ := hstep
  have hlt : s.got < put := by
    apply lt_of_le_of_ne hgot
    rintro rfl
    exact hne hat
  have hput : ∃ put, AtSlot s.run.cdma.lastPos put ∧ s.got < put ∧ put ≤ s.stream.length :=
    ⟨put, hat, hlt, hlength⟩
  have hslot := h.filled.getElem? h.executed (hlt.trans_le hlength)
  rw [show host1xPushbufferSlots = 1023 from rfl] at hstep
  cases hop : s.run.cdma.pushBuffer.mapped (s.got % 1023) with
  | nop =>
    rw [hop] at hslot hstep
    cases hstep
    apply h.advance hslot hput _ fun _ => le_refl _
    intro syncpt
    rw [midGather_of_ne hslot (by simp)]
    rfl
  | incr syncpt' =>
    rw [hop] at hslot hstep
    cases hstep
    apply h.advance hslot hput
    · intro syncpt
      rw [midGather_of_ne hslot (by simp)]
      simp only [bump, slotIncrs, eq_comm (a := syncpt')]
      split <;> omega
    · intro syncpt
      unfold bump
      split <;> omega
  | wait syncpt' threshold =>
    rw [hop] at hslot hstep
    obtain ⟨-, hsome⟩ := Option.ite_none_right_eq_some.mp hstep
    cases hsome
    apply h.advance hslot hput _ fun _ => le_refl _
    intro syncpt
    rw [midGather_of_ne hslot (by simp)]
    rfl
  | gather syncpt' incrs =>
    rw [hop] at hslot hstep
    dsimp only at hstep
    split at hstep
    · next hmore =>
      -- one more increment of the gather
      cases hstep
      have hmid : ∀ syncpt, ({ s with
          count := bump s.count syncpt' 1, gatherDone := s.gatherDone + 1 } :
          ChannelExec).midGather syncpt =
          s.midGather syncpt + if syncpt = syncpt' then 1 else 0 := by
        intro syncpt
        rw [midGather_of_gather hslot, midGather_of_gather (s := { s with
          count := bump s.count syncpt' 1, gatherDone := s.gatherDone + 1 }) hslot]
        simp only [eq_comm (a := syncpt')]
        split <;> rfl
      have hle : ∀ syncpt, s.count syncpt ≤ bump s.count syncpt' 1 syncpt := by
        intro syncpt
        unfold bump
        split <;> omega
      exact { h with
        gather := fun _ => ⟨syncpt', incrs, hslot, hmore⟩
        count := by
          intro syncpt hown
          have hold := h.count syncpt hown
          rw [hmid]
          show bump s.count syncpt' 1 syncpt =
            count₀ syncpt + incrsOn syncpt (s.stream.take s.got) + _
          unfold bump
          by_cases heq : syncpt = syncpt'
          · rw [if_pos heq, if_pos heq, hold, add_assoc]
          · rw [if_neg heq, if_neg heq, hold]
            rfl
        cached := fun syncpt => (h.cached syncpt).trans (hle syncpt) }
    next hdone =>
    cases hstep
    apply h.advance hslot hput _ fun _ => le_refl _
    intro syncpt
    rw [midGather_of_gather hslot]
    have hall : s.gatherDone = incrs := by
      by_cases hpos : 0 < s.gatherDone
      · obtain ⟨syncpt'', incrs', hget, hle⟩ := h.gather hpos
        rw [hslot] at hget
        cases hget
        omega
      · omega
    rw [hall]
    rfl

/-! ### Updates -/

theorem midGather_le {slot : Slot} (hslot : s.stream[s.got]? = some slot) (syncpt : ℕ) :
    s.midGather syncpt ≤ slotIncrs syncpt slot := by
  rw [ChannelExec.midGather, hslot]
  cases slot with
  | gather syncpt' incrs =>
    have hle : s.gatherDone ≤ incrs := by
      by_cases hpos : 0 < s.gatherDone
      · obtain ⟨syncpt'', incrs', hget, hle⟩ := h.gather hpos
        rw [hslot] at hget
        cases hget
        exact hle
      · omega
    simp only [slotIncrs]
    split
    · exact hle
    · exact le_refl 0
  | nop | incr _ | wait _ _ => exact Nat.zero_le _

/-- **The core.**  When the end of a job is reached, the hardware has executed the job or is in
its tail. -/
theorem executed_of_end_le {start : ℕ} {job : CdmaJob}
    (hjob : JobAt own count₀ s.max s.stream start job)
    (hend : count₀ job.syncpt + incrsOn job.syncpt (s.stream.take start) + 1 +
      job.syncptIncrs.toNat ≤ s.count job.syncpt)
    (htail : ¬ s.InTail start job) : start + job.numSlots.toNat ≤ s.got := by
  rw [h.count job.syncpt hjob.own] at hend
  by_cases hstart : start ≤ s.got
  · rw [incrsOn_take_of_le hstart] at hend
    by_contra hlt
    exact htail ⟨hstart, by omega, by omega⟩
  -- before the job, the increments before it are not all done
  exfalso
  have hlt : s.got < s.stream.length := by
    have := hjob.start_le
    omega
  have hslot : s.stream[s.got]? = some s.stream[s.got] := List.getElem?_eq_getElem hlt
  have hmid := h.midGather_le hslot job.syncpt
  have hnext : s.got + 1 ≤ start := by omega
  rw [incrsOn_take_of_le hnext, incrsOn_take_succ hslot] at hend
  omega

/-- What an update gives back has been executed, and the jobs that stay lie behind it. -/
theorem executed_updateQueue {jobs : List CdmaJob} {start : ℕ}
    (hjobs : JobsAt own count₀ s.max s.stream start jobs) (htail : s.NotInTail start jobs)
    (hnear : ∀ job ∈ jobs, s.max job.syncpt ≤ s.cached job.syncpt + 2 ^ 31)
    (hstart : start ≤ s.got) (cdma : Cdma Slot) {updated : Cdma Slot × List CdmaJob}
    (hupdated : updateQueue (fun syncpt => word 31 (s.cached syncpt)) jobs cdma = updated) :
    start + slotSum updated.2 ≤ s.got ∧
      JobsAt own count₀ s.max s.stream (start + slotSum updated.2) updated.1.syncQueue := by
  subst hupdated
  induction jobs generalizing start cdma with
  | nil => exact ⟨hstart, trivial⟩
  | cons job rest ih =>
    have hjob := hjobs.1
    unfold updateQueue
    rw [hjob.not_cancelled, Bool.not_false, Bool.and_true]
    dsimp only
    split
    · -- it stays, with all behind it
      refine ⟨hstart, ?_⟩
      split_ifs with htimeout
      · unfold cdmaStartTimerLocked
        split <;> exact hjobs
      · exact hjobs
    next hexpired =>
    rw [Bool.not_eq_true', Bool.not_eq_false] at hexpired
    have hreached := (host1xSyncptIsExpired_iff _ _).mp hexpired
    rw [hjob.syncptEnd] at hreached
    have hread : count₀ job.syncpt + incrsOn job.syncpt (s.stream.take start) + 1 +
        job.syncptIncrs.toNat ≤ s.cached job.syncpt := by
      by_contra hlt
      have hmax := hnear job List.mem_cons_self
      exact not_reached_of_lt (not_le.mp hlt) (hjob.end_le.trans hmax) hreached
    have hdone := h.executed_of_end_le hjob (hread.trans (h.cached _)) (htail.1 hexpired)
    have hrest := ih hjobs.2 htail.2
      (fun job' hmem => hnear job' (List.mem_cons_of_mem job hmem)) hdone (retireJob job cdma)
    rwa [slotSum_cons, ← add_assoc]

end

theorem updateCdmaLocked_queue (value : ℕ → U32) (cdma : Cdma Slot) :
    (updateCdmaLocked value cdma).2 = (updateQueue value cdma.syncQueue cdma).2 ∧
      (updateCdmaLocked value cdma).1.syncQueue = (updateQueue value cdma.syncQueue cdma).1.syncQueue := by
  unfold updateCdmaLocked
  dsimp only
  split <;> exact ⟨rfl, rfl⟩

theorem update (h : ExecInv own count₀ s) (hcareful : s.Careful .update) : ExecInv own count₀ s.update := by
  obtain ⟨htail, hnear⟩ := hcareful
  obtain ⟨start, hsum, hrun⟩ := h.run.update fun syncpt => word 31 (s.cached syncpt)
  have hexecuted := h.executed_updateQueue h.jobs htail hnear h.executed s.run.cdma rfl
  obtain ⟨hunpinned, hqueue⟩ :=
    updateCdmaLocked_queue (fun syncpt => word 31 (s.cached syncpt)) s.run.cdma
  rw [← hunpinned, ← hqueue] at hexecuted
  have hjobs := updateCdmaLocked_jobs (fun syncpt => word 31 (s.cached syncpt)) s.run.cdma
  obtain ⟨hmapped, hlast⟩ := updateCdmaLocked_frame (fun syncpt => word 31 (s.cached syncpt)) s.run.cdma
  have hused := (updated_updateCdmaLocked (fun syncpt => word 31 (s.cached syncpt))
    s.run.inProgress h.run.ring h.run.laid).slotsUsed
  have hlength := h.filled.length_eq h.run.ring
  unfold ChannelExec.update
  generalize updateCdmaLocked (fun syncpt => word 31 (s.cached syncpt)) s.run.cdma = updated
    at hsum hrun hexecuted hjobs hmapped hlast hused
  have hqueued : s.run.queued = slotSum updated.2 + slotSum updated.1.syncQueue := by
    rw [CdmaRun.queued, ← hjobs, slotSum_append_list]
  have hstart : start = s.popped + slotSum updated.2 := by omega
  have hprogress : ({ s.run with cdma := updated.1 } : CdmaRun Slot).inProgress =
      s.run.inProgress := by
    simp only [CdmaRun.inProgress, hused]
  subst hstart
  exact { h with
    run := hrun
    filled := by
      apply h.filled.pop _ hrun.ring (Nat.le_add_right _ _) hmapped
      rw [hlength, hprogress]
      show _ = _ + (slotSum updated.1.syncQueue + _)
      omega
    executed := hexecuted.1
    put := by
      rw [hlast]
      exact h.put
    jobs := hexecuted.2
    current := by
      intro job hjob
      have hsame : s.popped + slotSum updated.2 +
          ({ s.run with cdma := updated.1 } : CdmaRun Slot).queued =
          s.popped + s.run.queued := hsum
      rw [hsame]
      exact h.current job hjob }

theorem step (h : ExecInv own count₀ s) {op : ExecOp} (hcareful : s.Careful op)
    (hstep : execStep own s op = some s') : ExecInv own count₀ s' := by
  cases op with
  | submit timeoutInit job cmds =>
    simp only [execStep, Option.ite_none_right_eq_some, Option.some.injEq, Bool.not_eq_true',
      Option.isNone_iff_eq_none] at hstep
    obtain ⟨⟨hnone, hown, hcancelled, hgathers⟩, rfl⟩ := hstep
    exact h.submit hnone hown hcancelled hgathers
  | push => exact h.push hstep
  | wait =>
    simp only [execStep] at hstep
    split at hstep
    · cases hstep
    · obtain ⟨run, hwait, rfl⟩ := Option.map_eq_some_iff.mp hstep
      exact h.wait hwait
  | finish =>
    simp only [execStep, Option.ite_none_right_eq_some, Option.map_eq_some_iff, List.isEmpty_iff] at hstep
    obtain ⟨hempty, run, hfinish, rfl⟩ := hstep
    exact h.finish hempty hfinish
  | update =>
    simp only [execStep, Option.ite_none_right_eq_some, Option.some.injEq] at hstep
    obtain ⟨-, rfl⟩ := hstep
    exact h.update hcareful
  | load syncpt =>
    cases hstep
    refine { h with cached := ?_ }
    intro syncpt'
    dsimp only
    split
    · exact le_refl _
    · exact h.cached syncpt'
  | hardware => exact h.hardware hstep
  | foreignIncr syncpt =>
    simp only [execStep, Option.ite_none_left_eq_some, Option.some.injEq] at hstep
    obtain ⟨hforeign, rfl⟩ := hstep
    refine { h with count := ?_, cached := ?_ }
    · intro syncpt' hown
      have hne : syncpt' ≠ syncpt := by
        rintro rfl
        exact hforeign hown
      show bump s.count syncpt 1 syncpt' = _
      rw [bump, if_neg hne]
      exact h.count syncpt' hown
    · intro syncpt'
      have := h.cached syncpt'
      show s.cached syncpt' ≤ bump s.count syncpt 1 syncpt'
      unfold bump
      split <;> omega

end ExecInv

/-! ## Every run -/

/-- In every run from an idle channel in which, at each update, the hardware is not in the tail
of a queued job whose end has been read, what is given back has been executed. -/
theorem channel_slots_executed (own : ℕ → Bool) (count : ℕ → ℕ) (ops : List ExecOp)
    (s : ChannelExec) (hcareful : AllSteps (execStep own) ChannelExec.Careful (execStart count) ops)
    (hrun : run (execStep own) (execStart count) ops = some s) : s.Executed := by
  have h : ExecInv own count s :=
    run_invariant_of_allSteps (fun _ _ _ h hP hstep => h.step hP hstep)
      (execInv_start own count) hcareful hrun
  exact h.executed

/-- A job on syncpoint 0 with one gather that increments it once: it ends at the value 2. -/
def gatherJob : CdmaJob where
  syncpt := 0
  syncptEnd := 0
  syncptIncrs := 1
  client := 0
  timeout := 0
  syncptRecovery := false
  cancelled := false
  firstGet := 0
  numSlots := 0
  wrote := []

/-- The job is submitted, in eight pushes of twelve slots, and the hardware takes so many
steps. -/
def gatherJobRun (steps : ℕ) : List ExecOp :=
  .submit 0 gatherJob [.gather 1 false] :: (List.replicate 8 .push ++ [.finish] ++
    List.replicate steps .hardware ++ [.load 0, .update])

theorem channel_slots_executed_gatherJob :
    ∃ s, run (execStep (· == 0)) (execStart fun _ => 0) (gatherJobRun 13) = some s ∧
      s.popped = 12 ∧ s.Executed := by
  obtain ⟨s, hrun⟩ := Option.isSome_iff_exists.mp (by decide +kernel :
    (run (execStep (· == 0)) (execStart fun _ => 0) (gatherJobRun 13)).isSome = true)
  have hpopped : (run (execStep (· == 0)) (execStart fun _ => 0) (gatherJobRun 13)).map
      (·.popped) = some 12 := by decide +kernel
  rw [hrun] at hpopped
  exact ⟨s, hrun, Option.some.inj hpopped,
    channel_slots_executed (· == 0) (fun _ => 0) (gatherJobRun 13) s (by decide +kernel) hrun⟩

/-- The hardware has done the increment of the gather, its eighth step: the job is unpinned and
its twelve slots are given back, of which the hardware has executed seven. -/
theorem channel_slots_not_executed : ∃ s, run (execStep (· == 0)) (execStart fun _ => 0) (gatherJobRun 8) = some s ∧
      s.popped = 12 ∧ s.got = 7 ∧ ¬ s.Executed := by
  obtain ⟨s, hrun⟩ := Option.isSome_iff_exists.mp (by decide +kernel :
    (run (execStep (· == 0)) (execStart fun _ => 0) (gatherJobRun 8)).isSome = true)
  have hend : (run (execStep (· == 0)) (execStart fun _ => 0) (gatherJobRun 8)).map
      (fun s => (s.popped, s.got)) = some (12, 7) := by decide +kernel
  rw [hrun] at hend
  obtain ⟨hpopped, hgot⟩ := Prod.mk.injEq _ _ _ _ ▸ Option.some.inj hend
  refine ⟨s, hrun, hpopped, hgot, ?_⟩
  rw [ChannelExec.Executed, hpopped, hgot]
  decide

end NvidiaOot.Analysis
