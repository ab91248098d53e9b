import NvidiaOot.Library.RingCounter
import NvidiaOot.Model.Host1x

/-!
# The accounts of the push buffer

Counted in slots and without wrapping, `start` slots have been given back, and the jobs on
the queue and the submission in progress lie behind them one after another.  The positions
of the push buffer are eight times these counts, modulo the ring.
-/

namespace NvidiaOot.Analysis

open Library Program Model

variable {jobs : List CdmaJob} {job : CdmaJob} {x : U32} {k start : ℕ}

variable {α : Type}

/-! ## Positions in bytes and in slots -/

/-- A position in bytes of a push buffer of the usual size. -/
def AtSlot (x : U32) (slot : ℕ) : Prop := x.toNat = 8 * (slot % 1023)

theorem AtSlot.div {slot : ℕ} (h : AtSlot x slot) : x.toNat / 8 = slot % 1023 := by
  rw [h]
  omega

theorem AtSlot.isPosition {slot : ℕ} (h : AtSlot x slot) : IsPosition x := by
  unfold AtSlot at h
  constructor
  · omega
  · show x.toNat < 1023 * 8
    omega

theorem AtSlot.advance {size slots : U32} {slot : ℕ} (h : AtSlot x slot)
    (hsize : size = 8184) (hslots : slots.toNat = 8 * k) (hk : k ≤ 1023) :
    AtSlot (if x + slots ≥ size then x + slots - size else x + slots) (slot + k) := by
  have hlt := Nat.mod_lt slot (by decide : 0 < 1023)
  have hadvance := ring_advance hlt hk
  have hsum : (x + slots).toNat = 8 * (slot % 1023 + k) := by
    rw [BitVec.toNat_add, h, hslots, Nat.mod_eq_of_lt (by omega)]
    omega
  have hge : x + slots ≥ size ↔ slot % 1023 + k ≥ 1023 := by
    rw [hsize, ge_iff_le, BitVec.le_def, hsum]
    show 8184 ≤ _ ↔ _
    omega
  rw [AtSlot, ← Nat.mod_add_mod, ← hadvance]
  by_cases hwrap : slot % 1023 + k ≥ 1023
  · have hle : size ≤ x + slots := hge.mpr hwrap
    rw [if_pos hwrap, if_pos hle, BitVec.toNat_sub_of_le hle, hsum, hsize]
    show _ - 8184 = _
    omega
  · rw [if_neg hwrap, if_neg (mt hge.mp hwrap), hsum]

theorem space_of_atSlot {pb : PushBuffer α} {used : ℕ} (hsize : pb.size = 8184)
    (hfence : AtSlot pb.fence (start + 1022)) (hpos : AtSlot pb.pos (start + used))
    (hused : used ≤ 1022) : (host1xPushbufferSpace pb).toNat = 1022 - used := by
  have hlt : pb.fence < pb.pos ↔ (start + 1022) % 1023 < (start + used) % 1023 := by
    rw [BitVec.lt_def, hfence, hpos]
    omega
  unfold host1xPushbufferSpace
  by_cases hwrap : (start + 1022) % 1023 < (start + used) % 1023
  · have hsum : (pb.fence + pb.size).toNat = 8 * ((start + 1022) % 1023) + 8184 := by
      rw [BitVec.toNat_add, hfence, hsize]
      exact Nat.mod_eq_of_lt (show _ + 8184 < _ by omega)
    have hle : pb.pos ≤ pb.fence + pb.size := by
      rw [BitVec.le_def, hsum, hpos]
      omega
    rw [if_pos (hlt.mpr hwrap), BitVec.toNat_udiv, BitVec.toNat_sub_of_le hle, hsum, hpos]
    show _ / 8 = _
    omega
  have hle : pb.pos ≤ pb.fence := BitVec.not_lt.mp (mt hlt.mp hwrap)
  rw [if_neg (mt hlt.mp hwrap), BitVec.toNat_udiv, BitVec.toNat_sub_of_le hle, hfence, hpos]
  show _ / 8 = _
  omega

/-! ## The push buffer -/

/-- A push buffer of which `start` slots have been given back and `used` are in use. -/
structure RingInUse (start used : ℕ) (pb : PushBuffer α) : Prop where
  size : pb.size = 8184
  fence : AtSlot pb.fence (start + 1022)
  pos : AtSlot pb.pos (start + used)
  fits : used ≤ 1022
  not_warned : pb.warned = false

theorem ringInUse_init (mapped : ℕ → α) : RingInUse 0 0 (host1xPushbufferInit mapped) where
  size := rfl
  fence := rfl
  pos := rfl
  fits := by omega
  not_warned := rfl

namespace RingInUse

variable {pb : PushBuffer α} {start used : ℕ}

section

variable (h : RingInUse start used pb)

include h

theorem space : (host1xPushbufferSpace pb).toNat = 1022 - used :=
  space_of_atSlot h.size h.fence h.pos h.fits

theorem slot : pb.slot = (start + used) % 1023 := h.pos.div

/-- A push writes the slot behind those in use; the position is not at the fence. -/
theorem push (hfree : used + 1 ≤ 1022) (op : α) :
    RingInUse start (used + 1) (host1xPushbufferPush pb op) where
  size := h.size
  fence := h.fence
  pos := h.pos.advance h.size (show (8 : U32).toNat = 8 * 1 from rfl) (by omega)
  fits := hfree
  not_warned := by
    have hne : pb.pos ≠ pb.fence := by
      intro heq
      have hpos := h.pos.div
      rw [heq, h.fence.div] at hpos
      exact mod_ne_of_outstanding (n := 1023) (c := start) (i := start + used)
        (p := start + 1022) (by omega) (by omega) (by omega) hpos.symm
    simp [host1xPushbufferPush, h.not_warned, hne]

theorem wrote_push (op : α) :
    (host1xPushbufferPush pb op).wrote = pb.wrote ++ [(start + used) % 1023] := by
  rw [host1xPushbufferPush, h.slot]

theorem pop (slots : U32) (hslots : slots.toNat ≤ used) :
    RingInUse (start + slots.toNat) (used - slots.toNat) (host1xPushbufferPop pb slots) where
  size := h.size
  fence := by
    have hfits := h.fits
    have hmul : (slots * 8).toNat = 8 * slots.toNat := by
      rw [BitVec.toNat_mul]
      show slots.toNat * 8 % 4294967296 = _
      omega
    have hfence := h.fence.advance h.size hmul (by omega)
    rwa [show start + 1022 + slots.toNat = start + slots.toNat + 1022 by omega] at hfence
  pos := by
    have hpos := h.pos
    rwa [show start + used = start + slots.toNat + (used - slots.toNat) by omega] at hpos
  fits := by
    have hfits := h.fits
    omega
  not_warned := h.not_warned

end

end RingInUse

/-! ## The queue -/

/-- The jobs lie one behind the other, each on the slots that its pushes wrote. -/
def Laid : ℕ → List CdmaJob → Prop
  | _, [] => True
  | start, job :: rest =>
    AtSlot job.firstGet start ∧ job.wrote = ringSlots 1023 start job.numSlots.toNat ∧
      Laid (start + job.numSlots.toNat) rest

theorem slotSum_cons (job : CdmaJob) (rest : List CdmaJob) :
    slotSum (job :: rest) = job.numSlots.toNat + slotSum rest := by
  simp [slotSum]

theorem slotSum_append_list (jobs jobs' : List CdmaJob) :
    slotSum (jobs ++ jobs') = slotSum jobs + slotSum jobs' := by
  simp [slotSum]

theorem slotSum_append (jobs : List CdmaJob) (job : CdmaJob) :
    slotSum (jobs ++ [job]) = slotSum jobs + job.numSlots.toNat := by
  simp [slotSum]

theorem Laid.append (h : Laid start jobs) (hget : AtSlot job.firstGet (start + slotSum jobs))
    (hwrote : job.wrote = ringSlots 1023 (start + slotSum jobs) job.numSlots.toNat) :
    Laid start (jobs ++ [job]) := by
  induction jobs generalizing start with
  | nil => exact ⟨hget, hwrote, trivial⟩
  | cons first rest ih =>
    rw [slotSum_cons, ← add_assoc] at hget hwrote
    exact ⟨h.1, h.2.1, ih h.2.2 hget hwrote⟩

theorem jobSlots_of_atSlot (h : AtSlot job.firstGet start) :
    jobSlots job = ringSlots 1023 start job.numSlots.toNat := by
  rw [jobSlots, h.div]
  exact ringSlots_mod start _

section

variable (h : Laid start jobs)

include h

theorem Laid.written : ∀ job ∈ jobs, job.wrote = jobSlots job := by
  induction jobs generalizing start with
  | nil => simp
  | cons first rest ih =>
    intro job hmem
    rcases List.mem_cons.mp hmem with rfl | hrest
    · rw [jobSlots_of_atSlot h.1]
      exact h.2.1
    · exact ih h.2.2 job hrest

theorem Laid.consecutive : jobs.IsChain fun a b =>
      b.firstGet.toNat / 8 = (a.firstGet.toNat / 8 + a.numSlots.toNat) % 1023 := by
  induction jobs generalizing start with
  | nil => exact .nil
  | cons first rest ih =>
    cases rest with
    | nil => exact .singleton first
    | cons second rest =>
      refine .cons_cons ?_ (ih h.2.2)
      rw [h.2.2.1.div, h.1.div, Nat.mod_add_mod]

theorem Laid.mem :
    ∀ job ∈ jobs, ∃ c, start ≤ c ∧ c + job.numSlots.toNat ≤ start + slotSum jobs ∧
      jobSlots job = ringSlots 1023 c job.numSlots.toNat := by
  induction jobs generalizing start with
  | nil => simp
  | cons first rest ih =>
    intro job hmem
    rw [slotSum_cons]
    rcases List.mem_cons.mp hmem with rfl | hrest
    · exact ⟨start, le_refl _, by omega, jobSlots_of_atSlot h.1⟩
    · obtain ⟨c, hle, hend, heq⟩ := ih h.2.2 job hrest
      exact ⟨c, by omega, by omega, heq⟩

theorem Laid.disjoint (hfits : slotSum jobs ≤ 1022) :
    jobs.Pairwise fun a b => (jobSlots a).Disjoint (jobSlots b) := by
  induction jobs generalizing start with
  | nil => exact .nil
  | cons first rest ih =>
    rw [slotSum_cons] at hfits
    refine List.pairwise_cons.mpr ⟨?_, ih h.2.2 (by omega)⟩
    intro job hmem
    obtain ⟨c, hle, hend, heq⟩ := h.2.2.mem job hmem
    rw [jobSlots_of_atSlot h.1, heq]
    exact disjoint_ringSlots hle (by omega)

end

/-! ## Completion -/

/-- What an update leaves: the jobs that stay, behind the slots that were given back. -/
structure Updated (start extra : ℕ) (jobs : List CdmaJob) (cdma cdma' : Cdma α) : Prop where
  slotsUsed : cdma'.slotsUsed = cdma.slotsUsed
  slotsFree : cdma'.slotsFree = cdma.slotsFree
  firstGet : cdma'.firstGet = cdma.firstGet
  wrote : cdma'.pushBuffer.wrote = cdma.pushBuffer.wrote
  ring : ∃ start', start' + slotSum cdma'.syncQueue = start + slotSum jobs ∧
    slotSum cdma'.syncQueue ≤ slotSum jobs ∧
    RingInUse start' (slotSum cdma'.syncQueue + extra) cdma'.pushBuffer ∧
    Laid start' cdma'.syncQueue

theorem retireJob_ring {extra : ℕ} {rest : List CdmaJob} {cdma : Cdma α}
    (hring : RingInUse start (slotSum (job :: rest) + extra) cdma.pushBuffer) :
    RingInUse (start + job.numSlots.toNat) (slotSum rest + extra) (retireJob job cdma).pushBuffer := by
  rw [slotSum_cons] at hring
  have hstop : ∀ c : Cdma α, c = (if cdma.timeout.client.isSome then stopCdmaTimerLocked cdma
      else cdma) → c.pushBuffer = cdma.pushBuffer := by
    rintro c rfl
    split <;> rfl
  unfold retireJob
  by_cases hslots : job.numSlots ≠ 0
  · rw [if_pos hslots]
    rw [hstop _ rfl]
    have hpop := hring.pop job.numSlots (by omega)
    rwa [show job.numSlots.toNat + slotSum rest + extra - job.numSlots.toNat =
      slotSum rest + extra by omega] at hpop
  have hzero : job.numSlots.toNat = 0 := by
    rw [not_not.mp hslots]
    rfl
  rw [hzero, zero_add] at hring
  rwa [if_neg hslots, hstop _ rfl, hzero]

theorem retireJob_frame (job : CdmaJob) (cdma : Cdma α) : (retireJob job cdma).slotsUsed = cdma.slotsUsed ∧
      (retireJob job cdma).slotsFree = cdma.slotsFree ∧
      (retireJob job cdma).firstGet = cdma.firstGet ∧
      (retireJob job cdma).pushBuffer.wrote = cdma.pushBuffer.wrote := by
  unfold retireJob
  by_cases hclient : cdma.timeout.client.isSome = true <;> by_cases hslots : job.numSlots ≠ 0
  · rw [if_pos hslots, if_pos hclient]
    exact ⟨rfl, rfl, rfl, rfl⟩
  · rw [if_neg hslots, if_pos hclient]
    exact ⟨rfl, rfl, rfl, rfl⟩
  · rw [if_pos hslots, if_neg hclient]
    exact ⟨rfl, rfl, rfl, rfl⟩
  · rw [if_neg hslots, if_neg hclient]
    exact ⟨rfl, rfl, rfl, rfl⟩

theorem updated_updateQueue (value : ℕ → U32) {extra : ℕ}
    {cdma : Cdma α} (hring : RingInUse start (slotSum jobs + extra) cdma.pushBuffer) (hlaid : Laid start jobs) :
    Updated start extra jobs cdma (updateQueue value jobs cdma).1 := by
  induction jobs generalizing start cdma with
  | nil => exact ⟨rfl, rfl, rfl, rfl, start, rfl, le_refl _, hring, hlaid⟩
  | cons job rest ih =>
    unfold updateQueue
    split
    · -- the first job that is not expired stays, with all behind it
      dsimp only
      split_ifs with htimeout
      · unfold cdmaStartTimerLocked
        split <;> exact ⟨rfl, rfl, rfl, rfl, start, rfl, le_refl _, hring, hlaid⟩
      · exact ⟨rfl, rfl, rfl, rfl, start, rfl, le_refl _, hring, hlaid⟩
    have hrest := ih (retireJob_ring hring) hlaid.2.2
    obtain ⟨hused, hfree, hget, hwrote⟩ := retireJob_frame job cdma
    obtain ⟨start', hsum, hle, hring', hlaid'⟩ := hrest.ring
    have hcons := slotSum_cons job rest
    dsimp only
    exact {
      slotsUsed := hrest.slotsUsed.trans hused
      slotsFree := hrest.slotsFree.trans hfree
      firstGet := hrest.firstGet.trans hget
      wrote := hrest.wrote.trans hwrote
      ring := ⟨start', by omega, by omega, hring', hlaid'⟩ }

theorem updated_updateCdmaLocked (value : ℕ → U32) (extra : ℕ) {cdma : Cdma α}
    (hring : RingInUse start (slotSum cdma.syncQueue + extra) cdma.pushBuffer) (hlaid : Laid start cdma.syncQueue) :
    Updated start extra cdma.syncQueue cdma (updateCdmaLocked value cdma).1 := by
  have h := updated_updateQueue value hring hlaid
  unfold updateCdmaLocked
  dsimp only
  split
  · exact { h with }
  · exact h

/-! ## The invariant -/

/-- The invariant of a channel of which `start` slots have been given back. -/
structure RunInv (start : ℕ) (s : CdmaRun α) : Prop where
  ring : RingInUse start (s.queued + s.inProgress) s.cdma.pushBuffer
  laid : Laid start s.cdma.syncQueue
  current : s.job.isSome = true →
    AtSlot s.cdma.firstGet (start + s.queued) ∧
      s.cdma.pushBuffer.wrote = ringSlots 1023 (start + s.queued) s.cdma.slotsUsed.toNat
  slotsFree : s.cdma.slotsFree.toNat + (s.queued + s.inProgress) ≤ 1022

theorem runInv_start (mapped : ℕ → α) : RunInv 0 (cdmaRunStart mapped) where
  ring := ringInUse_init mapped
  laid := trivial
  current := by simp [cdmaRunStart]
  slotsFree := by
    show 0 + (0 + 0) ≤ 1022
    omega

variable {s s' : CdmaRun α} {start : ℕ}

structure Begun (cdma cdma' : Cdma α) : Prop where
  syncQueue : cdma'.syncQueue = cdma.syncQueue
  slotsUsed : cdma'.slotsUsed = 0
  slotsFree : cdma'.slotsFree = 0
  firstGet : cdma'.firstGet = cdma.pushBuffer.pos
  pushBuffer : cdma'.pushBuffer = { cdma.pushBuffer with wrote := [] }

/-- A submission is refused and leaves the channel alone, or begins at the position. -/
theorem host1xCdmaBegin_cases (locked : Bool) (timeoutInit : ℤ) (job : CdmaJob) (cdma : Cdma α) :
    ((host1xCdmaBegin locked timeoutInit job cdma).1 ≠ 0 ∧
        (host1xCdmaBegin locked timeoutInit job cdma).2 = cdma) ∨
      ((host1xCdmaBegin locked timeoutInit job cdma).1 = 0 ∧
        Begun cdma (host1xCdmaBegin locked timeoutInit job cdma).2) := by
  unfold host1xCdmaBegin
  dsimp only
  split
  · left
    exact ⟨(by decide : -ePERM ≠ 0), rfl⟩
  split
  · next hinit => exact Or.inl ⟨hinit.2, rfl⟩
  right
  refine ⟨rfl, ?_⟩
  unfold cdmaStart
  split <;> split <;> exact ⟨rfl, rfl, rfl, rfl, rfl⟩

theorem host1xCdmaEnd_fields (job : CdmaJob) (cdma : Cdma α) :
    (host1xCdmaEnd job cdma).pushBuffer = cdma.pushBuffer ∧
      (host1xCdmaEnd job cdma).slotsFree = cdma.slotsFree ∧
      (host1xCdmaEnd job cdma).syncQueue = cdma.syncQueue ++
        [{ job with
          firstGet := cdma.firstGet
          numSlots := cdma.slotsUsed
          wrote := cdma.pushBuffer.wrote }] := by
  unfold host1xCdmaEnd
  dsimp only
  split
  · unfold cdmaStartTimerLocked
    split <;> exact ⟨rfl, rfl, rfl⟩
  · exact ⟨rfl, rfl, rfl⟩

theorem inProgress_of_isSome (h : s.job.isSome = true) : s.inProgress = s.cdma.slotsUsed.toNat := by
  rw [CdmaRun.inProgress, if_pos h]

namespace RunInv

section

variable (h : RunInv start s)

include h

theorem space :
    (host1xPushbufferSpace s.cdma.pushBuffer).toNat = 1022 - (s.queued + s.inProgress) :=
  h.ring.space

theorem begin (hjob : s.job = none) (locked : Bool) (timeoutInit : ℤ)
    (job : CdmaJob) : RunInv start (s.begin locked timeoutInit job) := by
  have hzero : s.inProgress = 0 := by
    rw [CdmaRun.inProgress, hjob]
    rfl
  have hring := h.ring
  have hfree := h.slotsFree
  rw [hzero, add_zero] at hring hfree
  rcases host1xCdmaBegin_cases locked timeoutInit job s.cdma with ⟨hne, heq⟩ | ⟨hok, hbegun⟩
  · have hsame : s.begin locked timeoutInit job = s := by
      rw [CdmaRun.begin, heq, if_neg hne, ← hjob]
    rw [hsame]
    exact h
  have hqueue : (s.begin locked timeoutInit job).queued = s.queued := by
    show slotSum (host1xCdmaBegin locked timeoutInit job s.cdma).2.syncQueue = _
    rw [hbegun.syncQueue]
    rfl
  have hsome : (s.begin locked timeoutInit job).job.isSome = true := by
    show (if _ then _ else _ : Option CdmaJob).isSome = true
    rw [if_pos hok]
    rfl
  have hprogress : (s.begin locked timeoutInit job).inProgress = 0 := by
    rw [inProgress_of_isSome hsome]
    show (host1xCdmaBegin locked timeoutInit job s.cdma).2.slotsUsed.toNat = 0
    rw [hbegun.slotsUsed]
    rfl
  have hpb : (s.begin locked timeoutInit job).cdma.pushBuffer =
      { s.cdma.pushBuffer with wrote := [] } := hbegun.pushBuffer
  exact {
    ring := by
      rw [hqueue, hprogress, hpb, add_zero]
      exact { hring with }
    laid := by
      show Laid start (host1xCdmaBegin locked timeoutInit job s.cdma).2.syncQueue
      rw [hbegun.syncQueue]
      exact h.laid
    current := by
      intro _
      rw [hqueue, hpb]
      show AtSlot (host1xCdmaBegin locked timeoutInit job s.cdma).2.firstGet _ ∧
        [] = ringSlots 1023 _ (host1xCdmaBegin locked timeoutInit job s.cdma).2.slotsUsed.toNat
      rw [hbegun.firstGet, hbegun.slotsUsed]
      exact ⟨hring.pos, rfl⟩
    slotsFree := by
      rw [hqueue, hprogress]
      show (host1xCdmaBegin locked timeoutInit job s.cdma).2.slotsFree.toNat + _ ≤ _
      rw [hbegun.slotsFree]
      have := hring.fits
      simpa using this }

theorem pushed (hjob : s.job.isSome = true) {cdma : Cdma α}
    {waiting : Option PushKind} (hqueue : cdma.syncQueue = s.cdma.syncQueue)
    (hget : cdma.firstGet = s.cdma.firstGet) (hused : cdma.slotsUsed.toNat = s.cdma.slotsUsed.toNat + k)
    (hring : RingInUse start (s.queued + s.inProgress + k) cdma.pushBuffer) (hwrote : cdma.pushBuffer.wrote =
      s.cdma.pushBuffer.wrote ++ ringSlots 1023 (start + (s.queued + s.inProgress)) k)
    (hfree : cdma.slotsFree.toNat + (s.queued + s.inProgress + k) ≤ 1022) :
    RunInv start { s with cdma := cdma, waiting := waiting } := by
  have hqueued : ({ s with cdma := cdma, waiting := waiting } : CdmaRun α).queued = s.queued := by
    show slotSum cdma.syncQueue = slotSum s.cdma.syncQueue
    rw [hqueue]
  have hprogress :
      ({ s with cdma := cdma, waiting := waiting } : CdmaRun α).inProgress = s.inProgress + k := by
    rw [inProgress_of_isSome hjob, inProgress_of_isSome (by exact hjob)]
    exact hused
  obtain ⟨hfirst, hslots⟩ := h.current hjob
  exact {
    ring := by
      rw [hqueued, hprogress, ← add_assoc]
      exact hring
    laid := by
      rw [hqueue]
      exact h.laid
    current := by
      intro _
      rw [hqueued]
      rw [hget, hwrote, hslots, hused, ringSlots_add, inProgress_of_isSome hjob, add_assoc]
      exact ⟨hfirst, rfl⟩
    slotsFree := by
      show cdma.slotsFree.toNat + _ ≤ 1022
      omega }

theorem push (hjob : s.job.isSome = true) {op : α} {cdma : Cdma α}
    (hpush : host1xCdmaPush op s.cdma = some cdma) : RunInv start { s with cdma := cdma, waiting := none } := by
  unfold host1xCdmaPush at hpush
  simp only [Option.ite_none_left_eq_some, Option.some.injEq] at hpush
  obtain ⟨hne, rfl⟩ := hpush
  have hspace := h.space
  have hcached := h.slotsFree
  -- what is taken for the free slots is no more than the space
  have hfree : (if s.cdma.slotsFree = 0 then host1xPushbufferSpace s.cdma.pushBuffer
      else s.cdma.slotsFree).toNat + (s.queued + s.inProgress) ≤ 1022 := by
    split
    · omega
    · exact hcached
  generalize (if s.cdma.slotsFree = 0 then host1xPushbufferSpace s.cdma.pushBuffer
    else s.cdma.slotsFree) = free at hne hfree
  have hpred := toNat_pred_of_ne hne
  have hprogress := inProgress_of_isSome hjob
  have hflush : ∀ c : Cdma α,
      c = (if s.cdma.slotsFree = 0 then cdmaFlush s.cdma else s.cdma) →
      c.syncQueue = s.cdma.syncQueue ∧ c.firstGet = s.cdma.firstGet := by
    rintro c rfl
    split <;> exact ⟨rfl, rfl⟩
  obtain ⟨hqueue, hget⟩ := hflush _ rfl
  refine h.pushed hjob (k := 1) ?_ ?_ ?_ ?_ ?_ ?_
  · exact hqueue
  · exact hget
  · exact Nat.mod_eq_of_lt (show _ + 1 < 4294967296 by omega)
  · exact h.ring.push (by omega) op
  · exact h.ring.wrote_push op
  · show (free - 1).toNat + _ ≤ 1022
    omega

end

/-- The two slots of a wide push are taken together with a slot of padding when the first of
them would be the last one of the ring. -/
theorem pushWideExtra_eq {pb : PushBuffer α} {used : ℕ} (h : RingInUse start used pb) :
    pushWideExtra pb = if (start + used) % 1023 = 1022 then 1 else 0 := by
  have hpos := h.pos
  have hsum : (pb.pos + 16).toNat = 8 * ((start + used) % 1023) + 16 := by
    rw [BitVec.toNat_add, hpos]
    exact Nat.mod_eq_of_lt (show _ + 16 < 4294967296 by omega)
  have hgt : pb.pos + 16 > pb.size ↔ (start + used) % 1023 = 1022 := by
    rw [gt_iff_lt, BitVec.lt_def, hsum, h.size]
    show 8184 < _ ↔ _
    omega
  unfold pushWideExtra
  by_cases hlast : (start + used) % 1023 = 1022
  · rw [if_pos hlast, if_pos (hgt.mpr hlast)]
    have heq : pb.pos = 8176 := by
      apply BitVec.eq_of_toNat_eq
      rw [hpos, hlast]
      rfl
    rw [heq, h.size]
    rfl
  · rw [if_neg hlast, if_neg (mt hgt.mp hlast)]

section

variable (h : RunInv start s)

include h

theorem pushWide (hjob : s.job.isSome = true) {restart op₁ op₂ : α}
    {cdma : Cdma α} (hpush : host1xCdmaPushWide restart op₁ op₂ s.cdma = some cdma) :
    RunInv start { s with cdma := cdma, waiting := none } := by
  unfold host1xCdmaPushWide at hpush
  simp only [Option.ite_none_left_eq_some, Option.some.injEq, BitVec.not_lt] at hpush
  obtain ⟨hspace, rfl⟩ := hpush
  have hprogress := inProgress_of_isSome hjob
  have htoNat := h.space
  rw [pushWideExtra_eq h.ring] at hspace ⊢
  by_cases hlast : (start + (s.queued + s.inProgress)) % 1023 = 1022
  · rw [if_pos hlast] at hspace ⊢
    have hspace : 3 ≤ host1xPushbufferSpace s.cdma.pushBuffer := hspace
    have hle : 3 ≤ (host1xPushbufferSpace s.cdma.pushBuffer).toNat := hspace
    have hring₁ := h.ring.push (by omega) restart
    have hring₂ := hring₁.push (by omega) op₁
    have hring₃ := hring₂.push (by omega) op₂
    refine h.pushed hjob (k := 3) rfl rfl ?_ ?_ ?_ ?_
    · exact Nat.mod_eq_of_lt (show _ + 3 < 4294967296 by omega)
    · exact hring₃
    · show (host1xPushbufferPush (host1xPushbufferPush (host1xPushbufferPush _ _) _) _).wrote = _
      rw [hring₂.wrote_push, hring₁.wrote_push, h.ring.wrote_push]
      simp [ringSlots, List.range_succ, add_assoc]
    · show (host1xPushbufferSpace s.cdma.pushBuffer - 3).toNat + _ ≤ 1022
      rw [BitVec.toNat_sub_of_le hspace]
      show _ - 3 + _ ≤ 1022
      omega
  rw [if_neg hlast] at hspace ⊢
  have hspace : 2 ≤ host1xPushbufferSpace s.cdma.pushBuffer := hspace
  have hle : 2 ≤ (host1xPushbufferSpace s.cdma.pushBuffer).toNat := hspace
  have hring₁ := h.ring.push (by omega) op₁
  have hring₂ := hring₁.push (by omega) op₂
  refine h.pushed hjob (k := 2) rfl rfl ?_ ?_ ?_ ?_
  · exact Nat.mod_eq_of_lt (show _ + 2 < 4294967296 by omega)
  · exact hring₂
  · show (host1xPushbufferPush (host1xPushbufferPush s.cdma.pushBuffer _) _).wrote = _
    rw [hring₁.wrote_push, h.ring.wrote_push]
    simp [ringSlots, List.range_succ, add_assoc]
  · show (host1xPushbufferSpace s.cdma.pushBuffer - 2).toNat + _ ≤ 1022
    rw [BitVec.toNat_sub_of_le hspace]
    show _ - 2 + _ ≤ 1022
    omega

theorem finish (hjob : s.job = some job) :
    RunInv start { s with cdma := host1xCdmaEnd job s.cdma, job := none } := by
  have hprogress : s.inProgress = s.cdma.slotsUsed.toNat :=
    inProgress_of_isSome (by rw [hjob]; rfl)
  obtain ⟨hget, hwrote⟩ := h.current (by rw [hjob]; rfl)
  obtain ⟨hpb, hfree, hqueue⟩ := host1xCdmaEnd_fields job s.cdma
  have hqueued : ({ s with cdma := host1xCdmaEnd job s.cdma, job := none } : CdmaRun α).queued =
      s.queued + s.inProgress := by
    show slotSum (host1xCdmaEnd job s.cdma).syncQueue = _
    rw [hqueue, slotSum_append, hprogress]
    rfl
  have hnone :
      ({ s with cdma := host1xCdmaEnd job s.cdma, job := none } : CdmaRun α).inProgress = 0 := rfl
  exact {
    ring := by
      rw [hqueued, hnone, add_zero]
      rw [hpb]
      exact h.ring
    laid := by
      rw [hqueue]
      exact h.laid.append hget hwrote
    current := by
      nofun
    slotsFree := by
      rw [hqueued, hnone, add_zero]
      rw [hfree]
      exact h.slotsFree }

theorem update (value : ℕ → U32) :
    ∃ start', start' + slotSum (updateCdmaLocked value s.cdma).1.syncQueue = start + s.queued ∧
      RunInv start' { s with cdma := (updateCdmaLocked value s.cdma).1 } := by
  have hspec := updated_updateCdmaLocked value s.inProgress h.ring h.laid
  obtain ⟨start', hsum, hle, hring, hlaid⟩ := hspec.ring
  have hprogress :
      ({ s with cdma := (updateCdmaLocked value s.cdma).1 } : CdmaRun α).inProgress =
        s.inProgress := by
    simp only [CdmaRun.inProgress, hspec.slotsUsed]
  refine ⟨start', hsum, ?_⟩
  exact {
    ring := by
      rw [hprogress]
      exact hring
    laid := hlaid
    current := by
      intro hjob
      obtain ⟨hget, hwrote⟩ := h.current hjob
      show AtSlot (updateCdmaLocked value s.cdma).1.firstGet
          (start' + slotSum (updateCdmaLocked value s.cdma).1.syncQueue) ∧
        (updateCdmaLocked value s.cdma).1.pushBuffer.wrote =
          ringSlots 1023 (start' + slotSum (updateCdmaLocked value s.cdma).1.syncQueue)
            (updateCdmaLocked value s.cdma).1.slotsUsed.toNat
      rw [hspec.firstGet, hspec.wrote, hspec.slotsUsed, hsum]
      exact ⟨hget, hwrote⟩
    slotsFree := by
      have hfree := h.slotsFree
      rw [hprogress]
      show (updateCdmaLocked value s.cdma).1.slotsFree.toNat +
        (slotSum (updateCdmaLocked value s.cdma).1.syncQueue + s.inProgress) ≤ 1022
      rw [hspec.slotsFree]
      have hqueued : s.queued = slotSum s.cdma.syncQueue := rfl
      omega }

theorem step {restart : α} {op : CdmaOp α}
    (hstep : cdmaStep restart s op = some s') : ∃ start', RunInv start' s' := by
  cases op with
  | begin locked timeoutInit job =>
    simp only [cdmaStep, Option.ite_none_left_eq_some, Option.some.injEq,
      Bool.not_eq_true, Option.isSome_eq_false_iff, Option.isNone_iff_eq_none] at hstep
    obtain ⟨hnone, rfl⟩ := hstep
    exact ⟨start, h.begin hnone locked timeoutInit job⟩
  | push op =>
    simp only [cdmaStep, Option.ite_none_right_eq_some, Option.map_eq_some_iff] at hstep
    obtain ⟨hpushing, cdma, hpush, rfl⟩ := hstep
    exact ⟨start, h.push hpushing.1 hpush⟩
  | pushWide op₁ op₂ =>
    simp only [cdmaStep, Option.ite_none_right_eq_some, Option.map_eq_some_iff] at hstep
    obtain ⟨hpushing, cdma, hpush, rfl⟩ := hstep
    exact ⟨start, h.pushWide hpushing.1 hpush⟩
  | wait kind =>
    simp only [cdmaStep, Option.ite_none_right_eq_some, Option.some.injEq] at hstep
    obtain ⟨-, rfl⟩ := hstep
    refine ⟨start, ?_⟩
    unfold host1xCdmaWait
    dsimp only
    split <;> exact { h with }
  | finish =>
    simp only [cdmaStep] at hstep
    split at hstep
    · next job hjob hwaiting =>
      cases hstep
      exact ⟨start, h.finish hjob⟩
    · cases hstep
  | update value =>
    simp only [cdmaStep, Option.ite_none_right_eq_some, Option.some.injEq] at hstep
    obtain ⟨-, rfl⟩ := hstep
    obtain ⟨start', -, h'⟩ := h.update value
    exact ⟨start', h'⟩

theorem accounted : s.Accounted where
  size := by
    rw [h.ring.size]
    rfl
  pos := h.ring.pos.isPosition
  fence := h.ring.fence.isPosition
  space := by
    have hspace := h.space
    have hfits := h.ring.fits
    omega
  slotsFree := by
    have hspace := h.space
    have hfree := h.slotsFree
    omega
  not_warned := h.ring.not_warned
  disjoint := h.laid.disjoint ((Nat.le_add_right _ _).trans h.ring.fits)
  consecutive := h.laid.consecutive
  written := h.laid.written

end

theorem push_pair {pb : PushBuffer α} {op₁ : α} (op₂ : α) (hslot₁ : pb.slot = k)
    (hslot₂ : (host1xPushbufferPush pb op₁).slot = k + 1) :
    (host1xPushbufferPush (host1xPushbufferPush pb op₁) op₂).wrote = pb.wrote ++ [k, k + 1] ∧
      (host1xPushbufferPush (host1xPushbufferPush pb op₁) op₂).mapped k = op₁ ∧
      (host1xPushbufferPush (host1xPushbufferPush pb op₁) op₂).mapped (k + 1) = op₂ := by
  refine ⟨?_, ?_, ?_⟩
  · show (pb.wrote ++ [pb.slot]) ++ [(host1xPushbufferPush pb op₁).slot] = _
    rw [hslot₁, hslot₂, List.append_assoc]
    rfl
  · show (if k = (host1xPushbufferPush pb op₁).slot then op₂ else
      if k = pb.slot then op₁ else pb.mapped k) = op₁
    rw [hslot₂, hslot₁, if_neg (Nat.ne_of_lt (Nat.lt_succ_self k)), if_pos rfl]
  · show (if k + 1 = (host1xPushbufferPush pb op₁).slot then op₂ else _) = op₂
    rw [hslot₂, if_pos rfl]

/-- The two slots of a wide push lie side by side, behind a slot of padding where the ring
ends. -/
theorem pushWide_adjacent (h : RunInv start s) {restart op₁ op₂ : α}
    (hstep : cdmaStep restart s (.pushWide op₁ op₂) = some s') : s'.Adjacent s op₁ op₂ := by
  simp only [cdmaStep, Option.ite_none_right_eq_some, Option.map_eq_some_iff] at hstep
  obtain ⟨hpushing, cdma, hpush, rfl⟩ := hstep
  unfold host1xCdmaPushWide at hpush
  simp only [Option.ite_none_left_eq_some, Option.some.injEq, BitVec.not_lt] at hpush
  obtain ⟨hspace, rfl⟩ := hpush
  have htoNat := h.space
  rw [pushWideExtra_eq h.ring] at hspace ⊢
  by_cases hlast : (start + (s.queued + s.inProgress)) % 1023 = 1022
  · rw [if_pos hlast] at hspace ⊢
    have hle : 3 ≤ (host1xPushbufferSpace s.cdma.pushBuffer).toNat := hspace
    have hring₁ := h.ring.push (by omega) restart
    have hring₂ := hring₁.push (by omega) op₁
    have hslot₁ := hring₁.slot
    have hslot₂ := hring₂.slot
    rw [show (start + (s.queued + s.inProgress + 1)) % 1023 = 0 by omega] at hslot₁
    rw [show (start + (s.queued + s.inProgress + 1 + 1)) % 1023 = 0 + 1 by omega] at hslot₂
    obtain ⟨hwrote, hfirst, hsecond⟩ := push_pair op₂ hslot₁ hslot₂
    rw [h.ring.wrote_push, hlast] at hwrote
    exact ⟨[1022], 0, Or.inr rfl, by decide, hwrote, hfirst, hsecond⟩
  rw [if_neg hlast] at hspace ⊢
  have hle : 2 ≤ (host1xPushbufferSpace s.cdma.pushBuffer).toNat := hspace
  have hslot₂ := (h.ring.push (by omega) op₁).slot
  rw [show (start + (s.queued + s.inProgress + 1)) % 1023 =
    (start + (s.queued + s.inProgress)) % 1023 + 1 by omega] at hslot₂
  obtain ⟨hwrote, hfirst, hsecond⟩ := push_pair op₂ h.ring.slot hslot₂
  refine ⟨[], _, Or.inl rfl, ?_, ?_, hfirst, hsecond⟩
  · show _ + 1 < 1023
    omega
  · rw [List.append_nil]
    exact hwrote

end RunInv

/-! ## The runs -/

/-- **The push buffer is accounted for** in every run of submissions and updates, and the two
slots of a wide push are never apart. -/
theorem pushbuffer_accounted {mapped : ℕ → α} {restart : α} {ops : List (CdmaOp α)}
    {s : CdmaRun α} (hrun : run (cdmaStep restart) (cdmaRunStart mapped) ops = some s) : s.Accounted ∧
      ∀ op₁ op₂ s', cdmaStep restart s (.pushWide op₁ op₂) = some s' → s'.Adjacent s op₁ op₂ := by
  have hinv : ∃ start, RunInv start s := by
    apply run_invariant (I := fun t : CdmaRun α => ∃ start, RunInv start t) _ _ hrun
    · rintro t op t' ⟨start, hinv⟩ hstep
      exact hinv.step hstep
    · exact ⟨0, runInv_start mapped⟩
  obtain ⟨start, hinv⟩ := hinv
  refine ⟨hinv.accounted, ?_⟩
  intro op₁ op₂ s' hstep
  exact hinv.pushWide_adjacent hstep

/-- Two jobs, of which the first completes while the second one is pushed. -/
def twoJobsRun : List (CdmaOp ℕ) :=
  [.begin false 0 ⟨0, 1, 1, 0, 0, false, false, 0, 0, []⟩, .push 10, .pushWide 11 12, .finish,
    .begin false 0 ⟨1, 1, 1, 0, 0, false, false, 0, 0, []⟩, .pushWide 13 14, .finish,
    .update fun i => if i = 0 then 1 else 0]

theorem pushbuffer_accounted_two :
    ∃ s, run (cdmaStep 9) (cdmaRunStart fun _ => 0) twoJobsRun = some s ∧ s.Accounted ∧
      ∀ op₁ op₂ s', cdmaStep 9 s (.pushWide op₁ op₂) = some s' → s'.Adjacent s op₁ op₂ := by
  exact exists_of_map (fun _ => ()) () (by decide +kernel) fun s hs _ => pushbuffer_accounted hs

end NvidiaOot.Analysis
