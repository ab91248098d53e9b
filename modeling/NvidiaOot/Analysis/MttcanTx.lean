import NvidiaOot.Library.Machine
import NvidiaOot.Library.Positions
import NvidiaOot.Model.MttcanTx

/-!
# MTTCAN transmit slots

`TxCore` says where each frame is: `tx_object` has the slots that hold one, save for the one that `start_xmit` is
filling, the controller's bits of such a slot are those of its frame, and each accepted frame is in one slot, echoed
or freed.  `TxSeen` says what the two handlers have left.

* **A handler ends some frames** (`TxCore.finish`): one slot is emptied, and its frame is echoed if it was sent and
  freed if it was not.  The loops of both handlers are this for the buffers of a list (`foldl_finish`); the loop for
  cancellations stops early, so it goes through a beginning of its list (`cancelLoop_eq`).
* **A buffer that is written is free** (`txBuffer_free`): by `TxCore` no request of it is pending then.

The cancellation handler stops at the first buffer without an outstanding frame and takes every cancelled buffer
before it for one that was not sent; a bus-off clears `tx_object` and leaves the echo slots.  Runs without these keep
`TxSlotsKept` (`tx_slots_kept`).
-/

namespace NvidiaOot.Analysis

open Program Model Library Function

/-! ## Masks -/

theorem getLsbD_maskBit (i j : ℕ) : (maskBit i).getLsbD j = (decide (i < 32) && decide (i = j)) := by
  unfold maskBit
  rw [BitVec.getLsbD_twoPow]

theorem getLsbD_setBit {i : ℕ} (hi : i < 32) (x : U32) (j : ℕ) :
    (setBit x i).getLsbD j = (x.getLsbD j || decide (j = i)) := by
  unfold setBit
  rw [BitVec.getLsbD_or, getLsbD_maskBit]
  simp [hi, eq_comm]

theorem getLsbD_clearBit (x : U32) (i j : ℕ) : (clearBit x i).getLsbD j = (x.getLsbD j && decide (j ≠ i)) := by
  unfold clearBit
  rw [BitVec.getLsbD_and, BitVec.getLsbD_not, getLsbD_maskBit]
  by_cases hj : j < 32
  · by_cases hji : j = i
    · subst hji
      simp [hj]
    · simp [hj, hji, Ne.symm hji]
  · simp [BitVec.getLsbD_of_ge x j (by omega)]

theorem getLsbD_lt {x : U32} {i : ℕ} (h : x.getLsbD i = true) : i < 32 := by
  by_contra hge
  rw [BitVec.getLsbD_of_ge x i (by omega)] at h
  exact Bool.false_ne_true h

theorem eq_zero_of_getLsbD {x : U32} (h : ∀ i, x.getLsbD i ≠ true) : x = 0 := by
  apply BitVec.eq_of_getLsbD_eq
  intro i _
  simp [h i]

theorem mem_bitsOf {x : U32} {i : ℕ} : i ∈ bitsOf x ↔ x.getLsbD i = true := by
  unfold bitsOf
  rw [List.mem_filter, List.mem_range]
  exact ⟨fun h => h.2, fun h => ⟨getLsbD_lt h, h⟩⟩

theorem bitsOf_pairwise (x : U32) : (bitsOf x).Pairwise (· < ·) :=
  List.pairwise_lt_range.filter _

theorem bitsOf_nodup (x : U32) : (bitsOf x).Nodup := (bitsOf_pairwise x).imp Nat.ne_of_lt

theorem firstBit_spec {x : U32} {i : ℕ} (h : firstBit x = some i) : x.getLsbD i = true :=
  List.find?_some h

/-! ## The invariant -/

structure TxCore (s : MttcanTx) : Prop where
  len : s.echoSkb.length = 32
  held : ∀ i, s.txObject.getLsbD i = true ↔ (s.echoFrame i).isSome ∧ s.xmitBuffer ≠ some i
  mid : ∀ i, s.xmitBuffer = some i → (s.echoFrame i).isSome
  ram : ∀ i f, s.echoFrame i = some f → s.ram i = f
  pending : ∀ i, s.txbrp.getLsbD i = true → (s.echoFrame i).isSome
  outcome : ∀ i f, s.echoFrame i = some f →
    s.txbrp.getLsbD i = !(s.txbto.getLsbD i || s.txbcf.getLsbD i)
  slotSent : ∀ i f, s.echoFrame i = some f → (s.txbto.getLsbD i = true ↔ f ∈ s.transmitted)
  known : ∀ f ∈ s.transmitted, f < s.accepted
  once : (txFrames s).Perm (List.range s.accepted)
  counted : s.txPackets = s.echoed.length ∧ s.txAbortedErrors = s.freed.length
  sent : ∀ f, (f ∈ s.echoed → f ∈ s.transmitted) ∧ (f ∈ s.freed → f ∉ s.transmitted)
  closed : s.up = false → SlotsEmpty s

structure TxSeen (s : MttcanTx) : Prop where
  cancelled : ∀ i, s.txObject.getLsbD i = true → s.txObjCancelled.getLsbD i = true → s.txbto.getLsbD i = true
  completeDone : s.completeRan → ∀ i, s.txObject.getLsbD i = true → s.txbto.getLsbD i = false
  cancelledDone : s.cancelledRan → ∀ i, s.txObject.getLsbD i = true → s.txbcf.getLsbD i = true →
    s.txbto.getLsbD i = true
  running : ∀ i, s.xmitBuffer = some i → s.completeRan = false ∧ s.cancelledRan = false

variable {s s' : MttcanTx} {i j f : ℕ}

theorem TxCore.opened (n : ℕ) (tt : Bool) : TxCore (MttcanTx.opened n tt) := by
  have hslot : ∀ i, (MttcanTx.opened n tt).echoFrame i = none := by
    intro i
    unfold MttcanTx.echoFrame MttcanTx.opened
    rw [List.getElem?_replicate]
    split <;> rfl
  constructor
  · rfl
  · intro i
    rw [hslot]
    simp [MttcanTx.opened]
  · nofun
  · intro i f hf
    simp [hslot] at hf
  · intro i hi
    simp [MttcanTx.opened] at hi
  · intro i f hf
    simp [hslot] at hf
  · intro i f hf
    simp [hslot] at hf
  · nofun
  · exact List.Perm.refl _
  · exact ⟨rfl, rfl⟩
  · intro f
    simp [MttcanTx.opened]
  · nofun

theorem TxSeen.opened (n : ℕ) (tt : Bool) : TxSeen (MttcanTx.opened n tt) := by
  constructor
  · intro i hi
    simp [MttcanTx.opened] at hi
  · intro hran
    simp [MttcanTx.opened] at hran
  · intro hran
    simp [MttcanTx.opened] at hran
  · nofun

/-! ## The echo slots -/

theorem echoFrame_eq_some (h : s.echoFrame i = some f) : s.echoSkb[i]? = some (some f) :=
  Option.join_eq_some_iff.mp h

theorem TxCore.lt (h : TxCore s) (hf : s.echoFrame i = some f) : i < 32 := by
  have := lt_of_getElem (echoFrame_eq_some hf)
  rw [h.len] at this
  exact this

theorem mem_slots_iff : f ∈ s.echoSkb.filterMap id ↔ ∃ i, s.echoFrame i = some f := by
  rw [List.mem_filterMap]
  constructor
  · rintro ⟨o, ho, rfl⟩
    obtain ⟨i, hi⟩ := List.mem_iff_getElem?.mp ho
    exact ⟨i, Option.join_eq_some_iff.mpr hi⟩
  · rintro ⟨i, hi⟩
    exact ⟨some f, List.mem_of_getElem? (echoFrame_eq_some hi), rfl⟩

theorem slotsEmpty_iff : SlotsEmpty s ↔ ∀ i, s.echoFrame i = none := by
  unfold SlotsEmpty
  rw [List.eq_nil_iff_forall_not_mem]
  constructor
  · intro h i
    cases hf : s.echoFrame i with
    | none => rfl
    | some f => exact absurd (mem_slots_iff.mpr ⟨i, hf⟩) (h f)
  · intro h f hf
    obtain ⟨i, hi⟩ := mem_slots_iff.mp hf
    rw [h i] at hi
    cases hi

theorem TxCore.nodup (h : TxCore s) : (txFrames s).Nodup := h.once.nodup_iff.mpr List.nodup_range

theorem TxCore.slot_unique (h : TxCore s) (hi : s.echoFrame i = some f) (hj : s.echoFrame j = some f) : j = i := by
  have hnodup : (s.echoSkb.filterMap id).Nodup := (List.nodup_append.mp h.nodup).2.1
  exact place_unique hnodup (echoFrame_eq_some hi) (echoFrame_eq_some hj)

theorem TxCore.slot_lt (h : TxCore s) (hf : s.echoFrame i = some f) : f < s.accepted := by
  rw [← List.mem_range, ← h.once.mem_iff]
  exact List.mem_append_right _ (mem_slots_iff.mpr ⟨i, hf⟩)

/-- What the handlers and the queue note about themselves is not about where the frames are. -/
theorem TxCore.of_notes (h : TxCore s) (q c d : Bool) (o r : U32) :
    TxCore { s with queueStopped := q, completeRan := c, cancelledRan := d, txObjCancelled := o, txbcr := r } where
  len := h.len
  held := h.held
  mid := h.mid
  ram := h.ram
  pending := h.pending
  outcome := h.outcome
  slotSent := h.slotSent
  known := h.known
  once := h.once
  counted := h.counted
  sent := h.sent
  closed := h.closed

/-! ## A frame ends -/

/-- A slot is emptied and its frame goes to the echoed or to the freed ones. -/
structure Finished (s s' : MttcanTx) (i : ℕ) (sent : Bool) : Prop where
  object : s'.txObject = clearBit s.txObject i
  slots : s'.echoSkb = s.echoSkb.set i none
  echoed : s'.echoed = if sent then s.echoed ++ (s.echoFrame i).toList else s.echoed
  freed : s'.freed = if sent then s.freed else s.freed ++ (s.echoFrame i).toList
  packets : s'.txPackets = if sent then s.txPackets + 1 else s.txPackets
  aborted : s'.txAbortedErrors = if sent then s.txAbortedErrors else s.txAbortedErrors + 1
  regs : (s'.txbrp, s'.txbto, s'.txbcf) = (s.txbrp, s.txbto, s.txbcf)
  rest : (s'.ram, s'.xmitBuffer, s'.up, s'.accepted, s'.transmitted) =
    (s.ram, s.xmitBuffer, s.up, s.accepted, s.transmitted)
  notes : (s'.txObjCancelled, s'.completeRan, s'.cancelledRan) =
    (s.txObjCancelled, s.completeRan, s.cancelledRan)

theorem completeOne_finished (s : MttcanTx) (i : ℕ) : Finished s (s.completeOne i) i true := by
  constructor <;> rfl

theorem freeOne_finished (s : MttcanTx) (i : ℕ) : Finished s (s.freeOne i) i false := by
  constructor <;> rfl

theorem Finished.frames_perm {sent : Bool} (hfin : Finished s s' i sent) (hf : s.echoFrame i = some f) :
    (txFrames s').Perm (txFrames s) := by
  have hslots := filterMap_set_none_perm (echoFrame_eq_some hf)
  unfold txFrames
  rw [hfin.slots, hfin.echoed, hfin.freed, hf]
  cases sent with
  | true =>
    calc s.echoed ++ [f] ++ s.freed ++ (s.echoSkb.set i none).filterMap id
        = s.echoed ++ ([f] ++ s.freed ++ (s.echoSkb.set i none).filterMap id) := by simp
      List.Perm _ (s.echoed ++ (s.freed ++ (f :: (s.echoSkb.set i none).filterMap id))) := by
          apply List.Perm.append_left
          exact List.perm_middle.symm
      List.Perm _ (s.echoed ++ (s.freed ++ s.echoSkb.filterMap id)) := by
          apply List.Perm.append_left
          exact hslots.append_left _
      _ = s.echoed ++ s.freed ++ s.echoSkb.filterMap id := by simp
  | false =>
    calc s.echoed ++ (s.freed ++ [f]) ++ (s.echoSkb.set i none).filterMap id
        = s.echoed ++ s.freed ++ (f :: (s.echoSkb.set i none).filterMap id) := by simp
      List.Perm _ (s.echoed ++ s.freed ++ s.echoSkb.filterMap id) := hslots.append_left _

/-- **One frame ends**: as sent if it was, and as aborted if it was not. -/
theorem TxCore.finish {sent : Bool} (h : TxCore s) (hfin : Finished s s' i sent)
    (hobj : s.txObject.getLsbD i = true) (hsent : s.txbto.getLsbD i = sent)
    (hended : s.txbrp.getLsbD i = false) : TxCore s' := by
  obtain ⟨hsome, hmid⟩ := (h.held i).mp hobj
  obtain ⟨f, hf⟩ := Option.isSome_iff_exists.mp hsome
  have hlt : i < s.echoSkb.length := by
    rw [h.len]
    exact h.lt hf
  have hslot : ∀ j, s'.echoFrame j = if j = i then none else s.echoFrame j := by
    intro j
    unfold MttcanTx.echoFrame
    rw [hfin.slots]
    exact getElem?_set_join hlt none j
  have hother : ∀ {j g}, s'.echoFrame j = some g → j ≠ i ∧ s.echoFrame j = some g := by
    intro j g hg
    rw [hslot] at hg
    exact Option.ite_none_left_eq_some.mp hg
  have hregs := hfin.regs
  have hrest := hfin.rest
  simp only [Prod.mk.injEq] at hregs hrest
  obtain ⟨hbrp, hto, hcf⟩ := hregs
  obtain ⟨hram, hxmit, hup, hacc, htr⟩ := hrest
  constructor
  · rw [hfin.slots, List.length_set]
    exact h.len
  · intro j
    rw [hfin.object, getLsbD_clearBit, hslot, hxmit, Bool.and_eq_true, h.held j, decide_eq_true_eq]
    by_cases hj : j = i
    · simp [hj]
    · simp [hj]
  · intro j hj
    rw [hxmit] at hj
    have hne : j ≠ i := by
      rintro rfl
      exact hmid hj
    rw [hslot, if_neg hne]
    exact h.mid j hj
  · intro j g hg
    rw [hram]
    exact h.ram j g (hother hg).2
  · intro j hj
    rw [hbrp] at hj
    have hne : j ≠ i := by
      rintro rfl
      rw [hended] at hj
      cases hj
    rw [hslot, if_neg hne]
    exact h.pending j hj
  · intro j g hg
    rw [hbrp, hto, hcf]
    exact h.outcome j g (hother hg).2
  · intro j g hg
    rw [hto, htr]
    exact h.slotSent j g (hother hg).2
  · rw [htr, hacc]
    exact h.known
  · rw [hacc]
    exact (hfin.frames_perm hf).trans h.once
  · rw [hfin.packets, hfin.aborted, hfin.echoed, hfin.freed, hf]
    obtain ⟨hpackets, haborted⟩ := h.counted
    cases sent <;> simp [hpackets, haborted]
  · intro g
    have hslotSent := h.slotSent i f hf
    rw [hsent] at hslotSent
    rw [htr, hfin.echoed, hfin.freed, hf]
    cases sent with
    | true =>
      simp only [if_true, Option.toList_some, List.mem_append, List.mem_singleton]
      refine ⟨?_, (h.sent g).2⟩
      rintro (hg | rfl)
      · exact (h.sent g).1 hg
      · exact hslotSent.mp rfl
    | false =>
      simp only [Bool.false_eq_true, if_false, Option.toList_some, List.mem_append, List.mem_singleton]
      refine ⟨(h.sent g).1, ?_⟩
      rintro (hg | rfl)
      · exact (h.sent g).2 hg
      · exact fun hmem => Bool.false_ne_true (hslotSent.mpr hmem)
  · intro hdown
    rw [hup] at hdown
    have hempty := slotsEmpty_iff.mp (h.closed hdown) i
    rw [hf] at hempty
    cases hempty

/-! ## The handlers -/

def txFrame (s : MttcanTx) : (U32 × U32 × U32) × (U32 × Bool × Bool) × Option ℕ :=
  ((s.txbrp, s.txbto, s.txbcf), (s.txObjCancelled, s.completeRan, s.cancelledRan), s.xmitBuffer)

/-- **The loop of a handler** ends the frames of its list. -/
theorem foldl_finish {sent : Bool} {g : MttcanTx → ℕ → MttcanTx} (hg : ∀ s i, Finished s (g s i) i sent)
    {bs : List ℕ} (hnodup : bs.Nodup) (h : TxCore s)
    (hall : ∀ i ∈ bs, s.txObject.getLsbD i = true ∧ s.txbto.getLsbD i = sent ∧ s.txbrp.getLsbD i = false) :
    TxCore (bs.foldl g s) ∧ txFrame (bs.foldl g s) = txFrame s ∧
      ∀ j, (bs.foldl g s).txObject.getLsbD j = (s.txObject.getLsbD j && decide (j ∉ bs)) := by
  induction bs generalizing s with
  | nil => exact ⟨h, rfl, fun j => by simp⟩
  | cons i bs ih =>
    obtain ⟨hi, hrest⟩ := List.nodup_cons.mp hnodup
    obtain ⟨hobj, hto, hbrp⟩ := hall i List.mem_cons_self
    have hfin := hg s i
    have hregs := hfin.regs
    simp only [Prod.mk.injEq] at hregs
    have hnext : ∀ j ∈ bs, (g s i).txObject.getLsbD j = true ∧ (g s i).txbto.getLsbD j = sent ∧
        (g s i).txbrp.getLsbD j = false := by
      intro j hj
      have hne : j ≠ i := by
        rintro rfl
        exact hi hj
      rw [hfin.object, getLsbD_clearBit, hregs.1, hregs.2.1, decide_eq_true hne, Bool.and_true]
      exact hall j (List.mem_cons_of_mem i hj)
    obtain ⟨hcore, hframe, hobject⟩ := ih hrest (h.finish hfin hobj hto hbrp) hnext
    refine ⟨hcore, hframe.trans ?_, ?_⟩
    · have hother := hfin.rest
      simp only [Prod.mk.injEq] at hother
      unfold txFrame
      rw [hfin.regs, hfin.notes, hother.2.1]
    · intro j
      rw [List.foldl_cons, hobject, hfin.object, getLsbD_clearBit]
      simp [List.mem_cons, Bool.and_assoc, not_or]

theorem TxCore.ended (h : TxCore s) (hobj : s.txObject.getLsbD i = true)
    (hout : s.txbto.getLsbD i = true ∨ s.txbcf.getLsbD i = true) : s.txbrp.getLsbD i = false := by
  obtain ⟨f, hf⟩ := Option.isSome_iff_exists.mp ((h.held i).mp hobj).1
  rw [h.outcome i f hf]
  rcases hout with hout | hout <;> simp [hout]

theorem TxCore.complete (h : TxCore s) (hseen : TxSeen s) (hmid : s.xmitBuffer = none) :
    TxCore s.mttcanTxComplete ∧ TxSeen s.mttcanTxComplete := by
  have hmem : ∀ {i}, i ∈ bitsOf (s.txbto &&& s.txObject) ↔
      s.txbto.getLsbD i = true ∧ s.txObject.getLsbD i = true := by
    intro i
    rw [mem_bitsOf, BitVec.getLsbD_and, Bool.and_eq_true]
  have hall : ∀ i ∈ bitsOf (s.txbto &&& s.txObject), s.txObject.getLsbD i = true ∧
      s.txbto.getLsbD i = true ∧ s.txbrp.getLsbD i = false := by
    intro i hi
    obtain ⟨hto, hobj⟩ := hmem.mp hi
    exact ⟨hobj, hto, h.ended hobj (Or.inl hto)⟩
  obtain ⟨hcore, hframe, hobject⟩ := foldl_finish completeOne_finished (bitsOf_nodup _) h hall
  unfold MttcanTx.mttcanTxComplete
  generalize (bitsOf (s.txbto &&& s.txObject)).foldl MttcanTx.completeOne s = t at hcore hframe hobject
  simp only [txFrame, Prod.mk.injEq] at hframe
  obtain ⟨⟨-, hto, hcf⟩, ⟨hseenC, -, hcanRan⟩, hxmit⟩ := hframe
  have hleft : ∀ i, t.txObject.getLsbD i = true → s.txObject.getLsbD i = true ∧ s.txbto.getLsbD i = false := by
    intro i hi
    rw [hobject, Bool.and_eq_true, decide_eq_true_eq, hmem] at hi
    refine ⟨hi.1, ?_⟩
    rw [Bool.eq_false_iff]
    exact fun hsent => hi.2 ⟨hsent, hi.1⟩
  refine ⟨hcore.of_notes false true t.cancelledRan t.txObjCancelled t.txbcr, ?_⟩
  constructor
  · intro i hi hc
    rw [hseenC] at hc
    rw [hto]
    exact hseen.cancelled i (hleft i hi).1 hc
  · intro _ i hi
    rw [hto]
    exact (hleft i hi).2
  · intro hran i hi hc
    rw [hcanRan] at hran
    rw [hcf] at hc
    rw [hto]
    exact hseen.cancelledDone hran i (hleft i hi).1 hc
  · intro i hi
    rw [hxmit, hmid] at hi
    cases hi

theorem cancelLoop_eq {bs : List ℕ} {p : ℕ → Bool} (hnodup : bs.Nodup) (hp : ∀ i ∈ bs, s.txObject.getLsbD i = p i) :
    MttcanTx.cancelLoop bs s = (bs.takeWhile p).foldl MttcanTx.freeOne s := by
  induction bs generalizing s with
  | nil => rfl
  | cons i bs ih =>
    obtain ⟨hi, hrest⟩ := List.nodup_cons.mp hnodup
    unfold MttcanTx.cancelLoop
    rw [hp i List.mem_cons_self, List.takeWhile_cons]
    cases p i with
    | false => rfl
    | true =>
      apply ih hrest
      intro j hj
      -- ending one frame leaves the other bits
      have hne : j ≠ i := by
        rintro rfl
        exact hi hj
      rw [(freeOne_finished s i).object, getLsbD_clearBit, decide_eq_true hne, Bool.and_true]
      exact hp j (List.mem_cons_of_mem i hj)

theorem mem_cancelled_iff : i ∈ (bitsOf s.cancelledMsg).takeWhile (fun j => s.txObject.getLsbD j) ↔
      s.cancelledMsg.getLsbD i = true ∧ s.txObject.getLsbD i = true ∧ stopsBefore s i = false := by
  rw [mem_takeWhile_iff_of_pairwise (bitsOf_pairwise _), mem_bitsOf]
  unfold stopsBefore
  rw [List.any_eq_false]
  apply and_congr_right
  intro hi
  constructor
  · intro hall
    refine ⟨hall i (mem_bitsOf.mpr hi) (Nat.le_refl i), ?_⟩
    intro j hj hstop
    rw [Bool.and_eq_true, Bool.not_eq_true'] at hstop
    have hobj := hall j (mem_bitsOf.mpr hstop.1) (Nat.le_of_lt (List.mem_range.mp hj))
    rw [hobj] at hstop
    cases hstop.2
  · rintro ⟨hobj, hnone⟩ j hj hle
    rcases Nat.lt_or_eq_of_le hle with hlt | rfl
    · have hnot := hnone j (List.mem_range.mpr hlt)
      rw [mem_bitsOf.mp hj] at hnot
      simpa using hnot
    · exact hobj

theorem getLsbD_cancelledMsg (s : MttcanTx) (i : ℕ) :
    s.cancelledMsg.getLsbD i = (s.txbcf.getLsbD i && !s.txObjCancelled.getLsbD i) := by
  unfold MttcanTx.cancelledMsg
  rw [BitVec.getLsbD_and, BitVec.getLsbD_xor, BitVec.getLsbD_not]
  by_cases hi : i < 32
  · simp only [hi, decide_true, Bool.true_and]
    cases s.txbcf.getLsbD i <;> cases s.txObjCancelled.getLsbD i <;> rfl
  · simp [hi, BitVec.getLsbD_of_ge s.txbcf i (by omega)]

/-- **Cancelled frames are freed**, if the loop passes by those that were sent. -/
theorem TxCore.cancel (h : TxCore s) (hseen : TxSeen s) (hmid : s.xmitBuffer = none) (hfits : CancelFits s) :
    TxCore s.mttcanTxCancelled ∧ TxSeen s.mttcanTxCancelled := by
  let s₀ : MttcanTx := { s with txObjCancelled := s.txbcf }
  have hcore₀ : TxCore s₀ := h.of_notes s.queueStopped s.completeRan s.cancelledRan s.txbcf s.txbcr
  have hloop : MttcanTx.cancelLoop (bitsOf s.cancelledMsg) s₀ =
      ((bitsOf s.cancelledMsg).takeWhile fun i => s.txObject.getLsbD i).foldl MttcanTx.freeOne s₀ :=
    cancelLoop_eq (bitsOf_nodup _) fun i _ => rfl
  have hnodup : ((bitsOf s.cancelledMsg).takeWhile fun i => s.txObject.getLsbD i).Nodup :=
    (List.takeWhile_sublist _).nodup (bitsOf_nodup _)
  have hall : ∀ i ∈ (bitsOf s.cancelledMsg).takeWhile fun i => s.txObject.getLsbD i,
      s₀.txObject.getLsbD i = true ∧ s₀.txbto.getLsbD i = false ∧ s₀.txbrp.getLsbD i = false := by
    intro i hi
    obtain ⟨hmsg, hobj, hstop⟩ := mem_cancelled_iff.mp hi
    refine ⟨hobj, (hfits i (getLsbD_lt hobj) hmsg hobj).trans hstop, ?_⟩
    rw [getLsbD_cancelledMsg, Bool.and_eq_true] at hmsg
    exact h.ended hobj (Or.inr hmsg.1)
  obtain ⟨hcore, hframe, hobject⟩ := foldl_finish freeOne_finished hnodup hcore₀ hall
  unfold MttcanTx.mttcanTxCancelled
  rw [hloop]
  generalize ((bitsOf s.cancelledMsg).takeWhile fun i => s.txObject.getLsbD i).foldl MttcanTx.freeOne s₀ = t
    at hcore hframe hobject
  simp only [txFrame, Prod.mk.injEq] at hframe
  obtain ⟨⟨-, hto, hcf⟩, ⟨hcancelled, hcomRan, -⟩, hxmit⟩ := hframe
  -- what is cancelled and left was sent: it was seen before, or the loop stopped before it
  have hleft : ∀ i, t.txObject.getLsbD i = true → s.txObject.getLsbD i = true ∧
      (s.txbcf.getLsbD i = true → s.txbto.getLsbD i = true) := by
    intro i hi
    rw [hobject, Bool.and_eq_true, decide_eq_true_eq, mem_cancelled_iff, getLsbD_cancelledMsg] at hi
    obtain ⟨hobj, hnot⟩ := hi
    refine ⟨hobj, ?_⟩
    intro hc
    cases hold : s.txObjCancelled.getLsbD i with
    | true => exact hseen.cancelled i hobj hold
    | false =>
      have hmsg : s.cancelledMsg.getLsbD i = true := by
        rw [getLsbD_cancelledMsg, hc, hold]
        rfl
      rw [hfits i (getLsbD_lt hobj) hmsg hobj]
      by_contra hstop
      exact hnot ⟨by rw [hc, hold]; rfl, hobj, Bool.eq_false_iff.mpr hstop⟩
  refine ⟨hcore.of_notes _ t.completeRan true t.txObjCancelled t.txbcr, ?_⟩
  constructor
  · intro i hi hc
    rw [hcancelled] at hc
    rw [hto]
    exact (hleft i hi).2 hc
  · intro hran i hi
    rw [hcomRan] at hran
    rw [hto]
    exact hseen.completeDone hran i (hleft i hi).1
  · intro _ i hi hc
    rw [hcf] at hc
    rw [hto]
    exact (hleft i hi).2 hc
  · intro i hi
    rw [hxmit] at hi
    exact absurd (hmid.symm.trans hi) (by simp)

/-! ## Sending -/

/-- **A buffer that is written is free.**  The requests that are pending have a frame in their slot, so `tx_object`
has their bits too. -/
theorem txBuffer_free {txbrp txfqs : U32} (h : TxCore s) (hmid : s.xmitBuffer = none)
    (hi : s.txBuffer txbrp txfqs = some i) :
    i < 32 ∧ s.txObject.getLsbD i = false ∧ s.echoFrame i = none ∧ s.txbrp.getLsbD i = false := by
  have hfree : i < 32 ∧ s.txObject.getLsbD i = false := by
    unfold MttcanTx.txBuffer at hi
    cases hded : s.ttcanTxMsgBuffer txbrp with
    | some k =>
      rw [hded] at hi
      cases hi
      have hbit := firstBit_spec hded
      rw [BitVec.getLsbD_and, BitVec.getLsbD_and, BitVec.getLsbD_not] at hbit
      refine ⟨getLsbD_lt (firstBit_spec hded), ?_⟩
      simp only [Bool.and_eq_true, BitVec.getLsbD_not, Bool.not_eq_true'] at hbit
      exact hbit.1.2.2
    | none =>
      rw [hded] at hi
      obtain ⟨-, hi⟩ := Option.ite_none_left_eq_some.mp hi
      obtain ⟨hbit, hi⟩ := Option.ite_none_left_eq_some.mp hi
      cases hi
      exact ⟨Nat.mod_lt _ (by omega), Bool.eq_false_iff.mpr hbit⟩
  have hnone : s.echoFrame i = none := by
    by_contra hne
    have hobj := (h.held i).mpr ⟨Option.isSome_iff_ne_none.mpr hne, by simp [hmid]⟩
    rw [hfree.2] at hobj
    cases hobj
  refine ⟨hfree.1, hfree.2, hnone, ?_⟩
  rw [Bool.eq_false_iff]
  intro hpending
  have hsome := h.pending i hpending
  rw [hnone] at hsome
  cases hsome

theorem acceptFrame_eq (htt : s.ttParam = false) (hslot : s.echoSkb[i]? = some none) : s.acceptFrame i = { s with
        ram := update s.ram i s.accepted
        echoSkb := s.echoSkb.set i (some s.accepted)
        txbrp := setBit s.txbrp i
        txbto := clearBit s.txbto i
        txbcf := clearBit s.txbcf i
        accepted := s.accepted + 1
        xmitBuffer := some i
        completeRan := false
        cancelledRan := false } := by
  unfold MttcanTx.acceptFrame MttcanTx.canPutEchoSkb
  simp only [hslot, htt, Bool.false_eq_true, if_false]
  rfl

theorem getElem?_of_echoFrame_eq_none (hlt : i < s.echoSkb.length) (hnone : s.echoFrame i = none) :
    s.echoSkb[i]? = some none := by
  unfold MttcanTx.echoFrame at hnone
  rw [List.getElem?_eq_getElem hlt] at hnone ⊢
  rw [Option.join_some] at hnone
  rw [hnone]

theorem TxCore.accept (h : TxCore s) (hup : s.up = true) (hmid : s.xmitBuffer = none) (htt : s.ttParam = false)
    (hi : i < 32) (hnone : s.echoFrame i = none) : TxCore (s.acceptFrame i) := by
  have hlt : i < s.echoSkb.length := by
    rw [h.len]
    exact hi
  have hplace := getElem?_of_echoFrame_eq_none hlt hnone
  rw [acceptFrame_eq htt hplace]
  have hslot : ∀ j, ((s.echoSkb.set i (some s.accepted))[j]?).join =
      if j = i then some s.accepted else s.echoFrame j := fun j => getElem?_set_join hlt _ j
  have hnew : s.accepted ∉ s.transmitted := fun hmem => Nat.lt_irrefl _ (h.known _ hmem)
  constructor
  · exact (List.length_set ..).trans h.len
  · intro j
    unfold MttcanTx.echoFrame
    rw [hslot, h.held j, hmid]
    by_cases hj : j = i
    · simp [hj, hnone]
    · simp [hj, Ne.symm hj]
  · intro j hj
    unfold MttcanTx.echoFrame
    rw [hslot, if_pos (Option.some.inj hj).symm]
    rfl
  · intro j g hg
    unfold MttcanTx.echoFrame at hg
    dsimp only at hg ⊢
    rw [hslot] at hg
    by_cases hj : j = i
    · rw [if_pos hj] at hg
      rw [hj, update_self]
      exact Option.some.inj hg
    · rw [if_neg hj] at hg
      rw [update_of_ne hj]
      exact h.ram j g hg
  · intro j hj
    unfold MttcanTx.echoFrame
    rw [hslot]
    rw [getLsbD_setBit hi, Bool.or_eq_true, decide_eq_true_eq] at hj
    split_ifs with hji
    · rfl
    · exact h.pending j (hj.resolve_right hji)
  · intro j g hg
    unfold MttcanTx.echoFrame at hg
    rw [hslot] at hg
    rw [getLsbD_setBit hi, getLsbD_clearBit, getLsbD_clearBit]
    by_cases hj : j = i
    · simp [hj]
    · rw [if_neg hj] at hg
      simp [hj, h.outcome j g hg]
  · intro j g hg
    unfold MttcanTx.echoFrame at hg
    rw [hslot] at hg
    rw [getLsbD_clearBit]
    by_cases hj : j = i
    · rw [if_pos hj] at hg
      cases hg
      simp [hj, hnew]
    · rw [if_neg hj] at hg
      simp [hj, h.slotSent j g hg]
  · intro g hg
    exact Nat.lt_succ_of_lt (h.known g hg)
  · have hperm := (filterMap_set_some_perm hplace s.accepted).append_left (s.echoed ++ s.freed)
    have hmiddle : (s.echoed ++ s.freed ++ s.accepted :: s.echoSkb.filterMap id).Perm
        (s.accepted :: txFrames s) := List.perm_middle
    have hsnoc : (s.accepted :: List.range s.accepted).Perm (List.range (s.accepted + 1)) := by
      rw [List.range_succ]
      exact (List.perm_append_singleton _ _).symm
    exact (hperm.trans hmiddle).trans ((h.once.cons _).trans hsnoc)
  · exact h.counted
  · exact h.sent
  · intro hdown
    exact absurd (hup.symm.trans hdown) (by simp)

theorem TxSeen.accept (hseen : TxSeen s) (htt : s.ttParam = false) (hslot : s.echoSkb[i]? = some none)
    (hobj : s.txObject.getLsbD i = false) : TxSeen (s.acceptFrame i) := by
  rw [acceptFrame_eq htt hslot]
  constructor
  · intro j hj hc
    have hne : j ≠ i := by
      rintro rfl
      rw [hobj] at hj
      cases hj
    rw [getLsbD_clearBit, hseen.cancelled j hj hc, decide_eq_true hne]
    rfl
  · nofun
  · nofun
  · intro j _
    exact ⟨rfl, rfl⟩

theorem startXmitBegin_kept {txbrp txfqs : U32} (h : TxCore s) (hseen : TxSeen s) (hup : s.up = true)
    (hmid : s.xmitBuffer = none) (htt : s.ttParam = false) :
    TxCore (s.startXmitBegin txbrp txfqs) ∧ TxSeen (s.startXmitBegin txbrp txfqs) := by
  unfold MttcanTx.startXmitBegin
  cases hbuf : s.txBuffer txbrp txfqs with
  | none =>
    refine ⟨h.of_notes true s.completeRan s.cancelledRan s.txObjCancelled s.txbcr, ?_⟩
    exact ⟨hseen.cancelled, hseen.completeDone, hseen.cancelledDone, hseen.running⟩
  | some i =>
    obtain ⟨hi, hobj, hnone, -⟩ := txBuffer_free h hmid hbuf
    have hlt : i < s.echoSkb.length := by
      rw [h.len]
      exact hi
    exact ⟨h.accept hup hmid htt hi hnone, hseen.accept htt (getElem?_of_echoFrame_eq_none hlt hnone) hobj⟩

theorem startXmitEnd_kept (h : TxCore s) (hseen : TxSeen s) (hmid : s.xmitBuffer = some i) :
    TxCore (s.startXmitEnd i) ∧ TxSeen (s.startXmitEnd i) := by
  obtain ⟨f, hf⟩ := Option.isSome_iff_exists.mp (h.mid i hmid)
  have hi : i < 32 := h.lt hf
  obtain ⟨hcom, hcan⟩ := hseen.running i hmid
  unfold MttcanTx.startXmitEnd
  constructor
  · refine ⟨h.len, ?_, ?_, h.ram, h.pending, h.outcome, h.slotSent, h.known, h.once, h.counted, h.sent,
      h.closed⟩
    · intro j
      show (setBit s.txObject i).getLsbD j = true ↔ (s.echoFrame j).isSome ∧ none ≠ some j
      rw [getLsbD_setBit hi, Bool.or_eq_true, decide_eq_true_eq, h.held j, hmid]
      by_cases hj : j = i
      · simp [hj, hf]
      · simp [hj, Ne.symm hj]
    · nofun
  · constructor
    · intro j hj hc
      rw [getLsbD_clearBit, Bool.and_eq_true, decide_eq_true_eq] at hc
      rw [getLsbD_setBit hi, Bool.or_eq_true, decide_eq_true_eq] at hj
      exact hseen.cancelled j (hj.resolve_right hc.2) hc.1
    · intro hran
      rw [hcom] at hran
      cases hran
    · intro hran
      rw [hcan] at hran
      cases hran
    · nofun

/-! ## The controller -/

theorem requestEnd_kept {sent cancelled : Bool} (h : TxCore s) (hseen : TxSeen s)
    (hend : requestMayEnd s i sent cancelled = true) :
    TxCore (s.requestEnd i sent cancelled) ∧ TxSeen (s.requestEnd i sent cancelled) := by
  unfold requestMayEnd at hend
  rw [Bool.and_eq_true, Bool.and_eq_true] at hend
  obtain ⟨⟨hbrp, hany⟩, -⟩ := hend
  obtain ⟨f, hf⟩ := Option.isSome_iff_exists.mp (h.pending i hbrp)
  have hi : i < 32 := h.lt hf
  have hram := h.ram i f hf
  have hout := h.outcome i f hf
  rw [hbrp] at hout
  have hto : s.txbto.getLsbD i = false := by
    cases hto : s.txbto.getLsbD i with
    | false => rfl
    | true => simp [hto] at hout
  have hcf : s.txbcf.getLsbD i = false := by
    cases hcf : s.txbcf.getLsbD i with
    | false => rfl
    | true => simp [hcf] at hout
  have hto' : ∀ j, (if sent = true then setBit s.txbto i else s.txbto).getLsbD j =
      if j = i then sent else s.txbto.getLsbD j := by
    intro j
    by_cases hj : j = i
    · cases sent <;> simp [hj, hto, getLsbD_setBit hi]
    · cases sent <;> simp [hj, getLsbD_setBit hi]
  have hcf' : ∀ j, (if cancelled = true then setBit s.txbcf i else s.txbcf).getLsbD j =
      if j = i then cancelled else s.txbcf.getLsbD j := by
    intro j
    by_cases hj : j = i
    · cases cancelled <;> simp [hj, hcf, getLsbD_setBit hi]
    · cases cancelled <;> simp [hj, getLsbD_setBit hi]
  have htr : ∀ g, (g ∈ if sent = true then s.transmitted ++ [s.ram i] else s.transmitted) ↔
      g ∈ s.transmitted ∨ (sent = true ∧ g = f) := by
    intro g
    rw [hram]
    cases sent <;> simp
  unfold MttcanTx.requestEnd
  constructor
  · refine ⟨h.len, h.held, h.mid, h.ram, ?_, ?_, ?_, ?_, h.once, h.counted, ?_, h.closed⟩
    · intro j hj
      rw [getLsbD_clearBit, Bool.and_eq_true] at hj
      exact h.pending j hj.1
    · intro j g hg
      rw [getLsbD_clearBit, hto', hcf']
      by_cases hj : j = i
      · simp [hj, hany]
      · simp only [hj, if_false, ne_eq, not_false_eq_true, decide_true, Bool.and_true]
        exact h.outcome j g hg
    · intro j g hg
      rw [hto', htr]
      by_cases hj : j = i
      · subst hj
        have hgf : g = f := Option.some.inj (hg.symm.trans hf)
        have hold := h.slotSent j f hf
        rw [hto] at hold
        simp only [if_true, hgf, and_true]
        simp only [Bool.false_eq_true, false_iff] at hold
        simp [hold]
      rw [if_neg hj, h.slotSent j g hg]
      have hgf : g ≠ f := by
        rintro rfl
        exact hj (h.slot_unique hf hg)
      simp [hgf]
    · intro g hg
      rcases (htr g).mp hg with hg | ⟨-, rfl⟩
      · exact h.known g hg
      · exact h.slot_lt hf
    · intro g
      refine ⟨fun hg => (htr g).mpr (Or.inl ((h.sent g).1 hg)), ?_⟩
      intro hg hmem
      rcases (htr g).mp hmem with hold | ⟨-, rfl⟩
      · exact (h.sent g).2 hg hold
      · have hnodup := List.nodup_append.mp h.nodup
        exact hnodup.2.2 g (List.mem_append_right _ hg) g (mem_slots_iff.mpr ⟨i, hf⟩) rfl
  · constructor
    · intro j hj hc
      have hold := hseen.cancelled j hj hc
      have hne : j ≠ i := by
        rintro rfl
        rw [hto] at hold
        cases hold
      rw [hto', if_neg hne]
      exact hold
    · nofun
    · nofun
    · intro j _
      exact ⟨rfl, rfl⟩

/-! ## Bus-off, restart, close and open -/

theorem TxSeen.of_none_outstanding (hobj : ∀ i, s.txObject.getLsbD i ≠ true)
    (hrun : ∀ i, s.xmitBuffer = some i → s.completeRan = false ∧ s.cancelledRan = false) : TxSeen s where
  cancelled i hi := absurd hi (hobj i)
  completeDone _ i hi := absurd hi (hobj i)
  cancelledDone _ i hi := absurd hi (hobj i)
  running := hrun

section

variable (h : TxCore s)

include h

theorem TxCore.none_outstanding (hempty : SlotsEmpty s) (i : ℕ) : s.txObject.getLsbD i ≠ true := by
  intro hi
  have hsome := ((h.held i).mp hi).1
  rw [slotsEmpty_iff.mp hempty i] at hsome
  cases hsome

theorem TxCore.no_xmit (hempty : SlotsEmpty s) (i : ℕ) : s.xmitBuffer ≠ some i := by
  intro hi
  have hsome := h.mid i hi
  rw [slotsEmpty_iff.mp hempty i] at hsome
  cases hsome

theorem stateChangeBusOff_kept (hseen : TxSeen s) (hobj : s.txObject = 0) (n : ℕ) :
    TxCore (s.stateChangeBusOff n) ∧ TxSeen (s.stateChangeBusOff n) := by
  constructor
  · refine ⟨h.len, ?_, h.mid, h.ram, h.pending, h.outcome, h.slotSent, h.known, h.once, h.counted, h.sent,
      h.closed⟩
    intro i
    have hheld := h.held i
    rw [hobj] at hheld
    exact hheld
  · apply TxSeen.of_none_outstanding
    · intro i hi
      simp [MttcanTx.stateChangeBusOff] at hi
    · exact hseen.running

theorem TxCore.started (hempty : SlotsEmpty s) (u b r q : Bool) :
    TxCore { s with txbrp := 0, txbto := 0, txbcf := 0, txbcr := 0, up := u, busOff := b, restartScheduled := r,
                    queueStopped := q } := by
  have hslot := slotsEmpty_iff.mp hempty
  have hnot : ∀ {i g}, s.echoFrame i ≠ some g := by
    intro i g hg
    rw [hslot i] at hg
    cases hg
  refine ⟨h.len, h.held, h.mid, h.ram, ?_, ?_, ?_, h.known, h.once, h.counted, h.sent, ?_⟩
  · intro i hi
    simp at hi
  · intro i g hg
    exact absurd hg hnot
  · intro i g hg
    exact absurd hg hnot
  · intro _
    exact hempty

theorem started_kept (hempty : SlotsEmpty s) (u b r q : Bool) :
    TxCore { s with txbrp := 0, txbto := 0, txbcf := 0, txbcr := 0, up := u, busOff := b, restartScheduled := r,
                    queueStopped := q } ∧
      TxSeen { s with txbrp := 0, txbto := 0, txbcf := 0, txbcr := 0, up := u, busOff := b, restartScheduled := r,
                      queueStopped := q } := by
  refine ⟨h.started hempty u b r q, ?_⟩
  apply TxSeen.of_none_outstanding
  · exact h.none_outstanding hempty
  · intro i hi
    exact absurd hi (h.no_xmit hempty i)

end

theorem canFlushEchoSkb_eq (hempty : SlotsEmpty s) : s.canFlushEchoSkb = s := by
  have hmap : s.echoSkb.map (fun _ => (none : Option ℕ)) = s.echoSkb := by
    have hall := List.filterMap_eq_nil_iff.mp hempty
    calc s.echoSkb.map (fun _ => none) = s.echoSkb.map id :=
          List.map_congr_left fun o ho => (hall o ho).symm
      _ = s.echoSkb := List.map_id _
  unfold MttcanTx.canFlushEchoSkb
  rw [hempty, hmap, List.append_nil, List.length_nil, Nat.add_zero]

theorem mttcanClose_kept (h : TxCore s) (hmid : s.xmitBuffer = none) (hnone : NoneSent s) :
    TxCore s.mttcanClose ∧ TxSeen s.mttcanClose := by
  have hslot : ∀ i, s.mttcanClose.echoFrame i = none := by
    intro i
    show ((s.echoSkb.map fun _ => (none : Option ℕ))[i]?).join = none
    rw [List.getElem?_map]
    cases s.echoSkb[i]? <;> rfl
  have hempty : SlotsEmpty s.mttcanClose := slotsEmpty_iff.mpr hslot
  have hnot : ∀ {i g}, s.mttcanClose.echoFrame i ≠ some g := by
    intro i g hg
    rw [hslot i] at hg
    cases hg
  have hobj : ∀ i, s.mttcanClose.txObject.getLsbD i ≠ true := by
    intro i hi
    exact Bool.false_ne_true (BitVec.getLsbD_zero.symm.trans hi)
  constructor
  · constructor
    · exact (List.length_map ..).trans h.len
    · intro i
      rw [hslot]
      simp [hobj i]
    · intro i hi
      exact absurd (hmid.symm.trans hi) (by simp)
    · intro i g hg
      exact absurd hg hnot
    · intro i hi
      exact absurd (BitVec.getLsbD_zero.symm.trans hi) Bool.false_ne_true
    · intro i g hg
      exact absurd hg hnot
    · intro i g hg
      exact absurd hg hnot
    · exact h.known
    · unfold txFrames
      rw [show s.mttcanClose.echoSkb.filterMap id = [] from hempty, List.append_nil]
      show (s.echoed ++ (s.freed ++ s.echoSkb.filterMap id)).Perm (List.range s.accepted)
      rw [← List.append_assoc]
      exact h.once
    · refine ⟨h.counted.1, ?_⟩
      show s.txAbortedErrors + (s.echoSkb.filterMap id).length = (s.freed ++ s.echoSkb.filterMap id).length
      rw [List.length_append, h.counted.2]
    · intro g
      refine ⟨(h.sent g).1, ?_⟩
      intro hg
      rcases List.mem_append.mp hg with hg | hg
      · exact (h.sent g).2 hg
      obtain ⟨i, hi⟩ := mem_slots_iff.mp hg
      have hin : s.echoFrame i = some g := hi
      have hout : s.txObject.getLsbD i = true := by
        rw [h.held i, hin, hmid]
        simp
      intro hmem
      have hto := (h.slotSent i g hi).mpr hmem
      rw [hnone i (getLsbD_lt hout) hout] at hto
      cases hto
    · intro _
      exact hempty
  · apply TxSeen.of_none_outstanding hobj
    intro i hi
    exact absurd (hmid.symm.trans hi) (by simp)

/-! ## Runs -/

theorem txStep_kept {op : TxOp} (h : TxCore s ∧ TxSeen s) (hcareful : TxCareful s op)
    (hstep : txStep s op = some s') : TxCore s' ∧ TxSeen s' := by
  obtain ⟨hcore, hseen⟩ := h
  cases op with
  | xmitBegin txbrp txfqs =>
    obtain ⟨⟨hup, hmid, -⟩, heq⟩ := Option.ite_none_right_eq_some.mp hstep
    cases heq
    exact startXmitBegin_kept hcore hseen hup hmid hcareful
  | xmitEnd =>
    obtain ⟨i, hmid, rfl⟩ := Option.map_eq_some_iff.mp hstep
    exact startXmitEnd_kept hcore hseen hmid
  | txComplete =>
    obtain ⟨⟨-, hmid⟩, heq⟩ := Option.ite_none_right_eq_some.mp hstep
    cases heq
    exact hcore.complete hseen hmid
  | txCancelled =>
    obtain ⟨⟨-, hmid⟩, heq⟩ := Option.ite_none_right_eq_some.mp hstep
    cases heq
    exact hcore.cancel hseen hmid hcareful
  | cancelRequest txbcr =>
    cases hstep
    refine ⟨hcore.of_notes s.queueStopped s.completeRan s.cancelledRan s.txObjCancelled _, ?_⟩
    exact ⟨hseen.cancelled, hseen.completeDone, hseen.cancelledDone, hseen.running⟩
  | requestEnd i sent cancelled =>
    obtain ⟨hend, heq⟩ := Option.ite_none_right_eq_some.mp hstep
    cases heq
    exact requestEnd_kept hcore hseen hend
  | busOff n =>
    obtain ⟨-, heq⟩ := Option.ite_none_right_eq_some.mp hstep
    cases heq
    exact stateChangeBusOff_kept hcore hseen hcareful n
  | restart =>
    obtain ⟨-, heq⟩ := Option.ite_none_right_eq_some.mp hstep
    cases heq
    exact started_kept hcore hcareful s.up false false false
  | setMode =>
    obtain ⟨-, heq⟩ := Option.ite_none_right_eq_some.mp hstep
    cases heq
    unfold MttcanTx.mttcanSetMode
    rw [canFlushEchoSkb_eq hcareful]
    exact started_kept hcore hcareful s.up false s.restartScheduled false
  | close =>
    obtain ⟨⟨-, hmid⟩, heq⟩ := Option.ite_none_right_eq_some.mp hstep
    cases heq
    exact mttcanClose_kept hcore hmid hcareful
  | reopen =>
    obtain ⟨hup, heq⟩ := Option.ite_none_left_eq_some.mp hstep
    cases heq
    exact started_kept hcore (hcore.closed (Bool.eq_false_iff.mpr hup)) true false s.restartScheduled false

theorem TxCore.tx_slots (h : TxCore s) (hseen : TxSeen s) : TxSlotsKept s where
  writable txbrp txfqs i hmid _ hbuf := by
    obtain ⟨-, -, hnone, hbrp⟩ := txBuffer_free h hmid hbuf
    exact ⟨hbrp, hnone⟩
  object hmid i := by
    rw [h.held i, hmid]
    simp
  once := h.once
  counted := h.counted
  sent := h.sent
  drained hmid hbrp hcom hcan := by
    apply eq_zero_of_getLsbD
    intro i hobj
    have hto := hseen.completeDone hcom i hobj
    have hcf := hseen.cancelledDone hcan i hobj
    rw [hto] at hcf
    obtain ⟨f, hf⟩ := Option.isSome_iff_exists.mp ((h.held i).mp hobj).1
    have hout := h.outcome i f hf
    rw [hbrp, hto] at hout
    cases hc : s.txbcf.getLsbD i with
    | false => simp [hc] at hout
    | true => exact Bool.false_ne_true (hcf hc)

/-- **Transmit slots.**  In every run in which the controller starts what it is given, the cancellation handler
finds no sent frame before it stops and no other behind, bus-offs find nothing outstanding, restarts find the slots
empty and closes find nothing that was sent: a buffer is written only when it is free, `tx_object` has the bits of the
outstanding frames, each accepted frame is outstanding, echoed or freed once, sent ones are echoed and others
freed, and the slots drain. -/
theorem tx_slots_kept (n : ℕ) (tt : Bool) (ops : List TxOp)
    (hcareful : AllSteps txStep TxCareful (MttcanTx.opened n tt) ops)
    (hrun : run txStep (MttcanTx.opened n tt) ops = some s) : TxSlotsKept s := by
  have hkept : TxCore s ∧ TxSeen s :=
    run_invariant_of_allSteps (I := fun s => TxCore s ∧ TxSeen s) (fun _ _ _ h hc hstep => txStep_kept h hc hstep)
      ⟨TxCore.opened n tt, TxSeen.opened n tt⟩ hcareful hrun
  exact hkept.1.tx_slots hkept.2

/-- Three frames: one is sent, one is cancelled before it is sent, and one is freed when the device is closed. -/
def threeFrameTxRun : List TxOp :=
  [.xmitBegin 0 0, .xmitEnd, .xmitBegin 1 0, .xmitEnd, .cancelRequest 2, .requestEnd 0 true false,
    .requestEnd 1 false true, .txCancelled, .txComplete, .xmitBegin 0 0, .xmitEnd, .close, .reopen]

theorem threeFrameTxRun_kept : AllSteps txStep TxCareful (MttcanTx.opened 16 false) threeFrameTxRun ∧
      (run txStep (MttcanTx.opened 16 false) threeFrameTxRun).any (fun s =>
        decide (s.echoed = [0] ∧ s.freed = [1, 2] ∧ s.accepted = 3)) = true ∧
      ∀ s, run txStep (MttcanTx.opened 16 false) threeFrameTxRun = some s → TxSlotsKept s := by
  have hcareful : AllSteps txStep TxCareful (MttcanTx.opened 16 false) threeFrameTxRun := by decide +kernel
  exact ⟨hcareful, by decide +kernel, fun s hrun => tx_slots_kept 16 false threeFrameTxRun hcareful hrun⟩

/-- Two buffers are cancelled, and the frame of the first is sent all the same.  Its completion is handled first; then
the cancellation handler stops at it and never comes to the second. -/
def leakedSlotRun : List TxOp :=
  [.xmitBegin 0 0, .xmitEnd, .xmitBegin 1 0, .xmitEnd, .cancelRequest 3, .requestEnd 0 true true, .txComplete,
    .requestEnd 1 false true, .txCancelled, .txComplete]

/-- A frame is sent although it is cancelled, and the cancellation is handled first. -/
def sentAndCancelledRun : List TxOp :=
  [.xmitBegin 0 0, .xmitEnd, .cancelRequest 1, .requestEnd 0 true true, .txCancelled, .txComplete]

/-- A bus-off with a frame outstanding, and a restart. -/
def busOffTxRun : List TxOp := [.xmitBegin 0 0, .xmitEnd, .busOff 100, .restart]

/-- A slot leaks, a frame that was sent is counted as aborted, and after a bus-off a frame stays in a slot that is
written again. -/
theorem tx_slots_lost : (∃ s, run txStep (MttcanTx.opened 16 false) leakedSlotRun = some s ∧ ¬ TxSlotsKept s) ∧
      (∃ s, run txStep (MttcanTx.opened 16 false) sentAndCancelledRun = some s ∧ ¬ TxSlotsKept s) ∧
      ∃ s, run txStep (MttcanTx.opened 16 false) busOffTxRun = some s ∧ ¬ TxSlotsKept s := by
  refine ⟨?_, ?_, ?_⟩
  · apply exists_run_of_any fun s => decide (s.xmitBuffer = none ∧ s.txbrp = 0 ∧ s.completeRan = true ∧ s.cancelledRan = true ∧
      s.txObject ≠ 0)
    · decide +kernel
    · intro s hs hkept
      obtain ⟨hmid, hbrp, hcom, hcan, hobj⟩ := of_decide_eq_true hs
      exact hobj (hkept.drained hmid hbrp hcom hcan)
  · apply exists_run_of_any fun s => decide (0 ∈ s.freed ∧ 0 ∈ s.transmitted)
    · decide +kernel
    · intro s hs hkept
      obtain ⟨hfreed, hsent⟩ := of_decide_eq_true hs
      exact (hkept.sent 0).2 hfreed hsent
  · apply exists_run_of_any fun s => decide (s.xmitBuffer = none ∧ s.txObject.getLsbD 0 = false ∧ (s.echoFrame 0).isSome = true)
    · decide +kernel
    · intro s hs hkept
      obtain ⟨hmid, hobj, hslot⟩ := of_decide_eq_true hs
      rw [(hkept.object hmid 0).mpr hslot] at hobj
      cases hobj

end NvidiaOot.Analysis
