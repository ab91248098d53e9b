import NvidiaOot.Analysis.MttcanTx
import NvidiaOot.Library.BitTable
import NvidiaOot.Library.RingQueue
import NvidiaOot.Library.SkipMask
import NvidiaOot.Model.MttcanRx

/-!
# MTTCAN reception

`RxCore` says where each frame is.  The elements of a FIFO that its mask will skip are those that were taken before
(`SkipFits`), the frames of a FIFO come in order, first those that were passed on, then those in its list, then
those in the ring; `RxAt` says which list the poll is filling.

* **A frame goes into a list** (`RxCore.take`): it was not taken, and now it is.
* **The high-priority message** is taken before its turn, and the bit of its index is set (`hpmTurn_kept`).
* **A list is passed on** when the quota and the memory are enough (`receiveLoop_eq`).

A quota or an allocation that ends the loop over a list early loses the rest of it, an element of NDAT2 is read from 32
places before its own, and indices that differ by 32 share a bit of the mask.  Runs without these keep
`RxFramesKept` (`rx_frames_kept`).
-/

namespace NvidiaOot.Analysis

open Program Model Library Function

variable {f : RxFifo} {failAt : Option ℕ} {i : ℕ}

/-! ## The ring of a FIFO -/

/-- The elements of a FIFO from the get index on: their indices modulo 32, and their frames. -/
def fifoElems (f : RxFifo) : List (ℕ × ℕ) := (List.range f.level).map fun k => (f.idxAt k % 32, f.ram (f.idxAt k))

def fifoFrames (f : RxFifo) : List ℕ := (fifoElems f).map Prod.snd

theorem fifoElems_put (h : f.level < f.num) (x : ℕ) :
    fifoElems (f.put x) = fifoElems f ++ [(f.idxAt f.level % 32, x)] := by
  unfold fifoElems RxFifo.put RxFifo.idxAt
  dsimp only
  rw [List.range_succ, List.map_append, List.map_singleton, update_self]
  congr 1
  apply List.map_congr_left
  intro k hk
  have hlt := List.mem_range.mp hk
  have hne : (f.getIdx + k) % f.num ≠ (f.getIdx + f.level) % f.num :=
    mod_ne_of_outstanding (c := f.getIdx) (by omega) (by omega) (by omega)
  rw [update_of_ne hne]

theorem fifoElems_ack (hlevel : f.level ≠ 0) (hget : f.idxAt 0 = f.getIdx) :
    fifoElems f = (f.getIdx % 32, f.ram f.getIdx) :: fifoElems f.ack := by
  obtain ⟨n, hn⟩ := Nat.exists_eq_succ_of_ne_zero hlevel
  unfold fifoElems
  rw [hn, List.range_succ_eq_map, List.map_cons, List.map_map, hget]
  congr 1
  unfold RxFifo.ack
  rw [hn, Nat.succ_sub_one]
  apply List.map_congr_left
  intro k _
  have hidx : f.idxAt (k + 1) = (f.idxAt 1 + k) % f.num := by
    unfold RxFifo.idxAt
    rw [Nat.mod_add_mod, Nat.add_assoc, Nat.add_comm 1 k]
  rw [comp_apply, Nat.succ_eq_add_one, hidx]
  rfl

theorem ack_idxAt_zero (f : RxFifo) : f.ack.idxAt 0 = f.ack.getIdx := by
  unfold RxFifo.ack RxFifo.idxAt
  rw [Nat.add_zero, Nat.mod_mod]

/-! ## The mask of a FIFO -/

/-- The bits that are tested, by their indices modulo 32. -/
def residues (b : U64) (r : ℕ) : Bool := decide (r < 32) && b.getLsbD r

/-- A bit beyond the first word is set only with bit 31. -/
def SignExtended (b : U64) : Prop := ∀ r, 32 ≤ r → b.getLsbD r = true → b.getLsbD 31 = true

theorem getLsbD_shiftInt (i r : ℕ) :
    (MttcanRx.shiftInt i).getLsbD r = (decide (r < 64) && decide (min r 31 = i % 32)) := by
  unfold MttcanRx.shiftInt
  rw [BitVec.getLsbD_signExtend, BitVec.msb_eq_getLsbD_last,
    getLsbD_one_shiftLeft (show 32 - 1 < 32 by omega)]
  split_ifs with hr
  · rw [getLsbD_one_shiftLeft hr, Nat.min_eq_left (show r ≤ 31 by omega)]
  · rw [Nat.min_eq_right (show 31 ≤ r by omega)]

theorem getLsbD_notShiftUnsigned (i r : ℕ) :
    (MttcanRx.notShiftUnsigned i).getLsbD r = (decide (r < 32) && decide (r ≠ i % 32)) := by
  unfold MttcanRx.notShiftUnsigned
  rw [BitVec.getLsbD_setWidth, BitVec.getLsbD_not]
  by_cases hr : r < 32
  · rw [getLsbD_one_shiftLeft hr]
    simp [hr, show r < 64 by omega]
  · simp [hr]

theorem residues_or_shiftInt (b : U64) (i : ℕ) :
    residues (b ||| MttcanRx.shiftInt i) = update (residues b) (i % 32) true := by
  funext r
  unfold residues
  rw [BitVec.getLsbD_or, getLsbD_shiftInt]
  by_cases hri : r = i % 32
  · have hr : r < 32 := hri ▸ Nat.mod_lt i (by omega)
    rw [← hri, update_self]
    simp [hr, show r < 64 by omega, show r ≤ 31 by omega]
  rw [update_of_ne hri]
  by_cases hr : r < 32
  · simp [hr, Nat.min_eq_left (show r ≤ 31 by omega), hri]
  · simp [hr]

theorem residues_and_notShiftUnsigned (b : U64) (i : ℕ) :
    residues (b &&& MttcanRx.notShiftUnsigned i) = update (residues b) (i % 32) false := by
  funext r
  unfold residues
  rw [BitVec.getLsbD_and, getLsbD_notShiftUnsigned]
  by_cases hri : r = i % 32
  · rw [← hri, update_self]
    simp
  rw [update_of_ne hri]
  by_cases hr : r < 32
  · simp [hr, hri]
  · simp [hr]

theorem and_shiftInt_ne_zero_iff {b : U64} (hb : SignExtended b) (i : ℕ) :
    b &&& MttcanRx.shiftInt i ≠ 0 ↔ residues b (i % 32) = true := by
  have hi : i % 32 < 32 := Nat.mod_lt i (by omega)
  unfold residues
  rw [decide_eq_true hi, Bool.true_and]
  constructor
  · intro hne
    by_contra hbit
    apply hne
    apply BitVec.eq_of_getLsbD_eq
    intro r hr
    rw [BitVec.getLsbD_and, getLsbD_shiftInt, show BitVec.getLsbD (0 : U64) r = false from BitVec.getLsbD_zero]
    by_contra hset
    simp only [Bool.not_eq_false, Bool.and_eq_true, decide_eq_true_eq] at hset
    obtain ⟨hbr, -, hmin⟩ := hset
    apply hbit
    rw [← hmin]
    by_cases hlow : r < 32
    · rw [Nat.min_eq_left (by omega)]
      exact hbr
    · rw [Nat.min_eq_right (by omega)]
      exact hb r (by omega) hbr
  · intro hbit hzero
    have hget := congrArg (fun x : U64 => x.getLsbD (i % 32)) hzero
    simp only [BitVec.getLsbD_and, getLsbD_shiftInt] at hget
    rw [hbit, Nat.min_eq_left (by omega)] at hget
    simp [show i % 32 < 64 by omega] at hget

theorem SignExtended.or_shiftInt {b : U64} (hb : SignExtended b) (i : ℕ) :
    SignExtended (b ||| MttcanRx.shiftInt i) := by
  intro r hr hset
  rw [BitVec.getLsbD_or, Bool.or_eq_true] at hset ⊢
  rcases hset with hset | hset
  · exact Or.inl (hb r hr hset)
  refine Or.inr ?_
  rw [getLsbD_shiftInt, Bool.and_eq_true, decide_eq_true_eq, decide_eq_true_eq] at hset ⊢
  rw [Nat.min_eq_right (show 31 ≤ r by omega)] at hset
  exact ⟨by omega, by rw [Nat.min_self]; exact hset.2⟩

theorem SignExtended.and_notShiftUnsigned (b : U64) (i : ℕ) : SignExtended (b &&& MttcanRx.notShiftUnsigned i) := by
  intro r hr hset
  rw [BitVec.getLsbD_and, getLsbD_notShiftUnsigned] at hset
  simp [show ¬ r < 32 by omega] at hset

/-! ## The flags of the lists -/

def statusBit : TtcanRxType → ℕ
  | .buffer => 0
  | .fifo .fifo0 => 1
  | .fifo .fifo1 => 2

theorem bits_eq_twoPow : ∀ t : TtcanRxType, t.bits = BitVec.twoPow 16 (statusBit t)
  | .buffer => by decide
  | .fifo .fifo0 => by decide
  | .fifo .fifo1 => by decide

theorem getLsbD_bits (t u : TtcanRxType) : t.bits.getLsbD (statusBit u) = decide (u = t) := by
  cases t with
  | buffer => cases u with
    | buffer => decide
    | fifo q => cases q <;> decide
  | fifo p => cases u with
    | buffer => cases p <;> decide
    | fifo q => cases p <;> cases q <;> decide

theorem full_test (x : BitVec 16) (t : TtcanRxType) : (x &&& t.bits &&& 0xFF != 0) = x.getLsbD (statusBit t) := by
  have hlow : BitVec.twoPow 16 (statusBit t) &&& 0xFF ≠ 0 := by
    cases t with
    | buffer => decide
    | fifo q => cases q <;> decide
  rw [bits_eq_twoPow, BitVec.and_twoPow]
  cases x.getLsbD (statusBit t) with
  | true => simpa using hlow
  | false => simp

theorem full_or_bits (x : BitVec 16) (t u : TtcanRxType) :
    (x ||| t.bits).getLsbD (statusBit u) = (x.getLsbD (statusBit u) || decide (u = t)) := by
  rw [BitVec.getLsbD_or, getLsbD_bits]

theorem full_and_not_bits (x : BitVec 16) (t u : TtcanRxType) :
    (x &&& ~~~(t.bits &&& 0xFF)).getLsbD (statusBit u) = (x.getLsbD (statusBit u) && decide (u ≠ t)) := by
  have hlt : statusBit u < 8 := by
    cases u with
    | buffer => decide
    | fifo q => cases q <;> decide
  have hlow : (0xFF : BitVec 16).getLsbD (statusBit u) = true := by
    cases u with
    | buffer => decide
    | fifo q => cases q <;> decide
  rw [BitVec.getLsbD_and, BitVec.getLsbD_not, BitVec.getLsbD_and, getLsbD_bits, hlow]
  by_cases hu : u = t
  · simp [hu]
  · simp [hu, show statusBit u < 16 by omega]

/-! ## The invariant -/

/-- The FIFOs: what their masks will skip, and the order of their frames. -/
structure RxRings (s : MttcanRx) : Prop where
  getIdx : ∀ q, (s.fifo q).idxAt 0 = (s.fifo q).getIdx
  high : ∀ q, SignExtended (s.bmsk q)
  skips : ∀ q, SkipFits (fun x => x ∈ taken s) (residues (s.bmsk q)) (fifoElems (s.fifo q))
  order : ∀ q, (fifoReceived s q ++ s.list (.fifo q) ++ fifoFrames (s.fifo q)).Pairwise (· < ·)
  origin : ∀ q, ∀ x ∈ fifoFrames (s.fifo q), s.origin x = .fifo q ∧ x < s.arrived

/-- The dedicated buffers: a new frame was not taken. -/
structure RxBuffers (s : MttcanRx) : Prop where
  new : ∀ i < 64, s.newData i = true → s.origin (s.rxb i) = .element i ∧ s.rxb i < s.arrived ∧ s.rxb i ∉ taken s
  elements : ∀ p ∈ s.bufferReads, p.1 = p.2

structure RxTaken (s : MttcanRx) : Prop where
  old : ∀ x ∈ taken s, x < s.arrived
  once : (taken s).Nodup
  acked : ∀ x ∈ s.acked, x ∈ taken s
  counted : s.rxPackets = s.received.length ∧ s.rxDropped = s.freed.length
  lengths : ∀ t, s.mem t = (s.list t).length
  full : ∀ t, s.listStatus.getLsbD (statusBit t) = decide (MttcanRx.ttcanMaxListMembers ≤ s.mem t)

structure RxCore (s : MttcanRx) : Prop where
  rings : RxRings s
  buffers : RxBuffers s
  lists : RxTaken s

/-- The list that a poll is filling, and the number of frames that it has put there. -/
def listInUse : RxPollAt → Option (TtcanRxType × ℕ)
  | .bufferLoop _ _ n => some (.buffer, n)
  | .bufferList n => some (.buffer, n)
  | .fifoLoop q _ _ n => some (.fifo q, n)
  | .fifoList q n => some (.fifo q, n)
  | _ => none

/-- What a poll knows: its list has the frames that it has read and the others are empty, the bits of NDAT1 that it has
still to read are set, and a FIFO that it has found filled still is. -/
structure RxAt (s : MttcanRx) : Prop where
  others : ∀ t, (∀ n, listInUse s.pollAt ≠ some (t, n)) → s.list t = []
  length : ∀ t n, listInUse s.pollAt = some (t, n) → (s.list t).length = n
  ndat : ∀ ndat1 ndat2 n, s.pollAt = .bufferLoop ndat1 ndat2 n →
    ∀ i, ndat1.getLsbD i = true → s.ndat1.getLsbD i = true
  more : ∀ q qRead n, s.pollAt = .fifoLoop q true qRead n → (s.fifo q).level ≠ 0

variable {s s' : MttcanRx} {t : TtcanRxType} {q : RxFifoId} {x : ℕ}

theorem RxCore.of_poll (h : RxCore s) (a : RxPollAt) (ir : RxIr) (quota work : ℤ) (msi bidx : ℕ) :
    RxCore { s with pollAt := a, ir := ir, quota := quota, workDone := work, hpmsMsi := msi, hpmsBidx := bidx } where
  rings := ⟨h.rings.getIdx, h.rings.high, h.rings.skips, h.rings.order, h.rings.origin⟩
  buffers := ⟨h.buffers.new, h.buffers.elements⟩
  lists := ⟨h.lists.old, h.lists.once, h.lists.acked, h.lists.counted, h.lists.lengths, h.lists.full⟩

theorem RxCore.opened (num : RxFifoId → ℕ) : RxCore (MttcanRx.opened num) := by
  constructor
  · constructor
    · intro q
      simp [MttcanRx.opened, RxFifo.idxAt]
    · intro q r _ hr
      simp [MttcanRx.opened] at hr
    · intro q r
      simp [MttcanRx.opened, residues]
    · intro q
      exact List.Pairwise.nil
    · nofun
  · constructor
    · intro i _ hi
      unfold MttcanRx.newData at hi
      simp [MttcanRx.opened] at hi
    · nofun
  · constructor
    · nofun
    · exact List.nodup_nil
    · nofun
    · exact ⟨rfl, rfl⟩
    · intro t
      rfl
    · intro t
      simp [MttcanRx.opened, MttcanRx.ttcanMaxListMembers]

theorem RxAt.opened (num : RxFifoId → ℕ) : RxAt (MttcanRx.opened num) where
  others _ _ := rfl
  length _ _ h := by cases h
  ndat _ _ _ h := by cases h
  more _ _ _ h := by cases h

/-! ## What is taken -/

theorem mem_taken_iff : x ∈ taken s ↔ x ∈ s.received.map Prod.snd ∨ x ∈ s.freed ∨ ∃ t, x ∈ s.list t := by
  unfold taken waiting
  simp only [List.mem_append]
  constructor
  · rintro ((hr | hf) | ((hb | h0) | h1))
    · exact Or.inl hr
    · exact Or.inr (Or.inl hf)
    · exact Or.inr (Or.inr ⟨_, hb⟩)
    · exact Or.inr (Or.inr ⟨_, h0⟩)
    · exact Or.inr (Or.inr ⟨_, h1⟩)
  · rintro (hr | hf | ⟨t, ht⟩)
    · exact Or.inl (Or.inl hr)
    · exact Or.inl (Or.inr hf)
    · cases t with
      | buffer => exact Or.inr (Or.inl (Or.inl ht))
      | fifo q => cases q with
        | fifo0 => exact Or.inr (Or.inl (Or.inr ht))
        | fifo1 => exact Or.inr (Or.inr ht)

theorem waiting_eq (h : ∀ u, u ≠ t → s.list u = []) : waiting s = s.list t := by
  unfold waiting
  cases t with
  | buffer => rw [h (.fifo .fifo0) (by decide), h (.fifo .fifo1) (by decide), List.append_nil, List.append_nil]
  | fifo q => cases q with
    | fifo0 => rw [h .buffer (by decide), h (.fifo .fifo1) (by decide), List.nil_append, List.append_nil]
    | fifo1 => rw [h .buffer (by decide), h (.fifo .fifo0) (by decide), List.nil_append, List.nil_append]

theorem waiting_eq_nil (h : ∀ u, s.list u = []) : waiting s = [] :=
  (waiting_eq (t := .buffer) fun u _ => h u).trans (h _)

theorem mem_taken_of_fifoReceived (h : x ∈ fifoReceived s q) : x ∈ taken s := by
  obtain ⟨d, hd, rfl⟩ := List.mem_map.mp h
  exact mem_taken_iff.mpr (Or.inl (List.mem_map_of_mem (List.mem_of_mem_filter hd)))

/-! ## Arrivals -/

theorem RxTaken.fresh (h : RxTaken s) : s.arrived ∉ taken s := fun hx => Nat.lt_irrefl _ (h.old _ hx)

theorem fifoFrames_put (h : f.level < f.num) (x : ℕ) : fifoFrames (f.put x) = fifoFrames f ++ [x] := by
  unfold fifoFrames
  rw [fifoElems_put h, List.map_append]
  rfl

theorem RxCore.arriveFifo (h : RxCore s) (hlt : (s.fifo q).level < (s.fifo q).num) (hp : Bool) :
    RxCore (s.arriveFifo q hp) := by
  have hfresh := h.lists.fresh
  unfold MttcanRx.arriveFifo
  rw [if_pos hlt]
  constructor
  · constructor
    · intro p
      by_cases hq : p = q
      · subst hq
        dsimp only
        rw [update_self]
        exact h.rings.getIdx p
      · dsimp only
        rw [update_of_ne hq]
        exact h.rings.getIdx p
    · exact h.rings.high
    · intro p
      dsimp only
      by_cases hq : p = q
      · subst hq
        rw [update_self, fifoElems_put hlt]
        exact (h.rings.skips p).push hfresh
      · rw [update_of_ne hq]
        exact h.rings.skips p
    · intro p
      dsimp only
      by_cases hq : p = q
      · subst hq
        rw [update_self, fifoFrames_put hlt, ← List.append_assoc]
        refine List.pairwise_append.mpr ⟨h.rings.order p, List.pairwise_singleton _ _, ?_⟩
        intro x hx y hy
        rw [List.mem_singleton.mp hy]
        rcases List.mem_append.mp hx with hx | hx
        · rcases List.mem_append.mp hx with hx | hx
          · exact h.lists.old x (mem_taken_of_fifoReceived hx)
          · exact h.lists.old x (mem_taken_iff.mpr (Or.inr (Or.inr ⟨_, hx⟩)))
        · exact (h.rings.origin p x hx).2
      · rw [update_of_ne hq]
        exact h.rings.order p
    · intro p x hx
      dsimp only at hx ⊢
      by_cases hxa : x = s.arrived
      · subst hxa
        by_cases hq : p = q
        · rw [update_self, hq]
          exact ⟨rfl, Nat.lt_succ_self _⟩
        · rw [update_of_ne hq] at hx
          exact absurd (h.rings.origin p _ hx).2 (Nat.lt_irrefl _)
      have hold : x ∈ fifoFrames (s.fifo p) := by
        by_cases hq : p = q
        · subst hq
          rw [update_self, fifoFrames_put hlt] at hx
          rcases List.mem_append.mp hx with hx | hx
          · exact hx
          · exact absurd (List.mem_singleton.mp hx) hxa
        · rw [update_of_ne hq] at hx
          exact hx
      rw [update_of_ne hxa]
      obtain ⟨horigin, hltx⟩ := h.rings.origin p x hold
      exact ⟨horigin, Nat.lt_succ_of_lt hltx⟩
  · refine ⟨?_, h.buffers.elements⟩
    intro i hi hnew
    dsimp only
    obtain ⟨horigin, hltx, hnot⟩ := h.buffers.new i hi hnew
    rw [update_of_ne (Nat.ne_of_lt hltx)]
    exact ⟨horigin, Nat.lt_succ_of_lt hltx, hnot⟩
  · refine ⟨?_, h.lists.once, h.lists.acked, h.lists.counted, h.lists.lengths, h.lists.full⟩
    intro x hx
    exact Nat.lt_succ_of_lt (h.lists.old x hx)

theorem RxAt.arriveFifo (hat : RxAt s) (hlt : (s.fifo q).level < (s.fifo q).num) (hp : Bool) :
    RxAt (s.arriveFifo q hp) := by
  unfold MttcanRx.arriveFifo
  rw [if_pos hlt]
  refine ⟨hat.others, hat.length, hat.ndat, ?_⟩
  intro p qRead n hpoll
  dsimp only at hpoll ⊢
  by_cases hq : p = q
  · subst hq
    rw [update_self]
    exact Nat.succ_ne_zero _
  · rw [update_of_ne hq]
    exact hat.more p qRead n hpoll

theorem getLsbD_setBit_of_ge {y : U32} (hi : i < 32) (j : ℕ) (h : y.getLsbD j = true) :
    (setBit y i).getLsbD j = true := by
  rw [getLsbD_setBit hi, h]
  rfl

theorem newData_arriveBuffer (hi : i < 64) (j : ℕ) (hnew : (s.arriveBuffer i).newData j = true) :
    j = i ∨ s.newData j = true := by
  by_cases hji : j = i
  · exact Or.inl hji
  refine Or.inr ?_
  unfold MttcanRx.newData MttcanRx.arriveBuffer at hnew
  unfold MttcanRx.newData
  dsimp only at hnew
  by_cases hj : j < 32
  · rw [if_pos hj] at hnew ⊢
    by_cases hilow : i < 32
    · rw [if_pos hilow, getLsbD_setBit hilow] at hnew
      simpa [hji] using hnew
    · rw [if_neg hilow] at hnew
      exact hnew
  rw [if_neg hj] at hnew ⊢
  by_cases hilow : i < 32
  · rw [if_pos hilow] at hnew
    exact hnew
  · rw [if_neg hilow, getLsbD_setBit (by omega)] at hnew
    simpa [show j - 32 ≠ i - 32 by omega] using hnew

theorem RxCore.arriveBuffer (h : RxCore s) (hi : i < 64) : RxCore (s.arriveBuffer i) := by
  have hfresh := h.lists.fresh
  constructor
  · refine ⟨h.rings.getIdx, h.rings.high, h.rings.skips, h.rings.order, ?_⟩
    intro p x hx
    obtain ⟨horigin, hltx⟩ := h.rings.origin p x hx
    show update s.origin s.arrived (.element i) x = .fifo p ∧ x < s.arrived + 1
    rw [update_of_ne (Nat.ne_of_lt hltx)]
    exact ⟨horigin, Nat.lt_succ_of_lt hltx⟩
  · refine ⟨?_, h.buffers.elements⟩
    intro j hj hnew
    show update s.origin s.arrived (.element i) (update s.rxb i s.arrived j) = .element j ∧
      update s.rxb i s.arrived j < s.arrived + 1 ∧ update s.rxb i s.arrived j ∉ taken s
    by_cases hji : j = i
    · subst hji
      rw [update_self, update_self]
      exact ⟨rfl, Nat.lt_succ_self _, hfresh⟩
    obtain ⟨horigin, hltx, hnot⟩ :=
      h.buffers.new j hj ((newData_arriveBuffer hi j hnew).resolve_left hji)
    rw [update_of_ne hji, update_of_ne (Nat.ne_of_lt hltx)]
    exact ⟨horigin, Nat.lt_succ_of_lt hltx, hnot⟩
  · refine ⟨?_, h.lists.once, h.lists.acked, h.lists.counted, h.lists.lengths, h.lists.full⟩
    intro x hx
    exact Nat.lt_succ_of_lt (h.lists.old x hx)

theorem RxAt.arriveBuffer (hat : RxAt s) : RxAt (s.arriveBuffer i) := by
  refine ⟨hat.others, hat.length, ?_, hat.more⟩
  intro ndat1 ndat2 n hpoll j hj
  have hold := hat.ndat ndat1 ndat2 n hpoll j hj
  show (if i < 32 then setBit s.ndat1 i else s.ndat1).getLsbD j = true
  split
  case isTrue hi => exact getLsbD_setBit_of_ge hi j hold
  case isFalse => exact hold

/-! ## The high-priority message -/

theorem RxRings.frames_nodup (h : RxRings s) (q : RxFifoId) : (fifoFrames (s.fifo q)).Nodup :=
  (List.pairwise_append.mp (h.order q)).2.1.imp Nat.ne_of_lt

theorem RxRings.ne_of_fifo {p : RxFifoId} {y : ℕ} (h : RxRings s) (hx : x ∈ fifoFrames (s.fifo q))
    (hy : y ∈ fifoFrames (s.fifo p)) (hpq : p ≠ q) : y ≠ x := by
  rintro rfl
  have horigin := (h.origin q y hx).1.symm.trans (h.origin p y hy).1
  cases horigin
  exact hpq rfl

theorem RxCore.ne_of_buffer (h : RxCore s) (hx : x ∈ fifoFrames (s.fifo q)) (hi : i < 64)
    (hnew : s.newData i = true) : s.rxb i ≠ x := by
  rintro rfl
  have horigin := (h.rings.origin q _ hx).1.symm.trans (h.buffers.new i hi hnew).1
  cases horigin

theorem mem_fifoFrames_of_mem {p : ℕ × ℕ} (h : p ∈ fifoElems f) : p.2 ∈ fifoFrames f :=
  List.mem_map_of_mem h

theorem fifoElems_split (f : RxFifo) {k : ℕ} (hk : k < f.level) :
    ∃ before rest, fifoElems f = before ++ (f.idxAt k % 32, f.ram (f.idxAt k)) :: rest ∧
      ∀ p ∈ before, ∃ j < k, p.1 = f.idxAt j % 32 := by
  have hrange : List.range f.level = List.range k ++ k :: (List.range f.level).drop (k + 1) := by
    have hlt : k < (List.range f.level).length := by
      rw [List.length_range]
      exact hk
    calc List.range f.level = (List.range f.level).take k ++ (List.range f.level).drop k :=
          (List.take_append_drop k _).symm
      _ = List.range k ++ k :: (List.range f.level).drop (k + 1) := by
          rw [List.drop_eq_getElem_cons hlt, List.getElem_range, List.take_range,
            Nat.min_eq_left (Nat.le_of_lt hk)]
  refine ⟨(List.range k).map fun j => (f.idxAt j % 32, f.ram (f.idxAt j)),
    ((List.range f.level).drop (k + 1)).map fun j => (f.idxAt j % 32, f.ram (f.idxAt j)), ?_, ?_⟩
  · unfold fifoElems
    rw [hrange, List.map_append, List.map_cons]
    congr 3
    rw [← hrange]
  · intro p hp
    obtain ⟨j, hj, rfl⟩ := List.mem_map.mp hp
    exact ⟨j, List.mem_range.mp hj, rfl⟩

theorem RxCore.fresh_report (h : RxCore s) (hq : MttcanRx.hpmsFifo s.hpmsMsi = some q) (hfresh : hpmFresh s = true) :
    (s.fifo q).ram s.hpmsBidx ∈ fifoFrames (s.fifo q) ∧ (s.fifo q).ram s.hpmsBidx ∉ taken s ∧
      SkipFits (fun y => y = (s.fifo q).ram s.hpmsBidx ∨ y ∈ taken s)
        (residues (s.bmsk q ||| MttcanRx.shiftInt s.hpmsBidx)) (fifoElems (s.fifo q)) := by
  unfold hpmFresh at hfresh
  rw [hq] at hfresh
  simp only [Bool.and_eq_true, decide_eq_true_eq, List.any_eq_true, List.all_eq_true, List.mem_range] at hfresh
  obtain ⟨hzero, k, hk, hidx, hkeys⟩ := hfresh
  obtain ⟨before, rest, hsplit, hbefore⟩ := fifoElems_split (s.fifo q) hk
  rw [hidx] at hsplit
  have hbit : residues (s.bmsk q) (s.hpmsBidx % 32) = false := by
    rw [Bool.eq_false_iff]
    intro hset
    exact (and_shiftInt_ne_zero_iff (h.rings.high q) _).mpr hset hzero
  have hskips := h.rings.skips q
  have hnodup := h.rings.frames_nodup q
  unfold fifoFrames at hnodup
  rw [hsplit] at hskips hnodup
  rw [List.map_append, List.map_cons] at hnodup
  have hmid := (List.nodup_middle.mp hnodup)
  have hne : ∀ p ∈ before ++ rest, p.2 ≠ (s.fifo q).ram s.hpmsBidx := by
    intro p hp heq
    apply (List.nodup_cons.mp hmid).1
    rw [← List.map_append, ← heq]
    exact List.mem_map.mpr ⟨p, hp, rfl⟩
  have hkey : ∀ p ∈ before, p.1 ≠ s.hpmsBidx % 32 := by
    intro p hp heq
    obtain ⟨j, hj, hpj⟩ := hbefore p hp
    exact hkeys j hj (hpj.symm.trans heq)
  obtain ⟨hnot, hreport⟩ := hskips.report hbit hkey hne
  refine ⟨?_, hnot, ?_⟩
  · unfold fifoFrames
    rw [hsplit, List.map_append, List.map_cons]
    exact List.mem_append_right _ List.mem_cons_self
  · rw [residues_or_shiftInt, hsplit]
    exact hreport

theorem RxCore.takeHpm (h : RxCore s) (hq : MttcanRx.hpmsFifo s.hpmsMsi = some q) (hfresh : hpmFresh s = true)
    (hbmsk : s'.bmsk = update s.bmsk q (s.bmsk q ||| MttcanRx.shiftInt s.hpmsBidx))
    (htaken : (taken s').Perm ((s.fifo q).ram s.hpmsBidx :: taken s))
    (hpath : ∀ p, fifoReceived s' p = fifoReceived s p)
    (hcounted : s'.rxPackets = s'.received.length ∧ s'.rxDropped = s'.freed.length)
    (hhw : (s'.fifo, s'.ndat1, s'.ndat2, s'.rxb, s'.arrived, s'.origin) =
      (s.fifo, s.ndat1, s.ndat2, s.rxb, s.arrived, s.origin))
    (hsw : (s'.list, s'.mem, s'.listStatus, s'.acked, s'.bufferReads) =
      (s.list, s.mem, s.listStatus, s.acked, s.bufferReads)) : RxCore s' := by
  obtain ⟨hin, hnot, hskips⟩ := h.fresh_report hq hfresh
  simp only [Prod.mk.injEq] at hhw hsw
  obtain ⟨hfifo, hndat1, hndat2, hrxb, harrived, horigin⟩ := hhw
  obtain ⟨hlist, hmem, hstatus, hacked, hreads⟩ := hsw
  have hiff : ∀ y, y ∈ taken s' ↔ y = (s.fifo q).ram s.hpmsBidx ∨ y ∈ taken s := by
    intro y
    rw [htaken.mem_iff, List.mem_cons]
  constructor
  · constructor
    · rw [hfifo]
      exact h.rings.getIdx
    · intro p
      rw [hbmsk]
      by_cases hp : p = q
      · subst hp
        rw [update_self]
        exact (h.rings.high p).or_shiftInt _
      · rw [update_of_ne hp]
        exact h.rings.high p
    · intro p
      rw [hbmsk, hfifo]
      by_cases hp : p = q
      · subst hp
        rw [update_self]
        exact hskips.congr fun y _ => (hiff y.2).symm
      rw [update_of_ne hp]
      apply (h.rings.skips p).congr
      intro y hy
      have hne := h.rings.ne_of_fifo hin (mem_fifoFrames_of_mem hy) hp
      rw [hiff]
      simp [hne]
    · intro p
      rw [hpath, hlist, hfifo]
      exact h.rings.order p
    · rw [hfifo, horigin, harrived]
      exact h.rings.origin
  · constructor
    · intro i hi hnew
      have hold : s.newData i = true := by
        unfold MttcanRx.newData at hnew ⊢
        rw [hndat1, hndat2] at hnew
        exact hnew
      obtain ⟨horig, hlt, hout⟩ := h.buffers.new i hi hold
      rw [horigin, hrxb, harrived, hiff]
      refine ⟨horig, hlt, ?_⟩
      rintro (heq | hmem)
      · exact h.ne_of_buffer hin hi hold heq
      · exact hout hmem
    · rw [hreads]
      exact h.buffers.elements
  · constructor
    · intro y hy
      rw [harrived]
      rcases (hiff y).mp hy with rfl | hy
      · exact (h.rings.origin q _ hin).2
      · exact h.lists.old y hy
    · exact htaken.nodup_iff.mpr (List.nodup_cons.mpr ⟨hnot, h.lists.once⟩)
    · intro y hy
      rw [hacked] at hy
      exact (hiff y).mpr (Or.inr (h.lists.acked y hy))
    · exact hcounted
    · rw [hmem, hlist]
      exact h.lists.lengths
    · rw [hstatus, hmem]
      exact h.lists.full

theorem hpmTurn_kept (h : RxCore s) (hfresh : hpmFresh s = true) (failAt : Option ℕ) :
    RxCore (s.hpmTurn failAt) := by
  unfold MttcanRx.hpmTurn MttcanRx.ttcanReadHpMesgs
  cases hq : MttcanRx.hpmsFifo s.hpmsMsi with
  | none => exact h
  | some q =>
    dsimp only
    unfold MttcanRx.mttcanHpmDoReceive
    split_ifs with hfail
    · refine h.takeHpm hq hfresh rfl ?_ (fun p => rfl) ?_ rfl rfl
      · unfold taken
        rw [← List.append_assoc, List.append_assoc _ [_]]
        exact List.perm_middle
      · refine ⟨h.lists.counted.1, ?_⟩
        rw [List.length_append, List.length_singleton, h.lists.counted.2]
    refine h.takeHpm hq hfresh rfl ?_ ?_ ?_ rfl rfl
    · unfold taken
      rw [List.map_append, List.append_assoc, List.append_assoc]
      rw [List.append_assoc]
      exact List.perm_middle
    · intro p
      unfold fifoReceived
      simp
    · refine ⟨?_, h.lists.counted.2⟩
      rw [List.length_append, List.length_singleton, h.lists.counted.1]

/-! ## Frames for a list -/

/-- What `add_msg_controller_list` does when it takes a frame. -/
def withMsg (s : MttcanRx) (t : TtcanRxType) (x : ℕ) : MttcanRx :=
  { s with
    list := update s.list t (s.list t ++ [x])
    mem := update s.mem t (s.mem t + 1)
    listStatus :=
      if MttcanRx.ttcanMaxListMembers ≤ s.mem t + 1 then s.listStatus ||| t.bits else s.listStatus }

theorem addMsg_eq {fails : Bool} (h : s.addMsgControllerList t x fails = some s') : s' = withMsg s t x := by
  obtain ⟨-, h⟩ := Option.ite_none_left_eq_some.mp h
  obtain ⟨-, h⟩ := Option.ite_none_left_eq_some.mp h
  exact (Option.some.inj h).symm

theorem withMsg_list (u : TtcanRxType) : (withMsg s t x).list u = if u = t then s.list t ++ [x] else s.list u := by
  unfold withMsg
  dsimp only
  rw [update_apply]

theorem taken_withMsg (hothers : ∀ u, u ≠ t → s.list u = []) (x : ℕ) : taken (withMsg s t x) = taken s ++ [x] := by
  have hwait : waiting (withMsg s t x) = s.list t ++ [x] := by
    have hothers' : ∀ u, u ≠ t → (withMsg s t x).list u = [] := by
      intro u hu
      rw [withMsg_list, if_neg hu]
      exact hothers u hu
    rw [waiting_eq hothers', withMsg_list, if_pos rfl]
  unfold taken
  rw [hwait, waiting_eq hothers, ← List.append_assoc]
  rfl

theorem RxTaken.withMsg (h : RxTaken s) (t : TtcanRxType) (x : ℕ) (u : TtcanRxType) :
    (withMsg s t x).mem u = ((withMsg s t x).list u).length ∧
      (Analysis.withMsg s t x).listStatus.getLsbD (statusBit u) =
        decide (MttcanRx.ttcanMaxListMembers ≤ (Analysis.withMsg s t x).mem u) := by
  have hfull := h.full u
  have hmem : (Analysis.withMsg s t x).mem u = if u = t then s.mem t + 1 else s.mem u :=
    update_apply ..
  by_cases hu : u = t
  · subst hu
    rw [if_pos rfl] at hmem
    rw [withMsg_list, if_pos rfl, hmem, List.length_append, List.length_singleton, h.lengths u]
    refine ⟨rfl, ?_⟩
    rw [h.lengths u] at hfull
    unfold Analysis.withMsg
    rw [h.lengths u]
    split_ifs with hmax
    · rw [full_or_bits]
      simp [hmax]
    · rw [hfull]
      simp [hmax]
      omega
  rw [if_neg hu] at hmem
  rw [withMsg_list, if_neg hu, hmem]
  refine ⟨h.lengths u, ?_⟩
  rw [← hfull]
  unfold Analysis.withMsg
  split
  · rw [full_or_bits, decide_eq_false hu, Bool.or_false]
  · rfl

/-- **A frame goes into a list**, and is acknowledged. -/
theorem RxTaken.take (h : RxTaken s) (hothers : ∀ u, u ≠ t → s.list u = []) (hx : x ∉ taken s)
    (hlt : x < s.arrived) (hlists : (s'.list, s'.mem, s'.listStatus) =
      ((Analysis.withMsg s t x).list, (Analysis.withMsg s t x).mem, (Analysis.withMsg s t x).listStatus))
    (hrest : (s'.received, s'.freed, s'.rxPackets, s'.rxDropped, s'.arrived) =
      (s.received, s.freed, s.rxPackets, s.rxDropped, s.arrived))
    (hacked : s'.acked = s.acked ++ [x]) : RxTaken s' ∧ taken s' = taken s ++ [x] := by
  simp only [Prod.mk.injEq] at hlists hrest
  obtain ⟨hlist, hmem, hstatus⟩ := hlists
  obtain ⟨hreceived, hfreed, hpackets, hdropped, harrived⟩ := hrest
  have htaken : taken s' = taken s ++ [x] := by
    rw [← taken_withMsg hothers x]
    unfold taken waiting
    rw [hlist, hreceived, hfreed]
    rfl
  refine ⟨?_, htaken⟩
  constructor
  · intro y hy
    rw [harrived]
    rw [htaken] at hy
    rcases List.mem_append.mp hy with hy | hy
    · exact h.old y hy
    · rw [List.mem_singleton.mp hy]
      exact hlt
  · rw [htaken]
    refine List.nodup_append.mpr ⟨h.once, List.nodup_singleton _, ?_⟩
    rintro a ha b hb rfl
    rw [List.mem_singleton.mp hb] at ha
    exact hx ha
  · intro y hy
    rw [hacked] at hy
    rw [htaken]
    rcases List.mem_append.mp hy with hy | hy
    · exact List.mem_append_left _ (h.acked y hy)
    · exact List.mem_append_right _ hy
  · rw [hpackets, hdropped, hreceived, hfreed]
    exact h.counted
  · intro u
    rw [hmem, hlist]
    exact (h.withMsg t x u).1
  · intro u
    rw [hstatus, hmem]
    exact (h.withMsg t x u).2

/-! ## The loops over a FIFO -/

theorem fifoFrames_ack (hlevel : f.level ≠ 0) (hget : f.idxAt 0 = f.getIdx) :
    fifoFrames f = f.ram f.getIdx :: fifoFrames f.ack := by
  unfold fifoFrames
  rw [fifoElems_ack hlevel hget]
  rfl

theorem RxCore.skipHpm (h : RxCore s) (hlevel : (s.fifo q).level ≠ 0)
    (hbit : residues (s.bmsk q) ((s.fifo q).getIdx % 32) = true) : RxCore (s.skipHpm q) := by
  have hget := h.rings.getIdx q
  have hskips := h.rings.skips q
  rw [fifoElems_ack hlevel hget] at hskips
  obtain ⟨hhead, htail⟩ := hskips
  have hframes := fifoFrames_ack hlevel hget
  unfold MttcanRx.skipHpm MttcanRx.ackFifo
  constructor
  · constructor
    · intro p
      dsimp only
      by_cases hp : p = q
      · subst hp
        rw [update_self]
        exact ack_idxAt_zero _
      · rw [update_of_ne hp]
        exact h.rings.getIdx p
    · intro p
      dsimp only
      by_cases hp : p = q
      · subst hp
        rw [update_self]
        exact SignExtended.and_notShiftUnsigned _ _
      · rw [update_of_ne hp]
        exact h.rings.high p
    · intro p
      dsimp only
      by_cases hp : p = q
      · subst hp
        rw [update_self, update_self, residues_and_notShiftUnsigned]
        exact htail
      · rw [update_of_ne hp, update_of_ne hp]
        exact h.rings.skips p
    · intro p
      dsimp only
      by_cases hp : p = q
      · subst hp
        rw [update_self]
        have horder := h.rings.order p
        rw [hframes] at horder
        exact horder.sublist (List.Sublist.append_left (List.sublist_cons_self _ _) _)
      · rw [update_of_ne hp]
        exact h.rings.order p
    · intro p x hx
      dsimp only at hx
      by_cases hp : p = q
      · subst hp
        rw [update_self] at hx
        apply h.rings.origin p x
        rw [hframes]
        exact List.mem_cons_of_mem _ hx
      · rw [update_of_ne hp] at hx
        exact h.rings.origin p x hx
  · exact ⟨h.buffers.new, h.buffers.elements⟩
  · refine ⟨h.lists.old, h.lists.once, ?_, h.lists.counted, h.lists.lengths, h.lists.full⟩
    intro x hx
    rcases List.mem_append.mp hx with hx | hx
    · exact h.lists.acked x hx
    · rw [List.mem_singleton.mp hx]
      exact hhead.mp hbit

theorem RxCore.takeFifo (h : RxCore s) (hlevel : (s.fifo q).level ≠ 0)
    (hbit : residues (s.bmsk q) ((s.fifo q).getIdx % 32) = false) (hothers : ∀ u, u ≠ .fifo q → s.list u = []) :
    RxCore ((withMsg s (.fifo q) ((s.fifo q).ram (s.fifo q).getIdx)).ackFifo q) := by
  have hget := h.rings.getIdx q
  have hskips := h.rings.skips q
  rw [fifoElems_ack hlevel hget] at hskips
  obtain ⟨hnot, htail⟩ := hskips.tail hbit
  have hframes := fifoFrames_ack hlevel hget
  have hin : (s.fifo q).ram (s.fifo q).getIdx ∈ fifoFrames (s.fifo q) := by
    rw [hframes]
    exact List.mem_cons_self
  have htake : RxTaken ((withMsg s (.fifo q) ((s.fifo q).ram (s.fifo q).getIdx)).ackFifo q) ∧
      taken ((withMsg s (.fifo q) ((s.fifo q).ram (s.fifo q).getIdx)).ackFifo q) =
        taken s ++ [(s.fifo q).ram (s.fifo q).getIdx] :=
    h.lists.take hothers hnot (h.rings.origin q _ hin).2 rfl rfl rfl
  obtain ⟨hlists, htaken⟩ := htake
  have hrest : ∀ y ∈ fifoFrames (s.fifo q).ack, y ≠ (s.fifo q).ram (s.fifo q).getIdx := by
    intro y hy heq
    have hnodup := h.rings.frames_nodup q
    rw [hframes] at hnodup
    exact (List.nodup_cons.mp hnodup).1 (heq ▸ hy)
  have hsame : ∀ y, y ≠ (s.fifo q).ram (s.fifo q).getIdx →
      (y ∈ taken s ↔ y ∈ taken ((withMsg s (.fifo q) ((s.fifo q).ram (s.fifo q).getIdx)).ackFifo q)) := by
    intro y hy
    rw [htaken, List.mem_append, List.mem_singleton]
    simp [hy]
  refine ⟨?_, ?_, hlists⟩
  · constructor
    · intro p
      unfold MttcanRx.ackFifo
      dsimp only
      by_cases hp : p = q
      · subst hp
        rw [update_self]
        exact ack_idxAt_zero _
      · rw [update_of_ne hp]
        exact h.rings.getIdx p
    · exact h.rings.high
    · intro p
      unfold MttcanRx.ackFifo
      dsimp only
      by_cases hp : p = q
      · subst hp
        rw [update_self]
        apply htail.congr
        intro y hy
        exact hsame y.2 (hrest _ (mem_fifoFrames_of_mem hy))
      rw [update_of_ne hp]
      apply (h.rings.skips p).congr
      intro y hy
      exact hsame y.2 (h.rings.ne_of_fifo hin (mem_fifoFrames_of_mem hy) hp)
    · intro p
      have horder := h.rings.order p
      show (fifoReceived s p ++ (withMsg s (.fifo q) ((s.fifo q).ram (s.fifo q).getIdx)).list (.fifo p) ++
        fifoFrames (update s.fifo q (s.fifo q).ack p)).Pairwise (· < ·)
      rw [withMsg_list]
      by_cases hp : p = q
      · subst hp
        rw [hframes] at horder
        simpa using horder
      · have hne : TtcanRxType.fifo p ≠ .fifo q := by simpa using hp
        rw [update_of_ne hp, if_neg hne]
        exact horder
    · intro p x hx
      have hmem : x ∈ fifoFrames (s.fifo p) := by
        have hx' : x ∈ fifoFrames (update s.fifo q (s.fifo q).ack p) := hx
        by_cases hp : p = q
        · subst hp
          rw [update_self] at hx'
          rw [hframes]
          exact List.mem_cons_of_mem _ hx'
        · rw [update_of_ne hp] at hx'
          exact hx'
      exact h.rings.origin p x hmem
  · refine ⟨?_, h.buffers.elements⟩
    intro i hi hnew
    obtain ⟨horigin, hlt, hout⟩ := h.buffers.new i hi hnew
    refine ⟨horigin, hlt, ?_⟩
    intro hmem
    exact hout ((hsame _ (h.ne_of_buffer hin hi hnew)).mpr hmem)

section

variable {n : ℕ}

theorem RxAt.filling (huse : listInUse s.pollAt = some (t, n)) (hothers : ∀ u, u ≠ t → s.list u = [])
    (hlen : (s.list t).length = n) (hndat : ∀ ndat1 ndat2 k, s.pollAt = .bufferLoop ndat1 ndat2 k →
      ∀ i, ndat1.getLsbD i = true → s.ndat1.getLsbD i = true)
    (hmore : ∀ p qRead k, s.pollAt = .fifoLoop p true qRead k → (s.fifo p).level ≠ 0) : RxAt s where
  others u hu := by
    apply hothers
    rintro rfl
    exact hu n huse
  length u k h := by
    rw [huse] at h
    cases h
    exact hlen
  ndat := hndat
  more := hmore

theorem RxAt.resting (huse : listInUse s.pollAt = none) (hnil : ∀ u, s.list u = []) : RxAt s where
  others u _ := hnil u
  length u k h := by
    rw [huse] at h
    cases h
  ndat ndat1 ndat2 k h := by
    rw [h] at huse
    cases huse
  more p qRead k h := by
    rw [h] at huse
    cases huse

theorem RxAt.others_of (hat : RxAt s) (huse : listInUse s.pollAt = some (t, n)) (u : TtcanRxType) (hu : u ≠ t) :
    s.list u = [] := by
  apply hat.others
  intro k hk
  rw [huse] at hk
  cases hk
  exact hu rfl

theorem RxAt.nil_of (hat : RxAt s) (huse : listInUse s.pollAt = none) (u : TtcanRxType) : s.list u = [] := by
  apply hat.others
  intro k hk
  rw [huse] at hk
  cases hk

theorem ttcanReadRxFifoTurn_kept {more : Bool} {qRead : ℕ} (h : RxCore s) (hat : RxAt s)
    (hpoll : s.pollAt = .fifoLoop q more qRead n) (failAt : Option ℕ) :
    RxCore (s.ttcanReadRxFifoTurn q more qRead n failAt) ∧ RxAt (s.ttcanReadRxFifoTurn q more qRead n failAt) := by
  have huse : listInUse s.pollAt = some (.fifo q, n) := by rw [hpoll]; rfl
  have hothers := hat.others_of huse
  have hlen := hat.length _ _ huse
  have hleave : RxCore { s with pollAt := .fifoList q n } ∧ RxAt { s with pollAt := .fifoList q n } := by
    refine ⟨h.of_poll _ s.ir s.quota s.workDone s.hpmsMsi s.hpmsBidx, ?_⟩
    refine RxAt.filling rfl hothers hlen ?_ ?_
    · nofun
    · nofun
  unfold MttcanRx.ttcanReadRxFifoTurn
  by_cases hloop : more = true ∧ qRead ≠ 0
  · rw [if_pos hloop]
    obtain ⟨rfl, -⟩ := hloop
    have hlevel := hat.more q qRead n hpoll
    split_ifs with hskip
    · have hbit := (and_shiftInt_ne_zero_iff (h.rings.high q) _).mp hskip
      refine ⟨(h.skipHpm hlevel hbit).of_poll _ s.ir s.quota s.workDone s.hpmsMsi s.hpmsBidx, ?_⟩
      refine RxAt.filling rfl hothers hlen ?_ ?_
      · nofun
      · intro p r k hk
        injection hk with hp hfill
        subst hp
        exact bne_iff_ne.mp hfill
    have hbit : residues (s.bmsk q) ((s.fifo q).getIdx % 32) = false := by
      rw [Bool.eq_false_iff]
      exact fun hset => hskip ((and_shiftInt_ne_zero_iff (h.rings.high q) _).mpr hset)
    cases hadd : s.addMsgControllerList (.fifo q) ((s.fifo q).ram (s.fifo q).getIdx)
        (decide (failAt = some 0)) with
    | none => exact hleave
    | some u =>
      cases addMsg_eq hadd
      refine ⟨(h.takeFifo hlevel hbit hothers).of_poll _ s.ir s.quota s.workDone s.hpmsMsi s.hpmsBidx, ?_⟩
      refine RxAt.filling rfl ?_ ?_ ?_ ?_
      · intro u hu
        show (withMsg s _ _).list u = []
        rw [withMsg_list, if_neg hu]
        exact hothers u hu
      · show ((withMsg s _ _).list _).length = n + 1
        rw [withMsg_list, if_pos rfl, List.length_append, hlen]
        rfl
      · nofun
      · intro p r k hk
        injection hk with hp hfill
        subst hp
        exact bne_iff_ne.mp hfill
  · rw [if_neg hloop]
    exact hleave

/-! ## The loop over the dedicated buffers -/

theorem exists_firstBit {y : U32} (h : y ≠ 0) : ∃ i, firstBit y = some i ∧ y.getLsbD i = true ∧ i < 32 := by
  cases hfirst : firstBit y with
  | none =>
    exfalso
    apply h
    apply eq_zero_of_getLsbD
    intro i hi
    have hnot := List.find?_eq_none.mp hfirst i (List.mem_range.mpr (getLsbD_lt hi))
    exact hnot hi
  | some i => exact ⟨i, rfl, firstBit_spec hfirst, getLsbD_lt (firstBit_spec hfirst)⟩

def withRead (s : MttcanRx) (i : ℕ) : MttcanRx := { s with bufferReads := s.bufferReads ++ [(i, i)] }

theorem RxCore.withRead (h : RxCore s) (i : ℕ) : RxCore (withRead s i) where
  rings := ⟨h.rings.getIdx, h.rings.high, h.rings.skips, h.rings.order, h.rings.origin⟩
  buffers := by
    refine ⟨h.buffers.new, ?_⟩
    intro p hp
    rcases List.mem_append.mp hp with hp | hp
    · exact h.buffers.elements p hp
    · rw [List.mem_singleton.mp hp]
  lists := ⟨h.lists.old, h.lists.once, h.lists.acked, h.lists.counted, h.lists.lengths, h.lists.full⟩

/-- The frame of a dedicated buffer goes into the list, and the bit of NDAT1 is written. -/
def bufferTaken (s : MttcanRx) (i : ℕ) : MttcanRx :=
  { withMsg s .buffer (s.rxb i) with ndat1 := clearBit s.ndat1 i, acked := s.acked ++ [s.rxb i] }

theorem RxCore.takeBuffer (h : RxCore s) (hi : i < 32) (hset : s.ndat1.getLsbD i = true)
    (hothers : ∀ u, u ≠ .buffer → s.list u = []) : RxCore (bufferTaken s i) := by
  have hnew : s.newData i = true := by
    unfold MttcanRx.newData
    rw [if_pos hi]
    exact hset
  obtain ⟨horigin, hlt, hnot⟩ := h.buffers.new i (by omega) hnew
  have htake : RxTaken (bufferTaken s i) ∧ Model.taken (bufferTaken s i) = Model.taken s ++ [s.rxb i] :=
    h.lists.take hothers hnot hlt rfl rfl rfl
  obtain ⟨hlists, htaken⟩ := htake
  have hsame : ∀ y, y ≠ s.rxb i → (y ∈ Model.taken s ↔ y ∈ Model.taken (bufferTaken s i)) := by
    intro y hy
    rw [htaken, List.mem_append, List.mem_singleton]
    simp [hy]
  refine ⟨?_, ?_, hlists⟩
  · refine ⟨h.rings.getIdx, h.rings.high, ?_, ?_, h.rings.origin⟩
    · intro p
      apply (h.rings.skips p).congr
      intro y hy
      apply hsame
      rintro heq
      exact h.ne_of_buffer (mem_fifoFrames_of_mem hy) (by omega) hnew heq.symm
    · intro p
      exact h.rings.order p
  · refine ⟨?_, h.buffers.elements⟩
    intro j hj hnewj
    have hold : s.newData j = true ∧ j ≠ i := by
      unfold MttcanRx.newData at hnewj ⊢
      by_cases hjlow : j < 32
      · rw [if_pos hjlow] at hnewj ⊢
        have hclear : (clearBit s.ndat1 i).getLsbD j = true := hnewj
        rw [getLsbD_clearBit, Bool.and_eq_true, decide_eq_true_eq] at hclear
        exact hclear
      · rw [if_neg hjlow] at hnewj ⊢
        exact ⟨hnewj, by omega⟩
    obtain ⟨horiginj, hltj, hnotj⟩ := h.buffers.new j hj hold.1
    refine ⟨horiginj, hltj, ?_⟩
    intro hmem
    apply hnotj
    rw [hsame]
    · exact hmem
    · intro heq
      have hboth : RxOrigin.element j = .element i := horiginj.symm.trans ((congrArg s.origin heq).trans horigin)
      exact hold.2 (RxOrigin.element.inj hboth)

/-- A turn of the loop over the dedicated buffers, when none beyond the first 32 has a frame. -/
theorem ttcanReadRxBufferTurn_kept {ndat1 : U32} (h : RxCore s) (hat : RxAt s)
    (hpoll : s.pollAt = .bufferLoop ndat1 0 n) (failAt : Option ℕ) :
    RxCore (s.ttcanReadRxBufferTurn ndat1 0 n failAt) ∧ RxAt (s.ttcanReadRxBufferTurn ndat1 0 n failAt) := by
  have huse : listInUse s.pollAt = some (.buffer, n) := by rw [hpoll]; rfl
  have hothers := hat.others_of huse
  have hlen := hat.length _ _ huse
  have hleave : ∀ u, RxCore u → u.list = s.list →
      RxCore { u with pollAt := .bufferList n } ∧ RxAt { u with pollAt := .bufferList n } := by
    intro u hu hlist
    refine ⟨hu.of_poll _ u.ir u.quota u.workDone u.hpmsMsi u.hpmsBidx, ?_⟩
    refine RxAt.filling rfl ?_ ?_ ?_ ?_
    · intro v hv
      rw [hlist]
      exact hothers v hv
    · rw [hlist]
      exact hlen
    · nofun
    · nofun
  unfold MttcanRx.ttcanReadRxBufferTurn
  by_cases hzero : ndat1 = 0
  · rw [if_pos ⟨hzero, rfl⟩]
    exact hleave s h rfl
  rw [if_neg (fun hboth => hzero hboth.1)]
  obtain ⟨i, hfirst, hbit, hi⟩ := exists_firstBit hzero
  have hset := hat.ndat ndat1 0 n hpoll i hbit
  have hidx : MttcanRx.ffsIdx ndat1 = i := by
    unfold MttcanRx.ffsIdx
    rw [hfirst]
    rfl
  unfold MttcanRx.readRxBufferHalf
  rw [if_neg hzero, hidx]
  unfold MttcanRx.processRxMesg
  simp only [Bool.false_eq_true, if_false]
  cases hadd : (Analysis.withRead s i).addMsgControllerList .buffer (s.rxb i) (decide (failAt = some 0)) with
  | none =>
    unfold Analysis.withRead at hadd
    simp only [hadd, Bool.false_eq_true, if_false]
    exact hleave _ (h.withRead i) rfl
  | some u =>
    have hu := addMsg_eq hadd
    unfold Analysis.withRead at hadd
    simp only [hadd, if_true, if_neg hzero]
    subst hu
    have hcore := (h.withRead i).takeBuffer hi hset hothers
    refine ⟨hcore.of_poll _ s.ir s.quota s.workDone s.hpmsMsi s.hpmsBidx, ?_⟩
    refine RxAt.filling rfl ?_ ?_ ?_ ?_
    · intro v hv
      rw [withMsg_list, if_neg hv]
      exact hothers v hv
    · rw [withMsg_list, if_pos rfl, List.length_append]
      show (s.list .buffer).length + 1 = n + 1
      rw [hlen]
    · intro ndat1' ndat2' k hk j hj
      injection hk with hone
      rw [← hone, Nat.mod_eq_of_lt hi, getLsbD_clearBit, Bool.and_eq_true] at hj
      show (clearBit s.ndat1 i).getLsbD j = true
      rw [getLsbD_clearBit, hat.ndat ndat1 0 n hpoll j hj.1, hj.2]
      rfl
    · nofun

end

/-! ## Passing a list on -/

theorem receiveLoop_eq (t : TtcanRxType) (recMsgs : ℕ) {xs : List ℕ} {quota : ℤ} {pushed : ℕ}
    (hquota : quota < 0 ∨ xs.length ≤ quota) (hfail : ∀ k ∈ failAt, xs.length ≤ k) (s : MttcanRx) :
    MttcanRx.receiveLoop t recMsgs xs quota failAt pushed s =
      ({ s with
          rxPackets := s.rxPackets + xs.length
          received := s.received ++ xs.map fun x => (RxPath.list t, x) },
        (recMsgs : ℤ) - ((pushed - xs.length : ℕ) : ℤ)) := by
  induction xs generalizing quota failAt pushed s with
  | nil => simp [MttcanRx.receiveLoop]
  | cons x rest ih =>
    rw [List.length_cons] at hquota hfail
    have hne : quota ≠ 0 := by omega
    have hok : failAt ≠ some 0 := by
      intro hzero
      have := hfail 0 hzero
      omega
    unfold MttcanRx.receiveLoop
    rw [if_neg hne, if_neg hok, ih]
    · simp only [List.length_cons, List.map_cons, List.append_assoc, List.singleton_append]
      rw [Nat.sub_sub, Nat.add_comm 1, Nat.add_assoc, Nat.add_comm 1]
    · omega
    · intro k hk
      obtain ⟨k', hk', rfl⟩ := Option.mem_map.mp hk
      have := hfail k' hk'
      omega

/-- A list after all of its frames were passed on. -/
def passedOn (s : MttcanRx) (t : TtcanRxType) : MttcanRx :=
  { s.spliceList t with
    rxPackets := s.rxPackets + (s.list t).length
    received := s.received ++ (s.list t).map fun x => (RxPath.list t, x) }

theorem passedOn_list (hothers : ∀ u, u ≠ t → s.list u = []) (u : TtcanRxType) : (passedOn s t).list u = [] := by
  show update s.list t [] u = []
  by_cases hu : u = t
  · rw [hu, update_self]
  · rw [update_of_ne hu]
    exact hothers u hu

theorem taken_passedOn (hothers : ∀ u, u ≠ t → s.list u = []) : (taken (passedOn s t)).Perm (taken s) := by
  unfold taken
  rw [waiting_eq_nil (passedOn_list hothers), waiting_eq hothers, List.append_nil]
  show ((s.received ++ (s.list t).map fun x => (RxPath.list t, x)).map Prod.snd ++ s.freed).Perm _
  have hsnd : ((s.list t).map fun x => (RxPath.list t, x)).map Prod.snd = s.list t := by
    rw [List.map_map]
    exact List.map_id _
  rw [List.map_append, hsnd, List.append_assoc, List.append_assoc]
  exact List.Perm.append_left _ List.perm_append_comm

theorem fifoReceived_passedOn (s : MttcanRx) (t : TtcanRxType) (q : RxFifoId) :
    fifoReceived (passedOn s t) q = fifoReceived s q ++ if .fifo q = t then s.list (.fifo q) else [] := by
  unfold fifoReceived passedOn
  rw [List.filter_append, List.map_append, List.filter_map, List.map_map]
  congr 1
  split_ifs with ht
  · rw [← ht]
    simp [comp_def]
  · simp [comp_def, Ne.symm ht]

/-- **A list is passed on**, and is empty. -/
theorem RxCore.passedOn (h : RxCore s) (hothers : ∀ u, u ≠ t → s.list u = []) : RxCore (passedOn s t) := by
  have hperm := taken_passedOn hothers
  have hnil := passedOn_list hothers
  constructor
  · refine ⟨h.rings.getIdx, h.rings.high, ?_, ?_, h.rings.origin⟩
    · intro p
      apply (h.rings.skips p).congr
      intro y _
      exact hperm.mem_iff.symm
    · intro p
      have horder := h.rings.order p
      rw [fifoReceived_passedOn, hnil, List.append_nil]
      split_ifs with ht
      · exact horder
      · rw [List.append_nil]
        rw [hothers _ ht, List.append_nil] at horder
        exact horder
  · refine ⟨?_, h.buffers.elements⟩
    intro i hi hnew
    obtain ⟨horigin, hlt, hnot⟩ := h.buffers.new i hi hnew
    exact ⟨horigin, hlt, fun hmem => hnot (hperm.mem_iff.mp hmem)⟩
  · constructor
    · intro x hx
      exact h.lists.old x (hperm.mem_iff.mp hx)
    · exact hperm.nodup_iff.mpr h.lists.once
    · intro x hx
      exact hperm.mem_iff.mpr (h.lists.acked x hx)
    · refine ⟨?_, h.lists.counted.2⟩
      show s.rxPackets + (s.list t).length = (s.received ++ (s.list t).map _).length
      rw [List.length_append, List.length_map, h.lists.counted.1]
    · intro u
      rw [hnil]
      show update s.mem t 0 u = 0
      by_cases hu : u = t
      · rw [hu, update_self]
      · rw [update_of_ne hu, h.lists.lengths u, hothers u hu]
        rfl
    · intro u
      show (s.listStatus &&& ~~~(t.bits &&& 0xFF)).getLsbD (statusBit u) =
        decide (MttcanRx.ttcanMaxListMembers ≤ update s.mem t 0 u)
      rw [full_and_not_bits, h.lists.full u]
      by_cases hu : u = t
      · rw [hu, update_self]
        simp [MttcanRx.ttcanMaxListMembers]
      · simp [hu]

theorem listTurn_kept {n : ℕ} (h : RxCore s) (hothers : ∀ u, u ≠ t → s.list u = []) (hfits : ListFits s t failAt) :
    RxCore (s.listTurn t n failAt) ∧ ∀ u, (s.listTurn t n failAt).list u = [] := by
  unfold MttcanRx.listTurn MttcanRx.mttcanReadRcvList
  split_ifs with hempty
  · refine ⟨h.of_poll s.pollAt s.ir s.quota _ s.hpmsMsi s.hpmsBidx, ?_⟩
    intro u
    by_cases hu : u = t
    · rw [hu]
      exact hempty
    · exact hothers u hu
  · rw [receiveLoop_eq t n hfits.1 hfits.2]
    exact ⟨(h.passedOn hothers).of_poll s.pollAt s.ir s.quota _ s.hpmsMsi s.hpmsBidx, passedOn_list hothers⟩

/-! ## Runs -/

theorem hpmTurn_list (s : MttcanRx) (failAt : Option ℕ) : (s.hpmTurn failAt).list = s.list := by
  unfold MttcanRx.hpmTurn MttcanRx.ttcanReadHpMesgs
  cases MttcanRx.hpmsFifo s.hpmsMsi with
  | none => rfl
  | some q =>
    dsimp only
    unfold MttcanRx.mttcanHpmDoReceive
    split <;> rfl

theorem listInUse_afterFifo (q : RxFifoId) : listInUse (MttcanRx.afterFifo q) = none := by
  cases q <;> rfl

theorem mttcanPollIr_kept (h : RxCore s) (hat : RxAt s) (hcareful : TurnCareful s failAt s.pollAt) :
    RxCore (s.mttcanPollIr failAt) ∧ RxAt (s.mttcanPollIr failAt) := by
  unfold MttcanRx.mttcanPollIr
  cases hpoll : s.pollAt with
  | idle => exact ⟨h, hat⟩
  | hpm =>
    have hnil := hat.nil_of (by rw [hpoll]; rfl)
    rw [hpoll] at hcareful
    cases hir : s.ir.hpm with
    | false =>
      exact ⟨h.of_poll _ s.ir s.quota s.workDone s.hpmsMsi s.hpmsBidx, RxAt.resting rfl hnil⟩
    | true =>
      rw [if_pos rfl]
      have hturn := hpmTurn_kept h (hcareful hir) failAt
      refine ⟨hturn.of_poll _ _ _ _ _ _, RxAt.resting rfl ?_⟩
      intro u
      rw [hpmTurn_list]
      exact hnil u
  | buffer =>
    have hnil := hat.nil_of (by rw [hpoll]; rfl)
    refine ⟨h.of_poll _ s.ir s.quota s.workDone s.hpmsMsi s.hpmsBidx, ?_⟩
    cases s.ir.drx with
    | false =>
      exact RxAt.resting rfl hnil
    | true =>
      refine RxAt.filling rfl (fun u _ => hnil u) (congrArg List.length (hnil .buffer)) ?_ ?_
      · intro ndat1 ndat2 k hk i hi
        injection hk with hone
        rw [← hone] at hi
        exact hi
      · nofun
  | bufferLoop ndat1 ndat2 n =>
    rw [hpoll] at hcareful
    have hzero : ndat2 = 0 := hcareful
    subst hzero
    exact ttcanReadRxBufferTurn_kept h hat hpoll failAt
  | bufferList n =>
    rw [hpoll] at hcareful
    have hothers := hat.others_of (t := .buffer) (n := n) (by rw [hpoll]; rfl)
    obtain ⟨hcore, hnil⟩ := listTurn_kept (n := n) h hothers hcareful
    exact ⟨hcore.of_poll _ _ _ _ _ _, RxAt.resting rfl hnil⟩
  | lost =>
    have hnil := hat.nil_of (by rw [hpoll]; rfl)
    exact ⟨h.of_poll _ s.ir s.quota _ s.hpmsMsi s.hpmsBidx, RxAt.resting rfl hnil⟩
  | fifoStart q =>
    have hnil := hat.nil_of (by rw [hpoll]; rfl)
    refine ⟨h.of_poll _ s.ir s.quota s.workDone s.hpmsMsi s.hpmsBidx, ?_⟩
    dsimp only
    cases s.ir.fifo q with
    | false =>
      exact RxAt.resting (listInUse_afterFifo q) hnil
    | true =>
      refine RxAt.filling rfl (fun u _ => hnil u) (congrArg List.length (hnil (.fifo q))) ?_ ?_
      · nofun
      · intro p qRead k hk
        injection hk with hp hfill
        subst hp
        exact bne_iff_ne.mp hfill
  | fifoLoop q more qRead n => exact ttcanReadRxFifoTurn_kept h hat hpoll failAt
  | fifoList q n =>
    rw [hpoll] at hcareful
    have hothers := hat.others_of (t := .fifo q) (n := n) (by rw [hpoll]; rfl)
    obtain ⟨hcore, hnil⟩ := listTurn_kept (n := n) h hothers hcareful
    exact ⟨hcore.of_poll _ _ _ _ _ _, RxAt.resting (listInUse_afterFifo q) hnil⟩

theorem rxStep_kept {op : RxOp} (h : RxCore s ∧ RxAt s) (hcareful : RxCareful s op) (hstep : rxStep s op = some s') :
    RxCore s' ∧ RxAt s' := by
  obtain ⟨hcore, hat⟩ := h
  cases op with
  | frame q hp =>
    cases hstep
    by_cases hlt : (s.fifo q).level < (s.fifo q).num
    · exact ⟨hcore.arriveFifo hlt hp, hat.arriveFifo hlt hp⟩
    unfold MttcanRx.arriveFifo
    rw [if_neg hlt]
    exact ⟨hcore.of_poll s.pollAt s.ir s.quota s.workDone _ s.hpmsBidx,
      ⟨hat.others, hat.length, hat.ndat, hat.more⟩⟩
  | bufferFrame i =>
    obtain ⟨⟨hi, -⟩, heq⟩ := Option.ite_none_right_eq_some.mp hstep
    cases heq
    exact ⟨hcore.arriveBuffer hi, hat.arriveBuffer⟩
  | poll ir quota =>
    obtain ⟨hidle, heq⟩ := Option.ite_none_right_eq_some.mp hstep
    cases heq
    have hnil := hat.nil_of (by rw [hidle]; rfl)
    exact ⟨hcore.of_poll _ ir quota 0 s.hpmsMsi s.hpmsBidx, RxAt.resting rfl hnil⟩
  | turn failAt =>
    cases hstep
    exact mttcanPollIr_kept hcore hat hcareful

theorem RxCore.frames_kept (h : RxCore s) (hat : RxAt s) : RxFramesKept s where
  once := h.lists.once
  acked := h.lists.acked
  idle hidle := waiting_eq_nil (hat.nil_of (by rw [hidle]; rfl))
  counted := h.lists.counted
  ordered q := by
    have horder := h.rings.order q
    rw [List.append_assoc] at horder
    exact (List.pairwise_append.mp horder).1
  elements := h.buffers.elements
  lengths := h.lists.lengths
  full t := by
    unfold MttcanRx.isMsgListFull
    rw [full_test]
    exact h.lists.full t

/-- **Reception.**  In every run in which the high-priority messages are fresh when they are read, no frame is in the
buffers from 32 on when these are read, and the quota and the memory are enough for each list: each frame that is
acknowledged is passed on once or given up and counted, those of a FIFO in order, the elements are those of the bits,
and the lengths and flags are right. -/
theorem rx_frames_kept (num : RxFifoId → ℕ) (ops : List RxOp)
    (hcareful : AllSteps rxStep RxCareful (MttcanRx.opened num) ops)
    (hrun : run rxStep (MttcanRx.opened num) ops = some s) : RxFramesKept s := by
  have hkept : RxCore s ∧ RxAt s :=
    run_invariant_of_allSteps (fun _ _ _ h hc hstep => rxStep_kept h hc hstep)
      ⟨RxCore.opened num, RxAt.opened num⟩ hcareful hrun
  exact hkept.1.frames_kept hkept.2

def allRxIr : RxIr := ⟨true, true, false, false, true, true⟩

/-- Three frames in FIFO 0, the second one of high priority, one in FIFO 1 and one in buffer 3. -/
def mixedRxRun : List RxOp :=
  [.frame .fifo0 false, .frame .fifo0 true, .frame .fifo0 false, .bufferFrame 3, .frame .fifo1 false,
    .poll allRxIr 64] ++ List.replicate 20 (.turn none)

theorem mixedRxRun_kept : AllSteps rxStep RxCareful (MttcanRx.opened fun _ => 64) mixedRxRun ∧
      (run rxStep (MttcanRx.opened fun _ => 64) mixedRxRun).any (fun s =>
        decide (s.received.map Prod.snd = [1, 3, 4, 0, 2] ∧ s.acked = [3, 4, 0, 1, 2])) = true ∧
      ∀ s, run rxStep (MttcanRx.opened fun _ => 64) mixedRxRun = some s → RxFramesKept s := by
  have hcareful : AllSteps rxStep RxCareful (MttcanRx.opened fun _ => 64) mixedRxRun := by decide +kernel
  exact ⟨hcareful, by decide +kernel, fun s hrun => rx_frames_kept (fun _ => 64) mixedRxRun hcareful hrun⟩

def shortQuotaRun : List RxOp :=
  [.frame .fifo0 false, .frame .fifo0 false, .poll allRxIr 1] ++ List.replicate 14 (.turn none)

def upperBufferRun : List RxOp := [.bufferFrame 32, .poll allRxIr 64] ++ List.replicate 4 (.turn none)

def noMemoryRun : List RxOp :=
  [.frame .fifo0 false, .poll ⟨false, false, false, false, false, true⟩ 64] ++ List.replicate 7 (.turn none) ++
    [.turn (some 0)]

/-- 33 frames in FIFO 0, the last one of high priority: its index is 32. -/
def highIndexRun : List RxOp :=
  List.replicate 32 (.frame .fifo0 false) ++ [.frame .fifo0 true, .poll allRxIr 64] ++ List.replicate 45 (.turn none)

/-- A quota that is too small loses a frame, a frame of the upper buffers is read from another element, a frame without
memory is counted but kept nowhere, and the first frame is skipped for a high-priority one 32 places behind it. -/
theorem rx_frames_lost : (∃ s, run rxStep (MttcanRx.opened fun _ => 64) shortQuotaRun = some s ∧ ¬ RxFramesKept s) ∧
      (∃ s, run rxStep (MttcanRx.opened fun _ => 64) upperBufferRun = some s ∧ ¬ RxFramesKept s) ∧
      (∃ s, run rxStep (MttcanRx.opened fun _ => 64) noMemoryRun = some s ∧ ¬ RxFramesKept s) ∧
      ∃ s, run rxStep (MttcanRx.opened fun _ => 64) highIndexRun = some s ∧ ¬ RxFramesKept s := by
  refine ⟨?_, ?_, ?_, ?_⟩
  · apply exists_run_of_any fun s => decide (1 ∈ s.acked ∧ 1 ∉ taken s)
    · decide +kernel
    · intro s hs hkept
      obtain ⟨hin, hout⟩ := of_decide_eq_true hs
      exact hout (hkept.acked 1 hin)
  · apply exists_run_of_any fun s => decide ((32, 0) ∈ s.bufferReads)
    · decide +kernel
    · intro s hs hkept
      have heq := hkept.elements _ (of_decide_eq_true hs)
      cases heq
  · apply exists_run_of_any fun s => decide (0 ∈ s.acked ∧ 0 ∉ taken s)
    · decide +kernel
    · intro s hs hkept
      obtain ⟨hin, hout⟩ := of_decide_eq_true hs
      exact hout (hkept.acked 0 hin)
  · apply exists_run_of_any fun s => decide (0 ∈ s.acked ∧ 0 ∉ taken s)
    · decide +kernel
    · intro s hs hkept
      obtain ⟨hin, hout⟩ := of_decide_eq_true hs
      exact hout (hkept.acked 0 hin)

end NvidiaOot.Analysis
