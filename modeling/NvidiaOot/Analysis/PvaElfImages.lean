import NvidiaOot.Library.BitTable
import NvidiaOot.Program.PvaElfImages

/-!
# The table of a client's images

The ids in use are the set bits of `alloctable`.  `rmos_find_first_zero_bit` finds the least
id that is free, so the assigned ids stay below the number of allocated images and every
assigned id has an image.  The rest of the module says what each primitive changes.
-/

namespace NvidiaOot.Analysis

open Library Program Function

theorem and_one_eq_one (val : U32) : val &&& 1 = 1 ↔ val.getLsbD 0 = true := by
  have hone : (1 : U32) = 1#32 := rfl
  rw [hone, BitVec.and_one_eq_setWidth_ofBool_getLsbD]
  cases val.getLsbD 0 <;> decide

theorem firstSetLoop_spec (fuel index : ℕ) (val : U32) :
    ∃ n ≤ fuel, firstSetLoop fuel index val = index + n ∧ (∀ k < n, val.getLsbD k = false) ∧
      (n < fuel → val.getLsbD n = true) := by
  induction fuel generalizing index val with
  | zero => exact ⟨0, le_rfl, rfl, nofun, nofun⟩
  | succ fuel ih =>
    unfold firstSetLoop
    split
    case isTrue hbit =>
      exact ⟨0, Nat.zero_le _, rfl, nofun, fun _ => (and_one_eq_one val).mp hbit⟩
    case isFalse hbit =>
      obtain ⟨n, hn, heq, hbelow, hfound⟩ := ih (index + 1) (val >>> 1)
      have hshift (k : ℕ) : (val >>> 1).getLsbD k = val.getLsbD (k + 1) := by
        rw [BitVec.getLsbD_ushiftRight, Nat.add_comm]
      refine ⟨n + 1, Nat.succ_le_succ hn, by omega, fun k hk => ?_, fun hlt => ?_⟩
      · cases k with
        | zero =>
          rw [and_one_eq_one] at hbit
          exact Bool.eq_false_iff.mpr hbit
        | succ k =>
          rw [← hshift]
          exact hbelow k (Nat.lt_of_succ_lt_succ hk)
      · rw [← hshift]
        exact hfound (Nat.lt_of_succ_lt_succ hlt)

theorem rmosGetFirstZeroBit_spec (val : U32) :
    rmosGetFirstZeroBit val ≤ 32 ∧ (∀ k < rmosGetFirstZeroBit val, val.getLsbD k = true) ∧
      (rmosGetFirstZeroBit val < 32 → val.getLsbD (rmosGetFirstZeroBit val) = false) := by
  unfold rmosGetFirstZeroBit
  split
  case isTrue hones =>
    refine ⟨le_rfl, fun k hk => ?_, fun hlt => absurd hlt (lt_irrefl _)⟩
    have hallOnes : val = BitVec.allOnes 32 := hones
    rw [hallOnes, BitVec.getLsbD_allOnes]
    exact decide_eq_true hk
  case isFalse =>
    obtain ⟨n, hn, heq, hbelow, hfound⟩ := firstSetLoop_spec 32 0 (~~~val)
    have hr : rmosGetFirstSetBit (~~~val) = n := heq.trans (Nat.zero_add n)
    have hnot (k : ℕ) (hk : k < 32) : (~~~val).getLsbD k = !val.getLsbD k := by
      rw [BitVec.getLsbD_not, decide_eq_true hk, Bool.true_and]
    rw [hr]
    refine ⟨hn, fun k hk => ?_, fun hlt => ?_⟩
    · have hbit := hbelow k hk
      rw [hnot k (hk.trans_le hn)] at hbit
      simpa using hbit
    · have hbit := hfound hlt
      rw [hnot n hlt] at hbit
      simpa using hbit

section

variable (addr : ℕ → U32)

theorem tableBit_word {p k : ℕ} (hk : k < 32) :
    tableBit addr (32 * p + k) = (addr p).getLsbD k := by
  have hdiv : (32 * p + k) / 32 = p := by omega
  have hmod : (32 * p + k) % 32 = k := by omega
  rw [tableBit, hdiv, hmod]

/-- `r` is where a search of the bits from `start` to `stop` for a clear one ends. -/
structure FirstZero (addr : ℕ → U32) (start stop r : ℕ) : Prop where
  le : r ≤ stop
  set : ∀ k, start ≤ k → k < r → tableBit addr k = true
  clear : r < stop → tableBit addr r = false

theorem firstZeroTail_spec {p size : ℕ} (hsize : size < 32) (hbound : 32 * p + size < 2 ^ 32) :
    FirstZero addr (32 * p) (32 * p + size) (firstZeroTail (addr p) (32 * p) size) := by
  unfold firstZeroTail
  split
  case isTrue hzero =>
    refine ⟨Nat.le_add_right _ _, fun k hle hlt => absurd hle (not_le.mpr hlt), fun hlt => ?_⟩
    omega
  case isFalse =>
    obtain ⟨hle, hset, hclear⟩ := rmosGetFirstZeroBit_spec (addr p ||| (0xFFFFFFFF : U32) <<< size)
    have hbit (k : ℕ) (hk : k < 32) : (addr p ||| (0xFFFFFFFF : U32) <<< size).getLsbD k =
        ((addr p).getLsbD k || decide (size ≤ k)) := by
      have hones : (0xFFFFFFFF : U32) = BitVec.allOnes 32 := rfl
      rw [BitVec.getLsbD_or, BitVec.getLsbD_shiftLeft, hones, BitVec.getLsbD_allOnes]
      congr 1
      by_cases hks : size ≤ k
      · have hsub : k - size < 32 := by omega
        simp [hk, hks, hsub]
      · simp [hks, not_le.mp hks]
    generalize rmosGetFirstZeroBit (addr p ||| (0xFFFFFFFF : U32) <<< size) = n at hle hset hclear ⊢
    dsimp only
    have hword (k : ℕ) (hlo : 32 * p ≤ k) (hhi : k < 32 * p + 32) :
        tableBit addr k = (addr p).getLsbD (k - 32 * p) := by
      have hk : 32 * p + (k - 32 * p) = k := by omega
      rw [← tableBit_word addr (by omega : k - 32 * p < 32), hk]
    -- the clear bit is among those that count
    have hfound (hn : n < 32) : n < size ∧ (addr p).getLsbD n = false := by
      have hn0 := hclear hn
      rw [hbit n hn, Bool.or_eq_false_iff] at hn0
      refine ⟨?_, hn0.1⟩
      simpa using hn0.2
    have hbelow (k : ℕ) (hkn : k < n) (hks : k < size) : (addr p).getLsbD k = true := by
      have hk0 := hset k hkn
      rw [hbit k (hkn.trans_le hle), Bool.or_eq_true] at hk0
      rcases hk0 with hk0 | hk0
      · exact hk0
      · exact absurd (of_decide_eq_true hk0) (not_le.mpr hks)
    split
    case isTrue hfull =>
      rw [if_neg (by omega)]
      refine ⟨le_rfl, fun k hlo hhi => ?_, fun hlt => absurd hlt (lt_irrefl _)⟩
      rw [hword k hlo (by omega)]
      exact hbelow _ (by omega) (by omega)
    case isFalse hfull =>
      have hn : n < 32 := lt_of_le_of_ne hle hfull
      obtain ⟨hns, hzero⟩ := hfound hn
      refine ⟨by omega, fun k hlo hhi => ?_, fun _ => ?_⟩
      · rw [hword k hlo (by omega)]
        exact hbelow _ (by omega) (by omega)
      · rw [tableBit_word addr hn]
        exact hzero

theorem firstZeroLoop_spec {fuel p size : ℕ} (hfuel : fuel = size / 32)
    (hbound : 32 * p + size < 2 ^ 32) :
    FirstZero addr (32 * p) (32 * p + size) (firstZeroLoop addr fuel p (32 * p) size) := by
  induction fuel generalizing p size with
  | zero => exact firstZeroTail_spec addr (by omega) hbound
  | succ fuel ih =>
    unfold firstZeroLoop
    rw [if_pos (by omega)]
    split
    case isTrue hword =>
      obtain ⟨hle, hset, hclear⟩ := rmosGetFirstZeroBit_spec (addr p)
      have hlt : rmosGetFirstZeroBit (addr p) < 32 := by
        refine lt_of_le_of_ne hle fun hfull => hword ?_
        apply BitVec.eq_of_getLsbD_eq
        intro k hk
        have hones : (0xFFFFFFFF : U32) = BitVec.allOnes 32 := rfl
        rw [hset k (hfull ▸ hk), hones, BitVec.getLsbD_allOnes]
        exact (decide_eq_true hk).symm
      refine ⟨by omega, fun k hlo hhi => ?_, fun _ => ?_⟩
      · have hk : 32 * p + (k - 32 * p) = k := by omega
        rw [← hk, tableBit_word addr (by omega)]
        exact hset _ (by omega)
      · rw [tableBit_word addr hlt]
        exact hclear hlt
    case isFalse hword =>
      have hfuel' : fuel = (size - 32) / 32 := by omega
      have hnext := ih (p := p + 1) hfuel' (by omega)
      have hstart : 32 * (p + 1) = 32 * p + 32 := by omega
      have hstop : 32 * p + 32 + (size - 32) = 32 * p + size := by omega
      rw [hstart, hstop] at hnext
      refine ⟨hnext.le, fun k hlo hhi => ?_, hnext.clear⟩
      by_cases hk : 32 * p + 32 ≤ k
      · exact hnext.set k hk hhi
      have hsub : 32 * p + (k - 32 * p) = k := by omega
      have hones : addr p = BitVec.allOnes 32 := not_not.mp hword
      rw [← hsub, tableBit_word addr (by omega), hones, BitVec.getLsbD_allOnes]
      exact decide_eq_true (by omega)

/-- **The first clear bit.** -/
theorem rmosFindFirstZeroBit_spec {size : ℕ} (hsize : size < 2 ^ 32) :
    FirstZero addr 0 size (rmosFindFirstZeroBit addr size) := by
  have h := firstZeroLoop_spec (p := 0) addr rfl (by omega : 32 * 0 + size < 2 ^ 32)
  simpa [rmosFindFirstZeroBit] using h

end

section

variable {d d' : NvpvaElfContext} {exeId : U16} {e : ℕ}

def InUse (d : NvpvaElfContext) (e : ℕ) : Prop := e < maxNumVpuExe ∧ tableBit d.alloctable e = true

def inUse (d : NvpvaElfContext) : Finset ℕ :=
  (Finset.range maxNumVpuExe).filter fun e => tableBit d.alloctable e = true

theorem mem_inUse : e ∈ inUse d ↔ InUse d e := by
  rw [inUse, Finset.mem_filter, Finset.mem_range]
  rfl

theorem shiftRight_and_one_ne_zero (w : U32) (n : ℕ) : (w >>> n) &&& 1 ≠ 0 ↔ w.getLsbD n = true := by
  have hone : (1 : U32) = 1#32 := rfl
  rw [hone, BitVec.and_one_eq_setWidth_ofBool_getLsbD, BitVec.getLsbD_ushiftRight, Nat.add_zero]
  cases w.getLsbD n <;> decide

theorem pvaVpuElfIsRegistered_iff : pvaVpuElfIsRegistered d exeId = true ↔ InUse d exeId.toNat := by
  unfold pvaVpuElfIsRegistered
  rw [Bool.and_eq_true, decide_eq_true_iff, decide_eq_true_iff, shiftRight_and_one_ne_zero]
  rfl

theorem rmosTestBit32_iff {w : U32} {n : ℕ} (hn : n < 32) : rmosTestBit32 n w = true ↔ w.getLsbD n = true := by
  unfold rmosTestBit32
  rw [decide_eq_true_iff]
  have hbit (k : ℕ) (hk : k < 32) :
      (w &&& (1 : U32) <<< n).getLsbD k = (w.getLsbD k && decide (k = n)) := by
    rw [BitVec.getLsbD_and, getLsbD_one_shiftLeft hk]
  constructor
  · intro hne
    by_contra hclear
    apply hne
    apply BitVec.eq_of_getLsbD_eq
    intro k hk
    have hzero : (0 : U32) = 0#32 := rfl
    rw [hbit k hk, hzero, BitVec.getLsbD_zero]
    by_cases hkn : k = n
    · rw [hkn, Bool.eq_false_iff.mpr hclear, Bool.false_and]
    · rw [decide_eq_false hkn, Bool.and_false]
  · intro hset hzero
    have hn0 := hbit n hn
    rw [hzero, hset] at hn0
    simp at hn0

/-- The table of images is consistent: the assigned ids are below the allocated images, the
counter counts them, and each assignment is either in use by one id or cleaned. -/
structure TableInv (d : NvpvaElfContext) : Prop where
  aligned : d.numAllocated % alocSegmentSize = 0
  segments : ∀ e < d.numAllocated, d.segment (e / alocSegmentSize) = true
  below : ∀ e, InUse d e → e < d.numAllocated
  count : d.numAssigned = (inUse d).card
  stampLt : ∀ e, InUse d e → d.stamp e < d.loads
  stampInj : ∀ e e', InUse d e → InUse d e' → d.stamp e = d.stamp e' → e = e'
  notCleaned : ∀ e, InUse d e → d.stamp e ∉ d.cleaned
  cleanedNodup : d.cleaned.Nodup
  cleanedLt : ∀ k ∈ d.cleaned, k < d.loads
  assigned : ∀ k < d.loads, k ∈ d.cleaned ∨ ∃ e, InUse d e ∧ d.stamp e = k

theorem getElfImage_eq_some (h : TableInv d) (huse : InUse d exeId.toNat) :
    getElfImage d exeId = some (d.image exeId.toNat) := by
  unfold getElfImage
  rw [h.segments _ (h.below _ huse), pvaVpuElfIsRegistered_iff.mpr huse]
  rfl

theorem getElfImage_eq_none (huse : ¬ InUse d exeId.toNat) : getElfImage d exeId = none := by
  unfold getElfImage
  rw [Bool.eq_false_iff.mpr fun hreg => huse (pvaVpuElfIsRegistered_iff.mp hreg), Bool.and_false]
  rfl

/-- The ids in use, their assignments and their images are the same. -/
structure SameTable (d d' : NvpvaElfContext) : Prop where
  use : ∀ e, InUse d' e ↔ InUse d e
  stamp : d'.stamp = d.stamp
  loads : d'.loads = d.loads
  cleaned : d'.cleaned = d.cleaned
  image : ∀ e, InUse d e → d'.image e = d.image e

theorem TableInv.modify (h : TableInv d) (f : PvaElfImage → PvaElfImage) : TableInv (d.modify exeId f) :=
  ⟨h.aligned, h.segments, h.below, h.count, h.stampLt, h.stampInj, h.notCleaned, h.cleanedNodup,
    h.cleanedLt, h.assigned⟩

theorem TableInv.addSegment (h : TableInv d) : TableInv d.addSegment ∧ SameTable d d.addSegment := by
  have hsegment (e : ℕ) (he : e < d.numAllocated) :
      e / alocSegmentSize ≠ d.numAllocated / alocSegmentSize := by
    have haligned := h.aligned
    unfold alocSegmentSize at haligned ⊢
    omega
  constructor
  · refine ⟨?_, ?_, ?_, h.count, h.stampLt, h.stampInj, h.notCleaned, h.cleanedNodup, h.cleanedLt, h.assigned⟩
    · have haligned := h.aligned
      change (d.numAllocated + alocSegmentSize) % alocSegmentSize = 0
      rw [Nat.add_mod_right]
      exact haligned
    · intro e he
      change update d.segment (d.numAllocated / alocSegmentSize) true _ = true
      by_cases hnew : e / alocSegmentSize = d.numAllocated / alocSegmentSize
      · rw [hnew, update_self]
      rw [update_of_ne hnew]
      apply h.segments
      have haligned := h.aligned
      have hbound : e < d.numAllocated + alocSegmentSize := he
      unfold alocSegmentSize at haligned hnew hbound
      omega
    · intro e he
      exact (h.below e he).trans_le (Nat.le_add_right _ _)
  · refine ⟨fun e => Iff.rfl, rfl, rfl, rfl, fun e he => ?_⟩
    exact if_neg (hsegment e (h.below e he))

structure Assigned (d d' : NvpvaElfContext) (exeId : U16) : Prop where
  free : ¬ InUse d exeId.toNat
  use : ∀ e, InUse d' e ↔ InUse d e ∨ e = exeId.toNat
  stamp : d'.stamp = update d.stamp exeId.toNat d.loads
  loads : d'.loads = d.loads + 1
  cleaned : d'.cleaned = d.cleaned
  image : ∀ e, InUse d e → d'.image e = d.image e

theorem Assigned.inUse_eq (ha : Assigned d d' exeId) : inUse d' = insert exeId.toNat (inUse d) := by
  ext e
  rw [Finset.mem_insert, mem_inUse, mem_inUse, ha.use, or_comm]

theorem TableInv.assigned_id (h : TableInv d) (ha : Assigned d d' exeId)
    (hsegment : d'.segment = d.segment) (hallocated : d'.numAllocated = d.numAllocated)
    (hcount : d'.numAssigned = d.numAssigned + 1) (hlt : exeId.toNat < d.numAllocated) : TableInv d' := by
  have hstamp : d'.stamp exeId.toNat = d.loads := by
    rw [ha.stamp, update_self]
  have hother {e : ℕ} (he : InUse d e) : d'.stamp e = d.stamp e := by
    rw [ha.stamp, update_of_ne]
    rintro rfl
    exact ha.free he
  refine ⟨?_, ?_, ?_, ?_, ?_, ?_, ?_, ?_, ?_, ?_⟩
  · rw [hallocated]
    exact h.aligned
  · rw [hallocated, hsegment]
    exact h.segments
  · intro e he
    rw [hallocated]
    rcases (ha.use e).mp he with hold | rfl
    · exact h.below e hold
    · exact hlt
  · rw [ha.inUse_eq, Finset.card_insert_of_notMem fun hin => ha.free (mem_inUse.mp hin), hcount, h.count]
  · intro e he
    rw [ha.loads]
    rcases (ha.use e).mp he with hold | rfl
    · rw [hother hold]
      exact (h.stampLt e hold).trans (Nat.lt_succ_self _)
    · rw [hstamp]
      exact Nat.lt_succ_self _
  · intro e e' he he' heq
    rcases (ha.use e).mp he with hold | rfl <;> rcases (ha.use e').mp he' with hold' | rfl
    · rw [hother hold, hother hold'] at heq
      exact h.stampInj e e' hold hold' heq
    · rw [hother hold, hstamp] at heq
      exact absurd heq (h.stampLt e hold).ne
    · rw [hstamp, hother hold'] at heq
      exact absurd heq.symm (h.stampLt e' hold').ne
    · rfl
  · intro e he
    rw [ha.cleaned]
    rcases (ha.use e).mp he with hold | rfl
    · rw [hother hold]
      exact h.notCleaned e hold
    · rw [hstamp]
      intro hin
      exact lt_irrefl _ (h.cleanedLt _ hin)
  · rw [ha.cleaned]
    exact h.cleanedNodup
  · intro k hk
    rw [ha.cleaned] at hk
    rw [ha.loads]
    exact (h.cleanedLt k hk).trans (Nat.lt_succ_self _)
  · intro k hk
    rw [ha.loads] at hk
    rw [ha.cleaned]
    rcases Nat.lt_succ_iff_lt_or_eq.mp hk with hlt | rfl
    · rcases h.assigned k hlt with hin | ⟨e, he, heq⟩
      · exact Or.inl hin
      · exact Or.inr ⟨e, (ha.use e).mpr (Or.inl he), (hother he).trans heq⟩
    · exact Or.inr ⟨exeId.toNat, (ha.use _).mpr (Or.inr rfl), hstamp⟩

theorem inUse_setBit {index : ℕ} (hlt : index < maxNumVpuExe)
    (htable : d'.alloctable = updateWord d.alloctable index rmosSetBit32) (e : ℕ) :
    InUse d' e ↔ InUse d e ∨ e = index := by
  have hset := tableBit_set (by decide : 0 < 32) d.alloctable e index
  unfold InUse
  rw [htable]
  unfold rmosSetBit32
  rw [hset, Bool.or_eq_true, decide_eq_true_iff]
  constructor
  · rintro ⟨hbound, hbit | rfl⟩
    · exact Or.inl ⟨hbound, hbit⟩
    · exact Or.inr rfl
  · rintro (⟨hbound, hbit⟩ | rfl)
    · exact ⟨hbound, Or.inl hbit⟩
    · exact ⟨hlt, Or.inr rfl⟩

theorem inUse_clearBit (htable : d'.alloctable = updateWord d.alloctable exeId.toNat rmosClearBit32)
    (e : ℕ) : InUse d' e ↔ InUse d e ∧ e ≠ exeId.toNat := by
  have hclear := tableBit_clear (by decide : 0 < 32) d.alloctable e exeId.toNat
  unfold InUse
  rw [htable]
  unfold rmosClearBit32
  rw [hclear, Bool.and_eq_true, decide_eq_true_iff, and_assoc]

/-- An id is free, and its image is there: the least free id is at most the number of ids
in use. -/
theorem TableInv.assignAppId (h : TableInv d) (hroom : d.numAssigned < d.numAllocated)
    {isSystemApp : Bool} {r : Except ℤ U16} (hrun : assignAppId d isSystemApp = (r, d')) :
    (∃ code, r = .error code ∧ d' = d) ∨ ∃ exeId, r = .ok exeId ∧ TableInv d' ∧ Assigned d d' exeId := by
  have hfirst := rmosFindFirstZeroBit_spec d.alloctable (by decide : maxNumVpuExe < 2 ^ 32)
  unfold Program.assignAppId at hrun
  generalize rmosFindFirstZeroBit d.alloctable maxNumVpuExe = index at hfirst hrun
  dsimp only at hrun
  split at hrun
  case isTrue hfull =>
    cases hrun
    exact Or.inl ⟨_, rfl, rfl⟩
  case isFalse hfull =>
    cases hrun
    have hlt : index < maxNumVpuExe := lt_of_le_of_ne hfirst.le hfull
    have hmax : maxNumVpuExe = 65535 := rfl
    have hindex : (BitVec.ofNat 16 index).toNat = index := by
      rw [BitVec.toNat_ofNat]
      omega
    have hclear := hfirst.clear hlt
    -- the ids below it are all in use
    have hsub : Finset.range index ⊆ inUse d := by
      intro k hk
      have hki := Finset.mem_range.mp hk
      exact mem_inUse.mpr ⟨hki.trans hlt, hfirst.set k (Nat.zero_le k) hki⟩
    have hle := Finset.card_le_card hsub
    rw [Finset.card_range, ← h.count] at hle
    refine Or.inr ⟨BitVec.ofNat 16 index, rfl, ?_⟩
    refine (fun ha => ⟨h.assigned_id ha rfl rfl rfl ?_, ha⟩) ⟨?_, ?_, rfl, rfl, rfl, ?_⟩
    · rw [hindex]
      exact hle.trans_lt hroom
    · rw [hindex]
      rintro ⟨-, hset⟩
      rw [hset] at hclear
      cases hclear
    · rw [hindex]
      apply inUse_setBit hlt
      change updateWord d.alloctable (BitVec.ofNat 16 index).toNat rmosSetBit32 = _
      rw [hindex]
    · intro e he
      refine update_of_ne ?_ _ _
      rintro rfl
      rw [hindex] at he
      rw [he.2] at hclear
      cases hclear

theorem Assigned.of_same {d1 : NvpvaElfContext} (hsame : SameTable d d1)
    (ha : Assigned d1 d' exeId) : Assigned d d' exeId := by
  refine ⟨fun huse => ha.free ((hsame.use _).mpr huse), fun e => ?_, ?_, ?_, ?_, fun e he => ?_⟩
  · rw [ha.use, hsame.use]
  · rw [ha.stamp, hsame.stamp, hsame.loads]
  · rw [ha.loads, hsame.loads]
  · rw [ha.cleaned, hsame.cleaned]
  · rw [ha.image e ((hsame.use e).mpr he), hsame.image e he]

theorem SameTable.refl (d : NvpvaElfContext) : SameTable d d :=
  ⟨fun _ => Iff.rfl, rfl, rfl, rfl, fun _ _ => rfl⟩

/-- **Assigning an id** fails without a change of the table, or takes a free id. -/
theorem TableInv.getVpuAppId (h : TableInv d) {kzallocOk isSystemApp : Bool} {r : Except ℤ U16}
    (hrun : pvaGetVpuAppId d kzallocOk isSystemApp = (r, d')) :
    (∃ code, r = .error code ∧ TableInv d' ∧ SameTable d d') ∨
    ∃ exeId, r = .ok exeId ∧ TableInv d' ∧ Assigned d d' exeId := by
  unfold pvaGetVpuAppId at hrun
  split at hrun
  case isTrue =>
    cases hrun
    exact Or.inl ⟨_, rfl, h, .refl d⟩
  case isFalse =>
    split at hrun
    case isTrue hfull =>
      split at hrun
      case isTrue =>
        obtain ⟨hgrown, hsame⟩ := h.addSegment
        have hroom : d.addSegment.numAssigned < d.addSegment.numAllocated := by
          have hbelow : d.numAssigned ≤ d.numAllocated := by
            rw [h.count, ← Finset.card_range d.numAllocated]
            refine Finset.card_le_card fun e he => ?_
            exact Finset.mem_range.mpr (h.below e (mem_inUse.mp he))
          exact hbelow.trans_lt (Nat.lt_add_of_pos_right (by decide))
        rcases hgrown.assignAppId hroom hrun with ⟨code, hcode, rfl⟩ | ⟨exeId, hok, htable, ha⟩
        · exact Or.inl ⟨code, hcode, hgrown, hsame⟩
        · exact Or.inr ⟨exeId, hok, htable, ha.of_same hsame⟩
      case isFalse =>
        cases hrun
        exact Or.inl ⟨_, rfl, h, .refl d⟩
    case isFalse hroom =>
      rcases h.assignAppId (not_le.mp hroom) hrun with ⟨code, hcode, rfl⟩ | ⟨exeId, hok, htable, ha⟩
      · exact Or.inl ⟨code, hcode, h, .refl d'⟩
      · exact Or.inr ⟨exeId, hok, htable, ha⟩

structure Unloaded (d d' : NvpvaElfContext) (exeId : U16) : Prop where
  use : ∀ e, InUse d' e ↔ InUse d e ∧ e ≠ exeId.toNat
  stamp : d'.stamp = d.stamp
  loads : d'.loads = d.loads
  cleaned : d'.cleaned = d.stamp exeId.toNat :: d.cleaned
  image : ∀ e ≠ exeId.toNat, d'.image e = d.image e

theorem Unloaded.inUse_eq (hu : Unloaded d d' exeId) : inUse d' = (inUse d).erase exeId.toNat := by
  ext e
  rw [Finset.mem_erase, mem_inUse, mem_inUse, hu.use, and_comm]

theorem TableInv.unloaded (h : TableInv d) (huse : InUse d exeId.toNat) (hu : Unloaded d d' exeId)
    (hsegment : d'.segment = d.segment) (hallocated : d'.numAllocated = d.numAllocated)
    (hcount : d'.numAssigned = d.numAssigned - 1) : TableInv d' := by
  refine ⟨?_, ?_, ?_, ?_, ?_, ?_, ?_, ?_, ?_, ?_⟩
  · rw [hallocated]
    exact h.aligned
  · rw [hallocated, hsegment]
    exact h.segments
  · intro e he
    rw [hallocated]
    exact h.below e ((hu.use e).mp he).1
  · rw [hu.inUse_eq, Finset.card_erase_of_mem (mem_inUse.mpr huse), hcount, h.count]
  · intro e he
    rw [hu.stamp, hu.loads]
    exact h.stampLt e ((hu.use e).mp he).1
  · intro e e' he he' heq
    rw [hu.stamp] at heq
    exact h.stampInj e e' ((hu.use e).mp he).1 ((hu.use e').mp he').1 heq
  · intro e he
    obtain ⟨hold, hne⟩ := (hu.use e).mp he
    rw [hu.stamp, hu.cleaned, List.mem_cons, not_or]
    exact ⟨fun heq => hne (h.stampInj e _ hold huse heq), h.notCleaned e hold⟩
  · rw [hu.cleaned]
    exact List.nodup_cons.mpr ⟨h.notCleaned _ huse, h.cleanedNodup⟩
  · intro k hk
    rw [hu.cleaned] at hk
    rw [hu.loads]
    rcases List.mem_cons.mp hk with rfl | hold
    · exact h.stampLt _ huse
    · exact h.cleanedLt k hold
  · intro k hk
    rw [hu.loads] at hk
    rw [hu.cleaned]
    rcases h.assigned k hk with hin | ⟨e, he, heq⟩
    · exact Or.inl (List.mem_cons_of_mem _ hin)
    by_cases hne : e = exeId.toNat
    · left
      rw [← heq, hne]
      exact List.mem_cons_self
    · refine Or.inr ⟨e, (hu.use e).mpr ⟨he, hne⟩, ?_⟩
      rw [hu.stamp]
      exact heq

/-- **Unloading an id in use.** -/
theorem TableInv.unloadVpuApp (h : TableInv d) (huse : InUse d exeId.toNat) :
    TableInv (pvaUnloadVpuApp d exeId).2 ∧ Unloaded d (pvaUnloadVpuApp d exeId).2 exeId := by
  have htest : rmosTestBit32 (exeId.toNat % 32) (d.alloctable (exeId.toNat / 32)) = true :=
    (rmosTestBit32_iff (Nat.mod_lt _ (by decide))).mpr huse.2
  have hrun : (pvaUnloadVpuApp d exeId).2 =
      { (vpuBinClean d exeId).setTable exeId rmosClearBit32 with
        numAssigned := ((vpuBinClean d exeId).setTable exeId rmosClearBit32).numAssigned - 1 } := by
    unfold pvaUnloadVpuApp
    rw [if_neg (not_le.mpr huse.1), htest]
    rfl
  have hclean : vpuBinClean d exeId = { d.modify exeId fun _ => default with
      cleaned := d.stamp exeId.toNat :: d.cleaned } := by
    unfold vpuBinClean
    rw [getElfImage_eq_some h huse]
  rw [hrun, hclean]
  refine (fun hu => ⟨h.unloaded huse hu rfl rfl rfl, hu⟩) ⟨?_, rfl, rfl, rfl, ?_⟩
  · exact inUse_clearBit rfl
  · intro e he
    exact update_of_ne he _ _

end

end NvidiaOot.Analysis
