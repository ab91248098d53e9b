import NvidiaOot.Library.ByteArea

/-!
# Words in byte areas

Four bytes of an area, the low one first, are a word of 32 bits.
-/

namespace NvidiaOot.Library

/-- The word of the four bytes from `off` on. -/
def getWord (m : ℕ → BitVec 8) (off : ℕ) : BitVec 32 :=
  m (off + 3) ++ m (off + 2) ++ m (off + 1) ++ m (off + 0)

/-- The area with a word in the four bytes from `off` on. -/
def putWord (m : ℕ → BitVec 8) (off : ℕ) (w : BitVec 32) : ℕ → BitVec 8 :=
  blit m off 4 fun j => w.extractLsb' (8 * j) 8

theorem putWord_apply (m : ℕ → BitVec 8) (off : ℕ) (w : BitVec 32) {j : ℕ} (hj : j < 4) :
    putWord m off w (off + j) = w.extractLsb' (8 * j) 8 := by
  unfold putWord blit
  rw [if_pos (by omega), Nat.add_sub_cancel_left]

/-- Areas with the same four bytes have the same word there. -/
theorem getWord_congr {m m' : ℕ → BitVec 8} {off off' : ℕ} (h : ∀ j < 4, m (off + j) = m' (off' + j)) :
    getWord m off = getWord m' off' := by
  unfold getWord
  rw [h 0 (by decide), h 1 (by decide), h 2 (by decide), h 3 (by decide)]

@[simp] theorem getWord_putWord (m : ℕ → BitVec 8) (off : ℕ) (w : BitVec 32) :
    getWord (putWord m off w) off = w := by
  unfold getWord
  simp only [putWord_apply m off w (by decide : 0 < 4), putWord_apply m off w (by decide : 1 < 4),
    putWord_apply m off w (by decide : 2 < 4), putWord_apply m off w (by decide : 3 < 4)]
  apply BitVec.eq_of_getLsbD_eq
  intro i hi
  simp only [BitVec.getLsbD_append, BitVec.getLsbD_extractLsb']
  split
  · simp [*]
  split
  · rw [decide_eq_true ‹_›, Bool.true_and]
    congr 1
    omega
  split
  · rw [decide_eq_true ‹_›, Bool.true_and]
    congr 1
    omega
  · rw [decide_eq_true (by omega), Bool.true_and]
    congr 1
    omega

theorem extract_getWord (m : ℕ → BitVec 8) (off : ℕ) {j : ℕ} (hj : j < 4) :
    (getWord m off).extractLsb' (8 * j) 8 = m (off + j) := by
  apply BitVec.eq_of_getLsbD_eq
  intro i hi
  unfold getWord
  simp only [BitVec.getLsbD_append, BitVec.getLsbD_extractLsb', hi, decide_true, Bool.true_and]
  match j, hj with
  | 0, _ =>
    rw [if_pos (by omega)]
    congr 1
    omega
  | 1, _ =>
    rw [if_neg (by omega), if_pos (by omega)]
    congr 1
    omega
  | 2, _ =>
    rw [if_neg (by omega), if_neg (by omega), if_pos (by omega)]
    congr 1
    omega
  | 3, _ =>
    rw [if_neg (by omega), if_neg (by omega), if_neg (by omega)]
    congr 1
    omega

/-- To put the word that is there changes nothing. -/
theorem putWord_getWord (m : ℕ → BitVec 8) (off : ℕ) : putWord m off (getWord m off) = m := by
  funext i
  by_cases h : off ≤ i ∧ i < off + 4
  · obtain ⟨j, rfl⟩ := Nat.exists_eq_add_of_le h.1
    rw [putWord_apply m off _ (by omega), extract_getWord m off (by omega)]
  · unfold putWord blit
    rw [if_neg h]

/-- A word that is put into a part of a range changes nothing outside the range. -/
theorem AgreeOutside.putWord {m m' : ℕ → BitVec 8} {off len : ℕ} (h : AgreeOutside m m' off len) {o : ℕ}
    (ho : off ≤ o) (hc : o + 4 ≤ off + len) (w : BitVec 32) : AgreeOutside m (Library.putWord m' o w) off len :=
  h.blit ho hc _

theorem putWord_eq_self_iff {m : ℕ → BitVec 8} {off : ℕ} {w : BitVec 32} :
    putWord m off w = m ↔ getWord m off = w := by
  constructor
  · intro h
    rw [← h, getWord_putWord]
  · rintro rfl
    apply putWord_getWord

theorem getWord_blit {m : ℕ → BitVec 8} {off o : ℕ} (h : off + 4 ≤ o) (c : ℕ) (src : ℕ → BitVec 8) :
    getWord (blit m o c src) off = getWord m off := by
  have hout : ∀ j < 4, blit m o c src (off + j) = m (off + j) := by
    intro j hj
    unfold blit
    rw [if_neg (by omega)]
  unfold getWord
  rw [hout 0 (by omega), hout 1 (by omega), hout 2 (by omega), hout 3 (by omega)]

/-- Bytes behind a word are left alone when it is put. -/
theorem slice_putWord {m : ℕ → BitVec 8} {off o : ℕ} (h : off + 4 ≤ o) (c : ℕ) (w : BitVec 32) :
    slice (putWord m off w) o c = slice m o c := by
  have hagree := (AgreeOutside.refl m off 4).blit (Nat.le_refl _) (Nat.le_refl _) fun j => w.extractLsb' (8 * j) 8
  exact hagree.slice_eq (Or.inr h)

end NvidiaOot.Library
