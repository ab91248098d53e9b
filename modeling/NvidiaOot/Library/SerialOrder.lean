import Mathlib.Data.BitVec
import Mathlib.Tactic.Ring

/-!
# The order of counts on a wrapping counter

A counter of `w + 1` bits that is only incremented shows the count of its increments
modulo `2 ^ (w + 1)`.  Two counts that are less than `2 ^ w` apart are ordered by the sign
of the difference of their words: `reached value threshold` is the comparison `value` has
not less than `threshold`, and `notAfter` is the one with the signed cast.

An insertion by such a comparison, which is no order, still keeps a list sorted where it
agrees with the order of the counts on the elements at hand (`pairwise_orderedInsert`).
-/

namespace NvidiaOot.Library

variable {w : ℕ}

/-! ## Comparing words -/

/-- The value is at or past the threshold. -/
def reached (value threshold : BitVec (w + 1)) : Prop := (value - threshold).msb = false

instance (value threshold : BitVec (w + 1)) : Decidable (reached value threshold) :=
  inferInstanceAs (Decidable (_ = _))

/-- The signed difference is not positive. -/
def notAfter (a b : BitVec (w + 1)) : Prop := (a - b).toInt ≤ 0

instance (a b : BitVec (w + 1)) : Decidable (notAfter a b) :=
  inferInstanceAs (Decidable (_ ≤ _))

/-- The word of a count. -/
abbrev word (w n : ℕ) : BitVec (w + 1) := BitVec.ofNat (w + 1) n

theorem word_sub_of_le {a b : ℕ} (h : b ≤ a) : word w a - word w b = word w (a - b) := by
  apply BitVec.eq_of_toNat_eq
  have hsplit : a = b + (a - b) := by omega
  rw [hsplit, word, word, word, BitVec.ofNat_add, BitVec.add_comm, BitVec.add_sub_cancel]
  simp

theorem msb_word_of_lt {n : ℕ} (h : n < 2 ^ w) : (word w n).msb = false := by
  rw [BitVec.msb_eq_false_iff_two_mul_lt, BitVec.toNat_ofNat,
    Nat.mod_eq_of_lt (by rw [pow_succ]; omega), pow_succ]
  omega

/-- A count at or past the threshold is seen to be so when it is less than half a turn past
it. -/
theorem reached_of_le {a b : ℕ} (h : b ≤ a) (hnear : a < b + 2 ^ w) : reached (word w a) (word w b) := by
  rw [reached, word_sub_of_le h]
  exact msb_word_of_lt (by omega)

/-- A count before the threshold is seen to be so when it is at most half a turn before
it. -/
theorem not_reached_of_lt {a b : ℕ} (h : a < b) (hnear : b ≤ a + 2 ^ w) : ¬ reached (word w a) (word w b) := by
  have hneg : word w a - word w b = - word w (b - a) := by
    rw [← word_sub_of_le h.le, BitVec.neg_sub, BitVec.add_comm, ← BitVec.sub_eq_add_neg]
  have hsmall : (b - a) % 2 ^ (w + 1) = b - a := Nat.mod_eq_of_lt (by rw [pow_succ]; omega)
  have hbig : (2 ^ (w + 1) - (b - a)) % 2 ^ (w + 1) = 2 ^ (w + 1) - (b - a) :=
    Nat.mod_eq_of_lt (by rw [pow_succ]; omega)
  rw [reached, hneg, Bool.not_eq_false, BitVec.msb_eq_true_iff_two_mul_ge, BitVec.toNat_neg,
    BitVec.toNat_ofNat, hsmall, hbig, pow_succ]
  omega

/-- The order of thresholds by the signed cast is exact within half a turn. -/
theorem notAfter_word_iff {a b : ℕ} (hab : a < b + 2 ^ w) (hba : b ≤ a + 2 ^ w) :
    notAfter (word w a) (word w b) ↔ a ≤ b := by
  unfold notAfter
  constructor
  · intro h
    by_contra hlt
    have hlt : b < a := not_le.mp hlt
    have hmsb : (word w (a - b)).msb = false := msb_word_of_lt (by omega)
    rw [word_sub_of_le hlt.le, BitVec.toInt_eq_toNat_of_msb hmsb, BitVec.toNat_ofNat,
      Nat.mod_eq_of_lt (by rw [pow_succ]; omega)] at h
    omega
  · intro h
    rcases h.eq_or_lt with rfl | hlt
    · simp
    · have hmsb : (word w a - word w b).msb = true :=
        Bool.not_eq_false _ ▸ not_reached_of_lt hlt hba
      exact (BitVec.toInt_neg_of_msb_true hmsb).le

/-! ## Lists in the order of a key -/

section

variable {α : Type} {before : α → α → Prop} [DecidableRel before] {a : α} {l : List α}

/-- Insertion only asks for comparisons with the elements of the list. -/
theorem orderedInsert_congr {r : α → α → Prop} [DecidableRel r]
    (h : ∀ b ∈ l, before a b ↔ r a b) : l.orderedInsert before a = l.orderedInsert r a := by
  induction l with
  | nil => rfl
  | cons b l ih =>
    simp only [List.orderedInsert_cons, h b List.mem_cons_self, ih fun c hc => h c (List.mem_cons_of_mem b hc)]

/-- A list that descends in a key still does, when the comparison agrees with the key. -/
theorem pairwise_orderedInsert (key : α → ℕ) (hexact : ∀ b ∈ l, before a b ↔ key b ≤ key a)
    (hsorted : l.Pairwise fun x y => key y ≤ key x) :
    (l.orderedInsert before a).Pairwise fun x y => key y ≤ key x := by
  rw [orderedInsert_congr (r := fun x y => key y ≤ key x) hexact]
  exact hsorted.orderedInsert a l

/-- What is left of an ascending list after dropping the elements up to a bound. -/
theorem lt_key_of_mem_dropWhile (key : α → ℕ) {p : α → Bool} {bound : ℕ}
    (hexact : ∀ b ∈ l, p b = true ↔ key b ≤ bound) (hsorted : l.Pairwise fun x y => key x ≤ key y) :
    ∀ b ∈ l.dropWhile p, bound < key b := by
  induction l with
  | nil => simp
  | cons c l ih =>
    obtain ⟨hfirst, hrest⟩ := List.pairwise_cons.mp hsorted
    by_cases hc : p c = true
    · rw [List.dropWhile_cons_of_pos hc]
      exact ih (fun b hb => hexact b (List.mem_cons_of_mem c hb)) hrest
    have hbound : bound < key c :=
      not_le.mp fun hle => hc ((hexact c List.mem_cons_self).mpr hle)
    rw [List.dropWhile_cons_of_neg hc]
    intro b hb
    rcases List.mem_cons.mp hb with rfl | hmem
    · exact hbound
    · exact hbound.trans_le (hfirst b hmem)

end

end NvidiaOot.Library
