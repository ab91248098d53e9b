import Mathlib.Data.BitVec
import Mathlib.Tactic.Linarith

/-!
# Words made of bit fields

`pack` puts values side by side with `|||`, the first at the low end and each shifted by
the widths of the fields before it; `unpack` reads the fields back.  Nothing in `pack` cuts
a value to its field: one that is too wide spills into its neighbours.  Reading back gives
the values that were put in exactly when each of them fits.
-/

namespace NvidiaOot.Library

/-- Values with the widths of their fields, low field first. -/
def pack : List (ℕ × ℕ) → ℕ
  | [] => 0
  | (v, w) :: fs => v ||| (pack fs <<< w)

/-- The fields of the given widths, low field first. -/
def unpack : List ℕ → ℕ → List ℕ
  | [], _ => []
  | w :: ws, n => n % 2 ^ w :: unpack ws (n >>> w)

theorem pack_cons (v w : ℕ) (fs : List (ℕ × ℕ)) : pack ((v, w) :: fs) = v ||| (pack fs <<< w) := rfl

theorem unpack_cons (w n : ℕ) (ws : List ℕ) : unpack (w :: ws) n = n % 2 ^ w :: unpack ws (n >>> w) := rfl

theorem unpack_mod (ws : List ℕ) (n : ℕ) : unpack ws (n % 2 ^ ws.sum) = unpack ws n := by
  induction ws generalizing n with
  | nil => rfl
  | cons w ws ih =>
    have hlow : n % 2 ^ (w + ws.sum) % 2 ^ w = n % 2 ^ w :=
      Nat.mod_mod_of_dvd n (Nat.pow_dvd_pow 2 (Nat.le_add_right w ws.sum))
    have hhigh : (n % 2 ^ (w + ws.sum)) >>> w = (n >>> w) % 2 ^ ws.sum := by
      rw [Nat.shiftRight_eq_div_pow, Nat.shiftRight_eq_div_pow, Nat.pow_add, Nat.mod_mul_right_div_self]
    rw [unpack_cons, unpack_cons, List.sum_cons, hlow, hhigh, ih]

/-- A value that fits is read back from under the fields above it. -/
theorem or_shiftLeft_mod {v w : ℕ} (hv : v < 2 ^ w) (n : ℕ) : (v ||| n <<< w) % 2 ^ w = v := by
  rw [Nat.or_comm, ← Nat.shiftLeft_add_eq_or_of_lt hv, Nat.shiftLeft_eq, Nat.add_mod,
    Nat.mul_mod_left, Nat.zero_add, Nat.mod_mod, Nat.mod_eq_of_lt hv]

/-- A value that fits does not disturb the fields above it. -/
theorem or_shiftLeft_shiftRight {v w : ℕ} (hv : v < 2 ^ w) (n : ℕ) : (v ||| n <<< w) >>> w = n := by
  rw [Nat.shiftRight_or_distrib, Nat.shiftLeft_shiftRight, Nat.shiftRight_eq_div_pow,
    Nat.div_eq_of_lt hv, Nat.zero_or]

/-- **Reading back gives the values that were put in exactly when each fits its field.** -/
theorem unpack_pack_iff (fs : List (ℕ × ℕ)) :
    unpack (fs.map Prod.snd) (pack fs) = fs.map Prod.fst ↔ ∀ f ∈ fs, f.1 < 2 ^ f.2 := by
  induction fs with
  | nil => simp [unpack]
  | cons f fs ih =>
    obtain ⟨v, w⟩ := f
    rw [List.map_cons, List.map_cons, unpack_cons, pack_cons, List.forall_mem_cons, List.cons.injEq]
    constructor
    · rintro ⟨hhead, htail⟩
      have hv : v < 2 ^ w := by
        dsimp only at hhead
        rw [← hhead]
        exact Nat.mod_lt _ (Nat.two_pow_pos w)
      rw [or_shiftLeft_shiftRight hv] at htail
      exact ⟨hv, ih.mp htail⟩
    · rintro ⟨hv, hrest⟩
      rw [or_shiftLeft_mod hv, or_shiftLeft_shiftRight hv]
      exact ⟨rfl, ih.mpr hrest⟩

/-- A word as wide as its fields together is read back like the unbounded one. -/
theorem unpack_word_iff {fs : List (ℕ × ℕ)} {n : ℕ} (hn : n = pack fs % 2 ^ (fs.map Prod.snd).sum) :
    unpack (fs.map Prod.snd) n = fs.map Prod.fst ↔ ∀ f ∈ fs, f.1 < 2 ^ f.2 := by
  rw [hn, unpack_mod]
  exact unpack_pack_iff fs

/-! ## Masks -/

theorem toNat_and_low {w k : ℕ} (y : BitVec w) {m : BitVec w} (hm : m.toNat = 2 ^ k - 1) :
    (y &&& m).toNat = y.toNat % 2 ^ k := by
  rw [BitVec.toNat_and, hm, Nat.and_two_pow_sub_one_eq_mod]

theorem and_low_eq_zero_iff {w k : ℕ} (y : BitVec w) {m : BitVec w} (hm : m.toNat = 2 ^ k - 1) :
    y &&& m = 0 ↔ y.toNat % 2 ^ k = 0 := by
  rw [← BitVec.toNat_inj, toNat_and_low y hm]
  simp

theorem toNat_and_not {w k : ℕ} (y : BitVec w) {m : BitVec w}
    (hm : m.toNat = 2 ^ k - 1) : (y &&& ~~~m).toNat = y.toNat / 2 ^ k * 2 ^ k := by
  have hnot : 2 ^ w - 1 - (2 ^ k - 1) = 2 ^ w - (2 ^ k - 1 + 1) := by omega
  have hlt : 2 ^ k - 1 < 2 ^ w := hm ▸ m.isLt
  apply Nat.eq_of_testBit_eq
  intro i
  rw [BitVec.toNat_and, BitVec.toNat_not, hm, hnot, Nat.testBit_and,
    Nat.testBit_two_pow_sub_succ hlt, Nat.testBit_two_pow_sub_one, Nat.testBit_mul_two_pow, Nat.testBit_div_two_pow]
  by_cases hi : k ≤ i
  · rw [Nat.sub_add_cancel hi]
    by_cases hi' : i < w
    · simp [hi, hi']
    · rw [Nat.testBit_lt_two_pow (y.isLt.trans_le (Nat.pow_le_pow_right (by decide) (by omega)))]
      simp
  · simp [hi]
    omega

theorem toNat_lt_of_and_not {w k : ℕ} {y m : BitVec w} (hm : m.toNat = 2 ^ k - 1)
    (h : y &&& ~~~m = 0) : y.toNat < 2 ^ k := by
  have hzero : y.toNat / 2 ^ k * 2 ^ k = 0 := by
    rw [← toNat_and_not y hm, h]
    rfl
  have hpos : 0 < 2 ^ k := Nat.two_pow_pos k
  apply Nat.lt_of_div_eq_zero hpos
  rcases Nat.mul_eq_zero.mp hzero with hquot | hpow
  · exact hquot
  · omega

/-- A two's complement field of `v + 1` bits keeps exactly the numbers of its range. -/
theorem toInt_setWidth_eq_iff {u v : ℕ} (x : BitVec u) (hvu : v + 1 ≤ u) :
    (x.setWidth (v + 1)).toInt = x.toInt ↔ -2 ^ v ≤ x.toInt ∧ x.toInt < 2 ^ v := by
  have hcut : (x.setWidth (v + 1)).toInt = x.toInt.bmod (2 ^ (v + 1)) := by
    rw [← BitVec.signExtend_eq_setWidth_of_le x hvu, BitVec.toInt_signExtend_eq_toInt_bmod_of_le x hvu]
  rw [hcut]
  constructor
  · intro hkeep
    have hlow := BitVec.le_two_mul_toInt (x := x.setWidth (v + 1))
    have hhigh := BitVec.two_mul_toInt_lt (x := x.setWidth (v + 1))
    rw [hcut, hkeep, pow_succ] at hlow hhigh
    constructor <;> linarith
  · rintro ⟨hlow, hhigh⟩
    apply Int.bmod_eq_of_le_mul_two
    · push_cast
      rw [pow_succ]
      linarith
    · push_cast
      rw [pow_succ]
      linarith

/-- A number that a field of `v + 1` bits can hold is read back from it. -/
theorem signExtend_setWidth_of_range {u v : ℕ} {x : BitVec u} (hvu : v + 1 ≤ u) (hlow : -2 ^ v ≤ x.toInt)
    (hhigh : x.toInt < 2 ^ v) : (x.setWidth (v + 1)).signExtend u = x := by
  apply BitVec.eq_of_toInt_eq
  rw [BitVec.toInt_signExtend_of_le hvu]
  exact (toInt_setWidth_eq_iff x hvu).mpr ⟨hlow, hhigh⟩

theorem xor_eq_add_of_and_eq_zero {w : ℕ} {x t : BitVec w} (h : x &&& t = 0) : x ^^^ t = x + t := by
  rw [BitVec.add_eq_or_of_and_eq_zero _ _ h]
  ext i hi
  have hbit := congrArg (fun y : BitVec w => y[i]) h
  simp only [BitVec.getElem_and, BitVec.ofNat_eq_ofNat, BitVec.getElem_zero, Bool.and_eq_false_iff] at hbit
  rcases hbit with hbit | hbit <;> simp [hbit]

theorem xor_eq_sub_of_and_eq {w : ℕ} {x t : BitVec w} (h : x &&& t = t) : x ^^^ t = x - t := by
  have hout : (x ^^^ t) &&& t = 0 := by
    ext i hi
    have hbit := congrArg (fun y : BitVec w => y[i]) h
    simp only [BitVec.getElem_and] at hbit
    cases hx : x[i] <;> simp_all
  rw [BitVec.eq_sub_iff_add_eq, ← xor_eq_add_of_and_eq_zero hout, BitVec.xor_assoc, BitVec.xor_self, BitVec.xor_zero]

section

variable {u v : ℕ} (hvu : v + 1 < u) (x : BitVec (v + 1))

include hvu in
theorem setWidth_and_twoPow_ne_zero_iff : x.setWidth u &&& BitVec.twoPow u v ≠ 0 ↔ x.msb = true := by
  have hbit : (x.setWidth u).getLsbD v = x.msb := by
    rw [BitVec.getLsbD_setWidth, BitVec.msb_eq_getLsbD_last, decide_eq_true (by omega), Bool.true_and]
    rfl
  rw [BitVec.and_twoPow, hbit]
  cases x.msb
  · simp
  · simp [← BitVec.toNat_inj, BitVec.toNat_twoPow, Nat.mod_eq_of_lt (Nat.pow_lt_pow_right one_lt_two (by omega : v < u))]

include hvu in
/-- Sign extension by a test of the sign bit. -/
theorem signExtend_eq_ite : x.signExtend u = if x.setWidth u &&& BitVec.twoPow u v ≠ 0
    then x.setWidth u - BitVec.twoPow u (v + 1) else x.setWidth u := by
  by_cases hx : x.msb = true
  · rw [if_pos ((setWidth_and_twoPow_ne_zero_iff hvu x).mpr hx)]
    have hpow : 2 ^ (v + 1) < 2 ^ u := Nat.pow_lt_pow_right (by decide) hvu
    apply BitVec.eq_of_toNat_eq
    rw [BitVec.toNat_signExtend, if_pos hx, BitVec.toNat_sub, BitVec.toNat_twoPow, Nat.mod_eq_of_lt hpow,
      BitVec.toNat_setWidth_of_le hvu.le, Nat.mod_eq_of_lt (by omega), Nat.add_comm]
  · rw [if_neg (mt (setWidth_and_twoPow_ne_zero_iff hvu x).mp hx),
      BitVec.signExtend_eq_setWidth_of_msb_false (by simpa using hx)]

theorem twoPow_add_twoPow : BitVec.twoPow u v + BitVec.twoPow u v = BitVec.twoPow u (v + 1) := by
  apply BitVec.eq_of_toNat_eq
  rw [BitVec.toNat_add, BitVec.toNat_twoPow, BitVec.toNat_twoPow, ← Nat.add_mod, pow_succ, Nat.mul_two]

include hvu in
/-- Sign extension by an exclusive or. -/
theorem signExtend_eq_xor_sub :
    x.signExtend u = (x.setWidth u ^^^ BitVec.twoPow u v) - BitVec.twoPow u v := by
  rw [signExtend_eq_ite hvu x]
  by_cases hsign : x.setWidth u &&& BitVec.twoPow u v = 0
  · rw [if_neg (not_not.mpr hsign), xor_eq_add_of_and_eq_zero hsign, BitVec.add_sub_cancel]
  have hone : x.setWidth u &&& BitVec.twoPow u v = BitVec.twoPow u v := by
    rw [BitVec.and_twoPow] at hsign ⊢
    exact if_pos (by_contra fun h => hsign (if_neg h))
  rw [if_pos hsign, xor_eq_sub_of_and_eq hone, ← twoPow_add_twoPow, BitVec.sub_sub]

end

end NvidiaOot.Library
