import Mathlib.Data.BitVec
import Mathlib.Tactic.Ring

/-!
# Free-running counters and ring positions

A ring of `n` slots is often kept by two parties with two encodings of its fill at
once: free-running counters `w` and `r` of `k` bits (slots ever written and ever read,
modulo `2 ^ k`) and positions `wp` and `rp` below `n` that wrap at the last slot.  The
two encodings agree although `n` need not divide `2 ^ k`, because only the difference
`w - r` is used of the counters and it never exceeds `n`.

`Coupled n w r wp rp` says that the four values describe one ring: at most `n` slots
are outstanding, both positions are slots, and the write position is the read position
plus the number of outstanding slots, modulo `n`.  It holds of an empty ring
(`Coupled.empty`) and is kept by writing a slot of a ring that is not full
(`Coupled.write`) and by reading a slot of a ring that is not empty (`Coupled.read`).
`Counted n P C w r wp rp` is the same with the exact numbers `P` and `C` of slots
written and read.
-/

namespace NvidiaOot.Library

variable {k : ℕ}

/-- The position after `p` in a ring of `n` slots. -/
def ringNext (n p : BitVec k) : BitVec k := if p = n - 1 then 0 else p + 1

/-- Adding one to a value below another one does not wrap. -/
theorem toNat_succ_of_lt {x n : BitVec k} (h : x < n) : (x + 1).toNat = x.toNat + 1 := by
  have hx : x.toNat < n.toNat := h
  have hone : (1 : BitVec k).toNat = 1 := Nat.mod_eq_of_lt (show 1 < 2 ^ k by omega)
  rw [BitVec.toNat_add, hone]
  exact Nat.mod_eq_of_lt (by omega)

/-- Subtracting one from a value above another one does not wrap. -/
theorem toNat_pred_of_ne {x : BitVec k} (h : x ≠ 0) : (x - 1).toNat + 1 = x.toNat := by
  have hx : 0 < x.toNat := by
    rw [Nat.pos_iff_ne_zero]
    exact fun h0 => h (BitVec.eq_of_toNat_eq (by simpa using h0))
  have hone : (1 : BitVec k).toNat = 1 := Nat.mod_eq_of_lt (show 1 < 2 ^ k by omega)
  rw [BitVec.toNat_sub, hone,
    show 2 ^ k - 1 + x.toNat = x.toNat - 1 + 2 ^ k by omega, Nat.add_mod_right,
    Nat.mod_eq_of_lt (by omega)]
  omega

/-- The next position is the successor modulo the number of slots. -/
theorem ringNext_toNat {n p : BitVec k} (h : p < n) : (ringNext n p).toNat = (p.toNat + 1) % n.toNat := by
  have hp : p.toNat < n.toNat := h
  have hn : n ≠ 0 := fun h0 => by simp [h0] at hp
  have hpred := toNat_pred_of_ne hn
  unfold ringNext
  by_cases hlast : p = n - 1
  · rw [if_pos hlast, hlast, hpred, Nat.mod_self]
    exact BitVec.toNat_zero
  · have hne : p.toNat ≠ (n - 1).toNat := fun h' => hlast (BitVec.eq_of_toNat_eq h')
    rw [if_neg hlast, toNat_succ_of_lt h, Nat.mod_eq_of_lt (by omega)]

theorem ringNext_lt {n p : BitVec k} (h : p < n) : ringNext n p < n := by
  have hp : p.toNat < n.toNat := h
  rw [BitVec.lt_def, ringNext_toNat h]
  exact Nat.mod_lt _ (by omega)

/-! ## The two encodings describe one ring -/

/-- Counters and positions describe one ring of `n` slots. -/
structure Coupled (n w r wp rp : BitVec k) : Prop where
  outstanding : w - r ≤ n
  wPos_lt : wp < n
  rPos_lt : rp < n
  positions : wp.toNat = (rp.toNat + (w - r).toNat) % n.toNat

variable {n w r wp rp : BitVec k}

/-- The empty ring with both positions at the first slot. -/
theorem Coupled.empty (hn : 0 < n) (w : BitVec k) : Coupled n w w 0 0 where
  outstanding := by
    rw [sub_self]
    exact Nat.zero_le _
  wPos_lt := hn
  rPos_lt := hn
  positions := by simp

theorem Coupled.write (h : Coupled n w r wp rp) (hfull : ¬ w - r ≥ n) : Coupled n (w + 1) r (ringNext n wp) rp := by
  have hlt : w - r < n := BitVec.not_le.mp hfull
  have hsub : w + 1 - r = (w - r) + 1 := by ring
  refine ⟨?_, ringNext_lt h.wPos_lt, h.rPos_lt, ?_⟩
  · rw [hsub, BitVec.le_def, toNat_succ_of_lt hlt]
    exact hlt
  · rw [ringNext_toNat h.wPos_lt, h.positions, hsub, toNat_succ_of_lt hlt, Nat.mod_add_mod, Nat.add_assoc]

theorem Coupled.read (h : Coupled n w r wp rp) (hne : w ≠ r) : Coupled n w (r + 1) wp (ringNext n rp) := by
  have hsub : w - (r + 1) = (w - r) - 1 := by ring
  have hpred : (w - r - 1).toNat + 1 = (w - r).toNat :=
    toNat_pred_of_ne fun h0 => hne (sub_eq_zero.mp h0)
  have hout : (w - r).toNat ≤ n.toNat := h.outstanding
  refine ⟨?_, h.wPos_lt, ringNext_lt h.rPos_lt, ?_⟩
  · rw [hsub, BitVec.le_def]
    omega
  · rw [h.positions, ringNext_toNat h.rPos_lt, hsub, Nat.mod_add_mod, ← hpred]
    congr 1
    omega

/-- The write position is the read position plus the outstanding slots, modulo the ring. -/
theorem Coupled.modEq (h : Coupled n w r wp rp) : wp.toNat ≡ rp.toNat + (w - r).toNat [MOD n.toNat] := by
  rw [h.positions]
  exact Nat.mod_modEq _ _

/-! ## Exact counts -/

/-- `P` slots were ever written and `C` ever read. -/
structure Counted (n : BitVec k) (P C : ℕ) (w r wp rp : BitVec k) : Prop where
  written : w = BitVec.ofNat k P
  read : r = BitVec.ofNat k C
  le : C ≤ P
  outstanding : P ≤ C + n.toNat
  wPos : wp.toNat = P % n.toNat
  rPos : rp.toNat = C % n.toNat

variable {P C : ℕ}

theorem Counted.zero (n : BitVec k) : Counted n 0 0 0 0 0 0 :=
  ⟨by simp, by simp, le_rfl, by omega, by simp, by simp⟩

section

variable (h : Counted n P C w r wp rp)

include h

/-- The difference of the counters is the exact number of outstanding slots. -/
theorem Counted.toNat_sub : (w - r).toNat = P - C := by
  have hle := h.le
  have hlt : P - C < 2 ^ k := lt_of_le_of_lt (by have := h.outstanding; omega) n.isLt
  have hsum : w = r + BitVec.ofNat k (P - C) := by
    rw [h.written, h.read, ← BitVec.ofNat_add]
    congr 1
    omega
  rw [hsum, add_sub_cancel_left, BitVec.toNat_ofNat, Nat.mod_eq_of_lt hlt]

/-- The ring is not full exactly when fewer than `n` slots are outstanding. -/
theorem Counted.not_full_iff : ¬ w - r ≥ n ↔ P < C + n.toNat := by
  have hle := h.le
  rw [ge_iff_le, BitVec.not_le, BitVec.lt_def, h.toNat_sub]
  omega

/-- The ring is not empty exactly when a slot is outstanding. -/
theorem Counted.ne_iff : w ≠ r ↔ C < P := by
  have hsub := h.toNat_sub
  constructor
  · intro hne
    have hpos : w - r ≠ 0 := fun h0 => hne (sub_eq_zero.mp h0)
    have := toNat_pred_of_ne hpos
    omega
  · rintro hlt rfl
    rw [sub_self, show (0 : BitVec k).toNat = 0 from BitVec.toNat_zero] at hsub
    omega

/-- Writing one more slot of a ring that is not full. -/
theorem Counted.write (hn : 0 < n) (hfull : P < C + n.toNat) :
    Counted n (P + 1) C (w + 1) r (ringNext n wp) rp := by
  have hpos : 0 < n.toNat := by simpa using BitVec.lt_def.mp hn
  have hwp : wp < n := by
    rw [BitVec.lt_def, h.wPos]
    exact Nat.mod_lt _ hpos
  refine ⟨?_, h.read, by have := h.le; omega, by omega, ?_, h.rPos⟩
  · rw [h.written, BitVec.ofNat_add]
    rfl
  · rw [ringNext_toNat hwp, h.wPos, Nat.mod_add_mod]

/-- Reading one more slot of a ring that is not empty. -/
theorem Counted.consume (hn : 0 < n) (hne : C < P) :
    Counted n P (C + 1) w (r + 1) wp (ringNext n rp) := by
  have hpos : 0 < n.toNat := by simpa using BitVec.lt_def.mp hn
  have hrp : rp < n := by
    rw [BitVec.lt_def, h.rPos]
    exact Nat.mod_lt _ hpos
  refine ⟨h.written, ?_, hne, by have := h.outstanding; omega, h.wPos, ?_⟩
  · rw [h.read, BitVec.ofNat_add]
    rfl
  · rw [ringNext_toNat hrp, h.rPos, Nat.mod_add_mod]

end

/-- A count that was cut to `k` bits has the residue of the whole count exactly when what was cut off is a
multiple of the ring. -/
theorem mod_mod_eq_iff (m n P : ℕ) : P % m % n = P % n ↔ n ∣ m * (P / m) := by
  have hsplit : P - P % m = m * (P / m) := by
    have := Nat.mod_add_div P m
    omega
  rw [← hsplit]
  exact Nat.modEq_iff_dvd' (Nat.mod_le P m)

/-- The write position is the residue of the write counter exactly when the counter lost a multiple of the
ring. -/
theorem Counted.umod_written_iff (h : Counted n P C w r wp rp) : w % n = wp ↔ n.toNat ∣ 2 ^ k * (P / 2 ^ k) := by
  rw [← mod_mod_eq_iff, ← h.wPos, h.written, ← BitVec.toNat_inj, BitVec.toNat_umod, BitVec.toNat_ofNat]

/-- The read position is the residue of the read counter exactly when the counter lost a multiple of the
ring. -/
theorem Counted.umod_read_iff (h : Counted n P C w r wp rp) : r % n = rp ↔ n.toNat ∣ 2 ^ k * (C / 2 ^ k) := by
  rw [← mod_mod_eq_iff, ← h.rPos, h.read, ← BitVec.toNat_inj, BitVec.toNat_umod, BitVec.toNat_ofNat]

end NvidiaOot.Library
