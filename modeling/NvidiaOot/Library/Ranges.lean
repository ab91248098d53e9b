import Mathlib.Data.Set.Card
import Mathlib.Data.Set.Finite.Lattice
import Mathlib.Order.Interval.Finset.Nat

/-!
# Ranges of addresses that tile an interval

A range is a start and a size.  `cover l x` is the number of ranges of `l` that have the
address `x`.  `Tiles base size l` says that each address of the interval is in exactly one
range of `l` and no other address is in any: the ranges are disjoint and leave no gap.  The
order of `l` does not matter, and gluing two neighbours or splitting a range keeps it.

`Apart l` says that the ranges of `l` are sorted and that no two of them touch.  `sweep` counts the addresses of ranges
that are sorted by their starts and may overlap.
-/

namespace NvidiaOot.Library

/-- A range of addresses. -/
structure Range where
  start : ℕ
  size : ℕ
deriving DecidableEq, Repr

/-- The first address after the range. -/
def Range.stop (r : Range) : ℕ := r.start + r.size

/-- The address `x` is in the range. -/
def Range.Has (r : Range) (x : ℕ) : Prop := r.start ≤ x ∧ x < r.stop

instance (r : Range) (x : ℕ) : Decidable (r.Has x) :=
  inferInstanceAs (Decidable (_ ∧ _))

/-- The number of ranges that have `x`. -/
def cover (l : List Range) (x : ℕ) : ℕ := l.countP fun r => r.Has x

/-- Each address of the interval is in one range, and no other address in any. -/
def Tiles (base size : ℕ) (l : List Range) : Prop :=
  ∀ x, cover l x = if base ≤ x ∧ x < base + size then 1 else 0

/-- One range ends before the other starts. -/
def Range.Disjoint (r s : Range) : Prop := r.stop ≤ s.start ∨ s.stop ≤ r.start

/-- Sorted, and no two ranges touch. -/
def Apart (l : List Range) : Prop := l.Pairwise fun r s => r.stop < s.start

variable {l l' pre post : List Range} {r s : Range} {base size x : ℕ}

@[simp] theorem cover_nil : cover [] x = 0 := rfl

theorem cover_cons : cover (r :: l) x = cover [r] x + cover l x := by
  unfold cover
  rw [List.countP_cons, List.countP_singleton, Nat.add_comm]

theorem cover_append : cover (l ++ l') x = cover l x + cover l' x := List.countP_append

theorem cover_perm (h : l.Perm l') : cover l x = cover l' x := h.countP_eq _

theorem cover_of_has (h : r.Has x) : cover [r] x = 1 := by
  simp [cover, h]

theorem cover_of_not_has (h : ¬ r.Has x) : cover [r] x = 0 := by
  simp [cover, h]

theorem cover_pos_of_mem (h : r ∈ l) (hx : r.Has x) : 0 < cover l x :=
  List.countP_pos_iff.mpr ⟨r, h, by simpa using hx⟩

theorem cover_glue (h : r.stop = s.start) : cover [⟨r.start, r.size + s.size⟩] x = cover [r] x + cover [s] x := by
  have hglue : (⟨r.start, r.size + s.size⟩ : Range).Has x ↔ r.Has x ∨ s.Has x := by
    unfold Range.Has Range.stop at *
    dsimp only at h ⊢
    omega
  have hdisjoint : ¬ (r.Has x ∧ s.Has x) := by
    unfold Range.Has at *
    omega
  by_cases hr : r.Has x
  · have hs : ¬ s.Has x := fun hs => hdisjoint ⟨hr, hs⟩
    rw [cover_of_has hr, cover_of_not_has hs, cover_of_has (hglue.mpr (Or.inl hr))]
  by_cases hs : s.Has x
  · rw [cover_of_not_has hr, cover_of_has hs, cover_of_has (hglue.mpr (Or.inr hs))]
  · rw [cover_of_not_has hr, cover_of_not_has hs, cover_of_not_has]
    intro hx
    exact (hglue.mp hx).elim hr hs

theorem Tiles.whole (base size : ℕ) : Tiles base size [⟨base, size⟩] := by
  intro x
  split_ifs with hx
  · exact cover_of_has hx
  · exact cover_of_not_has hx

theorem Tiles.congr (h : Tiles base size l) (hcover : ∀ x, cover l' x = cover l x) : Tiles base size l' := by
  intro x
  rw [hcover, h]

/-- A range that is not empty lies in the interval. -/
theorem Tiles.bounds (h : Tiles base size l) (hr : r ∈ l) (hpos : 0 < r.size) :
    base ≤ r.start ∧ r.stop ≤ base + size := by
  have hin (x : ℕ) (hx : r.Has x) : base ≤ x ∧ x < base + size := by
    by_contra hout
    have hzero := h x
    rw [if_neg hout] at hzero
    exact absurd (cover_pos_of_mem hr hx) (by omega)
  have hstart := hin r.start ⟨le_rfl, by unfold Range.stop; omega⟩
  have hlast := hin (r.stop - 1) ⟨by unfold Range.stop; omega, by unfold Range.stop; omega⟩
  omega

/-- Two ranges at different places do not overlap. -/
theorem Tiles.stop_le_start (h : Tiles base size l) (hperm : l.Perm (r :: s :: l'))
    (hstart : r.start ≤ s.start) (hpos : 0 < s.size) : r.stop ≤ s.start := by
  by_contra hover
  have hs : s.Has s.start := ⟨le_rfl, by unfold Range.stop; omega⟩
  have hr : r.Has s.start := ⟨hstart, by omega⟩
  have htwo : cover l s.start = 1 + (1 + cover l' s.start) := by
    rw [cover_perm hperm, cover_cons, cover_of_has hr, cover_cons, cover_of_has hs]
  have hone := h s.start
  split at hone <;> omega

theorem Apart.sublist (h : Apart l) (hsub : l'.Sublist l) : Apart l' := List.Pairwise.sublist hsub h

theorem Apart.insert (h : Apart (pre ++ post)) (hpre : ∀ a ∈ pre, a.stop < r.start)
    (hpost : ∀ b ∈ post, r.stop < b.start) : Apart (pre ++ r :: post) := by
  unfold Apart at *
  rw [List.pairwise_append] at h ⊢
  obtain ⟨hleft, hright, hcross⟩ := h
  refine ⟨hleft, List.pairwise_cons.mpr ⟨hpost, hright⟩, ?_⟩
  intro a ha b hb
  rcases List.mem_cons.mp hb with rfl | hb
  · exact hpre a ha
  · exact hcross a ha b hb

section

variable (h : Apart (pre ++ r :: post))

include h

theorem Apart.stop_lt_of_mem_pre : ∀ a ∈ pre, a.stop < r.start :=
  fun a ha => (List.pairwise_append.mp h).2.2 a ha r List.mem_cons_self

theorem Apart.stop_lt_of_mem_post : ∀ b ∈ post, r.stop < b.start :=
  (List.pairwise_cons.mp (List.pairwise_append.mp h).2.1).1

/-- What ends before the start of `r` ends before a point from there on. -/
theorem Apart.pre_stop_lt {n : ℕ} (hn : r.start ≤ n) : ∀ a ∈ pre, a.stop < n :=
  fun a ha => (h.stop_lt_of_mem_pre a ha).trans_le hn

end

/-- **All in one piece.**  When ranges that do not touch tile an interval there is only one. -/
theorem Apart.eq_whole (h : Apart l) (hpos : ∀ r ∈ l, 0 < r.size) (hsize : 0 < size)
    (htiles : Tiles base size l) : l = [⟨base, size⟩] := by
  cases l with
  | nil =>
    have hbase := htiles base
    rw [cover_nil, if_pos (by omega)] at hbase
    omega
  | cons r rest =>
    have hr := htiles.bounds List.mem_cons_self (hpos r List.mem_cons_self)
    -- nothing has the address where the first range ends
    have hgap : ∀ s ∈ rest, ¬ s.Has r.stop := by
      intro s hs hhas
      have hlt := (List.pairwise_cons.mp h).1 s hs
      unfold Range.Has at hhas
      omega
    have hstop : cover (r :: rest) r.stop = 0 := by
      unfold cover
      rw [List.countP_eq_zero]
      intro s hs
      rcases List.mem_cons.mp hs with rfl | hs
      · simp [Range.Has]
      · simpa using hgap s hs
    have hend : base + size ≤ r.stop := by
      by_contra hlt
      have hone := htiles r.stop
      rw [if_pos ⟨hr.1.trans (Nat.le_add_right _ _), by omega⟩, hstop] at hone
      omega
    have hrest : rest = [] := by
      rw [List.eq_nil_iff_forall_not_mem]
      intro s hs
      have hlt := (List.pairwise_cons.mp h).1 s hs
      have hs' := htiles.bounds (List.mem_cons_of_mem r hs) (hpos s (List.mem_cons_of_mem r hs))
      unfold Range.stop at *
      omega
    subst hrest
    have hbase : r.Has base := by
      by_contra hno
      have hone := htiles base
      rw [if_pos (by omega), cover_of_not_has hno] at hone
      omega
    have hstart : r.start = base := Nat.le_antisymm hbase.1 hr.1
    have hlength : r.size = size := by
      unfold Range.stop at *
      omega
    rw [← hstart, ← hlength]

/-- The addresses from `n` on that ranges have, when each range adds what is beyond the end of the one before. -/
def sweep (n : ℕ) : List Range → ℕ
  | [] => 0
  | r :: l => if n < r.stop then r.stop - max n r.start + sweep r.stop l else sweep n l

/-- The addresses from `n` on that are in a range. -/
def coveredFrom (n : ℕ) (l : List Range) : Set ℕ := {x | n ≤ x ∧ ∃ r ∈ l, r.Has x}

theorem finite_coveredFrom (n : ℕ) (l : List Range) : (coveredFrom n l).Finite := by
  refine (Set.Finite.biUnion l.finite_toSet fun r _ => Set.finite_Ico r.start r.stop).subset ?_
  rintro x ⟨_, r, hr, hx⟩
  exact Set.mem_biUnion hr hx

/-- A sweep over ranges that are sorted by their starts counts each address once. -/
theorem sweep_eq_ncard (h : l.Pairwise fun r s => r.start ≤ s.start) (n : ℕ) : sweep n l = (coveredFrom n l).ncard := by
  induction l generalizing n with
  | nil => simp [sweep, coveredFrom]
  | cons r l ih =>
    obtain ⟨hr, hl⟩ := List.pairwise_cons.mp h
    unfold sweep
    split
    case isTrue hlt =>
      have hsplit : coveredFrom n (r :: l) = Set.Ico (max n r.start) r.stop ∪ coveredFrom r.stop l := by
        ext x
        simp only [coveredFrom, List.exists_mem_cons_iff, Set.mem_ofPred_eq, Set.mem_union, Set.mem_Ico, max_le_iff, Range.Has]
        constructor
        · rintro ⟨hn, ⟨hstart, hstop⟩ | ⟨s, hs, hx⟩⟩
          · exact .inl ⟨⟨hn, hstart⟩, hstop⟩
          · rcases lt_or_ge x r.stop with hstop | hstop
            · exact .inl ⟨⟨hn, (hr s hs).trans hx.1⟩, hstop⟩
            · exact .inr ⟨hstop, s, hs, hx⟩
        · rintro (⟨⟨hn, hstart⟩, hstop⟩ | ⟨hstop, s, hs, hx⟩)
          · exact ⟨hn, .inl ⟨hstart, hstop⟩⟩
          · exact ⟨hlt.le.trans hstop, .inr ⟨s, hs, hx⟩⟩
      have hdisjoint : Disjoint (Set.Ico (max n r.start) r.stop) (coveredFrom r.stop l) :=
        Set.disjoint_left.mpr fun x hx hx' => absurd hx'.1 (not_le.mpr hx.2)
      rw [ih hl, hsplit, Set.ncard_union_eq hdisjoint (Set.finite_Ico _ _) (finite_coveredFrom _ _), ← Finset.coe_Ico,
        Set.ncard_coe_finset, Nat.card_Ico]
    case isFalse hle =>
      rw [ih hl]
      congr 1
      ext x
      simp only [coveredFrom, List.exists_mem_cons_iff, Set.mem_ofPred_eq, Range.Has]
      refine and_congr_right fun hn => (or_iff_right ?_).symm
      rintro ⟨_, hstop⟩
      omega

end NvidiaOot.Library
