import Mathlib.Algebra.BigOperators.Group.List.Basic
import Mathlib.Data.List.Count
import Mathlib.Algebra.Order.Group.Nat

/-!
# The element at a position and the others

A list that is used as an array: what changing the element at a position does to the order, to
counts and to the other positions.
-/

namespace NvidiaOot.Library

variable {α : Type} {l : List α} {i j : ℕ} {a b c : α}

/-- A list is the element at a position and the others. -/
theorem perm_of_getElem (h : l[i]? = some a) : (a :: l.eraseIdx i).Perm l := by
  obtain ⟨hlt, hget⟩ := List.getElem?_eq_some_iff.mp h
  have hperm := List.getElem_cons_eraseIdx_perm hlt
  rw [hget] at hperm
  exact hperm

theorem set_perm_of_getElem (h : l[i]? = some a) (b : α) : (l.set i b).Perm (b :: l.eraseIdx i) :=
  List.set_perm_cons_eraseIdx (List.getElem?_eq_some_iff.mp h).1 b

theorem countP_set_of_getElem (p : α → Bool) (h : l[i]? = some a) (b : α) :
    (l.set i b).countP p + (p a).toNat = l.countP p + (p b).toNat := by
  rw [(set_perm_of_getElem h b).countP_eq p, ← (perm_of_getElem h).countP_eq p, List.countP_cons, List.countP_cons]
  cases p a <;> cases p b <;> simp

theorem countP_concat (p : α → Bool) (l : List α) (a : α) : (l ++ [a]).countP p = l.countP p + (p a).toNat := by
  rw [List.countP_append, List.countP_singleton]
  cases p a <;> rfl

theorem countP_eraseIdx (p : α → Bool) (h : l[i]? = some a) :
    l.countP p = (l.eraseIdx i).countP p + (p a).toNat := by
  rw [← (perm_of_getElem h).countP_eq p, List.countP_cons]
  cases p a <;> rfl

theorem countP_pos_of_getElem {p : α → Bool} (h : l[i]? = some a) (ha : p a = true) : 0 < l.countP p :=
  List.countP_pos_iff.mpr ⟨a, List.mem_of_getElem? h, ha⟩

theorem sum_map_eraseIdx {M : Type} [AddCommMonoid M] (f : α → M) (h : l[i]? = some a) :
    (l.map f).sum = ((l.eraseIdx i).map f).sum + f a := by
  rw [← ((perm_of_getElem h).map f).sum_eq, List.map_cons, List.sum_cons, add_comm]

theorem sum_map_set {M : Type} [AddCommMonoid M] (f : α → M) (h : l[i]? = some a) (b : α) :
    ((l.set i b).map f).sum + f a = (l.map f).sum + f b := by
  rw [((set_perm_of_getElem h b).map f).sum_eq, sum_map_eraseIdx f h, List.map_cons, List.sum_cons,
    add_comm (f b), add_right_comm]

theorem getElem?_set_cases (h : (l.set i b)[j]? = some c) : (j = i ∧ c = b) ∨ (j ≠ i ∧ l[j]? = some c) := by
  by_cases hj : j = i
  · rw [hj, List.getElem?_set] at h
    split at h
    · split at h
      · exact Or.inl ⟨hj, (Option.some.inj h).symm⟩
      · cases h
    · exact absurd rfl ‹_›
  · rw [List.getElem?_set_ne (Ne.symm hj)] at h
    exact Or.inr ⟨hj, h⟩

theorem getElem?_set_self_of_getElem (h : l[i]? = some a) (b : α) : (l.set i b)[i]? = some b :=
  List.getElem?_set_self (List.getElem?_eq_some_iff.mp h).1

/-- What is at a position after an element was added. -/
theorem getElem?_concat_cases (h : (l ++ [b])[j]? = some c) : (j = l.length ∧ c = b) ∨ l[j]? = some c := by
  by_cases hj : j < l.length
  · rw [List.getElem?_append_left hj] at h
    exact Or.inr h
  rw [List.getElem?_append_right (Nat.le_of_not_lt hj)] at h
  obtain ⟨hlt, heq⟩ := List.getElem?_eq_some_iff.mp h
  rw [List.length_singleton] at hlt
  refine Or.inl ⟨by omega, ?_⟩
  rw [← heq, List.getElem_singleton]

theorem lt_of_getElem (h : l[i]? = some a) : i < l.length := (List.getElem?_eq_some_iff.mp h).1

/-- The positions before an element, its own and those behind it. -/
theorem getElem?_append_cons_iff {before rest : List α} {k : ℕ} : (before ++ a :: rest)[k]? = some b ↔
      (k < before.length ∧ before[k]? = some b) ∨ (k = before.length ∧ a = b) ∨
        ∃ m, k = before.length + 1 + m ∧ rest[m]? = some b := by
  rcases lt_trichotomy k before.length with hlt | rfl | hgt
  · rw [List.getElem?_append_left hlt]
    constructor
    · exact fun h => Or.inl ⟨hlt, h⟩
    · rintro (⟨-, h⟩ | ⟨rfl, -⟩ | ⟨m, rfl, -⟩)
      · exact h
      · omega
      · omega
  · simp
    intro m hm
    omega
  · obtain ⟨m, rfl⟩ := Nat.exists_eq_add_of_le hgt
    rw [List.getElem?_append_right (by omega),
      show before.length.succ + m - before.length = m + 1 by omega, List.getElem?_cons_succ]
    constructor
    · exact fun h => Or.inr (Or.inr ⟨m, by omega, h⟩)
    · rintro (⟨hlt, -⟩ | ⟨heq, -⟩ | ⟨m', heq, h⟩)
      · omega
      · omega
      · rwa [show m = m' by omega]

/-! ## What is in a list of places -/

theorem filterMap_id_cons_some (a : α) (l : List (Option α)) :
    (some a :: l).filterMap id = a :: l.filterMap id := by simp

theorem filterMap_set_none_perm {l : List (Option α)} (h : l[i]? = some (some a)) :
    (a :: (l.set i none).filterMap id).Perm (l.filterMap id) := by
  have hbefore := (perm_of_getElem h).filterMap id
  have hafter := (set_perm_of_getElem h none).filterMap id
  exact (hafter.cons a).trans hbefore

theorem filterMap_set_some_perm {l : List (Option α)} (h : l[i]? = some none) (a : α) :
    ((l.set i (some a)).filterMap id).Perm (a :: l.filterMap id) := by
  have hbefore := (perm_of_getElem h).filterMap id
  have hafter := (set_perm_of_getElem h (some a)).filterMap id
  exact hafter.trans (hbefore.cons a)

/-- Elements that are all different are in one place each. -/
theorem place_unique {l : List (Option α)} (hnodup : (l.filterMap id).Nodup)
    (hi : l[i]? = some (some a)) (hj : l[j]? = some (some a)) : j = i := by
  by_contra hne
  have hcons := (filterMap_set_none_perm hi).nodup_iff.mpr hnodup
  apply (List.nodup_cons.mp hcons).1
  rw [List.mem_filterMap]
  refine ⟨some a, ?_, rfl⟩
  apply List.mem_of_getElem? (i := j)
  rw [List.getElem?_set_ne (Ne.symm hne)]
  exact hj

theorem getElem?_set_join {l : List (Option α)} (hi : i < l.length) (o : Option α) (j : ℕ) :
    ((l.set i o)[j]?).join = if j = i then o else (l[j]?).join := by
  by_cases hj : j = i
  · subst hj
    rw [List.getElem?_set_self hi, if_pos rfl]
    rfl
  · rw [List.getElem?_set_ne (Ne.symm hj), if_neg hj]

/-! ## Counts of positions -/

/-- Two predicates that agree at all positions but one have counts that differ by what they say of that
one. -/
theorem countP_range_of_eq_off {p q : ℕ → Bool} {n : ℕ} (hi : i < n) (h : ∀ j, j ≠ i → q j = p j) :
    (List.range n).countP q + (p i).toNat = (List.range n).countP p + (q i).toNat := by
  induction n with
  | zero => omega
  | succ n ih =>
    rw [List.range_succ, countP_concat, countP_concat]
    by_cases hn : i = n
    · subst hn
      have hsame : (List.range i).countP q = (List.range i).countP p := by
        apply List.countP_congr
        intro j hj
        have hlt := List.mem_range.mp hj
        rw [h j (by omega)]
      omega
    · have hlast := h n (Ne.symm hn)
      rw [hlast]
      omega

theorem countP_range_congr {p q : ℕ → Bool} {n : ℕ} (h : ∀ j, q j = p j) :
    (List.range n).countP q = (List.range n).countP p := by
  rw [funext h]

/-- A count of one bound by one has no second position. -/
theorem le_countP_range {p : ℕ → Bool} {n : ℕ} (hi : i < n) (h : p i = true) : 1 ≤ (List.range n).countP p :=
  List.countP_pos_iff.mpr ⟨i, List.mem_range.mpr hi, h⟩

/-! ## The first element of a kind -/

/-- The place of the first element that is not dropped. -/
theorem findIdx?_of_dropWhile (p : α → Bool) (l : List α) : l.findIdx? p = match l.dropWhile fun a => !p a with
      | [] => none | _ :: _ => some (l.takeWhile fun a => !p a).length := by
  induction l with
  | nil => rfl
  | cons a l ih =>
    rw [List.findIdx?_cons, List.dropWhile_cons, List.takeWhile_cons]
    cases p a with
    | true => rfl
    | false =>
      simp only [ih, Bool.not_false, if_true, List.length_cons, Bool.false_eq_true, if_false]
      cases l.dropWhile fun a => !p a <;> rfl

/-- What a loop over an ascending list comes to when it stops at the first number without `p`. -/
theorem mem_takeWhile_iff_of_pairwise {p : ℕ → Bool} {l : List ℕ} (h : l.Pairwise (· < ·)) :
    i ∈ l.takeWhile p ↔ i ∈ l ∧ ∀ j ∈ l, j ≤ i → p j = true := by
  induction l with
  | nil => simp
  | cons a l ih =>
    obtain ⟨hhead, htail⟩ := List.pairwise_cons.mp h
    rw [List.takeWhile_cons]
    cases hp : p a with
    | false =>
      simp only [Bool.false_eq_true, if_false, List.not_mem_nil, false_iff, not_and]
      intro hi hall
      have hle : a ≤ i := by
        rcases List.mem_cons.mp hi with rfl | hmem
        · exact Nat.le_refl i
        · exact Nat.le_of_lt (hhead i hmem)
      rw [hall a List.mem_cons_self hle] at hp
      cases hp
    | true =>
      rw [if_pos rfl, List.mem_cons, List.mem_cons, ih htail]
      constructor
      · rintro (rfl | ⟨hmem, hall⟩)
        · refine ⟨Or.inl rfl, ?_⟩
          intro j hj hle
          rcases List.mem_cons.mp hj with rfl | hmem
          · exact hp
          · exact absurd (hhead j hmem) (Nat.not_lt.mpr hle)
        · refine ⟨Or.inr hmem, ?_⟩
          intro j hj hle
          rcases List.mem_cons.mp hj with rfl | hj
          · exact hp
          · exact hall j hj hle
      · rintro ⟨rfl | hmem, hall⟩
        · exact Or.inl rfl
        · exact Or.inr ⟨hmem, fun j hj => hall j (List.mem_cons_of_mem a hj)⟩

/-- Two kinds have the same first element when they agree up to the first one of the second
kind. -/
theorem findIdx?_eq_iff {p q : α → Bool} {l : List α} : l.findIdx? p = l.findIdx? q ↔
      ∀ (k : ℕ) (a : α), l[k]? = some a →
        (∀ (i : ℕ) (b : α), l[i]? = some b → i < k → q b = false) → p a = q a := by
  induction l with
  | nil => simp
  | cons a l ih =>
    rw [List.findIdx?_cons, List.findIdx?_cons]
    cases hq : q a with
    | true =>
      cases hp : p a with
      | true =>
        refine iff_of_true rfl ?_
        intro k b hb hbefore
        cases k with
        | zero =>
          cases Option.some.inj hb
          rw [hp, hq]
        | succ k => exact absurd (hbefore 0 a rfl (Nat.succ_pos k)) (by simp [hq])
      | false =>
        refine iff_of_false (by simp) ?_
        intro h
        have := h 0 a rfl (by simp)
        simp [hp, hq] at this
    | false =>
      cases hp : p a with
      | true =>
        refine iff_of_false (by cases l.findIdx? q <;> simp) ?_
        intro h
        have := h 0 a rfl (by simp)
        simp [hp, hq] at this
      | false =>
        have hmap : Function.Injective (Option.map (· + 1) : Option ℕ → Option ℕ) :=
          Option.map_injective (add_left_injective 1)
        simp only [Bool.false_eq_true, if_false, hmap.eq_iff, ih]
        constructor
        · intro h k b hb hbefore
          cases k with
          | zero =>
            cases Option.some.inj hb
            rw [hp, hq]
          | succ k =>
            exact h k b hb fun i c hc hik => hbefore (i + 1) c hc (Nat.succ_lt_succ hik)
        · intro h k b hb hbefore
          apply h (k + 1) b hb
          intro i c hc hik
          cases i with
          | zero => exact (Option.some.inj hc) ▸ hq
          | succ i => exact hbefore i c hc (Nat.lt_of_succ_lt_succ hik)

end NvidiaOot.Library
