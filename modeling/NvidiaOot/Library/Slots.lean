import Mathlib.Algebra.Order.BigOperators.Group.List
import Mathlib.Algebra.Order.Ring.Int
import NvidiaOot.Library.Positions

/-!
# Numbered slots

A table that gives its elements numbers: a new element gets the lowest free number of a range, and
keeps it until it is removed.  `Slots.total f l` is the sum of `f` over the elements; each operation
says what it does to it.  `Slots.sum` is the same for values that can be negative.
-/

namespace NvidiaOot.Library

/-- The slots by their numbers, and what is in them. -/
structure Slots (α : Type) where
  list : List (Option α)
  deriving DecidableEq

variable {α : Type}

def Slots.empty : Slots α := ⟨[]⟩

/-- The element with a number. -/
def Slots.get (l : Slots α) (i : ℕ) : Option α := l.list[i]?.join

/-- What is in a slot is replaced, or the slot becomes free. -/
def Slots.put (l : Slots α) (i : ℕ) (o : Option α) : Slots α := ⟨l.list.set i o⟩

/-- The lowest number from `first` on that is free. -/
def Slots.freeNumber (first : ℕ) (l : Slots α) : ℕ :=
  first + (l.list.drop first).findIdx Option.isNone

/-- A new element, if a number below `last` is free. -/
def Slots.alloc (first last : ℕ) (l : Slots α) (x : α) : Option (ℕ × Slots α) :=
  if l.freeNumber first < last then
    some (l.freeNumber first,
      ⟨(l.list ++ List.replicate (l.freeNumber first + 1 - l.list.length) none).set (l.freeNumber first)
        (some x)⟩)
  else none

/-- The lowest number of an element with `p`. -/
def Slots.find (p : α → Bool) (l : Slots α) : Option ℕ := l.list.findIdx? fun o => o.any p

/-- A new element behind the others. -/
def Slots.push (l : Slots α) (x : α) : Slots α := ⟨l.list ++ [some x]⟩

/-- The elements without `p` are removed. -/
def Slots.keep (p : α → Bool) (l : Slots α) : Slots α := ⟨l.list.map (Option.filter p)⟩

/-- The sum of `f` over the elements. -/
def Slots.total (f : α → ℕ) (l : Slots α) : ℕ := (l.list.map fun o => o.elim 0 f).sum

def Slots.sum (f : α → ℤ) (l : Slots α) : ℤ := (l.list.map fun o => o.elim 0 f).sum

variable {l l' : Slots α} {f g : α → ℕ} {i j first last : ℕ} {x : α} {o : Option α} {p : α → Bool}

theorem Slots.get_eq_some : l.get i = some x ↔ l.list[i]? = some (some x) := by
  unfold Slots.get
  rw [Option.join_eq_some_iff]

theorem Slots.get_put_self (h : l.get i = some x) (o : Option α) : (l.put i o).get i = o := by
  have hset := getElem?_set_self_of_getElem (Slots.get_eq_some.mp h) o
  unfold Slots.get Slots.put
  rw [hset]
  rfl

theorem Slots.get_put_of_ne (h : j ≠ i) (l : Slots α) (o : Option α) : (l.put i o).get j = l.get j := by
  unfold Slots.get Slots.put
  rw [List.getElem?_set_ne (Ne.symm h)]

theorem Slots.total_put (f : α → ℕ) (h : l.get i = some x) (o : Option α) :
    (l.put i o).total f + f x = l.total f + o.elim 0 f :=
  sum_map_set (fun o : Option α => o.elim 0 f) (Slots.get_eq_some.mp h) o

theorem Slots.le_total (f : α → ℕ) (h : l.get i = some x) : f x ≤ l.total f := by
  have hput := Slots.total_put f h none
  have hnone : (none : Option α).elim 0 f = 0 := rfl
  omega

theorem Slots.find_spec (h : l.find p = some i) : ∃ x, l.get i = some x ∧ p x = true := by
  obtain ⟨hlt, hp, _⟩ := List.findIdx?_eq_some_iff_getElem.mp h
  obtain ⟨x, hx, hpx⟩ := (Option.any_eq_true _ _).mp hp
  refine ⟨x, Slots.get_eq_some.mpr ?_, hpx⟩
  rw [List.getElem?_eq_getElem hlt, hx]

theorem Slots.find_isSome (h : l.get i = some x) (hp : p x = true) : (l.find p).isSome = true := by
  unfold Slots.find
  rw [List.findIdx?_isSome, List.any_eq_true]
  exact ⟨some x, List.mem_of_getElem? (Slots.get_eq_some.mp h), hp⟩

/-- Nothing else is found when an element is replaced by one that is like it. -/
theorem Slots.find_put {y : α} (h : l.get i = some x) (hp : p y = p x) : (l.put i (some y)).find p = l.find p := by
  have hmap : (l.list.set i (some y)).map (Option.any p) = l.list.map (Option.any p) := by
    obtain ⟨hlt, heq⟩ := List.getElem?_eq_some_iff.mp (Slots.get_eq_some.mp h)
    rw [List.map_set, Option.any_some, hp, ← Option.any_some (p := p), ← heq, ← List.getElem_map (Option.any p)]
    · exact List.set_getElem_self _
    · rw [List.length_map]
      exact hlt
  have hfind : ∀ k : List (Option α), k.findIdx? (fun o => o.any p) =
      (k.map (Option.any p)).findIdx? id := by
    intro k
    rw [List.findIdx?_map]
    rfl
  unfold Slots.find Slots.put
  rw [hfind, hmap, ← hfind]

/-- The slot of the number that is given next is free. -/
theorem Slots.get_freeNumber (first : ℕ) (l : Slots α) : l.get (l.freeNumber first) = none := by
  unfold Slots.get Slots.freeNumber
  rw [← List.getElem?_drop]
  cases h : (l.list.drop first)[(l.list.drop first).findIdx Option.isNone]? with
  | none => rfl
  | some o =>
    obtain ⟨hlt, heq⟩ := List.getElem?_eq_some_iff.mp h
    have hnone := @List.findIdx_getElem _ Option.isNone (l.list.drop first) hlt
    rw [heq, Option.isNone_iff_eq_none] at hnone
    rw [hnone]
    rfl

theorem sum_map_replicate_none (f : α → ℕ) (n : ℕ) :
    ((List.replicate n (none : Option α)).map fun o => o.elim 0 f).sum = 0 := by
  rw [List.map_replicate]
  exact List.sum_replicate_nat.trans (Nat.mul_zero n)

/-- **A new element** is in a slot that was free, and the others are where they were. -/
theorem Slots.alloc_spec (h : l.alloc first last x = some (i, l')) :
    i < last ∧ l.get i = none ∧ l'.get i = some x ∧ (∀ j, j ≠ i → l'.get j = l.get j) ∧
      ∀ f, l'.total f = l.total f + f x := by
  obtain ⟨hlast, heq⟩ := Option.ite_none_right_eq_some.mp h
  cases heq
  have hfree := l.get_freeNumber first
  generalize l.freeNumber first = i at hlast hfree
  have hpad : (l.list ++ List.replicate (i + 1 - l.list.length) none)[i]? = some none := by
    by_cases hlt : i < l.list.length
    · rw [List.getElem?_append_left hlt]
      unfold Slots.get at hfree
      rw [List.getElem?_eq_getElem hlt] at hfree ⊢
      rw [← hfree]
      rfl
    · rw [List.getElem?_append_right (Nat.le_of_not_lt hlt), List.getElem?_replicate, if_pos (by omega)]
  refine ⟨hlast, hfree, ?_, ?_, ?_⟩
  · rw [Slots.get_eq_some]
    exact getElem?_set_self_of_getElem hpad _
  · intro j hj
    unfold Slots.get
    rw [List.getElem?_set_ne (Ne.symm hj)]
    by_cases hlt : j < l.list.length
    · rw [List.getElem?_append_left hlt]
    · rw [List.getElem?_append_right (Nat.le_of_not_lt hlt), List.getElem?_eq_none (Nat.le_of_not_lt hlt),
        List.getElem?_replicate]
      split <;> rfl
  · intro f
    have hset := sum_map_set (fun o : Option α => o.elim 0 f) hpad (some x)
    rw [List.map_append, List.sum_append, sum_map_replicate_none] at hset
    exact hset

section

variable {f : α → ℤ}

theorem Slots.sum_push (f : α → ℤ) (l : Slots α) (x : α) : (l.push x).sum f = l.sum f + f x := by
  simp [Slots.sum, Slots.push]

theorem Slots.sum_put (f : α → ℤ) (h : l.get i = some x) (o : Option α) :
    (l.put i o).sum f = l.sum f - f x + o.elim 0 f := by
  have hset := sum_map_set (fun o : Option α => o.elim 0 f) (Slots.get_eq_some.mp h) o
  unfold Slots.sum Slots.put
  dsimp only at hset ⊢
  rw [Option.elim_some] at hset
  omega

theorem Slots.sum_keep (f : α → ℤ) (p : α → Bool) (l : Slots α) :
    (l.keep p).sum f = l.sum fun x => if p x then f x else 0 := by
  unfold Slots.sum Slots.keep
  rw [List.map_map]
  apply congrArg
  apply List.map_congr_left
  intro o _
  cases o with
  | none => rfl
  | some x =>
    rw [Function.comp_apply, Option.filter_some]
    cases hp : p x <;> simp [hp]

theorem Slots.mem_list : some x ∈ l.list ↔ ∃ i, l.get i = some x := by
  rw [List.mem_iff_getElem?]
  exact exists_congr fun i => Slots.get_eq_some.symm

theorem Slots.sum_nonneg (h : ∀ i x, l.get i = some x → 0 ≤ f x) : 0 ≤ l.sum f := by
  apply List.sum_nonneg
  intro n hn
  obtain ⟨o, ho, rfl⟩ := List.mem_map.mp hn
  cases o with
  | none => exact le_refl 0
  | some x =>
    obtain ⟨i, hi⟩ := Slots.mem_list.mp ho
    exact h i x hi

/-- An element is a part of a sum of values that are not negative. -/
theorem Slots.le_sum (h : ∀ i x, l.get i = some x → 0 ≤ f x) (hx : l.get i = some x) : f x ≤ l.sum f := by
  have hput := Slots.sum_put f hx none
  have hrest : 0 ≤ (l.put i none).sum f := by
    apply Slots.sum_nonneg
    intro j y hy
    by_cases hj : j = i
    · rw [hj, Slots.get_put_self hx] at hy
      cases hy
    · rw [Slots.get_put_of_ne hj] at hy
      exact h j y hy
  rw [Option.elim_none] at hput
  omega

/-- A sum that is not zero has an element that is not. -/
theorem Slots.exists_of_sum_ne (h : l.sum f ≠ 0) : ∃ i x, l.get i = some x ∧ f x ≠ 0 := by
  by_contra hno
  apply h
  apply List.sum_eq_zero
  intro n hn
  obtain ⟨o, ho, rfl⟩ := List.mem_map.mp hn
  cases o with
  | none => rfl
  | some x =>
    obtain ⟨i, hi⟩ := Slots.mem_list.mp ho
    by_contra hne
    exact hno ⟨i, x, hi, hne⟩

theorem Slots.sum_congr {g : α → ℤ} (h : ∀ i x, l.get i = some x → f x = g x) : l.sum f = l.sum g := by
  unfold Slots.sum
  apply congrArg
  apply List.map_congr_left
  intro o ho
  cases o with
  | none => rfl
  | some x =>
    obtain ⟨i, hi⟩ := Slots.mem_list.mp ho
    exact h i x hi

theorem Slots.put_put (l : Slots α) (i : ℕ) (o o' : Option α) : (l.put i o).put i o' = l.put i o' := by
  simp [Slots.put]

/-- Nothing changes when an element is replaced by itself. -/
theorem Slots.put_self (h : l.get i = some x) : l.put i (some x) = l := by
  obtain ⟨hlt, heq⟩ := List.getElem?_eq_some_iff.mp (Slots.get_eq_some.mp h)
  unfold Slots.put
  rw [← heq, List.set_getElem_self]

theorem Slots.get_push (l : Slots α) (x : α) : (l.push x).get l.list.length = some x := by
  simp [Slots.get, Slots.push]

/-- What is in the table after a new element came. -/
theorem Slots.get_push_cases {y : α} (h : (l.push x).get i = some y) :
    (i = l.list.length ∧ y = x) ∨ l.get i = some y := by
  rcases getElem?_concat_cases (Slots.get_eq_some.mp h) with ⟨hi, hy⟩ | hold
  · exact Or.inl ⟨hi, Option.some.inj hy⟩
  · exact Or.inr (Slots.get_eq_some.mpr hold)

theorem Slots.get_put_cases {y : α} (h : (l.put i o).get j = some y) :
    (j = i ∧ o = some y) ∨ (j ≠ i ∧ l.get j = some y) := by
  rcases getElem?_set_cases (Slots.get_eq_some.mp h) with ⟨hj, hy⟩ | ⟨hj, hold⟩
  · exact Or.inl ⟨hj, hy.symm⟩
  · exact Or.inr ⟨hj, Slots.get_eq_some.mpr hold⟩

end

end NvidiaOot.Library
