import Mathlib.Data.List.Forall2
import Mathlib.Algebra.Order.Ring.Nat

/-!
# Placing blocks one after another

A block has an alignment and a size, and possibly an owner.  `place e l` puts the blocks of `l`
one after another from the address `e` on, each at the next multiple of its alignment, and says
where each is; `placeEnd e l` is the address after the last.  The blocks are placed in order
and do not overlap.
-/

namespace NvidiaOot.Library

variable {ι : Type}

/-- The next multiple of `a`. -/
def roundUp (n a : ℕ) : ℕ := (n + (a - 1)) / a * a

@[simp] theorem roundUp_one (n : ℕ) : roundUp n 1 = n := by simp [roundUp]

theorem le_roundUp (n : ℕ) {a : ℕ} (ha : 0 < a) : n ≤ roundUp n a := by
  have hdiv := Nat.div_add_mod (n + (a - 1)) a
  have hmod := Nat.mod_lt (n + (a - 1)) ha
  unfold roundUp
  rw [Nat.mul_comm]
  omega

theorem dvd_roundUp (n a : ℕ) : a ∣ roundUp n a := Nat.dvd_mul_left a _

section

/-- Something to be placed. -/
structure Block (ι : Type) where
  owner : Option ι
  align : ℕ
  size : ℕ

/-- Where the blocks are placed from `e` on. -/
def place : ℕ → List (Block ι) → List (Block ι × ℕ)
  | _, [] => []
  | e, b :: l => (b, roundUp e b.align) :: place (roundUp e b.align + b.size) l

/-- The address after the blocks. -/
def placeEnd : ℕ → List (Block ι) → ℕ
  | e, [] => e
  | e, b :: l => placeEnd (roundUp e b.align + b.size) l

variable {e : ℕ} {l l' : List (Block ι)} {x : Block ι × ℕ}

theorem place_append (e : ℕ) (l l' : List (Block ι)) :
    place e (l ++ l') = place e l ++ place (placeEnd e l) l' := by
  induction l generalizing e with
  | nil => rfl
  | cons b l ih => exact congrArg _ (ih _)

theorem placeEnd_append (e : ℕ) (l l' : List (Block ι)) : placeEnd e (l ++ l') = placeEnd (placeEnd e l) l' := by
  induction l generalizing e with
  | nil => rfl
  | cons b l ih => exact ih _

theorem map_fst_place (e : ℕ) (l : List (Block ι)) : (place e l).map Prod.fst = l := by
  induction l generalizing e with
  | nil => rfl
  | cons b l ih => exact congrArg _ (ih _)

theorem forall₂_place {α : Type} (f : α → Block ι) (e : ℕ) (o : List α) :
    List.Forall₂ (fun a x => x.1 = f a) o (place e (o.map f)) := by
  induction o generalizing e with
  | nil => exact .nil
  | cons a o ih => exact .cons rfl (ih _)

theorem le_placeEnd (h : ∀ b ∈ l, 0 < b.align) : e ≤ placeEnd e l := by
  induction l generalizing e with
  | nil => exact Nat.le_refl e
  | cons b l ih =>
    have hround := le_roundUp e (h b List.mem_cons_self)
    have hrest := ih (e := roundUp e b.align + b.size) fun b' hb' => h b' (List.mem_cons_of_mem b hb')
    change e ≤ placeEnd (roundUp e b.align + b.size) l
    omega

theorem place_bounds (h : ∀ b ∈ l, 0 < b.align) (hx : x ∈ place e l) : e ≤ x.2 ∧ x.2 + x.1.size ≤ placeEnd e l := by
  induction l generalizing e with
  | nil => exact absurd hx List.not_mem_nil
  | cons b l ih =>
    have hround := le_roundUp e (h b List.mem_cons_self)
    have hrest : ∀ b' ∈ l, 0 < b'.align := fun b' hb' => h b' (List.mem_cons_of_mem b hb')
    rcases List.mem_cons.mp hx with rfl | hx
    · exact ⟨hround, le_placeEnd hrest⟩
    · obtain ⟨hstart, hend⟩ := ih hrest hx
      exact ⟨by omega, hend⟩

theorem place_aligned (hx : x ∈ place e l) : x.1.align ∣ x.2 := by
  induction l generalizing e with
  | nil => exact absurd hx List.not_mem_nil
  | cons b l ih =>
    rcases List.mem_cons.mp hx with rfl | hx
    · exact dvd_roundUp _ _
    · exact ih hx

theorem mem_of_mem_place (hx : x ∈ place e l) : x.1 ∈ l :=
  map_fst_place e l ▸ List.mem_map_of_mem hx

end

end NvidiaOot.Library
