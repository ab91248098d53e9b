import Mathlib.Algebra.Order.Ring.Nat
import Mathlib.Data.List.Induction
import NvidiaOot.Library.ByteArea

/-!
# Pieces that are copied over one another

Pieces are copied one after another into an area that is blank at first.  A place has the byte of the last piece that
covers it, and is blank if no piece does.  `stack` puts pieces behind one another, each with room for at least its
bytes, so that each piece is seen as a whole.
-/

namespace NvidiaOot.Library

variable {β : Type}

/-- Bytes and the place for them. -/
structure Piece (β : Type) where
  start : ℕ
  size : ℕ
  bytes : ℕ → β

/-- The place `p` gets a byte of the piece. -/
def Piece.Covers (x : Piece β) (p : ℕ) : Prop := x.start ≤ p ∧ p < x.start + x.size

/-- The area when the pieces are copied. -/
def overlay (blank : β) (l : List (Piece β)) : ℕ → β :=
  l.foldl (fun m x => blit m x.start x.size x.bytes) fun _ => blank

variable {blank : β} {l front back : List (Piece β)} {x : Piece β} {p n : ℕ}

theorem overlay_nil : overlay blank [] = fun _ => blank := rfl

theorem overlay_concat (l : List (Piece β)) (x : Piece β) :
    overlay blank (l ++ [x]) = blit (overlay blank l) x.start x.size x.bytes := by
  unfold overlay
  rw [List.foldl_append]
  rfl

/-- Pieces that do not cover a place leave it alone. -/
theorem overlay_append_of_not_covers (front : List (Piece β)) (h : ∀ x ∈ back, ¬ x.Covers p) :
    overlay blank (front ++ back) p = overlay blank front p := by
  induction back using List.reverseRecOn with
  | nil => rw [List.append_nil]
  | append_singleton back x ih =>
    rw [List.forall_mem_append, List.forall_mem_singleton] at h
    rw [← List.append_assoc, overlay_concat, ← ih h.1]
    exact if_neg h.2

/-- **A place that is not covered** is blank. -/
theorem overlay_of_not_covers (h : ∀ x ∈ l, ¬ x.Covers p) : overlay blank l p = blank :=
  overlay_append_of_not_covers [] h

/-- **A place that is covered** has the byte of the last piece that covers it. -/
theorem overlay_of_covers (hx : x.Covers p) (h : ∀ y ∈ back, ¬ y.Covers p) :
    overlay blank (front ++ x :: back) p = x.bytes (p - x.start) := by
  rw [List.append_cons, overlay_append_of_not_covers _ h, overlay_concat]
  exact if_pos hx

/-- To copy an area that ends at `n` changes nothing. -/
theorem blit_overlay (h : ∀ x ∈ l, x.start + x.size ≤ n) :
    blit (fun _ => blank) 0 n (overlay blank l) = overlay blank l := by
  funext p
  unfold blit
  by_cases hp : p < n
  · rw [if_pos ⟨Nat.zero_le p, by omega⟩, Nat.sub_zero]
  rw [if_neg (by omega), overlay_of_not_covers]
  intro x hx hcovers
  have hend := h x hx
  unfold Piece.Covers at hcovers
  omega

/-- A piece without a place, and the room that it takes. -/
structure Part (β : Type) where
  room : ℕ
  size : ℕ
  bytes : ℕ → β

/-- The parts behind one another from `o` on. -/
def stack : ℕ → List (Part β) → List (Piece β)
  | _, [] => []
  | o, x :: l => ⟨o, x.size, x.bytes⟩ :: stack (o + x.room) l

/-- The room of all parts. -/
def roomOf (l : List (Part β)) : ℕ := (l.map Part.room).sum

theorem roomOf_append (l m : List (Part β)) : roomOf (l ++ m) = roomOf l + roomOf m := by
  unfold roomOf
  rw [List.map_append, List.sum_append]

theorem stack_append (o : ℕ) (l m : List (Part β)) : stack o (l ++ m) = stack o l ++ stack (o + roomOf l) m := by
  induction l generalizing o with
  | nil => rfl
  | cons x l ih =>
    rw [List.cons_append, stack, ih, stack, List.cons_append]
    unfold roomOf
    rw [List.map_cons, List.sum_cons, Nat.add_assoc]

theorem start_of_mem_stack {o : ℕ} {l : List (Part β)} (h : x ∈ stack o l) : o ≤ x.start := by
  induction l generalizing o with
  | nil => cases h
  | cons y l ih =>
    rcases List.mem_cons.mp h with rfl | h
    · exact Nat.le_refl o
    · exact Nat.le_trans (Nat.le_add_right o y.room) (ih h)

/-- **A part** is seen as a whole. -/
theorem overlay_stack {parts rest : List (Part β)} {y : Part β} (hroom : y.size ≤ y.room) {j : ℕ} (hj : j < y.size) :
    overlay blank (stack 0 (parts ++ y :: rest)) (roomOf parts + j) = y.bytes j := by
  rw [stack_append, Nat.zero_add, stack, overlay_of_covers]
  · rw [Nat.add_sub_cancel_left]
  · exact ⟨Nat.le_add_right _ j, Nat.add_lt_add_left hj _⟩
  · intro x hx hcovers
    have hstart := start_of_mem_stack hx
    unfold Piece.Covers at hcovers
    omega

end NvidiaOot.Library
