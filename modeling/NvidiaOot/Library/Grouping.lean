import Mathlib.Data.List.Forall2

/-!
# Grouping an array by a key and flattening it again

`Grouped key count cells l` says that the rows of a table hold the elements of `l` by their
key, each row in the order of `l`.  A row is extended at its end.  `ungroup` goes through `l`
once more and takes for each element the next cell of its row, so position `j` of the
result is the cell of the `j`-th element, whatever has been written into it in between.
-/

namespace NvidiaOot.Library

open Function

variable {α β : Type}

/-- Row `k` has `count k` cells, and they are the elements with that key. -/
def Grouped (key : α → ℕ) (count : ℕ → ℕ) (cells : ℕ → ℕ → α) (l : List α) : Prop :=
  ∀ k, (List.range (count k)).map (cells k) = l.filter fun a => key a = k

/-- The cells of the elements of `l`; `next` has the next cell of each row. -/
def ungroup (key : α → ℕ) (cells : ℕ → ℕ → β) : List α → (ℕ → ℕ) → List β
  | [], _ => []
  | a :: l, next =>
    cells (key a) (next (key a)) ::
      ungroup key cells l (update next (key a) (next (key a) + 1))

variable {key : α → ℕ} {count : ℕ → ℕ} {cells : ℕ → ℕ → α} {l : List α} {a : α}

theorem Grouped.nil : Grouped key (fun _ => 0) cells [] := fun _ => rfl

theorem Grouped.length (h : Grouped key count cells l) (k : ℕ) :
    (l.filter fun a => key a = k).length = count k := by
  rw [← h k, List.length_map, List.length_range]

theorem Grouped.push (h : Grouped key count cells l) :
    Grouped key (update count (key a) (count (key a) + 1))
      (update cells (key a) (update (cells (key a)) (count (key a)) a)) (l ++ [a]) := by
  intro k
  rw [List.filter_append]
  by_cases hk : key a = k
  case neg =>
    rw [update_of_ne (Ne.symm hk), update_of_ne (Ne.symm hk), h k,
      List.filter_cons_of_neg (by simpa using hk), List.filter_nil, List.append_nil]
  case pos =>
    subst hk
    rw [update_self, update_self, List.range_succ, List.map_append,
      List.filter_cons_of_pos (by simp), List.filter_nil, ← h (key a)]
    congr 1
    · apply List.map_congr_left
      intro i hi
      exact update_of_ne (Nat.ne_of_lt (List.mem_range.mp hi)) _ _
    · rw [List.map_singleton, update_self]

/-- The row of the first element, when the rows start at `next`. -/
theorem cells_of_head {next : ℕ → ℕ} (h : ∀ k, (List.range (count k)).map (fun i => cells k (next k + i)) =
      (a :: l).filter fun a => key a = k) : cells (key a) (next (key a)) = a ∧
      ∃ count' : ℕ → ℕ, ∀ k, (List.range (count' k)).map (fun i =>
        cells k (update next (key a) (next (key a) + 1) k + i)) = l.filter fun a => key a = k := by
  have hrow := h (key a)
  rw [List.filter_cons_of_pos (by simp)] at hrow
  cases hcount : count (key a) with
  | zero =>
    rw [hcount] at hrow
    cases hrow
  | succ c =>
    rw [hcount, List.range_succ_eq_map, List.map_cons, List.map_map] at hrow
    obtain ⟨hhead, htail⟩ := List.cons.inj hrow
    refine ⟨hhead, update count (key a) c, fun k => ?_⟩
    by_cases hk : key a = k
    · subst hk
      rw [update_self, update_self, ← htail]
      apply List.map_congr_left
      intro i _
      change cells (key a) (next (key a) + 1 + i) = cells (key a) (next (key a) + (i + 1))
      rw [Nat.add_assoc, Nat.add_comm 1 i]
    · rw [update_of_ne (Ne.symm hk), update_of_ne (Ne.symm hk), h k,
        List.filter_cons_of_neg (by simpa using hk)]

theorem forall₂_ungroup_from {R : α → β → Prop} {cells' : ℕ → ℕ → β} {next : ℕ → ℕ}
    (hR : ∀ k i, key (cells k i) = k → R (cells k i) (cells' k i))
    (h : ∀ k, (List.range (count k)).map (fun i => cells k (next k + i)) = l.filter fun a => key a = k) :
    List.Forall₂ R l (ungroup key cells' l next) := by
  induction l generalizing count next with
  | nil => exact .nil
  | cons a l ih =>
    obtain ⟨hcell, count', htail⟩ := cells_of_head h
    have hhead := hR (key a) (next (key a)) (by rw [hcell])
    rw [hcell] at hhead
    exact .cons hhead (ih htail)

/-- **Each position comes back as the cell of its element.** -/
theorem Grouped.forall₂_ungroup {R : α → β → Prop} {cells' : ℕ → ℕ → β}
    (h : Grouped key count cells l) (hR : ∀ k i, key (cells k i) = k → R (cells k i) (cells' k i)) :
    List.Forall₂ R l (ungroup key cells' l fun _ => 0) := by
  apply forall₂_ungroup_from hR
  intro k
  simpa using h k

/-- **The elements with one key come back in the order of their row.** -/
theorem filter_ungroup {key' : β → ℕ} {cells' : ℕ → ℕ → β} {next : ℕ → ℕ}
    (h : List.Forall₂ (fun a b => key' b = key a) l (ungroup key cells' l next)) (k : ℕ) :
    (ungroup key cells' l next).filter (fun b => key' b = k) =
      (List.range (l.filter fun a => key a = k).length).map fun i => cells' k (next k + i) := by
  induction l generalizing next with
  | nil => rfl
  | cons a l ih =>
    obtain ⟨hkey, htail⟩ := List.forall₂_cons.mp h
    have ih := ih htail
    unfold ungroup
    by_cases hk : key a = k
    · rw [List.filter_cons_of_pos (by simpa [hkey] using hk),
        List.filter_cons_of_pos (by simpa using hk), List.length_cons, List.range_succ_eq_map,
        List.map_cons, List.map_map, ih, hk, update_self]
      congr 1
      apply List.map_congr_left
      intro i _
      change cells' k (next k + 1 + i) = cells' k (next k + (i + 1))
      rw [Nat.add_assoc, Nat.add_comm 1 i]
    · rw [List.filter_cons_of_neg (by simpa [hkey] using hk),
        List.filter_cons_of_neg (by simpa using hk), ih, update_of_ne (Ne.symm hk)]

end NvidiaOot.Library
