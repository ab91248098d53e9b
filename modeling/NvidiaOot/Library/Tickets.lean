import Mathlib.Data.BitVec

/-!
# Tickets from a counter

A counter that is incremented and then read gives its holders the values `m + 1`, `m + 2`
and so on, modulo `2 ^ k`.  `tickets m n` are the first `n` of them; they are distinct as
long as the counter has not gone round.

`Numbered p value m l` says that the elements of `l` that satisfy `p` hold consecutive
tickets, in the order of the list.
-/

namespace NvidiaOot.Library

variable {k : ℕ} {α : Type}

/-- The first `n` tickets of a counter at `m`. -/
def tickets (m : BitVec k) (n : ℕ) : List (BitVec k) :=
  (List.range n).map fun i => m + BitVec.ofNat k (i + 1)

/-- The counter goes on where the first tickets end. -/
theorem tickets_add (m : BitVec k) (a b : ℕ) :
    tickets m (a + b) = tickets m a ++ tickets (m + BitVec.ofNat k a) b := by
  unfold tickets
  rw [List.range_add, List.map_append, List.map_map]
  congr 1
  apply List.map_congr_left
  intro i _
  change m + BitVec.ofNat k (a + i + 1) = m + BitVec.ofNat k a + BitVec.ofNat k (i + 1)
  rw [BitVec.add_assoc, ← BitVec.ofNat_add, Nat.add_assoc]

theorem getElem?_tickets {m : BitVec k} {n i : ℕ} (h : i < n) :
    (tickets m n)[i]? = some (m + BitVec.ofNat k (i + 1)) := by
  simp [tickets, h]

/-- No ticket is given out twice in one round of the counter. -/
theorem nodup_tickets {m : BitVec k} {n : ℕ} (h : n ≤ 2 ^ k) : (tickets m n).Nodup := by
  refine List.Nodup.map_on ?_ List.nodup_range
  intro i hi j hj heq
  rw [List.mem_range] at hi hj
  have hval := congrArg BitVec.toNat ((BitVec.add_right_inj m).mp heq)
  have hmod : i ≡ j [MOD 2 ^ k] := Nat.ModEq.add_right_cancel' 1 hval
  rwa [Nat.ModEq, Nat.mod_eq_of_lt (by omega), Nat.mod_eq_of_lt (by omega)] at hmod

section

variable {p : α → Bool} {value : α → BitVec k} {m : BitVec k} {l l' : List α} {a : α}

/-- The elements that satisfy `p` hold the tickets after `m`. -/
def Numbered (p : α → Bool) (value : α → BitVec k) (m : BitVec k) (l : List α) : Prop :=
  (l.filter p).map value = tickets m (l.countP p)

theorem Numbered.nil : Numbered p value m [] := rfl

theorem Numbered.append (h : Numbered p value m l)
    (h' : Numbered p value (m + BitVec.ofNat k (l.countP p)) l') : Numbered p value m (l ++ l') := by
  unfold Numbered at h h' ⊢
  rw [List.filter_append, List.map_append, List.countP_append, tickets_add, h, h']

theorem Numbered.singleton (h : p a = true → value a = m + 1) : Numbered p value m [a] := by
  unfold Numbered
  by_cases hp : p a = true
  · rw [List.filter_cons_of_pos hp, List.countP_cons_of_pos hp, List.filter_nil, List.countP_nil,
      List.map_singleton, h hp]
    rfl
  · rw [List.filter_cons_of_neg hp, List.countP_cons_of_neg hp]
    rfl

theorem Numbered.snoc (h : Numbered p value m l) (ha : p a = true → value a = m + BitVec.ofNat k (l.countP p) + 1) :
    Numbered p value m (l ++ [a]) :=
  h.append (.singleton ha)

/-- An element holds the ticket that counts it and those before it. -/
theorem Numbered.value_eq (h : Numbered p value m (l ++ a :: l')) (ha : p a = true) :
    value a = m + BitVec.ofNat k (l.countP p + 1) := by
  have hat := congrArg (fun values => values[l.countP p]?) h
  have hlt : l.countP p < (l ++ a :: l').countP p := by
    rw [List.countP_append, List.countP_cons_of_pos ha]
    omega
  rw [getElem?_tickets hlt, List.filter_append, List.filter_cons_of_pos ha, List.map_append,
    List.map_cons, List.getElem?_append_right (by simp [List.countP_eq_length_filter])] at hat
  simpa [List.countP_eq_length_filter] using hat

end

end NvidiaOot.Library
