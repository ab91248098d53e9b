import Mathlib.Algebra.Order.BigOperators.Group.List
import Mathlib.Algebra.Order.Ring.Nat
import Mathlib.Data.List.Nodup

/-!
# Owners of shared resources

Each client owns at most one resource, `of c`, and each resource has a list of its owners.
`Ownership owners of` says that the two agree.  A client joins a resource or leaves it, or all of
its owners are made to leave it at once.
-/

namespace NvidiaOot.Library

open Function

variable {ι κ : Type} [DecidableEq ι] [DecidableEq κ]

/-- The lists of owners agree with what the clients own. -/
structure Ownership (owners : ι → List κ) (of : κ → Option ι) : Prop where
  nodup : ∀ i, (owners i).Nodup
  mem_iff : ∀ i c, c ∈ owners i ↔ of c = some i

namespace Ownership

variable {owners : ι → List κ} {of : κ → Option ι} {i : ι} {c : κ}

theorem join (h : Ownership owners of) (hc : of c = none) (i : ι) :
    Ownership (update owners i (c :: owners i)) (update of c (some i)) := by
  have hnot : ∀ j, c ∉ owners j := by
    intro j hmem
    rw [h.mem_iff, hc] at hmem
    cases hmem
  constructor
  · intro j
    by_cases hj : j = i
    · subst hj
      rw [update_self]
      exact List.nodup_cons.mpr ⟨hnot j, h.nodup j⟩
    · rw [update_of_ne hj]
      exact h.nodup j
  · intro j d
    have hd := h.mem_iff j d
    by_cases hj : j = i <;> by_cases hdc : d = c <;> grind [update_apply]

theorem leave (h : Ownership owners of) (hc : of c = some i) :
    Ownership (update owners i ((owners i).erase c)) (update of c none) := by
  constructor
  · intro j
    by_cases hj : j = i
    · subst hj
      rw [update_self]
      exact (h.nodup j).erase c
    · rw [update_of_ne hj]
      exact h.nodup j
  · intro j d
    have hd := h.mem_iff j d
    have herase : d ∈ (owners i).erase c ↔ d ≠ c ∧ d ∈ owners i := (h.nodup i).mem_erase_iff
    by_cases hj : j = i <;> by_cases hdc : d = c <;> grind [update_apply]

theorem release (h : Ownership owners of) (i : ι) :
    Ownership (update owners i []) fun c => if c ∈ owners i then none else of c := by
  constructor
  · intro j
    by_cases hj : j = i
    · subst hj
      rw [update_self]
      exact .nil
    · rw [update_of_ne hj]
      exact h.nodup j
  · intro j d
    have hd := h.mem_iff j d
    have hdi := h.mem_iff i d
    by_cases hj : j = i <;> grind [update_apply]

end Ownership

/-! ## Sums over the owners -/

/-- A sum over a list without repetitions after one summand has changed. -/
theorem sum_map_update_of_mem {l : List κ} (hnodup : l.Nodup) (f : κ → ℕ) {c : κ} (hmem : c ∈ l)
    (n : ℕ) : (l.map (update f c n)).sum + f c = (l.map f).sum + n := by
  induction l with
  | nil => cases hmem
  | cons a l ih =>
    obtain ⟨hnotMem, hrest⟩ := List.nodup_cons.mp hnodup
    rw [List.map_cons, List.map_cons, List.sum_cons, List.sum_cons]
    rcases List.mem_cons.mp hmem with rfl | hl
    · have hsame : l.map (update f c n) = l.map f :=
        List.map_congr_left fun a ha =>
          update_of_ne (ne_of_mem_of_not_mem ha hnotMem) n f
      rw [hsame, update_self]
      omega
    have hne : a ≠ c := (ne_of_mem_of_not_mem hl hnotMem).symm
    have hih := ih hrest hl
    rw [update_of_ne hne]
    omega

theorem sum_map_update_of_notMem {l : List κ} (f : κ → ℕ) {c : κ} (hmem : c ∉ l) (n : ℕ) :
    (l.map (update f c n)).sum = (l.map f).sum := by
  congr 1
  exact List.map_congr_left fun a ha => update_of_ne (ne_of_mem_of_not_mem ha hmem) n f

end NvidiaOot.Library
