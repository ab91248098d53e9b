import Mathlib.Data.List.Basic

/-!
# Queues with a mask of what is to be skipped

The elements of a queue have keys, and a mask over the keys says which of them are skipped: whoever takes the first
element skips it if the bit of its key is set, and clears the bit.  Different elements may have one key.
`SkipFits seen m l` says that with the mask `m` just the elements with `seen` will be skipped, and that no bit is left
at the end.
-/

namespace NvidiaOot.Library

open Function

variable {κ α : Type} [DecidableEq κ] {seen seen' : α → Prop} {m : κ → Bool} {l before rest : List (κ × α)}
  {k : κ} {x : α}

/-- The elements that the mask skips are those with `seen`. -/
def SkipFits (seen : α → Prop) : (κ → Bool) → List (κ × α) → Prop
  | m, [] => ∀ k, m k = false
  | m, (k, x) :: l => (m k = true ↔ seen x) ∧ SkipFits seen (update m k false) l

/-- What is seen may change where the queue has no element. -/
theorem SkipFits.congr (h : SkipFits seen m l) (hseen : ∀ p ∈ l, (seen p.2 ↔ seen' p.2)) : SkipFits seen' m l := by
  induction l generalizing m with
  | nil => exact h
  | cons p l ih =>
    obtain ⟨hhead, htail⟩ := h
    refine ⟨hhead.trans (hseen p List.mem_cons_self), ?_⟩
    apply ih htail
    intro p' hp'
    exact hseen p' (List.mem_cons_of_mem p hp')

/-- An element that was not seen comes to the end. -/
theorem SkipFits.push (h : SkipFits seen m l) (hx : ¬ seen x) : SkipFits seen m (l ++ [(k, x)]) := by
  induction l generalizing m with
  | nil =>
    refine ⟨by simp [h k, hx], ?_⟩
    intro k'
    by_cases hk : k' = k
    · rw [hk, update_self]
    · rw [update_of_ne hk]
      exact h k'
  | cons p l ih => exact ⟨h.1, ih h.2⟩

/-- The first element is taken when its bit is clear. -/
theorem SkipFits.tail (h : SkipFits seen m ((k, x) :: l)) (hm : m k = false) : ¬ seen x ∧ SkipFits seen m l := by
  obtain ⟨hhead, htail⟩ := h
  rw [← hm, update_eq_self] at htail
  refine ⟨?_, htail⟩
  intro hx
  rw [hhead.mpr hx] at hm
  cases hm

/-- **An element is seen** before its turn.  No element before it has its key, so setting the bit of the key is for
this one. -/
theorem SkipFits.report (h : SkipFits seen m (before ++ (k, x) :: rest)) (hm : m k = false)
    (hkeys : ∀ p ∈ before, p.1 ≠ k) (hne : ∀ p ∈ before ++ rest, p.2 ≠ x) : ¬ seen x ∧
      SkipFits (fun y => y = x ∨ seen y) (update m k true) (before ++ (k, x) :: rest) := by
  induction before generalizing m with
  | nil =>
    obtain ⟨hhead, htail⟩ := h
    have hx : ¬ seen x := by
      intro hx
      rw [hhead.mpr hx] at hm
      cases hm
    refine ⟨hx, by simp, ?_⟩
    rw [update_idem]
    apply htail.congr
    intro p hp
    simp [hne p hp]
  | cons p before ih =>
    obtain ⟨hhead, htail⟩ := h
    have hkey : p.1 ≠ k := hkeys p List.mem_cons_self
    have hmk : update m p.1 false k = false := by
      rw [update_of_ne (Ne.symm hkey)]
      exact hm
    obtain ⟨hx, hrest⟩ := ih htail hmk (fun p' hp' => hkeys p' (List.mem_cons_of_mem p hp'))
      (fun p' hp' => hne p' (List.mem_cons_of_mem p hp'))
    refine ⟨hx, ?_, ?_⟩
    · rw [update_of_ne hkey, hhead]
      simp [hne p List.mem_cons_self]
    · rw [update_comm hkey.symm]
      exact hrest

end NvidiaOot.Library
