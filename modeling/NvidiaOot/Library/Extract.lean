import Mathlib.Data.List.Perm.Basic

/-!
# Taking an element out of a list

`extract p l` takes out the first element of `l` that satisfies `p`.  What is taken out and
what is left are together a permutation of the list, in which the order of the others is kept.
-/

namespace NvidiaOot.Library

variable {α : Type} {p : α → Bool} {l rest : List α} {a : α}

/-- The first element that satisfies `p`, and the others. -/
def extract (p : α → Bool) : List α → Option (α × List α)
  | [] => none
  | a :: l => if p a then some (a, l) else (extract p l).map fun r => (r.1, a :: r.2)

section

variable (h : extract p l = some (a, rest))

include h

theorem extract_eq_some :
    ∃ front back, l = front ++ a :: back ∧ rest = front ++ back ∧ p a = true := by
  induction l generalizing rest with
  | nil => cases h
  | cons b l ih =>
    unfold extract at h
    split at h
    case isTrue hb =>
      cases h
      exact ⟨[], l, rfl, rfl, hb⟩
    case isFalse hb =>
      obtain ⟨⟨a', rest'⟩, hrest, heq⟩ := Option.map_eq_some_iff.mp h
      cases heq
      obtain ⟨front, back, rfl, rfl, ha⟩ := ih hrest
      exact ⟨b :: front, back, rfl, rfl, ha⟩

theorem extract_perm : (a :: rest).Perm l := by
  obtain ⟨front, back, rfl, rfl, -⟩ := extract_eq_some h
  exact List.perm_middle.symm

theorem length_of_extract : rest.length + 1 = l.length :=
  (extract_perm h).length_eq

end

theorem extract_eq_none_iff : extract p l = none ↔ ∀ a ∈ l, p a = false := by
  induction l with
  | nil => exact ⟨fun _ a ha => absurd ha List.not_mem_nil, fun _ => rfl⟩
  | cons b l ih =>
    unfold extract
    split
    case isTrue hb => simp [hb]
    case isFalse hb => simp [hb, ih]

end NvidiaOot.Library
