import Mathlib.Data.List.Infix
import Mathlib.Data.Nat.ModEq

/-!
# A queue stored in a ring of slots

`Stored n slot sent received` says that the elements of `sent` that are not yet in
`received` lie in a ring of `n` slots, element number `i` in slot `i % n`.  The ring
then is a bounded first-in first-out queue: what was received is a prefix of what was
sent and at most `n` elements are outstanding.

Changing the slot that the next element goes to does no harm while the ring is not
full (`Stored.fill`), sending appends the contents of that slot (`Stored.send`) and
receiving takes the contents of the slot of the oldest outstanding element
(`Stored.receive`).
-/

namespace NvidiaOot.Library

variable {γ : Type} {n : ℕ} {slot slot' : ℕ → γ} {sent received : List γ}

/-- The outstanding elements lie in the ring. -/
structure Stored (n : ℕ) (slot : ℕ → γ) (sent received : List γ) : Prop where
  isPrefix : received <+: sent
  outstanding : sent.length ≤ received.length + n
  contents : ∀ i, received.length ≤ i → i < sent.length → sent[i]? = some (slot (i % n))

theorem Stored.empty (n : ℕ) (slot : ℕ → γ) : Stored n slot [] [] :=
  ⟨List.prefix_refl _, by simp, fun i _ hi => absurd hi (Nat.not_lt_zero i)⟩

/-- Two different outstanding numbers have different slots. -/
theorem mod_ne_of_outstanding {c p i : ℕ} (hc : c ≤ i) (hi : i < p) (hp : p < c + n) : i % n ≠ p % n := by
  intro heq
  have hdvd : n ∣ p - i := (Nat.modEq_iff_dvd' hi.le).mp heq
  have := Nat.le_of_dvd (by omega) hdvd
  omega

section

variable (h : Stored n slot sent received)

include h

/-- The slot of the next element may be changed while the ring is not full. -/
theorem Stored.fill (hfull : sent.length < received.length + n)
    (hslot : ∀ j, j < n → j ≠ sent.length % n → slot' j = slot j) : Stored n slot' sent received := by
  refine ⟨h.isPrefix, h.outstanding, fun i hc hi => ?_⟩
  have hn : 0 < n := by omega
  rw [hslot (i % n) (Nat.mod_lt i hn) (mod_ne_of_outstanding hc hi hfull)]
  exact h.contents i hc hi

/-- Sending appends what the slot of the next element holds. -/
theorem Stored.send (hfull : sent.length < received.length + n) :
    Stored n slot (sent ++ [slot (sent.length % n)]) received := by
  refine ⟨h.isPrefix.trans (List.prefix_append _ _), ?_, fun i hc hi => ?_⟩
  · rw [List.length_append, List.length_singleton]
    exact hfull
  · rw [List.length_append, List.length_singleton] at hi
    by_cases hlast : i = sent.length
    · rw [hlast, List.getElem?_concat_length]
    · rw [List.getElem?_append_left (by omega)]
      exact h.contents i hc (by omega)

/-- The oldest outstanding element is what its slot holds. -/
theorem Stored.head (hne : received.length < sent.length) :
    sent[received.length]? = some (slot (received.length % n)) :=
  h.contents _ le_rfl hne

/-- Receiving takes what the slot of the oldest outstanding element holds. -/
theorem Stored.receive (hne : received.length < sent.length) :
    Stored n slot sent (received ++ [slot (received.length % n)]) := by
  refine ⟨?_, ?_, fun i hc hi => ?_⟩
  · obtain ⟨rest, hrest⟩ := h.isPrefix
    have hhead := h.head hne
    rw [← hrest, List.getElem?_append_right le_rfl, Nat.sub_self] at hhead
    cases rest with
    | nil => cases hhead
    | cons x rest =>
      rw [List.getElem?_cons_zero, Option.some.injEq] at hhead
      exact ⟨rest, by rw [← hrest, ← hhead, List.append_assoc, List.singleton_append]⟩
  · have := h.outstanding
    rw [List.length_append, List.length_singleton]
    omega
  · rw [List.length_append, List.length_singleton] at hc
    exact h.contents i (by omega) hi

end

end NvidiaOot.Library
