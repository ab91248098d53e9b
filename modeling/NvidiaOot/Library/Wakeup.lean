import Mathlib.Tactic.Common

/-!
# Waiting for a producer that notifies on the first item

A waiter checks for items and goes to sleep when it finds none.  A producer adds an item
and afterwards looks at the number of items again: it notifies when that number is one.
Between the two the waiter may check.

`NoLostWakeup avail notified deciding saw` is the invariant.  `saw = some k` says that
the waiter's latest check found nothing when the producer had notified `k` times; then
the producer has notified since, or there is still nothing, or there is one item and the
producer is about to decide.
-/

namespace NvidiaOot.Library

/-- A waiter that found nothing is woken. -/
def NoLostWakeup (avail notified : ℕ) (deciding : Prop) (saw : Option ℕ) : Prop :=
  ∀ k, saw = some k → k ≤ notified ∧ (k < notified ∨ avail = 0 ∨ (avail = 1 ∧ deciding))

namespace NoLostWakeup

variable {avail notified : ℕ} {deciding deciding' : Prop} {saw : Option ℕ}

/-- A waiter whose latest check found something needs no wake-up. -/
theorem of_none : NoLostWakeup avail notified deciding none := by
  nofun

theorem check : NoLostWakeup avail notified deciding (if avail = 0 then some notified else none) := by
  intro k hk
  by_cases h : avail = 0
  · rw [if_pos h, Option.some.injEq] at hk
    exact ⟨Nat.le_of_eq hk.symm, .inr (.inl h)⟩
  · rw [if_neg h] at hk
    cases hk

section

variable (h : NoLostWakeup avail notified deciding saw)

include h

/-- The producer adds an item and will decide later. -/
theorem produce (hidle : ¬ deciding)
    (hlater : deciding') : NoLostWakeup (avail + 1) notified deciding' saw := by
  intro k hk
  obtain ⟨hle, hcases⟩ := h k hk
  refine ⟨hle, ?_⟩
  rcases hcases with hlt | hzero | ⟨-, hdeciding⟩
  · exact .inl hlt
  · exact .inr (.inr ⟨by rw [hzero], hlater⟩)
  · exact absurd hdeciding hidle

theorem decide :
    NoLostWakeup avail (if avail = 1 then notified + 1 else notified) deciding' saw := by
  intro k hk
  obtain ⟨hle, hcases⟩ := h k hk
  split_ifs with hone
  · exact ⟨by omega, .inl (by omega)⟩
  refine ⟨hle, ?_⟩
  rcases hcases with hlt | hzero | ⟨h1, -⟩
  · exact .inl hlt
  · exact .inr (.inl hzero)
  · exact absurd h1 hone

/-- A step of the producer that neither adds an item nor was about to decide. -/
theorem idle (hidle : ¬ deciding) :
    NoLostWakeup avail notified deciding' saw := by
  intro k hk
  obtain ⟨hle, hcases⟩ := h k hk
  exact ⟨hle, hcases.imp_right fun hz => hz.imp_right fun hd => absurd hd.2 hidle⟩

/-- An item for a waiter that found none was notified, or will be by the pending
decision. -/
theorem awake {k : ℕ} (hk : saw = some k)
    (hitem : 0 < avail) : k < notified ∨ (avail = 1 ∧ deciding) := by
  rcases (h k hk).2 with hlt | hzero | hpending
  · exact .inl hlt
  · omega
  · exact .inr hpending

end

end NoLostWakeup

end NvidiaOot.Library
