import Mathlib.Data.Nat.Notation

/-!
# Computations that may fail

`reject c e` fails with `e` when the condition `c` holds.  The lemmas take a successful
computation apart into its steps, so that a proof about a function with many early
exits never splits on the exits it does not take.
-/

namespace NvidiaOot.Library

variable {ε α β : Type}

/-- Fail with `e` when `c` holds. -/
def reject (c : Prop) [Decidable c] (e : ε) : Except ε Unit :=
  if c then .error e else .ok ()

/-- Run a check only when the condition `c` holds. -/
def onlyIf (c : Bool) (x : Except ε Unit) : Except ε Unit := if c then x else .ok ()

/-- A sequence succeeds exactly when its first part does and the rest does on its result. -/
theorem bind_eq_ok {x : Except ε α} {f : α → Except ε β} {b : β} :
    (x >>= f) = .ok b ↔ ∃ a, x = .ok a ∧ f a = .ok b := by
  cases x with
  | error e | ok a => simp [bind, Except.bind]

/-- A sequence fails exactly when one of its parts does. -/
theorem bind_eq_error {x : Except ε α} {f : α → Except ε β} {e : ε} :
    (x >>= f) = .error e ↔ x = .error e ∨ ∃ a, x = .ok a ∧ f a = .error e := by
  cases x with
  | error e' | ok a => simp [bind, Except.bind]

theorem reject_eq_error {c : Prop} [Decidable c] {e e' : ε} : reject c e = .error e' ↔ c ∧ e = e' := by
  unfold reject
  split <;> simp_all

/-- A guard succeeds exactly when its condition fails. -/
theorem reject_eq_ok {c : Prop} [Decidable c] {e : ε} {u : Unit} : reject c e = .ok u ↔ ¬ c := by
  unfold reject
  split <;> simp_all

theorem pure_eq_ok {a b : α} : (pure a : Except ε α) = .ok b ↔ a = b := by
  simp [pure, Except.pure]

/-- A guarded rest succeeds exactly when the guard lets it through and it does. -/
theorem reject_bind_eq_ok {c : Prop} [Decidable c] {e : ε} {f : Unit → Except ε β} {b : β} :
    (reject c e >>= f) = .ok b ↔ ¬ c ∧ f () = .ok b := by
  rw [bind_eq_ok]
  constructor
  · rintro ⟨u, hu, hf⟩
    exact ⟨reject_eq_ok.mp hu, hf⟩
  · rintro ⟨hc, hf⟩
    exact ⟨(), reject_eq_ok.mpr hc, hf⟩

end NvidiaOot.Library
