import Mathlib.Data.Int.Notation
import Mathlib.Data.List.Basic

/-!
# Loops that leave a trace and stop at an error

A turn of the loop has a number; it adds events to a trace and ends with the state for the next turn or with an error,
and the loop stops at the first error.  `stateBefore` is the state before a turn, if the loop comes to it: the trace
has just the events of the turns that the loop comes to (`mem_tracedTurns`).
-/

namespace NvidiaOot.Library

variable {σ ε : Type}

/-- `n` turns from number `i` on. -/
def tracedTurns (body : ℕ → σ → List ε × Except ℤ σ) : ℕ → ℕ → σ → List ε × Except ℤ σ
  | 0, _, s => ([], .ok s)
  | n + 1, i, s =>
    match (body i s).2 with
    | .error e => ((body i s).1, .error e)
    | .ok s' => ((body i s).1 ++ (tracedTurns body n (i + 1) s').1, (tracedTurns body n (i + 1) s').2)

/-- The state before the turn that is `k` turns behind the first one. -/
def stateBefore (body : ℕ → σ → List ε × Except ℤ σ) (i : ℕ) (s : σ) : ℕ → Option σ
  | 0 => some s
  | k + 1 => (stateBefore body i s k).bind fun s' => (body (i + k) s').2.toOption

variable {body : ℕ → σ → List ε × Except ℤ σ} {i k n : ℕ} {s s' : σ} {e : ε}

theorem stateBefore_succ_eq_some : stateBefore body i s (k + 1) = some s' ↔
      ∃ t, stateBefore body i s k = some t ∧ (body (i + k) t).2 = .ok s' := by
  rw [stateBefore, Option.bind_eq_some_iff]
  apply exists_congr
  intro t
  apply and_congr_right
  intro _
  cases (body (i + k) t).2 <;> simp [Except.toOption]

/-- When a turn from a state in `R` ends well exactly when it is in `P`, with a state in `R` then, the loop comes to
turn `k` exactly when all turns before it are in `P`. -/
theorem stateBefore_eq_some_iff {P : ℕ → Prop} {R : ℕ → σ → Prop} (hinit : ∀ t, s = t ↔ R 0 t)
    (hex : ∀ k, (∀ j < k, P j) → ∃ t, R k t)
    (hturn : ∀ k t t', (∀ j < k, P j) → R k t → ((body (i + k) t).2 = .ok t' ↔ P k ∧ R (k + 1) t')) :
    stateBefore body i s k = some s' ↔ (∀ j < k, P j) ∧ R k s' := by
  induction k generalizing s' with
  | zero => simp [stateBefore, hinit]
  | succ k ih =>
    rw [stateBefore_succ_eq_some, Nat.forall_lt_succ_right]
    constructor
    · rintro ⟨t, hstate, hok⟩
      obtain ⟨hbefore, ht⟩ := ih.mp hstate
      obtain ⟨hk, hs'⟩ := (hturn k t s' hbefore ht).mp hok
      exact ⟨⟨hbefore, hk⟩, hs'⟩
    · rintro ⟨⟨hbefore, hk⟩, hs'⟩
      obtain ⟨t, ht⟩ := hex k hbefore
      exact ⟨t, ih.mpr ⟨hbefore, ht⟩, (hturn k t s' hbefore ht).mpr ⟨hk, hs'⟩⟩

/-- The first turn, and the others from its state. -/
theorem stateBefore_succ (hok : (body i s).2 = .ok s') :
    stateBefore body i s (k + 1) = stateBefore body (i + 1) s' k := by
  induction k with
  | zero => simp [stateBefore, hok, Except.toOption]
  | succ k ih =>
    have harg : i + (k + 1) = i + 1 + k := by omega
    rw [stateBefore, ih, harg]
    rfl

theorem stateBefore_succ_of_error {c : ℤ} (herr : (body i s).2 = .error c) :
    stateBefore body i s (k + 1) = none := by
  induction k with
  | zero => simp [stateBefore, herr, Except.toOption]
  | succ k ih => rw [stateBefore, ih, Option.bind_none]

/-- The loop has come to all turns before one that it comes to. -/
theorem stateBefore_of_le {m : ℕ} (hle : k ≤ m) (h : stateBefore body i s m = some s') :
    ∃ t, stateBefore body i s k = some t := by
  induction m generalizing s' with
  | zero =>
    obtain rfl := Nat.le_zero.mp hle
    exact ⟨s', h⟩
  | succ m ih =>
    rcases Nat.lt_or_eq_of_le hle with hlt | rfl
    · obtain ⟨t, hbefore, -⟩ := stateBefore_succ_eq_some.mp h
      exact ih (Nat.le_of_lt_succ hlt) hbefore
    · exact ⟨s', h⟩

/-- **The trace** has the events of the turns that the loop comes to. -/
theorem mem_tracedTurns :
    e ∈ (tracedTurns body n i s).1 ↔ ∃ k < n, ∃ t, stateBefore body i s k = some t ∧ e ∈ (body (i + k) t).1 := by
  induction n generalizing i s with
  | zero => simp [tracedTurns]
  | succ n ih =>
    unfold tracedTurns
    cases hbody : (body i s).2 with
    | error c =>
      constructor
      · intro he
        exact ⟨0, Nat.succ_pos n, s, rfl, he⟩
      · rintro ⟨k, -, t, hstate, he⟩
        cases k with
        | zero =>
          cases hstate
          exact he
        | succ k =>
          rw [stateBefore_succ_of_error hbody] at hstate
          cases hstate
    | ok s' =>
      rw [List.mem_append, ih]
      constructor
      · rintro (he | ⟨k, hk, t, hstate, he⟩)
        · exact ⟨0, Nat.succ_pos n, s, rfl, he⟩
        · refine ⟨k + 1, Nat.succ_lt_succ hk, t, ?_, ?_⟩
          · rw [stateBefore_succ hbody]
            exact hstate
          · rw [show i + (k + 1) = i + 1 + k by omega]
            exact he
      · rintro ⟨k, hk, t, hstate, he⟩
        cases k with
        | zero =>
          cases hstate
          exact Or.inl he
        | succ k =>
          rw [stateBefore_succ hbody] at hstate
          rw [show i + (k + 1) = i + 1 + k by omega] at he
          exact Or.inr ⟨k, Nat.lt_of_succ_lt_succ hk, t, hstate, he⟩

theorem forall_mem_tracedTurns {P : ε → Prop} : (∀ e ∈ (tracedTurns body n i s).1, P e) ↔
      ∀ k < n, ∀ t, stateBefore body i s k = some t → ∀ e ∈ (body (i + k) t).1, P e := by
  constructor
  · intro h k hk t hstate e he
    exact h e (mem_tracedTurns.mpr ⟨k, hk, t, hstate, he⟩)
  · intro h e he
    obtain ⟨k, hk, t, hstate, he⟩ := mem_tracedTurns.mp he
    exact h k hk t hstate e he

/-- The loop ends without an error when it comes behind its last turn. -/
theorem tracedTurns_eq_ok : (tracedTurns body n i s).2 = .ok s' ↔ stateBefore body i s n = some s' := by
  induction n generalizing i s with
  | zero => simp [tracedTurns, stateBefore]
  | succ n ih =>
    unfold tracedTurns
    cases hbody : (body i s).2 with
    | error c => simp [stateBefore_succ_of_error hbody]
    | ok t =>
      rw [stateBefore_succ hbody]
      exact ih

theorem error_of_tracedTurns {P : ℤ → Prop} {c : ℤ} (hbody : ∀ i s c, (body i s).2 = .error c → P c)
    (h : (tracedTurns body n i s).2 = .error c) : P c := by
  induction n generalizing i s with
  | zero => cases h
  | succ n ih =>
    unfold tracedTurns at h
    cases hturn : (body i s).2 with
    | error d =>
      rw [hturn] at h
      cases h
      exact hbody i s c hturn
    | ok t =>
      rw [hturn] at h
      exact ih h

/-- **A relation of what a turn adds to the trace and does to the state** holds of the loop if it holds of its turns. -/
theorem rel_of_tracedTurns {R : List ε → σ → σ → Prop} (hrefl : ∀ s, R [] s s)
    (htrans : ∀ es es' s s' s'', R es s s' → R es' s' s'' → R (es ++ es') s s'')
    (hbody : ∀ i s s', (body i s).2 = .ok s' → R (body i s).1 s s')
    (h : (tracedTurns body n i s).2 = .ok s') : R (tracedTurns body n i s).1 s s' := by
  induction n generalizing i s with
  | zero =>
    cases h
    exact hrefl _
  | succ n ih =>
    unfold tracedTurns at h ⊢
    cases hturn : (body i s).2 with
    | error c =>
      rw [hturn] at h
      cases h
    | ok t =>
      rw [hturn] at h
      exact htrans _ _ s t s' (hbody i s t hturn) (ih h)

end NvidiaOot.Library
