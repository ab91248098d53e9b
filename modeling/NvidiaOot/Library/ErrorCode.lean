import Mathlib.Order.Nat

/-!
# Functions that return an error code and keep what they wrote

A C function that changes its arguments and returns `0` or an error is a function
`σ → ℤ × σ`.  `andThen` is the pattern `if (err) goto out;`, `forEach` a loop that is left on
the first error.  What has been written stays when a later step fails: `Keeps R f` says
that `f` relates the state before to the state after by `R`, whatever it returns.
-/

namespace NvidiaOot.Library

variable {σ α : Type}

/-- Go on with `f` when there was no error. -/
def andThen (r : ℤ × σ) (f : σ → ℤ × σ) : ℤ × σ := if r.1 = 0 then f r.2 else r

/-- Run the body for each item until one fails. -/
def forEach (body : α → σ → ℤ × σ) : List α → σ → ℤ × σ
  | [], s => (0, s)
  | a :: l, s => andThen (body a s) (forEach body l)

/-- Success of a sequence: both parts succeed, one on the other's result. -/
theorem andThen_code_eq_zero {r : ℤ × σ} {f : σ → ℤ × σ} : (andThen r f).1 = 0 ↔ r.1 = 0 ∧ (f r.2).1 = 0 := by
  unfold andThen
  split
  case isTrue h => simp [h]
  case isFalse h => simp [h]

theorem andThen_eq_ok {r : ℤ × σ} {f : σ → ℤ × σ} {s' : σ} :
    andThen r f = (0, s') ↔ ∃ s, r = (0, s) ∧ f s = (0, s') := by
  unfold andThen
  constructor
  · intro h
    split at h
    case isTrue hcode => exact ⟨r.2, Prod.ext hcode rfl, h⟩
    case isFalse hcode => exact absurd (congrArg Prod.fst h) hcode
  · rintro ⟨s, rfl, hf⟩
    rw [if_pos rfl, hf]

theorem andThen_of_ok {r : ℤ × σ} {f : σ → ℤ × σ} (h : r.1 = 0) : andThen r f = f r.2 := if_pos h

theorem andThen_of_error {r : ℤ × σ} {f : σ → ℤ × σ} (h : r.1 ≠ 0) : andThen r f = r := if_neg h

/-- Whatever it returns, `f` relates the state before to the state after by `R`. -/
def Keeps (R : σ → σ → Prop) (f : σ → ℤ × σ) : Prop := ∀ s, R s (f s).2

variable {R : σ → σ → Prop}

theorem keeps_andThen [IsTrans σ R] {f g : σ → ℤ × σ} (hf : Keeps R f) (hg : Keeps R g) :
    Keeps R fun s => andThen (f s) g := by
  intro s
  unfold andThen
  dsimp only
  split
  · exact IsTrans.trans _ _ _ (hf s) (hg (f s).2)
  · exact hf s

theorem keeps_forEach [IsPreorder σ R] {body : α → σ → ℤ × σ} (h : ∀ a, Keeps R (body a))
    (l : List α) : Keeps R (forEach body l) := by
  induction l with
  | nil =>
    intro s
    exact refl s
  | cons a l ih => exact keeps_andThen (h a) ih

/-- **The rule for a loop that succeeds.**  What holds with no item done, and with one more
item done after each body that succeeds, holds with all items done. -/
theorem forEach_ok {P : List α → σ → Prop} {body : α → σ → ℤ × σ} {l : List α} {s s' : σ}
    (hstep : ∀ done a todo s s', l = done ++ a :: todo → P done s → body a s = (0, s') → P (done ++ [a]) s')
    (hstart : P [] s) (hrun : forEach body l s = (0, s')) : P l s' := by
  have hfrom (done todo : List α) (s : σ) (hl : l = done ++ todo) (hdone : P done s)
      (hrun : forEach body todo s = (0, s')) : P l s' := by
    induction todo generalizing done s with
    | nil =>
      obtain ⟨-, rfl⟩ := Prod.mk.inj hrun
      rwa [hl, List.append_nil]
    | cons a todo ih =>
      have hcode := (andThen_code_eq_zero.mp (congrArg Prod.fst hrun)).1
      have hbody : body a s = (0, (body a s).2) := Prod.ext hcode rfl
      rw [forEach, andThen_of_ok hcode] at hrun
      exact ih (done ++ [a]) _ (by simp [hl]) (hstep done a todo s _ hl hdone hbody) hrun
  exact hfrom [] l s rfl hstart hrun

section

variable {β : Type}

/-- What the turns of a loop do, up to the first that fails. -/
def forEachTrace (trace : α → σ → List β) (body : α → σ → ℤ × σ) : List α → σ → List β
  | [], _ => []
  | a :: l, s =>
    trace a s ++ if (body a s).1 = 0 then forEachTrace trace body l (body a s).2 else []

theorem forEach_concat (body : α → σ → ℤ × σ) (l : List α) (a : α) (s : σ) :
    forEach body (l ++ [a]) s = andThen (forEach body l s) (body a) := by
  induction l generalizing s with
  | nil =>
    rcases hbody : body a s with ⟨code, s'⟩
    change andThen (body a s) _ = body a s
    unfold andThen forEach
    split
    case isTrue hcode => exact Prod.ext hcode.symm rfl
    case isFalse => rfl
  | cons b l ih =>
    rw [List.cons_append, forEach, forEach]
    by_cases hcode : (body b s).1 = 0
    · rw [andThen_of_ok hcode, andThen_of_ok hcode, ih]
    · rw [andThen_of_error hcode, andThen_of_error hcode, andThen_of_error hcode]

theorem forEachTrace_concat (trace : α → σ → List β) (body : α → σ → ℤ × σ) (l : List α) (a : α) (s : σ) :
    forEachTrace trace body (l ++ [a]) s =
      forEachTrace trace body l s ++ if (forEach body l s).1 = 0 then trace a (forEach body l s).2 else [] := by
  induction l generalizing s with
  | nil =>
    change trace a s ++ _ = [] ++ trace a s
    rw [forEachTrace, ite_self, List.append_nil, List.nil_append]
  | cons b l ih =>
    rw [List.cons_append, forEachTrace, forEachTrace, forEach, List.append_assoc]
    by_cases hcode : (body b s).1 = 0
    · rw [if_pos hcode, if_pos hcode, ih, andThen_of_ok hcode]
    · rw [if_neg hcode, if_neg hcode, andThen_of_error hcode, if_neg hcode, List.nil_append]

theorem forEach_of_total (f : α → σ → σ) (l : List α) (s : σ) :
    forEach (fun a s => (0, f a s)) l s = (0, l.foldl (fun s a => f a s) s) := by
  induction l generalizing s with
  | nil => rfl
  | cons a l ih => exact (andThen_of_ok rfl).trans (ih (f a s))

/-- A loop over the numbers below `n` whose turns are known: `Inv i` holds before turn `i`, and `ok i` says whether the
turn succeeds. -/
structure KnownTurns (body : ℕ → σ → ℤ × σ) (Inv : ℕ → σ → Prop) (ok : ℕ → Prop) (n : ℕ) : Prop where
  code : ∀ i < n, ∀ s, Inv i s → ((body i s).1 = 0 ↔ ok i)
  next : ∀ i < n, ∀ s, Inv i s → ok i → Inv (i + 1) (body i s).2

variable {body : ℕ → σ → ℤ × σ} {Inv : ℕ → σ → Prop} {ok : ℕ → Prop} {n : ℕ} {s : σ}

theorem KnownTurns.of_succ (h : KnownTurns body Inv ok (n + 1)) : KnownTurns body Inv ok n :=
  ⟨fun i hi => h.code i (Nat.lt_succ_of_lt hi), fun i hi => h.next i (Nat.lt_succ_of_lt hi)⟩

section

variable (h : KnownTurns body Inv ok n)

include h

/-- **Such a loop succeeds** when each of its turns does. -/
theorem KnownTurns.run (hs : Inv 0 s) :
    ((forEach body (List.range n) s).1 = 0 ↔ ∀ i < n, ok i) ∧
      ((∀ i < n, ok i) → Inv n (forEach body (List.range n) s).2) := by
  induction n with
  | zero => exact ⟨iff_of_true rfl fun i hi => absurd hi (Nat.not_lt_zero i), fun _ => hs⟩
  | succ n ih =>
    obtain ⟨hcode, hinv⟩ := ih h.of_succ
    rw [List.range_succ, forEach_concat, andThen_code_eq_zero, Nat.forall_lt_succ_right, hcode]
    refine ⟨and_congr_right fun hall => h.code n (Nat.lt_succ_self n) _ (hinv hall), fun hall => ?_⟩
    rw [andThen_of_ok (hcode.mpr hall.1)]
    exact h.next n (Nat.lt_succ_self n) _ (hinv hall.1) hall.2

theorem KnownTurns.before (hs : Inv 0 s) {i : ℕ} (hi : i ≤ n) (hok : ∀ j < i, ok j) :
    Inv i (forEach body (List.range i) s).2 :=
  (KnownTurns.run ⟨fun j hj => h.code j (hj.trans_le hi), fun j hj => h.next j (hj.trans_le hi)⟩ hs).2 hok

theorem KnownTurns.stops (hs : Inv 0 s) {i : ℕ} (hi : i < n) (hok : ∀ j < i, ok j)
    (hno : ¬ ok i) : forEach body (List.range n) s = body i (forEach body (List.range i) s).2 := by
  induction n with
  | zero => exact absurd hi (Nat.not_lt_zero i)
  | succ n ih =>
    rw [List.range_succ, forEach_concat]
    rcases Nat.lt_succ_iff_lt_or_eq.mp hi with hlt | rfl
    · rw [ih h.of_succ hlt]
      exact andThen_of_error (mt (h.code i hi _ (h.before hs hi.le hok)).mp hno)
    · exact andThen_of_ok ((h.of_succ.run hs).1.mpr hok)

/-- **What such a loop does** is what the turns do that are reached. -/
theorem KnownTurns.mem_trace {trace : ℕ → σ → List β} (hs : Inv 0 s) {b : β} :
    b ∈ forEachTrace trace body (List.range n) s ↔
      ∃ i < n, (∀ j < i, ok j) ∧ b ∈ trace i (forEach body (List.range i) s).2 := by
  induction n with
  | zero => exact iff_of_false List.not_mem_nil fun ⟨i, hi, _⟩ => absurd hi (Nat.not_lt_zero i)
  | succ n ih =>
    rw [List.range_succ, forEachTrace_concat, List.mem_append, ih h.of_succ, Nat.exists_lt_succ_right]
    refine or_congr_right ?_
    rw [← (h.of_succ.run hs).1]
    split
    case isTrue hcode => exact (and_iff_right hcode).symm
    case isFalse hcode => exact iff_of_false List.not_mem_nil fun hall => hcode hall.1

end

end

end NvidiaOot.Library
