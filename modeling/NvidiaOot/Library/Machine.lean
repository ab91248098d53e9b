import Mathlib.Data.Option.Basic

/-!
# Machines with partial steps, their runs and their invariants

A machine over states `σ` and inputs `ι` is a partial step function
`step : σ → ι → Option σ`: `none` means that the input is not enabled in that
state.  `run step s l` feeds the inputs of `l` one after another and is `none` as
soon as one of them is refused.

`run_invariant` is the induction rule of every safety result here: what holds at
the start and is preserved by each step holds after every run.  `AllSteps step P s l`
says that each step of the run satisfies `P` in the state before it, and
`run_invariant_of_allSteps` is the same rule for runs with that side condition.
-/

namespace NvidiaOot.Library

variable {σ ι : Type}

/-- The state after feeding the inputs of a list, when all of them are enabled. -/
def run (step : σ → ι → Option σ) : σ → List ι → Option σ
  | s, [] => some s
  | s, i :: l => (step s i).bind fun s' => run step s' l

/-- Every step of the run satisfies `P` in the state before it. -/
def AllSteps (step : σ → ι → Option σ) (P : σ → ι → Prop) : σ → List ι → Prop
  | _, [] => True
  | s, i :: l => P s i ∧ ∀ s', step s i = some s' → AllSteps step P s' l

instance AllSteps.decidable (step : σ → ι → Option σ) (P : σ → ι → Prop)
    [∀ s i, Decidable (P s i)] : ∀ s l, Decidable (AllSteps step P s l)
  | _, [] => isTrue trivial
  | s, i :: l =>
    match h : step s i with
    | none => decidable_of_iff (P s i) (by simp [AllSteps, h])
    | some s' =>
      haveI := AllSteps.decidable step P s' l
      decidable_of_iff (P s i ∧ AllSteps step P s' l) (by simp [AllSteps, h])

@[simp] theorem run_nil (step : σ → ι → Option σ) (s : σ) : run step s [] = some s := rfl

/-- A run of one more input is the first step and then the rest. -/
theorem run_cons_eq_some {step : σ → ι → Option σ} {s t : σ} {i : ι} {l : List ι} :
    run step s (i :: l) = some t ↔ ∃ s', step s i = some s' ∧ run step s' l = some t := by
  simp [run, Option.bind_eq_some_iff]

theorem run_append (step : σ → ι → Option σ) (s : σ) (l m : List ι) :
    run step s (l ++ m) = (run step s l).bind fun t => run step t m := by
  induction l generalizing s with
  | nil => rfl
  | cons i l ih =>
    simp only [List.cons_append, run, ih, Option.bind_assoc]

theorem AllSteps.append {step : σ → ι → Option σ} {P : σ → ι → Prop} {s t : σ} {l m : List ι}
    (hl : AllSteps step P s l) (hrun : run step s l = some t) (hm : AllSteps step P t m) :
    AllSteps step P s (l ++ m) := by
  induction l generalizing s with
  | nil =>
    rw [run_nil, Option.some.injEq] at hrun
    exact hrun ▸ hm
  | cons i l ih =>
    refine ⟨hl.1, ?_⟩
    intro s' hi
    obtain ⟨s'', hi', hrest⟩ := run_cons_eq_some.mp hrun
    obtain rfl := Option.some.inj (hi.symm.trans hi')
    exact ih (hl.2 s' hi) hrest

/-- A condition that these inputs meet in every state. -/
theorem allSteps_of_forall_mem {step : σ → ι → Option σ} {P : σ → ι → Prop} {l : List ι}
    (h : ∀ i ∈ l, ∀ s, P s i) (s : σ) : AllSteps step P s l := by
  induction l generalizing s with
  | nil => trivial
  | cons i l ih =>
    refine ⟨h i List.mem_cons_self s, ?_⟩
    intro s' _
    exact ih (fun j hj => h j (List.mem_cons_of_mem i hj)) s'

/-- **The invariant rule under a side condition on the steps.**  If each step that
satisfies `P` preserves `I`, then `I` holds after every run all of whose steps do. -/
theorem run_invariant_of_allSteps {step : σ → ι → Option σ} {P : σ → ι → Prop} {I : σ → Prop}
    (hstep : ∀ s i s', I s → P s i → step s i = some s' → I s')
    {s t : σ} {l : List ι} (hs : I s) (hP : AllSteps step P s l) (hrun : run step s l = some t) : I t := by
  induction l generalizing s with
  | nil =>
    rw [run_nil, Option.some.injEq] at hrun
    exact hrun ▸ hs
  | cons i l ih =>
    obtain ⟨s', hi, hl⟩ := run_cons_eq_some.mp hrun
    exact ih (hstep s i s' hs hP.1 hi) (hP.2 s' hi) hl

/-- The condition that is always true holds of every step. -/
theorem allSteps_true (step : σ → ι → Option σ) (s : σ) (l : List ι) : AllSteps step (fun _ _ => True) s l := by
  induction l generalizing s with
  | nil => trivial
  | cons i l ih => exact ⟨trivial, fun s' _ => ih s'⟩

/-- **The invariant rule.**  What each step preserves holds after every run. -/
theorem run_invariant {step : σ → ι → Option σ} {I : σ → Prop} (hstep : ∀ s i s', I s → step s i = some s' → I s')
    {s t : σ} {l : List ι} (hs : I s) (hrun : run step s l = some t) : I t :=
  run_invariant_of_allSteps (P := fun _ _ => True) (fun s i s' h _ => hstep s i s' h) hs
    (allSteps_true step s l) hrun

/-- What an invariant implies of each step holds of every step of a run. -/
theorem allSteps_of_invariant {step : σ → ι → Option σ} {P : σ → ι → Prop} {I : σ → Prop}
    (hstep : ∀ s i s', I s → step s i = some s' → I s') (hP : ∀ s i, I s → P s i)
    {s : σ} (hs : I s) (l : List ι) : AllSteps step P s l := by
  induction l generalizing s with
  | nil => trivial
  | cons i l ih => exact ⟨hP s i hs, fun s' hi => ih (hstep s i s' hs hi)⟩

/-- A run that ends in a state with a property, by evaluating a test of the last state. -/
theorem exists_run_of_any {step : σ → ι → Option σ} {Q : σ → Prop} {s : σ} {l : List ι} (p : σ → Bool)
    (hany : (run step s l).any p = true) (hp : ∀ t, p t = true → Q t) : ∃ t, run step s l = some t ∧ Q t := by
  obtain ⟨t, ht, htest⟩ := (Option.any_eq_true _ _).mp hany
  exact ⟨t, ht, hp t htest⟩

/-- The value of an option, from an equation that evaluates a part of it. -/
theorem exists_of_map {α β : Type} {o : Option α} {Q : α → Prop} (f : α → β) (b : β) (hmap : o.map f = some b)
    (hQ : ∀ a, o = some a → f a = b → Q a) : ∃ a, o = some a ∧ Q a := by
  obtain ⟨a, ha, hb⟩ := Option.map_eq_some_iff.mp hmap
  exact ⟨a, ha, hQ a ha hb⟩

/-- What each step of a loop keeps the loop keeps. -/
theorem foldl_keeps {σ γ β : Type} (g : σ → γ) (f : σ → β → σ) (hf : ∀ s b, g (f s b) = g s) (l : List β) (s : σ) :
    g (l.foldl f s) = g s := by
  induction l generalizing s with
  | nil => rfl
  | cons b l ih =>
    rw [List.foldl_cons, ih, hf]

end NvidiaOot.Library
