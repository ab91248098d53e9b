import Mathlib.Data.List.Basic

/-!
# Sequential programs over a shared state

`Prog S E B α` is a sequential program that returns an `α`.  It works on a state
`S` that others may change as well: `act f k` is one indivisible access (`f` says
which event of type `E` it is and what it does to the state, `k` continues with
the state the access saw), `own f k` is an operation on the part of the state that
nobody else touches, and `bug b` is a reached assertion that stops the program.

Two readings of the same program are defined.

* `Prog.exec` runs it without interference (each call atomic).
* `Prog.Step` runs a process that executes calls one after another in an environment
  that may change the state, within a rely relation, between any two accesses.

For the second reading `Prog.Holds` is a rely-guarantee weakest precondition:
`Holds env P p Q tr s` says that, whatever the environment does within `env.rely`, every
state keeps `env.inv`, every event satisfies `P.event` (which also sees the events of the
call so far, latest first), only bugs in `P.bug` are reached and the result satisfies `Q`.
`Prog.Reachable.sound` is its soundness: if every call keeps its promise, all reachable
configurations of the process are sound.
-/

namespace NvidiaOot.Library

/-- A sequential program over the shared state `S` with events `E` and assertions `B`. -/
inductive Prog (S E B α : Type) : Type where
  | ret (a : α)
  | own (f : S → S) (k : S → Prog S E B α)
  | act (f : S → E × S) (k : S → Prog S E B α)
  | bug (b : B)

namespace Prog

variable {S E B α β : Type}

/-- Sequencing: continue with `g` on the result of the first program. -/
def bind : Prog S E B α → (α → Prog S E B β) → Prog S E B β
  | ret a, g => g a
  | own f k, g => own f fun s => bind (k s) g
  | act f k, g => act f fun s => bind (k s) g
  | bug b, _ => bug b

instance : Monad (Prog S E B) where
  pure := ret
  bind := bind

@[simp] theorem pure_bind (a : α) (g : α → Prog S E B β) : (Pure.pure a : Prog S E B α) >>= g = g a := rfl

@[simp] theorem own_bind (f : S → S) (k : S → Prog S E B α) (g : α → Prog S E B β) :
    own f k >>= g = own f fun s => k s >>= g := rfl

@[simp] theorem act_bind (f : S → E × S) (k : S → Prog S E B α) (g : α → Prog S E B β) :
    act f k >>= g = act f fun s => k s >>= g := rfl

@[simp] theorem bug_bind (b : B) (g : α → Prog S E B β) : (bug b : Prog S E B α) >>= g = bug b := rfl

@[simp] theorem ret_bind (a : α) (g : α → Prog S E B β) : (ret a : Prog S E B α) >>= g = g a := rfl

/-! ## Running without interference -/

/-- The result and final state of a program that nobody interferes with. -/
def exec : Prog S E B α → S → Except B (α × S)
  | ret a, s => .ok (a, s)
  | own f k, s => exec (k s) (f s)
  | act f k, s => exec (k s) (f s).2
  | bug b, _ => .error b

@[simp] theorem exec_ret (a : α) (s : S) : exec (ret a : Prog S E B α) s = .ok (a, s) := rfl

@[simp] theorem exec_pure (a : α) (s : S) : exec (Pure.pure a : Prog S E B α) s = .ok (a, s) := rfl

@[simp] theorem exec_own (f : S → S) (k : S → Prog S E B α) (s : S) : exec (own f k) s = exec (k s) (f s) := rfl

@[simp] theorem exec_act (f : S → E × S) (k : S → Prog S E B α) (s : S) :
    exec (act f k) s = exec (k s) (f s).2 := rfl

@[simp] theorem exec_bug (b : B) (s : S) : exec (bug b : Prog S E B α) s = .error b := rfl

/-- Running a sequence is running its parts one after the other. -/
theorem exec_bind (p : Prog S E B α) (g : α → Prog S E B β) (s : S) :
    exec (p >>= g) s = (exec p s).bind fun x => exec (g x.1) x.2 := by
  induction p generalizing s with
  | ret a => rfl
  | own f k ih => exact ih s (f s)
  | act f k ih => exact ih s (f s).2
  | bug b => rfl

/-- A sequence whose first part returns continues from there. -/
theorem exec_bind_of_ok {p : Prog S E B α} {g : α → Prog S E B β} {s s' : S} {a : α}
    (h : exec p s = .ok (a, s')) : exec (p >>= g) s = exec (g a) s' := by
  rw [exec_bind, h]
  rfl

/-- A sequence whose first part reaches a bug reaches it. -/
theorem exec_bind_of_error {p : Prog S E B α} {g : α → Prog S E B β} {s : S} {b : B}
    (h : exec p s = .error b) : exec (p >>= g) s = .error b := by
  rw [exec_bind, h]
  rfl

/-- A sequence returns exactly when its first part does and the rest then returns. -/
theorem exec_bind_eq_ok {p : Prog S E B α} {g : α → Prog S E B β} {s : S} {x : β × S} : exec (p >>= g) s = .ok x ↔
      ∃ a s', exec p s = .ok (a, s') ∧ exec (g a) s' = .ok x := by
  rw [exec_bind]
  cases exec p s with
  | error b => simp [Except.bind]
  | ok y =>
    obtain ⟨a, s'⟩ := y
    simp [Except.bind]

/-- Whatever the program returns from the state is as `Q` says. -/
def Returns (p : Prog S E B α) (s : S) (Q : α → S → Prop) : Prop := ∀ a s', exec p s = .ok (a, s') → Q a s'

section

variable {p p' : Prog S E B α} {g : α → Prog S E B β} {s s' : S} {a : α}

theorem Returns.of_ok {Q : α → S → Prop} (hp : exec p s = .ok (a, s')) (h : Q a s') : Returns p s Q := by
  intro b t hb
  rw [hp] at hb
  cases hb
  exact h

/-- The sequencing rule. -/
theorem Returns.bind {Q : β → S → Prop} (h : Returns p s fun a s' => Returns (g a) s' Q) : Returns (p >>= g) s Q := by
  intro b t hb
  obtain ⟨a, s', ha, hb⟩ := exec_bind_eq_ok.mp hb
  exact h a s' ha b t hb

theorem Returns.ite {Q : α → S → Prop} {test : Prop} [Decidable test] (h : test → Returns p s Q)
    (h' : ¬ test → Returns p' s Q) : Returns (if test then p else p') s Q := by
  split
  · exact h ‹_›
  · exact h' ‹_›

end

end Prog

/-! ## Promises under interference -/

/-- What the environment may do, and what holds at all times. -/
structure Environment (S : Type) where
  /-- What may happen between two accesses. -/
  rely : S → S → Prop
  /-- What holds at all times. -/
  inv : S → Prop
  rely_refl : ∀ s, rely s s
  rely_trans : ∀ s t u, rely s t → rely t u → rely s u
  inv_stable : ∀ s t, inv s → rely s t → inv t

/-- What a call promises. -/
structure Promise (E B : Type) where
  /-- What is promised of each event, given the earlier events of the call (latest first). -/
  event : List E → E → Prop
  /-- The assertions that may fail. -/
  bug : B → Prop

namespace Prog

variable {S E B α β : Type} (env : Environment S) (P : Promise E B)

/-- The rely-guarantee weakest precondition of a program. -/
def Holds : Prog S E B α → (α → List E → S → Prop) → List E → S → Prop
  | ret a, Q, tr, s => Q a tr s
  | own f k, Q, tr, s => env.inv (f s) ∧ ∀ s', env.rely (f s) s' → Holds (k s) Q tr s'
  | act f k, Q, tr, s => P.event tr (f s).1 ∧ env.inv (f s).2 ∧
      ∀ s', env.rely (f s).2 s' → Holds (k s) Q ((f s).1 :: tr) s'
  | bug b, _, _, _ => P.bug b

@[simp] theorem holds_ret (a : α) (Q : α → List E → S → Prop) (tr : List E) (s : S) :
    Holds env P (ret a) Q tr s ↔ Q a tr s := Iff.rfl

@[simp] theorem holds_pure (a : α) (Q : α → List E → S → Prop) (tr : List E) (s : S) :
    Holds env P (Pure.pure a) Q tr s ↔ Q a tr s := Iff.rfl

@[simp] theorem holds_bug (b : B) (Q : α → List E → S → Prop) (tr : List E) (s : S) :
    Holds env P (bug b) Q tr s ↔ P.bug b := Iff.rfl

@[simp] theorem holds_own (f : S → S) (k : S → Prog S E B α) (Q : α → List E → S → Prop) (tr : List E) (s : S) :
    Holds env P (own f k) Q tr s ↔ env.inv (f s) ∧ ∀ s', env.rely (f s) s' → Holds env P (k s) Q tr s' := Iff.rfl

@[simp] theorem holds_act (f : S → E × S) (k : S → Prog S E B α) (Q : α → List E → S → Prop) (tr : List E) (s : S) :
    Holds env P (act f k) Q tr s ↔ P.event tr (f s).1 ∧ env.inv (f s).2 ∧
      ∀ s', env.rely (f s).2 s' → Holds env P (k s) Q ((f s).1 :: tr) s' := Iff.rfl

/-- **The sequencing rule**: the first part must establish what the rest needs. -/
theorem holds_bind (p : Prog S E B α) (g : α → Prog S E B β) (Q : β → List E → S → Prop) (tr : List E) (s : S) :
    Holds env P (p >>= g) Q tr s ↔ Holds env P p (fun a tr s => Holds env P (g a) Q tr s) tr s := by
  induction p generalizing tr s with
  | ret a => rfl
  | own f k ih =>
    exact and_congr_right fun _ => forall_congr' fun s' => imp_congr_right fun _ => ih s tr s'
  | act f k ih =>
    exact and_congr_right fun _ => and_congr_right fun _ =>
      forall_congr' fun s' => imp_congr_right fun _ => ih s _ s'
  | bug b => rfl

variable {env P}

/-! ## A process that executes calls in an environment -/

/-- A process is between two calls, or inside one with the rest of its program to do
and the events of the call so far. -/
inductive Config (S E B α : Type) (κ : Type) : Type where
  | idle (s : S)
  | busy (c : κ) (p : Prog S E B α) (tr : List E) (s : S)

variable {κ : Type}

/-- The shared state of a configuration. -/
def Config.state : Config S E B α κ → S
  | .idle s => s
  | .busy _ _ _ s => s

/-- One step of the process or of its environment. -/
inductive Step (code : κ → Prog S E B α) (rely : S → S → Prop) :
    Config S E B α κ → Config S E B α κ → Prop where
  | call (c : κ) (s : S) : Step code rely (.idle s) (.busy c (code c) [] s)
  | own (c : κ) (f : S → S) (k : S → Prog S E B α) (tr : List E) (s : S) :
      Step code rely (.busy c (own f k) tr s) (.busy c (k s) tr (f s))
  | act (c : κ) (f : S → E × S) (k : S → Prog S E B α) (tr : List E) (s : S) :
      Step code rely (.busy c (act f k) tr s) (.busy c (k s) ((f s).1 :: tr) (f s).2)
  | done (c : κ) (a : α) (tr : List E) (s : S) :
      Step code rely (.busy c (ret a) tr s) (.idle s)
  | environmentIdle (s s' : S) (h : rely s s') : Step code rely (.idle s) (.idle s')
  | environmentBusy (c : κ) (p : Prog S E B α) (tr : List E) (s s' : S) (h : rely s s') :
      Step code rely (.busy c p tr s) (.busy c p tr s')

/-- What a sound configuration satisfies: the invariant, and inside a call also that the
rest of the call keeps its promise whatever the environment does next. -/
def Sound (env : Environment S) (P : κ → Promise E B) (Q : κ → α → List E → S → Prop) :
    Config S E B α κ → Prop
  | .idle s => env.inv s
  | .busy c p tr s => env.inv s ∧ ∀ s', env.rely s s' → Holds env (P c) p (Q c) tr s'

section

variable {P : κ → Promise E B} {Q : κ → α → List E → S → Prop} {code : κ → Prog S E B α}

/-- The invariant holds in every sound configuration. -/
theorem Sound.inv {x : Config S E B α κ} (h : Sound env P Q x) : env.inv x.state := by
  cases x with
  | idle s => exact h
  | busy c p tr s => exact h.1

/-- **The step lemma**: a step of the process or the environment keeps soundness, when
every call keeps its promise. -/
theorem Sound.step (hcode : ∀ c s, env.inv s → Holds env (P c) (code c) (Q c) [] s)
    {x y : Config S E B α κ} (hx : Sound env P Q x) (h : Step code env.rely x y) : Sound env P Q y := by
  cases h with
  | call c s => exact ⟨hx, fun s' hs' => hcode c s' (env.inv_stable s s' hx hs')⟩
  | own c f k tr s =>
    have := hx.2 s (env.rely_refl s)
    exact ⟨this.1, this.2⟩
  | act c f k tr s =>
    have := hx.2 s (env.rely_refl s)
    exact ⟨this.2.1, this.2.2⟩
  | done c a tr s => exact hx.1
  | environmentIdle s s' h => exact env.inv_stable s s' hx h
  | environmentBusy c p tr s s' h =>
    exact ⟨env.inv_stable s s' hx.1 h, fun t ht => hx.2 t (env.rely_trans s s' t h ht)⟩

/-- The configurations that the process reaches from a state between two calls. -/
inductive Reachable (code : κ → Prog S E B α) (rely : S → S → Prop) (s : S) :
    Config S E B α κ → Prop where
  | start : Reachable code rely s (.idle s)
  | step {x y : Config S E B α κ} (hx : Reachable code rely s x) (h : Step code rely x y) :
      Reachable code rely s y

/-- **Soundness of the promises**: every reachable configuration is sound. -/
theorem Reachable.sound (hcode : ∀ c s, env.inv s → Holds env (P c) (code c) (Q c) [] s)
    {s : S} (hs : env.inv s) {x : Config S E B α κ} (hx : Reachable code env.rely s x) : Sound env P Q x := by
  induction hx with
  | start => exact hs
  | step _ h ih => exact ih.step hcode h

/-- In a sound configuration that is about to do an access, the promise on the event holds. -/
theorem Sound.event {c : κ} {f : S → E × S} {k : S → Prog S E B α} {tr : List E} {s : S}
    (h : Sound env P Q (.busy c (act f k) tr s)) : (P c).event tr (f s).1 :=
  (h.2 s (env.rely_refl s)).1

/-- In a sound configuration only permitted assertions fail. -/
theorem Sound.bug {c : κ} {b : B} {tr : List E} {s : S}
    (h : Sound env P Q (.busy c (bug b : Prog S E B α) tr s)) : (P c).bug b :=
  h.2 s (env.rely_refl s)

/-- In a sound configuration that returns, the result meets the call's promise. -/
theorem Sound.result {c : κ} {a : α} {tr : List E} {s : S}
    (h : Sound env P Q (.busy c (ret a) tr s)) : Q c a tr s :=
  h.2 s (env.rely_refl s)

end

end Prog

end NvidiaOot.Library
