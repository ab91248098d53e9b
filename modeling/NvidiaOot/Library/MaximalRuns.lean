import Mathlib.Data.List.Basic

/-!
# Maximal runs in a list

A run is a stretch of neighbours that all have a property, and it is maximal when its neighbours on both sides do not
have it.  A list that starts with elements of the property is taken apart at the first element without it: the start is
a maximal run, and the others are those of the rest.
-/

namespace NvidiaOot.Library

variable {α : Type}

/-- `run` is a maximal run of `l`, with `front` before it and `back` behind it. -/
structure MaximalRun (p : α → Prop) (l front run back : List α) : Prop where
  split : l = front ++ run ++ back
  nonempty : run ≠ []
  all : ∀ a ∈ run, p a
  before : ∀ a, front.getLast? = some a → ¬ p a
  after : ∀ a, back.head? = some a → ¬ p a

variable {p : α → Prop} {l front run back : List α} {a : α}

/-- Elements of the property before a run are none. -/
theorem MaximalRun.front_eq_nil (h : MaximalRun p l front run back) (hall : ∀ a ∈ front, p a) : front = [] := by
  rcases List.eq_nil_or_concat front with hnil | ⟨start, b, hconcat⟩
  · exact hnil
  rw [hconcat, List.concat_eq_append] at hall
  have hlast : front.getLast? = some b := by
    rw [hconcat, List.concat_eq_append, List.getLast?_append, List.getLast?_singleton, Option.some_or]
  exact absurd (hall b (List.mem_append_right start List.mem_cons_self)) (h.before b hlast)

/-- Elements of the property behind a run are none. -/
theorem MaximalRun.back_eq_nil {c d : List α} (h : MaximalRun p l front run back) (hback : back = c ++ d)
    (hall : ∀ a ∈ c, p a) : c = [] := by
  cases c with
  | nil => rfl
  | cons b c =>
    have hhead : back.head? = some b := by rw [hback, List.cons_append, List.head?_cons]
    exact absurd (hall b List.mem_cons_self) (h.after b hhead)

/-- **A list of elements of the property** is its only run. -/
theorem MaximalRun.eq_of_all (h : MaximalRun p l front run back) (hall : ∀ a ∈ l, p a) :
    front = [] ∧ run = l ∧ back = [] := by
  have hsplit := h.split
  have hfront : front = [] := by
    apply h.front_eq_nil
    intro a ha
    rw [hsplit] at hall
    exact hall a (List.mem_append_left back (List.mem_append_left run ha))
  have hback : back = [] := by
    apply h.back_eq_nil (List.append_nil back).symm
    intro a ha
    rw [hsplit] at hall
    exact hall a (List.mem_append_right _ ha)
  rw [hfront, hback, List.nil_append, List.append_nil] at hsplit
  exact ⟨hfront, hsplit.symm, hback⟩

/-- **The runs of a list** that starts with `l`, where the element behind `l` does not have the property. -/
theorem MaximalRun.cases_append {rest : List α} (h : MaximalRun p (l ++ a :: rest) front run back)
    (hall : ∀ a ∈ l, p a) (ha : ¬ p a) : (front = [] ∧ run = l ∧ back = a :: rest) ∨
      ∃ front', front = l ++ a :: front' ∧ MaximalRun p rest front' run back := by
  have hsplit := h.split
  rw [List.append_assoc] at hsplit
  rcases List.append_eq_append_iff.mp hsplit with ⟨c, hfront, hrest⟩ | ⟨c, hl, hrun⟩
  · right
    cases c with
    | nil =>
      obtain ⟨b, run', hcons⟩ := List.exists_cons_of_ne_nil h.nonempty
      rw [List.nil_append, hcons, List.cons_append] at hrest
      obtain ⟨rfl, -⟩ := List.cons.inj hrest
      exact absurd (h.all a (by rw [hcons]; exact List.mem_cons_self)) ha
    | cons b front' =>
      obtain ⟨rfl, htail⟩ := List.cons.inj hrest
      refine ⟨front', hfront, ⟨?_, h.nonempty, h.all, fun b hb => ?_, h.after⟩⟩
      · rw [List.append_assoc]
        exact htail
      · apply h.before b
        rw [hfront, List.getLast?_append, List.getLast?_cons, hb]
        rfl
  left
  have hnil : front = [] := by
    apply h.front_eq_nil
    intro b hb
    exact hall b (by rw [hl]; exact List.mem_append_left c hb)
  rw [hnil, List.nil_append] at hl
  subst hl
  rcases List.append_eq_append_iff.mp hrun with ⟨d, hl, hback⟩ | ⟨d, hrun, hrest⟩
  · obtain rfl := h.back_eq_nil hback fun b hb => hall b (by rw [hl]; exact List.mem_append_right run hb)
    exact ⟨hnil, by rw [hl, List.append_nil], hback⟩
  cases d with
  | nil => exact ⟨hnil, by rw [hrun, List.append_nil], hrest.symm⟩
  | cons b d =>
    obtain ⟨rfl, -⟩ := List.cons.inj hrest
    exact absurd (h.all a (by rw [hrun]; exact List.mem_append_right l List.mem_cons_self)) ha

end NvidiaOot.Library
