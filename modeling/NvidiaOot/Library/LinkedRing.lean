import Mathlib.Data.List.Nodup

/-!
# Circular lists of embedded nodes

A list whose nodes are fields of the objects that it links: every node has a next and a previous
one, or none when it is in no list and was never in one.  `Ring m head l` says that going on from
`head` leads through `l` and back to `head`.  Each operation says what it does to the ring that it
is for, and that it leaves the nodes outside of it alone.
-/

namespace NvidiaOot.Library

open Function

variable {ν : Type}

/-- The links of all nodes. -/
structure Links (ν : Type) where
  next : ν → Option ν
  prev : ν → Option ν

/-- Going on from `a` leads through `l` to `b`, and back. -/
def Links.Path (m : Links ν) : ν → List ν → ν → Prop
  | a, [], b => m.next a = some b ∧ m.prev b = some a
  | a, x :: l, b => m.next a = some x ∧ m.prev x = some a ∧ Links.Path m x l b

structure Ring (m : Links ν) (head : ν) (l : List ν) : Prop where
  path : m.Path head l head
  nodup : (head :: l).Nodup

section

variable {m m' : Links ν} {a b new head : ν} {l : List ν}

/-- A path depends on the links forward from all its nodes but the last and backward from all but
the first. -/
theorem Links.Path.congr (hnext : ∀ y ∈ a :: l, m'.next y = m.next y)
    (hprev : ∀ y, y = b ∨ y ∈ l → m'.prev y = m.prev y) (h : m.Path a l b) : m'.Path a l b := by
  induction l generalizing a with
  | nil =>
    obtain ⟨hn, hp⟩ := h
    exact ⟨(hnext a List.mem_cons_self).trans hn, (hprev b (Or.inl rfl)).trans hp⟩
  | cons y l ih =>
    obtain ⟨hn, hp, h⟩ := h
    refine ⟨(hnext a List.mem_cons_self).trans hn, (hprev y (Or.inr List.mem_cons_self)).trans hp, ?_⟩
    apply ih _ _ h
    · exact fun z hz => hnext z (List.mem_cons_of_mem a hz)
    · exact fun z hz => hprev z (hz.imp id (List.mem_cons_of_mem y))

theorem Links.Path.prev_end (h : m.Path a l b) : m.prev b = some (l.getLastD a) := by
  induction l generalizing a with
  | nil => exact h.2
  | cons y l ih =>
    rw [List.getLastD_cons]
    exact ih h.2.2

theorem Links.Path.next_start (h : m.Path a l b) : m.next a = some (l.headD b) := by
  cases l with
  | nil | cons y l => exact h.1

theorem Links.Path.concat (h : m.Path a l new) (hn : m.next new = some b) (hp : m.prev b = some new) :
    m.Path a (l ++ [new]) b := by
  induction l generalizing a with
  | nil => exact ⟨h.1, h.2, hn, hp⟩
  | cons y l ih => exact ⟨h.1, h.2.1, ih h.2.2⟩

theorem Links.Path.redirect (hnodup : (a :: l).Nodup) (hnew : new ∉ a :: l) (hb : b ∉ l)
    (hnext : ∀ y, y ≠ new → y ≠ l.getLastD a → m'.next y = m.next y)
    (hlast : m'.next (l.getLastD a) = some new) (hprev : ∀ y, y ≠ b → y ≠ new → m'.prev y = m.prev y)
    (hback : m'.prev new = some (l.getLastD a)) (h : m.Path a l b) : m'.Path a l new := by
  induction l generalizing a with
  | nil => exact ⟨hlast, hback⟩
  | cons y l ih =>
    obtain ⟨hn, hp, h⟩ := h
    rw [List.getLastD_cons] at hnext hlast hback
    obtain ⟨ha, hnodup'⟩ := List.nodup_cons.mp hnodup
    have hane : a ≠ l.getLastD y := by
      intro heq
      rw [heq] at ha
      exact ha List.getLastD_mem_cons
    refine ⟨?_, ?_, ?_⟩
    · rw [hnext a (fun heq => hnew (heq ▸ List.mem_cons_self)) hane]
      exact hn
    · rw [hprev y (fun heq => hb (heq ▸ List.mem_cons_self))
        (fun heq => hnew (heq ▸ List.mem_cons_of_mem a List.mem_cons_self))]
      exact hp
    · exact ih hnodup' (fun hmem => hnew (List.mem_cons_of_mem a hmem))
        (fun hmem => hb (List.mem_cons_of_mem y hmem)) hnext hlast hback h

theorem Ring.frame (h : Ring m head l)
    (hsame : ∀ y ∈ head :: l, m'.next y = m.next y ∧ m'.prev y = m.prev y) : Ring m' head l := by
  refine ⟨h.path.congr (fun y hy => (hsame y hy).1) ?_, h.nodup⟩
  rintro y (rfl | hy)
  · exact (hsame y List.mem_cons_self).2
  · exact (hsame y (List.mem_cons_of_mem head hy)).2

end

section

variable [DecidableEq ν]

/-- An empty list at `head`. -/
def Links.initHead (m : Links ν) (head : ν) : Links ν where
  next := update m.next head (some head)
  prev := update m.prev head (some head)

/-- A node is put before `head`, which is at the end; there is no result when `head` was not
initialised. -/
def Links.addTail (m : Links ν) (new head : ν) : Option (Links ν) :=
  (m.prev head).map fun last =>
    { next := update (update m.next new (some head)) last (some new)
      prev := update (update m.prev head (some new)) new (some last) }

/-- A node is taken out of its list; its own links are gone then. -/
def Links.del (m : Links ν) (x : ν) : Option (Links ν) :=
  (m.next x).bind fun n => (m.prev x).map fun p =>
    { next := update (update m.next p (some n)) x none
      prev := update (update m.prev n (some p)) x none }

/-- The nodes from `cur` on are taken out one by one, until `head` comes: the next node is read
before. -/
def Links.drain (head : ν) : ℕ → Links ν → ν → Option (Links ν × List ν)
  | 0, _, _ => none
  | n + 1, m, cur =>
    if cur = head then some (m, [])
    else (m.next cur).bind fun following => (m.del cur).bind fun m' =>
      (Links.drain head n m' following).map fun r => (r.1, cur :: r.2)

variable {m m' : Links ν} {x y head new : ν} {l : List ν}

theorem ring_initHead (m : Links ν) (head : ν) : Ring (m.initHead head) head [] := by
  refine ⟨⟨?_, ?_⟩, List.nodup_singleton head⟩
  · exact update_self _ _ _
  · exact update_self _ _ _

theorem initHead_of_ne (hy : y ≠ head) :
    (m.initHead head).next y = m.next y ∧ (m.initHead head).prev y = m.prev y :=
  ⟨update_of_ne hy _ _, update_of_ne hy _ _⟩

/-- **A new node at the end of a ring.** -/
theorem Ring.addTail (h : Ring m head l) (hnew : new ∉ head :: l) :
    ∃ m', m.addTail new head = some m' ∧ Ring m' head (l ++ [new]) ∧
      ∀ y, y ∉ new :: head :: l → m'.next y = m.next y ∧ m'.prev y = m.prev y := by
  have hprev := h.path.prev_end
  have hmem : l.getLastD head ∈ head :: l := List.getLastD_mem_cons
  have hne : head ≠ new := fun heq => hnew (heq ▸ List.mem_cons_self)
  have hlast : new ≠ l.getLastD head := fun heq => hnew (heq ▸ hmem)
  obtain ⟨hhead, hl⟩ := List.nodup_cons.mp h.nodup
  unfold Links.addTail
  rw [hprev, Option.map_some]
  refine ⟨_, rfl, ⟨?_, ?_⟩, ?_⟩
  · -- the old path ends in the new node now, and from there it is one step to the head
    apply Links.Path.concat
    · apply Links.Path.redirect h.nodup hnew hhead _ _ _ _ h.path
      · intro y hy hy'
        dsimp only
        rw [update_of_ne hy', update_of_ne hy]
      · exact update_self _ _ _
      · intro y hy hy'
        dsimp only
        rw [update_of_ne hy', update_of_ne hy]
      · exact update_self _ _ _
    · dsimp only
      rw [update_of_ne hlast, update_self]
    · dsimp only
      rw [update_of_ne hne, update_self]
  · apply List.Nodup.append h.nodup (List.nodup_singleton new)
    rw [List.disjoint_singleton]
    exact hnew
  · intro y hy
    obtain ⟨hynew, hrest⟩ := not_or.mp (List.mem_cons.not.mp hy)
    obtain ⟨hyhead, _⟩ := not_or.mp (List.mem_cons.not.mp hrest)
    have hylast : y ≠ l.getLastD head := fun heq => hrest (heq ▸ hmem)
    dsimp only
    rw [update_of_ne hylast, update_of_ne hynew, update_of_ne hynew, update_of_ne hyhead]
    exact ⟨rfl, rfl⟩

/-- The nodes of a list are put at the end, one after the other. -/
def Links.addTails (head : ν) (m : Links ν) (nodes : List ν) : Option (Links ν) :=
  nodes.foldlM (fun m new => m.addTail new head) m

theorem Ring.addTails (h : Ring m head l) {nodes : List ν} (hnodup : nodes.Nodup)
    (hnew : ∀ y ∈ nodes, y ∉ head :: l) : ∃ m', Links.addTails head m nodes = some m' ∧ Ring m' head (l ++ nodes) ∧
      ∀ y, y ∉ head :: l → y ∉ nodes → m'.next y = m.next y ∧ m'.prev y = m.prev y := by
  induction nodes generalizing m l with
  | nil => exact ⟨m, rfl, by rw [List.append_nil]; exact h, fun _ _ _ => ⟨rfl, rfl⟩⟩
  | cons x nodes ih =>
    obtain ⟨hx, hnodup'⟩ := List.nodup_cons.mp hnodup
    obtain ⟨m₁, hadd, hring, hsame⟩ := h.addTail (hnew x List.mem_cons_self)
    have hmem : ∀ y, y ∈ head :: (l ++ [x]) ↔ y = x ∨ y ∈ head :: l := by
      intro y
      simp only [List.mem_cons, List.mem_append, List.not_mem_nil, or_false]
      tauto
    obtain ⟨m₂, hadds, hring', hsame'⟩ := ih hring hnodup' (by
      intro y hy hyin
      rcases (hmem y).mp hyin with rfl | hold
      · exact hx hy
      · exact hnew y (List.mem_cons_of_mem x hy) hold)
    refine ⟨m₂, ?_, ?_, ?_⟩
    · unfold Links.addTails at hadds ⊢
      rw [List.foldlM_cons, hadd]
      exact hadds
    · rw [List.append_assoc] at hring'
      exact hring'
    · intro y hy hyn
      obtain ⟨hyx, hyn'⟩ := not_or.mp (List.mem_cons.not.mp hyn)
      obtain ⟨h₁, h₂⟩ := hsame' y (fun hyin => ((hmem y).mp hyin).elim hyx hy) hyn'
      obtain ⟨h₃, h₄⟩ := hsame y (List.not_mem_cons_of_ne_of_not_mem hyx hy)
      exact ⟨h₁.trans h₃, h₂.trans h₄⟩

/-- **The first node of a ring is taken out.** -/
theorem Ring.delFirst (h : Ring m head (x :: l)) : ∃ m', m.del x = some m' ∧ Ring m' head l ∧
      ∀ y, y ∉ head :: x :: l → m'.next y = m.next y ∧ m'.prev y = m.prev y := by
  obtain ⟨hhead, hnodup⟩ := List.nodup_cons.mp h.nodup
  obtain ⟨hx, hl⟩ := List.nodup_cons.mp hnodup
  obtain ⟨hhx, hheadl⟩ := not_or.mp (List.mem_cons.not.mp hhead)
  obtain ⟨_, hp, hpath⟩ := h.path
  -- the node after `x`, or the head
  obtain ⟨n, hn, hnmem, hpath'⟩ : ∃ n, m.next x = some n ∧ n ∈ head :: l ∧
      ∀ m' : Links ν, m'.next head = some n → m'.prev n = some head →
        (∀ y ∈ l, m'.next y = m.next y) → (∀ y, y ∈ head :: l → y ≠ n → m'.prev y = m.prev y) →
        m'.Path head l head := by
    cases l with
    | nil => exact ⟨head, hpath.1, List.mem_cons_self, fun m' h₁ h₂ _ _ => ⟨h₁, h₂⟩⟩
    | cons z l =>
      refine ⟨z, hpath.1, List.mem_cons_of_mem _ List.mem_cons_self, ?_⟩
      intro m' h₁ h₂ hsame hsame'
      refine ⟨h₁, h₂, hpath.2.2.congr hsame ?_⟩
      rintro y (rfl | hy)
      · exact hsame' y List.mem_cons_self (fun heq => hheadl (heq ▸ List.mem_cons_self))
      · apply hsame' y (List.mem_cons_of_mem _ (List.mem_cons_of_mem z hy))
        intro heq
        rw [heq] at hy
        exact (List.nodup_cons.mp hl).1 hy
  have hnx : n ≠ x := by
    rintro rfl
    rcases List.mem_cons.mp hnmem with heq | hmem
    · exact hhx heq.symm
    · exact hx hmem
  unfold Links.del
  rw [hn, hp, Option.bind_some, Option.map_some]
  refine ⟨_, rfl, ⟨?_, ?_⟩, ?_⟩
  · apply hpath'
    · dsimp only
      rw [update_of_ne hhx, update_self]
    · dsimp only
      rw [update_of_ne hnx, update_self]
    · intro y hy
      dsimp only
      have hyx : y ≠ x := by
        rintro rfl
        exact hx hy
      have hyhead : y ≠ head := by
        rintro rfl
        exact hheadl hy
      rw [update_of_ne hyx, update_of_ne hyhead]
    · intro y hy hyn
      have hyx : y ≠ x := by
        rintro rfl
        rcases List.mem_cons.mp hy with heq | hmem
        · exact hhx heq.symm
        · exact hx hmem
      dsimp only
      rw [update_of_ne hyx, update_of_ne hyn]
  · exact List.nodup_cons.mpr ⟨hheadl, hl⟩
  · intro y hy
    obtain ⟨hyhead, hrest⟩ := not_or.mp (List.mem_cons.not.mp hy)
    obtain ⟨hyx, hyl⟩ := not_or.mp (List.mem_cons.not.mp hrest)
    have hyn : y ≠ n := by
      rintro rfl
      exact (List.mem_cons.mp hnmem).elim hyhead hyl
    dsimp only
    rw [update_of_ne hyx, update_of_ne hyhead, update_of_ne hyx, update_of_ne hyn]
    exact ⟨rfl, rfl⟩

/-- **A ring is drained**: its nodes come in order, and the ring is empty then. -/
theorem Ring.drain (h : Ring m head l) {n : ℕ} (hn : l.length < n) :
    ∃ cur m', m.next head = some cur ∧ Links.drain head n m cur = some (m', l) ∧ Ring m' head [] ∧
      ∀ y, y ∉ head :: l → m'.next y = m.next y ∧ m'.prev y = m.prev y := by
  induction l generalizing m n with
  | nil =>
    obtain ⟨n, rfl⟩ := Nat.exists_eq_succ_of_ne_zero (Nat.ne_of_gt hn)
    refine ⟨head, m, h.path.1, ?_, h, fun _ _ => ⟨rfl, rfl⟩⟩
    unfold Links.drain
    rw [if_pos rfl]
  | cons x l ih =>
    obtain ⟨n, rfl⟩ := Nat.exists_eq_succ_of_ne_zero (Nat.ne_zero_of_lt hn)
    obtain ⟨m₁, hdel, hring, hsame⟩ := h.delFirst
    obtain ⟨cur, m₂, hcur, hdrain, hempty, hsame'⟩ := ih hring (Nat.lt_of_succ_lt_succ hn)
    have hne : x ≠ head := fun heq => (List.nodup_cons.mp h.nodup).1 (heq ▸ List.mem_cons_self)
    -- the node that was read before is the first of the rest
    have hnext : m.next x = some cur := by
      rw [h.path.2.2.next_start, ← hring.path.next_start]
      exact hcur
    refine ⟨x, m₂, h.path.1, ?_, hempty, ?_⟩
    · unfold Links.drain
      rw [if_neg hne, hnext, Option.bind_some, hdel, Option.bind_some, hdrain]
      rfl
    · intro y hy
      obtain ⟨hyhead, hrest⟩ := not_or.mp (List.mem_cons.not.mp hy)
      obtain ⟨hyx, hyl⟩ := not_or.mp (List.mem_cons.not.mp hrest)
      obtain ⟨h₁, h₂⟩ := hsame y hy
      obtain ⟨h₃, h₄⟩ := hsame' y (List.not_mem_cons_of_ne_of_not_mem hyhead hyl)
      exact ⟨h₃.trans h₁, h₄.trans h₂⟩

end

end NvidiaOot.Library
