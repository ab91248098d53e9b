import NvidiaOot.Model.ManagedMemory

/-!
# What the operations on a free list keep

Chunks are read as ranges.  Taking the best fit splits one range, and putting a chunk back
glues it to the neighbours that it touches; so the list stays sorted with gaps in between, and
the addresses that it covers are those it should.
-/

namespace NvidiaOot.Analysis

open Library Program Model

section

variable {a b c : Chunk} {l l' : List Chunk} {base size x : ℕ}

@[simp] theorem ranges_cons : ranges (c :: l) = range c :: ranges l := rfl

@[simp] theorem ranges_append : ranges (l ++ l') = ranges l ++ ranges l' := List.map_append

theorem mem_ranges (h : c ∈ l) : range c ∈ ranges l := List.mem_map_of_mem h

theorem forall_mem_ranges {p : Range → Prop} : (∀ r ∈ ranges l, p r) ↔ ∀ c ∈ l, p (range c) := by
  simp [ranges]

def ChunkFits (base size : ℕ) (c : Chunk) : Prop :=
  base ≤ (range c).start ∧ (range c).stop ≤ base + size

theorem address_add_eq_iff (h : (range a).stop ≤ (range b).start) :
    a.address + a.size = b.address ↔ (range a).stop = (range b).start := by
  unfold range Range.stop at *
  dsimp only at h ⊢
  rw [← BitVec.toNat_inj, BitVec.toNat_add]
  omega

theorem range_glue (hsize : size < 2 ^ 64) (ha : ChunkFits base size a) (hb : ChunkFits base size b)
    (h : (range a).stop = (range b).start) :
    range ⟨a.address, a.size + b.size⟩ = ⟨(range a).start, (range a).size + (range b).size⟩ := by
  unfold ChunkFits at ha hb
  unfold range Range.stop at *
  dsimp only at *
  congr 1
  rw [BitVec.toNat_add]
  omega

theorem glue_spec (hsize : size < 2 ^ 64) (ha : ChunkFits base size a) (hb : ChunkFits base size b)
    (h : (range a).stop = (range b).start) : ChunkFits base size ⟨a.address, a.size + b.size⟩ ∧
      (range ⟨a.address, a.size + b.size⟩).stop = (range b).stop ∧
      ∀ x, cover [range ⟨a.address, a.size + b.size⟩] x = cover [range a] x + cover [range b] x := by
  have hglue := range_glue hsize ha hb h
  have hstop : (range ⟨a.address, a.size + b.size⟩).stop = (range b).stop := by
    rw [hglue]
    change (range a).start + (range a).size = (range b).start at h
    change (range a).start + ((range a).size + (range b).size) = (range b).start + (range b).size
    omega
  refine ⟨⟨?_, ?_⟩, hstop, fun x => ?_⟩
  · exact ha.1
  · rw [hstop]
    exact hb.2
  · rw [hglue]
    exact cover_glue h

end

section

variable {free curr n : Chunk} {l l' visited rest post : List Chunk} {base size : ℕ}

/-- The list `l'` has the chunks of `l` and `free`, sorted with gaps in between. -/
structure PutBack (free : Chunk) (l l' : List Chunk) : Prop where
  apart : Apart (ranges l')
  cover : ∀ x, cover (ranges l') x = cover [range free] x + cover (ranges l) x
  positive : Positive l'

/-- A chunk behind those in `visited`, merged with the last of them when they touch. -/
def attach (visited : List Chunk) (n : Chunk) (post : List Chunk) : List Chunk :=
  match visited with
  | prev :: before =>
    if prev.address + prev.size = n.address then
      before.reverse ++ ⟨prev.address, prev.size + n.size⟩ :: post
    else visited.reverse ++ n :: post
  | [] => n :: post

section

variable (hsize : size < 2 ^ 64)

include hsize

/-- **Attaching a chunk** in a gap that ends before `post`. -/
theorem attach_spec (hn : ChunkFits base size n)
    (hfits : ∀ c ∈ visited, ChunkFits base size c) (hpos : Positive (n :: (visited.reverse ++ post)))
    (hapart : Apart (ranges (visited.reverse ++ post))) (hvisited : ∀ a ∈ visited, (range a).stop ≤ (range n).start)
    (hpost : ∀ b ∈ post, (range n).stop < (range b).start) :
    PutBack n (visited.reverse ++ post) (attach visited n post) := by
  have hposn : 0 < (range n).size := hpos n List.mem_cons_self
  have hposl : Positive (visited.reverse ++ post) := fun c hc => hpos c (List.mem_cons_of_mem n hc)
  have hcover (x : ℕ) (pre' : List Chunk) : Library.cover (ranges (pre' ++ n :: post)) x =
      Library.cover [range n] x + Library.cover (ranges (pre' ++ post)) x := by
    simp only [ranges_append, ranges_cons, cover_append]
    rw [cover_cons (l := ranges post)]
    omega
  cases visited with
  | nil =>
    refine ⟨?_, fun x => hcover x [], hpos⟩
    have hall : Apart ([] ++ ranges post) := hapart
    exact hall.insert (fun a ha => absurd ha List.not_mem_nil) (forall_mem_ranges.mpr hpost)
  | cons prev before =>
    have hprev := hvisited prev List.mem_cons_self
    rw [List.reverse_cons, List.append_assoc, List.singleton_append, ranges_append, ranges_cons]
      at hapart
    have hbefore := forall_mem_ranges.mp (hapart.pre_stop_lt le_rfl)
    have hsub : Apart (ranges before.reverse ++ ranges post) :=
      hapart.sublist ((List.sublist_cons_self _ _).append_left _)
    unfold attach
    dsimp only
    split
    case isTrue htouch =>
      rw [address_add_eq_iff hprev] at htouch
      obtain ⟨-, hstop, hglue⟩ := glue_spec hsize (hfits prev List.mem_cons_self) hn htouch
      have hstart : (range ⟨prev.address, prev.size + n.size⟩).start = (range prev).start := rfl
      refine ⟨?_, fun x => ?_, fun c hc => ?_⟩
      · rw [ranges_append, ranges_cons]
        refine hsub.insert ?_ ?_
        · exact forall_mem_ranges.mpr hbefore
        · rw [hstop]
          exact forall_mem_ranges.mpr hpost
      · rw [List.reverse_cons, List.append_assoc, List.singleton_append]
        simp only [ranges_append, ranges_cons, cover_append]
        rw [cover_cons (l := ranges post), cover_cons (l := ranges post), hglue x]
        omega
      · rcases List.mem_append.mp hc with hc | hc
        · exact hposl c (by simp [List.mem_reverse.mp hc])
        · rcases List.mem_cons.mp hc with rfl | hc
          · unfold Range.stop at hstop hprev
            omega
          · exact hposl c (by simp [hc])
    case isFalse hgap =>
      rw [address_add_eq_iff hprev] at hgap
      refine ⟨?_, fun x => hcover x _, fun c hc => ?_⟩
      · rw [ranges_append, ranges_cons]
        refine Apart.insert ?_ ?_ (forall_mem_ranges.mpr hpost)
        · rw [List.reverse_cons, ranges_append, List.append_assoc]
          exact hapart
        · refine forall_mem_ranges.mpr fun a ha => ?_
          rw [List.reverse_cons, List.mem_append, List.mem_singleton] at ha
          rcases ha with ha | rfl
          · have := hbefore a ha
            unfold Range.stop at *
            omega
          · omega
      · rcases List.mem_append.mp hc with hc | hc
        · exact hposl c (List.mem_append_left _ hc)
        · rcases List.mem_cons.mp hc with rfl | hc
          · exact hposn
          · exact hposl c (List.mem_append_right _ hc)

/-- **Before its successor** a chunk is put back. -/
theorem mergeBefore_spec
    (hfits : ∀ c ∈ free :: (visited.reverse ++ curr :: rest), ChunkFits base size c)
    (hpos : Positive (free :: (visited.reverse ++ curr :: rest)))
    (hapart : Apart (ranges (visited.reverse ++ curr :: rest)))
    (hvisited : ∀ a ∈ visited, (range a).stop ≤ (range free).start)
    (hcurr : (range free).stop ≤ (range curr).start) :
    PutBack free (visited.reverse ++ curr :: rest) (mergeBefore free curr visited rest) := by
  have hfree := hfits free List.mem_cons_self
  have hfitsCurr := hfits curr (by simp)
  have hfitsVisited : ∀ c ∈ visited, ChunkFits base size c := fun c hc => hfits c (by simp [hc])
  have hapart' : Apart (ranges visited.reverse ++ range curr :: ranges rest) := by
    rw [← ranges_cons, ← ranges_append]
    exact hapart
  have hrest := forall_mem_ranges.mp hapart'.stop_lt_of_mem_post
  by_cases htouch : curr.address = free.address + free.size
  case pos =>
    have hmerge : mergeBefore free curr visited rest =
        attach visited ⟨free.address, curr.size + free.size⟩ rest := by
      cases visited with
      | nil | cons prev before => exact if_pos htouch
    have heq := (address_add_eq_iff hcurr).mp htouch.symm
    obtain ⟨hfitsGlued, hstop, hglue⟩ := glue_spec hsize hfree hfitsCurr heq
    rw [hmerge, BitVec.add_comm curr.size]
    have hsub : Apart (ranges (visited.reverse ++ rest)) := by
      rw [ranges_append]
      exact hapart'.sublist ((List.sublist_cons_self _ _).append_left _)
    have hposGlued : Positive (⟨free.address, free.size + curr.size⟩ :: (visited.reverse ++ rest)) := by
      intro c hc
      rcases List.mem_cons.mp hc with rfl | hc
      · have hpc := hpos curr (by simp)
        unfold Range.stop at hstop hcurr
        have hstart : (range ⟨free.address, free.size + curr.size⟩).start = (range free).start := rfl
        omega
      refine hpos c (List.mem_cons_of_mem _ ?_)
      rcases List.mem_append.mp hc with hc | hc
      · exact List.mem_append_left _ hc
      · exact List.mem_append_right _ (List.mem_cons_of_mem _ hc)
    have hput := attach_spec hsize hfitsGlued hfitsVisited hposGlued hsub hvisited
      (fun b hb => hstop.symm ▸ hrest b hb)
    refine ⟨hput.apart, fun x => ?_, hput.positive⟩
    rw [hput.cover, hglue]
    simp only [ranges_append, ranges_cons, cover_append]
    rw [cover_cons (l := ranges rest)]
    omega
  case neg =>
    have hmerge : mergeBefore free curr visited rest = attach visited free (curr :: rest) := by
      cases visited with
      | nil | cons prev before => exact if_neg htouch
    have hgap : (range free).stop ≠ (range curr).start := fun heq =>
      htouch ((address_add_eq_iff hcurr).mpr heq).symm
    rw [hmerge]
    refine attach_spec hsize hfree hfitsVisited hpos hapart hvisited fun b hb => ?_
    rcases List.mem_cons.mp hb with rfl | hb
    · omega
    · have hlt := hrest b hb
      have hle : (range curr).start ≤ (range curr).stop := Nat.le_add_right _ _
      omega

def Clear (free : Chunk) (l : List Chunk) : Prop :=
  ∀ c ∈ l, (free.address < c.address → (range free).stop ≤ (range c).start) ∧
    (¬ free.address < c.address → (range c).stop ≤ (range free).start)

theorem insertFree_spec_from
    (hfits : ∀ c ∈ free :: (visited.reverse ++ rest), ChunkFits base size c)
    (hpos : Positive (free :: (visited.reverse ++ rest))) (hapart : Apart (ranges (visited.reverse ++ rest)))
    (hvisited : ∀ a ∈ visited, (range a).stop ≤ (range free).start) (hclear : Clear free rest)
    (hrun : insertFree free visited rest = some l') : PutBack free (visited.reverse ++ rest) l' := by
  induction rest generalizing visited with
  | nil => cases hrun
  | cons curr rest ih =>
    obtain ⟨hcurr, hrest⟩ := List.forall_mem_cons.mp hclear
    unfold insertFree at hrun
    split at hrun
    case isTrue hlt =>
      cases hrun
      exact mergeBefore_spec hsize hfits hpos hapart hvisited (hcurr.1 hlt)
    case isFalse hge =>
      have hmove : visited.reverse ++ curr :: rest = (curr :: visited).reverse ++ rest := by simp
      rw [hmove] at hfits hpos hapart ⊢
      refine ih hfits hpos hapart (fun a ha => ?_) hrest hrun
      rcases List.mem_cons.mp ha with rfl | ha
      · exact hcurr.2 hge
      · exact hvisited a ha

/-- **The loop over the free list** puts a chunk back. -/
theorem insertFree_spec (hfits : ∀ c ∈ free :: l, ChunkFits base size c)
    (hpos : Positive (free :: l)) (hapart : Apart (ranges l)) (hclear : Clear free l)
    (hrun : insertFree free [] l = some l') : PutBack free l l' := by
  have hstart : PutBack free (([] : List Chunk).reverse ++ l) l' :=
    insertFree_spec_from hsize hfits hpos hapart (fun _ ha => absurd ha List.not_mem_nil) hclear hrun
  exact hstart

end

theorem insertFree_eq_none_iff : insertFree free visited l = none ↔ ∀ c ∈ l, ¬ free.address < c.address := by
  induction l generalizing visited with
  | nil => simp [insertFree]
  | cons curr rest ih =>
    unfold insertFree
    rw [List.forall_mem_cons]
    split
    case isTrue hlt => simp [hlt]
    case isFalse hge => rw [ih]; exact ⟨fun h => ⟨hge, h⟩, fun h => h.2⟩

end

section

variable {size : U64} {l : List Chunk} {best : Chunk}

/-- One step of the search: what it has found is large enough, and nothing was found before
means nothing large enough was seen. -/
theorem betterMatch_spec {seen : List Chunk} {acc : Option Chunk} {c : Chunk}
    (hsome : ∀ b, acc = some b → b ∈ seen ∧ size ≤ b.size) (hnone : acc = none → ∀ d ∈ seen, d.size < size) :
    (∀ b, betterMatch size acc c = some b → b ∈ seen ++ [c] ∧ size ≤ b.size) ∧
      (betterMatch size acc c = none → ∀ d ∈ seen ++ [c], d.size < size) := by
  unfold betterMatch
  split
  case isTrue hfit =>
    have hc : c ∈ seen ++ [c] := by simp
    refine ⟨fun b hb => ?_, fun hb => ?_⟩
    · split at hb
      · cases hb
        exact ⟨hc, hfit⟩
      · split at hb
        · cases hb
          exact ⟨hc, hfit⟩
        · cases hb
          obtain ⟨hmem, hold⟩ := hsome _ rfl
          exact ⟨List.mem_append_left _ hmem, hold⟩
    · split at hb
      · cases hb
      · split at hb <;> cases hb
  case isFalse hsmall =>
    refine ⟨fun b hb => ?_, fun hb d hd => ?_⟩
    · obtain ⟨hmem, hold⟩ := hsome b hb
      exact ⟨List.mem_append_left _ hmem, hold⟩
    · rcases List.mem_append.mp hd with hd | hd
      · exact hnone hb d hd
      · rw [List.mem_singleton.mp hd]
        exact BitVec.not_le.mp hsmall

/-- **The search** finds a chunk that is large enough, if there is one. -/
theorem bestMatch_spec (size : U64) (l : List Chunk) : (∀ b, bestMatch size l = some b → b ∈ l ∧ size ≤ b.size) ∧
      (bestMatch size l = none → ∀ c ∈ l, c.size < size) := by
  have hfrom (seen todo : List Chunk) (acc : Option Chunk)
      (hsome : ∀ b, acc = some b → b ∈ seen ∧ size ≤ b.size)
      (hnone : acc = none → ∀ c ∈ seen, c.size < size) :
      (∀ b, todo.foldl (betterMatch size) acc = some b → b ∈ seen ++ todo ∧ size ≤ b.size) ∧
        (todo.foldl (betterMatch size) acc = none → ∀ c ∈ seen ++ todo, c.size < size) := by
    induction todo generalizing seen acc with
    | nil =>
      rw [List.append_nil]
      exact ⟨hsome, hnone⟩
    | cons c todo ih =>
      obtain ⟨hsome', hnone'⟩ := betterMatch_spec (c := c) hsome hnone
      have hrest := ih (seen ++ [c]) _ hsome' hnone'
      rw [List.append_assoc, List.singleton_append] at hrest
      exact hrest
  exact hfrom [] l none (fun b hb => by cases hb) (fun _ c hc => absurd hc List.not_mem_nil)

/-- The list `l'` has the chunks of `l` without `taken`. -/
structure Taken (taken : Chunk) (l l' : List Chunk) : Prop where
  apart : Apart (ranges l')
  cover : ∀ x, cover (ranges l) x = cover [range taken] x + cover (ranges l') x
  positive : Positive l'

theorem exists_split (h : best ∈ l) (c : Chunk) : ∃ pre post, l = pre ++ best :: post ∧
    l.erase best = pre ++ post ∧ l.replace best c = pre ++ c :: post := by
  induction l with
  | nil => exact absurd h List.not_mem_nil
  | cons a l ih =>
    by_cases ha : a = best
    · subst ha
      exact ⟨[], l, rfl, by simp, by simp⟩
    obtain ⟨pre, post, hl, herase, hreplace⟩ := ih ((List.mem_cons.mp h).resolve_left (Ne.symm ha))
    refine ⟨a :: pre, post, ?_, ?_, ?_⟩
    · rw [hl, List.cons_append]
    · rw [List.erase_cons_tail (by simpa using ha), herase, List.cons_append]
    · rw [List.replace_cons, beq_eq_false_iff_ne.mpr (Ne.symm ha), hreplace, List.cons_append]

/-- **The whole chunk is taken.** -/
theorem taken_whole (h : best ∈ l) (hapart : Apart (ranges l)) (hpos : Positive l) :
    Taken best l (l.erase best) := by
  obtain ⟨pre, post, hl, herase, -⟩ := exists_split h best
  subst hl
  rw [herase]
  have hsub : (pre ++ post).Sublist (pre ++ best :: post) :=
    (List.sublist_cons_self _ _).append_left _
  refine ⟨hapart.sublist (hsub.map range), fun x => ?_, fun c hc => hpos c (hsub.subset hc)⟩
  simp only [ranges_append, ranges_cons, cover_append]
  rw [cover_cons (l := ranges post)]
  omega

/-- **The first part of a chunk is taken.** -/
theorem taken_part (h : best ∈ l) (hlt : size < best.size) (hbest : (range best).stop ≤ 2 ^ 64)
    (hapart : Apart (ranges l)) (hpos : Positive l) :
    Taken ⟨best.address, size⟩ l (l.replace best (best.rest size)) := by
  obtain ⟨pre, post, hl, -, hreplace⟩ := exists_split h (best.rest size)
  subst hl
  rw [hreplace]
  have hsmaller : size.toNat < best.size.toNat := hlt
  have hstart : (range (best.rest size)).start = (range best).start + size.toNat := by
    unfold range Range.stop at *
    unfold Chunk.rest
    dsimp only at *
    rw [BitVec.toNat_add]
    omega
  have hsize : (range (best.rest size)).size = (range best).size - size.toNat := by
    unfold range Chunk.rest
    rw [BitVec.toNat_sub_of_le (BitVec.le_of_lt hlt)]
  have hstop : (range (best.rest size)).stop = (range best).stop := by
    have hle : size.toNat ≤ (range best).size := hsmaller.le
    unfold Range.stop
    omega
  have hapart' : Apart (ranges pre ++ range best :: ranges post) := by
    rw [← ranges_cons, ← ranges_append]
    exact hapart
  refine ⟨?_, fun x => ?_, fun c hc => ?_⟩
  · rw [ranges_append, ranges_cons]
    refine Apart.insert ?_ ?_ ?_
    · exact hapart'.sublist ((List.sublist_cons_self _ _).append_left _)
    · exact hapart'.pre_stop_lt (hstart ▸ Nat.le_add_right _ _)
    · rw [hstop]
      exact hapart'.stop_lt_of_mem_post
  · have hsplit : cover [range best] x =
        cover [range ⟨best.address, size⟩] x + cover [range (best.rest size)] x := by
      rw [← cover_glue (r := range ⟨best.address, size⟩) hstart.symm, hsize]
      change cover [range best] x =
        cover [⟨(range best).start, size.toNat + ((range best).size - size.toNat)⟩] x
      have hle : size.toNat ≤ (range best).size := hsmaller.le
      rw [Nat.add_sub_cancel' hle]
    simp only [ranges_append, ranges_cons, cover_append]
    rw [cover_cons (l := ranges post), cover_cons (l := ranges post), hsplit]
    omega
  · rcases List.mem_append.mp hc with hc | hc
    · exact hpos c (List.mem_append_left _ hc)
    · rcases List.mem_cons.mp hc with rfl | hc
      · rw [hsize]
        exact Nat.sub_pos_of_lt hsmaller
      · exact hpos c (List.mem_append_right _ (List.mem_cons_of_mem _ hc))

end

section

variable {alloc alloc' free free' : List Chunk} {c : Chunk} {base size : ℕ}

theorem managed_init (startAddress size : U64) :
    Managed startAddress.toNat size.toNat [] [⟨startAddress, size⟩] where
  tiles := .whole _ _
  apart := List.pairwise_singleton _ _
  allocated _ hc := absurd hc List.not_mem_nil
  free hsize c hc := by
    rw [List.mem_singleton.mp hc]
    exact hsize

section

variable (h : Managed base size alloc free)

include h

theorem managed_perm (hperm : alloc.Perm alloc') :
    Managed base size alloc' free where
  tiles := h.tiles.congr fun _ => cover_perm ((hperm.append_right free).map range).symm
  apart := h.apart
  allocated _ hc := h.allocated _ (hperm.mem_iff.mpr hc)
  free := h.free

theorem managed_size_pos (hc : c ∈ alloc ++ free)
    (hpos : 0 < (range c).size) : 0 < size := by
  have hbounds := h.tiles.bounds (mem_ranges hc) hpos
  unfold Range.stop at hbounds
  omega

theorem managed_take (hpos : 0 < (range c).size)
    (htaken : Taken c free free') : Managed base size (c :: alloc) free' where
  tiles := h.tiles.congr fun x => by
    rw [List.cons_append, ranges_cons, ranges_append, ranges_append, cover_cons, cover_append,
      cover_append, htaken.cover]
    omega
  apart := htaken.apart
  allocated := List.forall_mem_cons.mpr ⟨hpos, h.allocated⟩
  free _ := htaken.positive

theorem managed_put (hc : c ∈ alloc)
    (hput : PutBack c free free') : Managed base size (alloc.erase c) free' where
  tiles := h.tiles.congr fun x => by
    have hperm := cover_perm (x := x) ((List.perm_cons_erase hc).map range)
    change cover (ranges alloc) x = cover (range c :: ranges (alloc.erase c)) x at hperm
    rw [cover_cons] at hperm
    rw [ranges_append, ranges_append, cover_append, cover_append, hput.cover, hperm]
    omega
  apart := hput.apart
  allocated d hd := h.allocated d (List.mem_of_mem_erase hd)
  free _ := hput.positive

theorem managed_fits (hsize : 0 < size) :
    ∀ d ∈ free, ChunkFits base size d := fun d hd =>
  h.tiles.bounds (mem_ranges (List.mem_append_right alloc hd)) (h.free hsize d hd)

theorem managed_fits_alloc (hc : c ∈ alloc) : ChunkFits base size c :=
  h.tiles.bounds (mem_ranges (List.mem_append_left free hc)) (h.allocated c hc)

theorem managed_clear (hc : c ∈ alloc) : Clear c free := by
  have hsize := managed_size_pos h (List.mem_append_left free hc) (h.allocated c hc)
  intro d hd
  have hperm : (alloc ++ free).Perm (c :: d :: (alloc.erase c ++ free.erase d)) := by
    refine ((List.perm_cons_erase hc).append (List.perm_cons_erase hd)).trans ?_
    exact List.Perm.cons c List.perm_middle
  refine ⟨fun hlt => ?_, fun hge => ?_⟩
  · exact h.tiles.stop_le_start (hperm.map range) (Nat.le_of_lt hlt) (h.free hsize d hd)
  · refine h.tiles.stop_le_start ((hperm.trans (List.Perm.swap d c _)).map range) ?_
      (h.allocated c hc)
    exact BitVec.le_def.mp (BitVec.not_lt.mp hge)

end

/-- **The best fit leaves the memory managed.** -/
theorem managed_putBack {free' : List Chunk} (h : Managed base size alloc free)
    (hspace : size < 2 ^ 64) (hc : c ∈ alloc) (hrun : insertFree c [] free = some free') :
    Managed base size (alloc.erase c) free' ∧ PutBack c free free' := by
  have hsize := managed_size_pos h (List.mem_append_left free hc) (h.allocated c hc)
  have hput := insertFree_spec hspace
    (List.forall_mem_cons.mpr ⟨managed_fits_alloc h hc, managed_fits h hsize⟩)
    (List.forall_mem_cons.mpr ⟨h.allocated c hc, h.free hsize⟩) h.apart (managed_clear h hc) hrun
  exact ⟨managed_put h hc hput, hput⟩

/-- **Nothing is lost.**  With no chunk allocated, all memory is one free chunk. -/
theorem managed_eq_whole (h : Managed base size [] free) (hsize : 0 < size) : ranges free = [⟨base, size⟩] := by
  refine h.apart.eq_whole ?_ hsize h.tiles
  exact forall_mem_ranges.mpr (h.free hsize)

theorem range_injective {c d : Chunk} (h : range c = range d) : c = d := by
  cases c
  cases d
  obtain ⟨haddress, hsize⟩ := Range.mk.inj h
  exact congrArg₂ Chunk.mk (BitVec.eq_of_toNat_eq haddress) (BitVec.eq_of_toNat_eq hsize)

theorem managed_free_eq {startAddress size : U64}
    (h : Managed startAddress.toNat size.toNat [] free) (hsize : 0 < size.toNat) :
    free = [⟨startAddress, size⟩] := by
  obtain ⟨c, hc, hrange⟩ := List.map_eq_singleton_iff.mp (managed_eq_whole h hsize)
  rw [hc, range_injective (d := ⟨startAddress, size⟩) hrange]

theorem managed_nodup (h : Managed base size alloc free) : alloc.Nodup := by
  rw [List.nodup_iff_count_le_one]
  intro c
  by_cases hc : c ∈ alloc
  case neg =>
    rw [List.count_eq_zero_of_not_mem hc]
    exact Nat.zero_le 1
  case pos =>
    have hpos := h.allocated c hc
    have hhas : (range c).Has (range c).start := ⟨le_rfl, by unfold Range.stop; omega⟩
    have hcount : alloc.count c ≤ cover (ranges alloc) (range c).start := by
      unfold cover ranges
      rw [List.countP_map]
      refine List.countP_mono_left fun d _ hd => ?_
      rw [beq_iff_eq] at hd
      simpa [hd] using hhas
    have hone := h.tiles (range c).start
    rw [ranges_append, cover_append] at hone
    split at hone <;> omega

end

end NvidiaOot.Analysis
