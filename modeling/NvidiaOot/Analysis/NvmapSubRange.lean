import Mathlib.Tactic.Ring
import NvidiaOot.Model.Nvmap

/-!
# Sources are kept and found again

The references that a call takes and gives back cancel; what stays is one for each position that the
new buffer covers.  The lists of live buffers share no node, so making and draining one leaves the
others alone.
-/

namespace NvidiaOot.Analysis

open Library Program Model

section

variable {handles : List SubHandle} {ks : List ℕ} {d : ℤ} {k : ℕ}

theorem length_changeRefs (d : ℤ) (ks : List ℕ) (handles : List SubHandle) :
    (changeRefs d ks handles).length = handles.length := by
  unfold changeRefs
  induction ks generalizing handles with
  | nil => rfl
  | cons k ks ih =>
    rw [List.foldl_cons, ih]
    exact List.length_modify _ _ _

theorem getElem?_changeRefs (d : ℤ) (ks : List ℕ) (handles : List SubHandle) (k : ℕ) :
    (changeRefs d ks handles)[k]? = handles[k]?.map fun h => { h with ref := h.ref + d * ks.count k } := by
  unfold changeRefs
  induction ks generalizing handles with
  | nil =>
    simp
  | cons j ks ih =>
    rw [List.foldl_cons, ih, List.getElem?_modify]
    cases handles[k]? with
    | none => rfl
    | some h =>
      by_cases hjk : j = k
      · rw [hjk, List.count_cons_self]
        simp
        ring
      · simp [hjk]

theorem changeRefs_cancel (ks : List ℕ) (handles : List SubHandle) :
    changeRefs (-1) ks (changeRefs 1 ks handles) = handles := by
  apply List.ext_getElem?
  intro k
  rw [getElem?_changeRefs, getElem?_changeRefs]
  cases handles[k]? with
  | none => rfl
  | some h => simp

theorem changeRefs_between (ks covered : List ℕ) (handles : List SubHandle) :
    changeRefs (-1) ks (changeRefs 1 covered (changeRefs 1 ks handles)) = changeRefs 1 covered handles := by
  apply List.ext_getElem?
  intro k
  rw [getElem?_changeRefs, getElem?_changeRefs, getElem?_changeRefs, getElem?_changeRefs]
  cases handles[k]? with
  | none => rfl
  | some h =>
    simp
    ring

end

section

variable {s : SubRange} {i k : ℕ} {b : SubBuffer}

def heldFor (s : SubRange) (k : ℕ) : ℕ := (s.buffers.map fun b => b.holds k).sum

structure SubRangeInv (s : SubRange) : Prop where
  references : ∀ (k : ℕ) (h : SubHandle), s.handles[k]? = some h → h.ref = h.others + (heldFor s k : ℕ)
  linked : ∀ b ∈ s.buffers, b.live = true → Ring s.links (.head b.handle) (b.covered.map PgNode.ref)
  files : ∀ b ∈ s.buffers, b.live = true → b.files = b.fds
  bounds : ∀ b ∈ s.buffers, b.handle < s.handles.length ∧ ∀ k ∈ b.covered, k < s.handles.length
  apart : ∀ (i j : ℕ) (b b' : SubBuffer), s.buffers[i]? = some b → s.buffers[j]? = some b' → i ≠ j →
    b.handle ≠ b'.handle ∧ (b.live = true → b'.live = true → ∀ k ∈ b.covered, k ∉ b'.covered)

theorem subRangeInv_new : SubRangeInv newSubRange where
  references := fun _ _ h => (nomatch h)
  linked := nofun
  files := nofun
  bounds := nofun
  apart := nofun

theorem SubRangeInv.ok (h : SubRangeInv s) : SubRangeOk s := ⟨h.references, h.linked, h.files⟩

theorem heldFor_of_le (h : SubRangeInv s) (hk : s.handles.length ≤ k) : heldFor s k = 0 := by
  apply List.sum_eq_zero
  intro n hn
  obtain ⟨b, hb, rfl⟩ := List.mem_map.mp hn
  obtain ⟨hhandle, hcovered⟩ := h.bounds b hb
  have hne : b.handle ≠ k := by omega
  have hnot : k ∉ b.covered := by
    intro hmem
    have := hcovered k hmem
    omega
  unfold SubBuffer.holds
  rw [if_neg hne, List.count_eq_zero_of_not_mem hnot, Nat.add_zero, ite_self]

theorem withHandle_inv {h h' : SubHandle} (hinv : SubRangeInv s) (hk : s.handles[k]? = some h)
    (href : h'.ref - h'.others = h.ref - h.others) : SubRangeInv { s with handles := s.handles.set k h' } := by
  refine ⟨?_, hinv.linked, hinv.files, ?_, hinv.apart⟩
  · intro j hj hget
    change hj.ref = hj.others + (heldFor s j : ℕ)
    rcases getElem?_set_cases hget with ⟨rfl, rfl⟩ | ⟨_, hold⟩
    · have := hinv.references j h hk
      omega
    · exact hinv.references j hj hold
  · rw [List.length_set]
    exact hinv.bounds

theorem newSubHandle_inv {h : SubHandle} (hinv : SubRangeInv s) (href : h.ref = h.others) :
    SubRangeInv { s with handles := s.handles ++ [h] } := by
  refine ⟨?_, hinv.linked, hinv.files, ?_, hinv.apart⟩
  · intro j hj hget
    change hj.ref = hj.others + (heldFor s j : ℕ)
    rcases getElem?_concat_cases hget with ⟨rfl, rfl⟩ | hold
    · rw [heldFor_of_le hinv (Nat.le_refl _), href]
      exact (Int.add_zero _).symm
    · exact hinv.references j hj hold
  · intro b hb
    obtain ⟨hhandle, hcovered⟩ := hinv.bounds b hb
    rw [List.length_append]
    exact ⟨by omega, fun k hk => by have := hcovered k hk; omega⟩

theorem withFiles_inv {files : ℤ} {fds : ℕ} (hinv : SubRangeInv s) (hi : s.buffers[i]? = some b)
    (hfiles : files - fds = b.files - b.fds) :
    SubRangeInv { s with buffers := s.buffers.set i { b with files := files, fds := fds } } := by
  have hmem := List.mem_of_getElem? hi
  have hall : ∀ (p : SubBuffer → Prop), (∀ b ∈ s.buffers, p b) → p { b with files := files, fds := fds } →
      ∀ b' ∈ s.buffers.set i { b with files := files, fds := fds }, p b' := by
    intro p hold hnew b' hb'
    rcases List.mem_or_eq_of_mem_set hb' with hmem' | rfl
    · exact hold b' hmem'
    · exact hnew
  refine ⟨?_, ?_, ?_, ?_, ?_⟩
  · intro j hj hget
    have hsum := sum_map_set (fun b : SubBuffer => b.holds j) hi { b with files := files, fds := fds }
    have hsame : heldFor { s with buffers := s.buffers.set i { b with files := files, fds := fds } } j =
        heldFor s j := Nat.add_right_cancel hsum
    rw [hsame]
    exact hinv.references j hj hget
  · exact hall _ hinv.linked (hinv.linked b hmem)
  · apply hall _ hinv.files
    intro hlive
    have := hinv.files b hmem hlive
    dsimp only
    omega
  · exact hall _ hinv.bounds (hinv.bounds b hmem)
  · intro j j' c c' hc hc' hne
    rcases getElem?_set_cases hc with ⟨rfl, rfl⟩ | ⟨_, hold⟩
    · rcases getElem?_set_cases hc' with ⟨rfl, rfl⟩ | ⟨_, hold'⟩
      · exact absurd rfl hne
      · exact hinv.apart j j' b c' hi hold' hne
    · rcases getElem?_set_cases hc' with ⟨rfl, rfl⟩ | ⟨_, hold'⟩
      · exact hinv.apart j j' c b hold hi hne
      · exact hinv.apart j j' c c' hold hold' hne

end

section

variable {ps : PageSize} {s s' : SubRange} {i k : ℕ} {b : SubBuffer} {ks covered : List ℕ}

theorem mem_of_mem_subRangeOf {offs sz : U64} {handles : List SubHandle}
    (h : subRangeOf offs sz handles ks = some covered) (hk : k ∈ covered) : k ∈ ks := by
  obtain ⟨_, h⟩ := Option.ite_none_left_eq_some.mp h
  obtain ⟨_, h⟩ := Option.ite_none_right_eq_some.mp h
  obtain ⟨r, _, heq⟩ := Option.map_eq_some_iff.mp h
  rw [← heq] at hk
  exact List.mem_of_mem_drop (List.mem_of_mem_take hk)

/-- **A new buffer** keeps its sources and is linked with them. -/
theorem withBuffer_inv {new : SubHandle} {files : ℤ} {fds : ℕ} {links : Links PgNode}
    (hinv : SubRangeInv s) (hcovered : ∀ k ∈ covered, k < s.handles.length) (hnodup : covered.Nodup)
    (hapart : ∀ b ∈ s.buffers, b.live = true → ∀ k ∈ covered, k ∉ b.covered)
    (hlinks : Links.addTails (.head s.handles.length)
      (s.links.initHead (.head s.handles.length)) (covered.map PgNode.ref) = some links)
    (href : new.ref = 1) (hothers : new.others = 0) (hfiles : files = fds) : SubRangeInv
      { handles := changeRefs 1 covered s.handles ++ [new]
        buffers := s.buffers ++ [⟨s.handles.length, covered, true, files, fds⟩]
        links := links } := by
  have hlen : (changeRefs 1 covered s.handles ++ [new]).length = s.handles.length + 1 := by
    rw [List.length_append, length_changeRefs]
    rfl
  have hheld : ∀ j, heldFor
      { handles := changeRefs 1 covered s.handles ++ [new]
        buffers := s.buffers ++ [⟨s.handles.length, covered, true, files, fds⟩]
        links := links } j =
      heldFor s j + ((if s.handles.length = j then 1 else 0) + covered.count j) := by
    intro j
    unfold heldFor
    simp [SubBuffer.holds]
  have hnew : ∀ y ∈ covered.map PgNode.ref, y ∉ [PgNode.head s.handles.length] := by
    intro y hy hyin
    obtain ⟨j, _, rfl⟩ := List.mem_map.mp hy
    cases List.mem_singleton.mp hyin
  have hmap : (covered.map PgNode.ref).Nodup :=
    hnodup.map (fun a b hab => by cases hab; rfl)
  obtain ⟨links', hadds, hring, hsame⟩ := (ring_initHead s.links _).addTails hmap hnew
  rw [hlinks, Option.some.injEq] at hadds
  rw [← hadds] at hring hsame
  refine ⟨?_, ?_, ?_, ?_, ?_⟩
  · intro j hj hget
    rw [hheld j]
    rcases getElem?_concat_cases hget with ⟨hj', rfl⟩ | hold
    · rw [length_changeRefs] at hj'
      have hcount : covered.count j = 0 := by
        apply List.count_eq_zero_of_not_mem
        intro hmem
        have := hcovered j hmem
        omega
      rw [heldFor_of_le hinv (by omega), if_pos hj'.symm, hcount, href, hothers]
      rfl
    rw [getElem?_changeRefs] at hold
    obtain ⟨h, hh, heq⟩ := Option.map_eq_some_iff.mp hold
    have hlt := lt_of_getElem hh
    have := hinv.references j h hh
    rw [← heq, if_neg (by omega)]
    dsimp only
    omega
  · intro b hb hlive
    rcases List.mem_append.mp hb with hold | hnewb
    · apply (hinv.linked b hold hlive).frame
      obtain ⟨hhandle, hbcovered⟩ := hinv.bounds b hold
      intro y hy
      have hyhead : y ≠ .head s.handles.length := by
        rintro rfl
        rcases List.mem_cons.mp hy with heq | hmem
        · rw [PgNode.head.injEq] at heq
          omega
        · obtain ⟨j, _, hj⟩ := List.mem_map.mp hmem
          cases hj
      obtain ⟨h₁, h₂⟩ := hsame y (fun hin => hyhead (List.mem_singleton.mp hin)) (by
        intro hyc
        obtain ⟨j, hj, rfl⟩ := List.mem_map.mp hyc
        rcases List.mem_cons.mp hy with heq | hmem
        · cases heq
        obtain ⟨j', hj', hjj⟩ := List.mem_map.mp hmem
        rw [PgNode.ref.injEq] at hjj
        rw [hjj] at hj'
        exact hapart b hold hlive j hj hj')
      obtain ⟨h₃, h₄⟩ := initHead_of_ne hyhead
      exact ⟨h₁.trans h₃, h₂.trans h₄⟩
    · rw [List.mem_singleton.mp hnewb]
      exact hring
  · intro b hb hlive
    rcases List.mem_append.mp hb with hold | hnewb
    · exact hinv.files b hold hlive
    · rw [List.mem_singleton.mp hnewb]
      exact hfiles
  · intro b hb
    rw [hlen]
    rcases List.mem_append.mp hb with hold | hnewb
    · obtain ⟨hhandle, hbcovered⟩ := hinv.bounds b hold
      exact ⟨by omega, fun k hk => by have := hbcovered k hk; omega⟩
    · rw [List.mem_singleton.mp hnewb]
      exact ⟨Nat.lt_succ_self _, fun k hk => Nat.lt_succ_of_lt (hcovered k hk)⟩
  · intro j j' c c' hc hc' hne
    rcases getElem?_concat_cases hc with ⟨hj, rfl⟩ | hold
    · rcases getElem?_concat_cases hc' with ⟨hj', rfl⟩ | hold'
      · exact absurd (hj.trans hj'.symm) hne
      · have hmem := List.mem_of_getElem? hold'
        have hlt := (hinv.bounds c' hmem).1
        refine ⟨fun heq => ?_, fun _ hlive k hk => hapart c' hmem hlive k hk⟩
        dsimp only at heq
        omega
    rcases getElem?_concat_cases hc' with ⟨hj', rfl⟩ | hold'
    · have hmem := List.mem_of_getElem? hold
      have hlt := (hinv.bounds c hmem).1
      refine ⟨fun heq => ?_, fun hlive _ k hk hk' => hapart c hmem hlive k hk' hk⟩
      dsimp only at heq
      omega
    · exact hinv.apart j j' c c' hold hold' hne

theorem mapM_source_map_ref (ks : List ℕ) : (ks.map PgNode.ref).mapM PgNode.source = some ks := by
  induction ks with
  | nil => rfl
  | cons k ks ih =>
    rw [List.map_cons, List.mapM_cons, ih]
    rfl

section

variable (h : SubRangeInv s)

include h

theorem SubRangeInv.nodup (hb : b ∈ s.buffers) (hlive : b.live = true) : b.covered.Nodup :=
  List.Nodup.of_map PgNode.ref (List.nodup_cons.mp (h.linked b hb hlive).nodup).2

theorem SubRangeInv.length_covered (hb : b ∈ s.buffers) (hlive : b.live = true) :
    b.covered.length ≤ s.handles.length := by
  have hsub : b.covered ⊆ List.range s.handles.length :=
    fun k hk => List.mem_range.mpr ((h.bounds b hb).2 k hk)
  have hle := ((h.nodup hb hlive).subperm hsub).length_le
  rw [List.length_range] at hle
  exact hle

/-- **A buffer that nobody has open is released**: its list leads through all its sources, and each
handle loses the references that it had for it. -/
theorem releaseSub_spec (hi : s.buffers[i]? = some b) (hlive : b.live = true)
    (hfiles : b.files ≤ 0) : ∃ links, releaseSubStep s i = some
        { handles := changeRefs (-1) [b.handle] (changeRefs (-1) b.covered s.handles)
          buffers := s.buffers.set i { b with live := false }
          links := links } ∧
      ∀ y, y ∉ PgNode.head b.handle :: b.covered.map PgNode.ref →
        links.next y = s.links.next y ∧ links.prev y = s.links.prev y := by
  have hmem := List.mem_of_getElem? hi
  have hlen : (b.covered.map PgNode.ref).length < s.handles.length + 1 := by
    rw [List.length_map]
    exact Nat.lt_succ_of_le (h.length_covered hmem hlive)
  obtain ⟨cur, links, hcur, hdrain, _, hsame⟩ := (h.linked b hmem hlive).drain hlen
  refine ⟨links, ?_, hsame⟩
  unfold releaseSubStep
  rw [hi, Option.bind_some, if_pos ⟨hlive, hfiles⟩, hcur, Option.bind_some, hdrain, Option.bind_some,
    mapM_source_map_ref]
  rfl

theorem releaseSubStep_inv (hstep : releaseSubStep s i = some s') : SubRangeInv s' := by
  obtain ⟨b, hi, hstep'⟩ := Option.bind_eq_some_iff.mp hstep
  obtain ⟨⟨hlive, hfiles⟩, _⟩ := Option.ite_none_right_eq_some.mp hstep'
  obtain ⟨links, hrel, hsame⟩ := releaseSub_spec h hi hlive hfiles
  rw [hstep, Option.some.injEq] at hrel
  have hmem := List.mem_of_getElem? hi
  have hall : ∀ p : SubBuffer → Prop, (∀ b ∈ s.buffers, p b) → p { b with live := false } →
      ∀ b' ∈ s.buffers.set i { b with live := false }, p b' := by
    intro p hold hnew b' hb'
    rcases List.mem_or_eq_of_mem_set hb' with hmem' | rfl
    · exact hold b' hmem'
    · exact hnew
  rw [hrel]
  refine ⟨?_, ?_, ?_, ?_, ?_⟩
  · intro j hj hget
    rw [getElem?_changeRefs, getElem?_changeRefs, Option.map_map] at hget
    obtain ⟨h₀, hh₀, rfl⟩ := Option.map_eq_some_iff.mp hget
    have hsum := sum_map_set (fun b : SubBuffer => b.holds j) hi { b with live := false }
    have hold := h.references j h₀ hh₀
    have hb : b.holds j = [b.handle].count j + b.covered.count j := by
      unfold SubBuffer.holds
      rw [if_pos hlive, List.count_singleton]
      simp
    have hnew : ({ b with live := false } : SubBuffer).holds j = 0 := rfl
    change h₀.ref + -1 * b.covered.count j + -1 * [b.handle].count j = h₀.others + _
    unfold heldFor at hold ⊢
    dsimp only at hsum ⊢
    omega
  · -- the lists of the others have no node of this one
    intro c hc hclive
    obtain ⟨j, hj⟩ := List.mem_iff_getElem?.mp hc
    rcases getElem?_set_cases hj with ⟨_, rfl⟩ | ⟨hne, hold⟩
    · cases hclive
    obtain ⟨hhandle, hcovered⟩ := h.apart j i c b hold hi hne
    apply (h.linked c (List.mem_of_getElem? hold) hclive).frame
    intro y hy
    apply hsame
    intro hyb
    rcases List.mem_cons.mp hy with rfl | hyc
    · rcases List.mem_cons.mp hyb with heq | hyb
      · exact hhandle (PgNode.head.inj heq)
      · obtain ⟨k, _, hk⟩ := List.mem_map.mp hyb
        cases hk
    obtain ⟨k, hk, rfl⟩ := List.mem_map.mp hyc
    rcases List.mem_cons.mp hyb with heq | hyb
    · cases heq
    obtain ⟨k', hk', heq⟩ := List.mem_map.mp hyb
    rw [PgNode.ref.injEq] at heq
    rw [heq] at hk'
    exact hcovered hclive hlive k hk hk'
  · exact hall _ h.files (fun hlive => by cases hlive)
  · rw [length_changeRefs, length_changeRefs]
    exact hall _ h.bounds (h.bounds b hmem)
  · intro j j' c c' hc hc' hne
    rcases getElem?_set_cases hc with ⟨rfl, rfl⟩ | ⟨_, hold⟩
    · rcases getElem?_set_cases hc' with ⟨rfl, rfl⟩ | ⟨_, hold'⟩
      · exact absurd rfl hne
      · exact ⟨(h.apart j j' b c' hi hold' hne).1, fun hf => by cases hf⟩
    · rcases getElem?_set_cases hc' with ⟨rfl, rfl⟩ | ⟨_, hold'⟩
      · exact ⟨(h.apart j j' c b hold hi hne).1, fun _ hf => by cases hf⟩
      · exact h.apart j j' c c' hold hold' hne

end

/-- The new handle has one reference, for its dma-buf, whose file has one for the descriptor. -/
theorem freeHs_install {install : SubInstall} (h : install ≠ .fdFailed) :
    ((createdSubHandle.get.install install).freeHs).ref = 1 ∧
      ((createdSubHandle.get.install install).freeHs).files =
        ((if install = .installed then 1 else 0 : ℕ) : ℤ) := by
  cases install with
  | installed => exact ⟨rfl, rfl⟩
  | fdFailed => exact absurd rfl h
  | copyFailed => exact ⟨rfl, rfl⟩

theorem assignStep_inv {sz : U64} {env : SubRangeEnv} (h : SubRangeInv s)
    (hcovered : ∀ k ∈ covered, k < s.handles.length)
    (hcare : env.pagesOk = true ∧ env.install ≠ .fdFailed ∧ covered.Nodup ∧
      ∀ b ∈ s.buffers, b.live = true → ∀ k ∈ covered, k ∉ b.covered)
    (hstep : assignStep ps s ks covered sz env = some s') : SubRangeInv s' := by
  obtain ⟨hpages, hinstall, hnodup, hapart⟩ := hcare
  unfold assignStep at hstep
  rw [if_pos hpages] at hstep
  obtain ⟨links, hlinks, heq⟩ := Option.map_eq_some_iff.mp hstep
  obtain ⟨href, hfiles⟩ := freeHs_install hinstall
  rw [← heq]
  unfold SubRange.withBuffer
  rw [changeRefs_between]
  exact withBuffer_inv h hcovered hnodup hapart hlinks href rfl hfiles

theorem getFdFromListStep_inv {list : List (Option ℕ)} {offs sz : U64} {env : SubRangeEnv}
    (h : SubRangeInv s) (hcare : SubRangeCareful s (.getFdFromList list offs sz env))
    (hstep : getFdFromListStep ps s list offs sz env = some s') : SubRangeInv s' := by
  have hput : SubRangeInv (s.putBack (validIds list)) := by
    unfold SubRange.putBack
    rw [changeRefs_cancel]
    exact h
  rcases ite_eq_iff.mp hstep with ⟨_, heq⟩ | ⟨hargs, hstep⟩
  · cases heq
    exact h
  obtain ⟨hids, hstep⟩ := Option.ite_none_right_eq_some.mp hstep
  obtain ⟨hnone, hcare⟩ := hcare.resolve_left hargs
  rw [if_neg hnone] at hstep
  cases hrange : subRangeOf offs sz s.handles (validIds list) with
  | none =>
    rw [hrange] at hstep
    cases hstep
    exact hput
  | some covered =>
    rw [hrange] at hstep
    rcases ite_eq_iff.mp hstep with ⟨hcreate, hstep⟩ | ⟨_, heq⟩
    · apply assignStep_inv h _ (hcare covered hrange hcreate) hstep
      intro k hk
      have hid := List.all_eq_true.mp hids k (mem_of_mem_subRangeOf hrange hk)
      obtain ⟨_, hget, _⟩ := (Option.any_eq_true _ _).mp hid
      exact lt_of_getElem hget
    · cases heq
      exact hput

theorem subRangeStep_inv {op : SubRangeOp} (h : SubRangeInv s) (hcare : SubRangeCareful s op)
    (hstep : subRangeStep ps s op = some s') : SubRangeInv s' := by
  cases op with
  | newHandle size flags heapPgalloc fromVa isRo refs =>
    cases hstep
    exact newSubHandle_inv h rfl
  | get k =>
    obtain ⟨_, hk, hstep⟩ := Option.bind_eq_some_iff.mp hstep
    obtain ⟨_, heq⟩ := Option.ite_none_right_eq_some.mp hstep
    cases heq
    apply withHandle_inv h hk
    dsimp only
    omega
  | put k =>
    obtain ⟨_, hk, hstep⟩ := Option.bind_eq_some_iff.mp hstep
    obtain ⟨hpos, heq⟩ := Option.ite_none_right_eq_some.mp hstep
    cases heq
    apply withHandle_inv h hk
    dsimp only
    omega
  | getFdFromList list offs sz env => exact getFdFromListStep_inv h hcare hstep
  | dupFd i =>
    obtain ⟨_, hi, hstep⟩ := Option.bind_eq_some_iff.mp hstep
    obtain ⟨_, heq⟩ := Option.ite_none_right_eq_some.mp hstep
    cases heq
    apply withFiles_inv h hi
    omega
  | closeFd i =>
    obtain ⟨_, hi, hstep⟩ := Option.bind_eq_some_iff.mp hstep
    obtain ⟨hpos, heq⟩ := Option.ite_none_right_eq_some.mp hstep
    cases heq
    apply withFiles_inv h hi
    omega
  | release i => exact releaseSubStep_inv h hstep

end

section

variable {ps : PageSize} {s : SubRange} {ops : List SubRangeOp}

def onePage : SubRangeOp := .newHandle 4096 0 true false false 1

def goodEnv : SubRangeEnv := ⟨true, true, true, .installed⟩

/-- A buffer for two handles, and one for a third, of which the first is closed and released. -/
def twoRanges : List SubRangeOp :=
  [onePage, onePage, onePage, .getFdFromList [some 0, some 1] 0 8192 goodEnv, .put 0,
    .getFdFromList [some 2] 0 4096 goodEnv, .closeFd 0, .release 0]

end

end NvidiaOot.Analysis
