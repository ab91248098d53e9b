import NvidiaOot.Analysis.PvaElfImages
import NvidiaOot.Model.PvaQueue

/-!
# The table of pinned buffers

The trees, the list and the ids stay linked: a lookup finds the buffer with the key or the id
exactly when there is one, a count can be changed in place, a new buffer gets an id that is
free, and a buffer that is unmapped leaves the others as they are.
-/

namespace NvidiaOot.Analysis

open Library Program Model Function

section

variable {n m : ℕ}

theorem getLsbD_idMask {i : ℕ} (hi : i < 15) : (0x554c0000 : U32).getLsbD i = false := by
  have hall : ∀ i < 15, (0x554c0000 : U32).getLsbD i = false := by decide
  exact hall i hi

theorem idOf_unmask (hn : n < nvpvaMaxNumUniqueIds) : (idOf n &&& ~~~(0x554c0000 : U32)).toNat = n := by
  unfold nvpvaMaxNumUniqueIds at hn
  have hbits : idOf n &&& ~~~(0x554c0000 : U32) = BitVec.ofNat 32 n := by
    apply BitVec.eq_of_getLsbD_eq
    intro i hi
    unfold idOf
    rw [BitVec.getLsbD_and, BitVec.getLsbD_or, BitVec.getLsbD_not, BitVec.getLsbD_ofNat]
    by_cases hlow : i < 15
    · rw [getLsbD_idMask hlow]
      simp [hi]
    have hhigh : n.testBit i = false := by
      apply Nat.testBit_lt_two_pow
      have hpow : 2 ^ 15 ≤ 2 ^ i := Nat.pow_le_pow_right Nat.zero_lt_two (not_lt.mp hlow)
      omega
    rw [hhigh]
    cases (0x554c0000 : U32).getLsbD i <;> simp
  rw [hbits, BitVec.toNat_ofNat]
  omega

theorem idOf_injective (hn : n < nvpvaMaxNumUniqueIds) (hm : m < nvpvaMaxNumUniqueIds)
    (h : idOf n = idOf m) : n = m := by
  rw [← idOf_unmask hn, ← idOf_unmask hm, h]

theorem idOf_ne_zero : idOf n ≠ 0 := by
  intro h
  have hbit := congrArg (fun x => x.getLsbD 18) h
  unfold idOf at hbit
  rw [BitVec.getLsbD_or] at hbit
  have hmask : (0x554c0000 : U32).getLsbD 18 = true := by decide
  rw [hmask, Bool.or_true] at hbit
  exact absurd hbit (by decide)

variable {s s' : NvpvaBuffers}

theorem mem_assignedIds : n ∈ assignedIds s ↔ n < nvpvaMaxNumUniqueIds ∧ tableBit s.ids n = true := by
  unfold assignedIds
  rw [Finset.mem_filter, Finset.mem_range]

theorem getUniqueId_cases (s : NvpvaBuffers) : (getUniqueId s).1 = 0 ∧ (getUniqueId s).2 = s ∨
      ∃ n < nvpvaMaxNumUniqueIds, n ∉ assignedIds s ∧ (getUniqueId s).1 = idOf n ∧ (getUniqueId s).2 = { s with
          ids := updateWord s.ids n fun nr word => word ||| (1 : U32) <<< nr
          numAssignedIds := s.numAssignedIds + 1 } := by
  have hfirst := rmosFindFirstZeroBit_spec s.ids (show nvpvaMaxNumUniqueIds < 2 ^ 32 by decide)
  unfold getUniqueId
  generalize rmosFindFirstZeroBit s.ids nvpvaMaxNumUniqueIds = n at hfirst ⊢
  dsimp only
  split
  case isTrue => exact Or.inl ⟨rfl, rfl⟩
  case isFalse hne =>
    have hlt : n < nvpvaMaxNumUniqueIds := lt_of_le_of_ne hfirst.le hne
    refine Or.inr ⟨n, hlt, fun hmem => ?_, rfl, rfl⟩
    have hclear := hfirst.clear hlt
    rw [(mem_assignedIds.mp hmem).2] at hclear
    cases hclear

theorem assignedIds_set (hn : n < nvpvaMaxNumUniqueIds)
    (hids : s'.ids = updateWord s.ids n fun nr word => word ||| (1 : U32) <<< nr) :
    assignedIds s' = insert n (assignedIds s) := by
  ext k
  rw [Finset.mem_insert, mem_assignedIds, mem_assignedIds, hids, tableBit_set (by decide),
    Bool.or_eq_true, decide_eq_true_iff]
  constructor
  · rintro ⟨hk, hset | rfl⟩
    · exact Or.inr ⟨hk, hset⟩
    · exact Or.inl rfl
  · rintro (rfl | ⟨hk, hset⟩)
    · exact ⟨hn, Or.inr rfl⟩
    · exact ⟨hk, Or.inl hset⟩

theorem assignedIds_clear (hids : s'.ids = updateWord s.ids n fun nr word => word &&& ~~~((1 : U32) <<< nr)) :
    assignedIds s' = (assignedIds s).erase n := by
  ext k
  rw [Finset.mem_erase, mem_assignedIds, mem_assignedIds, hids, tableBit_clear (by decide),
    Bool.and_eq_true, decide_eq_true_iff]
  tauto

theorem putUniqueId_eq (hn : n ∈ assignedIds s) : putUniqueId s (idOf n) = { s with
      ids := updateWord s.ids n fun nr word => word &&& ~~~((1 : U32) <<< nr)
      numAssignedIds := s.numAssignedIds - 1 } := by
  obtain ⟨hlt, hset⟩ := mem_assignedIds.mp hn
  unfold putUniqueId
  rw [idOf_unmask hlt]
  dsimp only
  have htest : rmosTestBit32 (n % 32) (s.ids (n / 32)) = true :=
    (rmosTestBit32_iff (Nat.mod_lt n (by decide))).mpr hset
  rw [htest]
  rfl

theorem putUniqueId_set (hn : n < nvpvaMaxNumUniqueIds) (hfree : n ∉ assignedIds s)
    (hids : s'.ids = updateWord s.ids n fun nr word => word ||| (1 : U32) <<< nr)
    (hnum : s'.numAssignedIds = s.numAssignedIds + 1) : assignedIds (putUniqueId s' (idOf n)) = assignedIds s ∧
      (putUniqueId s' (idOf n)).numAssignedIds = s.numAssignedIds := by
  have hassigned := assignedIds_set hn hids
  have hmem : n ∈ assignedIds s' := by
    rw [hassigned]
    exact Finset.mem_insert_self _ _
  rw [putUniqueId_eq hmem]
  constructor
  · rw [assignedIds_clear (s := s') rfl, hassigned, Finset.erase_insert hfree]
  · dsimp only
    omega

end

section

variable {a b : NvpvaVmBuffer}

theorem treeKey_eq_iff : treeKey a = treeKey b ↔ pinKey a = pinKey b := by
  unfold treeKey pinKey
  simp only [EmbeddingLike.apply_eq_iff_eq, Prod.mk.injEq, BitVec.toNat_inj]

theorem treeKey_lt_iff : treeKey a < treeKey b ↔ a.dmabuf < b.dmabuf ∨ a.dmabuf = b.dmabuf ∧
    (a.userOffset < b.userOffset ∨ a.userOffset = b.userOffset ∧ a.userSize < b.userSize) := by
  unfold treeKey
  simp only [Prod.Lex.toLex_lt_toLex, BitVec.toNat_inj, BitVec.lt_def]

theorem compareAndAssign_eq : compareAndAssign a.dmabuf b.dmabuf a.userOffset b.userOffset
    a.userSize b.userSize = compare (treeKey a) (treeKey b) := by
  unfold compareAndAssign
  symm
  split_ifs with h1 h2 h3 h4 h5 h6
  · exact compare_gt_iff_gt.mpr (treeKey_lt_iff.mpr (Or.inl h1))
  · exact compare_lt_iff_lt.mpr (treeKey_lt_iff.mpr (Or.inl h2))
  all_goals have hd : a.dmabuf = b.dmabuf := by bv_omega
  · exact compare_gt_iff_gt.mpr (treeKey_lt_iff.mpr (Or.inr ⟨hd.symm, Or.inl h3⟩))
  · exact compare_lt_iff_lt.mpr (treeKey_lt_iff.mpr (Or.inr ⟨hd, Or.inl h4⟩))
  all_goals have ho : a.userOffset = b.userOffset := by bv_omega
  · exact compare_gt_iff_gt.mpr (treeKey_lt_iff.mpr (Or.inr ⟨hd.symm, Or.inr ⟨ho.symm, h5⟩⟩))
  · exact compare_lt_iff_lt.mpr (treeKey_lt_iff.mpr (Or.inr ⟨hd, Or.inr ⟨ho, h6⟩⟩))
  · have hs : a.userSize = b.userSize := by bv_omega
    refine compare_eq_iff_eq.mpr (treeKey_eq_iff.mpr ?_)
    unfold pinKey
    rw [hd, ho, hs]

variable {s : NvpvaBuffers} {p : ℕ}

/-- **Lookup by what was pinned.** -/
theorem findMapBuffer_eq_some (h : Linked s) {offset size dmabuf : U64} :
    nvpvaFindMapBuffer s offset size dmabuf = some p ↔
      p ∈ s.listHead ∧ pinKey (s.vm p) = (dmabuf, offset, size) := by
  let sought : NvpvaVmBuffer :=
    { zeroVmBuffer with dmabuf := dmabuf, userOffset := offset, userSize := size }
  have hsearch := search_eq_some_iff (a := p) (k := treeKey sought) h.sorted
    (fun q _ => compareAndAssign_eq (a := s.vm q) (b := sought))
  rw [h.root.mem_iff, treeKey_eq_iff] at hsearch
  exact hsearch

theorem findMapBuffer_eq_none (h : Linked s) {offset size dmabuf : U64} :
    nvpvaFindMapBuffer s offset size dmabuf = none ↔
      ∀ p ∈ s.listHead, pinKey (s.vm p) ≠ (dmabuf, offset, size) := by
  rw [Option.eq_none_iff_forall_ne_some]
  constructor
  · intro hnone p hp hkey
    exact hnone p ((findMapBuffer_eq_some h).mpr ⟨hp, hkey⟩)
  · intro hnone p hsome
    obtain ⟨hp, hkey⟩ := (findMapBuffer_eq_some h).mp hsome
    exact hnone p hp hkey

/-- **Lookup by id.** -/
theorem findMapBufferId_eq_some (h : Linked s) {id : U32} :
    nvpvaFindMapBufferId s id = some p ↔ p ∈ s.listHead ∧ (s.vm p).id = id := by
  have hcmp (q : ℕ) : (if id < (s.vm q).id then Ordering.gt
      else if (s.vm q).id ≠ id then .lt else .eq) = compare (s.vm q).id.toNat id.toNat := by
    symm
    split_ifs with hgt hne
    · exact compare_gt_iff_gt.mpr hgt
    · refine compare_lt_iff_lt.mpr ?_
      bv_omega
    · refine compare_eq_iff_eq.mpr ?_
      rw [not_not.mp hne]
  have hsearch := search_eq_some_iff (a := p) (k := id.toNat) h.sortedId (fun q _ => hcmp q)
  rw [h.rootId.mem_iff, BitVec.toNat_inj] at hsearch
  exact hsearch

theorem findMapBufferId_eq_none (h : Linked s) {id : U32} :
    nvpvaFindMapBufferId s id = none ↔ ∀ p ∈ s.listHead, (s.vm p).id ≠ id := by
  rw [Option.eq_none_iff_forall_ne_some]
  constructor
  · intro hnone p hp hid
    exact hnone p ((findMapBufferId_eq_some h).mpr ⟨hp, hid⟩)
  · intro hnone p hsome
    obtain ⟨hp, hid⟩ := (findMapBufferId_eq_some h).mp hsome
    exact hnone p hp hid

end

section

variable {rb : RbTree} {s : NvpvaBuffers} {p q : ℕ} {f : NvpvaVmBuffer → NvpvaVmBuffer}
  {v w : NvpvaVmBuffer}

theorem linked_nodup (h : Linked s) : s.listHead.Nodup := h.root.nodup_iff.mp h.sorted.nodup

theorem linked_eq_of_id (h : Linked s) (hp : p ∈ s.listHead) (hq : q ∈ s.listHead)
    (hid : (s.vm p).id = (s.vm q).id) : p = q := by
  have hdistinct := h.distinct
  unfold entries at hdistinct
  rw [List.map_map] at hdistinct
  exact List.inj_on_of_nodup_map hdistinct hp hq hid

theorem mem_entries : v ∈ entries s ↔ ∃ p ∈ s.listHead, s.vm p = v := List.mem_map

structure KeepsLabels (f : NvpvaVmBuffer → NvpvaVmBuffer) : Prop where
  id : ∀ v, (f v).id = v.id
  key : ∀ v, pinKey (f v) = pinKey v
  attach : ∀ v, (f v).attach = v.attach

theorem modify_vm (q : ℕ) : (s.modify p f).vm q = if q = p then f (s.vm p) else s.vm q := by
  unfold NvpvaBuffers.modify
  dsimp only
  rw [update_apply]

theorem modify_label {α : Type} (g : NvpvaVmBuffer → α) (hg : ∀ v, g (f v) = g v) (q : ℕ) :
    g ((s.modify p f).vm q) = g (s.vm q) := by
  rw [modify_vm]
  split
  case isTrue heq => rw [hg, heq]
  case isFalse => rfl

theorem linked_modify (h : Linked s) (hf : KeepsLabels f) : Linked (s.modify p f) := by
  have hid := modify_label (s := s) (p := p) NvpvaVmBuffer.id hf.id
  have hkey := modify_label (s := s) (p := p) pinKey hf.key
  have hattach := modify_label (s := s) (p := p) NvpvaVmBuffer.attach hf.attach
  refine ⟨h.root, h.rootId, ?_, ?_, ?_, ?_, ?_, h.assigned, h.mapped, ?_, h.fresh⟩
  · exact h.sorted.congr fun q _ => treeKey_eq_iff.mpr (hkey q)
  · exact h.sortedId.congr fun q _ => congrArg BitVec.toNat (hid q)
  · intro q hq
    obtain ⟨n, hn, heq⟩ := h.ids q hq
    exact ⟨n, hn, (hid q).trans heq⟩
  · intro n hn
    obtain ⟨q, hq, heq⟩ := h.owned n hn
    exact ⟨q, hq, (hid q).trans heq⟩
  · have heq : (entries (s.modify p f)).map NvpvaVmBuffer.id = (entries s).map NvpvaVmBuffer.id := by
      unfold entries
      rw [List.map_map, List.map_map]
      exact List.map_congr_left fun q _ => hid q
    rw [heq]
    exact h.distinct
  · intro q hq
    obtain ⟨dev, hdev⟩ := h.attached q hq
    have hdmabuf : ((s.modify p f).vm q).dmabuf = (s.vm q).dmabuf := congrArg Prod.fst (hkey q)
    exact ⟨dev, by rw [hattach, hdmabuf, hdev]⟩

theorem entries_modify (h : Linked s) (hp : p ∈ s.listHead) (f : NvpvaVmBuffer → NvpvaVmBuffer) :
    entries (s.modify p f) = (entries s).map fun v => if v.id = (s.vm p).id then f v else v := by
  unfold entries
  rw [List.map_map]
  refine List.map_congr_left fun q hq => ?_
  rw [modify_vm, comp_apply]
  by_cases heq : q = p
  · rw [if_pos heq, heq, if_pos rfl]
  · rw [if_neg heq, if_neg fun hid => heq (linked_eq_of_id h hq hp hid)]

theorem insert_node {κ : Type} [LinearOrder κ] {key : ℕ → κ} {cmp : ℕ → Ordering}
    {t : BinaryTree ℕ} (hrb : Balances rb) (h : KeysSorted key t)
    (hcmp : ∀ q ∈ inorder t, cmp q = .gt ↔ key p < key q) (hne : ∀ q ∈ inorder t, key q ≠ key p) :
    KeysSorted key (rb.rbInsertColor p (link cmp p t)) ∧
      (inorder (rb.rbInsertColor p (link cmp p t))).Perm (p :: inorder t) := by
  have hsame := hrb.insert p (link cmp p t) (mem_inorder_link.mpr (Or.inl rfl))
  unfold KeysSorted
  rw [hsame]
  exact ⟨keysSorted_link h hcmp hne, inorder_link_perm t⟩

theorem erase_node {κ : Type} [LinearOrder κ] {key : ℕ → κ} {t : BinaryTree ℕ}
    (hrb : Balances rb) (h : KeysSorted key t) (hp : p ∈ inorder t) :
    KeysSorted key (rb.rbErase p t) ∧ inorder (rb.rbErase p t) = (inorder t).erase p := by
  have hsame := hrb.erase p t hp
  refine ⟨?_, hsame⟩
  unfold KeysSorted
  rw [hsame]
  exact List.Pairwise.sublist List.erase_sublist h

/-- The state with a new buffer, before it is linked. -/
def withNewBuffer (s : NvpvaBuffers) (n : ℕ) (v : NvpvaVmBuffer) : NvpvaBuffers :=
  { s with
    ids := updateWord s.ids n fun nr word => word ||| (1 : U32) <<< nr
    numAssignedIds := s.numAssignedIds + 1
    vm := update s.vm s.nextVm v
    mapped := s.nextVm :: s.mapped
    nextVm := s.nextVm + 1 }

/-- **A new buffer** with a free id, of something that was not pinned yet. -/
theorem linked_insert (hrb : Balances rb) (h : Linked s) {n : ℕ} (hn : n < nvpvaMaxNumUniqueIds)
    (hfree : n ∉ assignedIds s) (hid : v.id = idOf n) {dev : PlatformDevice}
    (hattach : v.attach = some ⟨v.dmabuf, dev⟩) (hkey : ∀ w ∈ entries s, pinKey w ≠ pinKey v) :
    Linked (nvpvaBufferInsertMapBufferId rb
        (nvpvaBufferInsertMapBuffer rb (withNewBuffer s n v) s.nextVm) s.nextVm) ∧
      entries (nvpvaBufferInsertMapBufferId rb
        (nvpvaBufferInsertMapBuffer rb (withNewBuffer s n v) s.nextVm) s.nextVm) = entries s ++ [v] := by
  have hnew : (withNewBuffer s n v).vm s.nextVm = v := update_self _ _ _
  have hold {q : ℕ} (hq : q ∈ s.listHead) : (withNewBuffer s n v).vm q = s.vm q :=
    update_of_ne (h.fresh q hq).ne _ _
  have hfreeId {q : ℕ} (hq : q ∈ s.listHead) : (s.vm q).id ≠ idOf n := by
    intro heq
    obtain ⟨m, hm, hqm⟩ := h.ids q hq
    have hmn : m = n := idOf_injective (mem_assignedIds.mp hm).1 hn (hqm.symm.trans heq)
    exact hfree (hmn ▸ hm)
  have hassigned : assignedIds (withNewBuffer s n v) = Insert.insert n (assignedIds s) :=
    assignedIds_set hn (show (withNewBuffer s n v).ids =
      updateWord s.ids n fun nr word => word ||| (1 : U32) <<< nr from rfl)
  -- the trees with the new leaf
  have hsorted : KeysSorted (fun q => treeKey ((withNewBuffer s n v).vm q)) s.rbRoot :=
    h.sorted.congr fun q hq => congrArg treeKey (hold (h.root.mem_iff.mp hq))
  have hcmp : ∀ q ∈ inorder s.rbRoot, compareAndAssign ((withNewBuffer s n v).vm q).dmabuf
      ((withNewBuffer s n v).vm s.nextVm).dmabuf ((withNewBuffer s n v).vm q).userOffset
      ((withNewBuffer s n v).vm s.nextVm).userOffset ((withNewBuffer s n v).vm q).userSize
      ((withNewBuffer s n v).vm s.nextVm).userSize = .gt ↔
        treeKey ((withNewBuffer s n v).vm s.nextVm) < treeKey ((withNewBuffer s n v).vm q) := by
    intro q _
    rw [compareAndAssign_eq]
    exact compare_gt_iff_gt
  have hne : ∀ q ∈ inorder s.rbRoot, treeKey ((withNewBuffer s n v).vm q) ≠
      treeKey ((withNewBuffer s n v).vm s.nextVm) := by
    intro q hq
    have hmem := h.root.mem_iff.mp hq
    rw [hnew, hold hmem, Ne, treeKey_eq_iff]
    exact hkey _ (mem_entries.mpr ⟨q, hmem, rfl⟩)
  have hsortedId : KeysSorted (fun q => ((withNewBuffer s n v).vm q).id.toNat) s.rbRootId :=
    h.sortedId.congr fun q hq => by rw [hold (h.rootId.mem_iff.mp hq)]
  have hcmpId : ∀ q ∈ inorder s.rbRootId,
      (if ((withNewBuffer s n v).vm s.nextVm).id < ((withNewBuffer s n v).vm q).id
        then Ordering.gt else .lt) = .gt ↔
        ((withNewBuffer s n v).vm s.nextVm).id.toNat < ((withNewBuffer s n v).vm q).id.toNat := by
    intro q _
    split
    case isTrue hlt => exact ⟨fun _ => hlt, fun _ => rfl⟩
    case isFalse hlt => exact ⟨nofun, fun hlt' => absurd hlt' hlt⟩
  have hneId : ∀ q ∈ inorder s.rbRootId, ((withNewBuffer s n v).vm q).id.toNat ≠
      ((withNewBuffer s n v).vm s.nextVm).id.toNat := by
    intro q hq
    have hmem := h.rootId.mem_iff.mp hq
    rw [hnew, hold hmem, hid, Ne, BitVec.toNat_inj]
    exact hfreeId hmem
  obtain ⟨hsorted', hperm⟩ := insert_node hrb hsorted hcmp hne
  obtain ⟨hsortedId', hpermId⟩ := insert_node hrb hsortedId hcmpId hneId
  have hlist : (s.nextVm :: s.listHead).Perm (s.listHead ++ [s.nextVm]) :=
    (List.perm_append_singleton _ _).symm
  have hentries : entries (nvpvaBufferInsertMapBufferId rb
      (nvpvaBufferInsertMapBuffer rb (withNewBuffer s n v) s.nextVm) s.nextVm) =
      entries s ++ [v] := by
    change (s.listHead ++ [s.nextVm]).map (withNewBuffer s n v).vm = s.listHead.map s.vm ++ [v]
    rw [List.map_append, List.map_singleton, hnew, List.map_congr_left fun q hq => hold hq]
  refine ⟨⟨?_, ?_, hsorted', hsortedId', ?_, ?_, ?_, ?_, ?_, ?_, ?_⟩, hentries⟩
  · exact (hperm.trans (h.root.cons _)).trans hlist
  · exact (hpermId.trans (h.rootId.cons _)).trans hlist
  · intro q hq
    rcases List.mem_append.mp hq with hq | hq
    · obtain ⟨m, hm, hqm⟩ := h.ids q hq
      exact ⟨m, hassigned ▸ Finset.mem_insert_of_mem hm, (congrArg NvpvaVmBuffer.id (hold hq)).trans hqm⟩
    · obtain rfl := List.mem_singleton.mp hq
      exact ⟨n, hassigned ▸ Finset.mem_insert_self n _, (congrArg NvpvaVmBuffer.id hnew).trans hid⟩
  · intro m hm
    have hm' : m ∈ Insert.insert n (assignedIds s) := hassigned ▸ hm
    rcases Finset.mem_insert.mp hm' with rfl | hm'
    · exact ⟨s.nextVm, List.mem_append_right _ List.mem_cons_self, (congrArg NvpvaVmBuffer.id hnew).trans hid⟩
    · obtain ⟨q, hq, hqm⟩ := h.owned m hm'
      exact ⟨q, List.mem_append_left _ hq, (congrArg NvpvaVmBuffer.id (hold hq)).trans hqm⟩
  · rw [hentries, List.map_append]
    refine List.nodup_append.mpr ⟨h.distinct, List.nodup_singleton _, ?_⟩
    intro id hmem id' hmem' heq
    obtain ⟨w, hw, rfl⟩ := List.mem_map.mp hmem
    obtain ⟨q, hq, rfl⟩ := mem_entries.mp hw
    rw [List.map_singleton, List.mem_singleton] at hmem'
    exact hfreeId hq (heq.trans (hmem'.trans hid))
  · have hcard := Finset.card_insert_of_notMem hfree
    change s.numAssignedIds + 1 = (assignedIds (withNewBuffer s n v)).card
    rw [hassigned, hcard, h.assigned]
  · exact (h.mapped.cons _).trans hlist
  · intro q hq
    rcases List.mem_append.mp hq with hq | hq
    · obtain ⟨dev', hdev⟩ := h.attached q hq
      refine ⟨dev', ?_⟩
      change ((withNewBuffer s n v).vm q).attach = some ⟨((withNewBuffer s n v).vm q).dmabuf, dev'⟩
      rw [hold hq, hdev]
    obtain rfl := List.mem_singleton.mp hq
    refine ⟨dev, ?_⟩
    change ((withNewBuffer s n v).vm s.nextVm).attach =
      some ⟨((withNewBuffer s n v).vm s.nextVm).dmabuf, dev⟩
    rw [hnew, hattach]
  · intro q hq
    rcases List.mem_append.mp hq with hq | hq
    · exact Nat.lt_succ_of_lt (h.fresh q hq)
    · rw [List.mem_singleton.mp hq]
      exact Nat.lt_succ_self _

/-- The state without a buffer whose id is still assigned. -/
def withoutBuffer (rb : RbTree) (s : NvpvaBuffers) (p : ℕ) : NvpvaBuffers :=
  { s with
    mapped := s.mapped.erase p
    rbRoot := rb.rbErase p s.rbRoot
    listHead := s.listHead.erase p
    rbRootId := rb.rbErase p s.rbRootId }

/-- **A buffer leaves the table.** -/
theorem linked_remove (hrb : Balances rb) (h : Linked s) (hp : p ∈ s.listHead) :
    Linked (putUniqueId (withoutBuffer rb s p) (s.vm p).id) ∧
      entries (putUniqueId (withoutBuffer rb s p) (s.vm p).id) = (entries s).filter (fun v => v.id ≠ (s.vm p).id) ∧
      (putUniqueId (withoutBuffer rb s p) (s.vm p).id).listHead = s.listHead.erase p ∧
      (putUniqueId (withoutBuffer rb s p) (s.vm p).id).kref = s.kref := by
  obtain ⟨n, hn, hid⟩ := h.ids p hp
  obtain ⟨hsorted, hinorder⟩ := erase_node hrb h.sorted (h.root.mem_iff.mpr hp)
  obtain ⟨hsortedId, hinorderId⟩ := erase_node hrb h.sortedId (h.rootId.mem_iff.mpr hp)
  have hnodup := linked_nodup h
  have hmem {q : ℕ} : q ∈ s.listHead.erase p ↔ q ≠ p ∧ q ∈ s.listHead := hnodup.mem_erase_iff
  have hput : putUniqueId (withoutBuffer rb s p) (s.vm p).id = { withoutBuffer rb s p with
      ids := updateWord s.ids n fun nr word => word &&& ~~~((1 : U32) <<< nr)
      numAssignedIds := s.numAssignedIds - 1 } := by
    rw [hid]
    exact putUniqueId_eq (s := withoutBuffer rb s p) hn
  rw [hput]
  have hassigned : assignedIds { withoutBuffer rb s p with
      ids := updateWord s.ids n fun nr word => word &&& ~~~((1 : U32) <<< nr)
      numAssignedIds := s.numAssignedIds - 1 } = (assignedIds s).erase n := assignedIds_clear rfl
  have hentries : (s.listHead.erase p).map s.vm =
      (entries s).filter (fun v => v.id ≠ (s.vm p).id) := by
    unfold entries
    rw [hnodup.erase_eq_filter, List.filter_map]
    congr 1
    refine List.filter_congr fun q hq => ?_
    by_cases heq : q = p
    · simp [heq]
    · have hne : (s.vm q).id ≠ (s.vm p).id := fun hid => heq (linked_eq_of_id h hq hp hid)
      simp [heq, hne]
  refine ⟨⟨?_, ?_, hsorted, hsortedId, ?_, ?_, ?_, ?_, ?_, ?_, ?_⟩, hentries, rfl, rfl⟩
  · exact hinorder ▸ h.root.erase p
  · exact hinorderId ▸ h.rootId.erase p
  · intro q hq
    obtain ⟨hqp, hq⟩ := hmem.mp hq
    obtain ⟨m, hm, hqm⟩ := h.ids q hq
    refine ⟨m, ?_, hqm⟩
    rw [hassigned]
    refine Finset.mem_erase.mpr ⟨fun hmn => ?_, hm⟩
    exact hqp (linked_eq_of_id h hq hp (hqm.trans (hmn ▸ hid.symm)))
  · intro m hm
    rw [hassigned] at hm
    obtain ⟨hmn, hm⟩ := Finset.mem_erase.mp hm
    obtain ⟨q, hq, hqm⟩ := h.owned m hm
    refine ⟨q, hmem.mpr ⟨fun hqp => ?_, hq⟩, hqm⟩
    rw [hqp, hid] at hqm
    exact hmn (idOf_injective (mem_assignedIds.mp hn).1 (mem_assignedIds.mp hm).1 hqm).symm
  · exact h.distinct.sublist ((List.erase_sublist.map s.vm).map NvpvaVmBuffer.id)
  · rw [hassigned, Finset.card_erase_of_mem hn]
    exact congrArg (· - 1) h.assigned
  · exact h.mapped.erase p
  · intro q hq
    exact h.attached q (hmem.mp hq).2
  · intro q hq
    exact h.fresh q (hmem.mp hq).2

def settle (l : List NvpvaVmBuffer) : List NvpvaVmBuffer :=
  l.filter fun v => v.userMapCount ≠ 0 ∨ v.submitMapCount ≠ 0

theorem settle_of_counted {l : List NvpvaVmBuffer} (h : ∀ v ∈ l, MapCounted v) : settle l = l := by
  refine List.filter_eq_self.mpr fun v hv => decide_eq_true ?_
  have hpositive := (h v hv).positive
  omega

def KeepsRange (f : NvpvaVmBuffer → NvpvaVmBuffer) : Prop :=
  ∀ v, MapCounted v → (0 ≤ (f v).userMapCount ∧ (f v).userMapCount < 2 ^ 31) ∧
    0 ≤ (f v).submitMapCount ∧ (f v).submitMapCount < 2 ^ 31

/-- **A count is changed, and the buffer unmapped if it was the last.** -/
theorem unmap_modified (hrb : Balances rb) (h : TableOk s) (hp : p ∈ s.listHead)
    (hf : KeepsLabels f) (hrange : KeepsRange f) : TableOk (nvpvaBufferUnmap rb (s.modify p f) p) ∧
      entries (nvpvaBufferUnmap rb (s.modify p f) p) =
        settle ((entries s).map fun v => if v.id = (s.vm p).id then f v else v) ∧
      (nvpvaBufferUnmap rb (s.modify p f) p).kref = s.kref ∧
      ∀ q ∈ s.listHead, q ≠ p → q ∈ (nvpvaBufferUnmap rb (s.modify p f) p).listHead := by
  have hlinked := linked_modify (p := p) h.linked hf
  have hentries := entries_modify h.linked hp f
  have hvm : (s.modify p f).vm p = f (s.vm p) := by
    rw [modify_vm, if_pos rfl]
  have hcounted : ∀ w ∈ entries (s.modify p f), w.id ≠ (s.vm p).id → MapCounted w := by
    intro w hw hne
    rw [hentries] at hw
    obtain ⟨v, hv, rfl⟩ := List.mem_map.mp hw
    split at hne
    case isTrue heq => exact absurd ((hf.id v).trans heq) hne
    case isFalse heq =>
      rw [if_neg heq]
      exact h.counted v hv
  have hself : ∀ w ∈ entries (s.modify p f), w.id = (s.vm p).id → w = f (s.vm p) := by
    intro w hw hid
    obtain ⟨q, hq, rfl⟩ := mem_entries.mp hw
    rw [modify_label NvpvaVmBuffer.id hf.id] at hid
    rw [linked_eq_of_id h.linked hq hp hid, hvm]
  have hrangep := hrange _ (h.counted _ (mem_entries.mpr ⟨p, hp, rfl⟩))
  rw [← hentries]
  by_cases hlive : (f (s.vm p)).userMapCount ≠ 0 ∨ (f (s.vm p)).submitMapCount ≠ 0
  case pos =>
    have hunmap : nvpvaBufferUnmap rb (s.modify p f) p = s.modify p f := by
      unfold nvpvaBufferUnmap
      rw [hvm, if_pos hlive]
    have hall : ∀ w ∈ entries (s.modify p f), MapCounted w := by
      intro w hw
      by_cases hid : w.id = (s.vm p).id
      · rw [hself w hw hid]
        exact ⟨hrangep.1, hrangep.2, by omega⟩
      · exact hcounted w hw hid
    rw [hunmap]
    exact ⟨⟨hlinked, hall⟩, (settle_of_counted hall).symm, rfl, fun q hq _ => hq⟩
  case neg =>
    have hid : ((s.modify p f).vm p).id = (s.vm p).id := modify_label NvpvaVmBuffer.id hf.id p
    have hunmap : nvpvaBufferUnmap rb (s.modify p f) p =
        putUniqueId (withoutBuffer rb (s.modify p f) p) ((s.modify p f).vm p).id := by
      unfold nvpvaBufferUnmap
      rw [if_neg (hvm ▸ hlive)]
      rfl
    obtain ⟨hlinked', hentries', hlist, hkref⟩ := linked_remove hrb hlinked (p := p) hp
    rw [hunmap]
    have hsettle : settle (entries (s.modify p f)) =
        (entries (s.modify p f)).filter (fun v => v.id ≠ ((s.modify p f).vm p).id) := by
      refine List.filter_congr fun w hw => ?_
      rw [hid]
      by_cases heq : w.id = (s.vm p).id
      · rw [decide_eq_false (hself w hw heq ▸ hlive), decide_eq_false (not_not.mpr heq)]
      · have hpositive := (hcounted w hw heq).positive
        simp only [ne_eq, heq, not_false_eq_true, decide_true, decide_eq_true_eq]
        omega
    refine ⟨⟨hlinked', fun w hw => ?_⟩, hentries'.trans hsettle.symm, hkref, fun q hq hqp => ?_⟩
    · rw [hentries', List.mem_filter, hid] at hw
      exact hcounted w hw.1 (of_decide_eq_true hw.2)
    · rw [hlist]
      exact (linked_nodup hlinked).mem_erase_iff.mpr ⟨hqp, hq⟩

theorem tableOk_init : TableOk nvpvaBufferInit := by
  have hassigned : assignedIds nvpvaBufferInit = ∅ := by
    ext n
    rw [mem_assignedIds]
    simp [tableBit, nvpvaBufferInit]
  refine ⟨⟨List.Perm.refl _, List.Perm.refl _, List.Pairwise.nil, List.Pairwise.nil, ?_, ?_,
    List.nodup_nil, ?_, List.Perm.refl _, ?_, ?_⟩, ?_⟩
  · exact fun p hp => absurd hp List.not_mem_nil
  · intro n hn
    rw [hassigned] at hn
    exact absurd hn (Finset.notMem_empty n)
  · rw [hassigned]
    rfl
  · exact fun p hp => absurd hp List.not_mem_nil
  · exact fun p hp => absurd hp List.not_mem_nil
  · exact fun v hv => absurd hv List.not_mem_nil

end

end NvidiaOot.Analysis
