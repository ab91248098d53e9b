import NvidiaOot.Library.BitFields
import NvidiaOot.Model.NvmapIvm
import Mathlib.Tactic.Ring

/-!
# When the ids of IVM blocks round-trip

The id of a block is a word of three fields.  The offset is cut to its field, and the length is
not and can spill into the offset; the `BUG_ON`s look at neither.  The heap of the block is not
in the id.
-/

namespace NvidiaOot.Analysis

open Library Program Model

section

variable {ps : PageSize} {id x : U64} {k : ℕ}

theorem PageSize.shift_le (ps : PageSize) : ps.shift ≤ 16 := by
  cases ps <;> decide

theorem toNat_offsetMask (ps : PageSize) : ps.offsetMask.toNat = 2 ^ ps.shift - 1 := by
  cases ps <;> rfl

theorem le_pageAlign {x : U64} (h : 0 < (pageAlign ps x).toNat) : x.toNat ≤ (pageAlign ps x).toNat := by
  have hmask := toNat_offsetMask ps
  unfold pageAlign at h ⊢
  rw [toNat_and_not _ hmask, BitVec.toNat_add, hmask] at h ⊢
  by_cases hwrap : x.toNat + (2 ^ ps.shift - 1) < 2 ^ 64
  · rw [Nat.mod_eq_of_lt hwrap]
    have hdiv := Nat.div_add_mod (x.toNat + (2 ^ ps.shift - 1)) (2 ^ ps.shift)
    rw [Nat.mul_comm] at hdiv
    omega
  · have hlow : (x.toNat + (2 ^ ps.shift - 1)) % 2 ^ 64 < 2 ^ ps.shift := by omega
    rw [Nat.div_eq_of_lt hlow] at h
    omega

theorem toNat_withoutVm (hid : id.toNat < 2 ^ 32) :
    (id &&& ~~~(nvmapIvmIvmidMask.setWidth 64 <<< nvmapIvmIvmidShift)).toNat = id.toNat % 2 ^ 29 := by
  apply Nat.eq_of_testBit_eq
  intro i
  rw [Nat.testBit_mod_two_pow, BitVec.toNat_and, Nat.testBit_and]
  by_cases hi : i < 32
  · have hmask : ∀ j < 32, (~~~(nvmapIvmIvmidMask.setWidth 64 <<< nvmapIvmIvmidShift)).toNat.testBit j =
        decide (j < 29) := by decide
    rw [hmask i hi, Bool.and_comm]
  · have hzero : id.toNat.testBit i = false :=
      Nat.testBit_lt_two_pow (hid.trans_le (Nat.pow_le_pow_right (by decide) (by omega)))
    rw [hzero, Bool.false_and, Bool.and_false]

theorem toNat_ivcOffs (hid : id.toNat < 2 ^ 32) : (ivcOffs id).toNat = id.toNat >>> 16 % 2 ^ 13 * 2 ^ 15 := by
  have hfield : (id.toNat % 2 ^ 29) >>> 16 = id.toNat >>> 16 % 2 ^ 13 := by
    omega
  unfold ivcOffs
  rw [BitVec.toNat_shiftLeft, BitVec.toNat_ushiftRight, toNat_withoutVm hid,
    show nvmapIvmLengthWidth = 16 from rfl, show ffsIvmAlignment - 1 = 15 from rfl, hfield, Nat.shiftLeft_eq]
  exact Nat.mod_eq_of_lt (by omega)

theorem toNat_ivcSize (ps : PageSize) (id : U64) : (ivcSize ps id).toNat = id.toNat % 2 ^ 16 * 2 ^ ps.shift := by
  have hlow : (id &&& 0xffff).toNat = id.toNat % 2 ^ 16 := toNat_and_low (k := 16) id rfl
  have hshift : 2 ^ ps.shift ≤ 2 ^ 16 := Nat.pow_le_pow_right (by decide) (PageSize.shift_le ps)
  have hlt : id.toNat % 2 ^ 16 < 2 ^ 16 := Nat.mod_lt _ (by decide)
  unfold ivcSize
  rw [BitVec.toNat_shiftLeft, hlow, Nat.shiftLeft_eq]
  apply Nat.mod_eq_of_lt
  calc id.toNat % 2 ^ 16 * 2 ^ ps.shift ≤ 2 ^ 16 * 2 ^ 16 := Nat.mul_le_mul hlt.le hshift
    _ < 2 ^ 64 := by decide

theorem toNat_ivcPeer (hid : id.toNat < 2 ^ 32) : (ivcPeer id).toNat = id.toNat >>> 29 % 2 ^ 3 := by
  unfold ivcPeer
  rw [BitVec.toNat_setWidth, BitVec.toNat_ushiftRight, show nvmapIvmIvmidShift = 29 from rfl,
    Nat.shiftRight_eq_div_pow]
  omega

end

section

variable {ps : PageSize} {h : NvmapHeap} {base len : U64} {id : U32 × U64}

def idFields (ps : PageSize) (vmId : U32) (offset len : U64) : List (ℕ × ℕ) :=
  [(len.toNat >>> ps.shift, 16), ((offset.toNat % 2 ^ 32) >>> 15 % 2 ^ 13, 13), (vmId.toNat, 3)]

/-- The id of a block whose allocation hits no `BUG_ON`. -/
structure Encoded (ps : PageSize) (vmId : U32) (offset len id : U64) : Prop where
  vm_lt : vmId.toNat < 2 ^ 3
  aligned : offset.toNat % 2 ^ 15 = 0
  pages : len.toNat % 2 ^ ps.shift = 0
  small : id.toNat < 2 ^ 32
  word : id.toNat = pack (idFields ps vmId offset len) % 2 ^ 32

theorem toNat_ivmId (hvm : h.vmId.toNat < 2 ^ 3) (offs : U32) : (h.vmId.setWidth 64 <<< nvmapIvmIvmidShift |||
      ((offs >>> (ffsIvmAlignment - 1)).setWidth 64 &&& 0x1fff) <<< nvmapIvmOffsetShift |||
      len >>> ps.shift).toNat =
    pack [(len.toNat >>> ps.shift, 16), (offs.toNat >>> 15 % 2 ^ 13, 13), (h.vmId.toNat, 3)] := by
  have hoffs : ((offs >>> (ffsIvmAlignment - 1)).setWidth 64 &&& (0x1fff : U64)).toNat =
      offs.toNat >>> 15 % 2 ^ 13 := by
    refine (toNat_and_low (k := 13) _ rfl).trans ?_
    rfl
  have hvm' : (h.vmId.setWidth 64).toNat = h.vmId.toNat :=
    BitVec.toNat_setWidth_of_le (by decide)
  rw [BitVec.toNat_or, BitVec.toNat_or, BitVec.toNat_shiftLeft, BitVec.toNat_shiftLeft,
    BitVec.toNat_ushiftRight, hoffs, hvm', show nvmapIvmIvmidShift = 29 from rfl,
    show nvmapIvmOffsetShift = 16 from rfl]
  have hhigh : h.vmId.toNat <<< 29 % 2 ^ 64 = h.vmId.toNat <<< 29 := by
    apply Nat.mod_eq_of_lt
    omega
  have hmid : (offs.toNat >>> 15 % 2 ^ 13) <<< 16 % 2 ^ 64 = (offs.toNat >>> 15 % 2 ^ 13) <<< 16 := by
    apply Nat.mod_eq_of_lt
    omega
  rw [hhigh, hmid]
  simp only [pack, Nat.shiftLeft_or_distrib, ← Nat.shiftLeft_add, Nat.zero_shiftLeft, Nat.or_zero, Nat.reduceAdd]
  rw [Nat.or_comm, Nat.or_comm (h.vmId.toNat <<< 29)]

theorem encoded_of_ivmIdOf (hlen : len.toNat < 2 ^ 32) (hid : ivmIdOf ps h base len = some id) :
    Encoded ps h.vmId (base - h.base) len id.2 := by
  unfold ivmIdOf at hid
  dsimp only at hid
  split at hid
  · cases hid
  rename_i hoffs
  split at hid
  · cases hid
  split at hid
  · cases hid
  rename_i hvm
  split at hid
  · cases hid
  rename_i hpage
  rw [Option.some.injEq] at hid
  rw [not_not] at hoffs hvm hpage
  have hvm' : h.vmId.toNat < 2 ^ 3 := toNat_lt_of_and_not (k := 3) rfl hvm
  have hoffset : (base - h.base).toNat % 2 ^ 15 = 0 := by
    have hlow := toNat_and_low (k := 15) ((base - h.base).setWidth 32) (m := 0x7fff) rfl
    rw [hoffs, BitVec.toNat_setWidth] at hlow
    have hzero : (0 : U32).toNat = 0 := rfl
    omega
  have hpages : len.toNat % 2 ^ ps.shift = 0 := by
    have hlow := toNat_and_low len (toNat_offsetMask ps)
    rw [hpage] at hlow
    exact hlow.symm
  have hword : id.2.toNat = pack (idFields ps h.vmId (base - h.base) len) := by
    have hsnd := (congrArg Prod.snd hid).symm
    rw [hsnd, toNat_ivmId hvm', BitVec.toNat_setWidth, idFields]
  have hsmall : id.2.toNat < 2 ^ 32 := by
    have hpack : id.2.toNat = len.toNat >>> ps.shift |||
        (((base - h.base).toNat % 2 ^ 32) >>> 15 % 2 ^ 13 ||| h.vmId.toNat <<< 13) <<< 16 := by
      rw [hword]
      simp [idFields, pack]
    rw [hpack]
    refine Nat.or_lt_two_pow ?_ ?_
    · exact (Nat.shiftRight_le _ _).trans_lt hlen
    · have hmid : ((base - h.base).toNat % 2 ^ 32) >>> 15 % 2 ^ 13 ||| h.vmId.toNat <<< 13 < 2 ^ 16 := by
        refine Nat.or_lt_two_pow ((Nat.mod_lt _ (by decide)).trans (by decide)) ?_
        omega
      omega
  refine ⟨hvm', hoffset, hpages, hsmall, ?_⟩
  rw [← hword, Nat.mod_eq_of_lt hsmall]

theorem offset_field {x : ℕ} (haligned : x % 2 ^ 15 = 0) (hx : x < 2 ^ 28) :
    (x % 2 ^ 32) >>> 15 % 2 ^ 13 * 2 ^ 15 = x := by
  omega

/-- **When an id says what it was made from**: the offset and the length fit their fields. -/
theorem Encoded.decodes_iff {vmId : U32} {offset len id : U64} (h : Encoded ps vmId offset len id) :
    (ivcOffs id = offset ∧ ivcSize ps id = len ∧ ivcPeer id = vmId) ↔
      offset.toNat < 2 ^ 28 ∧ len.toNat < 2 ^ (16 + ps.shift) := by
  have hoffs := toNat_ivcOffs h.small
  have hsize := toNat_ivcSize ps id
  have hpeer := toNat_ivcPeer h.small
  have hpos : 0 < 2 ^ ps.shift := Nat.two_pow_pos _
  constructor
  · rintro ⟨ho, hs, _⟩
    rw [ho] at hoffs
    rw [hs] at hsize
    constructor
    · omega
    · rw [hsize, Nat.pow_add]
      exact Nat.mul_lt_mul_of_pos_right (Nat.mod_lt _ (by decide)) hpos
  · rintro ⟨ho, hs⟩
    have hquot : len.toNat >>> ps.shift < 2 ^ 16 := by
      rw [Nat.shiftRight_eq_div_pow]
      exact Nat.div_lt_of_lt_mul (by rw [Nat.mul_comm, ← Nat.pow_add]; exact hs)
    have hfields : ∀ f ∈ idFields ps vmId offset len, f.1 < 2 ^ f.2 := by
      simp only [idFields, List.mem_cons, List.not_mem_nil, or_false, forall_eq_or_imp, forall_eq]
      exact ⟨hquot, Nat.mod_lt _ (by decide), h.vm_lt⟩
    have hread := (unpack_word_iff h.word).mpr hfields
    simp only [idFields, unpack, List.map_cons, List.map_nil, List.cons.injEq, and_true] at hread
    obtain ⟨hlenField, hoffsField, hvmField⟩ := hread
    refine ⟨BitVec.eq_of_toNat_eq ?_, BitVec.eq_of_toNat_eq ?_, BitVec.eq_of_toNat_eq ?_⟩
    · rw [hoffs, hoffsField]
      exact offset_field h.aligned ho
    · rw [hsize, hlenField, Nat.shiftRight_eq_div_pow]
      exact Nat.div_mul_cancel (Nat.dvd_of_mod_eq_zero h.pages)
    · rw [hpeer, ← hvmField, ← Nat.shiftRight_add]

theorem ivmIdOf_congr (ps : PageSize) (len : U64) {h' : NvmapHeap} {base' : U64} (hvm : h.vmId = h'.vmId)
    (hoffset : base - h.base = base' - h'.base) : ivmIdOf ps h base len = ivmIdOf ps h' base' len := by
  unfold ivmIdOf
  rw [hvm, hoffset]

end

section

variable {vm : IvmVm} {s s' : IvmState vm.nrCarveouts} {b b' : IvmBlock vm.nrCarveouts}
  {handle : HeapRequest} {i : Fin vm.nrCarveouts} {search : Fin vm.nrCarveouts → Option ℕ}

def pagesOf (vm : IvmVm) (b : IvmBlock vm.nrCarveouts) : ℕ := pageCount vm.ps b.block.size

structure Allocated (vm : IvmVm) (b : IvmBlock vm.nrCarveouts) : Prop where
  offset : (offsetOf vm b).toNat = pageOf vm b * 2 ^ vm.ps.shift
  pages : 0 < pagesOf vm b
  len_lt : b.block.len.toNat < 2 ^ 32
  id : ivmIdOf vm.ps (vm.heaps b.heap) b.block.base b.block.len = some (b.block.offs, b.block.ivmId)

def PagesApart (vm : IvmVm) (b b' : IvmBlock vm.nrCarveouts) : Prop :=
  b.heap = b'.heap →
    pageOf vm b + pagesOf vm b ≤ pageOf vm b' ∨ pageOf vm b' + pagesOf vm b' ≤ pageOf vm b

theorem PagesApart.symm (h : PagesApart vm b b') : PagesApart vm b' b := by
  intro heap
  exact (h heap.symm).symm

/-- The pages of the blocks are set in the bitmaps, and no two blocks share one. -/
structure IvmInv (vm : IvmVm) (s : IvmState vm.nrCarveouts) : Prop where
  allocated : ∀ b ∈ s.live, Allocated vm b
  marked : ∀ b ∈ s.live, ∀ p, pageOf vm b ≤ p → p < pageOf vm b + pagesOf vm b →
    s.bitmap b.heap p = true
  apart : s.live.Pairwise (PagesApart vm)

theorem ivmInv_new (vm : IvmVm) : IvmInv vm (newIvm vm.nrCarveouts) :=
  ⟨nofun, nofun, .nil⟩

theorem pageCount_zero (ps : PageSize) : pageCount ps 0 = 0 := by
  cases ps <;> rfl

theorem nvmapHeapAlloc_some {block : NvmapHeapBlock} {pages : Option ℕ}
    (h : nvmapHeapAlloc vm.ps (vm.heaps i) handle pages = some (some block)) :
    ∃ pageno, pages = some pageno ∧ 0 < pageCount vm.ps block.size ∧
      block.size = handle.blockSize vm.ps ∧ block.len.toNat < 2 ^ 32 ∧
      block.base = (vm.heaps i).base + BitVec.ofNat 64 (pageno * 2 ^ vm.ps.shift) ∧
      ivmIdOf vm.ps (vm.heaps i) block.base block.len = some (block.offs, block.ivmId) := by
  unfold nvmapHeapAlloc at h
  split at h
  · cases h
  split at h
  · cases h
  dsimp only at h
  split at h
  · cases h
  split at h
  · cases h
  rename_i hcount
  cases pages with
  | none => cases h
  | some pageno =>
    obtain ⟨id, hid, hblock⟩ := Option.map_eq_some_iff.mp h
    rw [Option.some.injEq] at hblock
    rw [← hblock]
    refine ⟨pageno, rfl, Nat.pos_of_ne_zero hcount, rfl, ?_, rfl, hid⟩
    have hle : handle.size.toNat ≤ (handle.blockSize vm.ps).toNat := by
      unfold HeapRequest.blockSize
      by_cases hcache : handle.cacheable = true
      · rw [if_pos hcache]
        apply le_pageAlign
        apply Nat.pos_of_ne_zero
        intro hzero
        have hblock : handle.blockSize vm.ps = 0 := by
          unfold HeapRequest.blockSize
          rw [if_pos hcache]
          exact BitVec.eq_of_toNat_eq hzero
        rw [hblock] at hcount
        exact hcount (pageCount_zero vm.ps)
      · rw [if_neg hcache]
    exact hle.trans_lt (by omega)

theorem carveoutAllocFrom_some {l : List (Fin vm.nrCarveouts)}
    (h : carveoutAllocFrom vm handle search l = some (some b)) :
    nvmapHeapAlloc vm.ps (vm.heaps b.heap) handle (search b.heap) = some (some b.block) := by
  induction l with
  | nil => cases h
  | cons i rest ih =>
    obtain ⟨r, hr, hrest⟩ := Option.bind_eq_some_iff.mp h
    cases r with
    | none => exact ih hrest
    | some block =>
      simp only [Option.some.injEq] at hrest
      rw [← hrest]
      exact hr

theorem allocated_of_alloc (hsearch : SearchOk vm s handle search)
    (h : nvmapHeapAlloc vm.ps (vm.heaps b.heap) handle (search b.heap) = some (some b.block)) :
    Allocated vm b ∧ FreePages vm s b.heap (pageOf vm b) (pagesOf vm b) := by
  obtain ⟨pageno, hfound, hcount, hsize, hlen, hbase, hid⟩ := nvmapHeapAlloc_some h
  have hpages : pageCount vm.ps (handle.blockSize vm.ps) = pagesOf vm b := by
    rw [← hsize]
    rfl
  have hfree := hsearch b.heap pageno hfound
  rw [hpages] at hfree
  have hpos : 0 < 2 ^ vm.ps.shift := Nat.two_pow_pos _
  have hlt : pageno * 2 ^ vm.ps.shift < 2 ^ 64 := by
    have hle : pageno * 2 ^ vm.ps.shift ≤ (vm.heaps b.heap).len.toNat := by
      apply (Nat.le_div_iff_mul_le hpos).mp
      exact (Nat.le_add_right _ _).trans hfree.1
    exact hle.trans_lt (vm.heaps b.heap).len.isLt
  have hoffset : (offsetOf vm b).toNat = pageno * 2 ^ vm.ps.shift := by
    unfold offsetOf
    rw [hbase, add_sub_cancel_left, BitVec.toNat_ofNat, Nat.mod_eq_of_lt hlt]
  have hpage : pageOf vm b = pageno := by
    have hdiv := congrArg (· / 2 ^ vm.ps.shift) hoffset
    exact hdiv.trans (Nat.mul_div_cancel _ hpos)
  rw [hpage]
  refine ⟨⟨?_, hcount, hlen, hid⟩, hfree⟩
  rw [hpage]
  exact hoffset

theorem markPages_self {value : Bool} {p : ℕ} (hlow : pageOf vm b ≤ p)
    (hhigh : p < pageOf vm b + pagesOf vm b) : markPages vm s b value b.heap p = value :=
  if_pos ⟨rfl, hlow, hhigh⟩

theorem markPages_of_apart {value : Bool} {p : ℕ} (hapart : PagesApart vm b b')
    (hlow : pageOf vm b' ≤ p) (hhigh : p < pageOf vm b' + pagesOf vm b') :
    markPages vm s b value b'.heap p = s.bitmap b'.heap p := by
  apply if_neg
  rintro ⟨hheap, hlow', hhigh'⟩
  have := hapart hheap.symm
  unfold pagesOf at *
  omega

/-- **A new block keeps the invariant.** -/
theorem ivmInv_alloc (h : IvmInv vm s) (hb : Allocated vm b)
    (hfree : FreePages vm s b.heap (pageOf vm b) (pagesOf vm b)) :
    IvmInv vm ⟨markPages vm s b true, b :: s.live⟩ := by
  have hapart : ∀ b' ∈ s.live, PagesApart vm b b' := by
    intro b' hb' hheap
    by_contra hoverlap
    have hpages := hb.pages
    have hpages' := (h.allocated b' hb').pages
    -- a page of both is clear as one of the new block and set as one of the old block
    have hclear := hfree.2 (max (pageOf vm b) (pageOf vm b') - pageOf vm b) (by omega)
    have hset := h.marked b' hb' (max (pageOf vm b) (pageOf vm b')) (by omega) (by omega)
    rw [Nat.add_sub_cancel' (Nat.le_max_left _ _), hheap, hset] at hclear
    cases hclear
  refine ⟨?_, ?_, List.pairwise_cons.mpr ⟨hapart, h.apart⟩⟩
  · intro b' hb'
    rcases List.mem_cons.mp hb' with rfl | hold
    · exact hb
    · exact h.allocated b' hold
  · intro b' hb' p hlow hhigh
    rcases List.mem_cons.mp hb' with rfl | hold
    · exact markPages_self hlow hhigh
    · exact (markPages_of_apart (hapart b' hold) hlow hhigh).trans (h.marked b' hold p hlow hhigh)

/-- **Freeing a block keeps it.** -/
theorem ivmInv_free {k : ℕ} (h : IvmInv vm s) (hk : s.live[k]? = some b) :
    IvmInv vm ⟨markPages vm s b false, s.live.eraseIdx k⟩ := by
  obtain ⟨hlt, hget⟩ := List.getElem?_eq_some_iff.mp hk
  have hperm := List.getElem_cons_eraseIdx_perm hlt
  rw [hget] at hperm
  have hpairs := (hperm.pairwise_iff PagesApart.symm).mpr h.apart
  rw [List.pairwise_cons] at hpairs
  have hmem : ∀ b' ∈ s.live.eraseIdx k, b' ∈ s.live :=
    fun b' hb' => (List.eraseIdx_sublist s.live k).subset hb'
  refine ⟨fun b' hb' => h.allocated b' (hmem b' hb'), ?_, hpairs.2⟩
  intro b' hb' p hlow hhigh
  exact (markPages_of_apart (hpairs.1 b' hb') hlow hhigh).trans
    (h.marked b' (hmem b' hb') p hlow hhigh)

theorem ivmStep_inv {op : IvmOp vm.nrCarveouts} (h : IvmInv vm s)
    (hstep : ivmStep vm s op = some s') : IvmInv vm s' := by
  cases op with
  | alloc handle search =>
    unfold ivmStep at hstep
    dsimp only at hstep
    split at hstep
    case isTrue hsearch =>
      obtain ⟨r, hr, hs'⟩ := Option.map_eq_some_iff.mp hstep
      rw [← hs']
      cases r with
      | none => exact h
      | some b =>
        obtain ⟨hb, hfree⟩ := allocated_of_alloc hsearch (carveoutAllocFrom_some hr)
        exact ivmInv_alloc h hb hfree
    case isFalse => cases hstep
  | free k =>
    obtain ⟨b, hk, hs'⟩ := Option.map_eq_some_iff.mp hstep
    rw [← hs']
    exact ivmInv_free h hk

end

section

variable {vm : IvmVm} {s : IvmState vm.nrCarveouts} {b b' : IvmBlock vm.nrCarveouts}
  {ops : List (IvmOp vm.nrCarveouts)}

theorem Allocated.decodes_iff (h : Allocated vm b) :
    Decodes vm b ↔ (offsetOf vm b).toNat < 2 ^ 28 ∧ b.block.len.toNat < 2 ^ (16 + vm.ps.shift) := by
  have hencoded := encoded_of_ivmIdOf h.len_lt h.id
  rw [vm.guest] at hencoded
  have hiff := hencoded.decodes_iff
  constructor
  · intro hdec
    exact hiff.mp ⟨hdec.offs, hdec.size, hdec.peer⟩
  · intro hfit
    obtain ⟨hoffs, hsize, hpeer⟩ := hiff.mpr hfit
    exact ⟨hoffs, hsize, hpeer⟩

theorem Allocated.same_id (h : Allocated vm b) (h' : Allocated vm b')
    (hoffset : offsetOf vm b = offsetOf vm b') (hlen : b.block.len = b'.block.len) :
    b.block.ivmId = b'.block.ivmId := by
  have hvm : (vm.heaps b.heap).vmId = (vm.heaps b'.heap).vmId := by rw [vm.guest, vm.guest]
  have hsame := ivmIdOf_congr vm.ps b'.block.len hvm hoffset
  have hid := h.id
  rw [hlen, hsame, h'.id, Option.some.injEq, Prod.mk.injEq] at hid
  exact hid.2.symm

theorem offset_ne_of_apart (h : Allocated vm b) (h' : Allocated vm b')
    (hapart : PagesApart vm b b') (hheap : b.heap = b'.heap) : offsetOf vm b ≠ offsetOf vm b' := by
  intro heq
  have hpages := h.pages
  have hpages' := h'.pages
  have hpage : pageOf vm b = pageOf vm b' := congrArg (fun x => x.toNat / 2 ^ vm.ps.shift) heq
  have := hapart hheap
  omega

/-- **The ids in any state that is reached.** -/
theorem idsOk_iff (h : IvmInv vm s) : IdsOk vm s ↔ FieldsFit vm s := by
  constructor
  · intro hids
    refine ⟨?_, ?_, ?_⟩
    · intro b hb
      exact ((h.allocated b hb).decodes_iff.mp (hids.decodes b hb)).1
    · intro b hb
      exact ((h.allocated b hb).decodes_iff.mp (hids.decodes b hb)).2
    · apply hids.apart.imp_of_mem
      intro b b' hb hb' hne _
      by_contra hsame
      rw [not_or, not_not, not_not] at hsame
      exact hne ((h.allocated b hb).same_id (h.allocated b' hb') hsame.1 hsame.2)
  · intro hfit
    have hdecodes : ∀ b ∈ s.live, Decodes vm b := by
      intro b hb
      exact (h.allocated b hb).decodes_iff.mpr ⟨hfit.offset b hb, hfit.length b hb⟩
    refine ⟨hdecodes, ?_⟩
    apply (h.apart.and hfit.heaps).imp_of_mem
    rintro b b' hb hb' ⟨hapart, hheaps⟩ hid
    have hdec := hdecodes b hb
    have hdec' := hdecodes b' hb'
    have hoffset : offsetOf vm b = offsetOf vm b' := by
      rw [← hdec.offs, ← hdec'.offs, hid]
    have hlen : b.block.len = b'.block.len := by
      rw [← hdec.size, ← hdec'.size, hid]
    by_cases hheap : b.heap = b'.heap
    · exact offset_ne_of_apart (h.allocated b hb) (h.allocated b' hb') hapart hheap hoffset
    · rcases hheaps hheap with hne | hne
      · exact hne hoffset
      · exact hne hlen

/-- **The ids of the blocks of a VM** round-trip and tell the blocks apart exactly when the offsets
and the lengths fit their fields and no two heaps have blocks at the same offset with the same
length. -/
theorem ivm_ids_ok_iff (hrun : run (ivmStep vm) (newIvm vm.nrCarveouts) ops = some s) :
    IdsOk vm s ↔ FieldsFit vm s :=
  idsOk_iff (run_invariant (fun _ _ _ hinv hstep => ivmStep_inv hinv hstep) (ivmInv_new vm) hrun)

/-- The VM 0 with a heap of 512 MiB for each of the peers 1 and 2. -/
def twoPeers : IvmVm where
  ps := .k4
  nrCarveouts := 2
  vmId := 0
  heaps := fun i => ⟨0x80000000 + BitVec.ofNat 64 (i.val * 0x20000000), 0x20000000, true,
    BitVec.ofNat 32 (i.val + 1), 0⟩
  guest := fun _ => rfl
  inMemory := by decide

/-- An allocation for a peer, from the first page of its heap on. -/
def firstPage (peer : U32) (i : Fin twoPeers.nrCarveouts) : Option ℕ :=
  if (twoPeers.heaps i).peer = peer then some 0 else none

def allocFor (peer : U32) (size : U64) : IvmOp twoPeers.nrCarveouts :=
  .alloc ⟨size, 1, peer⟩ (firstPage peer)

/-- One page and the first 32 KiB of the other heap. -/
theorem ivm_ids_ok_first : ∃ s, run (ivmStep twoPeers) (newIvm twoPeers.nrCarveouts)
        [allocFor 1 0x1000, allocFor 2 0x10000] = some s ∧
      IdsOk twoPeers s ∧ s.live.map (fun b => b.block.ivmId) = [16, 8] := by
  refine exists_of_map (fun s => s.live)
    [⟨(1 : Fin 2), 0xa0000000, 0x10000, 0x10000, 0, 16⟩, ⟨(0 : Fin 2), 0x80000000, 0x8000, 0x8000, 0, 8⟩]
    (by decide) fun s hrun hlive => ?_
  refine ⟨?_, ?_⟩
  · apply (ivm_ids_ok_iff hrun).mpr
    refine ⟨?_, ?_, ?_⟩
    · rw [hlive]
      decide +kernel
    · rw [hlive]
      decide +kernel
    · rw [hlive]
      decide +kernel
  · rw [hlive]
    rfl

/-- **Where the ids fail**: a block of 256 MiB has the id of a block without a page, and the first
blocks of two heaps have the same id. -/
theorem ivm_ids_fail : (∃ s, run (ivmStep twoPeers) (newIvm twoPeers.nrCarveouts) [allocFor 1 0x10000000] = some s ∧
      ¬ ∀ b ∈ s.live, Decodes twoPeers b) ∧ ∃ s, run (ivmStep twoPeers) (newIvm twoPeers.nrCarveouts)
        [allocFor 1 0x1000, allocFor 2 0x1000] = some s ∧
      ¬ s.live.Pairwise fun b b' => b.block.ivmId ≠ b'.block.ivmId := by
  constructor
  · have hsearch : SearchOk twoPeers (newIvm twoPeers.nrCarveouts)
        (alignRequest ⟨0x10000000, 1, 1⟩) (firstPage 1) := by
      intro i pageno hpage
      refine ⟨?_, fun _ _ => rfl⟩
      revert i pageno
      decide +kernel
    refine ⟨⟨markPages twoPeers (newIvm twoPeers.nrCarveouts)
      ⟨(0 : Fin 2), 0x80000000, 0x10000000, 0x10000000, 0, 0x10000⟩ true,
      [⟨(0 : Fin 2), 0x80000000, 0x10000000, 0x10000000, 0, 0x10000⟩]⟩, ?_, ?_⟩
    · apply run_cons_eq_some.mpr
      refine ⟨_, ?_, rfl⟩
      unfold allocFor ivmStep
      dsimp only
      rw [if_pos hsearch]
      rfl
    · intro hdec
      have hsize := (hdec _ (List.mem_singleton_self _)).size
      exact absurd hsize (by decide)
  · have hsome : (run (ivmStep twoPeers) (newIvm twoPeers.nrCarveouts)
        [allocFor 1 0x1000, allocFor 2 0x1000]).map (fun s => s.live) =
          some [⟨(1 : Fin 2), 0xa0000000, 0x8000, 0x8000, 0, 8⟩, ⟨(0 : Fin 2), 0x80000000, 0x8000, 0x8000, 0, 8⟩] := by
      decide
    obtain ⟨s, hrun, hlive⟩ := Option.map_eq_some_iff.mp hsome
    refine ⟨s, hrun, ?_⟩
    rw [hlive]
    decide

end

end NvidiaOot.Analysis
