import NvidiaOot.Analysis.FreeList

/-!
# The ADSP memory manager conserves memory

Requests and releases keep the memory managed.  A release needs a free chunk above the one
that it puts back; without one the chunk stays allocated for good.
-/

namespace NvidiaOot.Analysis

open Library Program Model

section

variable {mm mm' : MemManagerInfo} {chunk c : Chunk} {l l' : List Chunk} {base size : ℕ}
  {kzalloc : Bool} {req : U64} {e : ℤ}

theorem insertAlloc_perm (h : insertAlloc c l = some l') : l'.Perm (c :: l) := by
  induction l generalizing l' with
  | nil => cases h
  | cons a l ih =>
    unfold insertAlloc at h
    split at h
    · rw [← Option.some.inj h]
    · obtain ⟨l1, hl1, rfl⟩ := Option.map_eq_some_iff.mp h
      exact ((ih hl1).cons a).trans (List.Perm.swap c a l)

theorem insertAlloc_getD_perm (h : l'.Perm (c :: l)) : ((insertAlloc c l).getD l').Perm (c :: l) := by
  cases hrun : insertAlloc c l with
  | none => exact h
  | some l1 => exact insertAlloc_perm hrun

/-- **A request** takes a chunk of the size, or there is none, or no record for it. -/
theorem memRequest_spec (h : Managed base size mm.allocList mm.freeList)
    (hspace : base + size ≤ 2 ^ 64) (kzalloc : Bool) (hreq : req ≠ 0) :
    (∃ c mm', memRequest kzalloc req mm = (.ok c, mm') ∧ 0 < (range c).size ∧
      mm'.allocList.Perm (c :: mm.allocList) ∧ Taken c mm.freeList mm'.freeList) ∨
    (∃ e, memRequest kzalloc req mm = (.error e, mm) ∧ (kzalloc = false ∨ ∀ c ∈ mm.freeList, c.size < req)) := by
  have hpos : 0 < req.toNat := by
    rw [Nat.pos_iff_ne_zero]
    exact fun hzero => hreq (BitVec.eq_of_toNat_eq hzero)
  obtain ⟨hsome, hnone⟩ := bestMatch_spec req mm.freeList
  unfold memRequest
  split
  case h_1 hbest => exact Or.inr ⟨_, rfl, Or.inr (hnone hbest)⟩
  case h_2 best hbest =>
    obtain ⟨hmem, hfit⟩ := hsome best hbest
    have hposBest : 0 < (range best).size := hpos.trans_le hfit
    have hsize := managed_size_pos h (List.mem_append_right _ hmem) hposBest
    have hend := (managed_fits h hsize best hmem).2
    split
    case isTrue heq =>
      refine Or.inl ⟨_, _, rfl, hposBest, ?_, taken_whole hmem h.apart (h.free hsize)⟩
      exact insertAlloc_getD_perm (List.Perm.refl _)
    case isFalse hne =>
      have hlt : req < best.size := by bv_omega
      split
      case isTrue hrecord => exact Or.inr ⟨_, rfl, Or.inl (by simpa using hrecord)⟩
      case isFalse =>
        refine Or.inl ⟨_, _, rfl, hpos, ?_, taken_part hmem hlt (hend.trans hspace) h.apart (h.free hsize)⟩
        exact insertAlloc_getD_perm List.perm_append_comm

end

section

variable {mm : MemManagerInfo} {c : Chunk} {base size : ℕ}

/-- **A release** puts the chunk back if a free chunk lies above it. -/
theorem memRelease_true (h : Managed base size mm.allocList mm.freeList) (hspace : size < 2 ^ 64)
    (hc : c ∈ mm.allocList) (hsucc : ∃ d ∈ mm.freeList, c.address < d.address) :
    (memRelease c mm).1 = true ∧ MovedToFree c mm (memRelease c mm).2 ∧
      Managed base size (memRelease c mm).2.allocList (memRelease c mm).2.freeList := by
  unfold memRelease
  split
  case h_1 hnone =>
    obtain ⟨d, hd, hlt⟩ := hsucc
    exact absurd hlt (insertFree_eq_none_iff.mp hnone d hd)
  case h_2 freeList hrun =>
    obtain ⟨hmanaged, hput⟩ := managed_putBack h hspace hc hrun
    exact ⟨rfl, ⟨rfl, hput.cover⟩, hmanaged⟩

theorem memRelease_false (hsucc : ¬ ∃ d ∈ mm.freeList, c.address < d.address) : memRelease c mm = (false, mm) := by
  have hnone : insertFree c [] mm.freeList = none :=
    insertFree_eq_none_iff.mpr fun d hd hlt => hsucc ⟨d, hd, hlt⟩
  unfold memRelease
  rw [hnone]

theorem memRelease_iff (h : Managed base size mm.allocList mm.freeList) (hspace : size < 2 ^ 64)
    (hc : c ∈ mm.allocList) : (memRelease c mm).1 = true ↔ ∃ d ∈ mm.freeList, c.address < d.address := by
  constructor
  · intro htrue
    by_contra hsucc
    rw [memRelease_false hsucc] at htrue
    cases htrue
  · intro hsucc
    exact (memRelease_true h hspace hc hsucc).1

end

section

variable {startAddress size : U64} {s s' : MemRun} {lost : List Chunk} {op : MemOp}

/-- The state of a manager and its clients; `lost` has the chunks whose release failed. -/
structure MemInv (startAddress size : U64) (lost : List Chunk) (s : MemRun) : Prop where
  managed : Managed startAddress.toNat size.toNat s.mm.allocList s.mm.freeList
  handles : s.mm.allocList.Perm (s.outstanding ++ lost)
  nothing : size = 0 → s.mm.freeList = [⟨startAddress, size⟩]

theorem MemInv.init (startAddress size : U64) : MemInv startAddress size [] (newMemRun startAddress size) :=
  ⟨managed_init startAddress size, List.Perm.refl _, fun _ => rfl⟩

section

variable (h : MemInv startAddress size lost s)

include h

theorem MemInv.mem_allocList {c : Chunk}
    (hc : c ∈ s.outstanding) : c ∈ s.mm.allocList :=
  h.handles.mem_iff.mpr (List.mem_append_left lost hc)

theorem MemInv.size_ne_zero {c : Chunk}
    (hc : c ∈ s.mm.allocList) : size ≠ 0 := by
  have hpos := managed_size_pos h.managed (List.mem_append_left _ hc) (h.managed.allocated c hc)
  rintro rfl
  exact absurd hpos (by decide)

/-- **One call.**  No chunk is lost by a release that finds a free chunk above. -/
theorem MemInv.step
    (hspace : startAddress.toNat + size.toNat ≤ 2 ^ 64) (hstep : memStep s op = some s') :
    ∃ lost', MemInv startAddress size lost' s' ∧ (HasSuccessor s op → lost' = lost) := by
  cases op with
  | request kzalloc req =>
    dsimp only [memStep] at hstep
    split at hstep
    case isTrue => cases hstep
    case isFalse hreq =>
      refine ⟨lost, ?_, fun _ => rfl⟩
      rcases memRequest_spec h.managed hspace kzalloc hreq with
        ⟨c, mm', hrun, hpos, hperm, htaken⟩ | ⟨e, hrun, -⟩
      · rw [hrun] at hstep
        cases hstep
        have hmanaged := managed_perm (managed_take h.managed hpos htaken) hperm.symm
        refine ⟨hmanaged, hperm.trans (h.handles.cons c), fun hzero => ?_⟩
        have hne := managed_size_pos hmanaged
          (List.mem_append_left _ (hperm.mem_iff.mpr List.mem_cons_self)) hpos
        rw [hzero] at hne
        exact absurd hne (by decide)
      · rw [hrun] at hstep
        cases hstep
        exact h
  | release handle =>
    dsimp only [memStep] at hstep
    split at hstep
    case isFalse => cases hstep
    case isTrue hout =>
      cases hstep
      have hmem := h.mem_allocList hout
      by_cases hsucc : HasSuccessor s (.release handle)
      · obtain ⟨-, hmoved, hmanaged⟩ := memRelease_true h.managed size.isLt hmem hsucc
        refine ⟨lost, ⟨hmanaged, ?_, fun hzero => ?_⟩, fun _ => rfl⟩
        · rw [hmoved.allocList, ← List.erase_append_left lost hout]
          exact h.handles.erase handle
        · exact absurd hzero (h.size_ne_zero hmem)
      rw [memRelease_false hsucc]
      refine ⟨handle :: lost, ⟨h.managed, ?_, h.nothing⟩, fun hyes => absurd hyes hsucc⟩
      refine (h.handles.trans ((List.perm_cons_erase hout).append_right lost)).trans ?_
      exact List.perm_middle.symm

end

theorem memInv_run {ops : List MemOp} (hspace : startAddress.toNat + size.toNat ≤ 2 ^ 64)
    (hrun : run memStep (newMemRun startAddress size) ops = some s) : ∃ lost, MemInv startAddress size lost s := by
  refine run_invariant (I := fun s => ∃ lost, MemInv startAddress size lost s) ?_
    ⟨[], .init startAddress size⟩ hrun
  rintro s op s' ⟨lost, h⟩ hstep
  obtain ⟨lost', h', -⟩ := h.step hspace hstep
  exact ⟨lost', h'⟩

/--
**The manager conserves memory.**  After any requests and releases the allocated and free
chunks tile the memory, the free list is sorted with gaps in between, and a request fails only
when no free chunk is large enough or no record for the new chunk can be allocated.

SOURCE: drivers/platform/tegra/nvadsp/mem_manager.c:16-154, 224-282
-/
theorem memManager_conserves {ops : List MemOp} (hspace : startAddress.toNat + size.toNat ≤ 2 ^ 64)
    (hrun : run memStep (newMemRun startAddress size) ops = some s) :
    Tiles startAddress.toNat size.toNat (ranges (s.mm.allocList ++ s.mm.freeList)) ∧ Apart (ranges s.mm.freeList) ∧
    ∀ kzalloc req e mm', req ≠ 0 → memRequest kzalloc req s.mm = (.error e, mm') →
      mm' = s.mm ∧ (kzalloc = false ∨ ∀ c ∈ s.mm.freeList, c.size < req) := by
  obtain ⟨lost, h⟩ := memInv_run hspace hrun
  refine ⟨h.managed.tiles, h.managed.apart, ?_⟩
  intro kzalloc req e mm' hreq hfail
  rcases memRequest_spec h.managed hspace kzalloc hreq with ⟨c, mm1, hok, -⟩ | ⟨e1, herr, hwhy⟩
  · rw [hok] at hfail
    cases (Prod.mk.inj hfail).1
  · rw [herr] at hfail
    exact ⟨(Prod.mk.inj hfail).2.symm, hwhy⟩

/-- Two requests, then the release of the lower chunk. -/
def twoRequests : List MemOp :=
  [.request true 0x100, .request true 0x80, .release ⟨0x1000, 0x100⟩]

theorem twoRequests_conserve : ∃ s, run memStep (newMemRun 0x1000 0x400) twoRequests = some s ∧
    s.mm.allocList = [⟨0x1100, 0x80⟩] ∧ Tiles 0x1000 0x400 (ranges (s.mm.allocList ++ s.mm.freeList)) := by
  refine exists_of_map (fun s => s.mm.allocList) [⟨0x1100, 0x80⟩] (by decide) fun s hrun hlist => ?_
  exact ⟨hlist, (memManager_conserves (by decide) hrun).1⟩

/-- A request can fail with enough memory free, when the record of the new chunk cannot be
allocated. -/
theorem request_fails_without_record :
    (memRequest false 0x100 (createMemManager 0x1000 0x400)).1 = .error (-eNOMEM) ∧
    (createMemManager 0x1000 0x400).freeList = [⟨0x1000, 0x400⟩] := by
  decide

end

section

variable {startAddress size : U64} {mm : MemManagerInfo} {s : MemRun} {l : List Chunk} {base n : ℕ}

def TopFree (base n : ℕ) (free : List Chunk) : Prop := ∃ c ∈ free, (range c).stop = base + n

theorem topFree_iff_cover {free alloc : List Chunk} (h : Managed base n alloc free) (hn : 0 < n) :
    TopFree base n free ↔ 0 < cover (ranges free) (base + n - 1) := by
  constructor
  · rintro ⟨c, hc, hstop⟩
    have hpos := h.free hn c hc
    refine cover_pos_of_mem (mem_ranges hc) ⟨?_, by omega⟩
    unfold Range.stop at hstop
    omega
  · intro hpos
    obtain ⟨r, hr, hhas⟩ := List.countP_pos_iff.mp hpos
    obtain ⟨c, hc, rfl⟩ := List.mem_map.mp hr
    have hhas : (range c).Has (base + n - 1) := by simpa using hhas
    refine ⟨c, hc, Nat.le_antisymm (managed_fits h hn c hc).2 ?_⟩
    have hlt := hhas.2
    omega

section

variable (h : Managed base n mm.allocList mm.freeList)

include h

theorem hasSuccessor_of_topFree
    (htop : TopFree base n mm.freeList) {c : Chunk} (hc : c ∈ mm.allocList) :
    ∃ d ∈ mm.freeList, c.address < d.address := by
  obtain ⟨d, hd, hstop⟩ := htop
  refine ⟨d, hd, ?_⟩
  by_contra hge
  have hbelow := (managed_clear h hc d hd).2 hge
  have hfits := (managed_fits_alloc h hc).2
  have hpos := h.allocated c hc
  unfold Range.stop at hfits hbelow hstop
  omega

/-- **Clearing the list**: all chunks are released, if the end of the memory is free. -/
theorem clear_of_topFree (hn : 0 < n)
    (hspace : n < 2 ^ 64) (htop : TopFree base n mm.freeList) (hl : mm.allocList.Perm l) :
    (l.foldl (fun mm c => (memRelease c mm).2) mm).allocList = [] ∧
      Managed base n [] (l.foldl (fun mm c => (memRelease c mm).2) mm).freeList := by
  induction l generalizing mm with
  | nil =>
    have hnil := hl.eq_nil
    rw [hnil] at h
    exact ⟨hnil, h⟩
  | cons c l ih =>
    have hc : c ∈ mm.allocList := hl.mem_iff.mpr List.mem_cons_self
    obtain ⟨-, hmoved, hmanaged⟩ :=
      memRelease_true h hspace hc (hasSuccessor_of_topFree h htop hc)
    have htop' : TopFree base n (memRelease c mm).2.freeList := by
      rw [topFree_iff_cover hmanaged hn, hmoved.freeList]
      exact Nat.add_pos_right _ ((topFree_iff_cover h hn).mp htop)
    refine ih hmanaged htop' ?_
    rw [hmoved.allocList]
    have herase := hl.erase c
    rwa [List.erase_cons_head] at herase

theorem mem_clear_of_stop (hspace : n < 2 ^ 64)
    {d : Chunk} (hd : d ∈ mm.allocList) (hstop : (range d).stop = base + n)
    (hl : ∀ c ∈ l, c ∈ mm.allocList) (hnodup : l.Nodup) :
    d ∈ (l.foldl (fun mm c => (memRelease c mm).2) mm).allocList := by
  induction l generalizing mm with
  | nil => exact hd
  | cons c l ih =>
    obtain ⟨hc, hrest⟩ := List.forall_mem_cons.mp hl
    obtain ⟨hnotin, hnodup'⟩ := List.nodup_cons.mp hnodup
    rw [List.foldl_cons]
    by_cases hsucc : ∃ f ∈ mm.freeList, c.address < f.address
    · obtain ⟨-, hmoved, hmanaged⟩ := memRelease_true h hspace hc hsucc
      have hne : d ≠ c := by
        rintro rfl
        obtain ⟨f, hf, hlt⟩ := hsucc
        have hsize := managed_size_pos h (List.mem_append_left _ hd) (h.allocated d hd)
        have habove := (managed_clear h hd f hf).1 hlt
        have hfits := (managed_fits h hsize f hf).2
        have hpos := h.free hsize f hf
        unfold Range.stop at hfits habove hstop
        omega
      refine ih hmanaged ?_ ?_ hnodup'
      · rw [hmoved.allocList]
        exact (List.mem_erase_of_ne hne).mpr hd
      · intro c' hc'
        rw [hmoved.allocList]
        have hne' : c' ≠ c := fun heq => hnotin (heq ▸ hc')
        exact (List.mem_erase_of_ne hne').mpr (hrest c' hc')
    · rw [memRelease_false hsucc]
      exact ih h hd hrest hnodup'

/-- **Destroying the manager** frees every chunk if and only if the end of the memory is
free. -/
theorem destroy_eq_nil_iff (hn : 0 < n)
    (hspace : n < 2 ^ 64) : destroyMemManager mm = some [] ↔ TopFree base n mm.freeList := by
  constructor
  · intro hdestroy
    by_contra htop
    -- the last address is in an allocated chunk, which stays
    have hfree : cover (ranges mm.freeList) (base + n - 1) = 0 := by
      rw [topFree_iff_cover h hn] at htop
      omega
    have hlast := h.tiles (base + n - 1)
    rw [if_pos ⟨by omega, by omega⟩, ranges_append, cover_append, hfree, Nat.add_zero] at hlast
    have hpos : 0 < cover (ranges mm.allocList) (base + n - 1) := by omega
    obtain ⟨r, hr, hhas⟩ := List.countP_pos_iff.mp hpos
    obtain ⟨d, hd, rfl⟩ := List.mem_map.mp hr
    have hhas : (range d).Has (base + n - 1) := by simpa using hhas
    have hstop : (range d).stop = base + n := by
      have hlt := hhas.2
      have hle := (managed_fits_alloc h hd).2
      omega
    have hstays : d ∈ (clearAllocList mm).allocList :=
      mem_clear_of_stop h hspace hd hstop (fun _ hc => hc) (managed_nodup h)
    unfold destroyMemManager at hdestroy
    dsimp only at hdestroy
    split at hdestroy
    · cases hdestroy
    · rw [Option.some.injEq, List.append_eq_nil_iff] at hdestroy
      rw [hdestroy.1] at hstays
      exact absurd hstays List.not_mem_nil
  · intro htop
    obtain ⟨hnil, hmanaged⟩ := clear_of_topFree h hn hspace htop (List.Perm.refl _)
    have hwhole := managed_eq_whole hmanaged hn
    change (clearAllocList mm).allocList = [] at hnil
    change ranges (clearAllocList mm).freeList = _ at hwhole
    unfold destroyMemManager
    dsimp only
    rw [hnil]
    generalize (clearAllocList mm).freeList = free at hwhole
    cases free with
    | nil => cases hwhole
    | cons c rest =>
      have hrest : rest = [] := List.map_eq_nil_iff.mp (List.cons.inj hwhole).2
      rw [hrest]
      rfl

end

/-- **All memory at once.** -/
theorem all_released (h : MemInv startAddress size [] s) (hout : s.outstanding = []) :
    s.mm.allocList = [] ∧ s.mm.freeList = [⟨startAddress, size⟩] ∧
      (memRequest true size s.mm).1 = .ok ⟨startAddress, size⟩ := by
  have halloc : s.mm.allocList = [] := by
    have hperm := h.handles
    rw [hout] at hperm
    exact hperm.eq_nil
  have hfree : s.mm.freeList = [⟨startAddress, size⟩] := by
    by_cases hzero : size = 0
    · exact h.nothing hzero
    have hmanaged := h.managed
    rw [halloc] at hmanaged
    have hpos : 0 < size.toNat :=
      Nat.pos_of_ne_zero fun h0 => hzero (BitVec.eq_of_toNat_eq h0)
    exact managed_free_eq hmanaged hpos
  refine ⟨halloc, hfree, ?_⟩
  unfold memRequest
  rw [hfree]
  simp [bestMatch, betterMatch]

/--
**The manager gives back what it gave out.**  In every run whose releases find a free chunk
above the one they release: all chunks whose handles were released are free, and once no handle
is outstanding all memory can be requested at once.  In each state a handle can be released
if and only if there is such a chunk, and destroying the manager frees every chunk if and
only if the end of the memory is free.

SOURCE: drivers/platform/tegra/nvadsp/mem_manager.c:94-154, 210-222, 284-301
-/
theorem memManager_gives_back {ops : List MemOp} (hspace : startAddress.toNat + size.toNat ≤ 2 ^ 64)
    (hsucc : AllSteps memStep HasSuccessor (newMemRun startAddress size) ops)
    (hrun : run memStep (newMemRun startAddress size) ops = some s) : GivesBack startAddress size s := by
  have h : MemInv startAddress size [] s := by
    refine run_invariant_of_allSteps (P := HasSuccessor) ?_ (.init startAddress size) hsucc hrun
    intro s op s' h hop hstep
    obtain ⟨lost, h', hlost⟩ := h.step hspace hstep
    rwa [hlost hop] at h'
  refine ⟨fun handle hout => ⟨?_, fun htrue => ?_⟩, fun hout => all_released h hout, ?_⟩
  · exact memRelease_iff h.managed size.isLt (h.mem_allocList hout)
  · have hmem := h.mem_allocList hout
    exact (memRelease_true h.managed size.isLt hmem ((memRelease_iff h.managed size.isLt hmem).mp htrue)).2.1
  · by_cases hzero : size = 0
    case neg =>
      have hpos : 0 < size.toNat :=
        Nat.pos_of_ne_zero fun h0 => hzero (BitVec.eq_of_toNat_eq h0)
      exact destroy_eq_nil_iff h.managed hpos size.isLt
    case pos =>
      have hfree := h.nothing hzero
      have halloc : s.mm.allocList = [] := by
        rw [List.eq_nil_iff_forall_not_mem]
        exact fun c hc => h.size_ne_zero hc hzero
      unfold destroyMemManager clearAllocList
      simp [hfree, halloc, range, Range.stop]

/-- Three requests that fill the memory but for its end, and releases in another order. -/
def releaseAll : List MemOp :=
  [.request true 0x100, .request true 0x80, .request true 0x200, .release ⟨0x1100, 0x80⟩,
    .release ⟨0x1000, 0x100⟩, .release ⟨0x1180, 0x200⟩]

theorem releaseAll_gives_back : ∃ s, run memStep (newMemRun 0x1000 0x400) releaseAll = some s ∧
    s.outstanding = [] ∧ (memRequest true 0x400 s.mm).1 = .ok ⟨0x1000, 0x400⟩ := by
  refine exists_of_map (fun s => s.outstanding) [] (by decide) fun s hrun hout => ?_
  have hsucc : AllSteps memStep HasSuccessor (newMemRun 0x1000 0x400) releaseAll := by
    decide
  exact ⟨hout, ((memManager_gives_back (by decide) hsucc hrun).all hout).2.2⟩

/-- When the memory is requested as a whole, its release fails and it stays allocated; then
no memory can be requested any more. -/
theorem whole_memory_not_released : (run memStep (newMemRun 0x1000 0x400) [.request true 0x400]).map (fun s =>
      (s.outstanding, (memRelease ⟨0x1000, 0x400⟩ s.mm).1)) = some ([⟨0x1000, 0x400⟩], false) ∧
    (run memStep (newMemRun 0x1000 0x400) [.request true 0x400, .release ⟨0x1000, 0x400⟩]).map (fun s =>
        (s.outstanding, s.mm.allocList, s.mm.freeList, destroyMemManager s.mm)) =
      some ([], [⟨0x1000, 0x400⟩], [], none) ∧
    (memRequest true 0x400 ⟨[⟨0x1000, 0x400⟩], []⟩).1 = .error (-eNOMEM) := by
  decide

end

end NvidiaOot.Analysis
