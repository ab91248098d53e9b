import NvidiaOot.Analysis.FreeList

/-!
# The IOVA manager keeps its region

Reservations and releases keep the region managed.  A block above all free ones is put at the
end of the list, so every release succeeds.
-/

namespace NvidiaOot.Analysis

open Library Program Model

section

variable {ctx ctx' : MngrCtx} {c : Chunk} {base size : ℕ} {kzalloc : Bool} {req : U64}
  {blockHandle : Option Chunk}

/-- **A reservation** takes a block of the size, or says why it cannot. -/
theorem reserve_spec (h : Managed base size ctx.reservedList ctx.freeList)
    (hspace : base + size ≤ 2 ^ 64) (kzalloc : Bool) (req : U64) (blockHandle : Option Chunk) :
    (∃ c ctx', iovaMngrBlockReserve kzalloc req blockHandle ctx = (.ok (ctx.reserved c), ctx') ∧
      c.size = req ∧ 0 < (range c).size ∧ ctx'.baseAddress = ctx.baseAddress ∧
      ctx'.reservedList = ctx.reservedList ++ [c] ∧ Taken c ctx.freeList ctx'.freeList) ∨
    (∃ e, iovaMngrBlockReserve kzalloc req blockHandle ctx = (.error e, ctx) ∧
      (blockHandle ≠ none ∨ req = 0 ∨ kzalloc = false ∨ ∀ c ∈ ctx.freeList, c.size < req)) := by
  unfold iovaMngrBlockReserve
  split
  case isTrue hrefused =>
    refine Or.inr ⟨_, rfl, ?_⟩
    exact hrefused.imp id Or.inl
  case isFalse hasked =>
    rw [not_or] at hasked
    have hpos : 0 < req.toNat :=
      Nat.pos_of_ne_zero fun hzero => hasked.2 (BitVec.eq_of_toNat_eq hzero)
    obtain ⟨hsome, hnone⟩ := bestMatch_spec req ctx.freeList
    split
    case h_1 hbest => exact Or.inr ⟨_, rfl, Or.inr (Or.inr (Or.inr (hnone hbest)))⟩
    case h_2 best hbest =>
      obtain ⟨hmem, hfit⟩ := hsome best hbest
      have hposBest : 0 < (range best).size := hpos.trans_le hfit
      have hsize := managed_size_pos h (List.mem_append_right _ hmem) hposBest
      have hend := (managed_fits h hsize best hmem).2
      split
      case isTrue heq =>
        exact Or.inl ⟨best, _, rfl, heq, hposBest, rfl, rfl, taken_whole hmem h.apart (h.free hsize)⟩
      case isFalse hne =>
        have hlt : req < best.size := by bv_omega
        split
        case isTrue hrecord =>
          exact Or.inr ⟨_, rfl, Or.inr (Or.inr (Or.inl (by simpa using hrecord)))⟩
        case isFalse =>
          exact Or.inl ⟨⟨best.address, req⟩, _, rfl, rfl, hpos, rfl, rfl,
            taken_part hmem hlt (hend.trans hspace) h.apart (h.free hsize)⟩

theorem managed_reserve (h : Managed base size ctx.reservedList ctx.freeList)
    (hpos : 0 < (range c).size) (hlist : ctx'.reservedList = ctx.reservedList ++ [c])
    (htaken : Taken c ctx.freeList ctx'.freeList) : Managed base size ctx'.reservedList ctx'.freeList := by
  rw [hlist]
  exact managed_perm (managed_take h hpos htaken) (List.perm_append_singleton c _).symm

end

section

variable {ctx : MngrCtx} {c : Chunk} {l : List Chunk} {base size : ℕ}

theorem insertLast_eq_attach (c : Chunk) (l : List Chunk) : insertLast c l = attach l.reverse c [] := by
  rcases List.eq_nil_or_concat l with rfl | ⟨init, last, rfl⟩
  · rfl
  · unfold insertLast attach
    simp

section

variable (h : Managed base size ctx.reservedList ctx.freeList)

include h

theorem insertLast_spec
    (hspace : size < 2 ^ 64) (hc : c ∈ ctx.reservedList) (hlast : ∀ d ∈ ctx.freeList, ¬ c.address < d.address) :
    PutBack c ctx.freeList (insertLast c ctx.freeList) := by
  have hsize := managed_size_pos h (List.mem_append_left _ hc) (h.allocated c hc)
  have hall : ctx.freeList.reverse.reverse ++ [] = ctx.freeList := by simp
  have hput : PutBack c (ctx.freeList.reverse.reverse ++ []) (attach ctx.freeList.reverse c []) := by
    refine attach_spec hspace (managed_fits_alloc h hc) ?_ ?_ ?_ ?_ ?_
    · intro d hd
      exact managed_fits h hsize d (List.mem_reverse.mp hd)
    · rw [hall]
      exact List.forall_mem_cons.mpr ⟨h.allocated c hc, h.free hsize⟩
    · rw [hall]
      exact h.apart
    · intro d hd
      have hmem := List.mem_reverse.mp hd
      exact (managed_clear h hc d hmem).2 (hlast d hmem)
    · exact fun b hb => absurd hb List.not_mem_nil
  rw [hall] at hput
  rw [insertLast_eq_attach]
  exact hput

/-- **A release** puts the block back in every case. -/
theorem release_spec (hspace : size < 2 ^ 64)
    (hc : c ∈ ctx.reservedList) : (iovaMngrBlockRelease (some c) ctx).2.reservedList = ctx.reservedList.erase c ∧
      Managed base size (iovaMngrBlockRelease (some c) ctx).2.reservedList
        (iovaMngrBlockRelease (some c) ctx).2.freeList := by
  refine ⟨rfl, ?_⟩
  unfold iovaMngrBlockRelease
  dsimp only
  cases hrun : insertFree c [] ctx.freeList with
  | some free' => exact (managed_putBack h hspace hc hrun).1
  | none => exact managed_put h hc (insertLast_spec h hspace hc (insertFree_eq_none_iff.mp hrun))

theorem deinit_eq_nil
    (hspace : size < 2 ^ 64) (hl : ctx.reservedList.Perm l) :
    (l.foldl (fun ctx block => (iovaMngrBlockRelease (some block) ctx).2) ctx).reservedList = [] := by
  induction l generalizing ctx with
  | nil => exact hl.eq_nil
  | cons c l ih =>
    obtain ⟨hlist, hmanaged⟩ := release_spec h hspace (hl.mem_iff.mpr List.mem_cons_self)
    refine ih hmanaged ?_
    have herase := hl.erase c
    rwa [List.erase_cons_head] at herase

end

end

section

variable {base size : U64} {ctx : MngrCtx} {s s' : IovaRun} {op : IovaOp}

/-- A manager and its clients: each reserved block is outstanding. -/
structure IovaInv (base size : U64) (s : IovaRun) : Prop where
  managed : Managed base.toNat size.toNat s.ctx.reservedList s.ctx.freeList
  handles : s.ctx.reservedList.Perm s.outstanding
  baseAddress : s.ctx.baseAddress = base

/-- **One call.** -/
theorem IovaInv.step (h : IovaInv base size s) (hspace : base.toNat + size.toNat ≤ 2 ^ 64)
    (hstep : iovaStep s op = some s') : IovaInv base size s' := by
  cases op with
  | reserve kzalloc req blockHandle =>
    dsimp only [iovaStep] at hstep
    rcases reserve_spec h.managed hspace kzalloc req blockHandle with
      ⟨c, ctx', hrun, -, hpos, hbase, hlist, htaken⟩ | ⟨e, hrun, -⟩
    · rw [hrun] at hstep
      cases hstep
      refine ⟨managed_reserve h.managed hpos hlist htaken, ?_, hbase.trans h.baseAddress⟩
      rw [hlist]
      exact (List.perm_append_singleton c _).trans (h.handles.cons c)
    · rw [hrun] at hstep
      cases hstep
      exact h
  | release block =>
    dsimp only [iovaStep] at hstep
    split at hstep
    case isFalse => cases hstep
    case isTrue hout =>
      cases hstep
      obtain ⟨hlist, hmanaged⟩ := release_spec h.managed size.isLt (h.handles.mem_iff.mpr hout)
      exact ⟨hmanaged, hlist ▸ h.handles.erase block, h.baseAddress⟩

theorem IovaInv.disjoint (h : IovaInv base size s) : s.ctx.reservedList.Pairwise DisjointBlocks := by
  refine List.pairwise_iff_forall_sublist.mpr fun {a b} hsub => ?_
  obtain ⟨rest, hperm⟩ := hsub.exists_perm_append
  have ha : a ∈ s.ctx.reservedList := hsub.subset (by simp)
  have hb : b ∈ s.ctx.reservedList := hsub.subset (by simp)
  have hall : (s.ctx.reservedList ++ s.ctx.freeList).Perm (a :: b :: (rest ++ s.ctx.freeList)) :=
    hperm.append_right _
  rcases Nat.le_total (range a).start (range b).start with hle | hle
  · exact Or.inl (h.managed.tiles.stop_le_start (hall.map range) hle (h.managed.allocated b hb))
  · exact Or.inr (h.managed.tiles.stop_le_start
      ((hall.trans (List.Perm.swap b a _)).map range) hle (h.managed.allocated a ha))

/-- **What the manager promises.** -/
theorem IovaInv.good (h : IovaInv base size s) (hspace : base.toNat + size.toNat ≤ 2 ^ 64)
    (hsize : 0 < size.toNat) : IovaGood base size s := by
  refine ⟨h.managed.tiles, h.managed.apart, h.disjoint, ?_, ?_, fun block hout => ⟨rfl, rfl⟩, ?_,
    deinit_eq_nil h.managed size.isLt (List.Perm.refl _)⟩
  · intro kzalloc req blockHandle r ctx' hok
    rcases reserve_spec h.managed hspace kzalloc req blockHandle with
      ⟨c, ctx1, hrun, hreq, hpos, -, hlist, htaken⟩ | ⟨e, hrun, -⟩
    · rw [hrun] at hok
      obtain ⟨hr, rfl⟩ := Prod.mk.inj hok
      cases hr
      have hmem : c ∈ ctx1.reservedList := by
        rw [hlist]
        simp
      have hfits := managed_fits_alloc (managed_reserve h.managed hpos hlist htaken) hmem
      have hbase : base.toNat ≤ c.address.toNat := hfits.1
      refine ⟨hmem, hreq, rfl, hbase, ?_⟩
      change (c.address - s.ctx.baseAddress).toNat = c.address.toNat - base.toNat
      rw [h.baseAddress, BitVec.toNat_sub_of_le hbase]
    · rw [hrun] at hok
      cases (Prod.mk.inj hok).1
  · intro kzalloc req blockHandle e ctx' hfail
    rcases reserve_spec h.managed hspace kzalloc req blockHandle with
      ⟨c, ctx1, hrun, -⟩ | ⟨e1, hrun, hwhy⟩
    · rw [hrun] at hfail
      cases (Prod.mk.inj hfail).1
    · rw [hrun] at hfail
      exact ⟨(Prod.mk.inj hfail).2.symm, hwhy⟩
  · intro hout
    have hnil : s.ctx.reservedList = [] := by
      have hperm := h.handles
      rw [hout] at hperm
      exact hperm.eq_nil
    have hmanaged := h.managed
    rw [hnil] at hmanaged
    exact ⟨hnil, managed_free_eq hmanaged hsize⟩

/--
**The manager keeps its region.**  After `iova_mngr_init` and any reservations and releases:
reserved and free blocks partition the region, the free list is sorted with gaps in between,
offsets are relative to the base, a reservation fails only for a stated reason, a release
always succeeds, and with all blocks released the region is one free block.

SOURCE: drivers/misc/nvscic2c-pcie/iova-mngr.c:73-243, 282-378
-/
theorem iovaMngr_keeps_region {ops : List IovaOp} (hspace : base.toNat + size.toNat ≤ 2 ^ 64)
    (hinit : iovaMngrInit base size = .ok ctx) (hrun : run iovaStep ⟨ctx, []⟩ ops = some s) :
    IovaGood base size s := by
  unfold iovaMngrInit at hinit
  split at hinit
  case isTrue => cases hinit
  case isFalse hregion =>
    cases hinit
    rw [not_or] at hregion
    have hsize : 0 < size.toNat :=
      Nat.pos_of_ne_zero fun hzero => hregion.2 (BitVec.eq_of_toNat_eq hzero)
    have h : IovaInv base size s :=
      run_invariant (I := IovaInv base size) (fun s op s' h hstep => h.step hspace hstep)
        ⟨managed_init base size, List.Perm.refl _, rfl⟩ hrun
    exact h.good hspace hsize

/-- Two reservations, released in the order of their addresses. -/
def twoBlocks : List IovaOp :=
  [.reserve true 0x100 none, .reserve true 0x300 none, .release ⟨0x1000, 0x100⟩, .release ⟨0x1100, 0x300⟩]

theorem twoBlocks_released : ∃ s, run iovaStep ⟨⟨[⟨0x1000, 0x400⟩], [], 0x1000⟩, []⟩ twoBlocks = some s ∧
    s.ctx.freeList = [⟨0x1000, 0x400⟩] := by
  refine exists_of_map (fun s => s.outstanding) [] (by decide) fun s hrun hout => ?_
  exact ((iovaMngr_keeps_region (by decide) rfl hrun).all hout).2

/-- A reservation of no bytes is refused, and one whose record cannot be allocated fails,
although there is a free block. -/
theorem reserve_refused_with_free_block :
    (iovaMngrBlockReserve true 0 none ⟨[⟨0x1000, 0x400⟩], [], 0x1000⟩).1.toOption = none ∧
    (iovaMngrBlockReserve false 0x100 none ⟨[⟨0x1000, 0x400⟩], [], 0x1000⟩).1.toOption = none ∧
    (0x100 : U64) ≤ (⟨0x1000, 0x400⟩ : Chunk).size := by
  decide

end

end NvidiaOot.Analysis
