import NvidiaOot.Analysis.NvmapPp

/-!
# The page pool over whole runs

The counters of the pool agree with its lists, no page is in two places, and there are no more
pages than there may be, provided that no resize makes the pool smaller than what stays in it
and what the background thread holds: `nvmap_page_pool_resize` does not count the latter.
What allocations return is cleared whatever happens.
-/

namespace NvidiaOot.Analysis

open Library Program Model Function

variable {pages : List ℕ} {pool' : NvmapPagePool} {taken : TakenPages}

section

variable {info : PageInfo} {s s' : PoolRun} {pages : List ℕ}

theorem poolStep_fill {shared : ℕ → Bool} (hstep : poolStep info s (.fill shared pages) = some s') :
    (pages.Nodup ∧ ∀ page ∈ pages, page ∉ s.places) ∧
      { s with
        pool := (nvmapPagePoolFillLots s.pool shared pages).2
        cleared := fun page =>
          !(page ∈ pages.take (nvmapPagePoolFillLots s.pool shared pages).1) && s.cleared page } =
        s' := by
  simp only [poolStep] at hstep
  split at hstep
  case isTrue hpages => exact ⟨hpages, Option.some.inj hstep⟩
  case isFalse => cases hstep

theorem poolStep_backgroundTake (hstep : poolStep info s .backgroundTake = some s') : s.background = .idle ∧
      { s with
        pool := (takePendingZeroPages info s.pool).2
        background := .taken (takePendingZeroPages info s.pool).1 } = s' := by
  simp only [poolStep] at hstep
  split at hstep
  case h_1 hidle => exact ⟨hidle, Option.some.inj hstep⟩
  case h_2 => cases hstep

theorem poolStep_backgroundZero (hstep : poolStep info s .backgroundZero = some s') :
    ∃ pages, s.background = .taken pages ∧
      { s.zeroPages pages with background := .zeroed pages } = s' := by
  simp only [poolStep] at hstep
  split at hstep
  case h_1 pages htaken => exact ⟨pages, htaken, Option.some.inj hstep⟩
  case h_2 => cases hstep

theorem poolStep_backgroundPut (hstep : poolStep info s .backgroundPut = some s') :
    ∃ pages, s.background = .zeroed pages ∧
      ∃ pool, putPendingZeroPages info s.enablePp s.pool pages = some pool ∧
        { s with pool := pool, background := .idle } = s' := by
  simp only [poolStep] at hstep
  split at hstep
  case h_1 pages hzeroed => exact ⟨pages, hzeroed, Option.map_eq_some_iff.mp hstep⟩
  case h_2 => cases hstep

theorem poolStep_write {page : ℕ} {data : PageData} (hstep : poolStep info s (.write page data) = some s') :
    page ∉ s.places ∧ { s with content := update s.content page data } = s' := by
  simp only [poolStep] at hstep
  split at hstep
  case isTrue hpage => exact ⟨hpage, Option.some.inj hstep⟩
  case isFalse => cases hstep

end

section

variable {info : PageInfo} {s s' : PoolRun} {taken kept : List ℕ}

theorem poolOk_newPool (max bigPgSz k : U32) (content : ℕ → PageData) : PoolOk (newPool max bigPgSz k content) :=
  ⟨⟨rfl, rfl, rfl, fun h => absurd h (Nat.lt_irrefl 0)⟩, rfl, List.nodup_nil, Nat.zero_le _⟩

theorem poolOk_of_takes (h : PoolOk s) (ht : Takes s.pool taken s'.pool)
    (hbackground : s'.background = s.background) (hallocs : s'.allocs.flatMap TakenPages.pages =
      s.allocs.flatMap TakenPages.pages ++ kept) (hkept : kept.Sublist taken) : PoolOk s' := by
  have htally := ht.tally h.tally
  refine ⟨htally, ?_, ?_, ?_⟩
  · rw [ht.underZero, hbackground]
    exact h.underZero
  · have hbefore : s.places.Perm
        (taken ++ (poolPages s'.pool ++
          (s.background.pages ++ s.allocs.flatMap TakenPages.pages))) := by
      rw [← List.append_assoc]
      exact ht.pages.append_right _
    have hafter : s'.places.Perm
        (kept ++ (poolPages s'.pool ++
          (s.background.pages ++ s.allocs.flatMap TakenPages.pages))) := by
      unfold PoolRun.places
      rw [hbackground, hallocs, ← List.append_assoc s.background.pages, ← List.append_assoc]
      exact List.perm_append_comm
    exact hafter.nodup_iff.mpr ((hbefore.nodup_iff.mp h.places).sublist (hkept.append_right _))
  · have hbefore := length_poolPages h.tally
    have hafter := length_poolPages htally
    have hlength := ht.pages.length_eq
    rw [List.length_append] at hlength
    have hroom := h.room
    rw [ht.underZero, ht.max]
    omega

theorem poolOk_setMax (h : PoolOk s) {size : U32}
    (hroom : s.pool.count.toNat + s.pool.toZero.toNat + s.pool.underZero.toNat ≤ size.toNat) :
    PoolOk { s with pool := { s.pool with max := size } } :=
  ⟨⟨h.tally.count, h.tally.bigPageCount, h.tally.toZero, h.tally.big⟩, h.underZero, h.places, hroom⟩

theorem leftAfter_zero {pool : NvmapPagePool} (h : Tally pool) :
    leftAfter pool 0 = pool.count.toNat + pool.toZero.toNat := by
  have hcount := h.count
  have htoZero := h.toZero
  unfold leftAfter
  rw [Nat.zero_sub, Nat.zero_sub, ceil_zero, Nat.sub_zero, Nat.sub_zero, Nat.sub_zero]
  omega

/-- **A resize** frees pages, and there are as many left as `leftAfter` says. -/
theorem resize_takes (info : PageInfo) (h : PoolOk s) (size : U32) : ∃ freed pool', Takes s.pool freed pool' ∧
      nvmapPagePoolResize info s.pool size = { pool' with max := size } ∧
      pool'.count.toNat + pool'.toZero.toNat =
        leftAfter s.pool (s.pool.count.toNat + s.pool.toZero.toNat - size.toNat) := by
  have hcurr : nvmapPagePoolGetUnusedPages s.pool = s.pool.count.toNat + s.pool.toZero.toNat := by
    have hroom := h.room
    unfold nvmapPagePoolGetUnusedPages
    bv_omega
  unfold nvmapPagePoolResize
  rw [hcurr]
  dsimp only
  split
  case isTrue =>
    obtain ⟨freed, hfreed⟩ := freePagesLocked_takes info s.pool
      (s.pool.count.toNat + s.pool.toZero.toNat - size.toNat)
    have hleft := freePagesLocked_left info h.tally
      (s.pool.count.toNat + s.pool.toZero.toNat - size.toNat)
    rw [length_poolPages (hfreed.tally h.tally)] at hleft
    exact ⟨freed, _, hfreed, rfl, hleft⟩
  case isFalse hle =>
    refine ⟨[], s.pool, .refl s.pool, rfl, ?_⟩
    rw [Nat.sub_eq_zero_of_le (by omega), leftAfter_zero h.tally]

section

variable (h : PoolOk s)

include h

/-- **A resize keeps the accounts exactly when the new size fits.** -/
theorem resize_ok_iff (size : U32) : PoolOk { s with pool := nvmapPagePoolResize info s.pool size } ↔
      ResizeFits s (.resize size) := by
  obtain ⟨freed, pool', htakes, heq, hleft⟩ := resize_takes info h size
  rw [heq]
  constructor
  · intro hok
    have hroom := hok.room
    have hunder := htakes.underZero
    change _ + s.pool.underZero.toNat ≤ _
    rw [← hleft, ← hunder]
    exact hroom
  · intro hfits
    have hmid : PoolOk { s with pool := pool' } :=
      poolOk_of_takes h htakes rfl (List.append_nil _).symm (List.nil_sublist _)
    refine poolOk_setMax hmid ?_
    rw [hleft, htakes.underZero]
    exact hfits

theorem fill_ok (shared : ℕ → Bool) (hnodup : pages.Nodup)
    (hfresh : ∀ page ∈ pages, page ∉ s.places) (cleared : ℕ → Bool) : PoolOk { s with
      pool := (nvmapPagePoolFillLots s.pool shared pages).2, cleared := cleared } := by
  have hroom := h.room
  have hret : min pages.length
      (s.pool.max - s.pool.count - s.pool.toZero - s.pool.underZero).toNat ≤
      s.pool.max.toNat - s.pool.count.toNat - s.pool.toZero.toNat - s.pool.underZero.toNat := by
    bv_omega
  unfold nvmapPagePoolFillLots
  dsimp only
  generalize min pages.length
    (s.pool.max - s.pool.count - s.pool.toZero - s.pool.underZero).toNat = ret at hret
  rw [fillZeroLoop_eq]
  have hsublist : ((pages.take ret).filter fun page => !shared page).Sublist pages :=
    List.filter_sublist.trans (List.take_sublist _ _)
  have hcount : ((pages.take ret).filter fun page => !shared page).length ≤ ret :=
    (List.length_filter_le _ _).trans (List.length_take_le _ _)
  generalize (pages.take ret).filter (fun page => !shared page) = new at hsublist hcount ⊢
  have htoZero := h.tally.toZero
  have hsum : (s.pool.toZero + BitVec.ofNat 32 new.length).toNat =
      s.pool.toZero.toNat + new.length := by
    bv_omega
  refine ⟨⟨h.tally.count, h.tally.bigPageCount, ?_, h.tally.big⟩, h.underZero, ?_, ?_⟩
  · rw [hsum, List.length_append, htoZero]
  · have hperm : (PoolRun.places
        { s with
          pool := { s.pool with
            zeroList := s.pool.zeroList ++ new
            toZero := s.pool.toZero + BitVec.ofNat 32 new.length }
          cleared := cleared }).Perm (new ++ s.places) := by
      unfold PoolRun.places poolPages cleanPages
      rw [List.append_assoc, List.append_assoc, List.append_assoc s.pool.zeroList]
      exact List.perm_append_comm_assoc _ _ _
    rw [hperm.nodup_iff]
    exact List.nodup_append'.mpr ⟨hnodup.sublist hsublist, h.places,
      fun page hpage => hfresh page (hsublist.subset hpage)⟩
  · dsimp only
    omega

theorem backgroundTake_ok (hidle : s.background = .idle) : PoolOk { s with
      pool := (takePendingZeroPages info s.pool).2
      background := .taken (takePendingZeroPages info s.pool).1 } := by
  obtain ⟨taken, hpages, htakes, hunder⟩ :=
    takeZeroLoop_takes info (pendingPagesSize info) s.pool []
  unfold takePendingZeroPages
  generalize takeZeroLoop info (pendingPagesSize info) s.pool [] = r at *
  obtain ⟨pages, pool'⟩ := r
  obtain rfl : pages = taken := hpages
  have htally := htakes.tally h.tally
  have hlength := htakes.pages.length_eq
  rw [List.length_append, length_poolPages h.tally, length_poolPages htally] at hlength
  have hroom := h.room
  have hzero : s.pool.underZero.toNat = 0 := by
    rw [h.underZero, hidle]
    rfl
  have hsum : pool'.underZero.toNat = pages.length := by
    bv_omega
  refine ⟨⟨htally.count, htally.bigPageCount, htally.toZero, htally.big⟩, hsum, ?_, ?_⟩
  · have hbefore := h.places
    unfold PoolRun.places at hbefore
    rw [hidle] at hbefore
    refine ((htakes.pages.append_right _).trans ?_).nodup_iff.mp hbefore
    rw [List.append_assoc]
    exact List.perm_append_comm_assoc _ _ _
  · have hmax := htakes.max
    dsimp only at hlength hmax ⊢
    rw [hsum, hmax]
    omega

theorem backgroundPut_ok (hzeroed : s.background = .zeroed pages)
    (hput : putPendingZeroPages info s.enablePp s.pool pages = some pool') :
    PoolOk { s with pool := pool', background := .idle } := by
  have hroom := h.room
  have hunder := h.underZero
  rw [hzeroed] at hunder
  change s.pool.underZero.toNat = pages.length at hunder
  obtain ⟨n, pool1, hfill, hn, htally, hcount, -, hputs⟩ :=
    fillLotsLocked_puts info s.enablePp h.tally (by omega) pages
  unfold putPendingZeroPages at hput
  rw [hfill] at hput
  cases hput
  have hzero : (pool1.underZero - BitVec.ofNat 32 pages.length).toNat = 0 := by
    rw [hputs.underZero]
    bv_omega
  refine ⟨⟨htally.count, htally.bigPageCount, htally.toZero, htally.big⟩, hzero, ?_, ?_⟩
  · have hbefore := h.places
    unfold PoolRun.places poolPages at hbefore
    rw [hzeroed] at hbefore
    have hsublist : (pages.take n).Sublist pages := List.take_sublist _ _
    -- the pages are those before, where only the first `n` of the thread's are left
    have hperm : (s.pool.zeroList ++ cleanPages pool1 ++ s.allocs.flatMap TakenPages.pages).Perm
        (s.pool.zeroList ++ cleanPages s.pool ++
          (pages.take n ++ s.allocs.flatMap TakenPages.pages)) := by
      rw [List.append_assoc, List.append_assoc, ← List.append_assoc (cleanPages s.pool)]
      exact (hputs.clean.append_right _).append_left _
    change (pool1.zeroList ++ cleanPages pool1 ++ ([] ++ _)).Nodup
    rw [hputs.zeroList, List.nil_append]
    exact hperm.nodup_iff.mpr
      (hbefore.sublist ((hsublist.append_right _).append_left _))
  · have htoZero := congrArg BitVec.toNat hputs.toZero
    have hmax := congrArg BitVec.toNat hputs.max
    dsimp only
    omega

/-- **What a step keeps.** -/
theorem poolStep_ok {op : PoolOp} (hfits : ResizeFits s op)
    (hstep : poolStep info s op = some s') : PoolOk s' := by
  cases op with
  | fill shared pages =>
    obtain ⟨⟨hnodup, hfresh⟩, rfl⟩ := poolStep_fill hstep
    exact fill_ok h shared hnodup hfresh _
  | backgroundTake =>
    obtain ⟨hidle, rfl⟩ := poolStep_backgroundTake hstep
    exact backgroundTake_ok h hidle
  | backgroundZero =>
    obtain ⟨pages, htaken, rfl⟩ := poolStep_backgroundZero hstep
    have hpages : s.background.pages = pages := congrArg Background.pages htaken
    refine ⟨h.tally, ?_, ?_, h.room⟩
    · rw [← hpages]
      exact h.underZero
    · have hbefore := h.places
      unfold PoolRun.places at hbefore
      rw [hpages] at hbefore
      exact hbefore
  | backgroundPut =>
    obtain ⟨pages, hzeroed, pool', hput, rfl⟩ := poolStep_backgroundPut hstep
    exact backgroundPut_ok h hzeroed hput
  | alloc nr args =>
    cases hstep
    obtain ⟨htakes, -⟩ := allocLots_takes info s.enablePp s.pool args nr
    refine poolOk_of_takes h htakes rfl ?_ (List.Sublist.refl _)
    rw [List.flatMap_append, List.flatMap_singleton]
  | allocBp nr args =>
    cases hstep
    obtain ⟨htakes, -⟩ := allocLotsBp_takes info s.enablePp s.pool args nr
    refine poolOk_of_takes h htakes rfl ?_ (List.Sublist.refl _)
    rw [List.flatMap_append, List.flatMap_singleton]
  | allocReturn i =>
    obtain ⟨taken, -, rfl⟩ := Option.map_eq_some_iff.mp hstep
    refine ⟨h.tally, h.underZero, h.places.sublist ?_, h.room⟩
    exact (((List.eraseIdx_sublist s.allocs i).flatMap _).append_left _).append_left _
  | shrink nrToScan =>
    cases hstep
    obtain ⟨freed, hfreed⟩ := freePagesLocked_takes info s.pool nrToScan
    exact poolOk_of_takes h hfreed rfl (List.append_nil _).symm (List.nil_sublist _)
  | clear =>
    cases hstep
    obtain ⟨freed, hfreed⟩ := freePagesLocked_takes info s.pool _
    exact poolOk_of_takes h hfreed rfl (List.append_nil _).symm (List.nil_sublist _)
  | resize size =>
    cases hstep
    exact (resize_ok_iff h size).mpr hfits
  | enable enablePp =>
    cases hstep
    exact ⟨h.tally, h.underZero, h.places, h.room⟩
  | write page data =>
    obtain ⟨-, rfl⟩ := poolStep_write hstep
    exact ⟨h.tally, h.underZero, h.places, h.room⟩

end

/--
**The accounts of the pool.**  In a run in which every resize leaves room for the pages being
cleared, the counters say what is in the lists, no page is in two places, and the room for
more pages is what `nvmap_page_pool_fill_lots` computes.  A resize keeps this exactly when
there is such room.
-/
theorem pool_accounts {max bigPgSz k : U32} {content : ℕ → PageData} {ops : List PoolOp}
    (hfits : AllSteps (poolStep info) ResizeFits (newPool max bigPgSz k content) ops)
    (hrun : run (poolStep info) (newPool max bigPgSz k content) ops = some s) : PoolOk s ∧
      (s.pool.max - s.pool.count - s.pool.toZero - s.pool.underZero).toNat =
        s.pool.max.toNat - (s.pool.count.toNat + s.pool.toZero.toNat + s.pool.underZero.toNat) ∧
      ∀ size, PoolOk { s with pool := nvmapPagePoolResize info s.pool size } ↔
        ResizeFits s (.resize size) := by
  have h : PoolOk s := run_invariant_of_allSteps
    (fun _ _ _ hs hop hstep => poolStep_ok hs hop hstep)
    (poolOk_newPool max bigPgSz k content) hfits hrun
  have hroom := h.room
  exact ⟨h, by bv_omega, resize_ok_iff h⟩

def samplePages : PageInfo := ⟨4096, fun _ => 0⟩

/-- Three pages are given, cleared and put back, one of them is used, and the pool made smaller. -/
theorem pool_resized : ∃ s, run (poolStep samplePages) (newPool 4 0 1 fun _ => zeroPage)
    [.fill (fun _ => false) [1, 2, 3], .backgroundTake, .backgroundZero, .backgroundPut,
      .alloc 1 anyNode, .resize 1] = some s ∧ PoolOk s ∧ s.pool.pageList = [3] := by
  refine exists_of_map (fun s => s.pool.pageList) [3] (by decide) fun s hs hlist => ?_
  exact ⟨(pool_accounts (by decide) hs).1, hlist⟩

/-- The pool is made smaller while three pages are being cleared, and then takes five. -/
theorem pool_overfilled : ((run (poolStep samplePages) (newPool 4 0 1 fun _ => zeroPage)
      [.fill (fun _ => false) [1, 2, 3], .backgroundTake, .resize 1]).map fun s =>
        s.pool.max - s.pool.count - s.pool.toZero - s.pool.underZero) = some 0xFFFFFFFE ∧
    ((run (poolStep samplePages) (newPool 4 0 1 fun _ => zeroPage)
      [.fill (fun _ => false) [1, 2, 3], .backgroundTake, .resize 1,
        .fill (fun _ => false) [4, 5, 6, 7, 8]]).map fun s =>
          (s.pool.max, s.pool.toZero, s.pool.underZero)) = some (1, 5, 3) := by
  refine ⟨by decide, by decide⟩

end

section

variable {info : PageInfo} {s s' : PoolRun} {page : ℕ}

theorem poolClean_newPool (max bigPgSz k : U32) (content : ℕ → PageData) :
    PoolClean (newPool max bigPgSz k content) :=
  ⟨fun _ h => absurd h List.not_mem_nil, nofun,
    fun _ h => absurd h List.not_mem_nil, fun _ h => absurd h List.not_mem_nil⟩

theorem isClean_zeroPages (h : IsClean s page) (pages : List ℕ) : IsClean (s.zeroPages pages) page := by
  refine ⟨?_, ?_⟩
  · change (page ∈ pages || s.cleared page) = true
    rw [h.1, Bool.or_true]
  · change (if page ∈ pages then zeroPage else s.content page) = zeroPage
    rw [h.2, ite_self]

theorem isClean_of_mem_zeroPages (h : page ∈ pages) : IsClean (s.zeroPages pages) page := by
  refine ⟨?_, if_pos h⟩
  change (page ∈ pages || s.cleared page) = true
  rw [decide_eq_true h, Bool.true_or]

theorem mem_places_of_clean (h : page ∈ cleanPages s.pool) : page ∈ s.places :=
  List.mem_append_left _ (List.mem_append_right _ h)

theorem mem_places_of_zeroed (hzeroed : s.background = .zeroed pages) (h : page ∈ pages) : page ∈ s.places := by
  refine List.mem_append_right _ (List.mem_append_left _ ?_)
  rw [hzeroed]
  exact h

theorem mem_places_of_alloc (htaken : taken ∈ s.allocs) (h : page ∈ taken.pages) : page ∈ s.places :=
  List.mem_append_right _ (List.mem_append_right _ (List.mem_flatMap.mpr ⟨taken, htaken, h⟩))

section

variable (h : PoolClean s)

include h

/-- Pages that were in the pool or with the background thread or an allocation stay clean, and
no others have become clean ones. -/
theorem poolClean_of_kept (hkept : ∀ page ∈ s.places, IsClean s page → IsClean s' page)
    (hlists : cleanPages s'.pool ⊆ cleanPages s.pool)
    (hbackground : ∀ pages, s'.background = .zeroed pages → s.background = .zeroed pages)
    (hallocs : s'.allocs ⊆ s.allocs) (hhandedOut : s'.handedOut = s.handedOut) : PoolClean s' := by
  refine ⟨fun page hpage => ?_, fun pages hpages page hpage => ?_,
    fun taken htaken page hpage hnot => ?_, hhandedOut ▸ h.handedOut⟩
  · exact hkept page (mem_places_of_clean (hlists hpage)) (h.lists page (hlists hpage))
  · have hzeroed := hbackground pages hpages
    exact hkept page (mem_places_of_zeroed hzeroed hpage) (h.background pages hzeroed page hpage)
  · have hmem := hallocs htaken
    exact hkept page (mem_places_of_alloc hmem hpage) (h.allocs taken hmem page hpage hnot)

theorem poolClean_of_takes {taken : List ℕ}
    (htakes : Takes s.pool taken pool') : PoolClean { s with pool := pool' } :=
  poolClean_of_kept h (fun _ _ hclean => hclean) htakes.clean (fun _ hzeroed => hzeroed)
    (List.Subset.refl _) rfl

theorem poolClean_alloc (htakes : Takes s.pool taken.pages pool')
    (hclean : ∀ page ∈ taken.pages, page ∉ nonZeroPages taken → page ∈ cleanPages s.pool) :
    PoolClean { s with pool := pool', allocs := s.allocs ++ [taken] } := by
  have htaken := poolClean_of_takes h htakes
  refine ⟨htaken.lists, htaken.background, fun taken' hmem page hpage hnot => ?_, htaken.handedOut⟩
  rcases List.mem_append.mp hmem with hold | hnew
  · exact h.allocs taken' hold page hpage hnot
  · obtain rfl := List.mem_singleton.mp hnew
    exact h.lists page (hclean page hpage hnot)

theorem poolClean_backgroundPut (hzeroed : s.background = .zeroed pages)
    (hput : putPendingZeroPages info s.enablePp s.pool pages = some pool') :
    PoolClean { s with pool := pool', background := .idle } := by
  obtain ⟨⟨n, pool1⟩, hfill, rfl⟩ := Option.map_eq_some_iff.mp hput
  have hmem : ∀ page ∈ cleanPages pool1, page ∈ cleanPages s.pool ++ pages := by
    unfold nvmapPagePoolFillLotsLocked at hfill
    split at hfill
    case isTrue =>
      obtain ⟨-, rfl⟩ := Prod.mk.inj (Option.some.inj hfill)
      exact fun page hpage => List.mem_append_left _ hpage
    case isFalse =>
      split at hfill
      case isTrue => cases hfill
      case isFalse =>
        dsimp only at hfill
        obtain ⟨-, hputs, -⟩ := fillLoop_puts info
          (min (s.pool.max - s.pool.count).toNat pages.length) s.pool pages
          (min (s.pool.max - s.pool.count).toNat pages.length) 0 le_rfl (Nat.min_le_right _ _)
        split at hfill
        case isTrue => cases hfill
        case isFalse =>
          obtain ⟨-, rfl⟩ := Prod.mk.inj (Option.some.inj hfill)
          intro page hpage
          have hpage' := hputs.clean.mem_iff.mp hpage
          rcases List.mem_append.mp hpage' with hold | hnew
          · exact List.mem_append_left _ hold
          · exact List.mem_append_right _ (List.mem_of_mem_take hnew)
  refine ⟨fun page hpage => ?_, nofun, h.allocs, h.handedOut⟩
  rcases List.mem_append.mp (hmem page hpage) with hold | hnew
  · exact h.lists page hold
  · exact h.background pages hzeroed page hnew

theorem poolClean_allocReturn (i : ℕ) (htaken : s.allocs[i]? = some taken) :
    PoolClean { s.zeroPages (nonZeroPages taken) with
      allocs := s.allocs.eraseIdx i
      handedOut := s.handedOut ++ taken.pages.map fun page =>
        ⟨page, (s.zeroPages (nonZeroPages taken)).cleared page,
          (s.zeroPages (nonZeroPages taken)).content page⟩ } := by
  have hkept : PoolClean { s.zeroPages (nonZeroPages taken) with allocs := s.allocs.eraseIdx i } :=
    poolClean_of_kept h (fun _ _ hclean => isClean_zeroPages hclean _) (List.Subset.refl _)
      (fun _ hzeroed => hzeroed) (List.eraseIdx_sublist s.allocs i).subset rfl
  refine ⟨hkept.lists, hkept.background, hkept.allocs, fun out hout => ?_⟩
  rcases List.mem_append.mp hout with hold | hnew
  · exact h.handedOut out hold
  obtain ⟨page, hpage, rfl⟩ := List.mem_map.mp hnew
  by_cases hdirty : page ∈ nonZeroPages taken
  · exact isClean_of_mem_zeroPages hdirty
  · exact isClean_zeroPages (h.allocs taken (List.mem_of_getElem? htaken) page hpage hdirty) _

/-- **A step makes nothing dirty that is not cleared.** -/
theorem poolStep_clean {op : PoolOp} (hstep : poolStep info s op = some s') : PoolClean s' := by
  cases op with
  | fill shared pages =>
    obtain ⟨⟨-, hfresh⟩, rfl⟩ := poolStep_fill hstep
    refine poolClean_of_kept h (fun page hpage hclean => ⟨?_, hclean.2⟩) ?_
      (fun _ hzeroed => hzeroed) (List.Subset.refl _) rfl
    · have hnew : page ∉ pages.take (nvmapPagePoolFillLots s.pool shared pages).1 :=
        fun hmem => hfresh page (List.mem_of_mem_take hmem) hpage
      dsimp only
      rw [decide_eq_false hnew, hclean.1]
      rfl
    · unfold nvmapPagePoolFillLots
      dsimp only
      rw [fillZeroLoop_eq]
      exact List.Subset.refl _
  | backgroundTake =>
    obtain ⟨hidle, rfl⟩ := poolStep_backgroundTake hstep
    obtain ⟨taken, -, htakes, -⟩ := takeZeroLoop_takes info (pendingPagesSize info) s.pool []
    exact poolClean_of_kept h (fun _ _ hclean => hclean) htakes.clean
      (nofun) (List.Subset.refl _) rfl
  | backgroundZero =>
    obtain ⟨pages, htaken, rfl⟩ := poolStep_backgroundZero hstep
    have hkept : PoolClean { s.zeroPages pages with background := .idle } :=
      poolClean_of_kept h (fun _ _ hclean => isClean_zeroPages hclean pages)
        (List.Subset.refl _) (nofun) (List.Subset.refl _) rfl
    refine ⟨hkept.lists, fun pages' hpages' page hpage => ?_, hkept.allocs, hkept.handedOut⟩
    obtain rfl : pages = pages' := Background.zeroed.inj hpages'
    exact isClean_of_mem_zeroPages hpage
  | backgroundPut =>
    obtain ⟨pages, hzeroed, pool', hput, rfl⟩ := poolStep_backgroundPut hstep
    exact poolClean_backgroundPut h hzeroed hput
  | alloc nr args =>
    cases hstep
    obtain ⟨htakes, clean, hpages, hclean, -⟩ := allocLots_takes info s.enablePp s.pool args nr
    refine poolClean_alloc h htakes fun page hpage hnot => ?_
    rw [hpages] at hpage
    exact List.mem_append_left _ (hclean ((List.mem_append.mp hpage).resolve_right hnot))
  | allocBp nr args =>
    cases hstep
    obtain ⟨htakes, hclean⟩ := allocLotsBp_takes info s.enablePp s.pool args nr
    exact poolClean_alloc h htakes fun page hpage _ => hclean hpage
  | allocReturn i =>
    obtain ⟨taken, htaken, rfl⟩ := Option.map_eq_some_iff.mp hstep
    exact poolClean_allocReturn h i htaken
  | shrink nrToScan =>
    cases hstep
    obtain ⟨freed, hfreed⟩ := freePagesLocked_takes info s.pool nrToScan
    exact poolClean_of_takes h hfreed
  | clear =>
    cases hstep
    obtain ⟨freed, hfreed⟩ :=
      freePagesLocked_takes info s.pool (s.pool.count + s.pool.toZero).toNat
    exact poolClean_of_takes h hfreed
  | resize size =>
    cases hstep
    refine poolClean_of_kept h (fun _ _ hclean => hclean) ?_ (fun _ hzeroed => hzeroed)
      (List.Subset.refl _) rfl
    unfold nvmapPagePoolResize
    dsimp only
    split
    case isTrue =>
      obtain ⟨freed, hfreed⟩ := freePagesLocked_takes info s.pool
        (nvmapPagePoolGetUnusedPages s.pool - size.toNat)
      exact hfreed.clean
    case isFalse => exact List.Subset.refl _
  | enable enablePp =>
    cases hstep
    exact poolClean_of_kept h (fun _ _ hclean => hclean) (List.Subset.refl _)
      (fun _ hzeroed => hzeroed) (List.Subset.refl _) rfl
  | write page data =>
    obtain ⟨hpage, rfl⟩ := poolStep_write hstep
    refine poolClean_of_kept h (fun page' hpage' hclean => ⟨hclean.1, ?_⟩)
      (List.Subset.refl _) (fun _ hzeroed => hzeroed) (List.Subset.refl _) rfl
    have hne : page' ≠ page := fun heq => hpage (heq ▸ hpage')
    exact (update_of_ne hne _ _).trans hclean.2

end

/--
**No dirty page is handed out.**  After every run the pages on `page_list` and `page_list_bp`
are cleared, and so is every page that an allocation has returned; what an allocation takes is
first from `page_list` and then from `zero_list`, and the latter is the range that it clears.
-/
theorem handed_out_clean {max bigPgSz k : U32} {content : ℕ → PageData} {ops : List PoolOp}
    (hrun : run (poolStep info) (newPool max bigPgSz k content) ops = some s) : PoolClean s ∧ ∀ args nr,
      let taken := (nvmapPagePoolAllocLots info s.enablePp s.pool args nr).1
      ∃ clean, taken.pages = clean ++ nonZeroPages taken ∧ clean ⊆ s.pool.pageList ∧
        nonZeroPages taken ⊆ s.pool.zeroList ∧
        (nonZeroPages taken).length = taken.nonZeroCnt ∧
        (nonZeroPages taken ≠ [] → taken.nonZeroIdx = clean.length) := by
  refine ⟨run_invariant (fun _ _ _ hs hstep => poolStep_clean hs hstep)
    (poolClean_newPool max bigPgSz k content) hrun, fun args nr => ?_⟩
  exact (allocLots_takes info s.enablePp s.pool args nr).2

/-- An allocation takes a page that is cleared and two that are not. -/
theorem mixed_alloc_clean : ∃ s, run (poolStep samplePages) (newPool 8 0 1 fun _ _ => 1)
    [.fill (fun _ => false) [1], .backgroundTake, .backgroundZero, .backgroundPut,
      .fill (fun _ => false) [2, 3], .alloc 4 anyNode, .allocReturn 0] = some s ∧ PoolClean s ∧
      s.handedOut.map HandedOut.page = [1, 2, 3] := by
  refine exists_of_map (fun s => s.handedOut.map HandedOut.page) [1, 2, 3] (by decide) fun s hs hpages => ?_
  exact ⟨(handed_out_clean hs).1, hpages⟩

end

end NvidiaOot.Analysis
