import NvidiaOot.Model.NvmapPp
import Mathlib.Algebra.BigOperators.Group.List.Basic
import Mathlib.Data.List.Flatten
import Mathlib.Algebra.Group.Action.Defs

/-!
# The lists of the page pool

`Takes pool taken pool'` says that the pages `taken` have gone out of the pool: what every
critical section of the pool does except for those that put pages in.
-/

namespace NvidiaOot.Analysis

open Library Program Model

section

variable {info : PageInfo} {args : NumaArgs} {pool pool' pool'' : NvmapPagePool} {page : ℕ}
  {taken taken' : List ℕ}

structure Takes (pool : NvmapPagePool) (taken : List ℕ) (pool' : NvmapPagePool) : Prop where
  tally : Tally pool → Tally pool'
  pages : (poolPages pool).Perm (taken ++ poolPages pool')
  clean : cleanPages pool' ⊆ cleanPages pool
  zero : pool'.zeroList ⊆ pool.zeroList
  pagesPerBigPg : pool'.pagesPerBigPg = pool.pagesPerBigPg
  max : pool'.max = pool.max
  underZero : pool'.underZero = pool.underZero

theorem Takes.refl (pool : NvmapPagePool) : Takes pool [] pool :=
  ⟨id, List.Perm.refl _, List.Subset.refl _, List.Subset.refl _, rfl, rfl, rfl⟩

theorem Takes.trans (h : Takes pool taken pool') (h' : Takes pool' taken' pool'') :
    Takes pool (taken ++ taken') pool'' := by
  refine ⟨h'.tally ∘ h.tally, ?_, List.Subset.trans h'.clean h.clean,
    List.Subset.trans h'.zero h.zero, h'.pagesPerBigPg.trans h.pagesPerBigPg,
    h'.max.trans h.max, h'.underZero.trans h.underZero⟩
  rw [List.append_assoc]
  exact h.pages.trans (h'.pages.append_left taken)

theorem length_poolPages (h : Tally pool) :
    (poolPages pool).length = pool.count.toNat + pool.toZero.toNat := by
  have hbig : (pool.pageListBp.flatMap (bigPage pool.pagesPerBigPg.toNat)).length =
      pool.pagesPerBigPg.toNat * pool.pageListBp.length := by
    have hlength (page : ℕ) : (bigPage pool.pagesPerBigPg.toNat page).length =
        pool.pagesPerBigPg.toNat := List.length_range'
    rw [List.length_flatMap, List.map_congr_left fun page _ => hlength page, List.map_const',
      List.sum_replicate, smul_eq_mul, Nat.mul_comm]
  unfold poolPages cleanPages
  rw [List.length_append, List.length_append, hbig, h.count, h.toZero]
  omega

/-- **A page from the zero list.** -/
theorem getZeroListPage_takes (h : getZeroListPage info pool args = some (page, pool')) :
    Takes pool [page] pool' ∧ page ∈ pool.zeroList ∧
      pool'.zeroList.length + 1 = pool.zeroList.length ∧ pool'.pageList = pool.pageList ∧
      pool'.pageListBp = pool.pageListBp := by
  obtain ⟨⟨page', rest⟩, hextract, heq⟩ := Option.map_eq_some_iff.mp h
  cases heq
  have hperm := extract_perm hextract
  have hlength := length_of_extract hextract
  refine ⟨⟨fun ht => ⟨ht.count, ht.bigPageCount, ?_, ht.big⟩, ?_, List.Subset.refl _, ?_, rfl, rfl, rfl⟩,
    hperm.mem_iff.mp List.mem_cons_self, hlength, rfl, rfl⟩
  · have htoZero := ht.toZero
    bv_omega
  · exact (hperm.symm.append_right _)
  · exact fun q hq => hperm.mem_iff.mp (List.mem_cons_of_mem _ hq)

/-- **A page from the page list.** -/
theorem getPageListPage_takes (h : getPageListPage info pool args = some (page, pool')) :
    Takes pool [page] pool' ∧ page ∈ pool.pageList ∧
      pool'.pageList.length + 1 = pool.pageList.length ∧ pool'.zeroList = pool.zeroList ∧
      pool'.pageListBp = pool.pageListBp := by
  obtain ⟨⟨page', rest⟩, hextract, heq⟩ := Option.map_eq_some_iff.mp h
  cases heq
  have hperm := extract_perm hextract
  have hlength := length_of_extract hextract
  refine ⟨⟨fun ht => ⟨?_, ht.bigPageCount, ht.toZero, ht.big⟩, ?_, ?_, List.Subset.refl _, rfl, rfl, rfl⟩,
    hperm.mem_iff.mp List.mem_cons_self, hlength, rfl, rfl⟩
  · have hcount := ht.count
    generalize pool.pagesPerBigPg.toNat * pool.pageListBp.length = big at hcount ⊢
    bv_omega
  · refine (List.Perm.append_left _ (hperm.symm.append_right _)).trans ?_
    exact List.perm_middle
  · exact List.append_subset_of_subset_of_subset
      (fun q hq => List.mem_append_left _ (hperm.mem_iff.mp (List.mem_cons_of_mem _ hq)))
      (List.subset_append_right _ _)

/-- **A big page.** -/
theorem getPageListPageBp_takes (h : getPageListPageBp info pool args = some (page, pool')) :
    Takes pool (bigPage pool.pagesPerBigPg.toNat page) pool' ∧
      bigPage pool.pagesPerBigPg.toNat page ⊆ cleanPages pool ∧
      pool'.pageListBp.length + 1 = pool.pageListBp.length ∧ pool'.zeroList = pool.zeroList ∧
      pool'.pageList = pool.pageList := by
  obtain ⟨⟨page', rest⟩, hextract, heq⟩ := Option.map_eq_some_iff.mp h
  cases heq
  have hperm := extract_perm hextract
  have hlength := length_of_extract hextract
  have hflat := hperm.flatMap_right (bigPage pool.pagesPerBigPg.toNat)
  have hmul : pool.pagesPerBigPg.toNat * pool.pageListBp.length =
      pool.pagesPerBigPg.toNat * rest.length + pool.pagesPerBigPg.toNat := by
    rw [← hlength, Nat.mul_succ]
  refine ⟨⟨fun ht => ⟨?_, ?_, ht.toZero, fun _ => ht.big (by omega)⟩, ?_, ?_, List.Subset.refl _, rfl, rfl, rfl⟩, ?_, hlength,
    rfl, rfl⟩
  · have hcount := ht.count
    generalize pool.pagesPerBigPg.toNat * rest.length = big at hmul ⊢
    bv_omega
  · have hcount := ht.bigPageCount
    generalize pool.pagesPerBigPg.toNat * rest.length = big at hmul ⊢
    bv_omega
  · refine (List.Perm.append_left _ (List.Perm.append_left _ hflat.symm)).trans ?_
    refine (List.perm_append_comm_assoc _ _ _).append_left _ |>.trans ?_
    exact List.perm_append_comm_assoc _ _ _
  · refine List.append_subset_of_subset_of_subset (List.subset_append_left _ _) fun q hq => ?_
    exact List.mem_append_right _ (hflat.mem_iff.mp (List.mem_append_right _ hq))
  · intro q hq
    exact List.mem_append_right _ (hflat.mem_iff.mp (List.mem_append_left _ hq))

end

section

variable {pool : NvmapPagePool} {fuel nr k : ℕ}

theorem eq_nil_of_extract {info : PageInfo} {l : List ℕ} (h : extract (anyNode.wants info) l = none) : l = [] := by
  rw [List.eq_nil_iff_forall_not_mem]
  intro page hpage
  exact Bool.noConfusion (extract_eq_none_iff.mp h page hpage)

theorem ceil_step (hk : 0 < k) (hnr : 0 < nr) :
    (nr + (k - 1)) / k = (nr - k + (k - 1)) / k + 1 := by
  by_cases hle : k ≤ nr
  · have hsum : nr + (k - 1) = nr - k + (k - 1) + k := by omega
    rw [hsum, Nat.add_div_right _ hk]
  · have hsum : nr + (k - 1) = nr - 1 + k := by omega
    rw [hsum, Nat.add_div_right _ hk, Nat.div_eq_of_lt (by omega), Nat.div_eq_of_lt (by omega)]

theorem ceil_zero (k : ℕ) : (0 + (k - 1)) / k = 0 := by
  rcases Nat.eq_zero_or_pos k with rfl | hk
  · rfl
  · exact Nat.div_eq_of_lt (by omega)

section

variable (info : PageInfo)

theorem freePagesLoop_takes (fuel : ℕ) (usePageList usePageListBp : Bool)
    (nr : ℕ) (pool : NvmapPagePool) :
    ∃ freed, Takes pool freed (freePagesLoop info fuel usePageList usePageListBp nr pool).2 := by
  induction fuel generalizing usePageList usePageListBp nr pool with
  | zero => exact ⟨[], .refl pool⟩
  | succ fuel ih =>
    rw [freePagesLoop]
    split
    case isTrue => exact ⟨[], .refl pool⟩
    case isFalse =>
      split
      case h_1 =>
        split
        case isTrue => exact ih true usePageListBp nr pool
        case isFalse =>
          split
          case isTrue => exact ih usePageList true nr pool
          case isFalse => exact ⟨[], .refl pool⟩
      case h_2 page pool1 hget =>
        obtain ⟨freed, hrest⟩ := ih usePageList usePageListBp
          (nr - if usePageListBp then pool.pagesPerBigPg.toNat else 1) pool1
        have hfirst : ∃ taken, Takes pool taken pool1 := by
          cases usePageListBp with
          | true => exact ⟨_, (getPageListPageBp_takes hget).1⟩
          | false =>
            cases usePageList with
            | true => exact ⟨_, (getPageListPage_takes hget).1⟩
            | false => exact ⟨_, (getZeroListPage_takes hget).1⟩
        obtain ⟨taken, htaken⟩ := hfirst
        exact ⟨taken ++ freed, htaken.trans hrest⟩

theorem freePagesLoop_bp (nr : ℕ) (ht : Tally pool) (hfuel : pool.pageListBp.length < fuel) :
    let r := (freePagesLoop info fuel true true nr pool).2
    r.zeroList = pool.zeroList ∧ r.pageList = pool.pageList ∧
      r.pageListBp.length = pool.pageListBp.length -
        (nr + (pool.pagesPerBigPg.toNat - 1)) / pool.pagesPerBigPg.toNat := by
  induction fuel generalizing nr pool with
  | zero => exact absurd hfuel (Nat.not_lt_zero _)
  | succ fuel ih =>
    rw [freePagesLoop]
    split
    case isTrue hzero =>
      refine ⟨rfl, rfl, ?_⟩
      rw [hzero, ceil_zero, Nat.sub_zero]
    case isFalse hnr =>
      dsimp only
      rw [if_pos rfl]
      cases hget : getPageListPageBp info pool anyNode with
      | none =>
        have hnil : pool.pageListBp = [] := eq_nil_of_extract (Option.map_eq_none_iff.mp hget)
        refine ⟨rfl, rfl, ?_⟩
        change pool.pageListBp.length = _
        rw [hnil]
        exact (Nat.zero_sub _).symm
      | some got =>
        obtain ⟨page, pool1⟩ := got
        obtain ⟨htakes, -, hlength, hzero, hpage⟩ := getPageListPageBp_takes hget
        have hk : 0 < pool.pagesPerBigPg.toNat := by
          have hbig := ht.big
          omega
        obtain ⟨hzero', hpage', hlength'⟩ :=
          ih (nr - pool.pagesPerBigPg.toNat) (htakes.tally ht) (by omega)
        rw [htakes.pagesPerBigPg] at hlength'
        refine ⟨hzero'.trans hzero, hpage'.trans hpage, ?_⟩
        rw [ceil_step hk (Nat.pos_of_ne_zero hnr)]
        change (freePagesLoop info fuel true true (nr - pool.pagesPerBigPg.toNat) pool1).2.pageListBp.length = _
        rw [hlength']
        omega

theorem freePagesLoop_page (nr : ℕ) (ht : Tally pool)
    (hfuel : pool.pageList.length + pool.pageListBp.length + 1 < fuel) :
    let r := (freePagesLoop info fuel true false nr pool).2
    r.zeroList = pool.zeroList ∧
      r.pageList.length = pool.pageList.length - nr ∧
      r.pageListBp.length = pool.pageListBp.length -
        (nr - pool.pageList.length + (pool.pagesPerBigPg.toNat - 1)) /
          pool.pagesPerBigPg.toNat := by
  induction fuel generalizing nr pool with
  | zero => exact absurd hfuel (Nat.not_lt_zero _)
  | succ fuel ih =>
    rw [freePagesLoop]
    split
    case isTrue hzero =>
      refine ⟨rfl, ?_, ?_⟩
      · rw [hzero, Nat.sub_zero]
      · rw [hzero, Nat.zero_sub, ceil_zero, Nat.sub_zero]
    case isFalse hnr =>
      dsimp only
      rw [if_neg Bool.false_ne_true, if_pos rfl]
      cases hget : getPageListPage info pool anyNode with
      | none =>
        have hnil : pool.pageList = [] := eq_nil_of_extract (Option.map_eq_none_iff.mp hget)
        have hbp : pool.pageListBp.length < fuel := by omega
        obtain ⟨hzero', hpage', hlength'⟩ := freePagesLoop_bp info nr ht hbp
        refine ⟨hzero', ?_, ?_⟩
        · rw [hnil, List.length_nil, Nat.zero_sub]
          exact (congrArg List.length hpage').trans (congrArg List.length hnil)
        · rw [hnil, List.length_nil, Nat.sub_zero]
          exact hlength'
      | some got =>
        obtain ⟨page, pool1⟩ := got
        obtain ⟨htakes, -, hlength, hzero, hbp⟩ := getPageListPage_takes hget
        obtain ⟨hzero', hpage', hlength'⟩ :=
          ih (nr - 1) (htakes.tally ht) (by rw [hbp]; omega)
        rw [htakes.pagesPerBigPg, hbp] at hlength'
        refine ⟨hzero'.trans hzero, ?_, ?_⟩
        · exact hpage'.trans (by omega)
        · have hsame : nr - 1 - pool1.pageList.length = nr - pool.pageList.length := by omega
          rw [hsame] at hlength'
          exact hlength'

theorem freePagesLoop_zero (nr : ℕ) (ht : Tally pool)
    (hfuel : pool.zeroList.length + pool.pageList.length + pool.pageListBp.length + 2 < fuel) :
    let r := (freePagesLoop info fuel false false nr pool).2
    r.zeroList.length = pool.zeroList.length - nr ∧
      r.pageList.length = pool.pageList.length - (nr - pool.zeroList.length) ∧
      r.pageListBp.length = pool.pageListBp.length -
        (nr - pool.zeroList.length - pool.pageList.length + (pool.pagesPerBigPg.toNat - 1)) /
          pool.pagesPerBigPg.toNat := by
  induction fuel generalizing nr pool with
  | zero => exact absurd hfuel (Nat.not_lt_zero _)
  | succ fuel ih =>
    rw [freePagesLoop]
    split
    case isTrue hzero =>
      refine ⟨?_, ?_, ?_⟩
      · rw [hzero, Nat.sub_zero]
      · rw [hzero, Nat.zero_sub, Nat.sub_zero]
      · rw [hzero, Nat.zero_sub, Nat.zero_sub, ceil_zero, Nat.sub_zero]
    case isFalse hnr =>
      dsimp only
      rw [if_neg Bool.false_ne_true, if_neg Bool.false_ne_true]
      cases hget : getZeroListPage info pool anyNode with
      | none =>
        have hnil : pool.zeroList = [] := eq_nil_of_extract (Option.map_eq_none_iff.mp hget)
        have hpages : pool.pageList.length + pool.pageListBp.length + 1 < fuel := by omega
        obtain ⟨hzero', hpage', hlength'⟩ := freePagesLoop_page info nr ht hpages
        refine ⟨?_, ?_, ?_⟩
        · rw [hnil, List.length_nil, Nat.zero_sub]
          exact (congrArg List.length hzero').trans (congrArg List.length hnil)
        · rw [hnil, List.length_nil, Nat.sub_zero]
          exact hpage'
        · rw [hnil, List.length_nil, Nat.sub_zero]
          exact hlength'
      | some got =>
        obtain ⟨page, pool1⟩ := got
        obtain ⟨htakes, -, hlength, hpage, hbp⟩ := getZeroListPage_takes hget
        obtain ⟨hzero', hpage', hlength'⟩ :=
          ih (nr - 1) (htakes.tally ht) (by rw [hpage, hbp]; omega)
        have hsame : nr - 1 - pool1.zeroList.length = nr - pool.zeroList.length := by omega
        rw [htakes.pagesPerBigPg, hbp, hpage, hsame] at hlength'
        rw [hpage, hsame] at hpage'
        refine ⟨hzero'.trans (by omega), hpage', hlength'⟩

/-- **Freeing pages.** -/
theorem freePagesLocked_takes (pool : NvmapPagePool) (nr : ℕ) :
    ∃ freed, Takes pool freed (nvmapPagePoolFreePagesLocked info pool nr).2 :=
  freePagesLoop_takes info _ false false nr pool

theorem freePagesLocked_left (ht : Tally pool) (nr : ℕ) :
    (poolPages (nvmapPagePoolFreePagesLocked info pool nr).2).length = leftAfter pool nr := by
  obtain ⟨freed, hfreed⟩ := freePagesLocked_takes info pool nr
  obtain ⟨hzero, hpage, hbp⟩ := freePagesLoop_zero info nr ht
    (show _ < pool.zeroList.length + pool.pageList.length + pool.pageListBp.length + 3 by omega)
  have ht' := hfreed.tally ht
  have hlength := length_poolPages ht'
  have hcount := ht'.count
  have htoZero := ht'.toZero
  rw [hfreed.pagesPerBigPg] at hcount
  unfold leftAfter
  rw [← hzero, ← hpage, ← hbp]
  unfold nvmapPagePoolFreePagesLocked at *
  omega

end

end

section

variable {info : PageInfo} {pool pool' : NvmapPagePool} {taken : List ℕ}

theorem Takes.setUnderZero (h : Takes pool taken pool') (underZero : U32) :
    Takes { pool with underZero := underZero } taken { pool' with underZero := underZero } := by
  refine ⟨fun ht => ?_, h.pages, h.clean, h.zero, h.pagesPerBigPg, h.max, rfl⟩
  have ht' := h.tally ⟨ht.count, ht.bigPageCount, ht.toZero, ht.big⟩
  exact ⟨ht'.count, ht'.bigPageCount, ht'.toZero, ht'.big⟩

/-- **Taking pages to be cleared.** -/
theorem takeZeroLoop_takes (info : PageInfo) (fuel : ℕ) (pool : NvmapPagePool) (pages : List ℕ) :
    ∃ taken, (takeZeroLoop info fuel pool pages).1 = pages ++ taken ∧
      Takes pool taken
        { (takeZeroLoop info fuel pool pages).2 with underZero := pool.underZero } ∧
      (takeZeroLoop info fuel pool pages).2.underZero =
        pool.underZero + BitVec.ofNat 32 taken.length := by
  induction fuel generalizing pool pages with
  | zero => exact ⟨[], (List.append_nil _).symm, .refl pool, (BitVec.add_zero _).symm⟩
  | succ fuel ih =>
    rw [takeZeroLoop]
    cases hget : getZeroListPage info pool anyNode with
    | none => exact ⟨[], (List.append_nil _).symm, .refl pool, (BitVec.add_zero _).symm⟩
    | some got =>
      obtain ⟨page, pool1⟩ := got
      obtain ⟨htakes, -⟩ := getZeroListPage_takes hget
      obtain ⟨taken, hpages, hrest, hunder⟩ :=
        ih { pool1 with underZero := pool1.underZero + 1 } (pages ++ [page])
      refine ⟨page :: taken, ?_, ?_, ?_⟩
      · rw [hpages, List.append_assoc, List.singleton_append]
      · rw [← htakes.underZero]
        exact htakes.trans (hrest.setUnderZero pool1.underZero)
      · rw [hunder, htakes.underZero, List.length_cons]
        bv_omega

end

section

variable {info : PageInfo} {pool pool' pool'' : NvmapPagePool} {pages pages' : List ℕ}

/-- Cleared pages have gone into the pool, but are not counted yet. -/
structure Puts (pool : NvmapPagePool) (pages : List ℕ) (pool' : NvmapPagePool) : Prop where
  clean : (cleanPages pool').Perm (cleanPages pool ++ pages)
  length : pool'.pageList.length + pool'.pagesPerBigPg.toNat * pool'.pageListBp.length =
    pool.pageList.length + pool.pagesPerBigPg.toNat * pool.pageListBp.length + pages.length
  bigPageCount : pool'.bigPageCount -
      BitVec.ofNat 32 (pool'.pagesPerBigPg.toNat * pool'.pageListBp.length) =
    pool.bigPageCount - BitVec.ofNat 32 (pool.pagesPerBigPg.toNat * pool.pageListBp.length)
  big : (0 < pool.pageListBp.length → 1 < pool.pagesPerBigPg.toNat) →
    0 < pool'.pageListBp.length → 1 < pool'.pagesPerBigPg.toNat
  zeroList : pool'.zeroList = pool.zeroList
  toZero : pool'.toZero = pool.toZero
  max : pool'.max = pool.max
  underZero : pool'.underZero = pool.underZero

theorem Puts.refl (pool : NvmapPagePool) : Puts pool [] pool :=
  ⟨by rw [List.append_nil], rfl, rfl, id, rfl, rfl, rfl, rfl⟩

theorem Puts.trans (h : Puts pool pages pool') (h' : Puts pool' pages' pool'') :
    Puts pool (pages ++ pages') pool'' := by
  refine ⟨?_, ?_, h'.bigPageCount.trans h.bigPageCount, h'.big ∘ h.big,
    h'.zeroList.trans h.zeroList, h'.toZero.trans h.toZero, h'.max.trans h.max,
    h'.underZero.trans h.underZero⟩
  · rw [← List.append_assoc]
    exact h'.clean.trans (h.clean.append_right pages')
  · rw [h'.length, h.length, List.length_append, Nat.add_assoc]

theorem puts_page (pool : NvmapPagePool) (page : ℕ) :
    Puts pool [page] { pool with pageList := pool.pageList ++ [page] } := by
  refine ⟨?_, ?_, rfl, id, rfl, rfl, rfl, rfl⟩
  · unfold cleanPages
    rw [List.append_assoc, List.append_assoc]
    exact List.Perm.append_left _ List.perm_append_comm
  · rw [List.length_append, List.length_singleton]
    dsimp only
    omega

theorem puts_bigPage (pool : NvmapPagePool) (page : ℕ) (hbig : 1 < pool.pagesPerBigPg.toNat) :
    Puts pool (bigPage pool.pagesPerBigPg.toNat page)
      { pool with
        pageListBp := pool.pageListBp ++ [page]
        bigPageCount := pool.bigPageCount + pool.pagesPerBigPg } := by
  have hmul : pool.pagesPerBigPg.toNat * (pool.pageListBp ++ [page]).length =
      pool.pagesPerBigPg.toNat * pool.pageListBp.length + pool.pagesPerBigPg.toNat := by
    rw [List.length_append, List.length_singleton, Nat.mul_succ]
  refine ⟨?_, ?_, ?_, fun _ _ => hbig, rfl, rfl, rfl, rfl⟩
  · unfold cleanPages
    rw [List.flatMap_append, List.flatMap_singleton, List.append_assoc]
  · have hlength : (bigPage pool.pagesPerBigPg.toNat page).length = pool.pagesPerBigPg.toNat :=
      List.length_range'
    dsimp only
    omega
  · rw [hmul]
    generalize pool.pagesPerBigPg.toNat * pool.pageListBp.length = big
    bv_omega

theorem nvmapIsBigPage_spec {nr : ℕ} {page : ℕ}
    (h : nvmapIsBigPage info pool (page :: pages) nr = true) :
    1 < pool.pagesPerBigPg.toNat ∧ pool.pagesPerBigPg.toNat ≤ nr ∧
      (page :: pages).take pool.pagesPerBigPg.toNat = bigPage pool.pagesPerBigPg.toNat page := by
  rw [nvmapIsBigPage] at h
  split at h
  case isTrue => exact Bool.noConfusion h
  case isFalse hbig =>
    split at h
    case isTrue => exact Bool.noConfusion h
    case isFalse hnr =>
      split at h
      case isTrue => exact Bool.noConfusion h
      case isFalse => exact ⟨by omega, by omega, of_decide_eq_true h⟩

/-- **Putting cleared pages.** -/
theorem fillLoop_puts (info : PageInfo) (fuel : ℕ) (pool : NvmapPagePool) (pages : List ℕ)
    (realNr ind : ℕ) (hfuel : realNr ≤ fuel) (hlength : realNr ≤ pages.length) :
    (fillLoop info fuel pool pages realNr ind).1 = ind + realNr ∧
      Puts pool (pages.take realNr) (fillLoop info fuel pool pages realNr ind).2 ∧
      (fillLoop info fuel pool pages realNr ind).2.count = pool.count ∧
      (fillLoop info fuel pool pages realNr ind).2.pagesPerBigPg = pool.pagesPerBigPg := by
  induction fuel generalizing pool pages realNr ind with
  | zero =>
    obtain rfl := Nat.le_zero.mp hfuel
    exact ⟨rfl, .refl pool, rfl, rfl⟩
  | succ fuel ih =>
    cases pages with
    | nil =>
      obtain rfl := Nat.le_zero.mp hlength
      exact ⟨rfl, .refl pool, rfl, rfl⟩
    | cons page rest =>
      rw [fillLoop]
      split
      case isTrue hzero =>
        subst hzero
        exact ⟨rfl, .refl pool, rfl, rfl⟩
      case isFalse hne =>
        split
        case isTrue hbig =>
          obtain ⟨hk, hnr, htake⟩ := nvmapIsBigPage_spec hbig
          have hput := puts_bigPage pool page hk
          obtain ⟨hind, hrest, hcount, hper⟩ := ih
            { pool with
              pageListBp := pool.pageListBp ++ [page]
              bigPageCount := pool.bigPageCount + pool.pagesPerBigPg }
            ((page :: rest).drop pool.pagesPerBigPg.toNat) (realNr - pool.pagesPerBigPg.toNat)
            (ind + pool.pagesPerBigPg.toNat) (by omega) (by rw [List.length_drop]; omega)
          refine ⟨by rw [hind]; omega, ?_, hcount, hper⟩
          -- the first `k` of the pages are the big page, and the others follow
          have hsplit : (page :: rest).take realNr =
              bigPage pool.pagesPerBigPg.toNat page ++
                ((page :: rest).drop pool.pagesPerBigPg.toNat).take
                  (realNr - pool.pagesPerBigPg.toNat) := by
            rw [← htake, ← List.take_add]
            exact congrArg (fun n => (page :: rest).take n) (by omega)
          rw [hsplit]
          exact hput.trans hrest
        case isFalse =>
          obtain ⟨hind, hrest, hcount, hper⟩ := ih
            { pool with pageList := pool.pageList ++ [page] } rest (realNr - 1) (ind + 1)
            (by omega) (by rw [List.length_cons] at hlength; omega)
          refine ⟨by rw [hind]; omega, ?_, hcount, hper⟩
          have hsplit : (page :: rest).take realNr = [page] ++ rest.take (realNr - 1) := by
            obtain ⟨n, rfl⟩ := Nat.exists_eq_succ_of_ne_zero hne
            rfl
          rw [hsplit]
          exact (puts_page pool page).trans hrest

/-- **Putting cleared pages into a pool that is not too full.** -/
theorem fillLotsLocked_puts (info : PageInfo) (enablePp : Bool) (ht : Tally pool)
    (hmax : pool.count.toNat ≤ pool.max.toNat) (pages : List ℕ) :
    ∃ n pool', nvmapPagePoolFillLotsLocked info enablePp pool pages = some (n, pool') ∧
      n ≤ pages.length ∧ Tally pool' ∧ pool'.count.toNat = pool.count.toNat + n ∧
      pool'.count.toNat ≤ pool.max.toNat ∧ Puts pool (pages.take n) pool' := by
  unfold nvmapPagePoolFillLotsLocked
  split
  case isTrue =>
    exact ⟨0, pool, rfl, Nat.zero_le _, ht, rfl, hmax, .refl pool⟩
  case isFalse =>
    rw [if_neg (show ¬ pool.max < pool.count by bv_omega)]
    have hroom : min (pool.max - pool.count).toNat pages.length ≤
        pool.max.toNat - pool.count.toNat := by bv_omega
    have hall : min (pool.max - pool.count).toNat pages.length ≤ pages.length :=
      Nat.min_le_right _ _
    generalize min (pool.max - pool.count).toNat pages.length = n at hroom hall ⊢
    obtain ⟨hind, hput, hcount, hper⟩ := fillLoop_puts info n pool pages n 0 le_rfl hall
    rw [Nat.zero_add] at hind
    dsimp only
    generalize fillLoop info n pool pages n 0 = r at hind hput hcount hper ⊢
    obtain ⟨ind, pool'⟩ := r
    subst hind
    have hsum : (pool'.count + BitVec.ofNat 32 ind).toNat = pool.count.toNat + ind := by
      bv_omega
    rw [if_neg (show ¬ pool'.max < pool'.count + BitVec.ofNat 32 ind by
      rw [hput.max]
      bv_omega)]
    refine ⟨ind, _, rfl, hall, ⟨?_, ?_, ?_, hput.big ht.big⟩, hsum, ?_, ?_⟩
    · rw [hsum, hput.length, ht.count, List.length_take, Nat.min_eq_left hall]
    · have hbig := hput.bigPageCount
      have hbefore := ht.bigPageCount
      have hlength := hput.length
      have hcounted := ht.count
      rw [List.length_take, Nat.min_eq_left hall] at hlength
      generalize pool'.pagesPerBigPg.toNat * pool'.pageListBp.length = after at hbig hlength ⊢
      generalize pool.pagesPerBigPg.toNat * pool.pageListBp.length = before at *
      bv_omega
    · rw [hput.toZero, hput.zeroList]
      exact ht.toZero
    · dsimp only
      omega
    · exact ⟨hput.clean, hput.length, hput.bigPageCount, hput.big, hput.zeroList, hput.toZero,
        hput.max, hput.underZero⟩

/-- **Taking pages as they are**: those that nobody else uses go to the zero list. -/
theorem fillZeroLoop_eq (pool : NvmapPagePool) (shared : ℕ → Bool) (pages : List ℕ) :
    fillZeroLoop pool shared pages =
      { pool with
        zeroList := pool.zeroList ++ pages.filter (fun page => !shared page)
        toZero := pool.toZero + BitVec.ofNat 32 (pages.filter fun page => !shared page).length } := by
  induction pages generalizing pool with
  | nil =>
    rw [List.filter_nil, List.append_nil]
    exact congrArg (fun toZero => { pool with toZero := toZero }) (BitVec.add_zero _).symm
  | cons page rest ih =>
    rw [fillZeroLoop, List.foldl_cons]
    change fillZeroLoop _ shared rest = _
    rw [ih]
    cases hshared : shared page with
    | true => rw [List.filter_cons_of_neg (by rw [hshared]; decide), if_pos rfl]
    | false =>
      rw [List.filter_cons_of_pos (by rw [hshared]; decide), if_neg Bool.false_ne_true]
      refine congrArg₂ (fun zeroList toZero => { pool with zeroList := zeroList, toZero := toZero }) ?_ ?_
      · rw [List.append_assoc, List.singleton_append]
      · rw [List.length_cons]
        bv_omega

end

section

variable {info : PageInfo} {args : NumaArgs} {pool : NvmapPagePool}

/--
**The loop of an allocation.**  It takes cleared pages, and once it has taken one that is not
cleared it takes no others.
-/
theorem allocLoop_takes (info : PageInfo) (args : NumaArgs) (todo : ℕ) (pool : NvmapPagePool)
    (taken : TakenPages) :
    ∃ clean dirty, (allocLoop info args todo pool taken).1.pages =
        taken.pages ++ (clean ++ dirty) ∧
      Takes pool (clean ++ dirty) (allocLoop info args todo pool taken).2 ∧
      clean ⊆ pool.pageList ∧ dirty ⊆ pool.zeroList ∧
      (allocLoop info args todo pool taken).1.nonZeroCnt = taken.nonZeroCnt + dirty.length ∧
      (taken.nonZeroCnt ≠ 0 → clean = [] ∧
        (allocLoop info args todo pool taken).1.nonZeroIdx = taken.nonZeroIdx) ∧
      (taken.nonZeroCnt = 0 → dirty ≠ [] →
        (allocLoop info args todo pool taken).1.nonZeroIdx =
          taken.pages.length + clean.length) := by
  induction todo generalizing pool taken with
  | zero =>
    exact ⟨[], [], (List.append_nil _).symm, .refl pool, List.nil_subset _, List.nil_subset _, rfl,
      fun _ => ⟨rfl, rfl⟩, fun _ hne => absurd rfl hne⟩
  | succ todo ih =>
    rw [allocLoop]
    split
    case h_1 page pool1 hpage =>
      have hcnt : taken.nonZeroCnt = 0 := by
        by_contra hne
        rw [if_neg hne] at hpage
        exact nomatch hpage
      rw [if_pos hcnt] at hpage
      obtain ⟨htakes, hmem, -, hzero, -⟩ := getPageListPage_takes hpage
      have hsubset : pool1.pageList ⊆ pool.pageList := by
        obtain ⟨⟨page', rest⟩, hextract, heq⟩ := Option.map_eq_some_iff.mp hpage
        cases heq
        exact fun q hq => (extract_perm hextract).mem_iff.mp (List.mem_cons_of_mem _ hq)
      obtain ⟨clean, dirty, hpages, hrest, hclean, hdirty, hcount, -, hidx⟩ :=
        ih pool1 { taken with pages := taken.pages ++ [page] }
      refine ⟨page :: clean, dirty, ?_, htakes.trans hrest, ?_, ?_, hcount,
        fun hne => absurd hcnt hne, fun _ hne => ?_⟩
      · rw [hpages, List.append_assoc, List.singleton_append, List.cons_append]
      · exact List.cons_subset.mpr ⟨hmem, List.Subset.trans hclean hsubset⟩
      · exact hzero ▸ hdirty
      · rw [hidx hcnt hne, List.length_append, List.length_singleton, List.length_cons]
        omega
    case h_2 =>
      cases hget : getZeroListPage info pool args with
      | none =>
        exact ⟨[], [], (List.append_nil _).symm, .refl pool, List.nil_subset _, List.nil_subset _,
          rfl, fun _ => ⟨rfl, rfl⟩, fun _ hne => absurd rfl hne⟩
      | some got =>
        obtain ⟨page, pool1⟩ := got
        obtain ⟨htakes, hmem, -, -, -⟩ := getZeroListPage_takes hget
        obtain ⟨clean, dirty, hpages, hrest, -, hdirty, hcount, hidx, -⟩ := ih pool1
          { pages := taken.pages ++ [page]
            nonZeroIdx := if taken.nonZeroCnt = 0 then taken.pages.length else taken.nonZeroIdx
            nonZeroCnt := taken.nonZeroCnt + 1 }
        obtain ⟨rfl, hidx'⟩ := hidx (Nat.succ_ne_zero _)
        refine ⟨[], page :: dirty, ?_, htakes.trans hrest, List.nil_subset _, ?_, ?_,
          fun hne => ⟨rfl, hidx'.trans (if_neg hne)⟩, fun hcnt _ => hidx'.trans (if_pos hcnt)⟩
        · rw [hpages, List.append_assoc, List.singleton_append, List.nil_append, List.nil_append]
        · exact List.cons_subset.mpr ⟨hmem, List.Subset.trans hdirty htakes.zero⟩
        · rw [hcount, List.length_cons]
          dsimp only
          omega

/-- **An allocation**: the pages that are not cleared are those that it clears. -/
theorem allocLots_takes (info : PageInfo) (enablePp : Bool) (pool : NvmapPagePool)
    (args : NumaArgs) (nr : U32) :
    let r := nvmapPagePoolAllocLots info enablePp pool args nr
    Takes pool r.1.pages r.2 ∧
      ∃ clean, r.1.pages = clean ++ nonZeroPages r.1 ∧ clean ⊆ pool.pageList ∧
        nonZeroPages r.1 ⊆ pool.zeroList ∧ (nonZeroPages r.1).length = r.1.nonZeroCnt ∧
        (nonZeroPages r.1 ≠ [] → r.1.nonZeroIdx = clean.length) := by
  unfold nvmapPagePoolAllocLots
  split
  case isTrue =>
    exact ⟨.refl pool, [], rfl, List.nil_subset _, List.nil_subset _, rfl, fun hne => absurd rfl hne⟩
  case isFalse =>
    obtain ⟨clean, dirty, hpages, htakes, hclean, hdirty, hcount, -, hidx⟩ :=
      allocLoop_takes info args nr.toNat pool ⟨[], 0, 0⟩
    rw [List.nil_append] at hpages
    rw [Nat.zero_add] at hcount
    rw [List.length_nil, Nat.zero_add] at hidx
    have hnonZero : nonZeroPages (allocLoop info args nr.toNat pool ⟨[], 0, 0⟩).1 = dirty := by
      unfold nonZeroPages
      rw [hpages, hcount]
      rcases eq_or_ne dirty [] with rfl | hne
      · rfl
      · rw [hidx rfl hne, List.drop_left, List.take_length]
    refine ⟨hpages ▸ htakes, clean, ?_⟩
    rw [hnonZero]
    exact ⟨hpages, hclean, hdirty, hcount.symm, hidx rfl⟩

theorem allocBpLoop_takes (info : PageInfo) (args : NumaArgs) (fuel : ℕ) (pool : NvmapPagePool)
    (nrLeft : ℕ) (pages : List ℕ) :
    ∃ taken, (allocBpLoop info args fuel pool nrLeft pages).1 = pages ++ taken ∧
      Takes pool taken (allocBpLoop info args fuel pool nrLeft pages).2 ∧
      taken ⊆ cleanPages pool := by
  induction fuel generalizing pool nrLeft pages with
  | zero => exact ⟨[], (List.append_nil _).symm, .refl pool, List.nil_subset _⟩
  | succ fuel ih =>
    rw [allocBpLoop]
    split
    case isFalse => exact ⟨[], (List.append_nil _).symm, .refl pool, List.nil_subset _⟩
    case isTrue =>
      cases hget : getPageListPageBp info pool args with
      | none => exact ⟨[], (List.append_nil _).symm, .refl pool, List.nil_subset _⟩
      | some got =>
        obtain ⟨page, pool1⟩ := got
        obtain ⟨htakes, hsubset, -⟩ := getPageListPageBp_takes hget
        obtain ⟨taken, hpages, hrest, hclean⟩ := ih pool1 (nrLeft - pool1.pagesPerBigPg.toNat)
          (pages ++ bigPage pool1.pagesPerBigPg.toNat page)
        refine ⟨bigPage pool.pagesPerBigPg.toNat page ++ taken, ?_, htakes.trans hrest, ?_⟩
        · rw [hpages, List.append_assoc, htakes.pagesPerBigPg]
        · exact List.append_subset_of_subset_of_subset hsubset
            (List.Subset.trans hclean htakes.clean)

/-- **An allocation of big pages.** -/
theorem allocLotsBp_takes (info : PageInfo) (enablePp : Bool) (pool : NvmapPagePool)
    (args : NumaArgs) (nr : U32) :
    let r := nvmapPagePoolAllocLotsBp info enablePp pool args nr
    Takes pool r.1 r.2 ∧ r.1 ⊆ cleanPages pool := by
  unfold nvmapPagePoolAllocLotsBp
  split
  case isTrue => exact ⟨.refl pool, List.nil_subset _⟩
  case isFalse =>
    obtain ⟨taken, hpages, htakes, hclean⟩ :=
      allocBpLoop_takes info args pool.pageListBp.length pool nr.toNat []
    rw [List.nil_append] at hpages
    exact ⟨hpages ▸ htakes, hpages ▸ hclean⟩

end

end NvidiaOot.Analysis
