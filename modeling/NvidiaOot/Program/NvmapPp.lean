import NvidiaOot.Library.Extract
import NvidiaOot.Program.Types

/-!
# The page pool of nvmap

Freed pages are kept, first on `zero_list` as they are, and when the background thread has
cleared them on `page_list`, or on `page_list_bp` where they make a big page.  A page is its
frame number; an entry of `page_list_bp` is the first of `pages_per_big_pg` consecutive pages.

A kernel without `CONFIG_ARM64_4K_PAGES` has no big pages: there `pages_per_big_pg` is 1.
`page_to_nid` and the size of a page are parameters.  Not modelled: reference counts except
for the test in `nvmap_page_pool_fill_lots`, traces and debug counters.

Sources are in `drivers/video/tegra/nvmap/`.
-/

namespace NvidiaOot.Program

open Library

section

/-- SOURCE: nvmap_priv.h:312-335 -/
structure NvmapPagePool where
  count : U32
  max : U32
  toZero : U32
  underZero : U32
  bigPgSz : U32
  bigPageCount : U32
  pagesPerBigPg : U32
  pageList : List ℕ
  zeroList : List ℕ
  pageListBp : List ℕ
deriving DecidableEq, Repr

/-- What does not change: the size of a page and the node it is on. -/
structure PageInfo where
  pageSize : ℕ
  pageToNid : ℕ → ℤ

/-- `NUMA_NO_NODE` -/
def numaNoNode : ℤ := -1

/-- Whether and for which node pages are wanted; `numaMemId` is what `numa_mem_id` returns. -/
structure NumaArgs where
  useNuma : Bool
  numaId : ℤ
  numaMemId : ℤ

/-- Any page. -/
def anyNode : NumaArgs := ⟨false, 0, 0⟩

/-- Is it a page that is wanted? -/
def NumaArgs.wants (info : PageInfo) (args : NumaArgs) (page : ℕ) : Bool :=
  !args.useNuma ||
    info.pageToNid page = if args.numaId = numaNoNode then args.numaMemId else args.numaId

end

section

variable (info : PageInfo) (pool : NvmapPagePool) (args : NumaArgs)

/-- SOURCE: nvmap_pp.c:58-83 -/
def getZeroListPage : Option (ℕ × NvmapPagePool) :=
  (extract (args.wants info) pool.zeroList).map fun r =>
    (r.1, { pool with zeroList := r.2, toZero := pool.toZero - 1 })

/-- SOURCE: nvmap_pp.c:85-110 -/
def getPageListPage : Option (ℕ × NvmapPagePool) :=
  (extract (args.wants info) pool.pageList).map fun r =>
    (r.1, { pool with pageList := r.2, count := pool.count - 1 })

/-- SOURCE: nvmap_pp.c:112-140 -/
def getPageListPageBp : Option (ℕ × NvmapPagePool) :=
  (extract (args.wants info) pool.pageListBp).map fun r =>
    (r.1, { pool with
      pageListBp := r.2
      count := pool.count - pool.pagesPerBigPg
      bigPageCount := pool.bigPageCount - pool.pagesPerBigPg })

/-- The pages of a big page. -/
def bigPage (k page : ℕ) : List ℕ := List.range' page k

end

section

variable (info : PageInfo) (enablePp : Bool) (pool : NvmapPagePool)

/-- Do the first pages make a big page, when `nr` may be used?
SOURCE: nvmap_pp.c:392-413 -/
def nvmapIsBigPage (pages : List ℕ) (nr : ℕ) : Bool :=
  match pages with
  | [] => false
  | page :: _ =>
    if pool.pagesPerBigPg.toNat ≤ 1 then false
    else if nr < pool.pagesPerBigPg.toNat then false
    else if (page * info.pageSize) &&& (pool.bigPgSz - 1).toNat ≠ 0 then false
    else pages.take pool.pagesPerBigPg.toNat = bigPage pool.pagesPerBigPg.toNat page

/-- The loop of `__nvmap_page_pool_fill_lots_locked`, for at most `fuel` entries. -/
def fillLoop : (fuel : ℕ) → NvmapPagePool → (pages : List ℕ) → (realNr ind : ℕ) → ℕ × NvmapPagePool
  | 0, pool, _, _, ind => (ind, pool)
  | fuel + 1, pool, pages, realNr, ind =>
    if realNr = 0 then (ind, pool)
    else
      match pages with
      | [] => (ind, pool)
      | page :: rest =>
        if nvmapIsBigPage info pool pages realNr then
          fillLoop fuel { pool with
            pageListBp := pool.pageListBp ++ [page]
            bigPageCount := pool.bigPageCount + pool.pagesPerBigPg }
            (pages.drop pool.pagesPerBigPg.toNat) (realNr - pool.pagesPerBigPg.toNat)
            (ind + pool.pagesPerBigPg.toNat)
        else fillLoop fuel { pool with pageList := pool.pageList ++ [page] } rest (realNr - 1) (ind + 1)

/--
Put cleared pages into the pool, as many as there is room for; no result where `BUG_ON` stops
the kernel.

SOURCE: nvmap_pp.c:423-465
-/
def nvmapPagePoolFillLotsLocked (pages : List ℕ) : Option (ℕ × NvmapPagePool) :=
  if !enablePp then some (0, pool)
  else if pool.max < pool.count then none
  else
    let realNr := min (pool.max - pool.count).toNat pages.length
    let (ind, pool) := fillLoop info realNr pool pages realNr 0
    let pool := { pool with count := pool.count + BitVec.ofNat 32 ind }
    if pool.max < pool.count then none else some (ind, pool)

/-- The loop of `nvmap_page_pool_fill_lots`; a page that is still used elsewhere is let go. -/
def fillZeroLoop (pool : NvmapPagePool) (shared : ℕ → Bool) (pages : List ℕ) : NvmapPagePool :=
  pages.foldl (fun pool page =>
    if shared page then pool
    else { pool with zeroList := pool.zeroList ++ [page], toZero := pool.toZero + 1 }) pool

/--
Take pages as they are, and say how many.

SOURCE: nvmap_pp.c:467-504
-/
def nvmapPagePoolFillLots (shared : ℕ → Bool) (pages : List ℕ) : ℕ × NvmapPagePool :=
  let ret := min pages.length (pool.max - pool.count - pool.toZero - pool.underZero).toNat
  (ret, fillZeroLoop pool shared (pages.take ret))

end

section

variable (info : PageInfo) (pool : NvmapPagePool)

/-- The loop of `nvmap_page_pool_free_pages_locked`, for at most `fuel` rounds: what is left of
`nr_pages`, and the pool. -/
def freePagesLoop : (fuel : ℕ) → (usePageList usePageListBp : Bool) → (nrPages : ℕ) →
    NvmapPagePool → ℕ × NvmapPagePool
  | 0, _, _, nrPages, pool => (nrPages, pool)
  | fuel + 1, usePageList, usePageListBp, nrPages, pool =>
    if nrPages = 0 then (nrPages, pool)
    else
      match if usePageListBp then getPageListPageBp info pool anyNode
        else if usePageList then getPageListPage info pool anyNode
        else getZeroListPage info pool anyNode with
      | none =>
        if !usePageList then freePagesLoop fuel true usePageListBp nrPages pool
        else if !usePageListBp then freePagesLoop fuel usePageList true nrPages pool
        else (nrPages, pool)
      | some (_, pool') =>
        let freed := if usePageListBp then pool.pagesPerBigPg.toNat else 1
        freePagesLoop fuel usePageList usePageListBp (nrPages - freed) pool'

/--
Free pages until there are `nr_pages` fewer, or none; each round takes a page or goes on to the
next list.

SOURCE: nvmap_pp.c:237-303
-/
def nvmapPagePoolFreePagesLocked (nrPages : ℕ) : ℕ × NvmapPagePool :=
  freePagesLoop info
    (pool.zeroList.length + pool.pageList.length + pool.pageListBp.length + 3) false false nrPages
    pool

/-- SOURCE: nvmap_pp.c:506-516 -/
def nvmapPagePoolGetUnusedPages : ℕ := (pool.count + pool.toZero).toNat

/-- SOURCE: nvmap_pp.c:522-539 -/
def nvmapPagePoolClear : NvmapPagePool :=
  (nvmapPagePoolFreePagesLocked info pool (pool.count + pool.toZero).toNat).2

/-- SOURCE: nvmap_pp.c:546-560 -/
def nvmapPagePoolResize (size : U32) : NvmapPagePool :=
  let curr := nvmapPagePoolGetUnusedPages pool
  let pool := if size.toNat < curr then
    (nvmapPagePoolFreePagesLocked info pool (curr - size.toNat)).2 else pool
  { pool with max := size }

/-- The scan of the shrinker: how many pages it has freed, `none` to stop.
SOURCE: nvmap_pp.c:568-582 -/
def nvmapPagePoolScanObjects (nrToScan : ℕ) : Option ℕ × NvmapPagePool :=
  let (remaining, pool) := nvmapPagePoolFreePagesLocked info pool nrToScan
  (if remaining = nrToScan then none else some (nrToScan - remaining), pool)

end

section

variable (info : PageInfo) (enablePp : Bool) (pool : NvmapPagePool) (args : NumaArgs)

/-- What `nvmap_page_pool_alloc_lots` has taken: the pages, and where those start that are not
cleared, and how many. -/
structure TakenPages where
  pages : List ℕ
  nonZeroIdx : ℕ
  nonZeroCnt : ℕ
deriving DecidableEq, Repr

/-- The loop of `nvmap_page_pool_alloc_lots`, for `todo` more pages. -/
def allocLoop : (todo : ℕ) → NvmapPagePool → TakenPages → TakenPages × NvmapPagePool
  | 0, pool, taken => (taken, pool)
  | todo + 1, pool, taken =>
    match if taken.nonZeroCnt = 0 then getPageListPage info pool args else none with
    | some (page, pool) => allocLoop todo pool { taken with pages := taken.pages ++ [page] }
    | none =>
      match getZeroListPage info pool args with
      | none => (taken, pool)
      | some (page, pool) =>
        allocLoop todo pool
          { pages := taken.pages ++ [page]
            nonZeroIdx := if taken.nonZeroCnt = 0 then taken.pages.length else taken.nonZeroIdx
            nonZeroCnt := taken.nonZeroCnt + 1 }

/-- The part of `nvmap_page_pool_alloc_lots` under the lock.
SOURCE: nvmap_pp.c:310-345 -/
def nvmapPagePoolAllocLots (nr : U32) : TakenPages × NvmapPagePool :=
  if !enablePp || nr = 0 then (⟨[], 0, 0⟩, pool)
  else allocLoop info args nr.toNat pool ⟨[], 0, 0⟩

/-- The loop of `nvmap_page_pool_alloc_lots_bp`, for at most `fuel` big pages. -/
def allocBpLoop : (fuel : ℕ) → NvmapPagePool → (nrLeft : ℕ) → List ℕ → List ℕ × NvmapPagePool
  | 0, pool, _, pages => (pages, pool)
  | fuel + 1, pool, nrLeft, pages =>
    if pool.pagesPerBigPg.toNat ≤ nrLeft then
      match getPageListPageBp info pool args with
      | none => (pages, pool)
      | some (page, pool) =>
        allocBpLoop fuel pool (nrLeft - pool.pagesPerBigPg.toNat)
          (pages ++ bigPage pool.pagesPerBigPg.toNat page)
    else (pages, pool)

/-- SOURCE: nvmap_pp.c:361-390 -/
def nvmapPagePoolAllocLotsBp (nr : U32) : List ℕ × NvmapPagePool :=
  if !enablePp || pool.pagesPerBigPg.toNat ≤ 1 || nr < pool.pagesPerBigPg then ([], pool)
  else allocBpLoop info args pool.pageListBp.length pool nr.toNat []

end

section

/-- `PENDING_PAGES_SIZE`: the pages in 1 MiB. -/
def pendingPagesSize (info : PageInfo) : ℕ := 2 ^ 20 / info.pageSize

/-- The first loop of `nvmap_pp_do_background_zero_pages`, for at most `fuel` pages. -/
def takeZeroLoop (info : PageInfo) : (fuel : ℕ) → NvmapPagePool → List ℕ → List ℕ × NvmapPagePool
  | 0, pool, pages => (pages, pool)
  | fuel + 1, pool, pages =>
    match getZeroListPage info pool anyNode with
    | none => (pages, pool)
    | some (page, pool) =>
      takeZeroLoop info fuel { pool with underZero := pool.underZero + 1 } (pages ++ [page])

/-- The first half of `nvmap_pp_do_background_zero_pages` under the lock.
SOURCE: nvmap_pp.c:159-179 -/
def takePendingZeroPages (info : PageInfo) (pool : NvmapPagePool) : List ℕ × NvmapPagePool :=
  takeZeroLoop info (pendingPagesSize info) pool []

/-- The second half: the pages for which there is no room are freed.
SOURCE: nvmap_pp.c:183-190 -/
def putPendingZeroPages (info : PageInfo) (enablePp : Bool) (pool : NvmapPagePool)
    (pages : List ℕ) : Option NvmapPagePool :=
  (nvmapPagePoolFillLotsLocked info enablePp pool pages).map fun r =>
    { r.2 with underZero := r.2.underZero - BitVec.ofNat 32 pages.length }

end

end NvidiaOot.Program
