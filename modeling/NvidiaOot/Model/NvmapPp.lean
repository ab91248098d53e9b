import NvidiaOot.Library.Machine
import NvidiaOot.Program.NvmapPp

/-!
# The page pool and its users

`poolStep` is one critical section of the pool's lock, or what is done between two of them:
the background thread clears the pages that it has taken and puts them back, and an allocation
clears those that were not before it returns.  A page that is in none of these places belongs
to someone who may write to it and who may give it to the pool.

`cleared` and `handedOut` are a trace: which pages were cleared since they were last put into
the pool, and the pages that allocations have returned, with what they were then.
-/

namespace NvidiaOot.Model

open Library Program

section

abbrev PageData := ℕ → U8

def zeroPage : PageData := fun _ => 0

inductive Background where
  | idle
  | taken (pages : List ℕ)
  | zeroed (pages : List ℕ)

/-- A page that an allocation has returned. -/
structure HandedOut where
  page : ℕ
  cleared : Bool
  data : PageData

structure PoolRun where
  pool : NvmapPagePool
  enablePp : Bool
  background : Background
  /-- What was taken by allocations that have not returned yet. -/
  allocs : List TakenPages
  content : ℕ → PageData
  cleared : ℕ → Bool
  handedOut : List HandedOut

inductive PoolOp where
  | fill (shared : ℕ → Bool) (pages : List ℕ)
  | backgroundTake
  | backgroundZero
  | backgroundPut
  | alloc (nr : U32) (args : NumaArgs)
  | allocBp (nr : U32) (args : NumaArgs)
  | allocReturn (i : ℕ)
  | shrink (nrToScan : ℕ)
  | clear
  | resize (size : U32)
  | enable (enablePp : Bool)
  | write (page : ℕ) (data : PageData)

/-- The pages in the lists of cleared pages. -/
def cleanPages (pool : NvmapPagePool) : List ℕ :=
  pool.pageList ++ pool.pageListBp.flatMap (bigPage pool.pagesPerBigPg.toNat)

def poolPages (pool : NvmapPagePool) : List ℕ := pool.zeroList ++ cleanPages pool

def Background.pages : Background → List ℕ
  | .idle => []
  | .taken pages => pages
  | .zeroed pages => pages

def PoolRun.places (s : PoolRun) : List ℕ :=
  poolPages s.pool ++ (s.background.pages ++ s.allocs.flatMap TakenPages.pages)

/-- `nvmap_pp_zero_pages` -/
def PoolRun.zeroPages (s : PoolRun) (pages : List ℕ) : PoolRun :=
  { s with
    content := fun page => if page ∈ pages then zeroPage else s.content page
    cleared := fun page => page ∈ pages || s.cleared page }

/-- The pages that an allocation clears before it returns. -/
def nonZeroPages (taken : TakenPages) : List ℕ :=
  (taken.pages.drop taken.nonZeroIdx).take taken.nonZeroCnt

variable (info : PageInfo)

/-- One step; pages that are given to the pool belong to the caller and are different. -/
def poolStep (s : PoolRun) : PoolOp → Option PoolRun
  | .fill shared pages =>
    if pages.Nodup ∧ ∀ page ∈ pages, page ∉ s.places then
      let r := nvmapPagePoolFillLots s.pool shared pages
      some { s with
        pool := r.2
        cleared := fun page => !(page ∈ pages.take r.1) && s.cleared page }
    else none
  | .backgroundTake =>
    match s.background with
    | .idle =>
      let r := takePendingZeroPages info s.pool
      some { s with pool := r.2, background := .taken r.1 }
    | _ => none
  | .backgroundZero =>
    match s.background with
    | .taken pages => some { s.zeroPages pages with background := .zeroed pages }
    | _ => none
  | .backgroundPut =>
    match s.background with
    | .zeroed pages =>
      (putPendingZeroPages info s.enablePp s.pool pages).map fun pool =>
        { s with pool := pool, background := .idle }
    | _ => none
  | .alloc nr args =>
    let r := nvmapPagePoolAllocLots info s.enablePp s.pool args nr
    some { s with pool := r.2, allocs := s.allocs ++ [r.1] }
  | .allocBp nr args =>
    let r := nvmapPagePoolAllocLotsBp info s.enablePp s.pool args nr
    some { s with pool := r.2, allocs := s.allocs ++ [⟨r.1, 0, 0⟩] }
  | .allocReturn i =>
    s.allocs[i]?.map fun taken =>
      let s := s.zeroPages (nonZeroPages taken)
      { s with
        allocs := s.allocs.eraseIdx i
        handedOut := s.handedOut ++
          taken.pages.map fun page => ⟨page, s.cleared page, s.content page⟩ }
  | .shrink nrToScan => some { s with pool := (nvmapPagePoolScanObjects info s.pool nrToScan).2 }
  | .clear => some { s with pool := nvmapPagePoolClear info s.pool }
  | .resize size => some { s with pool := nvmapPagePoolResize info s.pool size }
  | .enable enablePp => some { s with enablePp := enablePp }
  | .write page data =>
    if page ∉ s.places then some { s with content := Function.update s.content page data }
    else none

/-- An empty pool, for at most `max` pages. -/
def newPool (max bigPgSz pagesPerBigPg : U32) (content : ℕ → PageData) : PoolRun where
  pool := ⟨0, max, 0, 0, bigPgSz, 0, pagesPerBigPg, [], [], []⟩
  enablePp := true
  background := .idle
  allocs := []
  content := content
  cleared _ := false
  handedOut := []

end

/-- The counters say how many pages are in the lists. -/
structure Tally (pool : NvmapPagePool) : Prop where
  count : pool.count.toNat =
    pool.pageList.length + pool.pagesPerBigPg.toNat * pool.pageListBp.length
  bigPageCount : pool.bigPageCount.toNat = pool.pagesPerBigPg.toNat * pool.pageListBp.length
  toZero : pool.toZero.toNat = pool.zeroList.length
  big : 0 < pool.pageListBp.length → 1 < pool.pagesPerBigPg.toNat

structure PoolOk (s : PoolRun) : Prop where
  tally : Tally s.pool
  underZero : s.pool.underZero.toNat = s.background.pages.length
  /-- No page is in two places. -/
  places : s.places.Nodup
  room : s.pool.count.toNat + s.pool.toZero.toNat + s.pool.underZero.toNat ≤ s.pool.max.toNat

/-- How many pages are left when `nr` have been freed, those to be cleared first and the big
ones last, of which the last one may be too much. -/
def leftAfter (pool : NvmapPagePool) (nr : ℕ) : ℕ :=
  (pool.zeroList.length - nr) + (pool.pageList.length - (nr - pool.zeroList.length)) +
    pool.pagesPerBigPg.toNat * (pool.pageListBp.length -
      (nr - pool.zeroList.length - pool.pageList.length + (pool.pagesPerBigPg.toNat - 1)) /
        pool.pagesPerBigPg.toNat)

/-- The new size has room for the pages that are left and for those being cleared. -/
def ResizeFits (s : PoolRun) : PoolOp → Prop
  | .resize size =>
    leftAfter s.pool (s.pool.count.toNat + s.pool.toZero.toNat - size.toNat) +
      s.pool.underZero.toNat ≤ size.toNat
  | _ => True

instance (s : PoolRun) : ∀ op, Decidable (ResizeFits s op)
  | .resize _ => inferInstanceAs (Decidable (_ ≤ _))
  | .fill _ _ | .backgroundTake | .backgroundZero | .backgroundPut | .alloc _ _ | .allocBp _ _
  | .allocReturn _ | .shrink _ | .clear | .enable _ | .write _ _ => isTrue trivial

/-- The page was cleared since it was last put into the pool, and nobody has written to it. -/
def IsClean (s : PoolRun) (page : ℕ) : Prop := s.cleared page = true ∧ s.content page = zeroPage

structure PoolClean (s : PoolRun) : Prop where
  lists : ∀ page ∈ cleanPages s.pool, IsClean s page
  background : ∀ pages, s.background = .zeroed pages → ∀ page ∈ pages, IsClean s page
  allocs : ∀ taken ∈ s.allocs, ∀ page ∈ taken.pages, page ∉ nonZeroPages taken → IsClean s page
  /-- What allocations have returned. -/
  handedOut : ∀ h ∈ s.handedOut, h.cleared = true ∧ h.data = zeroPage

end NvidiaOot.Model
