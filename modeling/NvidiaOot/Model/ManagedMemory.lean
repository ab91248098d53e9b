import NvidiaOot.Library.Ranges
import NvidiaOot.Library.Machine
import NvidiaOot.Program.MemManager

/-!
# Managed memory

`Managed base size alloc free` says what both managers keep: the allocated and the free
chunks together tile the memory, and the free list is sorted with gaps in between.

`memStep` and `iovaStep` are the managers with their clients.  `outstanding` has the handles
that a client has and has not released yet; each is released once, also when the release
fails.
-/

namespace NvidiaOot.Model

open Library Program

def range (c : Chunk) : Range := ⟨c.address.toNat, c.size.toNat⟩

def ranges (l : List Chunk) : List Range := l.map range

def Positive (l : List Chunk) : Prop := ∀ c ∈ l, 0 < (range c).size

structure Managed (base size : ℕ) (alloc free : List Chunk) : Prop where
  /-- Each address is in one chunk, and no chunk goes beyond the memory. -/
  tiles : Tiles base size (ranges (alloc ++ free))
  /-- The free chunks are sorted and do not touch. -/
  apart : Apart (ranges free)
  allocated : Positive alloc
  free : 0 < size → Positive free

/-- An ADSP memory manager with its clients. -/
structure MemRun where
  mm : MemManagerInfo
  outstanding : List Chunk
deriving DecidableEq, Repr

inductive MemOp where
  | request (kzalloc : Bool) (size : U64)
  | release (handle : Chunk)

/-- One call; the size is not zero, and a handle is outstanding. -/
def memStep (s : MemRun) : MemOp → Option MemRun
  | .request kzalloc size =>
    if size = 0 then none
    else
      match memRequest kzalloc size s.mm with
      | (.ok chunk, mm) => some ⟨mm, chunk :: s.outstanding⟩
      | (.error _, mm) => some ⟨mm, s.outstanding⟩
  | .release handle =>
    if handle ∈ s.outstanding then
      some ⟨(memRelease handle s.mm).2, s.outstanding.erase handle⟩
    else none

def newMemRun (startAddress size : U64) : MemRun := ⟨createMemManager startAddress size, []⟩

/-- A released chunk has a free chunk above it. -/
def HasSuccessor (s : MemRun) : MemOp → Prop
  | .request _ _ => True
  | .release handle => ∃ c ∈ s.mm.freeList, handle.address < c.address

instance (s : MemRun) (op : MemOp) : Decidable (HasSuccessor s op) :=
  match op with
  | .request _ _ => isTrue trivial
  | .release handle => inferInstanceAs (Decidable (∃ c ∈ s.mm.freeList, handle.address < c.address))

/-- A chunk went from one list to the other. -/
structure MovedToFree (handle : Chunk) (mm mm' : MemManagerInfo) : Prop where
  allocList : mm'.allocList = mm.allocList.erase handle
  freeList : ∀ x, cover (ranges mm'.freeList) x =
    cover [range handle] x + cover (ranges mm.freeList) x

/-- The manager gives back what it gave out. -/
structure GivesBack (startAddress size : U64) (s : MemRun) : Prop where
  /-- A handle is released, and its bytes are free, if and only if a free chunk lies above. -/
  release : ∀ handle ∈ s.outstanding,
    ((memRelease handle s.mm).1 = true ↔ HasSuccessor s (.release handle)) ∧
      ((memRelease handle s.mm).1 = true → MovedToFree handle s.mm (memRelease handle s.mm).2)
  /-- Once all handles are released, all memory can be requested at once. -/
  all : s.outstanding = [] → s.mm.allocList = [] ∧ s.mm.freeList = [⟨startAddress, size⟩] ∧
    (memRequest true size s.mm).1 = .ok ⟨startAddress, size⟩
  /-- The manager frees every chunk if and only if the end of the memory is free. -/
  destroy : destroyMemManager s.mm = some [] ↔
    ∃ c ∈ s.mm.freeList, (range c).stop = startAddress.toNat + size.toNat

structure IovaRun where
  ctx : MngrCtx
  outstanding : List Chunk
deriving DecidableEq, Repr

inductive IovaOp where
  | reserve (kzalloc : Bool) (size : U64) (blockHandle : Option Chunk)
  | release (block : Chunk)

/-- One call; a block that is released is outstanding. -/
def iovaStep (s : IovaRun) : IovaOp → Option IovaRun
  | .reserve kzalloc size blockHandle =>
    match iovaMngrBlockReserve kzalloc size blockHandle s.ctx with
    | (.ok reserved, ctx) => some ⟨ctx, reserved.blockHandle :: s.outstanding⟩
    | (.error _, ctx) => some ⟨ctx, s.outstanding⟩
  | .release block =>
    if block ∈ s.outstanding then
      some ⟨(iovaMngrBlockRelease (some block) s.ctx).2, s.outstanding.erase block⟩
    else none

def DisjointBlocks (a b : Chunk) : Prop :=
  (range a).stop ≤ (range b).start ∨ (range b).stop ≤ (range a).start

/-- What holds of a manager of the region at `base` after any calls. -/
structure IovaGood (base size : U64) (s : IovaRun) : Prop where
  /-- Reserved and free blocks partition the region. -/
  tiles : Tiles base.toNat size.toNat (ranges (s.ctx.reservedList ++ s.ctx.freeList))
  /-- The free list is sorted, and no two of its blocks touch. -/
  apart : Apart (ranges s.ctx.freeList)
  disjoint : s.ctx.reservedList.Pairwise DisjointBlocks
  /-- The address and offset that come with a block are its own. -/
  offset : ∀ kzalloc req blockHandle r ctx',
    iovaMngrBlockReserve kzalloc req blockHandle s.ctx = (.ok r, ctx') →
    r.blockHandle ∈ ctx'.reservedList ∧ r.blockHandle.size = req ∧
      r.address = r.blockHandle.address ∧ base ≤ r.address ∧
      r.offset.toNat = r.address.toNat - base.toNat
  /-- A reservation fails for these reasons only, and changes nothing. -/
  fails : ∀ kzalloc req blockHandle e ctx',
    iovaMngrBlockReserve kzalloc req blockHandle s.ctx = (.error e, ctx') →
    ctx' = s.ctx ∧ (blockHandle ≠ none ∨ req = 0 ∨ kzalloc = false ∨ ∀ c ∈ s.ctx.freeList, c.size < req)
  /-- A release succeeds. -/
  release : ∀ block ∈ s.outstanding, (iovaMngrBlockRelease (some block) s.ctx).1 = 0 ∧
    (iovaMngrBlockRelease (some block) s.ctx).2.reservedList = s.ctx.reservedList.erase block
  /-- With all blocks released the region is one free block. -/
  all : s.outstanding = [] → s.ctx.reservedList = [] ∧ s.ctx.freeList = [⟨base, size⟩]
  /-- The manager frees all blocks when it goes. -/
  deinit : iovaMngrDeinit s.ctx = []

end NvidiaOot.Model
