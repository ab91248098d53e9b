import NvidiaOot.Program.Types

/-!
# Memory managers of nvscic2c-pcie

A list of free and reserved blocks, and the two managers that are built like it.

Sources are in `drivers/platform/tegra/nvadsp/`.
-/

namespace NvidiaOot.Program

/-!
## Lists of free chunks

The ADSP memory manager and the IOVA manager keep free memory the same way: a list of
chunks by address, from which the best fit is taken, and into which a chunk is put back before
the first chunk with a higher address and merged with its neighbours.

A pointer to a chunk is modelled by the chunk: an allocated chunk does not change, and no
two chunks of a manager have the same address.
-/

/-- `struct mem_chunk`, `struct block_t` -/
structure Chunk where
  address : U64
  size : U64
deriving DecidableEq, Repr

/-- One chunk in the search for the best fit. -/
def betterMatch (size : U64) (best : Option Chunk) (chunk : Chunk) : Option Chunk :=
  if size ≤ chunk.size then
    match best with
    | none => some chunk
    | some b => if chunk.size < b.size then some chunk else some b
  else best

/-- The first of the smallest chunks that are large enough.
SOURCE: mem_manager.c:36-44,
drivers/misc/nvscic2c-pcie/iova-mngr.c:101-108 -/
def bestMatch (size : U64) (freeList : List Chunk) : Option Chunk :=
  freeList.foldl (betterMatch size) none

/-- The rest of a chunk of which `size` bytes were taken. -/
def Chunk.rest (chunk : Chunk) (size : U64) : Chunk := ⟨chunk.address + size, chunk.size - size⟩

/-- The chunk `free` goes before `curr`; `visited` has the chunks before it, last one first.
SOURCE: mem_manager.c:110-146,
drivers/misc/nvscic2c-pcie/iova-mngr.c:171-207 -/
def mergeBefore (free curr : Chunk) (visited rest : List Chunk) : List Chunk :=
  if curr.address = free.address + free.size then
    let curr : Chunk := ⟨free.address, curr.size + free.size⟩
    match visited with
    | prev :: before =>
      if prev.address + prev.size = curr.address then
        before.reverse ++ ⟨prev.address, prev.size + curr.size⟩ :: rest
      else visited.reverse ++ curr :: rest
    | [] => curr :: rest
  else
    match visited with
    | prev :: before =>
      if prev.address + prev.size = free.address then
        before.reverse ++ ⟨prev.address, prev.size + free.size⟩ :: curr :: rest
      else visited.reverse ++ free :: curr :: rest
    | [] => free :: curr :: rest

/-- The loop over the free list; nothing, when no chunk has a higher address. -/
def insertFree (free : Chunk) : (visited : List Chunk) → List Chunk → Option (List Chunk)
  | _, [] => none
  | visited, curr :: rest =>
    if free.address < curr.address then some (mergeBefore free curr visited rest)
    else insertFree free (curr :: visited) rest

/-!
## The ADSP memory manager

Allocated and free chunks are in two lists.  `kzalloc` says whether the record of a new
chunk could be allocated.  Names are left out: only the debug output reads them.
-/

/-- The lists of a manager.
SOURCE: mem_manager.h -/
structure MemManagerInfo where
  allocList : List Chunk
  freeList : List Chunk
deriving DecidableEq, Repr

/-- A manager whose memory is all free.
SOURCE: mem_manager.c:224-282 -/
def createMemManager (startAddress size : U64) : MemManagerInfo := ⟨[], [⟨startAddress, size⟩]⟩

/-- Put a chunk before the first one with a higher address, when there is one. -/
def insertAlloc (chunk : Chunk) : List Chunk → Option (List Chunk)
  | [] => none
  | c :: rest =>
    if chunk.address < c.address then some (chunk :: c :: rest)
    else (insertAlloc chunk rest).map (c :: ·)

/--
Take the best fit: as a whole, then it is moved to the other list, or its first part.

SOURCE: mem_manager.c:16-92
-/
def memRequest (kzalloc : Bool) (size : U64) (mm : MemManagerInfo) : Except ℤ Chunk × MemManagerInfo :=
  match bestMatch size mm.freeList with
  -- also when the list is empty
  | none => (.error (-eNOMEM), mm)
  | some best =>
    if best.size = size then
      (.ok best,
        { freeList := mm.freeList.erase best
          allocList := (insertAlloc best mm.allocList).getD (best :: mm.allocList) })
    else if !kzalloc then (.error (-eNOMEM), mm)
    else
      let chunk : Chunk := ⟨best.address, size⟩
      (.ok chunk,
        { freeList := mm.freeList.replace best (best.rest size)
          allocList := (insertAlloc chunk mm.allocList).getD (mm.allocList ++ [chunk]) })

/--
Put a chunk back.  Without a free chunk at a higher address it stays allocated.

SOURCE: mem_manager.c:97-154
-/
def memRelease (chunk : Chunk) (mm : MemManagerInfo) : Bool × MemManagerInfo :=
  match insertFree chunk [] mm.freeList with
  | none => (false, mm)
  | some freeList => (true, { freeList := freeList, allocList := mm.allocList.erase chunk })

/-- SOURCE: mem_manager.c:210-222 -/
def clearAllocList (mm : MemManagerInfo) : MemManagerInfo :=
  mm.allocList.foldl (fun mm chunk => (memRelease chunk mm).2) mm

/-- Clear the allocated list and free the first free chunk: the chunks that are not freed.
Nothing, when the free list is empty: then its head is taken for a chunk.
SOURCE: mem_manager.c:284-301 -/
def destroyMemManager (mm : MemManagerInfo) : Option (List Chunk) :=
  let mm := clearAllocList mm
  match mm.freeList with
  | [] => none
  | _ :: rest => some (mm.allocList ++ rest)

/-!
## The IOVA manager of nvscic2c-pcie

Free and reserved blocks are in two lists; a block handle is a block or `none` for `NULL`.
`kzalloc` says whether the record of a new block could be allocated.
-/

/-- `struct mngr_ctx_t`, without its name and lock.
SOURCE: drivers/misc/nvscic2c-pcie/iova-mngr.c:44-72 -/
structure MngrCtx where
  freeList : List Chunk
  reservedList : List Chunk
  baseAddress : U64
deriving DecidableEq, Repr

/-- A manager whose blocks are all free, or the refusal of an empty region.
SOURCE: drivers/misc/nvscic2c-pcie/iova-mngr.c:282-339 -/
def iovaMngrInit (baseAddress size : U64) : Except ℤ MngrCtx :=
  if baseAddress = 0 ∨ size = 0 then .error (-eINVAL)
  else .ok ⟨[⟨baseAddress, size⟩], [], baseAddress⟩

/-- A reserved block as the caller sees it. -/
structure Reserved where
  blockHandle : Chunk
  address : U64
  offset : U64
deriving DecidableEq, Repr

/-- What is returned of a block. -/
def MngrCtx.reserved (ctx : MngrCtx) (found : Chunk) : Reserved :=
  ⟨found, found.address, found.address - ctx.baseAddress⟩

/--
Reserve the best fit.

SOURCE: drivers/misc/nvscic2c-pcie/iova-mngr.c:73-148
-/
def iovaMngrBlockReserve (kzalloc : Bool) (size : U64) (blockHandle : Option Chunk) (ctx : MngrCtx) :
    Except ℤ Reserved × MngrCtx :=
  if blockHandle ≠ none ∨ size = 0 then (.error (-eINVAL), ctx)
  else
    match bestMatch size ctx.freeList with
    -- also when the list is empty
    | none => (.error (-eNOMEM), ctx)
    | some best =>
      if best.size = size then
        (.ok (ctx.reserved best),
          { ctx with
            freeList := ctx.freeList.erase best
            reservedList := ctx.reservedList ++ [best] })
      else if !kzalloc then (.error (-eNOMEM), ctx)
      else
        let reserve : Chunk := ⟨best.address, size⟩
        (.ok (ctx.reserved reserve),
          { ctx with
            freeList := ctx.freeList.replace best (best.rest size)
            reservedList := ctx.reservedList ++ [reserve] })

/-- A block above all free ones: merged with the last one, or put behind it. -/
def insertLast (release : Chunk) (freeList : List Chunk) : List Chunk :=
  match freeList.getLast? with
  | none => [release]
  | some last =>
    if last.address + last.size = release.address then
      freeList.dropLast ++ [⟨last.address, last.size + release.size⟩]
    else freeList ++ [release]

/--
Put a block back.

SOURCE: drivers/misc/nvscic2c-pcie/iova-mngr.c:150-243
-/
def iovaMngrBlockRelease (blockHandle : Option Chunk) (ctx : MngrCtx) : ℤ × MngrCtx :=
  match blockHandle with
  | none => (-eINVAL, ctx)
  | some release =>
    (0, { ctx with
      freeList := (insertFree release [] ctx.freeList).getD (insertLast release ctx.freeList)
      reservedList := ctx.reservedList.erase release })

/-- Release the reserved blocks and free the free ones: the blocks that are not freed.
SOURCE: drivers/misc/nvscic2c-pcie/iova-mngr.c:341-378 -/
def iovaMngrDeinit (ctx : MngrCtx) : List Chunk :=
  (ctx.reservedList.foldl (fun ctx block => (iovaMngrBlockRelease (some block) ctx).2) ctx).reservedList

end NvidiaOot.Program
