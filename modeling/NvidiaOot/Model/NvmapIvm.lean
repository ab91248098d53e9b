import NvidiaOot.Library.Machine
import NvidiaOot.Program.Nvmap

/-!
# Memory shared between virtual machines

The identifiers of the handles, and their import.
-/

namespace NvidiaOot.Model

/-!
## The blocks of a virtual machine and their ids

A VM allocates from its IVM heaps and frees; every heap has a bitmap of its pages.
-/

section

open Library Program

/-- A virtual machine with the IVM heaps that it has with its peers. -/
structure IvmVm where
  ps : PageSize
  nrCarveouts : ℕ
  vmId : U32
  heaps : Fin nrCarveouts → NvmapHeap
  /-- The heaps are made with the id of the guest. -/
  guest : ∀ i, (heaps i).vmId = vmId
  /-- The memory of a heap ends within the address space. -/
  inMemory : ∀ i, (heaps i).base.toNat + (heaps i).len.toNat ≤ 2 ^ 64

/-- A block with the heap that it is of. -/
structure IvmBlock (n : ℕ) where
  heap : Fin n
  block : NvmapHeapBlock
  deriving DecidableEq

/-- The bitmaps and the blocks that are allocated. -/
structure IvmState (n : ℕ) where
  bitmap : Fin n → ℕ → Bool
  live : List (IvmBlock n)

/-- An allocation, with the pages that the search of each bitmap finds; or block `k` is freed. -/
inductive IvmOp (n : ℕ) where
  | alloc (handle : HeapRequest) (search : Fin n → Option ℕ)
  | free (k : ℕ)

section

variable (vm : IvmVm)

/-- `do_nvmap_carveout_alloc` aligns the size of the handle.
SOURCE: drivers/video/tegra/nvmap/nvmap_carveout.c:243-244 -/
def alignRequest (handle : HeapRequest) : HeapRequest :=
  { handle with size := (handle.size + (nvmapIvmAlignment - 1)) &&& ~~~(nvmapIvmAlignment - 1) }

/-- `do_nvmap_carveout_alloc`: the first heap that has a block.
SOURCE: drivers/video/tegra/nvmap/nvmap_carveout.c:227-252 -/
def carveoutAllocFrom (handle : HeapRequest) (search : Fin vm.nrCarveouts → Option ℕ) :
    List (Fin vm.nrCarveouts) → Option (Option (IvmBlock vm.nrCarveouts))
  | [] => some none
  | i :: rest =>
    (nvmapHeapAlloc vm.ps (vm.heaps i) handle (search i)).bind fun b =>
      match b with
      | none => carveoutAllocFrom handle search rest
      | some block => some (some ⟨i, block⟩)

/-- Pages that a search may find: clear ones inside the heap. -/
def FreePages (s : IvmState vm.nrCarveouts) (i : Fin vm.nrCarveouts) (pageno count : ℕ) : Prop :=
  pageno + count ≤ (vm.heaps i).len.toNat / 2 ^ vm.ps.shift ∧
    ∀ k < count, s.bitmap i (pageno + k) = false

def SearchOk (s : IvmState vm.nrCarveouts) (handle : HeapRequest)
    (search : Fin vm.nrCarveouts → Option ℕ) : Prop :=
  ∀ i, ∀ pageno ∈ search i, FreePages vm s i pageno (pageCount vm.ps (handle.blockSize vm.ps))

instance (s : IvmState vm.nrCarveouts) (i : Fin vm.nrCarveouts) (pageno count : ℕ) :
    Decidable (FreePages vm s i pageno count) :=
  inferInstanceAs (Decidable (_ ∧ _))

instance (s : IvmState vm.nrCarveouts) (handle : HeapRequest)
    (search : Fin vm.nrCarveouts → Option ℕ) : Decidable (SearchOk vm s handle search) :=
  inferInstanceAs (Decidable (∀ i, ∀ pageno ∈ search i, FreePages vm s i pageno _))

def pageOf (b : IvmBlock vm.nrCarveouts) : ℕ :=
  (b.block.base - (vm.heaps b.heap).base).toNat / 2 ^ vm.ps.shift

/-- `bitmap_set` and `bitmap_clear` on the pages of a block. -/
def markPages (s : IvmState vm.nrCarveouts) (b : IvmBlock vm.nrCarveouts) (value : Bool) :
    Fin vm.nrCarveouts → ℕ → Bool := fun i p =>
  if i = b.heap ∧ pageOf vm b ≤ p ∧ p < pageOf vm b + pageCount vm.ps b.block.size then value
  else s.bitmap i p

def ivmStep (s : IvmState vm.nrCarveouts) : IvmOp vm.nrCarveouts → Option (IvmState vm.nrCarveouts)
  | .alloc handle search =>
    let handle := alignRequest handle
    if SearchOk vm s handle search then
      (carveoutAllocFrom vm handle search (List.finRange vm.nrCarveouts)).map fun b =>
        match b with
        | none => s
        | some b => ⟨markPages vm s b true, b :: s.live⟩
    else none
  | .free k => s.live[k]?.map fun b => ⟨markPages vm s b false, s.live.eraseIdx k⟩

def newIvm (n : ℕ) : IvmState n := ⟨fun _ _ => false, []⟩

def offsetOf (b : IvmBlock vm.nrCarveouts) : U64 := b.block.base - (vm.heaps b.heap).base

/-- The id of the block says where it is, how long it is and whose it is. -/
structure Decodes (b : IvmBlock vm.nrCarveouts) : Prop where
  offs : ivcOffs b.block.ivmId = offsetOf vm b
  size : ivcSize vm.ps b.block.ivmId = b.block.len
  peer : ivcPeer b.block.ivmId = vm.vmId

/-- The ids round-trip and tell the blocks apart. -/
structure IdsOk (s : IvmState vm.nrCarveouts) : Prop where
  decodes : ∀ b ∈ s.live, Decodes vm b
  apart : s.live.Pairwise fun b b' => b.block.ivmId ≠ b'.block.ivmId

/-- The offset and the length of each block fit their fields, and two blocks of different heaps
differ in one of them. -/
structure FieldsFit (s : IvmState vm.nrCarveouts) : Prop where
  offset : ∀ b ∈ s.live, (offsetOf vm b).toNat < 2 ^ 28
  length : ∀ b ∈ s.live, b.block.len.toNat < 2 ^ (16 + vm.ps.shift)
  heaps : s.live.Pairwise fun b b' =>
    b.heap ≠ b'.heap → offsetOf vm b ≠ offsetOf vm b' ∨ b.block.len ≠ b'.block.len

end

end

/-!
## Imports by id and the owners of blocks

Any number of imports run at once, part by part, while references of the handles are dropped and
handles are freed.  Handles and blocks are never used again under the same number.
-/

section

open Library Program

/-- Where an import is.  `strip` has the block of a handle whose reference it is going to put,
`create` the block for a new handle, if any; from `allocBlock` to `storeAlloc` the new handle is
being filled, and `block` is what is still to be stored to it. -/
inductive ImportPc where
  | lookup
  | found (k : ℕ)
  | dup (k : ℕ) (block : Option ℕ)
  | strip (k : ℕ) (block : Option ℕ)
  | create (block : Option ℕ)
  | allocBlock (k : ℕ)
  | storeId (k : ℕ) (block : Option ℕ)
  | storeBlock (k : ℕ) (block : Option ℕ)
  | storeAlloc (k : ℕ)
  | install (k : ℕ) (newRef : Bool)
  | returned (handle : Option ℕ)
  deriving DecidableEq

/-- A call of `nvmap_ioctl_create_from_ivc`. -/
structure ImportCall where
  ivmId : U64
  pc : ImportPc
  deriving DecidableEq

/-- The handles, the calls, the number of blocks that were allocated and those that were freed. -/
structure IvmImport where
  handles : List IvmHandle
  calls : List ImportCall
  nextBlock : ℕ
  freed : List ℕ

/-- What happens next: a call begins, or makes its next part with what it meets: the handle that the
search comes to, whether the client has a reference of it, whether memory is there, how the
installation ends.  Others drop a reference of a handle or of its dma-buf, take one of which they
have some, map the handle, the dma-buf is released, or the free goes on.  Handles are also made elsewhere. -/
inductive IvmImportOp where
  | begin (ivmId : U64)
  | lookup (t : ℕ) (choice : Option ℕ)
  | found (t : ℕ)
  | dup (t : ℕ) (hasRef mem : Bool)
  | strip (t : ℕ)
  | create (t : ℕ) (mem : Bool)
  | allocBlock (t : ℕ) (room : Bool)
  | storeId (t : ℕ)
  | storeBlock (t : ℕ)
  | storeAlloc (t : ℕ)
  | install (t : ℕ) (result : InstallResult)
  | put (k : ℕ)
  | get (k : ℕ)
  | putFile (k : ℕ)
  | getFile (k : ℕ)
  | releaseDmabuf (k : ℕ)
  | mapKernel (k : ℕ)
  | free (k : ℕ)
  | newHandle (heapType : U32) (ivmId : U64) (hasBlock : Bool)

section

variable (s : IvmImport)

/-- Call `t` changes handle `k` and goes on. -/
def IvmImport.advance (t : ℕ) (c : ImportCall) (k : ℕ) (h : IvmHandle) (pc : ImportPc) : IvmImport :=
  { s with handles := s.handles.set k h, calls := s.calls.set t { c with pc := pc } }

/-- The search under `handle_lock`: a handle of the tree with the id, when there is one. -/
def lookupStep (t : ℕ) (c : ImportCall) : Option ℕ → Option IvmImport
  | none =>
    if s.handles.all fun h => !(h.inTree && decide (h.ivmId = c.ivmId)) then
      some { s with calls := s.calls.set t { c with pc := .create none } }
    else none
  | some k =>
    s.handles[k]?.bind fun h =>
      if h.inTree = true ∧ h.ivmId = c.ivmId then
        some (if h.ref = 0 then s.advance t c k (ivmidStrip h) (.create h.carveout)
          else s.advance t c k (ivmidGet h) (.found k))
      else none

/-- `nvmap_try_duplicate_by_ivmid` under the lock of the handle. -/
def foundStep (t : ℕ) (c : ImportCall) (k : ℕ) (h : IvmHandle) : IvmImport :=
  if ivmidHasFile h then s.advance t c k (ivmidGetFile h) (.dup k h.carveout)
  else s.advance t c k (ivmidStrip h) (.strip k h.carveout)

/-- The duplication; an error leaves the block that was noted before. -/
def dupStep (t : ℕ) (c : ImportCall) (k : ℕ) (block : Option ℕ) (h : IvmHandle) (hasRef mem : Bool) :
    IvmImport :=
  match duplicateHandle h hasRef mem with
  | .ok newRef => s.advance t c k (duplicated h newRef) (.install k newRef)
  | .put => s.advance t c k h.put (.create block)
  | .keep => s.advance t c k h (.create block)

/-- A new handle, or the block is freed; an id without a length asks for a handle without size. -/
def makeHandleStep (t : ℕ) (c : ImportCall) (block : Option ℕ) (mem : Bool) : IvmImport :=
  if mem = true ∧ c.ivmId &&& 0xffff ≠ 0 then
    { s with
      handles := s.handles ++ [createdHandle]
      calls := s.calls.set t { c with pc :=
        match block with
        | none => .allocBlock s.handles.length
        | some b => .storeId s.handles.length (some b) } }
  else
    { s with
      calls := s.calls.set t { c with pc := .returned none }
      freed := s.freed ++ block.toList }

/-- A block of the heap for the handle. -/
def allocBlockStep (t : ℕ) (c : ImportCall) (k : ℕ) (h : IvmHandle) (room : Bool) : IvmImport :=
  if room then
    { s.advance t c k { h with carveout := some s.nextBlock } (.storeId k none) with
      nextBlock := s.nextBlock + 1 }
  else s.advance t c k (freeHandle h true) (.returned none)

/-- The end of the import: an id or a descriptor is made for the dma-buf, and without one nothing is
undone on the way of the descriptor. -/
def installStep (t : ℕ) (c : ImportCall) (k : ℕ) (newRef : Bool) (h : IvmHandle) :
    InstallResult → Option IvmImport
  | .installed fd =>
    if h.dmabuf then
      some (s.advance t c k
        { h with
          fileCount := h.fileCount + fd.toNat
          others := h.others + 1
          fileOthers := h.fileOthers + newRef.toNat + fd.toNat }
        (.returned (some k)))
    else none
  | .idFailed => some (s.advance t c k (installFailed h newRef true) (.returned none))
  | .copyFailed =>
    if h.dmabuf then some (s.advance t c k (installFailed h newRef false) (.returned none)) else none
  | .noBuffer => if h.dmabuf then none else some (s.advance t c k h (.returned none))

/-- The next part of a call, when it is the one that the operation names. -/
def importPartStep (t : ℕ) (c : ImportCall) : IvmImportOp → Option IvmImport
  | .lookup _ choice => match c.pc with
    | .lookup => lookupStep s t c choice
    | _ => none
  | .found _ => match c.pc with
    | .found k => s.handles[k]?.map (foundStep s t c k)
    | _ => none
  | .dup _ hasRef mem => match c.pc with
    | .dup k block => s.handles[k]?.map fun h => dupStep s t c k block h hasRef mem
    | _ => none
  | .strip _ => match c.pc with
    | .strip k block => s.handles[k]?.map fun h => s.advance t c k h.put (.create block)
    | _ => none
  | .create _ mem => match c.pc with
    | .create block => some (makeHandleStep s t c block mem)
    | _ => none
  | .allocBlock _ room => match c.pc with
    | .allocBlock k => s.handles[k]?.map fun h => allocBlockStep s t c k h room
    | _ => none
  | .storeId _ => match c.pc with
    | .storeId k block => s.handles[k]?.map fun h =>
      s.advance t c k { h with heapType := nvmapHeapCarveoutIvm, ivmId := c.ivmId }
        (.storeBlock k block)
    | _ => none
  | .storeBlock _ => match c.pc with
    | .storeBlock k block => s.handles[k]?.map fun h =>
      s.advance t c k { h with carveout := block.or h.carveout } (.storeAlloc k)
    | _ => none
  | .storeAlloc _ => match c.pc with
    | .storeAlloc k => s.handles[k]?.map fun h =>
      s.advance t c k { h with alloc := true } (.install k true)
    | _ => none
  | .install _ result => match c.pc with
    | .install k newRef => s.handles[k]?.bind fun h => installStep s t c k newRef h result
    | _ => none
  | _ => none

def otherStep (h : IvmHandle) : IvmImportOp → Option IvmHandle
  | .put _ => if 0 < h.others then some { h.put with others := h.others - 1 } else none
  | .get _ =>
    if 0 < h.others then some { h with ref := h.ref + 1, others := h.others + 1 } else none
  | .putFile _ =>
    if 0 < h.fileOthers then some { h.putFile with fileOthers := h.fileOthers - 1 } else none
  | .getFile _ =>
    if 0 < h.fileOthers then
      some { h with fileCount := h.fileCount + 1, fileOthers := h.fileOthers + 1 }
    else none
  | .releaseDmabuf _ => if h.dmabuf = true ∧ h.fileCount = 0 then some h.releaseDmabuf else none
  | .mapKernel _ => if 0 < h.others then some { h with vaddr := true } else none
  | _ => none

def freeStep (k : ℕ) (h : IvmHandle) : Option IvmImport :=
  match h.freePc with
  | .remove => some { s with handles := s.handles.set k (handleRemove h) }
  | .release => (handleRelease h).map fun r =>
    { s with handles := s.handles.set k r.2, freed := s.freed ++ r.1.toList }
  | _ => none

/-- A handle that is allocated elsewhere: only blocks of IVM heaps have an id. -/
def madeHandle (heapType : U32) (ivmId : U64) (block : Option ℕ) : IvmHandle :=
  { createdHandle with
    alloc := true
    heapType := heapType
    ivmId := ivmId
    carveout := block
    others := 1
    fileOthers := 1 }

def newHandleStep (heapType : U32) (ivmId : U64) (hasBlock : Bool) : Option IvmImport :=
  if ivmId ≠ 0 → heapType = nvmapHeapCarveoutIvm then
    some { s with
      handles := s.handles ++
        [madeHandle heapType ivmId (if hasBlock then some s.nextBlock else none)]
      nextBlock := s.nextBlock + hasBlock.toNat }
  else none

def ivmImportStep (op : IvmImportOp) : Option IvmImport :=
  match op with
  | .begin ivmId => some { s with calls := s.calls ++ [⟨ivmId, .lookup⟩] }
  | .lookup t _ | .found t | .dup t _ _ | .strip t | .create t _ | .allocBlock t _ | .storeId t
  | .storeBlock t | .storeAlloc t | .install t _ => s.calls[t]?.bind fun c => importPartStep s t c op
  | .put k | .get k | .putFile k | .getFile k | .releaseDmabuf k | .mapKernel k =>
    s.handles[k]?.bind fun h => (otherStep h op).map fun h' =>
      { s with handles := s.handles.set k h' }
  | .free k => s.handles[k]?.bind fun h => freeStep s k h
  | .newHandle heapType ivmId hasBlock => newHandleStep s heapType ivmId hasBlock

end

def newIvmImport : IvmImport := ⟨[], [], 0, []⟩

/-- The block that a call has in its hands. -/
def ImportPc.hand : ImportPc → Option ℕ
  | .strip _ block => block
  | .create block => block
  | .storeId _ block => block
  | .storeBlock _ block => block
  | _ => none

/-- The handle that a call has a reference of. -/
def ImportPc.holds : ImportPc → Option ℕ
  | .found k => some k
  | .dup k _ => some k
  | .strip k _ => some k
  | .allocBlock k => some k
  | .storeId k _ => some k
  | .storeBlock k _ => some k
  | .storeAlloc k => some k
  | .install k _ => some k
  | _ => none

/-- The handle of whose dma-buf it has a reference. -/
def ImportPc.holdsFile : ImportPc → Option ℕ
  | .dup k _ => some k
  | .allocBlock k => some k
  | .storeId k _ => some k
  | .storeBlock k _ => some k
  | .storeAlloc k => some k
  | .install k true => some k
  | _ => none

/-- The owners that a block has, or had: handles, calls and the heap that it went back to. -/
def ownersOf (s : IvmImport) (b : ℕ) : ℕ :=
  s.handles.countP (fun h => decide (h.carveout = some b)) +
    s.calls.countP (fun c => decide (c.pc.hand = some b)) + s.freed.count b

/-- Imports return what was asked for, each block has one owner until it is freed once, a handle
that is gone keeps none, and the references of a handle are those of its dma-buf, of the calls that
hold one and of others. -/
structure ImportsOk (s : IvmImport) : Prop where
  returned : ∀ c ∈ s.calls, ∀ k, c.pc = .returned (some k) → ∃ h, s.handles[k]? = some h ∧
    h.heapType = nvmapHeapCarveoutIvm ∧ h.ivmId = c.ivmId
  blocks : ∀ b, b < s.nextBlock → ownersOf s b = 1
  gone : ∀ (k : ℕ) (h : IvmHandle), s.handles[k]? = some h → h.freePc = .gone → h.carveout = none
  references : ∀ k h, s.handles[k]? = some h →
    h.ref = h.others + h.dmabuf.toNat + s.calls.countP (fun c => decide (c.pc.holds = some k))
  files : ∀ k h, s.handles[k]? = some h →
    h.fileCount = h.fileOthers + s.calls.countP (fun c => decide (c.pc.holdsFile = some k))

/-- The steps that keep the blocks and the references right. -/
def ImportCareful (s : IvmImport) : IvmImportOp → Prop
  | .lookup t choice => choice ≠ none → ∀ c ∈ s.calls[t]?, c.ivmId ≠ 0
  | .dup t hasRef mem => ∀ c ∈ s.calls[t]?, ∀ h ∈ c.pc.holds.bind fun k => s.handles[k]?,
    h.alloc = true ∧ (hasRef = true ∨ mem = true)
  | .install _ result => result ≠ .idFailed ∧ result ≠ .noBuffer
  | _ => True

instance (s : IvmImport) : ∀ op, Decidable (ImportCareful s op)
  | .lookup t _ => inferInstanceAs (Decidable (_ → ∀ c ∈ s.calls[t]?, _))
  | .dup t .. => inferInstanceAs (Decidable (∀ c ∈ s.calls[t]?, ∀ h ∈ Option.bind _ _, _ ∧ (_ ∨ _)))
  | .install .. => inferInstanceAs (Decidable (_ ∧ _))
  | .begin _ | .found _ | .strip _ | .create _ _ | .allocBlock _ _ | .storeId _ | .storeBlock _
  | .storeAlloc _ | .put _ | .get _ | .putFile _ | .getFile _ | .releaseDmabuf _ | .mapKernel _
  | .free _ | .newHandle _ _ _ => isTrue trivial

end

end NvidiaOot.Model
