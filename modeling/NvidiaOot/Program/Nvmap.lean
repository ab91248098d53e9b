import NvidiaOot.Library.LinkedRing
import NvidiaOot.Program.Types

/-!
# Nvmap

The memory manager: heaps and carveouts, sub-ranges of a handle, handles that are shared between processes or virtual
machines, and read-only ones.

Sources are in `drivers/video/tegra/nvmap/`.
-/

namespace NvidiaOot.Program

open Function

/-!
## The IVM heaps of nvmap and the ids of their blocks

An IVM heap is a carveout that two virtual machines share; the one that can allocate from it
names each block by an id of its own, the VM, the offset and the length, from which the other
one finds the block.  A `BUG_ON` that is hit stops the machine: the allocation then has no
result.  The search for free pages is that of the kernel's bitmaps and not defined here.
-/

/-- The page sizes that the kernel can be built with. -/
inductive PageSize where
  | k4
  | k16
  | k64
  deriving DecidableEq

/-- `PAGE_SHIFT` -/
def PageSize.shift : PageSize → ℕ
  | .k4 => 12
  | .k16 => 14
  | .k64 => 16

/-- `~PAGE_MASK` -/
def PageSize.offsetMask (ps : PageSize) : U64 := BitVec.ofNat 64 (2 ^ ps.shift - 1)

/-- `PAGE_ALIGN` -/
def pageAlign (ps : PageSize) (len : U64) : U64 := (len + ps.offsetMask) &&& ~~~ps.offsetMask

/-! ### The layout of an id (nvmap_priv.h:199-213) -/

def nvmapIvmLengthWidth : ℕ := 16
def nvmapIvmOffsetShift : ℕ := 16
def nvmapIvmOffsetWidth : ℕ := 13
def nvmapIvmIvmidShift : ℕ := 29
def nvmapIvmIvmidMask : U32 := 7
def nvmapIvmAlignment : U64 := 0x8000

/-- `ffs(NVMAP_IVM_ALIGNMENT)` -/
def ffsIvmAlignment : ℕ := 16

/-- `struct nvmap_heap` of an IVM carveout. -/
structure NvmapHeap where
  base : U64
  len : U64
  canAlloc : Bool
  peer : U32
  vmId : U32

/-- What an allocation reads of its `struct nvmap_handle`. -/
structure HeapRequest where
  size : U64
  flags : U32
  peer : U32

/-- `NVMAP_HANDLE_INNER_CACHEABLE` and `NVMAP_HANDLE_CACHEABLE` -/
def HeapRequest.cacheable (handle : HeapRequest) : Bool :=
  decide (handle.flags = 2) || decide (handle.flags = 3)

/-- A block of a heap, and what its allocation writes to the handle. -/
structure NvmapHeapBlock where
  base : U64
  /-- The length of the handle. -/
  len : U64
  /-- The length that was taken from the pages of the heap. -/
  size : U64
  offs : U32
  ivmId : U64
  deriving DecidableEq

/--
The id of a block, with its offset as the handle keeps it; none if a `BUG_ON` is hit.

SOURCE: nvmap_heap.c:376-399
-/
def ivmIdOf (ps : PageSize) (h : NvmapHeap) (base len : U64) : Option (U32 × U64) :=
  let offs : U32 := (base - h.base).setWidth 32
  if offs &&& 0x7fff ≠ 0 then none
  else if offs >>> ffsIvmAlignment &&& ~~~0x1fff ≠ 0 then none
  else if h.vmId &&& ~~~nvmapIvmIvmidMask ≠ 0 then none
  else if len &&& ps.offsetMask ≠ 0 then none
  else
    some (offs, h.vmId.setWidth 64 <<< nvmapIvmIvmidShift |||
      ((offs >>> (ffsIvmAlignment - 1)).setWidth 64 &&& 0x1fff) <<< nvmapIvmOffsetShift |||
      len >>> ps.shift)

/-- The number of pages that the allocation of a handle takes.
SOURCE: nvmap_heap.c:261-265, nvmap_init.c:391 -/
def HeapRequest.blockSize (ps : PageSize) (handle : HeapRequest) : U64 :=
  if handle.cacheable then pageAlign ps handle.size else handle.size

def pageCount (ps : PageSize) (size : U64) : ℕ := (pageAlign ps size).toNat / 2 ^ ps.shift

/--
`nvmap_heap_alloc` on an IVM heap without a start address; `search` is the first of the pages
that were found, if any.  The outer result is none if a `BUG_ON` is hit, the inner one if the
function returns `NULL`.

SOURCE: nvmap_heap.c:318-404
-/
def nvmapHeapAlloc (ps : PageSize) (h : NvmapHeap) (handle : HeapRequest) (search : Option ℕ) :
    Option (Option NvmapHeapBlock) :=
  if handle.peer ≠ h.peer then some none
  else if !h.canAlloc then some none
  else
    let size := handle.blockSize ps
    if size.toNat > 2 ^ 32 - 1 then some none
    else if pageCount ps size = 0 then some none
    else
      match search with
      | none => some none
      | some pageno =>
        let base := h.base + BitVec.ofNat 64 (pageno * 2 ^ ps.shift)
        (ivmIdOf ps h base handle.size).map fun id =>
          some ⟨base, handle.size, size, id.1, id.2⟩

/-! ### What an import reads from an id (nvmap_ioctl.c:817-822) -/

def ivcOffs (ivmId : U64) : U64 :=
  ((ivmId &&& ~~~(nvmapIvmIvmidMask.setWidth 64 <<< nvmapIvmIvmidShift)) >>>
    nvmapIvmLengthWidth) <<< (ffsIvmAlignment - 1)

def ivcSize (ps : PageSize) (ivmId : U64) : U64 := (ivmId &&& 0xffff) <<< ps.shift

def ivcPeer (ivmId : U64) : U32 := (ivmId >>> nvmapIvmIvmidShift).setWidth 32

/-!
## Buffers for a range of a list of handles

`nvmap_ioctl_get_fd_from_list` makes a buffer of the pages of other handles, which it keeps alive by
a reference for each handle of the range, and which it finds again by a list that goes through a
node embedded in the handle.
-/

section

open Library

/-- `struct nvmap_handle`, the fields for a range.  `others` are the references that are not for
sub-range buffers; nothing reads them. -/
structure SubHandle where
  ref : ℤ
  others : ℕ
  size : U64
  flags : U32
  heapPgalloc : Bool
  fromVa : Bool
  isRo : Bool
  deriving DecidableEq

/-- `pg_ref` and `pg_ref_h` of a handle. -/
inductive PgNode where
  | ref (k : ℕ)
  | head (k : ℕ)
  deriving DecidableEq

/-- `nvmap_handle_get` (`d = 1`) or `nvmap_handle_put` (`d = -1`) for each handle of a list. -/
def changeRefs (d : ℤ) (ks : List ℕ) (handles : List SubHandle) : List SubHandle :=
  ks.foldl (fun handles k => handles.modify k fun h => { h with ref := h.ref + d }) handles

section

variable (offs sz : U64)

/-- The second loop of `find_range_of_handles`: the handle in which the range ends. -/
def findEnd (start : ℕ) (offsStart : U64) : ℕ → U64 → List U64 → Option (ℕ × ℕ × U64)
  | _, _, [] => none
  | i, remSz, size :: sizes =>
    if remSz + size ≥ sz then some (start, i, offsStart)
    else findEnd start offsStart (i + 1) (remSz + size) sizes

/-- `find_range_of_handles`, for the sizes of the handles: where the range starts and ends, and
`offs_start`.
SOURCE: nvmap_ioctl.c:1537-1579 -/
def findStart : ℕ → U64 → U64 → List U64 → Option (ℕ × ℕ × U64)
  | _, _, _, [] => none
  | i, totSz, offsStart, size :: sizes =>
    if offs > totSz + size then findStart (i + 1) (totSz + size) (offsStart - (totSz + size)) sizes
    else if totSz + size - offs ≥ sz then some (i, i, offsStart)
    else findEnd sz i offsStart (i + 1) (totSz + size - offs) sizes

def findRangeOfHandles (sizes : List U64) : Option (ℕ × ℕ × U64) := findStart offs sz 0 0 offs sizes

/-- The checks of `nvmap_ioctl_get_fd_from_list` on the handles, and the handles of the range, one
for each position of the list that it covers.
SOURCE: nvmap_ioctl.c:1649-1681, nvmap_alloc.c:1281-1288 -/
def subRangeOf (handles : List SubHandle) (ks : List ℕ) : Option (List ℕ) :=
  let hs := ks.filterMap fun k => handles[k]?
  if (hs.map SubHandle.size).sum < offs + sz then none
  else if hs.all fun h => h.heapPgalloc && !h.fromVa && !h.isRo &&
      decide (some h.flags = hs.head?.map SubHandle.flags) then
    (findRangeOfHandles offs sz (hs.map SubHandle.size)).map fun r =>
      (ks.drop r.1).take (r.2.1 + 1 - r.1)
  else none

end

/-- The new handle during the call: its references, the count of the file of its dma-buf, and
whether the client has its reference. -/
structure NewSubHandle where
  ref : ℤ
  files : ℤ
  clientRef : Bool
  deriving DecidableEq

/-- `nvmap_create_handle` -/
def createdSubHandle : NewSubHandle := ⟨2, 1, true⟩

def NewSubHandle.get (h : NewSubHandle) : NewSubHandle := { h with ref := h.ref + 1 }

def NewSubHandle.put (h : NewSubHandle) : NewSubHandle := { h with ref := h.ref - 1 }

def NewSubHandle.getFile (h : NewSubHandle) : NewSubHandle := { h with files := h.files + 1 }

def NewSubHandle.putFile (h : NewSubHandle) : NewSubHandle := { h with files := h.files - 1 }

/-- `nvmap_free_handle`, which does nothing without the reference of the client. -/
def NewSubHandle.free (h : NewSubHandle) : NewSubHandle :=
  if h.clientRef then { h.putFile.put with clientRef := false } else h

/-- The label `free_hs`, for the new handle.
SOURCE: nvmap_ioctl.c:1707-1710 -/
def NewSubHandle.freeHs (h : NewSubHandle) : NewSubHandle := h.put.free

/-- How the descriptor is installed. -/
inductive SubInstall where
  | installed
  | fdFailed
  | copyFailed
  deriving DecidableEq

/-- `nvmap_get_dmabuf_fd` and `nvmap_install_fd`.
SOURCE: nvmap_dmabuf.c:701-715, nvmap_ioctl.c:103-137 -/
def NewSubHandle.install (h : NewSubHandle) : SubInstall → NewSubHandle
  | .installed => h.getFile
  | .fdFailed => h.getFile.putFile.putFile.free
  | .copyFailed => h.getFile.putFile.free

end

/-!
## The sciipc ids of nvmap

A client exports a handle to a peer by an id, and a client of the peer gets the handle from the
id.  The entries are the nodes of an rb-tree, here in their order; a node is its position.  The
functions are those that run under `mlock`; what the functions that they call return is in
`ImportEnv`.
-/

section

variable {η : Type}

/-- `PROT_READ` -/
def protRead : U32 := 1

/-- `struct nvmap_sci_ipc_entry`; nothing reads its client. -/
structure SciIpcEntry (η : Type) where
  handle : η
  sciIpcId : U64
  peerVuid : U64
  flags : U32
  refcount : U32
  deriving DecidableEq

/-- `struct nvmap_sci_ipc`, with the counter of `nvmap_unique_sci_ipc_id`. -/
structure NvmapSciIpc (η : Type) where
  entries : List (SciIpcEntry η)
  freeSidList : List U64
  unqId : U32

/-- The first free id, or the next one of the counter, an `int`.
SOURCE: nvmap_sci_ipc.c:76-99 -/
def nvmapUniqueSciIpcId (s : NvmapSciIpc η) : U64 × NvmapSciIpc η :=
  match s.freeSidList with
  | sid :: rest => (sid, { s with freeSidList := rest })
  | [] => ((s.unqId + 2).signExtend 64, { s with unqId := s.unqId + 2 })

/-- SOURCE: nvmap_sci_ipc.c:101-119 -/
def nvmapSearchSciIpcEntry [DecidableEq η] (entries : List (SciIpcEntry η)) (h : η) (flags : U32)
    (peerVuid : U64) : Option ℕ :=
  entries.findIdx? fun e =>
    decide (e.handle = h) && decide (e.flags = flags) && decide (e.peerVuid = peerVuid)

/-- The new node goes before the first one with a larger id.
SOURCE: nvmap_sci_ipc.c:121-143 -/
def nvmapInsertSciIpcEntry (new : SciIpcEntry η) : List (SciIpcEntry η) → List (SciIpcEntry η)
  | [] => [new]
  | e :: rest =>
    if e.sciIpcId > new.sciIpcId then new :: e :: rest
    else e :: nvmapInsertSciIpcEntry new rest

/--
`nvmap_create_sci_ipc_id` up to the end of its critical section; `node` tells whether the new
entry could be allocated.  The result is the return code and the id; on 0 the function then takes
a reference of the handle.

SOURCE: nvmap_sci_ipc.c:145-189
-/
def nvmapCreateSciIpcId [DecidableEq η] (s : NvmapSciIpc η) (h : η) (flags : U32) (peerVuid : U64)
    (node : Bool) : ℤ × U64 × NvmapSciIpc η :=
  match nvmapSearchSciIpcEntry s.entries h flags peerVuid with
  | some i =>
    match s.entries[i]? with
    | some e =>
      (0, e.sciIpcId, { s with entries := s.entries.set i { e with refcount := e.refcount + 1 } })
    | none => (-eINVAL, 0, s)
  | none =>
    if node then
      let id := nvmapUniqueSciIpcId s
      let new : SciIpcEntry η := ⟨h, id.1, peerVuid, flags, 1⟩
      (0, id.1, { id.2 with entries := nvmapInsertSciIpcEntry new id.2.entries })
    else (-eNOMEM, 0, s)

/-- The entry with an id.  The loop ends with its last entry when none has the id.
SOURCE: nvmap_sci_ipc.c:199-212 -/
def nvmapFindEntryForId (entries : List (SciIpcEntry η)) (id : U64) : Option ℕ :=
  match entries.findIdx? fun e => decide (e.sciIpcId = id) with
  | some i => some i
  | none => if entries = [] then none else some (entries.length - 1)

/-- The read-only dma-buf of a handle: none, one, or what is left of a failed attempt. -/
inductive DmabufRo where
  | null
  | live
  | error
  deriving DecidableEq

/-- What the functions that an import calls return: `__nvmap_make_dmabuf`, `get_file_rcu`, the wait
for the release of the dma-buf, `nvmap_duplicate_handle`, `nvmap_id_array_id_alloc` or
`nvmap_get_dmabuf_fd`, and the allocation of the node for the free id. -/
structure ImportEnv where
  makeDmabuf : ℤ
  getFile : Bool
  roGone : Bool
  duplicate : ℤ
  ida : Bool
  install : ℤ
  sidNode : Bool

/-- A read-only dma-buf of the handle.  There is no result when the error left by a failed attempt
is dereferenced.
SOURCE: nvmap_sci_ipc.c:245-279 -/
def importDmabufRo (env : ImportEnv) : DmabufRo → Option (ℤ × DmabufRo)
  | .null => some (if env.makeDmabuf = 0 then (0, .live) else (env.makeDmabuf, .error))
  | .error => none
  | .live =>
    some (if env.getFile then (0, .live)
      else if env.roGone then
        if env.makeDmabuf = 0 then (0, .live) else (env.makeDmabuf, .error)
      else (-eINVAL, .live))

/-- What an import does: its return code, the handle that `*handle` is set for, the handle of
which it drops a reference, and the entry that it removes. -/
structure ImportResult (η : Type) where
  ret : ℤ
  handle : Option η
  put : Option η
  erased : Option (SciIpcEntry η)
  sys : NvmapSciIpc η
  ro : η → DmabufRo

/-- The count of an entry goes down; at zero the entry is removed and its id is free.
SOURCE: nvmap_sci_ipc.c:329-343 -/
def dropSciIpcEntry (s : NvmapSciIpc η) (i : ℕ) (e : SciIpcEntry η) (sidNode : Bool) :
    ℤ × Option (SciIpcEntry η) × NvmapSciIpc η :=
  if e.refcount - 1 = 0 then
    if sidNode then
      (0, some e, { s with
        entries := s.entries.eraseIdx i
        freeSidList := s.freeSidList ++ [e.sciIpcId] })
    else (-eNOMEM, some e, { s with entries := s.entries.eraseIdx i })
  else (0, none, { s with entries := s.entries.set i { e with refcount := e.refcount - 1 } })

/-- The rest of an import, when its dma-buf is there.
SOURCE: nvmap_sci_ipc.c:281-343 -/
def finishImport (s : NvmapSciIpc η) (ro : η → DmabufRo) (i : ℕ) (e : SciIpcEntry η)
    (env : ImportEnv) : ImportResult η :=
  if env.duplicate ≠ 0 then ⟨-eINVAL, none, none, none, s, ro⟩
  else if env.install < 0 then
    ⟨if env.ida then -eNOMEM else -eINVAL, none, some e.handle, none, s, ro⟩
  else
    let r := dropSciIpcEntry s i e env.sidNode
    ⟨r.1, some e.handle, some e.handle, r.2.1, r.2.2, ro⟩

/--
`nvmap_get_handle_from_sci_ipc_id`; there is no result when it dereferences an error.

SOURCE: nvmap_sci_ipc.c:214-345
-/
def nvmapGetHandleFromSciIpcId [DecidableEq η] (s : NvmapSciIpc η) (ro : η → DmabufRo)
    (flags : U32) (sciIpcId localuVuid : U64) (env : ImportEnv) : Option (ImportResult η) :=
  match (nvmapFindEntryForId s.entries sciIpcId).bind fun i => s.entries[i]?.map fun e => (i, e) with
  | none => some ⟨-eINVAL, none, none, none, s, ro⟩
  | some (i, e) =>
    if e.peerVuid ≠ localuVuid ∨ e.flags ≠ flags then some ⟨-eINVAL, none, none, none, s, ro⟩
    else if flags = protRead then
      (importDmabufRo env (ro e.handle)).map fun r =>
        if r.1 ≠ 0 then ⟨r.1, none, none, none, s, update ro e.handle r.2⟩
        else finishImport s (update ro e.handle r.2) i e env
    else some (finishImport s ro i e env)

end

/-!
## Read-only handles of nvmap

A dma-buf says in its info whether it is read-only, and so do a reference of a client and a handle.
The checks of the ioctls on them are given here, and the pages that a sub-range buffer gets.
-/

/-- `NVMAP_HANDLE_RO` -/
def nvmapHandleRo : U32 := 0x200

/-- `struct nvmap_handle`, the fields for the access to its pages; `rw` tells whether its dma-buf
that is not read-only was made, and `vpr` whether its heap is `NVMAP_HEAP_CARVEOUT_VPR`. -/
structure PageHandle where
  size : U64
  flags : U32
  heapPgalloc : Bool
  fromVa : Bool
  isRo : Bool
  vpr : Bool
  rw : Bool
  pages : List ℕ
  deriving DecidableEq

/-- The fields that the checks of `nvmap_ioctl_get_fd_from_list` read. -/
def PageHandle.sub (h : PageHandle) : SubHandle :=
  ⟨0, 0, h.size, h.flags, h.heapPgalloc, h.fromVa, h.isRo⟩

/-- `struct nvmap_handle_info`: the handle that a dma-buf is for, and whether it is read-only. -/
structure DmabufAccess where
  handle : ℕ
  isRo : Bool
  deriving DecidableEq

/-- What `nvmap_ioctl_dup_handle` makes of an id: it refuses to duplicate a read-only one otherwise.
SOURCE: nvmap_ioctl.c:1459-1474 -/
def dupHandleAccess (a : DmabufAccess) (accessFlags : U32) : Option DmabufAccess :=
  if a.isRo = true ∧ accessFlags ≠ nvmapHandleRo then none
  else some ⟨a.handle, decide (accessFlags = nvmapHandleRo)⟩

/-- The checks of `nvmap_ioctl_rw_handle`: `0` when `rw_handle` is called.
SOURCE: nvmap_ioctl.c:530-561 -/
def rwHandleCheck (a : DmabufAccess) (h : PageHandle) (isRead : Bool) : ℤ :=
  if isRead = false ∧ a.isRo = true then -ePERM
  else if isRead = true ∧ h.vpr = true then -ePERM
  else if h.isRo = true ∧ isRead = false then -ePERM
  else 0

section

variable (ps : PageSize)

/-- The loop of `nvmap_assign_pages_per_handle`; there is no result when it reads beyond the pages
of the handle, and the first argument bounds how often it runs.
SOURCE: nvmap_alloc.c:1215-1243 -/
def nvmapAssignPagesPerHandle (pages : List ℕ) : ℕ → U64 → U64 → Option (List ℕ)
  | 0, _, _ => none
  | n + 1, start, last =>
    if start < last then
      pages[(start >>> ps.shift).toNat]?.bind fun p =>
        let next := (start + BitVec.ofNat 64 (2 ^ ps.shift)) &&& ~~~ps.offsetMask
        (nvmapAssignPagesPerHandle pages n (if next < last then next else last) last).map (p :: ·)
    else some []

/-- The loop of `nvmap_assign_pages_to_handle` over the handles of the range.
SOURCE: nvmap_alloc.c:1285-1298 -/
def nvmapAssignPages : List PageHandle → U64 → U64 → Option (List ℕ)
  | [], _, _ => some []
  | h :: hs, start, last =>
    let endCur := if last ≥ h.size then h.size - start else last
    (nvmapAssignPagesPerHandle ps h.pages (h.pages.length + 1) start (start + endCur)).bind fun l =>
      (nvmapAssignPages hs 0 (last - (h.size - start))).map (l ++ ·)

/-- `offs_start` of the range. -/
def rangeStart (offs sz : U64) (hs : List PageHandle) : U64 :=
  ((findRangeOfHandles offs sz (hs.map PageHandle.size)).map fun r => r.2.2).getD 0

end

/-!
## Importing an IVM buffer by its id

`nvmap_ioctl_create_from_ivc` looks for a handle with the id and duplicates it; from a handle
that is on its way out it takes the block and makes a new handle for it.  Here are the parts that
run under one lock or are one store, as functions of the handle that they are about.
-/

/-- `NVMAP_HEAP_CARVEOUT_IVM` -/
def nvmapHeapCarveoutIvm : U32 := 2

/-- Where `_nvmap_handle_free` is for a handle. -/
inductive FreePc where
  | none
  | remove
  | release
  | gone
  deriving DecidableEq

/-- `struct nvmap_handle`: `dmabuf` and `vaddr` tell whether the pointers are set, `fileCount` is
the count of the file of the dma-buf, and a block is a number.  `others` and `fileOthers` are the
references that are held outside of the calls below; nothing reads them. -/
structure IvmHandle where
  ref : ℕ
  alloc : Bool
  heapType : U32
  ivmId : U64
  carveout : Option ℕ
  dmabuf : Bool
  fileCount : ℕ
  vaddr : Bool
  inTree : Bool
  freePc : FreePc
  others : ℕ
  fileOthers : ℕ
  deriving DecidableEq

/-- `nvmap_handle_put`
SOURCE: nvmap_core.c:278-292 -/
def IvmHandle.put (h : IvmHandle) : IvmHandle :=
  { h with ref := h.ref - 1, freePc := if h.ref = 1 then .remove else h.freePc }

/-- `dma_buf_put` -/
def IvmHandle.putFile (h : IvmHandle) : IvmHandle := { h with fileCount := h.fileCount - 1 }

/-- `nvmap_dmabuf_release`, when the last reference of the file is gone.
SOURCE: nvmap_dmabuf.c:287-340 -/
def IvmHandle.releaseDmabuf (h : IvmHandle) : IvmHandle := { h with dmabuf := false }.put

/-- `nvmap_try_duplicate_by_ivmid` under `handle_lock`: the handle that was found gets a reference,
or loses its block if it has none left.
SOURCE: nvmap_handle.c:300-311 -/
def ivmidStrip (h : IvmHandle) : IvmHandle := { h with carveout := none }

def ivmidGet (h : IvmHandle) : IvmHandle := { h with ref := h.ref + 1 }

/-- Whether the dma-buf can still be held.
SOURCE: nvmap_handle.c:334-339 -/
def ivmidHasFile (h : IvmHandle) : Bool := h.dmabuf && decide (h.fileCount ≠ 0)

def ivmidGetFile (h : IvmHandle) : IvmHandle := { h with fileCount := h.fileCount + 1 }

/-- How `nvmap_duplicate_handle` ends: with a reference of the client, a new one or one that it has;
with an error after the reference of the handle was dropped; or with an error without that. -/
inductive DupResult where
  | ok (newRef : Bool)
  | put
  | keep
  deriving DecidableEq

/-- `nvmap_duplicate_handle(client, h, true, false)`; `hasRef` tells whether the client has a
reference of the handle and `mem` whether one can be allocated.
SOURCE: nvmap_handle.c:358-427 -/
def duplicateHandle (h : IvmHandle) (hasRef mem : Bool) : DupResult :=
  if !h.alloc then .put
  else if hasRef then .ok false
  else if !mem then .put
  else if !h.dmabuf then .keep
  else .ok true

/-- The handle after it was duplicated: a new reference holds the dma-buf, and the one that the
search took is dropped. -/
def duplicated (h : IvmHandle) (newRef : Bool) : IvmHandle :=
  (if newRef then { h with fileCount := h.fileCount + 1 } else h).putFile

/-- `nvmap_create_handle`: one reference for the client and one for the dma-buf.
SOURCE: nvmap_handle.c:210-285 -/
def createdHandle : IvmHandle where
  ref := 2
  alloc := false
  heapType := 0
  ivmId := 0
  carveout := none
  dmabuf := true
  fileCount := 1
  vaddr := false
  inTree := true
  freePc := .none
  others := 0
  fileOthers := 0

/-- `nvmap_free_handle`: the reference of the client goes, with its dma-buf when it is the last of
its duplicates.
SOURCE: nvmap_alloc.c:1098-1143 -/
def freeHandle (h : IvmHandle) (lastDupe : Bool) : IvmHandle :=
  (if lastDupe then h.putFile else h).put

/-- How the import ends.  `installed fd`: the handle has an id, or a file descriptor that holds the
dma-buf; `idFailed`: no id, no descriptor, or the id could not be copied to the user; `copyFailed`:
the descriptor could not be; `noBuffer`: there is no dma-buf that a descriptor could be made for. -/
inductive InstallResult where
  | installed (fd : Bool)
  | idFailed
  | copyFailed
  | noBuffer
  deriving DecidableEq

/-- A failed installation: when there is no id, the dma-buf is put before the handle is freed.
SOURCE: nvmap_ioctl.c:848-875, nvmap_ioctl.c:103-137 -/
def installFailed (h : IvmHandle) (newRef extraPut : Bool) : IvmHandle :=
  freeHandle (if extraPut then h.putFile else h) newRef

/-- `_nvmap_handle_free` up to `nvmap_handle_remove`: a handle with a reference stays.
SOURCE: nvmap_handle.c:93-112 -/
def handleRemove (h : IvmHandle) : IvmHandle :=
  if h.ref > 0 then { h with freePc := .none } else { h with inTree := false, freePc := .release }

/-- The rest of `_nvmap_handle_free`: the block that is freed, if any.  There is no result when the
address of a block that is not there is read.
SOURCE: nvmap_alloc.c:1046-1063 -/
def handleRelease (h : IvmHandle) : Option (Option ℕ × IvmHandle) :=
  if !h.alloc then some (none, { h with freePc := .gone })
  else if h.vaddr ∧ h.carveout = none then none
  else some (h.carveout, { h with carveout := none, vaddr := false, freePc := .gone })

/-!
## The mappings of a handle

A mapping lies within its dma-buf, so that sums of offsets are those of the numbers.  Not modelled: the map counts of
the pages.
-/

section

/-- What the calls read of `struct vm_area_struct`: `vm_pgoff`, and the bytes from `vm_start` to `vm_end`. -/
structure VmArea where
  pgoff : ℕ
  size : ℕ

/-- `struct nvmap_vma_list` -/
structure VmaEntry (V : Type) where
  vma : V
  pid : ℕ
  ref : ℤ
  deriving DecidableEq

variable {V : Type} (area : V → VmArea)

/-- The place `tmp_head`, from the entry `i` on: the entry before which the vma is added.
SOURCE: nvmap_fault.c:90-106 -/
def vmaHead (vma : V) (pid : ℕ) : ℕ → ℕ → Bool → List (VmaEntry V) → ℕ
  | _, head, _, [] => head
  | i, head, found, tmp :: rest =>
    if found = false ∧ pid = tmp.pid then
      if (area vma).pgoff < (area tmp.vma).pgoff then vmaHead vma pid (i + 1) i true rest
      else vmaHead vma pid (i + 1) (i + 1) false rest
    else vmaHead vma pid (i + 1) head found rest

/-- The size that a process has mapped, from an entry on.
SOURCE: nvmap_dev.c:661-686 -/
def clientHandleMss (ps : PageSize) (pid : ℕ) : ℤ → ℤ → List (VmaEntry V) → ℤ
  | total, _, [] => total
  | total, endOffset, e :: rest =>
    if pid = e.pid then
      let vmaSize : ℤ := (area e.vma).size
      let vmaStartOffset : ℤ := (area e.vma).pgoff * 2 ^ ps.shift
      if endOffset < vmaStartOffset + vmaSize then
        let overlapSize := endOffset - vmaStartOffset
        clientHandleMss ps pid (total + vmaSize - if overlapSize > 0 then overlapSize else 0) (vmaStartOffset + vmaSize) rest
      else clientHandleMss ps pid total endOffset rest
    else clientHandleMss ps pid total endOffset rest

variable [DecidableEq V]

/-- The first entry of a vma is changed, or removed. -/
def vmaUpdate (vma : V) (f : VmaEntry V → Option (VmaEntry V)) : List (VmaEntry V) → Option (List (VmaEntry V))
  | [] => none
  | e :: rest => if e.vma = vma then some ((f e).toList ++ rest) else (vmaUpdate vma f rest).map (e :: ·)

/-- `nvmap_vma_open`; `mem` tells whether the entry can be allocated.
SOURCE: nvmap_fault.c:80-118 -/
def vmaOpen (vma : V) (pid : ℕ) (mem : Bool) (vmas : List (VmaEntry V)) : List (VmaEntry V) :=
  if mem then
    match vmaUpdate vma (fun e => some { e with ref := e.ref + 1 }) vmas with
    | some vmas' => vmas'
    | none =>
      let head := vmaHead area vma pid 0 vmas.length false vmas
      vmas.take head ++ ⟨vma, pid, 1⟩ :: vmas.drop head
  else vmas

/-- `nvmap_vma_close`, which has no result when it does not find the vma.
SOURCE: nvmap_fault.c:137-147 -/
def vmaClose (vma : V) (vmas : List (VmaEntry V)) : Option (List (VmaEntry V)) :=
  vmaUpdate vma (fun e => if e.ref - 1 = 0 then none else some { e with ref := e.ref - 1 }) vmas

end

end NvidiaOot.Program
