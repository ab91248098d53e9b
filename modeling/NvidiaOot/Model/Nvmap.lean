import Mathlib.Data.Set.Card
import NvidiaOot.Library.Machine
import NvidiaOot.Program.NvmapRefs

/-!
# Runs of the memory manager

Sub-ranges, read-only handles, handles sent to other processes, and the references to them.

Sources are in `drivers/video/tegra/nvmap/`.
-/

namespace NvidiaOot.Model

open Function

/-!
## Sub-range buffers and their sources

Buffers are made for ranges of lists of handles, descriptors of them are duplicated and closed, and
the dma-buf of a buffer is released when its file has no reference left; references of handles come
and go.  Handles are never used again under the same number.
-/

section

open Library Program

/-- A sub-range buffer: its handle, the handles of the positions that it covers, whether its dma-buf
was not yet released, the count of the file of the dma-buf, and its descriptors. -/
structure SubBuffer where
  handle : ℕ
  covered : List ℕ
  live : Bool
  files : ℤ
  fds : ℕ
  deriving DecidableEq

/-- The handles, the sub-range buffers, and the links of the embedded nodes. -/
structure SubRange where
  handles : List SubHandle
  buffers : List SubBuffer
  links : Links PgNode

/-- What a call meets: memory for the lists, the handle, the pages, and the installation. -/
structure SubRangeEnv where
  memOk : Bool
  createOk : Bool
  pagesOk : Bool
  install : SubInstall

/-- What happens next.  The list of a call has `none` for an id that is for no handle. -/
inductive SubRangeOp where
  | newHandle (size : U64) (flags : U32) (heapPgalloc fromVa isRo : Bool) (refs : ℕ)
  | get (k : ℕ)
  | put (k : ℕ)
  | getFdFromList (list : List (Option ℕ)) (offs sz : U64) (env : SubRangeEnv)
  | dupFd (i : ℕ)
  | closeFd (i : ℕ)
  | release (i : ℕ)

section

variable (ps : PageSize) (s : SubRange)

/-- The handles of the list, up to an id that is for none. -/
def validIds (list : List (Option ℕ)) : List ℕ := (list.takeWhile Option.isSome).reduceOption

/-- The new handle and its buffer, after the call. -/
def SubRange.withBuffer (handles : List SubHandle) (covered ks : List ℕ) (sz : U64)
    (new : NewSubHandle) (fds : ℕ) (links : Links PgNode) : SubRange where
  handles := changeRefs (-1) ks handles ++
    [⟨new.ref, 0, pageAlign ps sz, ((ks.head?.bind fun k => s.handles[k]?).map SubHandle.flags).getD 0,
      true, false, false⟩]
  buffers := s.buffers ++ [⟨s.handles.length, covered, true, new.files, fds⟩]
  links := links

def SubRange.putBack (ks : List ℕ) : SubRange :=
  { s with handles := changeRefs (-1) ks (changeRefs 1 ks s.handles) }

/-- The call from the check of the handles on, when the range covers `covered`. -/
def assignStep (ks covered : List ℕ) (sz : U64) (env : SubRangeEnv) : Option SubRange :=
  let links := s.links.initHead (.head s.handles.length)
  if env.pagesOk then
    (Links.addTails (.head s.handles.length) links (covered.map PgNode.ref)).map fun links =>
      s.withBuffer ps (changeRefs 1 covered (changeRefs 1 ks s.handles)) covered ks sz
        (createdSubHandle.get.install env.install).freeHs (if env.install = .installed then 1 else 0)
        links
  else
    some (s.withBuffer ps (changeRefs 1 ks s.handles) [] ks sz createdSubHandle.get.put.freeHs 0 links)

/-- `nvmap_ioctl_get_fd_from_list`.  An id that is for no handle is read like a handle before the
check: the call does not go on, and the references that it has stay.
SOURCE: nvmap_ioctl.c:1581-1715 -/
def getFdFromListStep (list : List (Option ℕ)) (offs sz : U64) (env : SubRangeEnv) : Option SubRange :=
  if list = [] ∨ sz = 0 ∨ env.memOk = false then some s
  else if (validIds list).all fun k => s.handles[k]?.any fun h => decide (0 < h.ref) then
    if none ∈ list then some { s with handles := changeRefs 1 (validIds list) s.handles }
    else
      match subRangeOf offs sz s.handles (validIds list) with
      | some covered =>
        if env.createOk then assignStep ps s (validIds list) covered sz env
        else some (s.putBack (validIds list))
      | none => some (s.putBack (validIds list))
  else none

/-- The handle of a node, when it is one that a list may have. -/
def PgNode.source : PgNode → Option ℕ
  | .ref k => some k
  | .head _ => none

/-- `nvmap_dmabuf_release`: there is no result when the list does not lead back to its head.
SOURCE: nvmap_dmabuf.c:287-340 -/
def releaseSubStep (i : ℕ) : Option SubRange :=
  s.buffers[i]?.bind fun b =>
    if b.live = true ∧ b.files ≤ 0 then
      (s.links.next (.head b.handle)).bind fun cur =>
      (Links.drain (.head b.handle) (s.handles.length + 1) s.links cur).bind fun r =>
      (r.2.mapM PgNode.source).map fun ks =>
        { handles := changeRefs (-1) [b.handle] (changeRefs (-1) ks s.handles)
          buffers := s.buffers.set i { b with live := false }
          links := r.1 }
    else none

def subRangeStep : SubRangeOp → Option SubRange
  | .newHandle size flags heapPgalloc fromVa isRo refs =>
    some { s with handles := s.handles ++ [⟨refs, refs, size, flags, heapPgalloc, fromVa, isRo⟩] }
  | .get k => s.handles[k]?.bind fun h =>
    if 0 < h.ref then
      some { s with handles := s.handles.set k { h with ref := h.ref + 1, others := h.others + 1 } }
    else none
  | .put k => s.handles[k]?.bind fun h =>
    if 0 < h.others then
      some { s with handles := s.handles.set k { h with ref := h.ref - 1, others := h.others - 1 } }
    else none
  | .getFdFromList list offs sz env => getFdFromListStep ps s list offs sz env
  | .dupFd i => s.buffers[i]?.bind fun b =>
    if 0 < b.fds then
      some { s with buffers := s.buffers.set i { b with files := b.files + 1, fds := b.fds + 1 } }
    else none
  | .closeFd i => s.buffers[i]?.bind fun b =>
    if 0 < b.fds then
      some { s with buffers := s.buffers.set i { b with files := b.files - 1, fds := b.fds - 1 } }
    else none
  | .release i => releaseSubStep s i

end

def newSubRange : SubRange := ⟨[], [], ⟨fun _ => none, fun _ => none⟩⟩

/-- The references of a handle that a buffer stands for: one when it is its own handle, and one for
each position that it covers with it. -/
def SubBuffer.holds (b : SubBuffer) (k : ℕ) : ℕ :=
  if b.live then (if b.handle = k then 1 else 0) + b.covered.count k else 0

/-- Each handle has the references of others and one for each live buffer and position, the list
of a live buffer has its sources, and the file of a live buffer has the references of its
descriptors. -/
structure SubRangeOk (s : SubRange) : Prop where
  references : ∀ (k : ℕ) (h : SubHandle), s.handles[k]? = some h →
    h.ref = h.others + ((s.buffers.map fun b => b.holds k).sum : ℕ)
  linked : ∀ b ∈ s.buffers, b.live = true → Ring s.links (.head b.handle) (b.covered.map PgNode.ref)
  files : ∀ b ∈ s.buffers, b.live = true → b.files = b.fds

/-- The calls that keep this: every id is for a handle, and when the new handle is made, there is
memory for the pages, a descriptor, and no handle of the range is in a list already or twice. -/
def SubRangeCareful (s : SubRange) : SubRangeOp → Prop
  | .getFdFromList list offs sz env => (list = [] ∨ sz = 0 ∨ env.memOk = false) ∨
    none ∉ list ∧ ∀ covered ∈ subRangeOf offs sz s.handles (validIds list), env.createOk = true →
      env.pagesOk = true ∧ env.install ≠ .fdFailed ∧ covered.Nodup ∧
        ∀ b ∈ s.buffers, b.live = true → ∀ k ∈ covered, k ∉ b.covered
  | _ => True

instance (s : SubRange) : ∀ op, Decidable (SubRangeCareful s op)
  | .getFdFromList .. => inferInstanceAs (Decidable ((_ ∨ _ ∨ _) ∨ _ ∉ _ ∧ ∀ covered ∈ subRangeOf _ _ _ _,
      _ → _ ∧ _ ∧ _ ∧ ∀ b ∈ s.buffers, _ → ∀ k ∈ covered, _ ∉ _))
  | .newHandle _ _ _ _ _ _ | .get _ | .put _ | .dupFd _ | .closeFd _ | .release _ => isTrue trivial

end

/-!
## What a client can get from read-only buffers

One client calls, and gets descriptors from other processes; the others make handles, export them
and import them.  With `ida` the ids of the client are in an array of its own, else they are
descriptors.
-/

section

open Library Program

/-- What the client exported itself: the id, the handle, the flags and the peer. -/
structure OwnExport where
  sciIpcId : U64
  handle : ℕ
  flags : U32
  peerVuid : U64
  deriving DecidableEq

/-- The handles, what the client has (references, ids, and descriptors), the exports of all clients
and those of this one, and the handles that it has written to with `rw_handle`. -/
structure ReadOnly where
  handles : List PageHandle
  refs : List DmabufAccess
  ids : List DmabufAccess
  fds : List DmabufAccess
  sci : NvmapSciIpc ℕ
  ro : ℕ → DmabufRo
  exports : List OwnExport
  written : List ℕ

/-- Whether `nvmap_duplicate_handle` gives a reference, and whether the id or the descriptor can be
had and told to the caller. -/
structure DupEnv where
  dupOk : Bool
  installOk : Bool

/-- What happens next.  An id is its number in the array, and a descriptor the number of its file. -/
inductive ReadOnlyOp where
  | otherHandle (h : PageHandle)
  | otherExport (k : ℕ) (flags : U32) (peerVuid : U64) (node : Bool)
  | otherImport (flags : U32) (sciIpcId localuVuid : U64) (env : ImportEnv)
  | receive (a : DmabufAccess)
  | dupHandle (x : ℕ) (accessFlags : U32) (env : DupEnv)
  | getFd (x : ℕ) (installOk : Bool)
  | fromFd (j : ℕ) (env : DupEnv)
  | getFdFromList (xs : List ℕ) (offs sz : U64) (env : SubRangeEnv)
  | getSciIpcId (x : ℕ) (flags : U32) (peerVuid : U64) (node : Bool)
  | handleFromSciIpcId (flags : U32) (sciIpcId localuVuid : U64) (env : ImportEnv)
  | rwHandle (x : ℕ) (isRead : Bool)
  | createFromVa (size : U64) (flags : U32) (pages : List ℕ) (env : DupEnv)

section

variable (ps : PageSize) (ida : Bool) (s : ReadOnly)

def ReadOnly.access (x : ℕ) : Option DmabufAccess := if ida then s.ids[x]? else s.fds[x]?

/-- A reference of the client is added, if it has none like it. -/
def ReadOnly.withRef (a : DmabufAccess) : ReadOnly :=
  if a ∈ s.refs then s else { s with refs := s.refs ++ [a] }

def ReadOnly.withId (a : DmabufAccess) : ReadOnly :=
  if ida then { s with ids := s.ids ++ [a] } else { s with fds := s.fds ++ [a] }

/-- The end of the ioctls that make a reference and an id for it.  When there is no id in the array,
the reference is freed again, and when there is no descriptor it stays.
SOURCE: nvmap_ioctl.c:1476-1535 -/
def ReadOnly.duplicate (a : DmabufAccess) (env : DupEnv) : ReadOnly :=
  if env.dupOk then
    if env.installOk then (s.withRef a).withId ida a
    else if ida then s else s.withRef a
  else s

/-- `nvmap_ioctl_dup_handle` -/
def dupHandleStep (x : ℕ) (accessFlags : U32) (env : DupEnv) : ReadOnly :=
  match (s.access ida x).bind fun a => dupHandleAccess a accessFlags with
  | none => s
  | some a => s.duplicate ida a env

/-- `nvmap_ioctl_getfd` -/
def getFdStep (x : ℕ) (installOk : Bool) : ReadOnly :=
  match s.access ida x with
  | none => s
  | some a => if installOk then { s with fds := s.fds ++ [a] } else s

/-- `nvmap_ioctl_create` with `NVMAP_IOC_FROM_FD` -/
def fromFdStep (j : ℕ) (env : DupEnv) : ReadOnly :=
  match s.fds[j]? with
  | none => s
  | some a => s.duplicate ida a env

/-- The sub-range buffer: its handle, and its descriptor if there is one.  Its reference of the
client is freed at the end of the call. -/
def ReadOnly.withSubRange (h : PageHandle) (installed : Bool) : ReadOnly :=
  { s with
    handles := s.handles ++ [h]
    fds := if installed then s.fds ++ [⟨s.handles.length, false⟩] else s.fds }

def ReadOnly.idHandles (xs : List ℕ) : Option (List ℕ) :=
  xs.mapM fun x => (s.access ida x).map DmabufAccess.handle

/-- `nvmap_ioctl_get_fd_from_list`.
SOURCE: nvmap_ioctl.c:1581-1715 -/
def roFdFromListStep (xs : List ℕ) (offs sz : U64) (env : SubRangeEnv) : Option ReadOnly :=
  (s.idHandles ida xs).bind fun ks =>
    match subRangeOf offs sz (s.handles.map PageHandle.sub) ks with
    | none => some s
    | some covered =>
      if env.memOk && env.createOk && decide (sz ≠ 0) then
        let h : PageHandle := ⟨pageAlign ps sz,
          ((ks.head?.bind fun k => s.handles[k]?).map PageHandle.flags).getD 0, true, false, false, false,
          true, []⟩
        if env.pagesOk then
          (nvmapAssignPages ps (covered.filterMap fun k => s.handles[k]?)
            (rangeStart offs sz (ks.filterMap fun k => s.handles[k]?)) sz).map fun pages =>
              s.withSubRange { h with pages := pages } (decide (env.install = .installed))
        else some (s.withSubRange h false)
      else some s

/-- `nvmap_ioctl_get_sci_ipc_id`.
SOURCE: nvmap_ioctl.c:1226-1281 -/
def getSciIpcIdStep (x : ℕ) (flags : U32) (peerVuid : U64) (node : Bool) : ReadOnly :=
  match s.access ida x with
  | none => s
  | some a =>
    if a.isRo = true ∧ flags ≠ protRead then s
    else
      let r := nvmapCreateSciIpcId s.sci a.handle flags peerVuid node
      if r.1 = 0 then
        { s with sci := r.2.2, exports := s.exports ++ [⟨r.2.1, a.handle, flags, peerVuid⟩] }
      else { s with sci := r.2.2 }

/-- `nvmap_ioctl_handle_from_sci_ipc_id` -/
def handleFromSciIpcIdStep (flags : U32) (sciIpcId localuVuid : U64) (env : ImportEnv) :
    Option ReadOnly :=
  (nvmapGetHandleFromSciIpcId s.sci s.ro flags sciIpcId localuVuid env).map
      fun (r : ImportResult ℕ) =>
    let s' : ReadOnly := { s with sci := r.sys, ro := r.ro }
    match r.handle with
    | none => s'
    | some k => (s'.withRef ⟨k, decide (flags = protRead)⟩).withId ida ⟨k, decide (flags = protRead)⟩

/-- `nvmap_ioctl_rw_handle` -/
def rwHandleStep (x : ℕ) (isRead : Bool) : ReadOnly :=
  match s.access ida x with
  | none => s
  | some a =>
    match s.handles[a.handle]? with
    | none => s
    | some h =>
      if rwHandleCheck a h isRead = 0 ∧ isRead = false then { s with written := s.written ++ [a.handle] }
      else s

/-- `nvmap_ioctl_create_from_va` with `NVMAP_HANDLE_RO`: the handle has the pages of the mapping of
the client, and its dma-buf is read-only.
SOURCE: nvmap_ioctl.c:408-482, nvmap_alloc.c:785-820 -/
def createFromVaStep (size : U64) (flags : U32) (pages : List ℕ) (env : DupEnv) : Option ReadOnly :=
  if flags &&& nvmapHandleRo = 0 then none
  else some (({ s with
    handles := s.handles ++ [⟨pageAlign ps size, flags, true, true, true, false, false, pages⟩] } :
      ReadOnly).duplicate ida ⟨s.handles.length, true⟩ env)

def readOnlyStep : ReadOnlyOp → Option ReadOnly
  | .otherHandle h =>
    if h.isRo = true ∧ h.rw = true then none else some { s with handles := s.handles ++ [h] }
  | .otherExport k flags peerVuid node =>
    some { s with sci := (nvmapCreateSciIpcId s.sci k flags peerVuid node).2.2 }
  | .otherImport flags sciIpcId localuVuid env =>
    (nvmapGetHandleFromSciIpcId s.sci s.ro flags sciIpcId localuVuid env).map
      fun (r : ImportResult ℕ) => { s with sci := r.sys, ro := r.ro }
  | .receive a => s.handles[a.handle]?.bind fun h =>
    if a.isRo = true ∨ h.rw = true then some { s with fds := s.fds ++ [a] } else none
  | .dupHandle x accessFlags env => some (dupHandleStep ida s x accessFlags env)
  | .getFd x installOk => some (getFdStep ida s x installOk)
  | .fromFd j env => some (fromFdStep ida s j env)
  | .getFdFromList xs offs sz env => roFdFromListStep ps ida s xs offs sz env
  | .getSciIpcId x flags peerVuid node => some (getSciIpcIdStep ida s x flags peerVuid node)
  | .handleFromSciIpcId flags sciIpcId localuVuid env =>
    handleFromSciIpcIdStep ida s flags sciIpcId localuVuid env
  | .rwHandle x isRead => some (rwHandleStep ida s x isRead)
  | .createFromVa size flags pages env => createFromVaStep ps ida s size flags pages env

end

def newReadOnly : ReadOnly := ⟨[], [], [], [], ⟨[], [], 0⟩, fun _ => .null, [], []⟩

section

variable (P : ℕ → Prop) (s : ReadOnly)

/-- A handle gives access to a page of the buffer. -/
def Touches (k : ℕ) : Prop := ∃ h ∈ s.handles[k]?, ∃ p ∈ h.pages, P p

/-- The client has the buffer only read-only, and has not written to it. -/
structure ReadOnlyOk : Prop where
  held : ∀ a ∈ s.refs ++ s.ids ++ s.fds, Touches P s a.handle → a.isRo = true
  unwritten : ∀ k ∈ s.written, ¬ Touches P s k

/-- What the client gets from others is read-only, it imports what it has exported itself, and the
ranges of its sub-range buffers have no handle with a page of the buffer. -/
def ReadOnlyCareful (ida : Bool) : ReadOnlyOp → Prop
  | .receive a => Touches P s a.handle → a.isRo = true ∨ ∃ h ∈ s.handles[a.handle]?, h.isRo = true
  | .getFdFromList xs offs sz _ => ∀ ks ∈ s.idHandles ida xs,
    ∀ covered ∈ subRangeOf offs sz (s.handles.map PageHandle.sub) ks, ∀ k ∈ covered, ¬ Touches P s k
  | .handleFromSciIpcId flags sciIpcId localuVuid _ =>
    ∀ i ∈ nvmapFindEntryForId s.sci.entries sciIpcId, ∀ e ∈ s.sci.entries[i]?,
      e.peerVuid = localuVuid → e.flags = flags → ⟨sciIpcId, e.handle, flags, localuVuid⟩ ∈ s.exports
  | _ => True

variable [DecidablePred P]

instance (k : ℕ) : Decidable (Touches P s k) :=
  inferInstanceAs (Decidable (∃ h ∈ s.handles[k]?, ∃ p ∈ h.pages, P p))

instance (ida : Bool) : ∀ op, Decidable (ReadOnlyCareful P s ida op)
  | .receive a => inferInstanceAs (Decidable (_ → _ ∨ ∃ h ∈ s.handles[a.handle]?, _))
  | .getFdFromList xs .. => inferInstanceAs (Decidable (∀ ks ∈ s.idHandles ida xs,
      ∀ covered ∈ subRangeOf _ _ _ _, ∀ k ∈ covered, ¬ _))
  | .handleFromSciIpcId .. => inferInstanceAs (Decidable
      (∀ i ∈ nvmapFindEntryForId _ _, ∀ e ∈ s.sci.entries[i]?, _ → _ → _ ∈ s.exports))
  | .otherHandle _ | .otherExport _ _ _ _ | .otherImport _ _ _ _ | .dupHandle _ _ _ | .getFd _ _
  | .fromFd _ _ | .getSciIpcId _ _ _ _ | .rwHandle _ _ | .createFromVa _ _ _ _ => isTrue trivial

end

end

/-!
## Exports and imports of handles

The clients call in any order.  Beside the entries there are the references that exports hold of
the handles, and the history: how often each live id was exported and imported, the same of the
entries that are gone, and the imports that succeeded.
-/

section

open Library Program

variable {η : Type}

/-- An import that succeeded, with the entries just before it. -/
structure Granted (η : Type) where
  flags : U32
  sciIpcId : U64
  localuVuid : U64
  handle : Option η
  entries : List (SciIpcEntry η)
  deriving DecidableEq

/-- How often an entry was exported and imported. -/
structure Uses where
  exported : ℕ
  imported : ℕ
  deriving DecidableEq

/-- The entries, the references that are held for exports, and the history. -/
structure SciIpcState (η : Type) where
  sys : NvmapSciIpc η
  ro : η → DmabufRo
  exportRefs : η → ℤ
  uses : U64 → Uses
  retired : List Uses
  granted : List (Granted η)

/-- A call, or the release of the read-only dma-buf of a handle; `alive` tells whether
`nvmap_handle_get` finds the handle with a reference. -/
inductive SciIpcOp (η : Type) where
  | create (h : η) (flags : U32) (peerVuid : U64) (node alive : Bool)
  | getHandle (flags : U32) (sciIpcId localuVuid : U64) (env : ImportEnv)
  | releaseRo (h : η)

section

variable [DecidableEq η] (s : SciIpcState η)

/-- What the history has of an id after an export. -/
def usesAfterExport (h : η) (flags : U32) (peerVuid : U64) (id : U64) : Uses :=
  match nvmapSearchSciIpcEntry s.sys.entries h flags peerVuid with
  | some _ => { s.uses id with exported := (s.uses id).exported + 1 }
  | none => ⟨1, 0⟩

/-- `nvmap_create_sci_ipc_id`.
SOURCE: nvmap_sci_ipc.c:145-197 -/
def createStep (h : η) (flags : U32) (peerVuid : U64) (node alive : Bool) : SciIpcState η :=
  let r := nvmapCreateSciIpcId s.sys h flags peerVuid node
  if r.1 = 0 then
    if alive then
      { s with
        sys := r.2.2
        exportRefs := update s.exportRefs h (s.exportRefs h + 1)
        uses := update s.uses r.2.1 (usesAfterExport s h flags peerVuid r.2.1) }
    else { s with sys := r.2.2 }
  else s

/-- The references after an import has dropped one. -/
def putRef (refs : η → ℤ) : Option η → η → ℤ
  | some h => update refs h (refs h - 1)
  | none => refs

/-- The history of an id after an import. -/
def usesAfterImport (id : U64) (ret : ℤ) : Uses :=
  if ret = 0 then { s.uses id with imported := (s.uses id).imported + 1 } else s.uses id

def getHandleStep (flags : U32) (sciIpcId localuVuid : U64) (env : ImportEnv) :
    Option (SciIpcState η) :=
  (nvmapGetHandleFromSciIpcId s.sys s.ro flags sciIpcId localuVuid env).map
      fun (r : ImportResult η) =>
    { sys := r.sys
      ro := r.ro
      exportRefs := putRef s.exportRefs r.put
      uses := update s.uses sciIpcId (usesAfterImport s sciIpcId r.ret)
      retired := s.retired ++ (r.erased.map fun _ => usesAfterImport s sciIpcId r.ret).toList
      granted :=
        if r.ret = 0 then s.granted ++ [⟨flags, sciIpcId, localuVuid, r.handle, s.sys.entries⟩]
        else s.granted }

def sciIpcStep : SciIpcOp η → Option (SciIpcState η)
  | .create h flags peerVuid node alive => some (createStep s h flags peerVuid node alive)
  | .getHandle flags sciIpcId localuVuid env => getHandleStep s flags sciIpcId localuVuid env
  | .releaseRo h => some { s with ro := update s.ro h .null }

def newSciIpc (η : Type) : SciIpcState η :=
  ⟨⟨[], [], 0⟩, fun _ => .null, fun _ => 0, fun _ => ⟨0, 0⟩, [], []⟩

/-- The counts of the entries of a handle. -/
def heldBy (entries : List (SciIpcEntry η)) (h : η) : ℤ :=
  (entries.map fun e => if e.handle = h then (e.refcount.toNat : ℤ) else 0).sum

/-- Nothing that an import calls fails. -/
def Works (env : ImportEnv) : Prop :=
  env.makeDmabuf = 0 ∧ (env.getFile = true ∨ env.roGone = true) ∧ env.duplicate = 0 ∧
    0 ≤ env.install ∧ env.sidNode = true

/-- The entries agree with the references and with the history. -/
structure SciIpcOk : Prop where
  /-- An import that succeeds finds its entry, and returns the handle of it. -/
  granted : ∀ g ∈ s.granted, ∃ e ∈ g.entries, e.sciIpcId = g.sciIpcId ∧ e.flags = g.flags ∧
    e.peerVuid = g.localuVuid ∧ g.handle = some e.handle
  distinct : (s.sys.entries.map SciIpcEntry.sciIpcId).Nodup
  nonzero : ∀ e ∈ s.sys.entries, e.sciIpcId ≠ 0
  /-- A live entry can be imported as often as its exports are ahead of its imports. -/
  live : ∀ e ∈ s.sys.entries, 0 < e.refcount.toNat ∧
    (s.uses e.sciIpcId).imported + e.refcount.toNat = (s.uses e.sciIpcId).exported
  retired : ∀ u ∈ s.retired, u.imported = u.exported
  importable : ∀ e ∈ s.sys.entries, ∀ env, Works env →
    (nvmapGetHandleFromSciIpcId s.sys s.ro e.flags e.sciIpcId e.peerVuid env).map
      (fun r => (r.ret, r.handle)) = some (0, some e.handle)
  references : ∀ h, s.exportRefs h = heldBy s.sys.entries h

/-- The last entry, which a search for an id that no entry has ends with, does not pass for the
entry of that id. -/
def IdKnown (flags : U32) (sciIpcId localuVuid : U64) : Prop :=
  sciIpcId ∉ s.sys.entries.map SciIpcEntry.sciIpcId →
    ∀ e ∈ s.sys.entries.getLast?, e.peerVuid ≠ localuVuid ∨ e.flags ≠ flags

/-- The steps that keep the entries right. -/
def SciIpcCareful : SciIpcOp η → Prop
  | .create h flags peerVuid _ alive =>
    alive = true ∧ (∀ e ∈ s.sys.entries, e.handle = h → e.flags = flags → e.peerVuid = peerVuid →
      e.refcount ≠ -1) ∧ (s.sys.freeSidList = [] → s.sys.unqId ≠ -2)
  | .getHandle flags sciIpcId localuVuid env =>
    IdKnown s flags sciIpcId localuVuid ∧ (flags = protRead → env.makeDmabuf = 0) ∧
      (env.duplicate = 0 → 0 ≤ env.install) ∧ env.sidNode = true
  | .releaseRo _ => True

instance SciIpcCareful.decidable (op : SciIpcOp η) : Decidable (SciIpcCareful s op) :=
  match op with
  | .create .. => inferInstanceAs (Decidable (_ ∧ _ ∧ _))
  | .getHandle .. =>
    inferInstanceAs (Decidable ((_ → ∀ e ∈ s.sys.entries.getLast?, _ ∨ _) ∧ (_ → _) ∧ (_ → _) ∧ _))
  | .releaseRo _ => isTrue trivial

end

end

/-!
## Runs of the calls that make and drop references of nvmap

Any number of clients call one after another, and pass descriptors to each other.  With `ida` the
ids are in an array of each client, else they are descriptors.
-/

section

open Library Program

inductive RefOp where
  | create (c : ℕ) (env : RefEnv)
  | createFromVa (c : ℕ) (isRo allocOk : Bool) (env : RefEnv)
  | fromFd (c n : ℕ) (env : RefEnv)
  | dupHandle (c n : ℕ) (accessFlags : U32) (makeOk : Bool) (env : RefEnv)
  | alloc (c n : ℕ) (env : RefEnv)
  | getfd (c n : ℕ) (env : RefEnv)
  | free (c n : ℕ) (env : RefEnv)
  | close (c : ℕ)
  | passFd (c n c' n' : ℕ)
  | closeFd (c n : ℕ)

def newNvmapRefs : NvmapRefs := ⟨fun _ => .unused, 0, .empty, .empty, .empty⟩

section

variable (ida : Bool) (s : NvmapRefs)

/-- The calls: whether they succeed, and what is left before `fput` has done its work. -/
def refCall : RefOp → Bool × NvmapRefs
  | .create c env => nvmapIoctlCreate ida s c env
  | .createFromVa c isRo allocOk env => nvmapIoctlCreateFromVa ida s c env isRo allocOk
  | .fromFd c n env => nvmapIoctlFromFd ida s c n env
  | .dupHandle c n accessFlags makeOk env => nvmapIoctlDupHandle ida s c n env accessFlags makeOk
  | .alloc c n env => nvmapIoctlAlloc ida s c n env
  | .getfd c n env => nvmapIoctlGetfd ida s c n env
  | .free c n env => nvmapIoctlFree ida s c n env
  | .close c => (true, destroyClient s c)
  | .passFd c n c' n' => Program.passFd s c n c' n'
  | .closeFd c n => Program.closeFd s c n

/-- New ids are from `U32_MAX / 2` on and new descriptors below, and not in use. -/
def NamesFree (c : ℕ) (id fd : Option ℕ) : Prop :=
  (∀ n ∈ id, 0x7fffffff ≤ n ∧ n < 2 ^ 32 ∧ s.findId c n = none) ∧
    ∀ n ∈ fd, n < 0x7fffffff ∧ s.findFd c n = none

instance (c : ℕ) (id fd : Option ℕ) : Decidable (NamesFree s c id fd) := by
  unfold NamesFree
  infer_instance

/-- The client, the id and the descriptor of a call that makes them. -/
def RefOp.names : RefOp → ℕ × Option ℕ × Option ℕ
  | .create c env => (c, env.id, env.fd)
  | .createFromVa c _ _ env => (c, env.id, env.fd)
  | .fromFd c _ env => (c, env.id, env.fd)
  | .dupHandle c _ _ _ env => (c, env.id, env.fd)
  | .getfd c _ env => (c, none, env.fd)
  | .passFd _ _ c' n' => (c', none, some n')
  | .alloc c _ _ => (c, none, none)
  | .free c _ _ => (c, none, none)
  | .close c => (c, none, none)
  | .closeFd c _ => (c, none, none)

def refStep (op : RefOp) : Option NvmapRefs :=
  if NamesFree s op.names.1 op.names.2.1 op.names.2.2 then some (refCall ida s op).2.settle else none

end

section

variable (s s' : NvmapRefs)

/-- The sum of `dupes` over all references to a handle. -/
def dupesOf (k : ℕ) : ℤ := s.refs.sum fun r => if r.buf.handle = k then r.dupes else 0

/-- The references of the kind of a dma-buf, and the descriptors of it. -/
def refsOf (b : DmabufAccess) : ℤ := s.refs.sum fun r => if r.buf = b then 1 else 0

def fdsOf (b : DmabufAccess) : ℤ := s.fds.sum fun e => if e.buf = b then 1 else 0

def liveOf (k : ℕ) : ℤ :=
  ((s.dmabuf ⟨k, false⟩).live.toNat : ℤ) + (s.dmabuf ⟨k, true⟩).live.toNat

/-- The counts of a handle are those of what refers to it, and its memory was freed once if there is
nothing left, and not else. -/
structure HandleCounted (k : ℕ) : Prop where
  ref : (s.handles k).ref = dupesOf s k + liveOf s k
  files : ∀ isRo, (s.dmabuf ⟨k, isRo⟩).files = refsOf s ⟨k, isRo⟩ + fdsOf s ⟨k, isRo⟩
  freed : (s.handles k).freed = if dupesOf s k = 0 ∧ liveOf s k = 0 then 1 else 0

def RefsOk : Prop := ∀ k < s.next, HandleCounted s k

/-- Two states have the same counts of a handle. -/
structure SameCounts (k : ℕ) : Prop where
  ref : (s'.handles k).ref = (s.handles k).ref
  dupes : dupesOf s' k = dupesOf s k
  live : ∀ isRo, (s'.dmabuf ⟨k, isRo⟩).live = (s.dmabuf ⟨k, isRo⟩).live
  files : ∀ isRo, (s'.dmabuf ⟨k, isRo⟩).files = (s.dmabuf ⟨k, isRo⟩).files
  refs : ∀ isRo, refsOf s' ⟨k, isRo⟩ = refsOf s ⟨k, isRo⟩
  fds : ∀ isRo, fdsOf s' ⟨k, isRo⟩ = fdsOf s ⟨k, isRo⟩
  freed : (s'.handles k).freed = (s.handles k).freed

/-- All counts are as before, and a handle made meanwhile is freed again. -/
def CountsKept : Prop :=
  (∀ k < s.next, SameCounts s s' k) ∧ ∀ k, s.next ≤ k → k < s'.next → (s'.handles k).freed = 1

end

section

variable (ida : Bool) (s : NvmapRefs)

def CanDuplicate (c : ℕ) (b : DmabufAccess) (env : RefEnv) : Prop :=
  (s.handles b.handle).alloc = true ∧
    (env.mem = true ∨ (nvmapValidateLocked s c b env.reached).isSome = true)

instance (c : ℕ) (b : DmabufAccess) (env : RefEnv) : Decidable (CanDuplicate s c b env) := by
  unfold CanDuplicate
  infer_instance

/-- There is an id or a descriptor, and the caller is told. -/
def Told (env : RefEnv) : Prop :=
  env.copyOk = true ∧ if ida then env.id.isSome = true else env.fd.isSome = true

instance (env : RefEnv) : Decidable (Told ida env) := by
  unfold Told
  infer_instance

/-- No call fails when it has the reference.  There are two exceptions: a new handle is freed anyway
when ids are in an array, and without one a reference that the client had before outlasts that the
caller cannot be told.  Besides, no read-only dma-buf is asked for again when the one before could
not be made, and with ids in an array no descriptor of a dma-buf of nvmap is taken for an id. -/
def RefsCareful : RefOp → Prop
  | .create _ env => ida = true ∨ env.mem = false ∨ Told ida env
  | .createFromVa _ _ allocOk env => ida = true ∨ env.mem = false ∨ allocOk = false ∨ Told ida env
  | .fromFd c n env =>
    ∀ b ∈ s.fdBuf c n, CanDuplicate s c b env → Told ida env ∨
      ida = false ∧ env.fd.isSome = true ∧ (nvmapValidateLocked s c b env.reached).isSome = true
  | .dupHandle c n accessFlags makeOk env =>
    ∀ a ∈ s.idBuf c n ida, ∀ b ∈ dupHandleAccess a accessFlags,
      (b.isRo = true → s.dmabuf b ≠ .err) ∧
        (CanDuplicate s c b env → (b.isRo = true → s.dmabuf b = .null → makeOk = true) → Told ida env)
  | .getfd c n _ => ida = true → s.fdBuf c n = none
  | _ => True

instance (op : RefOp) : Decidable (RefsCareful ida s op) := by
  cases op <;> unfold RefsCareful <;> infer_instance

end

end

/-!
## The mappings of one handle
-/

section

open Program Function

variable {V : Type} [DecidableEq V] (area : V → VmArea)

/-- The handle; `bug` tells whether the `BUG_ON` was hit.  Beside it are the opens that have no close yet, and the
process of the first one for each vma. -/
structure VmaRun (V : Type) where
  vmas : List (VmaEntry V)
  umapCount : ℤ
  bug : Bool
  opened : List V
  owner : V → ℕ

def newVmaRun : VmaRun V := ⟨[], 0, false, [], fun _ => 0⟩

inductive VmaOp (V : Type)
  | open (pid : ℕ) (vma : V) (mem : Bool)
  | close (vma : V)

/-- A close is for an open before it. -/
def vmaStep (s : VmaRun V) : VmaOp V → Option (VmaRun V)
  | .open pid vma mem => some
    { s with
      vmas := vmaOpen area vma pid mem s.vmas
      umapCount := s.umapCount + 1
      opened := vma :: s.opened
      owner := if vma ∈ s.opened then s.owner else update s.owner vma pid }
  | .close vma =>
    if vma ∈ s.opened then
      some (match vmaClose vma s.vmas with
        | some vmas => { s with vmas := vmas, umapCount := s.umapCount - 1, opened := s.opened.erase vma }
        | none => { s with bug := true })
    else none

/-- The offsets that a process has mapped. -/
def mappedOffsets (ps : PageSize) (s : VmaRun V) (pid : ℕ) : Set ℕ :=
  {x | ∃ v ∈ s.opened, s.owner v = pid ∧
    (area v).pgoff * 2 ^ ps.shift ≤ x ∧ x < (area v).pgoff * 2 ^ ps.shift + (area v).size}

/-- What holds of a handle between the calls. -/
structure VmaSound (ps : PageSize) (s : VmaRun V) : Prop where
  alive : s.bug = false
  once : (s.vmas.map VmaEntry.vma).Nodup
  tracked : ∀ v, v ∈ s.opened ↔ ∃ e ∈ s.vmas, e.vma = v
  counted : ∀ e ∈ s.vmas, e.ref = s.opened.count e.vma ∧ e.pid = s.owner e.vma
  sorted : ∀ pid, ((s.vmas.filter fun e => e.pid = pid).map fun e => (area e.vma).pgoff).Pairwise (· ≤ ·)
  umaps : s.umapCount = s.opened.length
  mss : ∀ pid, clientHandleMss area ps pid 0 0 s.vmas = (mappedOffsets area ps s pid).ncard

/-- The entry can be allocated. -/
def VmaCareful (_ : VmaRun V) : VmaOp V → Prop
  | .open _ _ mem => mem = true
  | .close _ => True

instance (s : VmaRun V) : DecidablePred (VmaCareful s)
  | .open .. => inferInstanceAs (Decidable (_ = _))
  | .close _ => inferInstanceAs (Decidable True)

end

end NvidiaOot.Model
