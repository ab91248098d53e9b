import NvidiaOot.Library.Slots
import NvidiaOot.Program.Nvmap

/-!
# References to handles and dma-bufs of nvmap

A handle counts the duplications of the references that clients have to it and its dma-bufs; the
file of a dma-buf counts the references of its kind and the descriptors.  `fput` puts off what a
file count of zero brings about until the call returns, see `NvmapRefs.settle`.

Sources are in `drivers/video/tegra/nvmap/`.
-/

namespace NvidiaOot.Program

open Library Function

/-- `dmabuf` or `dmabuf_ro` of a handle: `NULL`, the error that `__nvmap_make_dmabuf` returned, or a
dma-buf with the count of its file. -/
inductive DmabufPtr where
  | null
  | err
  | buf (files : ℤ)
  deriving DecidableEq

def DmabufPtr.files : DmabufPtr → ℤ
  | .null => 0
  | .err => 0
  | .buf n => n

def DmabufPtr.live : DmabufPtr → Bool
  | .null => false
  | .err => false
  | .buf _ => true

def DmabufPtr.count (d : ℤ) : DmabufPtr → DmabufPtr
  | .null => .null
  | .err => .err
  | .buf n => .buf (n + d)

/-- `struct nvmap_handle`, the fields for its references; `dmabuf true` is `dmabuf_ro`, and `freed`
counts how often its memory was freed. -/
structure CountedHandle where
  ref : ℤ
  alloc : Bool
  dmabuf : Bool → DmabufPtr
  freed : ℕ

/-- Memory that was not allocated yet. -/
def CountedHandle.unused : CountedHandle := ⟨0, false, fun _ => .null, 0⟩

def CountedHandle.get (h : CountedHandle) : CountedHandle := { h with ref := h.ref + 1 }

/-- `nvmap_handle_put`, which frees the handle with its last reference.
SOURCE: nvmap_core.c:277-292 -/
def CountedHandle.put (h : CountedHandle) : CountedHandle :=
  { h with ref := h.ref - 1, freed := if h.ref - 1 = 0 then h.freed + 1 else h.freed }

def CountedHandle.setAlloc (h : CountedHandle) : CountedHandle := { h with alloc := true }

def CountedHandle.setDmabuf (isRo : Bool) (p : DmabufPtr) (h : CountedHandle) : CountedHandle :=
  { h with dmabuf := update h.dmabuf isRo p }

/-- `get_dma_buf` and `dma_buf_put` -/
def CountedHandle.countFile (isRo : Bool) (d : ℤ) (h : CountedHandle) : CountedHandle :=
  h.setDmabuf isRo ((h.dmabuf isRo).count d)

/-- `nvmap_dmabuf_release`, when nobody has the file any more.
SOURCE: nvmap_dmabuf.c:289-338 -/
def CountedHandle.release (isRo : Bool) (h : CountedHandle) : CountedHandle :=
  if (h.dmabuf isRo).live = true ∧ (h.dmabuf isRo).files ≤ 0 then (h.setDmabuf isRo .null).put else h

/-- `struct nvmap_handle_ref` in the tree of a client. -/
structure ClientRef where
  client : ℕ
  buf : DmabufAccess
  dupes : ℤ
  deriving DecidableEq

/-- An id in the array of a client, or a descriptor of its process, and the dma-buf it is for. -/
structure NamedBuf where
  client : ℕ
  name : ℕ
  buf : DmabufAccess
  deriving DecidableEq

/-- The handles by the order in which they are made, the number of those made so far, and the
references, ids and descriptors of all clients. -/
structure NvmapRefs where
  handles : ℕ → CountedHandle
  next : ℕ
  refs : Slots ClientRef
  ids : Slots NamedBuf
  fds : Slots NamedBuf

/-- What a call meets: whether memory can be had, the id and the descriptor that it gets, whether
`copy_to_user` succeeds, and where the search in the tree of references gets to. -/
structure RefEnv where
  mem : Bool
  id : Option ℕ
  fd : Option ℕ
  copyOk : Bool
  reached : Option ℕ
  reachedLater : Option ℕ

section

variable (s : NvmapRefs) (c k n i : ℕ) (b : DmabufAccess)

def NvmapRefs.onHandle (f : CountedHandle → CountedHandle) : NvmapRefs :=
  { s with handles := update s.handles k (f (s.handles k)) }

def NvmapRefs.dmabuf : DmabufPtr := (s.handles b.handle).dmabuf b.isRo

/-- `nvmap_handle_get`
SOURCE: nvmap_core.c:256-275 -/
def nvmapHandleGet : Option NvmapRefs :=
  if (s.handles k).ref + 1 ≤ 1 then none else some (s.onHandle k .get)

def nvmapHandlePut : NvmapRefs := s.onHandle k .put

def getDmaBuf : NvmapRefs := s.onHandle b.handle (.countFile b.isRo 1)

def dmaBufPut : NvmapRefs := s.onHandle b.handle (.countFile b.isRo (-1))

/-- What `fput` put off: the dma-bufs whose files nobody has are released. -/
def NvmapRefs.settle : NvmapRefs :=
  { s with handles := fun k => ((s.handles k).release false).release true }

/-- `__nvmap_make_dmabuf`
SOURCE: nvmap_dmabuf.c:604-641 -/
def nvmapMakeDmabuf (mem : Bool) : Option NvmapRefs :=
  if mem then
    (nvmapHandleGet s b.handle).map fun s => s.onHandle b.handle (.setDmabuf b.isRo (.buf 1))
  else none

/-- `__nvmap_validate_locked`.  Where the client has references of both kinds to the handle, the
search goes left from one of the other kind, and where it gets to depends on the shape of the tree.
SOURCE: nvmap_handle.c:42-61 -/
def nvmapValidateLocked (reached : Option ℕ) : Option ℕ :=
  let same (r : ClientRef) : Bool := decide (r.client = c ∧ r.buf = b)
  let other (r : ClientRef) : Bool :=
    decide (r.client = c ∧ r.buf.handle = b.handle ∧ r.buf.isRo ≠ b.isRo)
  match reached with
  | some i => if (s.refs.get i).any same then some i else s.refs.find same
  | none => if (s.refs.find other).isSome then none else s.refs.find same

/-- A new `nvmap_handle_ref` and `add_handle_ref` -/
def addHandleRef : NvmapRefs := { s with refs := s.refs.push ⟨c, b, 1⟩ }

/-- `atomic_inc` and `atomic_dec` of `dupes` -/
def addDupes (d : ℤ) : NvmapRefs :=
  match s.refs.get i with
  | none => s
  | some r => { s with refs := s.refs.put i (some { r with dupes := r.dupes + d }) }

/-- `rb_erase` and `kfree` of a reference -/
def eraseHandleRef : NvmapRefs := { s with refs := s.refs.put i none }

/-- `nvmap_create_handle`: the reference and the handle.
SOURCE: nvmap_handle.c:213-283 -/
def nvmapCreateHandle (isRo mem : Bool) : Option (ℕ × NvmapRefs) :=
  if mem then
    let h : CountedHandle := { CountedHandle.unused with ref := 1 }
    let s' : NvmapRefs :=
      { s with handles := update s.handles s.next h, next := s.next + 1 }
    (nvmapMakeDmabuf s' ⟨s.next, isRo⟩ true).map fun s' =>
      (s.refs.list.length, addHandleRef s' c ⟨s.next, isRo⟩)
  else none

/-- `nvmap_duplicate_handle`: the reference if there is one, and whether it is new.
SOURCE: nvmap_handle.c:360-427 -/
def nvmapDuplicateHandle (env : RefEnv) : Option (ℕ × Bool) × NvmapRefs :=
  match nvmapHandleGet s b.handle with
  | none => (none, s)
  | some s' =>
    if (s'.handles b.handle).alloc = false then (none, nvmapHandlePut s' b.handle)
    else
      match nvmapValidateLocked s' c b env.reached with
      | some i => (some (i, false), addDupes s' i 1)
      | none =>
        if env.mem = false then (none, nvmapHandlePut s' b.handle)
        -- without a dma-buf the reference is freed, though it is in the tree
        else if (s'.dmabuf b).live = false then (none, addHandleRef s' c b)
        else (some (s'.refs.list.length, true), getDmaBuf (addHandleRef s' c b) b)

/-- `nvmap_free_handle`
SOURCE: nvmap_alloc.c:1098-1143 -/
def nvmapFreeHandle (reached : Option ℕ) : NvmapRefs :=
  match nvmapValidateLocked s c b reached with
  | none => s
  | some i =>
    match s.refs.get i with
    | none => s
    | some r =>
      if r.dupes - 1 ≠ 0 then nvmapHandlePut (addDupes s i (-1)) b.handle
      else nvmapHandlePut (dmaBufPut (eraseHandleRef s i) b) b.handle

/-- `nvmap_get_dmabuf_fd`: whether there is a descriptor, which has a reference to the file then.
SOURCE: nvmap_dmabuf.c:675-715 -/
def nvmapGetDmabufFd (fd : Option ℕ) : Bool × NvmapRefs :=
  match nvmapHandleGet s b.handle with
  | none => (false, s)
  | some s' =>
    if (s'.dmabuf b).live = false then (false, nvmapHandlePut s' b.handle)
    else
      let s' := nvmapHandlePut (getDmaBuf s' b) b.handle
      if fd.isSome then (true, s') else (false, dmaBufPut s' b)

/-- The descriptor of a process with a number. -/
def NvmapRefs.findFd : Option ℕ := s.fds.find fun e => decide (e.client = c ∧ e.name = n)

def NvmapRefs.findId : Option ℕ := s.ids.find fun e => decide (e.client = c ∧ e.name = n)

def NvmapRefs.fdBuf : Option DmabufAccess := ((s.findFd c n).bind s.fds.get).map NamedBuf.buf

/-- The dma-buf of an id of the client.  The ids of the array are greater than the numbers of
descriptors. -/
def NvmapRefs.idBuf (ida : Bool) : Option DmabufAccess :=
  if ida then ((s.findId c n).bind s.ids.get).map NamedBuf.buf else s.fdBuf c n

/-- `nvmap_install_fd`
SOURCE: nvmap_ioctl.c:103-137 -/
def nvmapInstallFd (gotFd free : Bool) (env : RefEnv) (reached : Option ℕ) : Bool × NvmapRefs :=
  if (s.dmabuf b).live = false then (false, s)
  else
    match env.fd.filter fun _ => gotFd && env.copyOk with
    | some fd => (true, { s with fds := s.fds.push ⟨c, fd, b⟩ })
    | none => (false, if free then nvmapFreeHandle (dmaBufPut s b) c b reached else dmaBufPut s b)

/-- `nvmap_id_array_id_release` -/
def nvmapIdArrayIdRelease : NvmapRefs :=
  match s.findId c n with
  | none => s
  | some i => { s with ids := s.ids.put i none }

/-- The end of `nvmap_ioctl_create`, `nvmap_ioctl_create_from_va` and, when nothing is to be freed
in `nvmap_install_fd`, `nvmap_ioctl_dup_handle`: the reference gets an id or a descriptor.
SOURCE: nvmap_ioctl.c:338-412, 439-482, 1479-1534 -/
def nameHandleRef (ida free : Bool) (env : RefEnv) (reached : Option ℕ) : Bool × NvmapRefs :=
  -- the other threads of the client cannot free the reference
  let s := addDupes s i 1
  if ida then
    match env.id.filter fun _ => (s.dmabuf b).live with
    | none => (false, nvmapFreeHandle (dmaBufPut (addDupes s i (-1)) b) c b reached)
    | some id =>
      let s : NvmapRefs := { s with ids := s.ids.push ⟨c, id, b⟩ }
      if env.copyOk then (true, addDupes s i (-1))
      else
        (false, nvmapIdArrayIdRelease (nvmapFreeHandle (dmaBufPut (addDupes s i (-1)) b) c b reached)
          c id)
  else
    let r := nvmapGetDmabufFd s b env.fd
    let q := nvmapInstallFd r.2 c b r.1 free env reached
    (q.1, addDupes q.2 i (-1))

end

section

variable (ida : Bool) (s : NvmapRefs) (c n : ℕ) (env : RefEnv)

/-- `nvmap_ioctl_create`, not from a descriptor.
SOURCE: nvmap_ioctl.c:298-412 -/
def nvmapIoctlCreate : Bool × NvmapRefs :=
  match nvmapCreateHandle s c false env.mem with
  | none => (false, s)
  | some (i, s') => nameHandleRef s' c i ⟨s.next, false⟩ ida true env env.reachedLater

/-- `nvmap_ioctl_create_from_va`
SOURCE: nvmap_ioctl.c:414-483 -/
def nvmapIoctlCreateFromVa (isRo allocOk : Bool) : Bool × NvmapRefs :=
  match nvmapCreateHandle s c isRo env.mem with
  | none => (false, s)
  | some (i, s') =>
    if allocOk then
      nameHandleRef (s'.onHandle s.next .setAlloc) c i ⟨s.next, isRo⟩ ida true env env.reachedLater
    else (false, nvmapFreeHandle s' c ⟨s.next, isRo⟩ env.reachedLater)

/-- The reference that `nvmap_duplicate_handle` gave, or the end of the call without one: a dma-buf
of nvmap is not taken for one of another driver. -/
def nameDuplicate (b : DmabufAccess) (free : Bool) (r : Option (ℕ × Bool) × NvmapRefs) :
    Bool × NvmapRefs :=
  match r.1 with
  | none => (false, r.2)
  -- the search finds again what it found before, unless the tree was changed
  | some (i, new) =>
    nameHandleRef r.2 c i b ida free env (if new then env.reachedLater else env.reached)

/-- The handle of a dma-buf is duplicated, and held meanwhile.
SOURCE: nvmap_handle.c:429-486 -/
def duplicateHeld (b : DmabufAccess) : Option (ℕ × Bool) × NvmapRefs :=
  match nvmapHandleGet s b.handle with
  | none => (none, s)
  | some s' =>
    let r := nvmapDuplicateHandle s' c b env
    (r.1, nvmapHandlePut r.2 b.handle)

/-- `nvmap_ioctl_create` with `NVMAP_IOC_FROM_FD` -/
def nvmapIoctlFromFd : Bool × NvmapRefs :=
  match s.fdBuf c n with
  | none => (false, s)
  | some b => nameDuplicate ida c env b true (duplicateHeld s c env b)

/-- The end of `nvmap_dup_handle_ro`, when the read-only dma-buf is held. -/
def duplicateHeldRo (k : ℕ) : Option (ℕ × Bool) × NvmapRefs :=
  let r := nvmapDuplicateHandle s c ⟨k, true⟩ env
  (r.1, nvmapHandlePut (dmaBufPut r.2 ⟨k, true⟩) k)

/-- `nvmap_dup_handle_ro`.  It reads the file of what `__nvmap_make_dmabuf` returned to an earlier
call even if that was an error, and does not come back then.
SOURCE: nvmap_handle.c:488-554 -/
def nvmapDupHandleRo (k : ℕ) (makeOk : Bool) : Option (ℕ × Bool) × NvmapRefs :=
  match nvmapHandleGet s k with
  | none => (none, s)
  | some s' =>
    match s'.dmabuf ⟨k, true⟩ with
    | .null =>
      match nvmapMakeDmabuf s' ⟨k, true⟩ makeOk with
      | none => (none, nvmapHandlePut (s'.onHandle k (.setDmabuf true .err)) k)
      | some s'' => duplicateHeldRo s'' c env k
    | .err => (none, s')
    | .buf files =>
      if 0 < files then duplicateHeldRo (getDmaBuf s' ⟨k, true⟩) c env k
      else (none, nvmapHandlePut s' k)

/-- `nvmap_ioctl_dup_handle`
SOURCE: nvmap_ioctl.c:1442-1535 -/
def nvmapIoctlDupHandle (accessFlags : U32) (makeOk : Bool) : Bool × NvmapRefs :=
  match (s.idBuf c n ida).bind fun a => dupHandleAccess a accessFlags with
  | none => (false, s)
  | some b =>
    nameDuplicate ida c env b false
      (if b.isRo then nvmapDupHandleRo s c env b.handle makeOk else duplicateHeld s c env b)

/-- `nvmap_ioctl_alloc`: whether there is memory for the handle.
SOURCE: nvmap_ioctl.c:188-258 -/
def nvmapIoctlAlloc : Bool × NvmapRefs :=
  match (s.idBuf c n ida).bind fun b => (nvmapHandleGet s b.handle).map fun s' => (b.handle, s') with
  | none => (false, s)
  | some (k, s') =>
    if env.mem && !(s'.handles k).alloc then (true, nvmapHandlePut (s'.onHandle k .setAlloc) k)
    else (false, nvmapHandlePut s' k)

/-- `nvmap_ioctl_getfd` of what is not an id of nvmap.  `nvmap_dmabuf_duplicate_gen_fd` drops the
reference to the file of a dma-buf of nvmap, and so does `nvmap_install_fd`. -/
def getfdOfFd : NvmapRefs :=
  match s.fdBuf c n with
  | none => s
  | some b => dmaBufPut (dmaBufPut (getDmaBuf s b) b) b

/-- `nvmap_ioctl_getfd`
SOURCE: nvmap_ioctl.c:138-185 -/
def nvmapIoctlGetfd : Bool × NvmapRefs :=
  match (s.idBuf c n ida).bind fun b => (nvmapHandleGet s b.handle).map fun s' => (b, s') with
  | none => (false, getfdOfFd s c n)
  | some (b, s') =>
    let r := nvmapGetDmabufFd s' b env.fd
    let q := if r.1 then nvmapInstallFd r.2 c b true false env none else (false, r.2)
    (q.1, nvmapHandlePut q.2 b.handle)

/-- `nvmap_free_handle_from_fd`
SOURCE: nvmap_alloc.c:1182-1213 -/
def nvmapFreeHandleFromFd : NvmapRefs :=
  match (s.idBuf c n ida).bind fun b => (nvmapHandleGet s b.handle).map fun s' => (b, s') with
  | none => s
  | some (b, s') =>
    let s' := if ida then nvmapIdArrayIdRelease s' c n else s'
    nvmapHandlePut (nvmapFreeHandle s' c b env.reached) b.handle

/-- `close` of a descriptor -/
def closeFd : Bool × NvmapRefs :=
  match s.findFd c n with
  | none => (false, s)
  | some i =>
    match s.fds.get i with
    | none => (false, s)
    | some e => (true, dmaBufPut { s with fds := s.fds.put i none } e.buf)

/-- `nvmap_ioctl_free`
SOURCE: nvmap_ioctl.c:626-647 -/
def nvmapIoctlFree : Bool × NvmapRefs :=
  if n = 0 then (true, s)
  else
    let s := nvmapFreeHandleFromFd ida s c n env
    if ida && (s.fdBuf c n).isNone then (true, s) else closeFd s c n

/-- One round of the loop of `destroy_client`. -/
def dropHandleRef (s : NvmapRefs) (i : ℕ) : NvmapRefs :=
  match s.refs.get i with
  | none => s
  | some r =>
    if r.client = c then
      (fun s => nvmapHandlePut s r.buf.handle)^[r.dupes.toNat] (eraseHandleRef (dmaBufPut s r.buf) i)
    else s

/-- `destroy_client`
SOURCE: nvmap_dev.c:252-307 -/
def destroyClient : NvmapRefs :=
  let s : NvmapRefs := { s with ids := s.ids.keep fun e => decide (e.client ≠ c) }
  (List.range s.refs.list.length).foldl (dropHandleRef c) s

/-- A descriptor is passed to a process, or duplicated. -/
def passFd (c' n' : ℕ) : Bool × NvmapRefs :=
  match s.fdBuf c n with
  | none => (false, s)
  | some b => (true, getDmaBuf { s with fds := s.fds.push ⟨c', n', b⟩ } b)

end

end NvidiaOot.Program
