import NvidiaOot.Library.Machine
import NvidiaOot.Program.Capture

/-!
# Runs of the capture buffers

The buffers that are registered, pinned and released for requests, and the memory that a request describes.

Sources are in `drivers/media/platform/tegra/camera/fusa-capture/`.
-/

namespace NvidiaOot.Model

open Function

/-!
## The buffer table of a channel under any interleaving

Any number of threads add and remove buffers, pin the buffers of descriptors, and put the mappings of
unpins lists.  A lookup, an insertion, a write of the flags, a change of a count and a removal from the table
are one step each.  What a number of a buffer stands for, and whether a buffer can be mapped, is given with
the call.
-/

section

open Library Program

inductive CapturePurpose where
  | add (flag : U32)
  | remove
  | pin (slot : ℕ) (offset : U64)
deriving DecidableEq, Repr

namespace CapturePurpose

/-- The flags that the mapping must have. -/
def flag : CapturePurpose → U32
  | .add flag => flagAccessMode flag
  | .remove => BUFFER_ADD
  | .pin _ _ => BUFFER_RDWR

/-- The call is one of `capture_buffer_request`. -/
def isRequest : CapturePurpose → Bool
  | .pin _ _ => false
  | _ => true

def slot : CapturePurpose → Option ℕ
  | .pin slot _ => some slot
  | _ => none

/-- What the call returns when the buffer cannot be mapped. -/
def mapError (purpose : CapturePurpose) (err : ℤ) : ℤ :=
  match purpose with
  | .pin _ _ => - eINVAL
  | _ => err

end CapturePurpose

/-- How a call goes on after it has put a mapping: a request returns, and the rest of an unpins list is put. -/
inductive CaptureNext where
  | ret (err : ℤ)
  | unpin (slot : ℕ) (rest : List ℕ)
deriving DecidableEq, Repr

inductive CaptureStage where
  | idle
  | finding (purpose : CapturePurpose) (buf : DmaBuf)
  /-- There was no mapping, and the buffer is to be mapped and inserted. -/
  | inserting (purpose : CapturePurpose) (buf : DmaBuf)
  | got (purpose : CapturePurpose) (map : ℕ)
  /-- The flags were written, and the count is next. -/
  | preserving (val : Bool) (map : ℕ)
  | putting (map : ℕ) (next : CaptureNext)
  /-- The count has reached zero. -/
  | zero (map : ℕ) (next : CaptureNext)
  /-- The mapping is out of the table. -/
  | unmapping (map : ℕ) (next : CaptureNext)
deriving DecidableEq, Repr

namespace CaptureStage

/-- The call holds the lock of the requests. -/
def holdsReqLock : CaptureStage → Bool
  | .finding purpose _ | .inserting purpose _ | .got purpose _ => purpose.isRequest
  | .preserving _ _ => true
  | .putting _ next | .zero _ next | .unmapping _ next => match next with
    | .ret _ => true
    | .unpin _ _ => false
  | .idle => false

/-- The call holds the lock of the unpins list. -/
def holdsSlot (slot : ℕ) : CaptureStage → Bool
  | .finding purpose _ | .inserting purpose _ | .got purpose _ => purpose.slot = some slot
  | .putting _ next | .zero _ next | .unmapping _ next => match next with
    | .ret _ => false
    | .unpin other _ => other = slot
  | _ => false

end CaptureStage

/-- What a call has changed of a mapping: a reference taken or dropped, or the flags. -/
inductive CaptureChange where
  | taken (map : ℕ)
  | dropped (map : ℕ)
  | flagged (map : ℕ)
deriving DecidableEq, Repr

structure CaptureCall where
  stage : CaptureStage
  changes : List CaptureChange
deriving DecidableEq, Repr

/-- `unpins` are the unpins lists, and `unmapped` the mappings that were unmapped, in that order.  `failures`
has the changes of the calls that returned an error. -/
structure CaptureTableState where
  tab : CaptureBufferTable
  calls : List CaptureCall
  unpins : List (List ℕ)
  unmapped : List ℕ
  unexpected : Bool
  failures : List (List CaptureChange)

inductive CaptureTableOp where
  /-- `capture_buffer_request`, with what the descriptor of the buffer stands for. -/
  | request (thread : ℕ) (flag : U32) (buf : Except ℤ DmaBuf)
  | pin (thread slot : ℕ) (memHandle : U32) (memOffset : U64) (buf : Except ℤ DmaBuf)
  | unpin (thread slot : ℕ)
  /-- The buffer of an insertion is mapped to these segments, or it cannot be. -/
  | insert (thread : ℕ) (sgt : Except ℤ (List SgEntry))
  /-- Any other step of a call. -/
  | go (thread : ℕ)

namespace CaptureTableState

def goto (s : CaptureTableState) (thread : ℕ) (stage : CaptureStage) (changes : List CaptureChange) :
    CaptureTableState :=
  { s with calls := s.calls.set thread ⟨stage, changes⟩ }

def ret (s : CaptureTableState) (thread : ℕ) (err : ℤ) (changes : List CaptureChange) :
    CaptureTableState :=
  { s.goto thread .idle [] with
    failures := if err = 0 then s.failures else s.failures ++ [changes] }

def setTab (s : CaptureTableState) (tab : CaptureBufferTable) : CaptureTableState := { s with tab := tab }

def reqLockFree (s : CaptureTableState) : Bool := s.calls.all fun call => !call.stage.holdsReqLock

def slotFree (s : CaptureTableState) (slot : ℕ) : Bool := s.calls.all fun call => !call.stage.holdsSlot slot

/-- A call has put a mapping, and goes on. -/
def proceed (s : CaptureTableState) (thread : ℕ) (next : CaptureNext) (changes : List CaptureChange) :
    CaptureTableState :=
  match next with
  | .ret err => s.ret thread err changes
  | .unpin slot (map :: rest) => s.goto thread (.putting map (.unpin slot rest)) changes
  | .unpin _ [] => s.goto thread .idle []

/-- SOURCE: capture-common.c:377-427 -/
def startRequest (s : CaptureTableState) (thread : ℕ) (flag : U32) (buf : Except ℤ DmaBuf) :
    CaptureTableState :=
  match buf with
  | .error err => s.ret thread err []
  | .ok buf => s.goto thread
    (.finding (if flag &&& BUFFER_ADD ≠ 0 then .add flag else .remove) buf) []

/-- SOURCE: capture-common.c:475-500 -/
def startPin (s : CaptureTableState) (thread slot : ℕ) (memHandle : U32) (memOffset : U64)
    (buf : Except ℤ DmaBuf) (unpins : List ℕ) : CaptureTableState :=
  if memHandle = 0 then s
  else if MAX_PIN_BUFFER_PER_REQUEST ≤ unpins.length then s.ret thread (- eNOMEM) []
  else
    match buf with
    | .error _ => s.ret thread (- eINVAL) []
    | .ok buf => s.goto thread (.finding (.pin slot memOffset) buf) []

/-- A lookup.
SOURCE: capture-common.c:219-246, 281-285, 420-427 -/
def find (s : CaptureTableState) (thread : ℕ) (purpose : CapturePurpose) (buf : DmaBuf) :
    CaptureTableState :=
  match s.tab.findMapping buf purpose.flag with
  | some map => (s.setTab (s.tab.atomicInc map)).goto thread (.got purpose map) [.taken map]
  | none =>
    match purpose with
    | .remove => s.ret thread (- eNOENT) []
    | _ => s.goto thread (.inserting purpose buf) []

/-- A buffer is mapped and inserted.
SOURCE: capture-common.c:287-321 -/
def insert (s : CaptureTableState) (thread : ℕ) (purpose : CapturePurpose) (buf : DmaBuf)
    (sgt : Except ℤ (List SgEntry)) : CaptureTableState :=
  match sgt with
  | .error err => s.ret thread (purpose.mapError err) []
  | .ok sgt => (s.setTab (s.tab.addMapping buf purpose.flag sgt)).goto thread
    (.got purpose s.tab.next) [.taken s.tab.next]

/-- What a call does with its mapping.
SOURCE: capture-common.c:194-205, 404-411, 431-432, 503-521 -/
def useMapping (s : CaptureTableState) (thread : ℕ) (purpose : CapturePurpose) (map : ℕ)
    (changes : List CaptureChange) : CaptureTableState :=
  match purpose with
  | .add _ =>
    if (s.tab.mapping map).mappingPreserved then s.goto thread (.putting map (.ret (- eEXIST))) changes
    else (s.setTab (s.tab.setPreserved map true)).goto thread (.preserving true map)
      (changes ++ [.flagged map])
  | .remove => (s.setTab (s.tab.setPreserved map false)).goto thread (.preserving false map)
      (changes ++ [.flagged map])
  | .pin slot offset =>
    match (s.tab.mapping map).surface offset with
    | .error err => s.ret thread err changes
    | .ok _ =>
      -- A pin that succeeds has nothing to undo: the reference is the list's now.
      { s.ret thread 0 changes with unpins := s.unpins.modify slot (· ++ [map]) }

/-- The count of a mapping is decremented.
SOURCE: capture-common.c:447-453 -/
def put (s : CaptureTableState) (thread map : ℕ) (next : CaptureNext) (changes : List CaptureChange) :
    CaptureTableState :=
  let s := s.setTab (s.tab.atomicDec map)
  if (s.tab.mapping map).refcnt = 0 then s.goto thread (.zero map next) (changes ++ [.dropped map])
  else s.proceed thread next (changes ++ [.dropped map])

/-- The count of a mapping has reached zero.
SOURCE: capture-common.c:453-463 -/
def removeMapping (s : CaptureTableState) (thread map : ℕ) (next : CaptureNext)
    (changes : List CaptureChange) : CaptureTableState :=
  if (s.tab.mapping map).mappingPreserved then
    { (s.setTab (s.tab.atomicInc map)).proceed thread next (changes ++ [.taken map]) with unexpected := true }
  else (s.setTab (s.tab.hashDel map)).goto thread (.unmapping map next) changes

end CaptureTableState

/-- One step.
SOURCE: capture-common.c:194-205, 219-321, 377-521,
capture-isp.c:498-515 -/
def captureTableStep (s : CaptureTableState) : CaptureTableOp → Option CaptureTableState
  | .request thread flag buf =>
    match s.calls[thread]? with
    | some ⟨.idle, _⟩ => if s.reqLockFree then some (s.startRequest thread flag buf) else none
    | _ => none
  | .pin thread slot memHandle memOffset buf =>
    match s.calls[thread]?, s.unpins[slot]? with
    | some ⟨.idle, _⟩, some unpins =>
      if s.slotFree slot then some (s.startPin thread slot memHandle memOffset buf unpins) else none
    | _, _ => none
  | .unpin thread slot =>
    match s.calls[thread]?, s.unpins[slot]? with
    | some ⟨.idle, _⟩, some unpins =>
      if s.slotFree slot then
        some ({ s with unpins := s.unpins.set slot [] }.proceed thread (.unpin slot unpins) [])
      else none
    | _, _ => none
  | .insert thread sgt =>
    match s.calls[thread]? with
    | some ⟨.inserting purpose buf, _⟩ => some (s.insert thread purpose buf sgt)
    | _ => none
  | .go thread =>
    match s.calls[thread]? with
    | some ⟨.finding purpose buf, _⟩ => some (s.find thread purpose buf)
    | some ⟨.got purpose map, changes⟩ => some (s.useMapping thread purpose map changes)
    | some ⟨.preserving true map, changes⟩ =>
      some ((s.setTab (s.tab.atomicInc map)).goto thread (.putting map (.ret 0)) (changes ++ [.taken map]))
    | some ⟨.preserving false map, changes⟩ =>
      some ((s.setTab (s.tab.atomicDec map)).goto thread (.putting map (.ret 0)) (changes ++ [.dropped map]))
    | some ⟨.putting map next, changes⟩ => some (s.put thread map next changes)
    | some ⟨.zero map next, changes⟩ => some (s.removeMapping thread map next changes)
    | some ⟨.unmapping map next, changes⟩ =>
      some ({ s with unmapped := s.unmapped ++ [map] }.proceed thread next changes)
    | _ => none

/-- The table of a channel that was set up, with its unpins lists. -/
def captureTableStart (threads slots : ℕ) : CaptureTableState where
  tab := .empty
  calls := List.replicate threads ⟨.idle, []⟩
  unpins := List.replicate slots []
  unmapped := []
  unexpected := false
  failures := []

/-- A call that has got a mapping accepts its offset, and no count is at its maximum when it is incremented. -/
def captureTableCareful (s : CaptureTableState) : CaptureTableOp → Prop
  | .go thread => (s.calls[thread]?.all fun call => match call.stage with
      | .finding purpose buf => (s.tab.findMapping buf purpose.flag).all fun map =>
        (s.tab.mapping map).refcnt ≠ 0xFFFFFFFF
      | .got (.pin _ offset) map => ((s.tab.mapping map).surface offset).isOk
      | .preserving true map => (s.tab.mapping map).refcnt ≠ 0xFFFFFFFF
      | _ => true) = true
  | _ => True

instance captureTableCareful.decidable (s : CaptureTableState) (op : CaptureTableOp) :
    Decidable (captureTableCareful s op) :=
  match op with
  | .request _ _ _ | .pin _ _ _ _ _ | .unpin _ _ | .insert _ _ => isTrue trivial
  | .go thread => inferInstanceAs (Decidable (s.calls[thread]?.all _ = true))

/-! ### What a run keeps -/

namespace CaptureNext

/-- The references of an unpins list that are still to be put. -/
def refs (m : ℕ) : CaptureNext → ℕ
  | .ret _ => 0
  | .unpin _ rest => rest.count m

end CaptureNext

namespace CaptureStage

/-- The references to a mapping that a call holds.  Between the flags and the count, it has given its own
reference to the flags, or has taken over theirs. -/
def refs (m : ℕ) : CaptureStage → ℕ
  | .got _ map => if map = m then 1 else 0
  | .preserving val map => if map = m then (if val then 0 else 2) else 0
  | .putting map next => (if map = m then 1 else 0) + next.refs m
  | .zero _ next | .unmapping _ next => next.refs m
  | _ => 0

/-- The call is about to unmap the mapping. -/
def ending (m : ℕ) : CaptureStage → ℕ
  | .zero map _ | .unmapping map _ => if map = m then 1 else 0
  | _ => 0

/-- The call goes on to use the mapping. -/
def uses (m : ℕ) (stage : CaptureStage) : Bool :=
  0 < stage.refs m || 0 < stage.ending m || match stage with
    | .preserving _ map => map = m
    | _ => false

end CaptureStage

namespace CaptureTableState

/-- The entries of the unpins lists that hold a mapping. -/
def entries (s : CaptureTableState) (m : ℕ) : ℕ := (s.unpins.map fun list => list.count m).sum

/-- The references that the calls in progress hold. -/
def refs (s : CaptureTableState) (m : ℕ) : ℕ := (s.calls.map fun call => call.stage.refs m).sum

end CaptureTableState

/-- The counts are those of the references, and a mapping is unmapped once, after the last of them. -/
structure CaptureTableSound (s : CaptureTableState) : Prop where
  counted : ∀ m, (s.tab.mapping m).refcnt.toNat =
    (s.tab.mapping m).mappingPreserved.toNat + s.entries m + s.refs m
  once : s.unmapped.Nodup
  done : ∀ m ∈ s.unmapped, (s.tab.mapping m).refcnt = 0 ∧ (s.tab.mapping m).mappingPreserved = false
  /-- A mapping without references is unmapped, or a call is about to do so. -/
  ends : ∀ m < s.tab.next, (s.tab.mapping m).refcnt = 0 →
    m ∈ s.unmapped ∨ ∃ call ∈ s.calls, 0 < call.stage.ending m
  unused : ∀ m ∈ s.unmapped, m ∉ s.tab.hhead ∧ s.entries m = 0 ∧
    ∀ call ∈ s.calls, call.stage.uses m = false
  /-- A call that returns an error has dropped the references that it had taken, and changed no flags. -/
  failed : ∀ changes ∈ s.failures, ∀ m,
    changes.count (.taken m) = changes.count (.dropped m) ∧ .flagged m ∉ changes
  expected : s.unexpected = false

end

/-!
## Requests of an ISP channel under any interleaving

Any number of threads submit process requests, programs, or both at once, and reset or release the channel.
A critical section of the source is one step, and so is the submission of a message.  The firmware sends
status indications with any buffer index.  The channel was set up, and is released once.  Two resets may
overlap here, which a lock of the source excludes.
-/

section

open Library Program

inductive IspQueue where
  | capture
  | program
deriving DecidableEq, Repr

/-- A slot that a call has filled, with the pins that the call has made. -/
structure IspHeld where
  slot : ℕ
  pins : List ℕ
deriving DecidableEq, Repr

/-- What a thread does next.  A process request may have a program that was prepared with it. -/
inductive IspStage where
  | idle
  /-- The fences of a process request are set up. -/
  | fences (slot : ℕ) (program : Option IspHeld)
  | pinning (slot : ℕ) (program : Option IspHeld)
  | submitting (held : IspHeld) (program : Option IspHeld)
  /-- The process request has failed, and unpins its slot. -/
  | failing (held : IspHeld) (program : Option IspHeld)
  /-- A program is prepared, for itself or for a process request. -/
  | preparing (slot : ℕ) (capture : Option U32)
  | submittingProgram (held : IspHeld)
  | failingProgram (held : IspHeld)
  /-- The request of a reset or of a release is sent. -/
  | controlling (release : Bool)
  /-- A reset or a release unpins the slots, from this one on. -/
  | unpinning (release : Bool) (q : IspQueue) (slot : ℕ)
  | freeing
deriving DecidableEq, Repr

/-- What a call has in a slot.  It has failed if it is about to unpin the slot. -/
structure IspClaim where
  slot : ℕ
  pins : List ℕ
  failed : Bool
deriving DecidableEq, Repr

def IspHeld.claim (held : IspHeld) (failed : Bool) : IspClaim := ⟨held.slot, held.pins, failed⟩

/-- The slot of a queue that the call has filled or is about to unpin. -/
def IspStage.claim : IspStage → IspQueue → Option IspClaim
  | .submitting held _, .capture => some (held.claim false)
  | .failing held _, .capture => some (held.claim true)
  | .fences _ program, .program | .pinning _ program, .program => program.map (·.claim false)
  | .submitting _ program, .program | .failing _ program, .program => program.map (·.claim false)
  | .submittingProgram held, .program => some (held.claim false)
  | .failingProgram held, .program => some (held.claim true)
  | _, _ => none

/-- `atFirmware` are the pins of the requests that the firmware has, `undone` are the pins that were undone,
and `outside` says whether a slot was touched that is none of its list. -/
structure IspUnpinsState where
  ctx : IspQueue → IspDescRec
  calls : List IspStage
  atFirmware : IspQueue → ℕ → Option (List ℕ)
  nextPin : ℕ
  undone : List ℕ
  outside : Bool

inductive IspUnpinsOp where
  | request (thread : ℕ) (slot : U32)
  | program (thread : ℕ) (slot : U32)
  | requestEx (thread : ℕ) (programSlot slot : U32)
  | reset (thread : ℕ)
  | release (thread : ℕ)
  /-- The fences are set up, or their setup fails. -/
  | fences (thread : ℕ) (ok : Bool)
  | pin (thread count : ℕ) (ok : Bool)
  | submit (thread : ℕ) (ok : Bool)
  | unpin (thread : ℕ)
  /-- The request of a reset or of a release has succeeded or failed. -/
  | controlled (thread : ℕ) (ok : Bool)
  | status (slot : U32)
  | programStatus (slot : U32)
  | exStatus (programSlot slot : U32)
deriving DecidableEq, Repr

namespace IspUnpinsState

def goto (s : IspUnpinsState) (thread : ℕ) (stage : IspStage) : IspUnpinsState :=
  { s with calls := s.calls.set thread stage }

def setCtx (s : IspUnpinsState) (q : IspQueue) (ctx : IspDescRec) : IspUnpinsState :=
  { s with ctx := update s.ctx q ctx }

def unpin (s : IspUnpinsState) (q : IspQueue) (slot : ℕ) : IspUnpinsState :=
  if (s.ctx q).has slot then
    let (ctx, pins) := (s.ctx q).requestUnpin slot
    { s.setCtx q ctx with undone := pins ++ s.undone }
  else { s with outside := true }

/-- The firmware has a request, or none. -/
def setFirmware (s : IspUnpinsState) (q : IspQueue) (slot : ℕ) (pins : Option (List ℕ)) :
    IspUnpinsState :=
  { s with atFirmware := update s.atFirmware q (update (s.atFirmware q) slot pins) }

/-- The firmware has the request of a call. -/
def sent (s : IspUnpinsState) (q : IspQueue) (held : IspHeld) : IspUnpinsState :=
  s.setFirmware q held.slot (some held.pins)

/-- The indication of a slot: the firmware is done with it, and its pins are undone. -/
def indicate (s : IspUnpinsState) (q : IspQueue) (slot : U32) : IspUnpinsState :=
  (s.setFirmware q slot.toNat none).unpin q slot.toNat

/-- A process request has failed, and goes on with its program. -/
def afterFail (program : Option IspHeld) : IspStage :=
  match program with
  | none => .idle
  | some held => .failingProgram held

/-- The slots of a queue are unpinned one after another, those of the programs first. -/
def nextSlot (s : IspUnpinsState) (release : Bool) (q : IspQueue) (slot : ℕ) : IspStage :=
  if slot < (s.ctx q).queueDepth.toNat then .unpinning release q slot
  else
    match q with
    | .program =>
      if 0 < (s.ctx .capture).queueDepth.toNat then .unpinning release .capture 0
      else if release then .freeing
      else .idle
    | .capture => if release then .freeing else .idle

/-- A slot is touched under the lock of its list. -/
def touch (s : IspUnpinsState) (q : IspQueue) (slot : ℕ) : IspUnpinsState :=
  if (s.ctx q).has slot then s else { s with outside := true }

/-- A call with a program starts.
SOURCE: capture-isp.c:551-588 -/
def startProgram (s : IspUnpinsState) (thread : ℕ) (slot : U32) (capture : Option U32) :
    IspUnpinsState :=
  match (s.ctx .program).requestCheck slot with
  | .error _ => s
  | .ok _ => s.goto thread (.preparing slot.toNat capture)

/-- A process request starts.
SOURCE: capture-isp.c:1604-1650 -/
def startCapture (s : IspUnpinsState) (thread : ℕ) (slot : U32) (program : Option IspHeld) :
    IspUnpinsState :=
  match (s.ctx .capture).requestCheck slot with
  | .error _ => s.goto thread (afterFail program)
  | .ok _ => s.goto thread (.fences slot.toNat program)

/-- The buffers of a process request are pinned.
SOURCE: capture-isp.c:1674-1694 -/
def pinCapture (s : IspUnpinsState) (thread slot : ℕ) (program : Option IspHeld) (count : ℕ)
    (ok : Bool) : IspUnpinsState :=
  let s := s.touch .capture slot
  match pinIspCaptureRequestBuffers (s.ctx .capture) slot s.nextPin count ok with
  | (.busy, _) => s.goto thread (afterFail program)
  | (.failed pins, ctx) =>
    { (s.setCtx .capture ctx).goto thread (.failing ⟨slot, pins⟩ program) with
      nextPin := s.nextPin + pins.length }
  | (.pinned pins, ctx) =>
    { (s.setCtx .capture ctx).goto thread (.submitting ⟨slot, pins⟩ program) with
      nextPin := s.nextPin + pins.length }

/-- The buffer of a program is pinned.
SOURCE: capture-isp.c:600-631, 1782-1790, 1857-1873 -/
def pinProgram (s : IspUnpinsState) (thread slot : ℕ) (capture : Option U32) (count : ℕ) (ok : Bool) :
    IspUnpinsState :=
  let s := s.touch .program slot
  match pinIspProgram (s.ctx .program) slot s.nextPin count ok with
  | (.busy, _) | (.failed _, _) => s.goto thread .idle
  | (.pinned pins, ctx) =>
    let s : IspUnpinsState := { s.setCtx .program ctx with nextPin := s.nextPin + pins.length }
    match capture with
    | none => s.goto thread (.submittingProgram ⟨slot, pins⟩)
    | some capture => s.startCapture thread capture (some ⟨slot, pins⟩)

/-- A channel that was released has no number.
SOURCE: capture-isp.c:1256-1260, 1367-1371 -/
def startControl (s : IspUnpinsState) (thread : ℕ) (release : Bool) : Option IspUnpinsState :=
  if s.calls[thread]? = some .idle then
    some (if (s.ctx .capture).allocated then s.goto thread (.controlling release) else s)
  else none

end IspUnpinsState

/-- One step.
SOURCE: capture-isp.c:551-632, 744-802, 1236-1433, 1604-1717,
1772-1814, 1843-1875 -/
def ispUnpinsStep (s : IspUnpinsState) : IspUnpinsOp → Option IspUnpinsState
  | .request thread slot =>
    if s.calls[thread]? = some .idle then some (s.startCapture thread slot none) else none
  | .program thread slot =>
    if s.calls[thread]? = some .idle then some (s.startProgram thread slot none) else none
  | .requestEx thread programSlot slot =>
    if s.calls[thread]? = some .idle then
      if programSlot = 0xFFFFFFFF then some (s.startCapture thread slot none)
      else some (s.startProgram thread programSlot (some slot))
    else none
  | .reset thread => s.startControl thread false
  | .release thread => s.startControl thread true
  | .fences thread ok =>
    match s.calls[thread]? with
    | some (.fences slot program) =>
      some (s.goto thread (if ok then .pinning slot program else .failing ⟨slot, []⟩ program))
    | _ => none
  | .pin thread count ok =>
    match s.calls[thread]? with
    | some (.pinning slot program) => some (s.pinCapture thread slot program count ok)
    | some (.preparing slot capture) => some (s.pinProgram thread slot capture count ok)
    | _ => none
  | .submit thread ok =>
    match s.calls[thread]? with
    | some (.submitting held program) =>
      if ok then
        some (((program.elim s fun p => s.sent .program p).sent .capture held).goto thread .idle)
      else some (s.goto thread (.failing held program))
    | some (.submittingProgram held) =>
      if ok then some ((s.sent .program held).goto thread .idle)
      else some (s.goto thread (.failingProgram held))
    | _ => none
  | .unpin thread =>
    match s.calls[thread]? with
    | some (.failing held program) =>
      some ((s.unpin .capture held.slot).goto thread (IspUnpinsState.afterFail program))
    | some (.failingProgram held) => some ((s.unpin .program held.slot).goto thread .idle)
    | some (.unpinning release q slot) =>
      some ((s.unpin q slot).goto thread (s.nextSlot release q (slot + 1)))
    | some .freeing =>
      -- The lists are freed, and the channel has no number any more.
      some ({ s with ctx := fun q => { s.ctx q with allocated := false } }.goto thread .idle)
    | _ => none
  | .controlled thread ok =>
    match s.calls[thread]? with
    | some (.controlling release) =>
      if ok then
        some ({ s with atFirmware := fun _ _ => none }.goto thread (s.nextSlot release .program 0))
      else some (s.goto thread .idle)
    | _ => none
  | .status slot => some (s.indicate .capture slot)
  | .programStatus slot => some (s.indicate .program slot)
  | .exStatus programSlot slot => some ((s.indicate .program programSlot).indicate .capture slot)

/-- The channel was set up with queues of these depths. -/
def ispUnpinsStart (captureDepth programDepth : U32) (threads : ℕ) : IspUnpinsState where
  ctx := fun q => match q with
    | .capture => ⟨captureDepth, true, fun _ => []⟩
    | .program => ⟨programDepth, true, fun _ => []⟩
  calls := List.replicate threads .idle
  atFirmware := fun _ _ => none
  nextPin := 0
  undone := []
  outside := false

/-! ### The orders that go wrong -/

namespace IspUnpinsState

/-- No call has filled the slot, or is about to unpin it. -/
def unclaimed (s : IspUnpinsState) (q : IspQueue) (slot : ℕ) : Bool :=
  s.calls.all fun stage => (stage.claim q).all fun c => c.slot ≠ slot

/-- No call has filled the slot and goes on to submit its request. -/
def unfilled (s : IspUnpinsState) (q : IspQueue) (slot : ℕ) : Bool :=
  s.calls.all fun stage => (stage.claim q).all fun c => c.failed || c.slot ≠ slot

/-- A request that finds the slot empty has it for itself. -/
def freeIfEmpty (s : IspUnpinsState) (q : IspQueue) (slot : ℕ) : Bool :=
  !((s.ctx q).unpinsList slot).isEmpty || (s.unclaimed q slot && (s.atFirmware q slot).isNone)

/-- The indication is for a slot of the queue, and no call is about to submit a request of that slot. -/
def indicated (s : IspUnpinsState) (q : IspQueue) (slot : U32) : Bool :=
  (s.ctx q).has slot.toNat && s.unfilled q slot.toNat

end IspUnpinsState

/-- The setup of the fences fails only while the slot is empty; a request that finds its slot empty has it
for itself; a reset or a release unpins no request that was submitted after its own response or is about to
be, and a release frees the lists while no other call is under way; and an indication is for a slot of the
queue that no call is about to submit. -/
def ispUnpinsCareful (s : IspUnpinsState) : IspUnpinsOp → Prop
  | .fences thread ok => s.calls[thread]?.all (fun stage => match stage with
      | .fences slot _ => ok || ((s.ctx .capture).unpinsList slot).isEmpty
      | _ => true) = true
  | .pin thread _ _ => s.calls[thread]?.all (fun stage => match stage with
      | .pinning slot _ => s.freeIfEmpty .capture slot
      | .preparing slot _ => s.freeIfEmpty .program slot
      | _ => true) = true
  | .unpin thread => s.calls[thread]?.all (fun stage => match stage with
      | .unpinning _ q slot => s.unfilled q slot && (s.atFirmware q slot).isNone
      | .freeing => (s.calls.set thread .idle).all fun other => other = .idle
      | _ => true) = true
  | .status slot => s.indicated .capture slot = true
  | .programStatus slot => s.indicated .program slot = true
  | .exStatus programSlot slot => (s.indicated .program programSlot && s.indicated .capture slot) = true
  | _ => True

instance ispUnpinsCareful.decidable (s : IspUnpinsState) (op : IspUnpinsOp) :
    Decidable (ispUnpinsCareful s op) :=
  match op with
  | .fences thread _ => inferInstanceAs (Decidable (s.calls[thread]?.all _ = true))
  | .pin thread _ _ => inferInstanceAs (Decidable (s.calls[thread]?.all _ = true))
  | .unpin thread => inferInstanceAs (Decidable (s.calls[thread]?.all _ = true))
  | .request _ _ | .program _ _ | .requestEx _ _ _ | .reset _ | .release _ | .submit _ _
  | .controlled _ _ => isTrue trivial
  | .status slot => inferInstanceAs (Decidable (s.indicated .capture slot = true))
  | .programStatus slot => inferInstanceAs (Decidable (s.indicated .program slot = true))
  | .exStatus programSlot slot => inferInstanceAs (Decidable
      ((s.indicated .program programSlot && s.indicated .capture slot) = true))

/-! ### What a run keeps -/

/-- Buffers stay pinned while the firmware may use them. -/
structure IspPinsSound (s : IspUnpinsState) : Prop where
  /-- The pins of a request that the firmware has are in the list of its slot. -/
  pinned : ∀ q slot pins, s.atFirmware q slot = some pins → (s.ctx q).unpinsList slot = pins
  /-- No other request is accepted for its slot. -/
  exclusive : ∀ q slot, (s.atFirmware q slot).isSome = true → ∀ stage ∈ s.calls, ∀ c,
    IspStage.claim stage q = some c → c.slot = slot → c.failed = true
  /-- What a call has in its slot, and unpins when it fails, it has pinned itself. -/
  own : ∀ q, ∀ stage ∈ s.calls, ∀ c, IspStage.claim stage q = some c →
    ∀ pin ∈ (s.ctx q).unpinsList c.slot, pin ∈ c.pins
  /-- No pin is undone twice, or while it is in a list, and none is lost. -/
  once : s.undone.Nodup
  undone : ∀ pin ∈ s.undone, ∀ q slot, pin ∉ (s.ctx q).unpinsList slot
  accounted : ∀ pin < s.nextPin, pin ∈ s.undone ∨ ∃ q slot, pin ∈ (s.ctx q).unpinsList slot
  /-- Only slots of the queues are touched. -/
  inside : s.outside = false

end

end NvidiaOot.Model
