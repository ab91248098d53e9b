import NvidiaOot.Library.Machine
import NvidiaOot.Program.Ivc

/-!
# Runs of inter-VM channels

The queue of one endpoint, the link of two of them, its reset and its notifications, a peer that may do anything, and
the counters.
-/

namespace NvidiaOot.Model

open Function

/-!
## The calls of one IVC endpoint

`IvcCall` lists the calls that the owner of an endpoint can make and `IvcCall.code` is
the program of each, with the different return types put into one type `IvcResult`.
`Ivc.Initialised` says that a `struct ivc` comes from a successful `tegra_ivc_init`.
-/

section

open Library Program

inductive IvcCall where
  | read (maxRead : U64)
  | readUser (faults : Bool) (maxRead : U64)
  | readPeek (off count : U64)
  | readGetNextFrame
  | readAdvance
  | write (contents : ℕ → U8) (size : U64)
  | writeUser (faults : Bool) (contents : ℕ → U8) (size : U64)
  | writePoke (contents : ℕ → U8) (off count : U64)
  | writeGetNextFrame
  | writeAdvance
  | channelReset
  | channelNotified
  | channelSync

/-- What a call returns: a result code with the bytes it delivered, or a frame pointer. -/
inductive IvcResult where
  | code (result : ℤ) (data : List U8)
  | frame (result : Except ℤ ℕ)

def IvcResult.data : IvcResult → List U8
  | .code _ data => data
  | .frame _ => []

def IvcCall.code : IvcCall → IvcProg IvcResult
  | .read maxRead => do
    let (result, data) ← tegraIvcRead maxRead
    return .code result data
  | .readUser faults maxRead => do
    let (result, data) ← tegraIvcReadUser faults maxRead
    return .code result data
  | .readPeek off count => do
    let (result, data) ← tegraIvcReadPeek off count
    return .code result data
  | .readGetNextFrame => do return .frame (← tegraIvcReadGetNextFrame)
  | .readAdvance => do return .code (← tegraIvcReadAdvance) []
  | .write contents size => do return .code (← tegraIvcWrite contents size) []
  | .writeUser faults contents size => do
    return .code (← tegraIvcWriteUser faults contents size) []
  | .writePoke contents off count => do
    return .code (← tegraIvcWritePoke contents off count) []
  | .writeGetNextFrame => do return .frame (← tegraIvcWriteGetNextFrame)
  | .writeAdvance => do return .code (← tegraIvcWriteAdvance) []
  | .channelReset => do
    tegraIvcChannelReset
    return .code 0 []
  | .channelNotified => do return .code (← tegraIvcChannelNotified) []
  | .channelSync => do return .code (← tegraIvcChannelSync) []

/-- The calls that move data; the other three belong to the reset protocol. -/
def IvcCall.isData : IvcCall → Bool
  | .channelReset | .channelNotified | .channelSync => false
  | _ => true

/-- Where in the frame a receive call starts to copy. -/
def IvcCall.offset : IvcCall → ℕ
  | .readPeek off _ => off.toNat
  | _ => 0

/-- The endpoint was set up by a `tegra_ivc_init` that returned 0. -/
def Initialised (ivc : Ivc) : Prop :=
  ∃ (blank : Ivc) (rxBase txBase : U64) (nframes frameSize : U32) (peer : Option PeerDevice),
    tegraIvcInit blank rxBase txBase nframes frameSize peer = .ok (0, ivc)

/-- The offset of a frame in a frame area, as `ivc_frame_pointer` computes it. -/
def frameOffset (ivc : Ivc) (frame : U32) : ℕ := (ivc.frameSize * frame).toNat

/-- The offset of the frame that the endpoint fills next. -/
def writeOffset (s : IvcWorld) : ℕ := frameOffset s.ivc s.ivc.wPos

/-- The offset of the frame that the endpoint takes next. -/
def readOffset (s : IvcWorld) : ℕ := frameOffset s.ivc s.ivc.rPos

end

/-!
## Two endpoints that share a channel pair

`Ends` is the state of two endpoints and of the memory they share: the transmit header
and frames of one end are the receive header and frames of the other.  `Ends.view` is
what one end works on and `Ends.put` puts the result of its work back.

`linkStep` lets either end make one data call at a time, fill the frame that
`tegra_ivc_write_get_next_frame` handed out, or look at the frame that
`tegra_ivc_read_get_next_frame` handed out.  A ledger records for each end which frames
it published and consumed and which bytes it saw.  A call that reaches `BUG()` has no
step.
-/

section

open Library Program

/-! ### The shared state -/

inductive End where
  | a
  | b
  deriving DecidableEq

def End.other : End → End
  | .a => .b
  | .b => .a

/-- An endpoint with the channel that it transmits on. -/
structure Endpoint where
  ivc : Ivc
  header : IvcChannelHeader
  frames : ℕ → U8
  notified : ℕ

/-- Both endpoints and the memory between them. -/
abbrev Ends := End → Endpoint

def Ends.view (l : Ends) (e : End) : IvcWorld where
  ivc := (l e).ivc
  rx := (l e.other).header
  tx := (l e).header
  rxFrames := (l e.other).frames
  txFrames := (l e).frames
  notified := (l e).notified

/-- The state after one end has worked. -/
def Ends.put (l : Ends) (e : End) (s : IvcWorld) : Ends := fun x =>
  if x = e then
    { ivc := s.ivc, header := s.tx, frames := s.txFrames, notified := s.notified }
  else
    { l x with header := s.rx, frames := s.rxFrames }

/-- One end runs a program while the other one does nothing; `none` is a `BUG()`. -/
def Ends.exec {α : Type} (l : Ends) (e : End) (p : IvcProg α) : Option (α × Ends) :=
  match p.exec (l.view e) with
  | .ok (r, s) => some (r, l.put e s)
  | .error _ => none

@[simp] theorem End.other_other (e : End) : e.other.other = e := by
  cases e <;> rfl

@[simp] theorem End.other_ne (e : End) : e.other ≠ e := by
  cases e <;> decide

/-- An end is the one or the other. -/
theorem End.eq_or_eq_other (x e : End) : x = e ∨ x = e.other := by
  cases x <;> cases e <;> decide

@[simp] theorem put_self (l : Ends) (e : End) (s : IvcWorld) :
    l.put e s e = ⟨s.ivc, s.tx, s.txFrames, s.notified⟩ := if_pos rfl

@[simp] theorem put_other (l : Ends) (e : End) (s : IvcWorld) :
    l.put e s e.other = { l e.other with header := s.rx, frames := s.rxFrames } :=
  if_neg (End.other_ne e)

@[simp] theorem view_put (l : Ends) (e : End) (s : IvcWorld) : (l.put e s).view e = s := by
  simp [Ends.view]

@[simp] theorem put_view (l : Ends) (e : End) : l.put e (l.view e) = l := by
  funext x
  rcases End.eq_or_eq_other x e with rfl | rfl
  · rw [put_self]
    rfl
  · rw [put_other]
    rfl

/-- A call that has a step returned. -/
theorem exec_eq_some {α : Type} {l : Ends} {e : End} {p : IvcProg α} {x : α × Ends}
    (h : l.exec e p = some x) : ∃ s', p.exec (l.view e) = .ok (x.1, s') ∧ x.2 = l.put e s' := by
  unfold Ends.exec at h
  split at h
  case h_1 r s' hx =>
    cases h
    exact ⟨s', hx, rfl⟩
  case h_2 => cases h

/-- A step that runs a program of one end whose outcome is known. -/
theorem exec_of_ok {α : Type} {l : Ends} {e : End} {p : IvcProg α} {r : α}
    {s' : IvcWorld} (h : p.exec (l.view e) = .ok (r, s')) : l.exec e p = some (r, l.put e s') := by
  rw [Ends.exec, h]

@[simp] theorem put_put (l : Ends) (e : End) (s s' : IvcWorld) : (l.put e s).put e s' = l.put e s' := by
  funext x
  rcases End.eq_or_eq_other x e with rfl | rfl
  · rw [put_self, put_self]
  · rw [put_other, put_other, put_other]

/-- A `struct ivc` of a ring of three frames of 64 bytes, as `tegra_ivc_init` leaves it. -/
def threeFrameIvc (rxBase txBase : U64) : Ivc := ⟨rxBase, txBase, 0, 0, 3, 64, false, 0, 0⟩

/-- Two such endpoints, established, with all counters 0. -/
def threeFrameEnds : Ends
  | .a => ⟨threeFrameIvc 0x1000 0x2000, ⟨0, 0, 0⟩, fun _ => 0, 0⟩
  | .b => ⟨threeFrameIvc 0x2000 0x1000, ⟨0, 0, 0⟩, fun _ => 0, 0⟩

theorem threeFrameEnds_initialised (e : End) : Initialised (threeFrameEnds e).ivc := by
  cases e with
  | a => exact ⟨threeFrameIvc 0 0, 0x1000, 0x2000, 3, 64, none, rfl⟩
  | b => exact ⟨threeFrameIvc 0 0, 0x2000, 0x1000, 3, 64, none, rfl⟩

/-! ### The ledgers -/

/-- Bytes that an end saw: in which frame (by its number), from which offset. -/
structure Observation where
  frame : ℕ
  off : ℕ
  data : List U8

/-- What one end has done so far, and the frame pointers it holds. -/
structure Ledger where
  published : List (List U8)
  consumed : List (List U8)
  observed : List Observation
  writeHeld : Option ℕ
  readHeld : Option ℕ

def Ledger.empty : Ledger := ⟨[], [], [], none, none⟩

/-- The frame pointer that the caller may write to after a call. -/
def heldForWriting (old : Option ℕ) : IvcCall → IvcResult → Option ℕ
  | .writeGetNextFrame, .frame (.ok p) => some p
  | _, _ => old

/-- The frame pointer that the caller may read from after a call. -/
def heldForReading (old : Option ℕ) : IvcCall → IvcResult → Option ℕ
  | .readGetNextFrame, .frame (.ok p) => some p
  | _, _ => old

/-- Record a call that took the endpoint from `s` to `s'`: a frame is published when
`w_count` advanced and consumed when `r_count` did. -/
def Ledger.record (g : Ledger) (s : IvcWorld) (c : IvcCall) (r : IvcResult) (s' : IvcWorld) :
    Ledger where
  published := if s'.tx.wCount = s.tx.wCount then g.published
    else g.published ++ [slice s'.txFrames (writeOffset s) s.ivc.frameSize.toNat]
  consumed := if s'.rx.rCount = s.rx.rCount then g.consumed
    else g.consumed ++ [slice s.rxFrames (readOffset s) s.ivc.frameSize.toNat]
  observed := g.observed ++ [⟨g.consumed.length, c.offset, r.data⟩]
  writeHeld := if s'.tx.wCount = s.tx.wCount then heldForWriting g.writeHeld c r else none
  readHeld := if s'.rx.rCount = s.rx.rCount then heldForReading g.readHeld c r else none

/-! ### The machine -/

structure IvcLink where
  ends : Ends
  ledger : End → Ledger

inductive LinkAction where
  | call (e : End) (c : IvcCall)
  | fill (e : End) (off len : ℕ) (bytes : ℕ → U8)
  | look (e : End) (off len : ℕ)

/-- Write through the pointer of `tegra_ivc_write_get_next_frame`. -/
def IvcLink.fill (l : IvcLink) (e : End) (off len : ℕ) (bytes : ℕ → U8) (p : ℕ) : IvcLink :=
  { l with
    ends := update l.ends e
      { l.ends e with frames := blit (l.ends e).frames (p + off) len bytes } }

/-- Read through the pointer of `tegra_ivc_read_get_next_frame`. -/
def IvcLink.look (l : IvcLink) (e : End) (off len : ℕ) (p : ℕ) : IvcLink :=
  { l with
    ledger := update l.ledger e
      { l.ledger e with
        observed := (l.ledger e).observed ++
          [⟨(l.ledger e).consumed.length, off, slice (l.ends e.other).frames (p + off) len⟩] } }

def linkStep (l : IvcLink) : LinkAction → Option IvcLink
  | .call e c =>
    if c.isData then
      (l.ends.exec e c.code).map fun x =>
        { ends := x.2
          ledger := update l.ledger e
            ((l.ledger e).record (l.ends.view e) c x.1 (x.2.view e)) }
    else
      none
  | .fill e off len bytes =>
    if off + len ≤ (l.ends e).ivc.frameSize.toNat then
      (l.ledger e).writeHeld.map (l.fill e off len bytes)
    else
      none
  | .look e off len =>
    if off + len ≤ (l.ends e).ivc.frameSize.toNat then
      (l.ledger e).readHeld.map (l.look e off len)
    else
      none

/-- The start: both ends initialised alike, all counters 0, both established. -/
structure LinkStart (nframes frameSize : U32) (l : IvcLink) : Prop where
  initialised : ∀ e, Initialised (l.ends e).ivc
  nframes_eq : ∀ e, (l.ends e).ivc.nframes = nframes
  frameSize_eq : ∀ e, (l.ends e).ivc.frameSize = frameSize
  header : ∀ e, (l.ends e).header = ⟨0, ivcStateEstablished, 0⟩
  ledger : ∀ e, l.ledger e = Ledger.empty

end

/-!
## Two endpoints that reset their channel pair

`resetStep` lets each end make data calls, call `tegra_ivc_channel_reset` and run
`tegra_ivc_channel_notified`, one operation at a time.  The last one is cut into its
accesses to shared memory: the load of the peer's state, which also decides what to do
(`HandshakePhase.decide`), the clearing of the two own counters and of the positions, and
the store of the own state.  Between any two of them the other end may step.
-/

section

open Library Program

/-- The state that a run of `tegra_ivc_channel_notified` moves to. -/
inductive HandshakeTarget where
  | ack
  | established
  deriving DecidableEq

def HandshakeTarget.state : HandshakeTarget → U32
  | .ack => ivcStateAck
  | .established => ivcStateEstablished

/-- Where a run of `tegra_ivc_channel_notified` stands: the access it makes next. -/
inductive HandshakePhase where
  | idle
  | clearWCount (target : HandshakeTarget)
  | clearRCount (target : HandshakeTarget)
  | clearPositions (target : HandshakeTarget)
  | storeState (target : HandshakeTarget)
  deriving DecidableEq

def HandshakePhase.target : HandshakePhase → Option HandshakeTarget
  | .idle => none
  | .clearWCount t | .clearRCount t | .clearPositions t | .storeState t => some t

/-- The branches of `tegra_ivc_channel_notified` on the loaded states.
SOURCE: tegra-ivc.c:734-840 -/
def HandshakePhase.decide (peerState ownState : U32) : HandshakePhase :=
  if peerState = ivcStateSync then .clearWCount .ack
  else if ownState = ivcStateSync ∧ peerState = ivcStateAck then .clearWCount .established
  else if ownState = ivcStateAck then .storeState .established
  else .idle

/-- The access that a run makes next, and where it stands afterwards. -/
def HandshakePhase.next : HandshakePhase → Option (IvcProg Unit × HandshakePhase)
  | .idle => none
  | .clearWCount t => some (writeOnce .tx .wCount 0, .clearRCount t)
  | .clearRCount t => some (writeOnce .rx .rCount 0, .clearPositions t)
  | .clearPositions t => some (do setWPos 0; setRPos 0, .storeState t)
  | .storeState t => some (do writeOnce .tx .state t.state; notify, .idle)

/-- Two endpoints and where their handshakes stand. -/
structure ResetState where
  ends : Ends
  phase : End → HandshakePhase

inductive ResetAction where
  | call (e : End) (c : IvcCall)
  | reset (e : End)
  | load (e : End)
  | proceed (e : End)

/-- One step of either end; an operation starts when the end is idle. -/
def resetStep (s : ResetState) : ResetAction → Option ResetState
  | .call e c =>
    if s.phase e = .idle ∧ c.isData = true then
      (s.ends.exec e c.code).map fun x => { s with ends := x.2 }
    else
      none
  | .reset e =>
    if s.phase e = .idle then
      (s.ends.exec e tegraIvcChannelReset).map fun x => { s with ends := x.2 }
    else
      none
  | .load e =>
    if s.phase e = .idle then
      (s.ends.exec e (do
        let peerState ← readOnce .rx .state
        let ownState ← readOnce .tx .state
        return (HandshakePhase.decide peerState ownState))).map fun x =>
          { ends := x.2, phase := update s.phase e x.1 }
    else
      none
  | .proceed e =>
    (s.phase e).next.bind fun y =>
      (s.ends.exec e y.1).map fun x =>
        { ends := x.2, phase := update s.phase e y.2 }

/-- The start: both ends initialised alike, all counters 0, both established and idle. -/
structure ResetStart (nframes : U32) (s : ResetState) : Prop where
  initialised : ∀ e, Initialised (s.ends e).ivc
  nframes_eq : ∀ e, (s.ends e).ivc.nframes = nframes
  header : ∀ e, (s.ends e).header = ⟨0, ivcStateEstablished, 0⟩
  phase : ∀ e, s.phase e = .idle

/-- Both ends are established and outside `tegra_ivc_channel_notified`. -/
def ResetState.Settled (s : ResetState) : Prop :=
  ∀ e, (s.ends e).header.state = ivcStateEstablished ∧ s.phase e = .idle

/-- Counters and positions of each direction describe the same number of frames. -/
def ResetState.Consistent (nframes : U32) (s : ResetState) : Prop :=
  ∀ e, (s.ends e).header.wCount - (s.ends e).header.rCount ≤ nframes ∧
    (s.ends e).ivc.wPos.toNat ≡ (s.ends e.other).ivc.rPos.toNat +
      ((s.ends e).header.wCount - (s.ends e).header.rCount).toNat [MOD nframes.toNat]

/-- The condition on a step: no end in `ivc_state_sync` loads its peer's state while the
peer has decided to move to `ivc_state_established` and has not stored it yet. -/
def LoadsSettledPeer (s : ResetState) : ResetAction → Prop
  | .load e => (s.ends e).header.state = ivcStateSync →
      (s.phase e.other).target ≠ some .established
  | _ => True

instance (s : ResetState) : (a : ResetAction) → Decidable (LoadsSettledPeer s a)
  | .load e => inferInstanceAs (Decidable ((s.ends e).header.state = ivcStateSync →
      (s.phase e.other).target ≠ some .established))
  | .call _ _ | .reset _ | .proceed _ => isTrue trivial

end

/-!
## The steps of one writer and one reader

`tegra_ivc_write` and `tegra_ivc_read` are cut at the points where the other end can
interfere: the check, the copy, the store of the own counter, and the re-read of the
counters that decides on a notification.  `wakeStep` lets a writer (end `a`) and a reader
(end `b`) interleave these steps.

Two ghost fields remember the latest check of each side when it failed for lack of a
frame or of a slot, with the number of notifications that the peer had sent by then.
-/

section

open Library Program

/-- The part of `ivc_write_frame` between its check and `ivc_advance_tx`.
SOURCE: tegra-ivc.c:552-570 -/
def writeFrameCopy (buf : CopyBuffer) (contents : ℕ → U8) (size : U64) : IvcProg ℤ := do
  let ivc ← getIvc
  let p ← ivcFramePointer ivc.wPos
  copyFromBuffer buf p size.toNat contents
  if buf = .user true then
    return -eFAULT
  copyToFrame (p + size.toNat) (ivc.frameSize.toNat - size.toNat) fun _ => 0
  ivcFlushFrame ivc.txHandle ivc.wPos 0
  return 0

/-- The part of `ivc_read_frame` between its check and `ivc_advance_rx`.
SOURCE: tegra-ivc.c:383-404 -/
def readFrameCopy (buf : CopyBuffer) (maxRead : U64) : IvcProg (ℤ × List U8) := do
  let ivc ← getIvc
  ivcInvalidateFrame ivc.rxHandle ivc.rPos 0
  let src ← ivcFramePointer ivc.rPos
  let data ← copyToBuffer buf src maxRead.toNat
  if buf = .user true then
    return (-eFAULT, [])
  return (0, data)

inductive Phase (α : Type) where
  | idle
  | checked (args : α)
  | copied
  | stored

/-- The arguments of `ivc_write_frame`. -/
structure WriteArgs where
  buf : CopyBuffer
  contents : ℕ → U8
  size : U64

/-- The arguments of `ivc_read_frame`. -/
structure ReadArgs where
  buf : CopyBuffer
  maxRead : U64

/-- A writer at end `a` and a reader at end `b`. -/
structure WakeState where
  ends : Ends
  writer : Phase WriteArgs
  reader : Phase ReadArgs
  /-- The reader's latest check returned empty, when the writer had notified so often. -/
  sawEmpty : Option ℕ
  /-- The writer's latest check returned full, when the reader had notified so often. -/
  sawFull : Option ℕ

inductive WakeAction where
  | writerCheck (args : WriteArgs)
  | writerCopy
  | writerAdvance
  | writerDecide
  | readerCheck (args : ReadArgs)
  | readerCopy
  | readerAdvance
  | readerDecide

/-- Call `ivc_write_frame` and do its check. -/
def WakeState.writerCheck (s : WakeState) (args : WriteArgs) : Option WakeState :=
  if args.size > (s.ends .a).ivc.frameSize.setWidth 64 then
    some s
  else
    (s.ends.exec .a ivcCheckWrite).map fun x =>
      { s with
        ends := x.2
        writer := if x.1 = (0 : ℤ) then .checked args else .idle
        sawFull := if x.1 = -eNOMEM then some (s.ends .b).notified else none }

/-- Call `ivc_read_frame` and do its check. -/
def WakeState.readerCheck (s : WakeState) (args : ReadArgs) : Option WakeState :=
  if args.maxRead > (s.ends .b).ivc.frameSize.setWidth 64 then
    some s
  else
    (s.ends.exec .b ivcCheckRead).map fun x =>
      { s with
        ends := x.2
        reader := if x.1 = (0 : ℤ) then .checked args else .idle
        sawEmpty := if x.1 = -eNOMEM then some (s.ends .a).notified else none }

/-- One step of the writer or of the reader. -/
def wakeStep (s : WakeState) : WakeAction → Option WakeState
  | .writerCheck args =>
    match s.writer with
    | .idle => s.writerCheck args
    | _ => none
  | .writerCopy =>
    match s.writer with
    | .checked args =>
      (s.ends.exec .a (writeFrameCopy args.buf args.contents args.size)).map fun x =>
        { s with ends := x.2, writer := if x.1 = (0 : ℤ) then .copied else .idle }
    | _ => none
  | .writerAdvance =>
    match s.writer with
    | .copied =>
      (s.ends.exec .a ivcAdvanceTx).map fun x => { s with ends := x.2, writer := .stored }
    | _ => none
  | .writerDecide =>
    match s.writer with
    | .stored =>
      (s.ends.exec .a (notifyIfAvailCount .tx 1)).map fun x =>
        { s with ends := x.2, writer := .idle }
    | _ => none
  | .readerCheck args =>
    match s.reader with
    | .idle => s.readerCheck args
    | _ => none
  | .readerCopy =>
    match s.reader with
    | .checked args =>
      (s.ends.exec .b (readFrameCopy args.buf args.maxRead)).map fun x =>
        { s with ends := x.2, reader := if x.1.1 = (0 : ℤ) then .copied else .idle }
    | _ => none
  | .readerAdvance =>
    match s.reader with
    | .copied =>
      (s.ends.exec .b ivcAdvanceRx).map fun x => { s with ends := x.2, reader := .stored }
    | _ => none
  | .readerDecide =>
    match s.reader with
    | .stored =>
      (s.ends.exec .b (notifyIfAvailCount .rx ((s.ends .b).ivc.nframes - 1))).map fun x =>
        { s with ends := x.2, reader := .idle }
    | _ => none

/-- The header of the channel that the writer writes and the reader reads. -/
def WakeState.channel (s : WakeState) : IvcChannelHeader := (s.ends .a).header

/-- The start: an established channel of `nframes` frames with a valid fill, nobody inside a
call. -/
structure WakeStart (nframes : U32) (s : WakeState) : Prop where
  nframes_eq : ∀ e, (s.ends e).ivc.nframes = nframes
  established : ∀ e, (s.ends e).header.state = ivcStateEstablished
  fill : s.channel.wCount - s.channel.rCount ≤ nframes
  writer : s.writer = .idle
  reader : s.reader = .idle
  sawEmpty : s.sawEmpty = none
  sawFull : s.sawFull = none

end

/-!
## One endpoint against an untrusted peer

Between any two accesses of the endpoint the peer may put anything into the memory they
share; only the endpoint's `struct ivc` is out of its reach (`PeerMay`).  This covers a
peer that changes just the fields it owns.

`SafeConfig` is what is wanted of every configuration of the endpoint: between calls,
inside a call, at an assertion, and at a return.
-/

section

open Library Program

def PeerMay (s t : IvcWorld) : Prop := t.ivc = s.ivc

/-- The calls that take a frame from the peer. -/
def IvcCall.isReceive : IvcCall → Bool
  | .read _ | .readUser _ _ | .readPeek _ _ | .readGetNextFrame | .readAdvance => true
  | _ => false

/-- The latest snapshot of the receive counters in a call (its events, latest first) shows
between one and `nframes` frames. -/
def Snapshot (nframes : U32) (events : List IvcEvent) : Prop :=
  ∃ (w r : U32) (later earlier : List IvcEvent),
    events = later ++ .load .rx .rCount r :: .load .rx .wCount w :: earlier ∧
    (∀ v, .load .rx .wCount v ∉ later) ∧ 1 ≤ (w - r).toNat ∧ w - r ≤ nframes

/-- What an access may be: a copy stays inside the frame area, and a receive call takes a
frame (copies it, or advances `r_count` over it) only after such a snapshot. -/
def AccessOk (nframes frameSize : U32) (c : IvcCall) (events : List IvcEvent) :
    IvcEvent → Prop
  | .copyIn off len => off + len ≤ nframes.toNat * frameSize.toNat
  | .copyOut off len => off + len ≤ nframes.toNat * frameSize.toNat ∧ Snapshot nframes events
  | .store .rx .rCount _ => c.isReceive = true → Snapshot nframes events
  | _ => True

/-- What a result may be: a frame pointer points to a whole frame of the area, and comes
from such a snapshot when the call is a receive call. -/
def ResultOk (nframes frameSize : U32) (c : IvcCall) (r : IvcResult)
    (events : List IvcEvent) : Prop :=
  match r with
  | .frame (.ok p) => p + frameSize.toNat ≤ nframes.toNat * frameSize.toNat ∧
      (c.isReceive = true → Snapshot nframes events)
  | _ => True

abbrev IvcConfig := Prog.Config IvcWorld IvcEvent IvcBug IvcResult IvcCall

structure SafeConfig (nframes frameSize : U32) (x : IvcConfig) : Prop where
  wPos : x.state.ivc.wPos < nframes
  rPos : x.state.ivc.rPos < nframes
  access : ∀ c f k events s, x = .busy c (.act f k) events s →
    AccessOk nframes frameSize c events (f s).1
  bug : ∀ c b events s, x = .busy c (.bug b) events s → b ≠ .framePointer ∧ b ≠ .frameHandle
  result : ∀ c r events s, x = .busy c (.ret r) events s →
    ResultOk nframes frameSize c r events

end

/-!
## What the counters, the zero-copy calls and the queue regions are for

A frame may be copied by `tegra_ivc_read` and `tegra_ivc_write`, or be used in place and then advanced over.
Both ways are to leave the channel in the same state.  The counters say how many frames are free and, modulo
the number of frames, where the next ones are.  The two queues of a channel have memory of their own.
-/

section

open Library Program

/-! ### Advancing over a frame -/

/-- A caller gets the next frame, fills it and advances. -/
def zeroCopyWrite (contents : ℕ → U8) : IvcProg ℤ := do
  match ← tegraIvcWriteGetNextFrame with
  | .error result => return result
  | .ok p =>
    let ivc ← getIvc
    copyToFrame p ivc.frameSize.toNat contents
    tegraIvcWriteAdvance

/-- One more frame was read, and the peer was told as `tegra_ivc_read` would have told it. -/
structure ReadAdvanced (s s' : IvcWorld) : Prop where
  rCount : s'.rx.rCount = s.rx.rCount + 1
  rPos : s'.ivc.rPos.toNat = (s.ivc.rPos.toNat + 1) % s.ivc.nframes.toNat
  notified : s'.notified =
    if s.rx.wCount - (s.rx.rCount + 1) = s.ivc.nframes - 1 then s.notified + 1 else s.notified
  asRead : ∀ maxRead result data t, (tegraIvcRead maxRead).exec s = .ok ((result, data), t) →
    0 ≤ result → t = s'

/-- One more frame was written, and the peer was told as `tegra_ivc_write` would have told it. -/
structure WriteAdvanced (s s' : IvcWorld) : Prop where
  wCount : s'.tx.wCount = s.tx.wCount + 1
  wPos : s'.ivc.wPos.toNat = (s.ivc.wPos.toNat + 1) % s.ivc.nframes.toNat
  notified : s'.notified =
    if s.tx.wCount + 1 - s.tx.rCount = 1 then s.notified + 1 else s.notified
  asWrite : ∀ contents size result t, (tegraIvcWrite contents size).exec s = .ok (result, t) →
    0 ≤ result → t = { s' with txFrames := t.txFrames }

/-- The counters and positions are as before. -/
def SameCounters (s s' : IvcWorld) : Prop := s'.rx = s.rx ∧ s'.tx = s.tx ∧ s'.ivc = s.ivc

/-- The advancing calls do what the copying ones do, or fail without an effect. -/
structure AdvancesAsCopied (s : IvcWorld) : Prop where
  read : ∃ result s', tegraIvcReadAdvance.exec s = .ok (result, s') ∧
    (result = 0 ∧ ReadAdvanced s s' ∨ result < 0 ∧ SameCounters s s')
  write : ∃ result s', tegraIvcWriteAdvance.exec s = .ok (result, s') ∧
    (result = 0 ∧ WriteAdvanced s s' ∨ result < 0 ∧ SameCounters s s')
  inPlace : ∀ contents, ∃ result copied s', (zeroCopyWrite contents).exec s = .ok (result, s') ∧
    (tegraIvcWrite contents (s.ivc.frameSize.setWidth 64)).exec s = .ok (copied, s') ∧
    (result = 0 ∧ copied = toInt32 (s.ivc.frameSize.setWidth 64) ∨ result < 0 ∧ copied = result)

/-! ### Counters -/

/-- The number of free frames is told without reaching `BUG()`, and it is 0 if and only if the channel is
reported as full. -/
def FramesAvailableExact (s : IvcWorld) : Prop :=
  ∃ v, tegraIvcTxFramesAvailable.exec s = .ok (v, s) ∧
    v.toNat = s.ivc.nframes.toNat - (s.tx.wCount - s.tx.rCount).toNat ∧
    (v = 0 ↔ ivcCheckWrite.exec s = .ok (-eNOMEM, s))

/-- Synchronising the positions with the counters changes nothing. -/
def SyncKeepsPositions (s : IvcWorld) : Prop := tegraIvcChannelSync.exec s = .ok (0, s)

/-! ### Regions -/

/-- The regions of two queues do not wrap and have no byte in common. -/
def RegionsApart (rxBase txBase total : ℕ) : Prop :=
  rxBase + total ≤ 2 ^ 64 ∧ txBase + total ≤ 2 ^ 64 ∧
    ∀ x, ¬ ((rxBase ≤ x ∧ x < rxBase + total) ∧ (txBase ≤ x ∧ x < txBase + total))

/-- The initialisation reaches no `BUG()`, and gives a channel two queues apart from each other. -/
def InitKeepsQueuesApart (rxBase txBase : U64) (nframes frameSize : U32) : Prop :=
  ∀ (ivc : Ivc) (peerDevice : Option PeerDevice),
    (∃ x, tegraIvcInit ivc rxBase txBase nframes frameSize peerDevice = .ok x) ∧
    ∀ ivc', tegraIvcInit ivc rxBase txBase nframes frameSize peerDevice = .ok (0, ivc') →
      ∃ total, tegraIvcTotalQueueSize (nframes * frameSize) = .ok total ∧
        RegionsApart rxBase.toNat txBase.toNat total.toNat

end

end NvidiaOot.Model
