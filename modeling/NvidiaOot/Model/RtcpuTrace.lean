import Mathlib.Data.List.DropRight
import NvidiaOot.Library.Machine
import NvidiaOot.Library.RingSlots
import NvidiaOot.Program.RtcpuTrace

/-!
# Runs of the camera trace

The rings, and what is made of an event.
-/

namespace NvidiaOot.Model

/-!
## The firmware commits, the driver flushes

The firmware fills entries of the two rings, fewer than a ring holds between two flushes.  The cache
of the processor shows an entry as it was committed once a range that contains it was synchronized
after the commit.
-/

section

open Library Program

/-- The entries of a ring that were committed, and those that a flush has passed on. -/
structure TraceRing (α : Type) where
  committed : List α
  processed : List α

/-- The driver, the rings and the memory: its entries by their offsets; the entries, by offset and
size, that were committed after they were last synchronized; the ranges that were synchronized;
and the offsets of the entries that were read when they were not. -/
structure TraceRun (α : Type) where
  tracer : RtcpuTrace
  exceptions : TraceRing α
  events : TraceRing α
  memory : ℕ → α
  unsynced : List (ℕ × ℕ)
  synced : List (ℕ × ℕ)
  staleReads : List ℕ

variable {α : Type}

/-- The place of an exception in the memory. -/
def exceptionOffset (i : ℕ) : ℕ := CAMRTC_TRACE_EXCEPTION_OFFSET + CAMRTC_TRACE_EXCEPTION_SIZE * i

/-- The place of an event in the memory. -/
def eventOffset (i : ℕ) : ℕ := CAMRTC_TRACE_EVENT_OFFSET + CAMRTC_TRACE_EVENT_SIZE * i

/-- An entry lies in a range of bus addresses. -/
def InRange (dmaHandle addr size : ℕ) (entry : ℕ × ℕ) : Prop :=
  addr ≤ dmaHandle + entry.1 ∧ dmaHandle + entry.1 + entry.2 ≤ addr + size

instance InRange.decidable (dmaHandle addr size : ℕ) (entry : ℕ × ℕ) :
    Decidable (InRange dmaHandle addr size entry) :=
  inferInstanceAs (Decidable (_ ∧ _))

/-- What reading an entry adds to `staleReads`. -/
def TraceRun.readStale (s : TraceRun α) (entry : ℕ × ℕ) : List ℕ :=
  if entry ∈ s.unsynced then [entry.1] else []

def TraceRun.access (s : TraceRun α) : TraceAccess → TraceRun α
  | .syncForCpu addr size =>
    { s with
      synced := s.synced ++ [(addr, size)]
      unsynced := s.unsynced.filter fun entry => ¬ InRange s.tracer.dmaHandle addr size entry }
  | .exception offset =>
    { s with
      exceptions := { s.exceptions with processed := s.exceptions.processed ++ [s.memory offset] }
      staleReads := s.staleReads ++ s.readStale (offset, CAMRTC_TRACE_EXCEPTION_SIZE) }
  | .event offset =>
    { s with
      events := { s.events with processed := s.events.processed ++ [s.memory offset] }
      staleReads := s.staleReads ++ s.readStale (offset, CAMRTC_TRACE_EVENT_SIZE) }

/-- The firmware commits an entry, or the driver flushes. -/
inductive TraceOp (α : Type) where
  | commitException (x : α)
  | commitEvent (x : α)
  | flush

/-- The index that the firmware has advanced to. -/
def TraceRing.nextIdx (r : TraceRing α) (entries : ℕ) : ℕ := r.committed.length % entries

/-- A ring has a free entry for one more commit before the next flush. -/
def TraceRing.HasRoom (r : TraceRing α) (entries : ℕ) : Prop :=
  r.committed.length + 1 < r.processed.length + entries

instance TraceRing.decidableHasRoom (r : TraceRing α) (entries : ℕ) : Decidable (r.HasRoom entries) :=
  inferInstanceAs (Decidable (_ < _))

def TraceRing.commit (r : TraceRing α) (x : α) : TraceRing α := { r with committed := r.committed ++ [x] }

/-- An entry is committed to the memory. -/
def TraceRun.store (s : TraceRun α) (offset size : ℕ) (x : α) : TraceRun α :=
  { s with
    memory := fun o => if o = offset then x else s.memory o
    unsynced := (offset, size) :: s.unsynced }

def traceStep (s : TraceRun α) : TraceOp α → Option (TraceRun α)
  | .commitException x =>
    if s.exceptions.HasRoom s.tracer.exceptionEntries then
      some { s.store (exceptionOffset (s.exceptions.nextIdx s.tracer.exceptionEntries))
          CAMRTC_TRACE_EXCEPTION_SIZE x with exceptions := s.exceptions.commit x }
    else none
  | .commitEvent x =>
    if s.events.HasRoom s.tracer.eventEntries then
      some { s.store (eventOffset (s.events.nextIdx s.tracer.eventEntries))
          CAMRTC_TRACE_EVENT_SIZE x with events := s.events.commit x }
    else none
  | .flush =>
    let flush := tegraRtcpuTraceFlush s.tracer (s.exceptions.nextIdx s.tracer.exceptionEntries)
      (s.events.nextIdx s.tracer.eventEntries)
    some { flush.1.foldl TraceRun.access s with tracer := flush.2 }

def traceStart (size : U32) (dmaHandle : ℕ) (memory : ℕ → α) : TraceRun α where
  tracer := rtcpuTraceInitMemory size dmaHandle
  exceptions := ⟨[], []⟩
  events := ⟨[], []⟩
  memory := memory
  unsynced := []
  synced := []
  staleReads := []

/-! ### What is promised -/

/-- What was passed on was committed, in this order, each entry once. -/
def TraceRun.InOrder (s : TraceRun α) : Prop :=
  s.exceptions.processed <+: s.exceptions.committed ∧ s.events.processed <+: s.events.committed

def TraceRun.Drained (s : TraceRun α) : Prop :=
  s.exceptions.processed = s.exceptions.committed ∧ s.events.processed = s.events.committed

/-- The ranges that are synchronized are inside the memory. -/
def TraceRun.SyncsInside (s : TraceRun α) (size : U32) (dmaHandle : ℕ) : Prop :=
  ∀ range ∈ s.synced, dmaHandle ≤ range.1 ∧ range.1 + range.2 ≤ dmaHandle + size.toNat

/-- Nothing is read that was not synchronized since its commit. -/
def TraceRun.ReadsSynced (s : TraceRun α) : Prop := s.staleReads = []

def FlushDrains (s : TraceRun α) : TraceOp α → Prop
  | .flush => ∀ s', traceStep s .flush = some s' → s'.Drained
  | .commitException _ | .commitEvent _ => True

structure TraceSound (size : U32) (dmaHandle : ℕ) (memory : ℕ → α) (ops : List (TraceOp α)) :
    Prop where
  drains : AllSteps traceStep FlushDrains (traceStart size dmaHandle memory) ops
  final : ∀ t, run traceStep (traceStart size dmaHandle memory) ops = some t →
    t.InOrder ∧ t.SyncsInside size dmaHandle ∧ t.ReadsSynced

/-- The condition on a step: a flush finds no new event. -/
def TraceRun.Careful (s : TraceRun α) : TraceOp α → Prop
  | .flush => s.events.committed.length = s.events.processed.length
  | .commitException _ | .commitEvent _ => True

instance TraceRun.decidableCareful (s : TraceRun α) : ∀ op, Decidable (s.Careful op)
  | .flush => inferInstanceAs (Decidable (_ = _))
  | .commitException _ | .commitEvent _ => isTrue trivial

end

/-!
## Events of any contents

The driver takes one event after another, saves the last one of a flush, and the saved event is read
at any time.
-/

section

open Library Program

/-- The event that is saved before any other is. -/
def zeroEvent : CamrtcEvent where
  len := 0
  id := 0
  data8 := List.replicate CAMRTC_TRACE_EVENT_PAYLOAD_SIZE 0
  size := List.length_replicate

/-- The state of the driver, and what it did: the lengths that were passed on, the ranges of
`printk` that were written, the lines that were printed, each with the pieces that came since the
line before, the pieces since the last line, and all pieces. -/
structure DecodeRun where
  enablePrintk : Bool
  nEvents : ℕ
  lastEvent : CamrtcEvent
  copyLastEvent : CamrtcEvent
  printk : List U8
  passed : List ℕ
  writes : List (ℕ × ℕ)
  lines : List (List U8 × List (List U8))
  pending : List (List U8)
  received : List (List U8)

/-- The firmware's event is decoded, the flush ends, or the saved event is read. -/
inductive DecodeOp where
  | event (e : CamrtcEvent)
  | endFlush
  | readLast

/-- The piece of a text that an event carries. -/
def CamrtcEvent.piece (e : CamrtcEvent) : List U8 := e.data8.take e.logLen

/-- A call of the log: a line that is printed before the piece is copied has the pieces before it,
and one that is printed after it has this piece, too. -/
def DecodeRun.log (s : DecodeRun) (e : CamrtcEvent) : DecodeRun :=
  let call := traceRtcpuLog s.printk e
  if e.id ≠ camrtcTraceTypeString then { s with printk := call.printk }
  else
    let before := call.tooLong.toList.map fun text => (text, s.pending)
    let pending := (if call.tooLong.isSome then [] else s.pending) ++ [CamrtcEvent.piece e]
    let after := call.line.toList.map fun text => (text, pending)
    { s with
      printk := call.printk
      writes := s.writes ++ call.write.toList
      lines := s.lines ++ before ++ after
      pending := if call.line.isSome then [] else pending
      received := s.received ++ [CamrtcEvent.piece e] }

def decodeStep (s : DecodeRun) : DecodeOp → Option DecodeRun
  | .event e =>
    let s := { s with passed := s.passed ++ rtcpuTraceEvent e, nEvents := s.nEvents + 1, lastEvent := e }
    some (if rtcpuTraceEventLogs s.enablePrintk e then s.log e else s)
  | .endFlush => some { s with copyLastEvent := s.lastEvent }
  | .readLast =>
    some { s with passed := s.passed ++ rtcpuTraceDebugfsLastEventRead s.nEvents s.copyLastEvent }

def decodeStart (enablePrintk : Bool) : DecodeRun where
  enablePrintk := enablePrintk
  nEvents := 0
  lastEvent := zeroEvent
  copyLastEvent := zeroEvent
  printk := []
  passed := []
  writes := []
  lines := []
  pending := []
  received := []

/-! ### What is promised -/

/-- A text without the ends of lines behind it. -/
def withoutLineEnds (text : List U8) : List U8 := text.rdropWhile isLineEnd

structure DecodeRun.LogInside (s : DecodeRun) : Prop where
  used : s.printk.length ≤ printkSize
  writes : ∀ range ∈ s.writes, range.1 + range.2 ≤ printkSize

/-- A line is the concatenation of its pieces. -/
def LineExact (line : List U8 × List (List U8)) : Prop := line.1 = withoutLineEnds line.2.flatten

instance LineExact.decidable (line : List U8 × List (List U8)) : Decidable (LineExact line) :=
  inferInstanceAs (Decidable (_ = _))

/-- The lines have all the pieces but those that are pending. -/
def DecodeRun.LinesComplete (s : DecodeRun) : Prop :=
  (s.lines.map Prod.snd).flatten ++ s.pending = s.received

structure DecodeRun.Sound (s : DecodeRun) : Prop where
  /-- No length that is passed on is beyond the payload. -/
  passed : ∀ len ∈ s.passed, len ≤ CAMRTC_TRACE_EVENT_PAYLOAD_SIZE
  inside : s.LogInside
  exact : ∀ line ∈ s.lines, LineExact line
  complete : s.LinesComplete

/-! ### The condition -/

/-- The ids of the events that are decoded from fixed words. -/
def knownIds : List U32 :=
  camrtcTraceBaseIds ++ camrtcTraceRtosIds ++ camrtcTraceDbgIds ++ camrtcTraceVinotifyIds ++
    camrtcTraceViIds ++ camrtcTraceIspIds ++ camrtcTraceNvcsiIds ++ camrtcTraceCaptureIds ++
    camrtcTracePerfIds

/-- The event has a type for which its length is not looked at. -/
def IgnoresLength (id : U32) : Prop :=
  camrtcEventTypeFromId id = CAMRTC_EVENT_TYPE_ARMV7_EXCEPTION ∨
    camrtcEventTypeFromId id = CAMRTC_EVENT_TYPE_PAD ∨
    camrtcEventTypeFromId id = CAMRTC_EVENT_TYPE_START ∨
    camrtcEventTypeFromId id = CAMRTC_EVENT_TYPE_ARRAY ∧
      (camrtcEventModuleFromId id = CAMRTC_EVENT_MODULE_I2C ∨ id ∈ knownIds)

instance IgnoresLength.decidable (id : U32) : Decidable (IgnoresLength id) :=
  inferInstanceAs (Decidable (_ ∨ _ ∨ _ ∨ _ ∧ (_ ∨ _)))

/-- The length is that of a header and at most `limit` bytes of a payload. -/
def LengthWithin (e : CamrtcEvent) (limit : ℕ) : Prop :=
  CAMRTC_TRACE_EVENT_HEADER_SIZE.toNat ≤ e.len.toNat ∧
    e.len.toNat ≤ CAMRTC_TRACE_EVENT_HEADER_SIZE.toNat + limit

instance LengthWithin.decidable (e : CamrtcEvent) (limit : ℕ) : Decidable (LengthWithin e limit) :=
  inferInstanceAs (Decidable (_ ∧ _))

/-- What is printed with this piece has no NUL: the pieces before it if it does not fit, and the line
that it ends. -/
def PrintsText (printk piece : List U8) : Prop :=
  if printkSize < printk.length + piece.length then
    0 ∉ printk ∧ (piece.getLast?.any isLineEnd = true → 0 ∉ piece)
  else (printk ++ piece).getLast?.any isLineEnd = true → 0 ∉ printk ++ piece

instance PrintsText.decidable (printk piece : List U8) : Decidable (PrintsText printk piece) := by
  unfold PrintsText
  infer_instance

/-- What the saved event must be like when it is read: words of 4 bytes are read from an `ARRAY`. -/
def SavedWithin (e : CamrtcEvent) : Prop :=
  (camrtcEventTypeFromId e.id = CAMRTC_EVENT_TYPE_ARRAY →
      LengthWithin e (CAMRTC_TRACE_EVENT_PAYLOAD_SIZE + 3)) ∧
    (camrtcEventTypeFromId e.id = CAMRTC_EVENT_TYPE_STRING → 0 ∈ e.data8) ∧
    (camrtcEventTypeFromId e.id = CAMRTC_EVENT_TYPE_BULK → LengthWithin e CAMRTC_TRACE_EVENT_PAYLOAD_SIZE)

instance SavedWithin.decidable (e : CamrtcEvent) : Decidable (SavedWithin e) :=
  inferInstanceAs (Decidable (_ ∧ _ ∧ _))

def DecodeRun.Careful (s : DecodeRun) : DecodeOp → Prop
  | .event e =>
    (¬ IgnoresLength e.id → LengthWithin e CAMRTC_TRACE_EVENT_PAYLOAD_SIZE) ∧
      (s.enablePrintk = true → e.id = camrtcTraceTypeString → PrintsText s.printk (CamrtcEvent.piece e))
  | .endFlush => True
  | .readLast => s.nEvents ≠ 0 → SavedWithin s.copyLastEvent

instance DecodeRun.decidableCareful (s : DecodeRun) : ∀ op, Decidable (s.Careful op)
  | .event e => inferInstanceAs (Decidable ((¬ IgnoresLength e.id → _) ∧ (_ → _ → _)))
  | .endFlush => isTrue trivial
  | .readLast => inferInstanceAs (Decidable (s.nEvents ≠ 0 → _))

end

end NvidiaOot.Model
