import NvidiaOot.Program.Types

/-!
# The trace of the camera processor

The rings that the camera processor writes, and the events and strings in them.

Sources are in `drivers/platform/tegra/rtcpu/`.
-/

namespace NvidiaOot.Program

/-!
## The trace memory of the camera processor

The firmware commits exceptions and events to two rings in a memory that it shares with the driver,
and advances an index for each.  A flush invalidates the cache for the new entries and passes them
on one after another.

Addresses are numbers; what a flush does with the memory is a list of accesses.
-/

/-! ### Layout (include/soc/tegra/camrtc-trace.h:47-97) -/

def CAMRTC_TRACE_NEXT_IDX_SIZE : ℕ := 64
def CAMRTC_TRACE_EXCEPTION_OFFSET : ℕ := 0x01000
def CAMRTC_TRACE_EVENT_OFFSET : ℕ := 0x10000
def CAMRTC_TRACE_EXCEPTION_SIZE : ℕ := 1024
def CAMRTC_TRACE_EVENT_SIZE : ℕ := 64

/-- `offsetof(struct camrtc_trace_memory_header, exception_next_idx)` -/
def exceptionNextIdxOffset : ℕ := 0x100

/-- What the driver keeps about the memory.  `exceptions_base` and `events` are offsets from
`trace_memory`.
SOURCE: tegra-rtcpu-trace.c:50-104 -/
structure RtcpuTrace where
  traceMemorySize : ℕ
  dmaHandle : ℕ
  exceptionsBase : ℕ
  events : ℕ
  dmaHandlePointers : ℕ
  dmaHandleExceptions : ℕ
  dmaHandleEvents : ℕ
  exceptionEntries : ℕ
  eventEntries : ℕ
  exceptionLastIdx : ℕ
  eventLastIdx : ℕ
  nExceptions : ℕ
  nEvents : ℕ
deriving DecidableEq, Repr

/-- SOURCE: tegra-rtcpu-trace.c:144-161 -/
def rtcpuTraceInitMemory (size : U32) (dmaHandle : ℕ) : RtcpuTrace where
  traceMemorySize := size.toNat
  dmaHandle := dmaHandle
  dmaHandlePointers := dmaHandle + exceptionNextIdxOffset
  exceptionsBase := CAMRTC_TRACE_EXCEPTION_OFFSET
  exceptionEntries := 7
  dmaHandleExceptions := dmaHandle + CAMRTC_TRACE_EXCEPTION_OFFSET
  events := CAMRTC_TRACE_EVENT_OFFSET
  eventEntries := (size - BitVec.ofNat 32 CAMRTC_TRACE_EVENT_OFFSET).toNat / CAMRTC_TRACE_EVENT_SIZE
  -- The offset of the exceptions, not of the events.
  dmaHandleEvents := dmaHandle + CAMRTC_TRACE_EXCEPTION_OFFSET
  exceptionLastIdx := 0
  eventLastIdx := 0
  nExceptions := 0
  nEvents := 0

/-! ### A flush -/

/-- What a flush does with the memory. -/
inductive TraceAccess where
  /-- `dma_sync_single_for_cpu` of a range of bus addresses. -/
  | syncForCpu (addr size : ℕ)
  /-- The exception at `trace_memory + offset` is read and passed on. -/
  | exception (offset : ℕ)
  /-- The event at `trace_memory + offset` is read and passed on. -/
  | event (offset : ℕ)
deriving DecidableEq, Repr

/-- A product of two values of type `u32`. -/
def mulU32 (a b : ℕ) : ℕ := a * b % 2 ^ 32

/-- SOURCE: tegra-rtcpu-trace.c:187-205 -/
def rtcpuTraceInvalidateEntries (dmaHandle oldNext newNext entrySize entryCount : ℕ) :
    List TraceAccess :=
  if newNext > oldNext then
    [.syncForCpu (dmaHandle + mulU32 oldNext entrySize) (mulU32 (newNext - oldNext) entrySize)]
  else
    [.syncForCpu (dmaHandle + mulU32 oldNext entrySize) (mulU32 (entryCount - oldNext) entrySize),
      .syncForCpu dmaHandle (mulU32 newNext entrySize)]

/-- The entries that the loops of a flush pass on, by their indices; `fuel` bounds the loop.
SOURCE: tegra-rtcpu-trace.c:318-328, 1207-1218 -/
def traceLoop (entries newNext : ℕ) : ℕ → ℕ → List ℕ
  | 0, _ => []
  | fuel + 1, oldNext =>
    if oldNext = newNext then []
    else
      let index := arrayIndexNospec oldNext entries
      index :: traceLoop entries newNext fuel (if index + 1 = entries then 0 else index + 1)

/-- `newNext` is `header->exception_next_idx`.
SOURCE: tegra-rtcpu-trace.c:289-331 -/
def rtcpuTraceExceptions (tracer : RtcpuTrace) (newNext : ℕ) : List TraceAccess × RtcpuTrace :=
  let oldNext := tracer.exceptionLastIdx
  if oldNext = newNext then ([], tracer)
  else if newNext ≥ tracer.exceptionEntries then ([], tracer)
  else
    let newNext := arrayIndexNospec newNext tracer.exceptionEntries
    let indices := traceLoop tracer.exceptionEntries newNext tracer.exceptionEntries oldNext
    (rtcpuTraceInvalidateEntries tracer.dmaHandleExceptions oldNext newNext
        CAMRTC_TRACE_EXCEPTION_SIZE tracer.exceptionEntries ++
      indices.map fun i => .exception (tracer.exceptionsBase + CAMRTC_TRACE_EXCEPTION_SIZE * i),
      { tracer with
        exceptionLastIdx := newNext
        nExceptions := tracer.nExceptions + indices.length })

/-- `newNext` is `header->event_next_idx`.
SOURCE: tegra-rtcpu-trace.c:1182-1222 -/
def rtcpuTraceEvents (tracer : RtcpuTrace) (newNext : ℕ) : List TraceAccess × RtcpuTrace :=
  let oldNext := tracer.eventLastIdx
  if newNext ≥ tracer.eventEntries then ([], tracer)
  else
    let newNext := arrayIndexNospec newNext tracer.eventEntries
    if oldNext = newNext then ([], tracer)
    else
      let indices := traceLoop tracer.eventEntries newNext tracer.eventEntries oldNext
      (rtcpuTraceInvalidateEntries tracer.dmaHandleEvents oldNext newNext
          CAMRTC_TRACE_EVENT_SIZE tracer.eventEntries ++
        indices.map fun i => .event (tracer.events + CAMRTC_TRACE_EVENT_SIZE * i),
        { tracer with
          eventLastIdx := newNext
          nEvents := tracer.nEvents + indices.length })

/-- SOURCE: tegra-rtcpu-trace.c:1224-1240 -/
def tegraRtcpuTraceFlush (tracer : RtcpuTrace) (exceptionNextIdx eventNextIdx : ℕ) :
    List TraceAccess × RtcpuTrace :=
  let exceptions := rtcpuTraceExceptions tracer exceptionNextIdx
  let events := rtcpuTraceEvents exceptions.2 eventNextIdx
  (.syncForCpu tracer.dmaHandlePointers CAMRTC_TRACE_NEXT_IDX_SIZE :: (exceptions.1 ++ events.1),
    events.2)

/-!
## Decoding the events of the camera processor

An event names its length and its type, and carries a payload.  The lengths come from the firmware;
what each consumer copies or runs over is recorded as a number of bytes.  A text goes to the log in
pieces, which are collected until a piece ends a line.
-/

/-! ### Events (include/soc/tegra/camrtc-trace.h:140-330) -/

def CAMRTC_TRACE_EVENT_HEADER_SIZE : U32 := 16
def CAMRTC_TRACE_EVENT_PAYLOAD_SIZE : ℕ := 48

/-- `struct camrtc_event_struct`; the payload has the bytes `data8`. -/
structure CamrtcEvent where
  len : U32
  id : U32
  data8 : List U8
  size : data8.length = CAMRTC_TRACE_EVENT_PAYLOAD_SIZE

def CAMRTC_EVENT_TYPE_ARRAY : ℕ := 0
def CAMRTC_EVENT_TYPE_ARMV7_EXCEPTION : ℕ := 1
def CAMRTC_EVENT_TYPE_PAD : ℕ := 2
def CAMRTC_EVENT_TYPE_START : ℕ := 3
def CAMRTC_EVENT_TYPE_STRING : ℕ := 4
def CAMRTC_EVENT_TYPE_BULK : ℕ := 5

def CAMRTC_EVENT_MODULE_BASE : ℕ := 1
def CAMRTC_EVENT_MODULE_RTOS : ℕ := 2
def CAMRTC_EVENT_MODULE_DBG : ℕ := 4
def CAMRTC_EVENT_MODULE_VINOTIFY : ℕ := 6
def CAMRTC_EVENT_MODULE_I2C : ℕ := 7
def CAMRTC_EVENT_MODULE_VI : ℕ := 8
def CAMRTC_EVENT_MODULE_ISP : ℕ := 9
def CAMRTC_EVENT_MODULE_NVCSI : ℕ := 10
def CAMRTC_EVENT_MODULE_CAPTURE : ℕ := 11
def CAMRTC_EVENT_MODULE_PERF : ℕ := 12

def camrtcEventTypeFromId (id : U32) : ℕ := id.toNat / 2 ^ 24
def camrtcEventModuleFromId (id : U32) : ℕ := id.toNat / 2 ^ 16 % 2 ^ 8

def camrtcEventMakeId (type module subid : ℕ) : U32 :=
  BitVec.ofNat 32 (type * 2 ^ 24 + module * 2 ^ 16 + subid)

def camrtcTraceTypeString : U32 := camrtcEventMakeId CAMRTC_EVENT_TYPE_STRING CAMRTC_EVENT_MODULE_BASE 0

/-- The ids of type `ARRAY` of a module. -/
def arrayIds (module : ℕ) (subids : List ℕ) : List U32 :=
  subids.map (camrtcEventMakeId CAMRTC_EVENT_TYPE_ARRAY module)

/-- `event->header.len - CAMRTC_TRACE_EVENT_HEADER_SIZE`, of type `u32`. -/
def CamrtcEvent.payloadLen (event : CamrtcEvent) : U32 := event.len - CAMRTC_TRACE_EVENT_HEADER_SIZE

/-! ### Consumers -/

/-- The bytes that the tracepoint copies from the payload.
SOURCE: include/trace/events/tegra_rtcpu.h:46-73 -/
def traceRtcpuDump (event : CamrtcEvent) : List ℕ := [event.payloadLen.toNat]

/-- The length that the tracepoint keeps for the text of `TEGRA_RTCPU_TRACE_STRING_SIZE` bytes that
it copies.
SOURCE: include/trace/events/tegra_rtcpu.h:109-127 -/
def traceRtcpuString (event : CamrtcEvent) : List ℕ := [event.payloadLen.toNat]

/-- Events whose ids are known are decoded from fixed words of the payload, the others are dumped. -/
def decodeOrDump (known : List U32) (event : CamrtcEvent) : List ℕ :=
  if event.id ∈ known then [] else traceRtcpuDump event

def camrtcTraceBaseIds : List U32 := arrayIds CAMRTC_EVENT_MODULE_BASE [1, 2]
def camrtcTraceRtosIds : List U32 := arrayIds CAMRTC_EVENT_MODULE_RTOS (List.range' 1 63)
def camrtcTraceDbgIds : List U32 := arrayIds CAMRTC_EVENT_MODULE_DBG [1, 2, 3, 4]
def camrtcTraceVinotifyIds : List U32 := arrayIds CAMRTC_EVENT_MODULE_VINOTIFY [1, 2, 3]
def camrtcTraceViIds : List U32 := arrayIds CAMRTC_EVENT_MODULE_VI [1, 2]
def camrtcTraceIspIds : List U32 := arrayIds CAMRTC_EVENT_MODULE_ISP [1, 2, 3]
def camrtcTraceNvcsiIds : List U32 := arrayIds CAMRTC_EVENT_MODULE_NVCSI [1]
/-- Without `inject` and `sensor`. -/
def camrtcTraceCaptureIds : List U32 :=
  arrayIds CAMRTC_EVENT_MODULE_CAPTURE [0, 1, 2, 3, 5, 6, 7, 9, 10, 14, 15]
def camrtcTracePerfIds : List U32 := arrayIds CAMRTC_EVENT_MODULE_PERF [0, 1]

/-- SOURCE: tegra-rtcpu-trace.c:333-349 -/
def rtcpuTraceBaseEvent : CamrtcEvent → List ℕ := decodeOrDump camrtcTraceBaseIds
/-- SOURCE: tegra-rtcpu-trace.c:351-631 -/
def rtcpuTraceRtosEvent : CamrtcEvent → List ℕ := decodeOrDump camrtcTraceRtosIds
/-- SOURCE: tegra-rtcpu-trace.c:633-659 -/
def rtcpuTraceDbgEvent : CamrtcEvent → List ℕ := decodeOrDump camrtcTraceDbgIds
/-- SOURCE: tegra-rtcpu-trace.c:682-712 -/
def rtcpuTraceVinotifyEvent : CamrtcEvent → List ℕ := decodeOrDump camrtcTraceVinotifyIds
/-- SOURCE: tegra-rtcpu-trace.c:764-779 -/
def rtcpuTraceViEvent : CamrtcEvent → List ℕ := decodeOrDump camrtcTraceViIds
/-- SOURCE: tegra-rtcpu-trace.c:880-898 -/
def rtcpuTraceIspEvent : CamrtcEvent → List ℕ := decodeOrDump camrtcTraceIspIds
/-- SOURCE: tegra-rtcpu-trace.c:917-937 -/
def rtcpuTraceNvcsiEvent : CamrtcEvent → List ℕ := decodeOrDump camrtcTraceNvcsiIds
/-- SOURCE: tegra-rtcpu-trace.c:960-1020 -/
def rtcpuTraceCaptureEvent : CamrtcEvent → List ℕ := decodeOrDump camrtcTraceCaptureIds
/-- SOURCE: tegra-rtcpu-trace.c:1022-1041 -/
def rtcpuTracePerfEvent : CamrtcEvent → List ℕ := decodeOrDump camrtcTracePerfIds

/-- SOURCE: tegra-rtcpu-trace.c:1043-1083 -/
def rtcpuTraceArrayEvent (event : CamrtcEvent) : List ℕ :=
  let module := camrtcEventModuleFromId event.id
  if module = CAMRTC_EVENT_MODULE_BASE then rtcpuTraceBaseEvent event
  else if module = CAMRTC_EVENT_MODULE_RTOS then rtcpuTraceRtosEvent event
  else if module = CAMRTC_EVENT_MODULE_DBG then rtcpuTraceDbgEvent event
  else if module = CAMRTC_EVENT_MODULE_VINOTIFY then rtcpuTraceVinotifyEvent event
  else if module = CAMRTC_EVENT_MODULE_I2C then []
  else if module = CAMRTC_EVENT_MODULE_VI then rtcpuTraceViEvent event
  else if module = CAMRTC_EVENT_MODULE_ISP then rtcpuTraceIspEvent event
  else if module = CAMRTC_EVENT_MODULE_NVCSI then rtcpuTraceNvcsiEvent event
  else if module = CAMRTC_EVENT_MODULE_CAPTURE then rtcpuTraceCaptureEvent event
  else if module = CAMRTC_EVENT_MODULE_PERF then rtcpuTracePerfEvent event
  else traceRtcpuDump event

/-! ### The log -/

/-- `sizeof(tracer->printk)` -/
def printkSize : ℕ := 2048

/-- A text up to its first NUL, as `%.*s` prints it. -/
def cString (text : List U8) : List U8 := text.takeWhile (· ≠ 0)

def isLineEnd (c : U8) : Bool := c = 13 || c = 10

/-- The number of bytes of the payload that go to the log.
SOURCE: tegra-rtcpu-trace.c:1093-1102 -/
def CamrtcEvent.logLen (event : CamrtcEvent) : ℕ :=
  let len :=
    if event.payloadLen.toNat > CAMRTC_TRACE_EVENT_PAYLOAD_SIZE then CAMRTC_TRACE_EVENT_PAYLOAD_SIZE
    else event.payloadLen.toNat
  if len = CAMRTC_TRACE_EVENT_PAYLOAD_SIZE then (cString event.data8).length else len

/-- The loop that drops the ends of lines, from a last byte that is one.
SOURCE: tegra-rtcpu-trace.c:1126-1130 -/
def dropLineEnds (printk : List U8) : ℕ → ℕ
  | 0 => 0
  | used + 1 =>
    if used = 0 then 0
    else if (printk[used - 1]?.any isLineEnd) then dropLineEnds printk used
    else used

/-- What a call of `trace_rtcpu_log` does: the line that it prints because the next piece does not
fit, the range of `printk` that it writes, the line that it prints because a piece ends it, and the
bytes of `printk` that are in use after it.  The bytes that were written behind them are not read. -/
structure LogCall where
  tooLong : Option (List U8)
  write : Option (ℕ × ℕ)
  line : Option (List U8)
  printk : List U8
deriving DecidableEq, Repr

/-- SOURCE: tegra-rtcpu-trace.c:1085-1140 -/
def traceRtcpuLog (printk : List U8) (event : CamrtcEvent) : LogCall :=
  if event.id ≠ camrtcTraceTypeString then ⟨none, none, none, printk⟩
  else
    let len := event.logLen
    let full := printk.length + len > printkSize
    let tooLong := if full then some (cString printk) else none
    let printk := if full then [] else printk
    let write := (printk.length, len)
    let printk := printk ++ event.data8.take len
    if printk.getLast?.any isLineEnd then
      ⟨tooLong, some write, some (cString (printk.take (dropLineEnds printk printk.length))), []⟩
    else ⟨tooLong, some write, none, printk⟩

/-- The lengths that are passed on.
SOURCE: tegra-rtcpu-trace.c:1142-1180 -/
def rtcpuTraceEvent (event : CamrtcEvent) : List ℕ :=
  let type := camrtcEventTypeFromId event.id
  if type = CAMRTC_EVENT_TYPE_ARRAY then rtcpuTraceArrayEvent event
  else if type = CAMRTC_EVENT_TYPE_ARMV7_EXCEPTION then []
  else if type = CAMRTC_EVENT_TYPE_PAD then []
  else if type = CAMRTC_EVENT_TYPE_START then []
  else if type = CAMRTC_EVENT_TYPE_STRING then traceRtcpuString event
  else if type = CAMRTC_EVENT_TYPE_BULK then traceRtcpuDump event
  else traceRtcpuDump event

/-- Whether the event goes on to `trace_rtcpu_log`.
SOURCE: tegra-rtcpu-trace.c:1159-1166 -/
def rtcpuTraceEventLogs (enablePrintk : Bool) (event : CamrtcEvent) : Bool :=
  camrtcEventTypeFromId event.id = CAMRTC_EVENT_TYPE_STRING && enablePrintk

/-- The bytes that `seq_puts` runs over, at least: a text without NUL is read behind its end. -/
def seqPutsLen (text : List U8) : ℕ := (cString text).length + 1

/-- The bytes of the saved event that the reader runs over, whose words have 4 bytes.
SOURCE: tegra-rtcpu-trace.c:1296-1336 -/
def rtcpuTraceDebugfsLastEventRead (nEvents : ℕ) (event : CamrtcEvent) : List ℕ :=
  if nEvents = 0 then []
  else
    let type := camrtcEventTypeFromId event.id
    if type = CAMRTC_EVENT_TYPE_ARRAY then [event.payloadLen.toNat / 4 * 4]
    else if type = CAMRTC_EVENT_TYPE_STRING then [seqPutsLen event.data8]
    else if type = CAMRTC_EVENT_TYPE_BULK then [event.payloadLen.toNat]
    else []

end NvidiaOot.Program
