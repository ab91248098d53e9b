import NvidiaOot.Program.MttcanTx

/-!
# Reception of the MTTCAN controller

The controller puts a frame into one of two FIFOs, which are rings, or into a dedicated buffer, and can report a
frame of a FIFO as a high-priority message.  `mttcan_poll_ir` passes on the high-priority message first and notes
its index in a mask, so that the loop over the FIFO skips it; the other frames go through a list for each source.

Frames are numbered in the order in which they arrive.  A poll is a sequence of turns, one for each access of the
controller's indices: more frames can arrive between them.  An allocation that fails is a number: that of the
first allocation of the turn that does.

Sources are in `drivers/net/can/mttcan/hal/`.
-/

namespace NvidiaOot.Program

open Function

/-- The two FIFOs. -/
inductive RxFifoId where
  | fifo0
  | fifo1
deriving DecidableEq, Repr

/-- `enum ttcan_rx_type`
SOURCE: drivers/net/can/mttcan/include/m_ttcan.h:133-138 -/
inductive TtcanRxType where
  | buffer
  | fifo (q : RxFifoId)
deriving DecidableEq, Repr

/-- The value of the enumeration, a bit of `list_status`. -/
def TtcanRxType.bits : TtcanRxType → BitVec 16
  | .buffer => 1
  | .fifo .fifo0 => 2
  | .fifo .fifo1 => 4

/-- A FIFO of the controller: its size, its get index, its fill level and the frames in its elements. -/
structure RxFifo where
  num : ℕ
  getIdx : ℕ
  level : ℕ
  ram : ℕ → ℕ

namespace RxFifo

variable (f : RxFifo)

/-- The index of the element `k` places behind the get index. -/
def idxAt (k : ℕ) : ℕ := (f.getIdx + k) % f.num

/-- A frame is put behind the others. -/
def put (x : ℕ) : RxFifo := { f with ram := update f.ram (f.idxAt f.level) x, level := f.level + 1 }

/-- The element of the get index is acknowledged. -/
def ack : RxFifo := { f with getIdx := f.idxAt 1, level := f.level - 1 }

end RxFifo

/-- How a frame is passed on. -/
inductive RxPath where
  | hpm
  | list (t : TtcanRxType)
deriving DecidableEq, Repr

/-- Where a frame arrived: a FIFO, or a dedicated buffer. -/
inductive RxOrigin where
  | fifo (q : RxFifoId)
  | element (i : ℕ)
deriving DecidableEq, Repr

/-- The interrupts that a poll handles. -/
structure RxIr where
  hpm : Bool
  drx : Bool
  rf1l : Bool
  rf0l : Bool
  rf1 : Bool
  rf0 : Bool
deriving DecidableEq, Repr

/-- The interrupts of a FIFO. -/
def RxIr.fifo (ir : RxIr) : RxFifoId → Bool
  | .fifo0 => ir.rf0
  | .fifo1 => ir.rf1

/-- Where a poll is, with the variables of the loop it is in. -/
inductive RxPollAt where
  | idle
  | hpm
  | buffer
  | bufferLoop (ndat1 ndat2 : U32) (msgsRead : ℕ)
  | bufferList (recMsgs : ℕ)
  | lost
  | fifoStart (q : RxFifoId)
  | fifoLoop (q : RxFifoId) (more : Bool) (qRead msgsRead : ℕ)
  | fifoList (q : RxFifoId) (recMsgs : ℕ)
deriving DecidableEq

/-- The controller and the driver. -/
structure MttcanRx where
  -- the controller; `hpmsMsi` and `hpmsBidx` are fields of HPMS
  fifo : RxFifoId → RxFifo
  ndat1 : U32
  ndat2 : U32
  rxb : ℕ → ℕ
  hpmsMsi : ℕ
  hpmsBidx : ℕ
  -- the driver: `rxq0_bmsk` and `rxq1_bmsk`, the lists and their lengths
  bmsk : RxFifoId → U64
  list : TtcanRxType → List ℕ
  mem : TtcanRxType → ℕ
  listStatus : BitVec 16
  rxPackets : ℕ
  rxDropped : ℕ
  -- the poll
  pollAt : RxPollAt
  ir : RxIr
  quota : ℤ
  workDone : ℤ
  -- what has happened to the frames, and the elements that were read for the bits of NDAT
  arrived : ℕ
  origin : ℕ → RxOrigin
  acked : List ℕ
  received : List (RxPath × ℕ)
  freed : List ℕ
  bufferReads : List (ℕ × ℕ)

namespace MttcanRx

variable (s : MttcanRx)

/-! ## Masks -/

/-- `1 << i` of an `int` beside a 64-bit mask: the shift is modulo 32 and the sign is extended. -/
def shiftInt (i : ℕ) : U64 := ((1 : U32) <<< (i % 32)).signExtend 64

/-- `~(1U << i)` beside a 64-bit mask. -/
def notShiftUnsigned (i : ℕ) : U64 := (~~~((1 : U32) <<< (i % 32))).setWidth 64

/-- `ffs(x) - 1` as a `u32`. -/
def ffsIdx (x : U32) : ℕ := (firstBit x).getD (2 ^ 32 - 1)

/-! ## The lists -/

/-- SOURCE: m_ttcan_list.c:10-14 -/
def isMsgListFull (t : TtcanRxType) : Bool := s.listStatus &&& t.bits &&& 0xFF != 0

/-- `TTCAN_MAX_LIST_MEMBERS` -/
def ttcanMaxListMembers : ℕ := 128

/-- A frame is put at the end of a list, or is not taken.
SOURCE: m_ttcan_list.c:16-64 -/
def addMsgControllerList (t : TtcanRxType) (x : ℕ) (allocFails : Bool) : Option MttcanRx :=
  if allocFails then none
  else if s.isMsgListFull t then none
  else some
    { s with
      list := update s.list t (s.list t ++ [x])
      mem := update s.mem t (s.mem t + 1)
      listStatus :=
        if ttcanMaxListMembers ≤ s.mem t + 1 then s.listStatus ||| t.bits else s.listStatus }

/-! ## High-priority messages -/

/-- The FIFO of a high-priority message. -/
def hpmsFifo : ℕ → Option RxFifoId
  | 2 => some .fifo0
  | 3 => some .fifo1
  | _ => none

/-- The message, and the mask with its index.
SOURCE: m_ttcan.c:805-849 -/
def ttcanReadHpMesgs : MttcanRx × Option ℕ :=
  match hpmsFifo s.hpmsMsi with
  | none => (s, none)
  | some q =>
    ({ s with bmsk := update s.bmsk q (s.bmsk q ||| shiftInt s.hpmsBidx) },
      some ((s.fifo q).ram s.hpmsBidx))

/-- SOURCE: drivers/net/can/mttcan/native/m_ttcan_linux.c:332-368 -/
def mttcanHpmDoReceive (x : ℕ) (allocFails : Bool) : MttcanRx × ℤ :=
  if allocFails then ({ s with rxDropped := s.rxDropped + 1, freed := s.freed ++ [x] }, 0)
  else ({ s with rxPackets := s.rxPackets + 1, received := s.received ++ [(.hpm, x)] }, 1)

/-! ## Dedicated buffers -/

/-- The element is read and put into the list; then the bit of NDAT1, or of NDAT2, is written.
SOURCE: m_ttcan.c:611-616, 631-639, 641-649 -/
def processRxMesg (second : Bool) (element bit : ℕ) (allocFails : Bool) : MttcanRx × Bool :=
  let number := if second then 32 + bit else bit
  let s' := { s with bufferReads := s.bufferReads ++ [(number, element)] }
  match s'.addMsgControllerList .buffer (s.rxb element) allocFails with
  | none => (s', false)
  | some t =>
    ({ t with
        ndat1 := if second then t.ndat1 else clearBit t.ndat1 bit
        ndat2 := if second then clearBit t.ndat2 bit else t.ndat2
        acked := t.acked ++ [s.rxb number] }, true)

/-- The half of a turn that is for NDAT1, or for NDAT2: a register without bits is passed by. -/
def readRxBufferHalf (second : Bool) (ndat : U32) (allocFails : Bool) : MttcanRx × Bool :=
  if ndat = 0 then (s, true) else s.processRxMesg second (ffsIdx ndat) (ffsIdx ndat) allocFails

/-- A turn of the loop of `ttcan_read_rx_buffer`.
SOURCE: m_ttcan.c:627-652 -/
def ttcanReadRxBufferTurn (ndat1 ndat2 : U32) (msgsRead : ℕ) (failAt : Option ℕ) : MttcanRx :=
  if ndat1 = 0 ∧ ndat2 = 0 then { s with pollAt := .bufferList msgsRead }
  else
    let r := s.readRxBufferHalf false ndat1 (failAt = some 0)
    if r.2 then
      let msgsRead := if ndat1 = 0 then msgsRead else msgsRead + 1
      let r' := r.1.readRxBufferHalf true ndat2 (failAt = some (if ndat1 = 0 then 0 else 1))
      if r'.2 then
        let msgsRead := if ndat2 = 0 then msgsRead else msgsRead + 1
        { r'.1 with
          pollAt := .bufferLoop (clearBit ndat1 (ffsIdx ndat1 % 32)) (clearBit ndat2 (ffsIdx ndat2 % 32)) msgsRead }
      else { r'.1 with pollAt := .bufferList msgsRead }
    else { r.1 with pollAt := .bufferList msgsRead }

/-! ## FIFOs -/

/-- The element of the get index is acknowledged. -/
def ackFifo (q : RxFifoId) : MttcanRx :=
  { s with
    fifo := update s.fifo q (s.fifo q).ack
    acked := s.acked ++ [(s.fifo q).ram (s.fifo q).getIdx] }

/-- The fill level is not 0. -/
def fillLevel (q : RxFifoId) : Bool := (s.fifo q).level != 0

/-- The element of the get index was passed on before.  The mask is cleared at its index. -/
def skipHpm (q : RxFifoId) : MttcanRx :=
  let t := s.ackFifo q
  { t with bmsk := update t.bmsk q (t.bmsk q &&& notShiftUnsigned (s.fifo q).getIdx) }

/-- A turn of the loop of `ttcan_read_rx_fifo0` and `ttcan_read_rx_fifo1`.
SOURCE: m_ttcan.c:716-744, 763-789 -/
def ttcanReadRxFifoTurn (q : RxFifoId) (more : Bool) (qRead msgsRead : ℕ) (failAt : Option ℕ) : MttcanRx :=
  if more = true ∧ qRead ≠ 0 then
    if s.bmsk q &&& shiftInt (s.fifo q).getIdx ≠ 0 then
      let t := s.skipHpm q
      { t with pollAt := .fifoLoop q (t.fillLevel q) (qRead - 1) msgsRead }
    else
      match s.addMsgControllerList (.fifo q) ((s.fifo q).ram (s.fifo q).getIdx) (failAt = some 0) with
      | none => { s with pollAt := .fifoList q msgsRead }
      | some t =>
        let t := t.ackFifo q
        { t with pollAt := .fifoLoop q (t.fillLevel q) (qRead - 1) (msgsRead + 1) }
  else { s with pollAt := .fifoList q msgsRead }

/-! ## Passing frames on -/

/-- The loop over the frames that were taken from a list.  What is left when it stops is not kept anywhere; the
number is what it returns.
SOURCE: drivers/net/can/mttcan/native/m_ttcan_linux.c:406-448 -/
def receiveLoop (t : TtcanRxType) (recMsgs : ℕ) : List ℕ → ℤ → Option ℕ → ℕ → MttcanRx → MttcanRx × ℤ
  | [], _, _, pushed, s => (s, recMsgs - pushed)
  | x :: rest, quota, failAt, pushed, s =>
    if quota = 0 then (s, recMsgs - pushed)
    else if failAt = some 0 then ({ s with rxDropped := s.rxDropped + pushed }, 0)
    else
      receiveLoop t recMsgs rest (quota - 1) (failAt.map (· - 1)) (pushed - 1)
        { s with rxPackets := s.rxPackets + 1, received := s.received ++ [(.list t, x)] }

/-- The list is emptied. -/
def spliceList (t : TtcanRxType) : MttcanRx :=
  { s with
    list := update s.list t []
    mem := update s.mem t 0
    listStatus := s.listStatus &&& ~~~(t.bits &&& 0xFF) }

/-- SOURCE: drivers/net/can/mttcan/native/m_ttcan_linux.c:370-449 -/
def mttcanReadRcvList (t : TtcanRxType) (recMsgs : ℕ) (quota : ℤ) (failAt : Option ℕ) : MttcanRx × ℤ :=
  if s.list t = [] then (s, 0)
  else receiveLoop t recMsgs (s.list t) quota failAt recMsgs (s.spliceList t)

/-! ## Polls -/

/-- What comes after a FIFO. -/
def afterFifo : RxFifoId → RxPollAt
  | .fifo1 => .fifoStart .fifo0
  | .fifo0 => .idle

/-- The high-priority message of a poll. -/
def hpmTurn (failAt : Option ℕ) : MttcanRx :=
  match s.ttcanReadHpMesgs with
  | (t, none) => t
  | (t, some x) =>
    let r := t.mttcanHpmDoReceive x (failAt = some 0)
    { r.1 with workDone := r.1.workDone + r.2 }

/-- A list is passed on, with what is left of the quota. -/
def listTurn (t : TtcanRxType) (recMsgs : ℕ) (failAt : Option ℕ) : MttcanRx :=
  let r := s.mttcanReadRcvList t recMsgs (s.quota - s.workDone) failAt
  { r.1 with workDone := r.1.workDone + r.2 }

/-- The next turn of a poll.
SOURCE: drivers/net/can/mttcan/native/m_ttcan_linux.c:788-860 -/
def mttcanPollIr (failAt : Option ℕ) : MttcanRx :=
  match s.pollAt with
  | .idle => s
  | .hpm => { (if s.ir.hpm then s.hpmTurn failAt else s) with pollAt := .buffer }
  | .buffer => { s with pollAt := if s.ir.drx then .bufferLoop s.ndat1 s.ndat2 0 else .lost }
  | .bufferLoop ndat1 ndat2 msgsRead => s.ttcanReadRxBufferTurn ndat1 ndat2 msgsRead failAt
  | .bufferList recMsgs => { s.listTurn .buffer recMsgs failAt with pollAt := .lost }
  | .lost =>
    { s with pollAt := .fifoStart .fifo1, workDone := s.workDone + s.ir.rf1l.toNat + s.ir.rf0l.toNat }
  | .fifoStart q =>
    { s with pollAt := if s.ir.fifo q then .fifoLoop q (s.fillLevel q) (s.fifo q).num 0 else afterFifo q }
  | .fifoLoop q more qRead msgsRead => s.ttcanReadRxFifoTurn q more qRead msgsRead failAt
  | .fifoList q recMsgs => { s.listTurn (.fifo q) recMsgs failAt with pollAt := afterFifo q }

/-! ## The controller -/

/-- `msi` of a message that was stored. -/
def msiOf : RxFifoId → ℕ
  | .fifo0 => 2
  | .fifo1 => 3

/-- A frame arrives for a FIFO: it is stored, or lost when the FIFO is full.  A high-priority message is reported
in both cases. -/
def arriveFifo (q : RxFifoId) (hp : Bool) : MttcanRx :=
  if (s.fifo q).level < (s.fifo q).num then
    { s with
      fifo := update s.fifo q ((s.fifo q).put s.arrived)
      hpmsMsi := if hp then msiOf q else s.hpmsMsi
      hpmsBidx := if hp then (s.fifo q).idxAt (s.fifo q).level else s.hpmsBidx
      arrived := s.arrived + 1
      origin := update s.origin s.arrived (.fifo q) }
  else { s with hpmsMsi := if hp then 1 else s.hpmsMsi }

/-- The new-data flag of a dedicated buffer. -/
def newData (i : ℕ) : Bool := if i < 32 then s.ndat1.getLsbD i else s.ndat2.getLsbD (i - 32)

/-- A frame arrives in a dedicated buffer. -/
def arriveBuffer (i : ℕ) : MttcanRx :=
  { s with
    rxb := update s.rxb i s.arrived
    ndat1 := if i < 32 then setBit s.ndat1 i else s.ndat1
    ndat2 := if i < 32 then s.ndat2 else setBit s.ndat2 (i - 32)
    arrived := s.arrived + 1
    origin := update s.origin s.arrived (.element i) }

end MttcanRx

/-- The driver and a controller with FIFOs of these sizes, without frames. -/
def MttcanRx.opened (num : RxFifoId → ℕ) : MttcanRx where
  fifo q := ⟨num q, 0, 0, fun _ => 0⟩
  ndat1 := 0
  ndat2 := 0
  rxb _ := 0
  hpmsMsi := 0
  hpmsBidx := 0
  bmsk _ := 0
  list _ := []
  mem _ := 0
  listStatus := 0
  rxPackets := 0
  rxDropped := 0
  pollAt := .idle
  ir := ⟨false, false, false, false, false, false⟩
  quota := 0
  workDone := 0
  arrived := 0
  origin _ := .element 0
  acked := []
  received := []
  freed := []
  bufferReads := []

end NvidiaOot.Program
