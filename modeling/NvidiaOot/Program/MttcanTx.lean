import NvidiaOot.Program.Types

/-!
# Transmit buffers of the MTTCAN controller

The controller has up to 32 transmit buffers, with a bit for each of them in its registers.  The driver keeps two
masks beside them: `tx_object`, the buffers whose echo frame is outstanding, and `tx_obj_cancelled`, the
cancellations that it has seen.  `start_xmit` holds `tx_lock` from the choice of a buffer until the masks are
updated; it is two steps here, so that the controller and a bus-off can come in between.

Frames are numbered in the order in which they are accepted.  The echo slots are those of the CAN core:
`can_put_echo_skb` keeps a frame in a free slot and drops it otherwise, `can_get_echo_skb` echoes and
`can_free_echo_skb` frees the frame in a slot, and `close_candev` frees all of them.  The bytes sent are left out.

Sources are in `drivers/net/can/mttcan/native/`.
-/

namespace NvidiaOot.Program

/-! ## Masks -/

/-- `1 << i` -/
def maskBit (i : ℕ) : U32 := BitVec.twoPow 32 i

/-- `set_bit` -/
def setBit (x : U32) (i : ℕ) : U32 := x ||| maskBit i

/-- `clear_bit` -/
def clearBit (x : U32) (i : ℕ) : U32 := x &&& ~~~maskBit i

/-- The bits of a mask in the order in which a loop with `ffs` comes to them. -/
def bitsOf (x : U32) : List ℕ := (List.range 32).filter fun i => x.getLsbD i

/-- `ffs(x) - 1`, or none for -1. -/
def firstBit (x : U32) : Option ℕ := (List.range 32).find? fun i => x.getLsbD i

/-! ## State -/

/-- The controller, the driver and the CAN core. -/
structure MttcanTx where
  -- configuration: `tx_config.ded_buff_num`, and `tt_param[0] != 0`
  dedBuffNum : ℕ
  ttParam : Bool
  -- registers: requests that are pending, have transmitted, were cancelled, and are to be cancelled
  txbrp : U32
  txbto : U32
  txbcf : U32
  txbcr : U32
  -- the frame in each buffer of the message RAM
  ram : ℕ → ℕ
  -- the driver: its masks, and the buffer that `start_xmit` is working on
  txObject : U32
  txObjCancelled : U32
  xmitBuffer : Option ℕ
  up : Bool
  busOff : Bool
  restartScheduled : Bool
  queueStopped : Bool
  -- the CAN core
  echoSkb : List (Option ℕ)
  txPackets : ℕ
  txAbortedErrors : ℕ
  -- what has happened to the frames
  accepted : ℕ
  echoed : List ℕ
  freed : List ℕ
  dropped : List ℕ
  transmitted : List ℕ
  -- whether the handlers have run since a request was started or ended
  completeRan : Bool
  cancelledRan : Bool

/-- A controller that is up, without frames. -/
def MttcanTx.opened (dedBuffNum : ℕ) (ttParam : Bool) : MttcanTx where
  dedBuffNum := dedBuffNum
  ttParam := ttParam
  txbrp := 0
  txbto := 0
  txbcf := 0
  txbcr := 0
  ram _ := 0
  txObject := 0
  txObjCancelled := 0
  xmitBuffer := none
  up := true
  busOff := false
  restartScheduled := false
  queueStopped := false
  echoSkb := List.replicate 32 none
  txPackets := 0
  txAbortedErrors := 0
  accepted := 0
  echoed := []
  freed := []
  dropped := []
  transmitted := []
  completeRan := false
  cancelledRan := false

namespace MttcanTx

variable (s : MttcanTx)

/-! ## Sending -/

/-- A free dedicated buffer.
SOURCE: drivers/net/can/mttcan/hal/m_ttcan.c:503-525 -/
def ttcanTxMsgBuffer (txbrp : U32) : Option ℕ :=
  -- a shift by 32 is a shift by 0
  firstBit (~~~txbrp &&& ~~~s.txObject &&& (maskBit (s.dedBuffNum % 32) - 1))

/-- The buffer that the FIFO or queue puts the next frame in.
SOURCE: drivers/net/can/mttcan/hal/m_ttcan.c:576-599 -/
def ttcanTxFifoBuffer (txfqs : U32) : Option ℕ :=
  if txfqs.getLsbD 21 then none
  else
    let putIdx := (txfqs.toNat >>> 16) % 32
    if s.txObject.getLsbD putIdx then none else some putIdx

/-- The buffer for the next frame, for what the two registers read.
SOURCE: m_ttcan_linux.c:1395-1400 -/
def txBuffer (txbrp txfqs : U32) : Option ℕ :=
  match s.ttcanTxMsgBuffer txbrp with
  | some i => some i
  | none => s.ttcanTxFifoBuffer txfqs

/-- A write to TXBAR.
SOURCE: drivers/net/can/mttcan/hal/m_ttcan.c:498-501 -/
def ttcanTxTriggerMsgTransmit (i : ℕ) : MttcanTx :=
  { s with txbrp := setBit s.txbrp i, txbto := clearBit s.txbto i, txbcf := clearBit s.txbcf i }

/-- A frame is put into a free echo slot. -/
def canPutEchoSkb (i : ℕ) : MttcanTx :=
  match s.echoSkb[i]? with
  | some none => { s with echoSkb := s.echoSkb.set i (some s.accepted) }
  | _ => { s with dropped := s.dropped ++ [s.accepted] }

/-- The next frame is written into buffer `i`. -/
def acceptFrame (i : ℕ) : MttcanTx :=
  let s := { s with ram := Function.update s.ram i s.accepted }
  let s := s.canPutEchoSkb i
  let s := if s.ttParam then s else s.ttcanTxTriggerMsgTransmit i
  { s with accepted := s.accepted + 1, xmitBuffer := some i, completeRan := false, cancelledRan := false }

/-- The first half of `start_xmit`: without a buffer the queue is stopped.
SOURCE: m_ttcan_linux.c:1392-1412 -/
def startXmitBegin (txbrp txfqs : U32) : MttcanTx :=
  match s.txBuffer txbrp txfqs with
  | none => { s with queueStopped := true }
  | some i => s.acceptFrame i

/-- The second half, up to the unlock.
SOURCE: m_ttcan_linux.c:1414-1422 -/
def startXmitEnd (i : ℕ) : MttcanTx :=
  { s with
    txObject := setBit s.txObject i, txObjCancelled := clearBit s.txObjCancelled i, xmitBuffer := none }

/-! ## The end of a request -/

/-- The frame in an echo slot, if there is one. -/
def echoFrame (i : ℕ) : Option ℕ := (s.echoSkb[i]?).join

/-- `can_get_echo_skb`, and the frame counts as sent. -/
def completeOne (i : ℕ) : MttcanTx :=
  { s with
    txObject := clearBit s.txObject i
    txPackets := s.txPackets + 1
    echoed := s.echoed ++ (s.echoFrame i).toList
    echoSkb := s.echoSkb.set i none }

/-- SOURCE: m_ttcan_linux.c:630-658 -/
def mttcanTxComplete : MttcanTx :=
  let s' := (bitsOf (s.txbto &&& s.txObject)).foldl completeOne s
  { s' with queueStopped := false, completeRan := true }

/-- `can_free_echo_skb`, and the frame counts as aborted. -/
def freeOne (i : ℕ) : MttcanTx :=
  { s with
    txObject := clearBit s.txObject i
    txAbortedErrors := s.txAbortedErrors + 1
    freed := s.freed ++ (s.echoFrame i).toList
    echoSkb := s.echoSkb.set i none }

/-- The loop stops at the first buffer without an outstanding frame.
SOURCE: m_ttcan_linux.c:678-691 -/
def cancelLoop : List ℕ → MttcanTx → MttcanTx
  | [], s => s
  | i :: rest, s => if s.txObject.getLsbD i then cancelLoop rest (s.freeOne i) else s

/-- The cancellations that were not seen before. -/
def cancelledMsg : U32 := (s.txObjCancelled ^^^ s.txbcf) &&& ~~~s.txObjCancelled

/-- SOURCE: m_ttcan_linux.c:660-693 -/
def mttcanTxCancelled : MttcanTx :=
  let s' := cancelLoop (bitsOf s.cancelledMsg) { s with txObjCancelled := s.txbcf }
  { s' with
    queueStopped := if s.cancelledMsg = 0 then s.queueStopped else false
    cancelledRan := true }

/-! ## The controller -/

/-- A request ends: the frame was transmitted, or the request was cancelled, or both. -/
def requestEnd (i : ℕ) (sent cancelled : Bool) : MttcanTx :=
  { s with
    txbrp := clearBit s.txbrp i
    txbcr := clearBit s.txbcr i
    txbto := if sent then setBit s.txbto i else s.txbto
    txbcf := if cancelled then setBit s.txbcf i else s.txbcf
    transmitted := if sent then s.transmitted ++ [s.ram i] else s.transmitted
    completeRan := false
    cancelledRan := false }

/-- Setting `INIT` and `CCE` clears the internal state of the controller.
SOURCE: m_ttcan_linux.c:1364-1367 -/
def resetRegisters : MttcanTx := { s with txbrp := 0, txbto := 0, txbcf := 0, txbcr := 0 }

/-! ## Bus-off, close and open -/

/-- `CAN_STATE_BUS_OFF`, with an automatic restart or without.
SOURCE: m_ttcan_linux.c:496-514 -/
def stateChangeBusOff (restartMs : ℕ) : MttcanTx :=
  { s with
    busOff := true, txObject := 0, queueStopped := true,
    restartScheduled := s.restartScheduled || restartMs != 0 }

/-- SOURCE: m_ttcan_linux.c:1120-1161 -/
def mttcanStart : MttcanTx := { s.resetRegisters with busOff := false }

/-- SOURCE: m_ttcan_linux.c:1088-1118 -/
def mttcanBusOffRestart : MttcanTx :=
  { s.mttcanStart with restartScheduled := false, queueStopped := false }

/-- `can_flush_echo_skb`: every frame in a slot is freed and counts as aborted. -/
def canFlushEchoSkb : MttcanTx :=
  { s with
    freed := s.freed ++ s.echoSkb.filterMap id
    txAbortedErrors := s.txAbortedErrors + (s.echoSkb.filterMap id).length
    echoSkb := s.echoSkb.map fun _ => none }

/-- A restart by the user: the CAN core flushes the echo slots before it sets the mode.
SOURCE: m_ttcan_linux.c:1179-1190 -/
def mttcanSetMode : MttcanTx := { s.canFlushEchoSkb.mttcanStart with queueStopped := false }

/-- Without cancelling the restart that is scheduled.
SOURCE: m_ttcan_linux.c:1355-1379 -/
def mttcanClose : MttcanTx :=
  canFlushEchoSkb { s.resetRegisters with queueStopped := true, txObject := 0, up := false, busOff := false }

/-- SOURCE: m_ttcan_linux.c:1313-1353 -/
def mttcanOpen : MttcanTx := { s.mttcanStart with up := true, queueStopped := false }

end MttcanTx

end NvidiaOot.Program
