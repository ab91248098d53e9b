import NvidiaOot.Program.MttcanTx

/-!
# Runs of the MTTCAN transmit path

A step is the begin or the end of `start_xmit`, a handler of `mttcan_poll_ir`, a request to cancel, the end of a
request in the controller, a bus-off, a restart, or a close or an open.  `start_xmit` and the two handlers hold
`tx_lock`, so a handler does not run between the two halves of `start_xmit`.  The queue is not asked whether it
is stopped: what holds does so for any order of frames.

`TxSlotsKept` is what the transmit slots are for: a buffer that is written is free, `tx_object` has the bits of
the frames that are outstanding, each accepted frame is outstanding, echoed or freed exactly once, it is echoed iff
the controller has sent it, and the slots drain.
-/

namespace NvidiaOot.Model

open Program

inductive TxOp where
  | xmitBegin (txbrp txfqs : U32)
  | xmitEnd
  | txComplete
  | txCancelled
  | cancelRequest (txbcr : U32)
  | requestEnd (i : ℕ) (sent cancelled : Bool)
  | busOff (restartMs : ℕ)
  | restart
  | setMode
  | close
  | reopen
deriving DecidableEq

/-- A request ends with its frame sent, cancelled, or sent although cancellation was requested. -/
def requestMayEnd (s : MttcanTx) (i : ℕ) (sent cancelled : Bool) : Bool :=
  s.txbrp.getLsbD i && (sent || cancelled) && (!(sent && cancelled) || s.txbcr.getLsbD i)

/-- One step.  `start_xmit` reads TXBRP before it uses it: requests may end in between. -/
def txStep (s : MttcanTx) : TxOp → Option MttcanTx
  | .xmitBegin txbrp txfqs =>
    if s.up ∧ s.xmitBuffer = none ∧ s.txbrp &&& ~~~txbrp = 0 then some (s.startXmitBegin txbrp txfqs) else none
  | .xmitEnd => s.xmitBuffer.map s.startXmitEnd
  | .txComplete => if s.up ∧ s.xmitBuffer = none then some s.mttcanTxComplete else none
  | .txCancelled => if s.up ∧ s.xmitBuffer = none then some s.mttcanTxCancelled else none
  | .cancelRequest txbcr => some { s with txbcr := s.txbcr ||| (txbcr &&& s.txbrp) }
  | .requestEnd i sent cancelled =>
    if requestMayEnd s i sent cancelled then some (s.requestEnd i sent cancelled) else none
  | .busOff restartMs => if s.up ∧ s.busOff = false then some (s.stateChangeBusOff restartMs) else none
  | .restart => if s.restartScheduled then some s.mttcanBusOffRestart else none
  | .setMode => if s.up ∧ s.busOff ∧ s.restartScheduled = false then some s.mttcanSetMode else none
  | .close => if s.up ∧ s.xmitBuffer = none then some s.mttcanClose else none
  | .reopen => if s.up then none else some s.mttcanOpen

/-- Every frame that was accepted, where it is now. -/
def txFrames (s : MttcanTx) : List ℕ := s.echoed ++ s.freed ++ s.echoSkb.filterMap id

structure TxSlotsKept (s : MttcanTx) : Prop where
  writable : ∀ (txbrp txfqs : U32) (i : ℕ), s.xmitBuffer = none → s.txbrp &&& ~~~txbrp = 0 →
    s.txBuffer txbrp txfqs = some i → s.txbrp.getLsbD i = false ∧ s.echoFrame i = none
  object : s.xmitBuffer = none → ∀ i, s.txObject.getLsbD i = true ↔ (s.echoFrame i).isSome
  once : (txFrames s).Perm (List.range s.accepted)
  counted : s.txPackets = s.echoed.length ∧ s.txAbortedErrors = s.freed.length
  sent : ∀ f, (f ∈ s.echoed → f ∈ s.transmitted) ∧ (f ∈ s.freed → f ∉ s.transmitted)
  drained : s.xmitBuffer = none → s.txbrp = 0 → s.completeRan → s.cancelledRan → s.txObject = 0

/-! ## The condition -/

/-- A cancellation that `mttcan_tx_cancelled` has not seen belongs to a buffer before `i` that has no outstanding
frame: there its loop stops. -/
def stopsBefore (s : MttcanTx) (i : ℕ) : Bool :=
  (List.range i).any fun j => s.cancelledMsg.getLsbD j && !s.txObject.getLsbD j

/-- The loop of `mttcan_tx_cancelled` passes by the frames that were sent, and by no others. -/
def CancelFits (s : MttcanTx) : Prop :=
  ∀ i < 32, s.cancelledMsg.getLsbD i = true → s.txObject.getLsbD i = true →
    (s.txbto.getLsbD i = stopsBefore s i)

/-- No frame of a buffer whose echo is outstanding was sent. -/
def NoneSent (s : MttcanTx) : Prop :=
  ∀ i < 32, s.txObject.getLsbD i = true → s.txbto.getLsbD i = false

def SlotsEmpty (s : MttcanTx) : Prop := s.echoSkb.filterMap id = []

instance CancelFits.decidable (s : MttcanTx) : Decidable (CancelFits s) := Nat.decidableBallLT 32 _
instance NoneSent.decidable (s : MttcanTx) : Decidable (NoneSent s) := Nat.decidableBallLT 32 _
instance SlotsEmpty.decidable (s : MttcanTx) : Decidable (SlotsEmpty s) := decEq _ _

/-- A step on which no frame loses its slot: the controller starts what it is given, a bus-off finds nothing
outstanding, a restart finds the slots empty, and a close finds nothing that was sent. -/
def TxCareful (s : MttcanTx) : TxOp → Prop
  | .xmitBegin _ _ => s.ttParam = false
  | .txCancelled => CancelFits s
  | .busOff _ => s.txObject = 0
  | .restart => SlotsEmpty s
  | .setMode => SlotsEmpty s
  | .close => NoneSent s
  | _ => True

instance TxCareful.decidable (s : MttcanTx) : ∀ op, Decidable (TxCareful s op)
  | .xmitBegin _ _ => decEq s.ttParam false
  | .txCancelled => CancelFits.decidable s
  | .busOff _ => decEq s.txObject 0
  | .restart => SlotsEmpty.decidable s
  | .setMode => SlotsEmpty.decidable s
  | .close => NoneSent.decidable s
  | .xmitEnd | .txComplete | .cancelRequest _ | .requestEnd _ _ _ | .reopen => isTrue trivial

end NvidiaOot.Model
