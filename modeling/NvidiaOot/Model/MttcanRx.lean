import NvidiaOot.Program.MttcanRx

/-!
# Runs of the MTTCAN receive path

Frames arrive in the FIFOs and the dedicated buffers at any time; a poll begins with interrupts and a quota of any
value and goes on turn by turn, and in each turn any allocation may fail.

`RxFramesKept` is what reception is for: each frame that the driver acknowledges is passed on once, or given up and
counted, or still waits in a list while the poll lasts; the frames of a FIFO stay in order; the bits of NDAT are
those of the elements that are read; and the lengths and the flags of the lists are right.
-/

namespace NvidiaOot.Model

open Program

/-- A frame arrives, a poll begins, or a poll makes a turn. -/
inductive RxOp where
  | frame (q : RxFifoId) (hp : Bool)
  | bufferFrame (i : ℕ)
  | poll (ir : RxIr) (quota : ℤ)
  | turn (failAt : Option ℕ)
deriving DecidableEq

/-- One step.  A dedicated buffer takes a frame only when its new-data flag is clear. -/
def rxStep (s : MttcanRx) : RxOp → Option MttcanRx
  | .frame q hp => some (s.arriveFifo q hp)
  | .bufferFrame i => if i < 64 ∧ s.newData i = false then some (s.arriveBuffer i) else none
  | .poll ir quota =>
    if s.pollAt = .idle then some { s with pollAt := .hpm, ir := ir, quota := quota, workDone := 0 } else none
  | .turn failAt => some (s.mttcanPollIr failAt)

def waiting (s : MttcanRx) : List ℕ := s.list .buffer ++ s.list (.fifo .fifo0) ++ s.list (.fifo .fifo1)

/-- The frames that were passed on, given up and counted, or wait. -/
def taken (s : MttcanRx) : List ℕ := s.received.map Prod.snd ++ s.freed ++ waiting s

/-- The frames of a FIFO that were passed on through its list. -/
def fifoReceived (s : MttcanRx) (q : RxFifoId) : List ℕ :=
  (s.received.filter fun d => d.1 = .list (.fifo q)).map Prod.snd

structure RxFramesKept (s : MttcanRx) : Prop where
  once : (taken s).Nodup
  acked : ∀ x ∈ s.acked, x ∈ taken s
  idle : s.pollAt = .idle → waiting s = []
  counted : s.rxPackets = s.received.length ∧ s.rxDropped = s.freed.length
  ordered : ∀ q, (fifoReceived s q).Pairwise (· < ·)
  elements : ∀ p ∈ s.bufferReads, p.1 = p.2
  lengths : ∀ t, s.mem t = (s.list t).length
  full : ∀ t, s.isMsgListFull t = decide (MttcanRx.ttcanMaxListMembers ≤ s.mem t)

/-! ## The condition -/

/-- The message that HPMS reports is in its FIFO, was not passed on before, and no element before it has the same
index modulo 32. -/
def hpmFresh (s : MttcanRx) : Bool :=
  match MttcanRx.hpmsFifo s.hpmsMsi with
  | none => true
  | some q =>
    decide (s.bmsk q &&& MttcanRx.shiftInt s.hpmsBidx = 0) &&
      (List.range (s.fifo q).level).any fun k =>
        decide ((s.fifo q).idxAt k = s.hpmsBidx) &&
          (List.range k).all fun j => decide ((s.fifo q).idxAt j % 32 ≠ s.hpmsBidx % 32)

/-- The quota is enough for a list, and no allocation for it fails. -/
def ListFits (s : MttcanRx) (t : TtcanRxType) (failAt : Option ℕ) : Prop :=
  (s.quota - s.workDone < 0 ∨ (s.list t).length ≤ s.quota - s.workDone) ∧
    ∀ k ∈ failAt, (s.list t).length ≤ k

instance ListFits.decidable (s : MttcanRx) (t : TtcanRxType) :
    ∀ failAt, Decidable (ListFits s t failAt)
  | none => decidable_of_iff (s.quota - s.workDone < 0 ∨ (s.list t).length ≤ s.quota - s.workDone)
      (by simp [ListFits])
  | some k => decidable_of_iff
      ((s.quota - s.workDone < 0 ∨ (s.list t).length ≤ s.quota - s.workDone) ∧ (s.list t).length ≤ k)
      (by simp [ListFits])

/-- A turn that loses no frame: the high-priority message is fresh, nothing is in the buffers from 32 on, and the
quota and the memory are enough for a list. -/
def TurnCareful (s : MttcanRx) (failAt : Option ℕ) : RxPollAt → Prop
  | .hpm => s.ir.hpm = true → hpmFresh s = true
  | .bufferLoop _ ndat2 _ => ndat2 = 0
  | .bufferList _ => ListFits s .buffer failAt
  | .fifoList q _ => ListFits s (.fifo q) failAt
  | _ => True

instance TurnCareful.decidable (s : MttcanRx) (failAt : Option ℕ) : ∀ a, Decidable (TurnCareful s failAt a)
  | .hpm => inferInstanceAs (Decidable (s.ir.hpm = true → hpmFresh s = true))
  | .bufferLoop _ ndat2 _ => decEq ndat2 0
  | .bufferList _ => ListFits.decidable s .buffer failAt
  | .idle | .buffer | .lost | .fifoStart _ | .fifoLoop _ _ _ _ => isTrue trivial
  | .fifoList q _ => ListFits.decidable s (.fifo q) failAt

def RxCareful (s : MttcanRx) : RxOp → Prop
  | .turn failAt => TurnCareful s failAt s.pollAt
  | _ => True

instance RxCareful.decidable (s : MttcanRx) : ∀ op, Decidable (RxCareful s op)
  | .frame _ _ | .bufferFrame _ | .poll _ _ => isTrue trivial
  | .turn failAt => TurnCareful.decidable s failAt s.pollAt

end NvidiaOot.Model
