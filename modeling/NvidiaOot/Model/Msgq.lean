import NvidiaOot.Library.Machine
import NvidiaOot.Program.Msgq

/-!
# A queue of messages

`fifoStep` is what the message queue is for: a list of messages of which each is taken or
discarded in the order in which they were accepted, with the words it was put in with.
`msgqRunStep` runs the ring of words and notes what its calls return.
-/

namespace NvidiaOot.Model

open Library Program Function

/-- A call: queue a message, dequeue one into a buffer, or discard one; `none` is `NULL`. -/
inductive MsgqOp where
  | queue (message : Option Words)
  | dequeue (message : Option Words)

/-- What a call returns, and the buffer afterwards. -/
structure Outcome where
  code : ℤ
  buffer : Option Words

/-- A queue with what its calls have returned. -/
structure MsgqRun where
  msgq : Msgq
  outcomes : List Outcome

def msgqStep (msgq : Msgq) : MsgqOp → Option (Outcome × Msgq)
  | .queue message => (msgqQueueMessage msgq message).map fun r => (⟨r.1, none⟩, r.2)
  | .dequeue message => (msgqDequeueMessage msgq message).map fun r => (⟨r.1, r.2.2⟩, r.2.1)

def msgqRunStep (s : MsgqRun) (op : MsgqOp) : Option MsgqRun :=
  (msgqStep s.msgq op).map fun r => ⟨r.2, s.outcomes ++ [r.1]⟩

def newMsgq (msgq : Msgq) (size : ℤ) : MsgqRun := ⟨msgqInit msgq size, []⟩

/-- The words of a message: its size and its payload. -/
def wordsOf (message : Words) : List U32 := (List.range (1 + (message 0).toInt.toNat)).map message

/-- Messages by their words; `accepted` and `taken` have those that went in and out so far. -/
structure Fifo where
  queue : List (List U32)
  accepted : List (List U32)
  taken : List (List U32)
  outcomes : List Outcome

def emptyFifo : Fifo := ⟨[], [], [], []⟩

/-- The number of words that the messages occupy. -/
def Fifo.words (f : Fifo) : ℕ := f.queue.flatten.length

def Fifo.reject (f : Fifo) (code : ℤ) (buffer : Option Words) : Fifo :=
  { f with outcomes := f.outcomes ++ [⟨code, buffer⟩] }

def Fifo.take (f : Fifo) (m : List U32) (rest : List (List U32)) (buffer : Option Words) : Fifo :=
  { f with
    queue := rest
    taken := f.taken ++ [m]
    outcomes := f.outcomes ++ [⟨0, buffer⟩] }

def Fifo.accept (f : Fifo) (m : List U32) : Fifo :=
  { f with
    queue := f.queue ++ [m]
    accepted := f.accepted ++ [m]
    outcomes := f.outcomes ++ [⟨0, none⟩] }

/-- The words of a message at the start of a buffer. -/
def overwrite (buffer : Words) (m : List U32) : Words := fun i => m[i]?.getD (buffer i)

/-- One call on a queue of `n` words: a message is accepted if and only if its words are fewer
than the free ones. -/
def fifoStep (n : ℕ) (f : Fifo) : MsgqOp → Fifo
  | .queue none => f.reject (-eFAULT) none
  | .queue (some message) =>
    if (wordsOf message).length < n - f.words then f.accept (wordsOf message)
    else f.reject (-eNOSPC) none
  | .dequeue buffer =>
    match f.queue with
    | [] => f.reject (-eNOMSG) (buffer.map fun b => update b 0 0)
    | m :: rest =>
      match buffer with
      | none => f.take m rest none
      | some b =>
        if (b 0).toInt + 1 < m.length then
          f.reject (-eNOSPC) (some (update b 0 (m.headD 0)))
        else f.take m rest (some (overwrite b m))

/-- The payload size of a message that is queued is not negative, nor the largest 32-bit
number. -/
def PayloadFits : MsgqOp → Prop
  | .queue (some message) => 0 ≤ (message 0).toInt ∧ (message 0).toInt ≠ 2 ^ 31 - 1
  | _ => True

/-- The ring holds the messages, from the read index to the write index. -/
structure Represents (n : ℕ) (msgq : Msgq) (messages : List (List U32)) : Prop where
  size : msgq.size = n
  readIndex : 0 ≤ msgq.readIndex ∧ msgq.readIndex < n
  writeIndex : msgq.writeIndex = ((msgq.readIndex.toNat + messages.flatten.length) % n : ℕ)
  room : messages.flatten.length < n
  contents : (List.range messages.flatten.length).map (fun i =>
    msgq.queue ((msgq.readIndex.toNat + i) % n)) = messages.flatten
  /-- The first word of a message is the number of the others. -/
  sized : ∀ m ∈ messages, ∃ w payload, m = w :: payload ∧ w.toInt = payload.length

end NvidiaOot.Model
