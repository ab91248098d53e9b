import NvidiaOot.Library.ByteArea
import NvidiaOot.Program.Types

/-!
# The ADSP message queue

Messages are stored in a ring of 32-bit words, each as its size in words and its payload.
The values of `int32_t` variables are integers; what is assigned to one is reduced by
`toI32`, and a copy of a negative number of words, which in C is one of more than `2 ^ 63`
bytes, is an access out of bounds: the functions then have no result.
-/

namespace NvidiaOot.Program

open Library Function

/-- Memory as 32-bit words. -/
abbrev Words := ℕ → U32

/-- `MSGQ_MAX_QUEUE_WSIZE` -/
def msgqMaxQueueWsize : ℤ := 8189

/-- A message queue. -/
structure Msgq where
  size : ℤ
  writeIndex : ℤ
  readIndex : ℤ
  queue : Words

/-- `msgq_wmemcpy`, from and to an index -/
def msgqWmemcpy (dst : Words) (d : ℤ) (src : Words) (s words : ℤ) : Option Words :=
  if words < 0 then none
  else some (blit dst d.toNat words.toNat fun i => src (s.toNat + i))

/-- An empty queue; the size is compared as an unsigned number.
SOURCE: drivers/platform/tegra/nvadsp/msgq.c:12-41 -/
def msgqInit (msgq : Msgq) (size : ℤ) : Msgq :=
  { msgq with
    size := if msgqMaxQueueWsize < size % 2 ^ 64 then msgqMaxQueueWsize else size
    readIndex := 0
    writeIndex := 0 }

/--
Put a message into the queue.

SOURCE: drivers/platform/tegra/nvadsp/msgq.c:42-96
-/
def msgqQueueMessage (msgq : Msgq) (message : Option Words) : Option (ℤ × Msgq) :=
  match message with
  | none => some (-eFAULT, msgq)
  | some message =>
    let ri := msgq.readIndex
    let wi := msgq.writeIndex
    let qremainder := if ri ≤ wi then msgq.size - wi else ri - wi
    let qsize := if ri ≤ wi then qremainder + ri else qremainder
    let payload := (message 0).toInt
    let msize := toI32 (1 + payload)
    if qsize ≤ msize then some (-eNOSPC, msgq)
    else if msize < qremainder then do
      let queue ← msgqWmemcpy msgq.queue wi message 0 msize
      some (0, { msgq with queue := queue, writeIndex := toI32 (wi + 1 + payload) })
    else do
      let queue ← msgqWmemcpy msgq.queue wi message 0 qremainder
      let queue ← msgqWmemcpy queue 0 message qremainder (msize - qremainder)
      some (0, { msgq with queue := queue, writeIndex := toI32 (wi + 1 + payload - msgq.size) })

/--
Take the first message out of the queue, into the buffer `message`, or discard it.  The
first word of the buffer is the size of its payload.

SOURCE: drivers/platform/tegra/nvadsp/msgq.c:97-167
-/
def msgqDequeueMessage (msgq : Msgq) (message : Option Words) : Option (ℤ × Msgq × Option Words) :=
  let ri := msgq.readIndex
  let msg := msgq.queue ri.toNat
  if ri = msgq.writeIndex then
    some (-eNOMSG, msgq, message.map fun message => update message 0 0)
  else
    match message with
    | none =>
      let ri := toI32 (ri + 1 + msg.toInt)
      some (0, { msgq with readIndex := if ri < msgq.size then ri else ri - msgq.size }, none)
    | some message =>
      if (message 0).toInt < msg.toInt then
        some (-eNOSPC, msgq, some (update message 0 msg))
      else
        let msize := toI32 (1 + msg.toInt)
        let qremainder := msgq.size - ri
        if msize < qremainder then do
          let message ← msgqWmemcpy message 0 msgq.queue ri msize
          some (0, { msgq with readIndex := toI32 (ri + 1 + msg.toInt) }, some message)
        else do
          let message ← msgqWmemcpy message 0 msgq.queue ri qremainder
          let message ← msgqWmemcpy message qremainder msgq.queue 0 (msize - qremainder)
          some (0, { msgq with readIndex := toI32 (ri + 1 + msg.toInt - msgq.size) }, some message)

end NvidiaOot.Program
