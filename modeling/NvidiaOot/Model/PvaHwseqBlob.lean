import NvidiaOot.Program.PvaHwseqBlob

/-!
# Walks inside a blob

`HwseqAccess.Inside` says that what is read is in the user's buffer and in the memory that is pinned for it, and that
what is written is an entry of the channel.  `walkLimit` is how far a walk can come on hardware that has one column or
row: behind the last word that a blob can have there.
-/

namespace NvidiaOot.Model

open Program

/-- An access is in the buffer, which is at an offset in the pinned memory. -/
def HwseqAccess.Inside (size offset memSize : ℕ) : HwseqAccess → Prop
  | .read start len => start + len ≤ size ∧ offset + (start + len) ≤ memSize
  | .entry k => k < pvaHwseqDescLimit

/-- The first and the last word of a channel's blob, in bytes. -/
def blobStart (userCh : DmaChannel) : ℕ := userCh.hwseqStart.toNat * 4
def blobStop (userCh : DmaChannel) : ℕ := userCh.hwseqEnd.toNat * 4

/-- The blob passes the checks of its size. -/
structure BlobAccepted (userCh : DmaChannel) (task : DmaTask) : Prop where
  room : blobStart userCh + 16 ≤ blobStop userCh
  size : blobStop userCh ≤ task.hwseqBufSize.toNat

/-- Where the last word of a walk can end.  With a trigger by DMA there are one or two descriptors, which are in one
word; else there are up to 256. -/
def walkLimit (userCh : DmaChannel) (task : DmaTask) : ℕ :=
  if task.hwseqTrigMode = nvpvaHwseqtmDmatrig then blobStart userCh + 20
  else min (blobStop userCh + 4) (blobStart userCh + 16 + 4 * 128)

/-- The buffer and the pinned memory have all that a walk can come to. -/
def WalkFits (userCh : DmaChannel) (task : DmaTask) (offset memSize : ℕ) : Prop :=
  BlobAccepted userCh task →
    walkLimit userCh task ≤ task.hwseqBufSize.toNat ∧ offset + walkLimit userCh task ≤ memSize

end NvidiaOot.Model
