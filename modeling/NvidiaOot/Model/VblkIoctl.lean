import NvidiaOot.Program.VblkIoctl

/-!
# What pass-through ioctls are to keep

`IoctlSound` is about the events of one ioctl: the buffer is accessed inside its size and is freed as often as it was
allocated, the data of a command goes in iff it is a write and out iff it is a read, and nothing goes out unless the
request was answered.  What a command is, the preparing half has read: it is what the server executes.

`IoctlFits` is the condition on the two views of the user, on what the completing half finds in the buffer and on what
becomes of the request.
-/

namespace NvidiaOot.Model

open Program

/-! ## The property -/

def InsideBuffer : IoctlEvent → Prop
  | .access offset len size => offset + len ≤ size
  | _ => True

/-- Data is copied in and out as the command wants it. -/
def RightWay (takes gives : ℕ → Bool) : IoctlEvent → Prop
  | .prepared i copied => copied = takes i
  | .completed i copied => copied = gives i
  | _ => True

def goesOut : IoctlEvent → Bool
  | .completed _ copied => copied
  | .statusOut _ => true
  | _ => false

def ufsWrites (ic : UfsIocQueryReq) : Bool := ic.opcode.toNat = 0x2 ∨ ic.opcode.toNat = 0x4

/-- The length of the data of a query, if it is valid. -/
def ufsDataLen (ic : UfsIocQueryReq) : Option ℕ :=
  match vblkValidateSingleQueryIo ic false with
  | .error _ => none
  | .ok (n, _) => some n

def takesData : VblkIoctl → ℕ → Bool
  | .mmc _ _ user _ _, i => (user.cmds i).any fun ic => ic.writeFlag != 0 && ic.dataLen != 0
  | .ufs _ user _ _, i => (user.cmds i).any fun ic => ufsWrites ic && (ufsDataLen ic).any (· != 0)
  | .sg _ _ _ _ user _ _, _ => user.hdr.any fun hp => hp.dxferDirection = -2 ∨ hp.dxferDirection = -4

/-- There is such a command, and it is a read with data. -/
def givesData : VblkIoctl → ℕ → Bool
  | .mmc _ multi user _ _, i =>
    (mmcNumCmd multi user).toOption.any (i < ·) &&
      (user.cmds i).any fun ic => ic.writeFlag == 0 && ic.dataLen != 0
  | .ufs _ user _ _, i =>
    (ufsNumCmd user).toOption.any (i < ·) &&
      (user.cmds i).any fun ic => !ufsWrites ic && (ufsDataLen ic).any (· != 0)
  | .sg _ _ _ _ user _ _, _ => user.hdr.any fun hp => hp.dxferDirection = -3 ∨ hp.dxferDirection = -4

/-- The request was executed and answered. -/
def RequestOutcome.isAnswered : RequestOutcome → Bool
  | .answered _ => true
  | _ => false

structure IoctlSound (capable reqAllocOk : Bool) (ioctl : VblkIoctl) (outcome : RequestOutcome) : Prop where
  inside : ∀ e ∈ (vblkSubmitIoctlReq capable reqAllocOk ioctl outcome).1, InsideBuffer e
  right : ∀ e ∈ (vblkSubmitIoctlReq capable reqAllocOk ioctl outcome).1,
    RightWay (takesData ioctl) (givesData ioctl) e
  answered : RequestOutcome.isAnswered outcome = false →
    ∀ e ∈ (vblkSubmitIoctlReq capable reqAllocOk ioctl outcome).1, goesOut e = false
  freed : (vblkSubmitIoctlReq capable reqAllocOk ioctl outcome).1.count .free =
    (vblkSubmitIoctlReq capable reqAllocOk ioctl outcome).1.count .alloc

/-! ## The condition -/

/-- Where the data of command `k` begins. -/
def mmcOffset (u : MmcView) (n k : ℕ) : ℕ :=
  (mmcHeaderSize n).toNat + ((List.range k).map fun j => ((u.cmds j).elim 0 MmcIocCmd.dataLen).toNat).sum

/-- The preparing half takes command `k`: it is read, its data has space, and it is read if it is a write. -/
def mmcTakes (u : MmcView) (n k : ℕ) : Bool :=
  (u.cmds k).any fun ic =>
    decide (mmcOffset u n (k + 1) ≤ vblkMaxIocSize) &&
      !(ic.writeFlag != 0 && ic.dataLen != 0 && u.dataFault k)

/-- Where the data of query `k` begins. -/
def ufsOffset (u : UfsView) (n k : ℕ) : ℕ :=
  (ufsHeaderSize n).toNat + ((List.range k).map fun j => ((u.cmds j).bind ufsDataLen).getD 0).sum

/-- A query up to number `k` is a write. -/
def ufsWriteUpTo (u : UfsView) (k : ℕ) : Bool := (List.range (k + 1)).any fun j => (u.cmds j).any ufsWrites

/-- Query `k` is valid and its data has space. -/
def ufsHasSpace (u : UfsView) (n k : ℕ) : Bool :=
  ((u.cmds k).bind ufsDataLen).isSome && decide (ufsOffset u n (k + 1) ≤ vblkMaxIocSize)

/-- The preparing half takes query `k`. -/
def ufsTakes (u : UfsView) (n k : ℕ) : Bool :=
  ufsHasSpace u n k && !(ufsWriteUpTo u k && ((u.cmds k).bind ufsDataLen).any (· != 0) && u.dataFault k)

/-- The preparing half accepts the argument. -/
def Accepted : VblkIoctl → Prop
  | .mmc allocOk multi user _ _ =>
    allocOk = true ∧ ∃ n, mmcNumCmd multi user = .ok n ∧ ∀ k < n, mmcTakes user n k = true
  | .ufs allocOk user _ _ => allocOk = true ∧ ∃ n, ufsNumCmd user = .ok n ∧ ∀ k < n, ufsTakes user n k = true
  | .sg hpAllocOk allocOk _ hardblkSize user _ _ =>
    hpAllocOk = true ∧ allocOk = true ∧ ∃ hp, user.hdr = some hp ∧ hp.cmdpNull = false ∧
      6 ≤ hp.cmdLen.toNat ∧ hp.cmdLen.toNat ≤ vblkSgMaxCmdLen ∧ (sgLayout hardblkSize hp).isSome ∧
        user.cmdFault = false ∧ (scsiDataDirection hp.dxferDirection).isSome ∧
          ¬ ((hp.dxferDirection = -2 ∨ hp.dxferDirection = -4) ∧ user.dataFault = true)

/-- No query with data that the preparing half comes to is a read behind a write. -/
def NoReadBehindWrite (u : UfsView) : Prop :=
  ∀ n, ufsNumCmd u = .ok n → ∀ k < n, (∀ j < k, ufsTakes u n j = true) → ufsHasSpace u n k = true →
    ((u.cmds k).bind ufsDataLen).any (· != 0) = true → (u.cmds k).any ufsWrites = ufsWriteUpTo u k

/-- The preparing half copies the data of the writes only. -/
def PrepFits : VblkIoctl → Prop
  | .ufs allocOk user _ _ => allocOk = true → NoReadBehindWrite user
  | _ => True

/-- The completing half copies out the data of MMC command `k`. -/
def mmcGoesOut (u : MmcView) (content : ℕ → ComboCmd) (k : ℕ) : Bool :=
  (u.cmds k).any fun ic => ic.writeFlag == 0 && (content k).dataLen != 0

/-- It comes to the data of command `k`. -/
def mmcReaches (u : MmcView) (k : ℕ) : Bool := (u.cmds k).isSome && !u.responseFault k

/-- It goes on behind command `k`. -/
def mmcPasses (u : MmcView) (content : ℕ → ComboCmd) (k : ℕ) : Bool :=
  mmcReaches u k && !(mmcGoesOut u content k && u.dataFault k)

/-- The completing half copies out the data of query `k`. -/
def ufsGoesOut (u : UfsView) (k : ℕ) : Bool :=
  !ufsWriteUpTo u k && ((u.cmds k).bind ufsDataLen).any (· != 0)

/-- It comes to the data of query `k`. -/
def ufsReaches (u : UfsView) (k : ℕ) : Bool :=
  ((u.cmds k).bind ufsDataLen).isSome && !(u.bufSizeFault k || u.errorStatusFault k)

/-- It goes on behind query `k`. -/
def ufsPasses (u : UfsView) (k : ℕ) : Bool := ufsReaches u k && !(ufsGoesOut u k && u.dataFault k)

def sgSense (hp : SgIoHdr) (content : VblkSgIoHdr) : Bool :=
  hp.mxSbLen != 0 && content.sbLenWr != 0 && !hp.sbpNull

/-- The direction in the buffer is from the device. -/
def sgGoesOut (content : VblkSgIoHdr) : Bool := content.dataDirection == 2 || content.dataDirection == 0

/-- What the completing half finds: the directions are those of the first reading, and what is copied out is inside the
buffer. -/
def CompleteFits : VblkIoctl → Prop
  | .mmc allocOk multi user user' content =>
    ∀ n, mmcNumCmd multi user' = .ok n → ∀ k < n, (∀ j < k, mmcPasses user' content j = true) →
      mmcReaches user' k = true →
        mmcGoesOut user' content k = givesData (.mmc allocOk multi user user' content) k ∧
          (mmcGoesOut user' content k = true →
            (content k).bufOffset.toNat + (content k).dataLen.toNat ≤ vblkMaxIocSize)
  | .ufs allocOk user user' bufferOffset =>
    ∀ n, ufsNumCmd user' = .ok n → ∀ k < n, (∀ j < k, ufsPasses user' j = true) → ufsReaches user' k = true →
      ufsGoesOut user' k = givesData (.ufs allocOk user user' bufferOffset) k ∧
        (ufsGoesOut user' k = true →
          (bufferOffset k).toNat + ((user'.cmds k).bind ufsDataLen).getD 0 ≤ vblkMaxIocSize)
  | .sg hpAllocOk allocOk hpAllocOk' hardblkSize user user' content =>
    hpAllocOk' = true ∧ ∀ hp, user'.hdr = some hp →
      (sgSense hp content = true →
        content.sbpArgOffset.toNat + content.sbLenWr.toNat ≤ sgIoctlLen hardblkSize user) ∧
      (¬ (sgSense hp content = true ∧ user'.sbFault = true) →
        sgGoesOut content = givesData (.sg hpAllocOk allocOk hpAllocOk' hardblkSize user user' content) 0 ∧
          (sgGoesOut content = true →
            content.xferArgOffset.toNat + content.dxferLen.toNat ≤ sgIoctlLen hardblkSize user))

/-- The completing half finds nothing to copy out: the user's memory is gone, or has no command. -/
def CompleteQuiet : VblkIoctl → Prop
  | .mmc _ multi _ user' _ => ∀ n, mmcNumCmd multi user' = .ok n → n = 0 ∨ user'.cmds 0 = none
  | .ufs _ _ user' _ => ∀ n, ufsNumCmd user' = .ok n → n = 0 ∨ (user'.cmds 0).bind ufsDataLen = none
  | .sg _ _ hpAllocOk' _ _ user' _ => hpAllocOk' = true ∧ user'.hdr = none

/-- When the ioctl keeps what it is to keep. -/
def IoctlFits (capable reqAllocOk : Bool) (ioctl : VblkIoctl) (outcome : RequestOutcome) : Prop :=
  capable = true → reqAllocOk = true →
    PrepFits ioctl ∧
      (Accepted ioctl →
        match outcome with
        | .noRequest _ => False
        | .notAnswered => CompleteQuiet ioctl
        | .answered status => status = 0 → CompleteFits ioctl)

end NvidiaOot.Model
