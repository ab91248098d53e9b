import NvidiaOot.Library.TraceLoop
import NvidiaOot.Program.Types

/-!
# Pass-through ioctls of the virtual block device

An ioctl is prepared in a buffer, sent to the storage server with a request, and completed from what the buffer holds
then.  Each half reads the memory of the user for itself, so each has a view of its own: the headers that it reads, and
which of its copies fault.  `content` is what the completing half finds in the buffer.

A function returns the events of its run and an error code.  The events are the allocation and the release of the
ioctl buffer, the accesses of the buffer with its size, and for each command whether its data was copied in by the
preparing half and out by the completing half, and that its status was copied out.

Sources are in `drivers/block/tegra_virt_storage/`.
-/

namespace NvidiaOot.Program

open Library

def eMSGSIZE : ℤ := 90
def eBADMSG : ℤ := 74

/-- What happens to the ioctl buffer and to the memory of the user. -/
inductive IoctlEvent where
  | alloc
  | free
  | access (offset len size : ℕ)
  | prepared (i : ℕ) (copied : Bool)
  | completed (i : ℕ) (copied : Bool)
  | statusOut (i : ℕ)
deriving DecidableEq, Repr

/-- The data of a command is accessed when it is copied. -/
def dataAccess (copied : Bool) (offset len : U32) (size : ℕ) : List IoctlEvent :=
  if copied then [.access offset.toNat len.toNat size] else []

/-- The error code of a loop. -/
def errorOf {σ : Type} : Except ℤ σ → ℤ
  | .error e => e
  | .ok _ => 0

/-- The buffer is freed when the preparing half fails. -/
def freeOnError (err : ℤ) : List IoctlEvent := if err = 0 then [] else [.free]

/-! ## MMC commands -/

/-- `VBLK_MMC_MAX_IOC_SIZE`, also `VBLK_UFS_MAX_IOC_SIZE` -/
def vblkMaxIocSize : ℕ := 256 * 1024

/-- `MMC_IOC_MAX_CMDS` -/
def mmcIocMaxCmds : ℕ := 255

/-- `sizeof(struct combo_info_t)`, packed -/
def comboInfoSize : ℕ := 8

/-- `sizeof(struct combo_cmd_t)`, packed -/
def comboCmdSizeof : ℕ := 40

/-- `struct mmc_ioc_cmd`, without the fields that are only handed on. -/
structure MmcIocCmd where
  writeFlag : U32
  blksz : U32
  blocks : U32
deriving DecidableEq, Repr

/-- What one half reads from the user: the number of commands, the commands, and the copies that fault. -/
structure MmcView where
  numOfCmds : Option U64
  cmds : ℕ → Option MmcIocCmd
  dataFault : ℕ → Bool
  responseFault : ℕ → Bool

/-- `struct combo_cmd_t`, the fields that the completing half reads. -/
structure ComboCmd where
  bufOffset : U32
  dataLen : U32
deriving DecidableEq, Repr

/-- The number of commands: one unless the ioctl is `MMC_IOC_MULTI_CMD`.
SOURCE: tegra_hv_mmc.c:42-59, 155-173 -/
def mmcNumCmd (multi : Bool) (u : MmcView) : Except ℤ ℕ :=
  if multi then
    match u.numOfCmds with
    | none => .error (-eFAULT)
    | some n => if n.toNat > mmcIocMaxCmds then .error (-eINVAL) else .ok n.toNat
  else .ok 1

/-- `ALIGN` to `SZ_512` of the size of the headers. -/
def mmcHeaderSize (n : ℕ) : U32 :=
  (BitVec.ofNat 32 (comboInfoSize + comboCmdSizeof * n) + (512 - 1)) &&& ~~~(512 - 1)

/-- `blksz * blocks` -/
def MmcIocCmd.dataLen (ic : MmcIocCmd) : U32 := ic.blksz * ic.blocks

/-- One command of the preparing half; the state is `combo_cmd_size`.
SOURCE: tegra_hv_mmc.c:88-125 -/
def mmcPrepCmd (u : MmcView) (i : ℕ) (comboCmdSize : U32) : List IoctlEvent × Except ℤ U32 :=
  match u.cmds i with
  | none => ([], .error (-eFAULT))
  | some ic =>
    let header := [IoctlEvent.access (comboInfoSize + comboCmdSizeof * i) comboCmdSizeof vblkMaxIocSize]
    let size := comboCmdSize + ic.dataLen
    if size < ic.dataLen ∨ vblkMaxIocSize < size.toNat then (header, .error (-eFAULT))
    else
      let copied := ic.writeFlag != 0 && ic.dataLen != 0
      (header ++ .prepared i copied :: dataAccess copied comboCmdSize ic.dataLen vblkMaxIocSize,
        if copied && u.dataFault i then .error (-eFAULT) else .ok size)

/-- SOURCE: tegra_hv_mmc.c:19-135 -/
def vblkPrepMmcMultiIoc (allocOk multi : Bool) (u : MmcView) : List IoctlEvent × ℤ :=
  if allocOk then
    match mmcNumCmd multi u with
    | .error e => ([.alloc, .free], e)
    | .ok n =>
      -- the count is written, and the header checked
      if mmcHeaderSize n < BitVec.ofNat 32 comboInfoSize then ([.alloc, .access 0 4 vblkMaxIocSize, .free], -eINVAL)
      else if vblkMaxIocSize < (mmcHeaderSize n).toNat then
        ([.alloc, .access 0 4 vblkMaxIocSize, .free], -eFAULT)
      else
        let r := tracedTurns (mmcPrepCmd u) n 0 (mmcHeaderSize n)
        (.alloc :: .access 0 4 vblkMaxIocSize :: (r.1 ++ freeOnError (errorOf r.2)), errorOf r.2)
  else ([], -eNOMEM)

/-- One command of the completing half.
SOURCE: tegra_hv_mmc.c:178-203 -/
def mmcCompleteCmd (u : MmcView) (content : ℕ → ComboCmd) (i : ℕ) (_ : Unit) : List IoctlEvent × Except ℤ Unit :=
  match u.cmds i with
  | none => ([], .error (-eFAULT))
  | some ic =>
    let status := [IoctlEvent.access (comboInfoSize + comboCmdSizeof * i) comboCmdSizeof vblkMaxIocSize, .statusOut i]
    if u.responseFault i then (status, .error (-eFAULT))
    else
      let copied := ic.writeFlag == 0 && (content i).dataLen != 0
      (status ++ .completed i copied :: dataAccess copied (content i).bufOffset (content i).dataLen vblkMaxIocSize,
        if copied && u.dataFault i then .error (-eFAULT) else .ok ())

/-- SOURCE: tegra_hv_mmc.c:137-211 -/
def vblkCompleteMmcMultiIoc (multi : Bool) (status : ℤ) (u : MmcView) (content : ℕ → ComboCmd) :
    List IoctlEvent × ℤ :=
  if status ≠ 0 then ([.free], status)
  else
    match mmcNumCmd multi u with
    | .error e => ([.free], e)
    | .ok n =>
      let r := tracedTurns (mmcCompleteCmd u content) n 0 ()
      (r.1 ++ [.free], errorOf r.2)

/-! ## UFS queries -/

/-- `MAX_QUERY_CMD_PER_COMBO` -/
def maxQueryCmdPerCombo : ℕ := 10

/-- `sizeof(struct vblk_ufs_combo_info)`, packed -/
def ufsComboInfoSize : ℕ := 9

/-- `sizeof(struct vblk_ufs_ioc_query_req)`, packed -/
def ufsQueryReqSize : ℕ := 18

/-- `struct ufs_ioc_query_req`, without the fields that are only handed on. -/
structure UfsIocQueryReq where
  opcode : U8
  idn : U8
  bufSize : U16
deriving DecidableEq, Repr

/-- What one half reads from the user: the number of queries, the queries, and the copies that fault. -/
structure UfsView where
  numCmds : Option U8
  cmds : ℕ → Option UfsIocQueryReq
  dataFault : ℕ → Bool
  bufSizeFault : ℕ → Bool
  errorStatusFault : ℕ → Bool

/-- The length of the data and the direction flag: the flag is set by a write, and never cleared.
SOURCE: tegra_hv_ufs.c:13-135 -/
def vblkValidateSingleQueryIo (q : UfsIocQueryReq) (wFlag : Bool) : Except ℤ (ℕ × Bool) :=
  -- QUERY_DESC_IDN_MAX 9, QUERY_ATTR_IDN_MAX 0x30, QUERY_FLAG_IDN_MAX 0x0E, QUERY_DESC_MAX_SIZE 255
  match q.opcode.toNat with
  | 0x1 => if q.idn.toNat ≥ 9 then .error (-eINVAL) else .ok (min 255 q.bufSize.toNat, wFlag)
  | 0x2 => if q.idn.toNat ≥ 9 then .error (-eINVAL) else .ok (min 255 q.bufSize.toNat, true)
  | 0x3 =>
    if q.idn.toNat ≥ 0x30 then .error (-eINVAL)
    else if q.bufSize.toNat ≠ 4 then .error (-eINVAL)
    else .ok (4, wFlag)
  | 0x4 =>
    if q.idn.toNat > 0x30 then .error (-eINVAL)
    else if q.bufSize.toNat ≠ 4 then .error (-eINVAL)
    else .ok (4, true)
  | 0x5 =>
    if q.idn.toNat > 0x0E then .error (-eINVAL)
    else if q.bufSize.toNat ≠ 1 then .error (-eINVAL)
    else .ok (1, wFlag)
  | 0x6 => if q.idn.toNat > 0x0E then .error (-eINVAL) else .ok (0, wFlag)
  | 0x7 => if q.idn.toNat > 0x0E then .error (-eINVAL) else .ok (0, wFlag)
  | 0x8 => if q.idn.toNat > 0x0E then .error (-eINVAL) else .ok (0, wFlag)
  | _ => .error (-eINVAL)

/-- One query of the preparing half; the state is `combo_cmd_size` and `w_flag`.
SOURCE: tegra_hv_ufs.c:198-249 -/
def ufsPrepCmd (u : UfsView) (i : ℕ) (state : U32 × Bool) : List IoctlEvent × Except ℤ (U32 × Bool) :=
  match u.cmds i with
  | none => ([], .error (-eFAULT))
  | some ic =>
    match vblkValidateSingleQueryIo ic state.2 with
    | .error _ => ([], .error (-eFAULT))
    | .ok (dataLen, wFlag) =>
      let header := [IoctlEvent.access (ufsComboInfoSize + ufsQueryReqSize * i) ufsQueryReqSize vblkMaxIocSize]
      let size := state.1 + BitVec.ofNat 32 dataLen
      if size.toNat < dataLen ∨ vblkMaxIocSize < size.toNat then (header, .error (-eFAULT))
      else
        let copied := wFlag && dataLen != 0
        (header ++ .prepared i copied :: dataAccess copied state.1 (BitVec.ofNat 32 dataLen) vblkMaxIocSize,
          if copied && u.dataFault i then .error (-eFAULT) else .ok (size, wFlag))

/-- The number of queries.
SOURCE: tegra_hv_ufs.c:163-172, 285-295 -/
def ufsNumCmd (u : UfsView) : Except ℤ ℕ :=
  match u.numCmds with
  | none => .error (-eFAULT)
  | some n => if n.toNat > maxQueryCmdPerCombo then .error (-eINVAL) else .ok n.toNat

/-- The size of the headers. -/
def ufsHeaderSize (n : ℕ) : U32 := BitVec.ofNat 32 (ufsComboInfoSize + ufsQueryReqSize * n)

/-- SOURCE: tegra_hv_ufs.c:137-260 -/
def vblkPrepUfsComboIoc (allocOk : Bool) (u : UfsView) : List IoctlEvent × ℤ :=
  if allocOk then
    match ufsNumCmd u with
    | .error e => ([.alloc, .free], e)
    | .ok n =>
      if ufsHeaderSize n < BitVec.ofNat 32 ufsComboInfoSize then
        ([.alloc, .access 0 ufsComboInfoSize vblkMaxIocSize, .free], -eINVAL)
      else if vblkMaxIocSize < (ufsHeaderSize n).toNat then
        ([.alloc, .access 0 ufsComboInfoSize vblkMaxIocSize, .free], -eFAULT)
      else
        let r := tracedTurns (ufsPrepCmd u) n 0 (ufsHeaderSize n, false)
        (.alloc :: .access 0 ufsComboInfoSize vblkMaxIocSize :: (r.1 ++ freeOnError (errorOf r.2)), errorOf r.2)
  else ([], -eNOMEM)

/-- One query of the completing half; the state is `w_flag`.  The offset is that of the buffer, the length that of the
user's query.
SOURCE: tegra_hv_ufs.c:302-341 -/
def ufsCompleteCmd (u : UfsView) (bufferOffset : ℕ → U32) (i : ℕ) (wFlag : Bool) :
    List IoctlEvent × Except ℤ Bool :=
  match u.cmds i with
  | none => ([], .error (-eFAULT))
  | some ic =>
    match vblkValidateSingleQueryIo ic wFlag with
    | .error _ => ([], .error (-eFAULT))
    | .ok (dataLen, wFlag) =>
      let status := [IoctlEvent.access (ufsComboInfoSize + ufsQueryReqSize * i) ufsQueryReqSize vblkMaxIocSize,
        .statusOut i]
      if u.bufSizeFault i || u.errorStatusFault i then (status, .error (-eFAULT))
      else
        let copied := !wFlag && dataLen != 0
        (status ++ .completed i copied ::
            dataAccess copied (bufferOffset i) (BitVec.ofNat 32 dataLen) vblkMaxIocSize,
          if copied && u.dataFault i then .error (-eFAULT) else .ok wFlag)

/-- SOURCE: tegra_hv_ufs.c:262-350 -/
def vblkCompleteUfsComboIoc (status : ℤ) (u : UfsView) (bufferOffset : ℕ → U32) : List IoctlEvent × ℤ :=
  if status ≠ 0 then ([.free], status)
  else
    match ufsNumCmd u with
    | .error e => ([.free], e)
    | .ok n =>
      let r := tracedTurns (ufsCompleteCmd u bufferOffset) n 0 false
      (r.1 ++ [.free], errorOf r.2)

/-! ## SCSI commands -/

/-- `sizeof(struct vblk_sg_io_hdr)`, packed -/
def vblkSgHeaderLen : U32 := 31

/-- `VBLK_SG_MAX_CMD_LEN` -/
def vblkSgMaxCmdLen : ℕ := 16

/-- `UFS_REQUEST_SENS_DATA_LEN` -/
def ufsRequestSensDataLen : U32 := 18

/-- `sg_io_hdr_t`, the fields that are read. -/
structure SgIoHdr where
  dxferDirection : ℤ
  cmdLen : U8
  mxSbLen : U8
  dxferLen : U32
  cmdpNull : Bool
  sbpNull : Bool
deriving DecidableEq, Repr

/-- What one half reads from the user: the header, and the copies that fault. -/
structure SgView where
  hdr : Option SgIoHdr
  cmdFault : Bool
  dataFault : Bool
  sbFault : Bool
  hdrOutFault : Bool

/-- `struct vblk_sg_io_hdr`, the fields that the completing half uses. -/
structure VblkSgIoHdr where
  dataDirection : U32
  dxferLen : U32
  xferArgOffset : U32
  sbpArgOffset : U32
  sbLenWr : U8
deriving DecidableEq, Repr

/-- `ALIGN` -/
def alignU32 (x a : U32) : U32 := (x + (a - 1)) &&& ~~~(a - 1)

/-- `enum scsi_data_direction` for a direction of the user: `SG_DXFER_NONE` is -1, then to the device, from it, and
both.
SOURCE: tegra_hv_scsi.c:113-129 -/
def scsiDataDirection : ℤ → Option U32
  | -1 => some 3
  | -2 => some 1
  | -3 => some 2
  | -4 => some 0
  | _ => none

/-- The offsets of the sense buffer and of the data, and the length of the buffer.
SOURCE: tegra_hv_scsi.c:56-98 -/
def sgLayout (hardblkSize : U32) (hp : SgIoHdr) : Option (U32 × U32 × U32) :=
  let sbpOffset := vblkSgHeaderLen + hp.cmdLen.setWidth 32
  let maxSbLen : U32 := if hp.mxSbLen = 0 then ufsRequestSensDataLen else hp.mxSbLen.setWidth 32
  let dataBufOffset := sbpOffset + maxSbLen
  let dataBufOffsetAligned := alignU32 dataBufOffset hardblkSize
  let dataBufSizeAligned := alignU32 hp.dxferLen hardblkSize
  let ioctlLen := dataBufOffsetAligned + dataBufSizeAligned
  if sbpOffset < vblkSgHeaderLen ∨ dataBufOffset < sbpOffset ∨ dataBufOffsetAligned < dataBufOffset ∨
      dataBufSizeAligned < hp.dxferLen ∨ ioctlLen < dataBufOffsetAligned then none
  else some (sbpOffset, dataBufOffsetAligned, ioctlLen)

/-- The buffer is filled: the command, the direction, the data and the header.
SOURCE: tegra_hv_scsi.c:106-160 -/
def sgFill (u : SgView) (hp : SgIoHdr) (dataOffset ioctlLen : U32) : List IoctlEvent × ℤ :=
  let size := ioctlLen.toNat
  let cmnd := [IoctlEvent.access vblkSgHeaderLen.toNat hp.cmdLen.toNat size]
  if u.cmdFault then (cmnd, -eFAULT)
  else
    match scsiDataDirection hp.dxferDirection with
    | none => (cmnd, -eBADMSG)
    | some direction =>
      let copied := direction == 1 || direction == 0
      let data := cmnd ++ .access 0 4 size :: .prepared 0 copied :: dataAccess copied dataOffset hp.dxferLen size
      if copied && u.dataFault then (data, -eFAULT)
      else (data ++ [.access 0 vblkSgHeaderLen.toNat size], 0)

/-- SOURCE: tegra_hv_scsi.c:21-171 -/
def vblkPrepSgIo (hpAllocOk allocOk : Bool) (hardblkSize : U32) (u : SgView) : List IoctlEvent × ℤ :=
  if hpAllocOk then
    match u.hdr with
    | none => ([], -eFAULT)
    | some hp =>
      if hp.cmdpNull ∨ hp.cmdLen.toNat < 6 ∨ vblkSgMaxCmdLen < hp.cmdLen.toNat then ([], -eMSGSIZE)
      else
        match sgLayout hardblkSize hp with
        | none => ([], -eMSGSIZE)
        | some (_, dataOffset, ioctlLen) =>
          if allocOk then
            let r := sgFill u hp dataOffset ioctlLen
            (.alloc :: (r.1 ++ freeOnError r.2), r.2)
          else ([], -eNOMEM)
  else ([], -eNOMEM)

/-- The length of the buffer that was prepared. -/
def sgIoctlLen (hardblkSize : U32) (u : SgView) : ℕ :=
  match u.hdr.bind (sgLayout hardblkSize) with
  | some (_, _, ioctlLen) => ioctlLen.toNat
  | none => 0

/-- What is copied out for a header: the sense data, the data and the header.
SOURCE: tegra_hv_scsi.c:199-231 -/
def sgCopyOut (u : SgView) (hp : SgIoHdr) (content : VblkSgIoHdr) (size : ℕ) : List IoctlEvent × ℤ :=
  let header := [IoctlEvent.access 0 vblkSgHeaderLen.toNat size]
  let sbLenWr := if hp.mxSbLen ≠ 0 then content.sbLenWr else 0
  let sense := sbLenWr != 0 && !hp.sbpNull
  let senseOut :=
    if sense then [.access content.sbpArgOffset.toNat sbLenWr.toNat size, .statusOut 0] else []
  if sense && u.sbFault then (header ++ senseOut, -eFAULT)
  else
    let copied := content.dataDirection == 2 || content.dataDirection == 0
    let data := header ++ senseOut ++
      .completed 0 copied :: dataAccess copied content.xferArgOffset content.dxferLen size
    if copied && u.dataFault then (data, -eFAULT)
    else (data ++ [.statusOut 0], if u.hdrOutFault then -eFAULT else 0)

/-- Without memory for a header the buffer is not freed.
SOURCE: tegra_hv_scsi.c:173-241 -/
def vblkCompleteSgIo (hpAllocOk : Bool) (status : ℤ) (u : SgView) (content : VblkSgIoHdr) (size : ℕ) :
    List IoctlEvent × ℤ :=
  if status ≠ 0 then ([.free], status)
  else if hpAllocOk then
    match u.hdr with
    | none => ([.free], -eFAULT)
    | some hp =>
      let r := sgCopyOut u hp content size
      (r.1 ++ [.free], r.2)
  else ([], -eNOMEM)

/-! ## Submitting an ioctl -/

/-- An ioctl and its argument as the two halves see it, with the allocations that succeed and what the completing half
finds in the buffer. -/
inductive VblkIoctl where
  | mmc (allocOk multi : Bool) (user user' : MmcView) (content : ℕ → ComboCmd)
  | ufs (allocOk : Bool) (user user' : UfsView) (bufferOffset : ℕ → U32)
  | sg (hpAllocOk allocOk hpAllocOk' : Bool) (hardblkSize : U32) (user user' : SgView) (content : VblkSgIoHdr)

/-- What becomes of the request: there is none, or it was not answered, or it was, with a status.  The request
structure keeps the status 0 when it was not. -/
inductive RequestOutcome where
  | noRequest (err : ℤ)
  | notAnswered
  | answered (status : ℤ)
deriving DecidableEq, Repr

/-- The preparing half. -/
def VblkIoctl.prep : VblkIoctl → List IoctlEvent × ℤ
  | .mmc allocOk multi user _ _ => vblkPrepMmcMultiIoc allocOk multi user
  | .ufs allocOk user _ _ => vblkPrepUfsComboIoc allocOk user
  | .sg hpAllocOk allocOk _ hardblkSize user _ _ => vblkPrepSgIo hpAllocOk allocOk hardblkSize user

/-- The completing half. -/
def VblkIoctl.complete (status : ℤ) : VblkIoctl → List IoctlEvent × ℤ
  | .mmc _ multi _ user' content => vblkCompleteMmcMultiIoc multi status user' content
  | .ufs _ _ user' bufferOffset => vblkCompleteUfsComboIoc status user' bufferOffset
  | .sg _ _ hpAllocOk' hardblkSize user user' content =>
    vblkCompleteSgIo hpAllocOk' status user' content (sgIoctlLen hardblkSize user)

/-- Without a request the ioctl buffer is not freed.
SOURCE: tegra_hv_ioctl.c:81-172 -/
def vblkSubmitIoctlReq (capable reqAllocOk : Bool) (ioctl : VblkIoctl) (outcome : RequestOutcome) :
    List IoctlEvent × ℤ :=
  if capable then
    if reqAllocOk then
      if ioctl.prep.2 ≠ 0 then ioctl.prep
      else
        match outcome with
        | .noRequest err => (ioctl.prep.1, err)
        | .notAnswered => (ioctl.prep.1 ++ (ioctl.complete 0).1, (ioctl.complete 0).2)
        | .answered status => (ioctl.prep.1 ++ (ioctl.complete status).1, (ioctl.complete status).2)
    else ([], -eNOMEM)
  else ([], -ePERM)

end NvidiaOot.Program
