import NvidiaOot.Program.Types

/-!
# The VPU applications of a PVA client

A client registers VPU executables.  Each gets an id, the first clear bit of `alloctable`,
and an image with the buffers of its segments.  An image that the user has unregistered
stays until the last task that took a reference gives it back.

`loads`, `stamp` and `cleaned` are a trace of the calls: how many ids were assigned, which
assignment an id belongs to, and which assignments `vpu_bin_clean` was called for, latest
first.  Only that function frees the buffers of an image.  Not modelled: the parsing of the
executable, whose result fills the image (`ElfContents`) or fails.

Sources are in `drivers/video/tegra/host/pva/`.
-/

namespace NvidiaOot.Program

open Function

/-- The loop of `rmos_get_first_set_bit` from `index` on. -/
def firstSetLoop : (fuel index : ℕ) → U32 → ℕ
  | 0, index, _ => index
  | fuel + 1, index, val =>
    if val &&& 1 = 1 then index else firstSetLoop fuel (index + 1) (val >>> 1)

/-- SOURCE: pva_bit_helpers.h:15-27 -/
def rmosGetFirstSetBit (val : U32) : ℕ := firstSetLoop 32 0 val

/-- SOURCE: pva_bit_helpers.h:29-35 -/
def rmosGetFirstZeroBit (val : U32) : ℕ :=
  if val = 0xFFFFFFFF then 32 else rmosGetFirstSetBit (~~~val)

/-- The last word of the search, of which only `size` bits count. -/
def firstZeroTail (word : U32) (result size : ℕ) : ℕ :=
  if size = 0 then result
  else
    let tmp := rmosGetFirstZeroBit (word ||| ((0xFFFFFFFF : U32) <<< size))
    if tmp = 32 then if 0xFFFFFFFF - result < size then size else result + size
    else result + tmp

/-- The loop over the words, for at most `fuel` of them. -/
def firstZeroLoop (addr : ℕ → U32) : (fuel p result size : ℕ) → ℕ
  | 0, p, result, size => firstZeroTail (addr p) result size
  | fuel + 1, p, result, size =>
    if 32 ≤ size then
      if addr p ≠ 0xFFFFFFFF then result + rmosGetFirstZeroBit (addr p)
      else firstZeroLoop addr fuel (p + 1) (result + 32) (size - 32)
    else firstZeroTail (addr p) result size

/--
The first clear bit, or `size` when there is none.

SOURCE: pva_bit_helpers.h:37-72
-/
def rmosFindFirstZeroBit (addr : ℕ → U32) (size : ℕ) : ℕ :=
  firstZeroLoop addr (size / 32) 0 0 size

/-- SOURCE: pva_bit_helpers.h:74-87 -/
def rmosSetBit32 (nr : ℕ) (word : U32) : U32 := word ||| ((1 : U32) <<< nr)
def rmosClearBit32 (nr : ℕ) (word : U32) : U32 := word &&& ~~~((1 : U32) <<< nr)
def rmosTestBit32 (nr : ℕ) (word : U32) : Bool := word &&& ((1 : U32) <<< nr) ≠ 0

section

/-- `NVPVA_NOOP_EXE_ID` at the width of an id: no executable (nvpva_ioctl.h:557). -/
def noopExeId : U16 := 65535

/-- `MAX_NUM_VPU_EXE`, `ALOC_SEGMENT_SIZE` (pva_vpu_exe.h:17-18) -/
def maxNumVpuExe : ℕ := 65535
def alocSegmentSize : ℕ := 32

/-- A symbol of an executable. -/
structure PvaElfSymbol where
  size : U32
  addr : U32
  isSys : Bool
deriving Inhabited, DecidableEq, Repr

/-- A buffer that the accelerator reads; the address 0 is no buffer. -/
structure PvaElfBuffer where
  pa : U64
deriving Inhabited, DecidableEq, Repr

/-- What parsing an executable puts into its image. -/
structure ElfContents where
  vpuBinBuffer : PvaElfBuffer
  vpuDataSegmentInfo : PvaElfBuffer
  vpuSegmentsBuffer : ℕ → PvaElfBuffer
  numSymbols : ℕ
  sym : ℕ → PvaElfSymbol
deriving Inhabited

/--
An image; `submit_refcount` counts the references of tasks, which the task pools keep far
below the range of `atomic_t`.

SOURCE: pva_vpu_exe.h:102-124
-/
structure PvaElfImage extends ElfContents where
  elfId : U16
  userRegistered : Bool
  isSystemApp : Bool
  submitRefcount : ℤ
deriving Inhabited

/-- The images of a client.
SOURCE: pva_vpu_exe.h:129-148 -/
structure NvpvaElfContext where
  segment : ℕ → Bool
  image : ℕ → PvaElfImage
  alloctable : ℕ → U32
  numAllocated : ℕ
  numAssigned : ℕ
  loads : ℕ
  stamp : ℕ → ℕ
  cleaned : List ℕ

variable (d : NvpvaElfContext) (exeId : U16)

/-- Is the id in use?
SOURCE: pva_vpu_exe.h:214-219 -/
def pvaVpuElfIsRegistered : Bool :=
  exeId.toNat < maxNumVpuExe &&
    (d.alloctable (exeId.toNat / 32) >>> (exeId.toNat % 32)) &&& 1 ≠ 0

/-- The image of an id, when there is one.
SOURCE: pva_vpu_exe.h:221-238 -/
def getElfImage : Option PvaElfImage :=
  if d.segment (exeId.toNat / alocSegmentSize) && pvaVpuElfIsRegistered d exeId then
    some (d.image exeId.toNat)
  else none

/-- Write through the pointer to an image. -/
def NvpvaElfContext.modify (f : PvaElfImage → PvaElfImage) : NvpvaElfContext :=
  { d with image := update d.image exeId.toNat (f (d.image exeId.toNat)) }

/-- `alloctable[exe_id/32]` with one bit changed -/
def NvpvaElfContext.setTable (f : ℕ → U32 → U32) : NvpvaElfContext :=
  { d with
    alloctable := update d.alloctable (exeId.toNat / 32)
      (f (exeId.toNat % 32) (d.alloctable (exeId.toNat / 32))) }

/-- A new segment of images, all zero. -/
def NvpvaElfContext.addSegment : NvpvaElfContext :=
  { d with
    segment := update d.segment (d.numAllocated / alocSegmentSize) true
    image := fun e =>
      if e / alocSegmentSize = d.numAllocated / alocSegmentSize then default else d.image e
    numAllocated := d.numAllocated + alocSegmentSize }

/-- The part of `pva_get_vpu_app_id` after the segment is there. -/
def assignAppId (isSystemApp : Bool) : Except ℤ U16 × NvpvaElfContext :=
  let index := rmosFindFirstZeroBit d.alloctable maxNumVpuExe
  if index = maxNumVpuExe then (.error (-eNOMEM), d)
  else
    let exeId := BitVec.ofNat 16 index
    let d := { d.setTable exeId rmosSetBit32 with
      numAssigned := d.numAssigned + 1
      stamp := update d.stamp exeId.toNat d.loads
      loads := d.loads + 1 }
    (.ok exeId,
      d.modify exeId fun image => { image with elfId := exeId, isSystemApp := isSystemApp })

/--
Assign an id; `kzallocOk` says whether a new segment could be allocated.

SOURCE: pva_vpu_exe.c:784-834
-/
def pvaGetVpuAppId (kzallocOk isSystemApp : Bool) : Except ℤ U16 × NvpvaElfContext :=
  if maxNumVpuExe ≤ d.numAssigned then (.error (-eNOMEM), d)
  else if d.numAllocated ≤ d.numAssigned then
    if kzallocOk then assignAppId d.addSegment isSystemApp else (.error (-eNOMEM), d)
  else assignAppId d isSystemApp

/-- Free the buffers of an image and zero it; nothing without an image.
SOURCE: pva_vpu_exe.c:755-782 -/
def vpuBinClean : NvpvaElfContext :=
  match getElfImage d exeId with
  | none => d
  | some _ => { d.modify exeId fun _ => default with
      cleaned := d.stamp exeId.toNat :: d.cleaned }

/-- SOURCE: pva_vpu_exe.c:836-865 -/
def pvaUnloadVpuApp : Except ℤ Unit × NvpvaElfContext :=
  if maxNumVpuExe ≤ exeId.toNat then (.error (-eINVAL), d)
  else if !rmosTestBit32 (exeId.toNat % 32) (d.alloctable (exeId.toNat / 32)) then
    (.error (-eINVAL), d)
  else
    let d := (vpuBinClean d exeId).setTable exeId rmosClearBit32
    (.ok (), { d with numAssigned := d.numAssigned - 1 })

/--
The user unregisters an executable.

SOURCE: pva_vpu_exe.c:935-951
-/
def pvaReleaseVpuApp : Except ℤ Unit × NvpvaElfContext :=
  match getElfImage d exeId with
  | none => (.error (-eINVAL), d)
  | some image =>
    if image.userRegistered then
      let d := d.modify exeId fun image => { image with userRegistered := false }
      if image.submitRefcount ≤ 0 then (.ok (), (pvaUnloadVpuApp d exeId).2) else (.ok (), d)
    else (.error (-eINVAL), d)

/--
A task gives its reference back.

SOURCE: pva_vpu_exe.c:953-975
-/
def pvaTaskReleaseRefVpuApp : Except ℤ Unit × NvpvaElfContext :=
  if exeId = noopExeId then (.ok (), d)
  else
    match getElfImage d exeId with
    | none => (.error (-eINVAL), d)
    | some image =>
      let d := d.modify exeId fun image => { image with submitRefcount := image.submitRefcount - 1 }
      if image.submitRefcount - 1 ≤ 0 ∧ image.userRegistered = false then
        (.ok (), (pvaUnloadVpuApp d exeId).2)
      else (.ok (), d)

/-- A task takes a reference.
SOURCE: pva_vpu_exe.c:977-989 -/
def pvaTaskAcquireRefVpuApp : Except ℤ Unit × NvpvaElfContext :=
  match getElfImage d exeId with
  | none => (.error (-eINVAL), d)
  | some _ =>
    (.ok (), d.modify exeId fun image => { image with submitRefcount := image.submitRefcount + 1 })

/-- What loading an executable meets: whether it is an ELF file, whether memory for a
segment can be had, and what parsing puts into the image before it succeeds or fails. -/
structure ElfFile where
  valid : Bool
  kzallocOk : Bool
  isSystemApp : Bool
  contents : ElfContents
  parsed : Bool

/--
The user registers an executable.

SOURCE: pva_vpu_exe.c:991-1047
-/
def pvaLoadVpuApp (file : ElfFile) : Except ℤ U16 × NvpvaElfContext :=
  if !file.valid then (.error (-eINVAL), d)
  else
    match pvaGetVpuAppId d file.kzallocOk file.isSystemApp with
    | (.error e, d) => (.error e, d)
    | (.ok exeId, d) =>
      let d := d.modify exeId fun image => { image with toElfContents := file.contents }
      if !file.parsed then (.error (-eINVAL), (pvaUnloadVpuApp d exeId).2)
      else (.ok exeId,
        d.modify exeId fun image => { image with userRegistered := true, submitRefcount := 0 })

/-- The images of a new client.
SOURCE: pva_vpu_exe.c:1097-1126 -/
def pvaVpuInit : NvpvaElfContext where
  segment i := i = 0
  image _ := default
  alloctable _ := 0
  numAllocated := alocSegmentSize
  numAssigned := 0
  loads := 0
  stamp _ := 0
  cleaned := []

end

end NvidiaOot.Program
