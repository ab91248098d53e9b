import NvidiaOot.Library.TraceLoop
import NvidiaOot.Library.WordBytes
import NvidiaOot.Program.PvaDmaDesc
import NvidiaOot.Program.PvaElfImages

/-!
# The segments and symbols of a VPU executable

The sections of a file are put together to one buffer for the code and one for the data, with a table of the data
sections.  The words of a code section are swapped in place in the copy of the file (`elf`) before they are copied.  The
headers and names of the sections are those that the loop finds when it comes to a section.

The trace has the copies to and from the buffers, each with the size that was allocated.  `kzalloc` says for which sizes
memory can be had.

Not modelled: messages, and the memory of the accelerator that the buffers are copied to in the end.

Sources are in `drivers/video/tegra/host/pva/`.
-/

namespace NvidiaOot.Program

open Library

/-- SOURCE: pva_vpu_exe.c:1127-1130 -/
structure VmemRegion where
  start : U32
  stop : U32
deriving DecidableEq, Repr

/-- `NUM_HEM_GEN` -/
def numHemGen : ℤ := 3

/-- The row of a generation, without the rows that are configured for later hardware.
SOURCE: pva_vpu_exe.c:1132-1148, hw_vmem_pva.h:13-25 -/
def vmemRegionsTab (hwGen : ℤ) : List VmemRegion :=
  if hwGen = 1 then [⟨0x40, 0x10000⟩, ⟨0x40000, 0x50000⟩, ⟨0x80000, 0x90000⟩, ⟨0xFFFFFFFF, 0⟩]
  else if hwGen = 2 then [⟨0x40, 0x20000⟩, ⟨0x40000, 0x60000⟩, ⟨0x80000, 0xA0000⟩, ⟨0xFFFFFFFF, 0⟩]
  else [⟨0, 0⟩, ⟨0, 0⟩, ⟨0, 0⟩, ⟨0, 0⟩]

/-- `VMEM_REGION_COUNT_T26x`, `VMEM_REGION_COUNT_T23x` -/
def vmemRegionCount (hwGen : ℤ) : ℕ := if hwGen = pvaHwGen3 then 4 else 3

/-- The loop that goes down the regions to one that starts at the offset or before. -/
def vmemRegionLoop (row : List VmemRegion) (vmemOffset : U32) : ℕ → ℕ
  | 0 => 0
  | i + 1 => if (row.getD i ⟨0, 0⟩).start ≤ vmemOffset then i + 1 else vmemRegionLoop row vmemOffset i

/-- SOURCE: pva_vpu_exe.c:1150-1175 -/
def nvpvaValidateVmemOffset (vmemOffset size : U32) (hwGen : ℤ) : ℤ :=
  if hwGen < 0 ∨ numHemGen < hwGen then -eINVAL
  else
    let row := vmemRegionsTab hwGen
    let i := vmemRegionLoop row vmemOffset (vmemRegionCount hwGen)
    if 0 < i ∧ vmemOffset + size ≤ (row.getD (i - 1) ⟨0, 0⟩).stop then 0 else -eINVAL

/-- What a section is for. -/
inductive SegmentType
  | vpuCode
  | vpuData
  | vpuInParams
  | vpuMaxType
deriving DecidableEq, Repr

/-- `".data"`, `".rodata"`, `".text"`
SOURCE: pva_vpu_exe.c:41-55 -/
def packRules : List (List U8 × SegmentType) :=
  [([0x2e, 0x64, 0x61, 0x74, 0x61], .vpuData), ([0x2e, 0x72, 0x6f, 0x64, 0x61, 0x74, 0x61], .vpuData),
    ([0x2e, 0x74, 0x65, 0x78, 0x74], .vpuCode)]

/-- `ELF_MAXIMUM_SECTION_NAME` -/
def elfMaximumSectionName : ℕ := 64

/-- `ELF_EXPORTS_SECTION`: `"EXPORTS"` -/
def elfExportsSection : List U8 := [0x45, 0x58, 0x50, 0x4f, 0x52, 0x54, 0x53]

/-- SOURCE: pva_vpu_exe.c:57-87 -/
def findPvaUcodeSegmentType (sectionName : List U8) (addr : U32) : SegmentType :=
  match packRules.find? fun rule => rule.1.isPrefixOf sectionName with
  | none => .vpuMaxType
  | some (_, .vpuData) =>
    let name := sectionName.take elfMaximumSectionName
    if elfExportsSection.length ≤ name.length ∧
        name.drop (name.length - elfExportsSection.length) = elfExportsSection then .vpuInParams
    else if addr = 0xc0000 then .vpuInParams
    else .vpuData
  | some (_, type) => type

/-- `SHT_PROGBITS` -/
def shtProgbits : U32 := 1

/-- A section header with the name of its section. -/
structure ElfSection where
  name : Option (List U8)
  type : U32
  addr : U32
  offset : U32
  size : U32
deriving DecidableEq, Repr

/-- `SWAP_DATA` -/
def swapData (x : U32) : U32 :=
  ((x >>> 24) &&& 0xff) ||| (((x >>> 16) &&& 0xff) <<< 8) ||| (((x >>> 8) &&& 0xff) <<< 16) ||| ((x &&& 0xff) <<< 24)

/-- The words of a section are swapped in place. -/
def swapWords (elf : ℕ → U8) (offset : ℕ) : ℕ → (ℕ → U8)
  | 0 => elf
  | n + 1 =>
    let elf := swapWords elf offset n
    putWord elf (offset + 4 * n) (swapData (getWord elf (offset + 4 * n)))

section

/-- Memory of the kernel. -/
structure KernelBuffer where
  cap : ℕ
  bytes : ℕ → U8

/-- What `kzalloc` returns. -/
def zeroBuffer (n : ℕ) : KernelBuffer := ⟨n, fun _ => 0⟩

def KernelBuffer.memcpy (b : KernelBuffer) (start n : ℕ) (src : ℕ → U8) : KernelBuffer :=
  { b with bytes := blit b.bytes start n src }

/-- A copy of `len` bytes from `start` on in a buffer of `cap` bytes. -/
structure BufferCopy where
  start : ℕ
  len : ℕ
  cap : ℕ
deriving DecidableEq, Repr

/-- SOURCE: pva_vpu_exe.h:58-80 -/
structure ElfBuffer where
  localbuffer : Option KernelBuffer
  localsize : U32
  numSegments : U32

/-- `DATA_SECTION_ALIGNMENT` -/
def dataSectionAlignment : ℕ := 32

def alignedSize (n : ℕ) : ℕ :=
  if n % dataSectionAlignment ≠ 0 then n + (dataSectionAlignment - n % dataSectionAlignment) else n

variable (kzalloc : ℕ → Bool) (buffer : ElfBuffer) (src : ℕ → U8) (srcSize : ℕ)

/-- The last step of each copy: the bytes go behind what is there, and the size is set. -/
def ElfBuffer.put (start : ℕ) (localsize : U32) (b : KernelBuffer) : List BufferCopy × ElfBuffer :=
  ([⟨start, srcSize, b.cap⟩],
    { buffer with localbuffer := some (b.memcpy start srcSize src), localsize := localsize })

/-- The buffer is too small: a larger one, with what is there. -/
def growBuffer (old : KernelBuffer) (n alloc : ℕ) : List BufferCopy × KernelBuffer :=
  ([⟨0, n, old.cap⟩, ⟨0, n, alloc⟩], (zeroBuffer alloc).memcpy 0 n old.bytes)

/-- The address has 32 bits, the sum 64.
SOURCE: pva_vpu_exe.c:303-345 -/
def copyToElfBufferCode (addr : U32) : List BufferCopy × Except ℤ ElfBuffer :=
  let addrBytes := (addr * 4).toNat
  let aligned := alignedSize (addrBytes + srcSize)
  match buffer.localbuffer with
  | none =>
    if buffer.localsize.toNat < addrBytes + srcSize then
      if addrBytes ≠ 0 then ([], .error (-eINVAL))
      else if kzalloc aligned then
        let (copies, b) := buffer.put src srcSize addrBytes (BitVec.ofNat 32 aligned) (zeroBuffer aligned)
        (copies, .ok b)
      else ([], .error (-eNOMEM))
    else ([⟨addrBytes, srcSize, 0⟩], .ok buffer)
  | some old =>
    if buffer.localsize.toNat < addrBytes + srcSize then
      if kzalloc aligned then
        let (copies, new) := growBuffer old buffer.localsize.toNat aligned
        let (copies', b) := buffer.put src srcSize addrBytes (BitVec.ofNat 32 aligned) new
        (copies ++ copies', .ok b)
      else ([], .error (-eNOMEM))
    else
      let (copies, b) := buffer.put src srcSize addrBytes buffer.localsize old
      (copies, .ok b)

/-- SOURCE: pva_vpu_exe.c:347-391 -/
def copyToElfBuffer : List BufferCopy × Except ℤ ElfBuffer :=
  let dstSize := buffer.localsize.toNat
  let aligned := alignedSize srcSize
  match buffer.localbuffer with
  | none =>
    if kzalloc aligned then
      let (copies, b) :=
        buffer.put src srcSize dstSize (buffer.localsize + BitVec.ofNat 32 aligned) (zeroBuffer aligned)
      (copies, .ok b)
    else ([], .error (-eNOMEM))
  | some old =>
    if kzalloc dstSize = false then ([], .error (-eNOMEM))
    else
      let (copies, resize) := growBuffer old dstSize dstSize
      if kzalloc (dstSize + aligned) = false then (copies, .error (-eNOMEM))
      else
        let (copies', new) := growBuffer resize dstSize (dstSize + aligned)
        let (copies'', b) := buffer.put src srcSize dstSize (buffer.localsize + BitVec.ofNat 32 aligned) new
        (copies ++ copies' ++ copies'', .ok b)

/-- `UINT_MAX` -/
def uintMax : U32 := 0xFFFFFFFF

/-- The size that is allocated has 32 bits.
SOURCE: pva_vpu_exe.c:393-426 -/
def copyToElfDataSecBuffer : List BufferCopy × Except ℤ ElfBuffer :=
  let dstSize := buffer.localsize.toNat
  let size := BitVec.ofNat 32 srcSize
  let finish (copies : List BufferCopy) (new : KernelBuffer) : List BufferCopy × Except ℤ ElfBuffer :=
    let (copies', b) := buffer.put src srcSize dstSize (buffer.localsize + size) new
    if uintMax - buffer.localsize < size then (copies ++ copies', .error (-eINVAL)) else (copies ++ copies', .ok b)
  match buffer.localbuffer with
  | none => if kzalloc srcSize then finish [] (zeroBuffer srcSize) else ([], .error (-eNOMEM))
  | some old =>
    let alloc := (buffer.localsize + size).toNat
    if kzalloc alloc then
      let (copies, new) := growBuffer old dstSize alloc
      finish copies new
    else ([], .error (-eNOMEM))

end

section

/-- An entry of the table of data sections.
SOURCE: fw_include/pva-task.h:334-338 -/
structure PvaVpuDataSection where
  offset : U32
  addr : U32
  size : U32
deriving DecidableEq, Repr

/-- `sizeof(struct pva_vpu_data_section_s)` -/
def sizeofPvaVpuDataSection : ℕ := 12

/-- The bytes of an entry. -/
def PvaVpuDataSection.bytes (e : PvaVpuDataSection) : ℕ → U8 :=
  putWord (putWord (putWord (fun _ => 0) 0 e.offset) 4 e.addr) 8 e.size

/-- The entry at an offset. -/
def dataSectionAt (memory : ℕ → U8) (p : ℕ) : PvaVpuDataSection :=
  ⟨getWord memory p, getWord memory (p + 4), getWord memory (p + 8)⟩

/-- The copy of the file, and the buffers that are filled from it. -/
structure ElfSegments where
  elf : ℕ → U8
  code : ElfBuffer
  data : ElfBuffer
  dataSegmentInfo : ElfBuffer
  codeSize : U32

variable (kzalloc : ℕ → Bool) (hwGen : ℤ) (sec : ElfSection) (s : ElfSegments)

/-- The part of `copy_segments` for a code section. -/
def copyCodeSegment : List BufferCopy × Except ℤ ElfSegments :=
  let elf := swapWords s.elf sec.offset.toNat (sec.size.toNat / 4)
  match copyToElfBufferCode kzalloc s.code (fun k => elf (sec.offset.toNat + k)) sec.size.toNat sec.addr with
  | (copies, .error e) => (copies, .error e)
  | (copies, .ok b) =>
    (copies, .ok { s with
      elf := elf
      code := { b with numSegments := b.numSegments + 1 }
      codeSize := b.localsize })

/-- The part of `copy_segments` for a data section. -/
def copyDataSegment : List BufferCopy × Except ℤ ElfSegments :=
  match copyToElfBuffer kzalloc s.data (fun k => s.elf (sec.offset.toNat + k)) sec.size.toNat with
  | (copies, .error e) => (copies, .error e)
  | (copies, .ok b) =>
    if b.localsize < s.data.localsize then (copies, .error (-eINVAL))
    else
      let entry : PvaVpuDataSection := ⟨s.data.localsize, sec.addr, b.localsize - s.data.localsize⟩
      if nvpvaValidateVmemOffset entry.addr entry.size hwGen ≠ 0 then (copies, .error (-eINVAL))
      else
        match copyToElfDataSecBuffer kzalloc s.dataSegmentInfo entry.bytes sizeofPvaVpuDataSection with
        | (copies', .error e) => (copies ++ copies', .error e)
        | (copies', .ok table) =>
          if uintMax - 1 ≤ table.numSegments then (copies ++ copies', .error (-eINVAL))
          else
            (copies ++ copies', .ok { s with
              data := { b with numSegments := b.numSegments + 1 }
              dataSegmentInfo := { table with numSegments := table.numSegments + 1 } })

/-- SOURCE: pva_vpu_exe.c:428-535 -/
def copySegments : List BufferCopy × Except ℤ ElfSegments :=
  match sec.name with
  | none => ([], .error (-eINVAL))
  | some name =>
    match findPvaUcodeSegmentType name sec.addr with
    | .vpuCode => copyCodeSegment kzalloc sec s
    | .vpuData => copyDataSegment kzalloc hwGen sec s
    | _ => ([], .ok s)

/-- The body of the loop of `populate_segments`. -/
def populateSegment (kzalloc : ℕ → ℕ → Bool) (sections : List ElfSection) (i : ℕ) (s : ElfSegments) :
    List BufferCopy × Except ℤ ElfSegments :=
  match sections[i]? with
  | none => ([], .error (-eINVAL))
  | some sec => if sec.type = shtProgbits then copySegments (kzalloc i) hwGen sec s else ([], .ok s)

/-- `kzalloc i` is for the section `i`.
SOURCE: pva_vpu_exe.c:538-566 -/
def populateSegments (kzalloc : ℕ → ℕ → Bool) (sections : List ElfSection) :
    List BufferCopy × Except ℤ ElfSegments :=
  tracedTurns (populateSegment hwGen kzalloc sections) sections.length 0 s

/-- The buffers of a new image. -/
def newElfSegments (elf : ℕ → U8) : ElfSegments := ⟨elf, ⟨none, 0, 0⟩, ⟨none, 0, 0⟩, ⟨none, 0, 0⟩, 0⟩

end

section

/-- `NVPVA_TASK_MAX_SYMBOLS` -/
def nvpvaTaskMaxSymbols : ℕ := 128

/-- `ELF_MAX_SYMBOL_LENGTH` -/
def elfMaxSymbolLength : ℕ := 64

/-- `VMEM_TYPE_INVALID`, `VMEM_TYPE_MAX`
SOURCE: pva_vpu_exe.h:24-39 -/
def vmemTypeInvalid : U32 := 0
def vmemTypeMax : U32 := 6

/-- `PVA_SYS_INSTANCE_DATA_V1_SYMBOL`: `"_sys_instance_data_v1"` -/
def pvaSysInstanceDataV1Symbol : List U8 :=
  [0x5f, 0x73, 0x79, 0x73, 0x5f, 0x69, 0x6e, 0x73, 0x74, 0x61, 0x6e, 0x63, 0x65, 0x5f, 0x64, 0x61, 0x74, 0x61, 0x5f,
    0x76, 0x31]

/-- A symbol of the file with its name and the section that it is in. -/
structure ElfSymbol where
  isGlobal : Bool
  isFunc : Bool
  name : Option (List U8)
  value : U32
  size : U32
  sec : Option ElfSection
deriving DecidableEq, Repr

/-- A symbol of an `EXPORTS` section has its place and size there.
SOURCE: pva_vpu_exe.c:575-607 -/
def updateExportsSymbol (elf : ℕ → U8) (sec : ElfSection) (name : List U8) (sym : PvaElfSymbol) :
    Except ℤ PvaElfSymbol := do
  if findPvaUcodeSegmentType name sec.addr = .vpuInParams then
    let data := sec.offset.toNat + (sym.addr - sec.addr).toNat
    reject (getWord elf data = vmemTypeInvalid ∨ vmemTypeMax ≤ getWord elf data) (-eINVAL)
    .ok { sym with addr := getWord elf (data + 4), size := getWord elf (data + 8) }
  else .ok sym

variable (elf : ℕ → U8) (hwGen : ℤ)

/-- The part of the loop of `populate_symtab` for a symbol that is taken into the table. -/
def addSymbol (sec : ElfSection) (name : List U8) (symbol : ElfSymbol) (kcalloc : Bool) (syms : List PvaElfSymbol) :
    Except ℤ (List PvaElfSymbol) :=
  match symbol.name with
  | none => .error (-eINVAL)
  | some symname => do
    reject (kcalloc = false) (-eNOMEM)
    let sym ← updateExportsSymbol elf sec name
      ⟨symbol.size, symbol.value, symname.take (elfMaxSymbolLength - 1) = pvaSysInstanceDataV1Symbol⟩
    reject (nvpvaValidateVmemOffset sym.addr sym.size hwGen ≠ 0) (-eINVAL)
    .ok (syms ++ [sym])

/-- The body of the loop of `populate_symtab`. -/
def populateSymbol (symbol : Option ElfSymbol) (kcalloc : Bool) (syms : List PvaElfSymbol) :
    Except ℤ (List PvaElfSymbol) := do
  reject (nvpvaTaskMaxSymbols ≤ syms.length) (-eINVAL)
  match symbol with
  | none => .ok syms
  | some symbol =>
    if symbol.isGlobal = false ∨ symbol.isFunc ∨ symbol.size = 0 then .ok syms
    else
      match symbol.sec with
      | none => .error (-eINVAL)
      | some sec =>
        match sec.name with
        | none => .error (-eINVAL)
        | some name =>
          if findPvaUcodeSegmentType name sec.addr ≠ .vpuInParams then .ok syms
          else addSymbol elf hwGen sec name symbol kcalloc syms

/-- The symbols that are taken; each comes with whether there is memory for its name.
SOURCE: pva_vpu_exe.c:609-720 -/
def populateSymtab (symbols : List (Option ElfSymbol × Bool)) : Except ℤ (List PvaElfSymbol) :=
  symbols.foldlM (fun syms symbol => populateSymbol elf hwGen symbol.1 symbol.2 syms) []

end

end NvidiaOot.Program
