import NvidiaOot.Program.PvaVpuSegments

/-!
# What is loaded of a VPU executable

`InVmem` says that an interval is in one of the regions of the VPU's memory.  The check of an offset takes the last
region that starts there or before, and adds offset and size with 32 bits.

`Assembled` says what the buffers have when all sections are copied: the code at the byte address of its words, a later
section over an earlier one, and the data sections behind one another.
-/

namespace NvidiaOot.Model

open Library Program

def vmemRegions (hwGen : ℤ) : List VmemRegion := (vmemRegionsTab hwGen).take (vmemRegionCount hwGen)

/-- The bytes from an offset on are in one region. -/
def InVmem (hwGen : ℤ) (vmemOffset size : U32) : Prop :=
  ∃ r ∈ vmemRegions hwGen, r.start.toNat ≤ vmemOffset.toNat ∧ vmemOffset.toNat + size.toNat ≤ r.stop.toNat

/-- The last region that starts at the offset or before. -/
def lastRegion (hwGen : ℤ) (vmemOffset : U32) : Option VmemRegion :=
  (vmemRegions hwGen).reverse.find? fun r => r.start ≤ vmemOffset

/-- The sum of offset and size does not wrap, or what is left of it is behind the region. -/
def SumCareful (hwGen : ℤ) (vmemOffset size : U32) : Prop :=
  vmemOffset.toNat + size.toNat < 2 ^ 32 ∨
    ∀ r, lastRegion hwGen vmemOffset = some r → r.stop.toNat + 2 ^ 32 < vmemOffset.toNat + size.toNat

/-- What a section is copied to, if it is copied. -/
def kindOf (sec : ElfSection) : SegmentType :=
  if sec.type = shtProgbits then (sec.name.map fun name => findPvaUcodeSegmentType name sec.addr).getD .vpuMaxType
  else .vpuMaxType

def texts (sections : List ElfSection) : List ElfSection := sections.filter fun sec => kindOf sec = .vpuCode

def datas (sections : List ElfSection) : List ElfSection := sections.filter fun sec => kindOf sec = .vpuData

/-- A byte of a code section, with the bytes of each word swapped. -/
def swappedByte (elf : ℕ → U8) (sec : ElfSection) (k : ℕ) : U8 :=
  swapWords elf sec.offset.toNat (sec.size.toNat / 4) (sec.offset.toNat + k)

/-- The byte `p` of the code is one of the section. -/
def Loads (sec : ElfSection) (p : ℕ) : Prop :=
  4 * sec.addr.toNat ≤ p ∧ p < 4 * sec.addr.toNat + sec.size.toNat

/-- The offset of the next data section. -/
def dataOffset (sections : List ElfSection) : ℕ := ((datas sections).map fun sec => alignedSize sec.size.toNat).sum

/-- A code section is swapped in place. -/
def swapSection (elf : ℕ → U8) (sec : ElfSection) : ℕ → U8 :=
  if kindOf sec = .vpuCode then swapWords elf sec.offset.toNat (sec.size.toNat / 4) else elf

/-- The copy of the file when these sections have been copied. -/
def elfAfter (elf : ℕ → U8) (sections : List ElfSection) : ℕ → U8 := sections.foldl swapSection elf

def bufferBytes (b : ElfBuffer) : ℕ → U8 := (b.localbuffer.map KernelBuffer.bytes).getD fun _ => 0

/-- The entry `k` of the table of data sections. -/
def tableEntry (s : ElfSegments) (k : ℕ) : PvaVpuDataSection :=
  dataSectionAt (bufferBytes s.dataSegmentInfo) (sizeofPvaVpuDataSection * k)

structure Assembled (elf : ℕ → U8) (sections : List ElfSection) (copies : List BufferCopy) (s : ElfSegments) : Prop where
  copies : ∀ c ∈ copies, c.start + c.len ≤ c.cap
  /-- The code is in the buffer, and a byte is that of the last section that has it. -/
  code : ∀ front sec back, sections = front ++ sec :: back → kindOf sec = .vpuCode → ∀ k < sec.size.toNat,
    4 * sec.addr.toNat + k < s.code.localsize.toNat ∧
      ((∀ t ∈ texts back, ¬ Loads t (4 * sec.addr.toNat + k)) →
        bufferBytes s.code (4 * sec.addr.toNat + k) = swappedByte elf sec k)
  /-- What no section has is zero. -/
  zero : ∀ p, (∀ t ∈ texts sections, ¬ Loads t p) → bufferBytes s.code p = 0
  /-- The table has an entry for each data section, with its place behind those of the earlier sections. -/
  count : s.dataSegmentInfo.numSegments.toNat = (datas sections).length
  table : ∀ front sec back, sections = front ++ sec :: back → kindOf sec = .vpuData →
    tableEntry s (datas front).length =
        ⟨BitVec.ofNat 32 (dataOffset front), sec.addr, BitVec.ofNat 32 (alignedSize sec.size.toNat)⟩ ∧
      dataOffset front % dataSectionAlignment = 0 ∧
      dataOffset front + alignedSize sec.size.toNat ≤ s.data.localsize.toNat
  data : ∀ front sec back, sections = front ++ sec :: back → kindOf sec = .vpuData → ∀ k < sec.size.toNat,
    bufferBytes s.data (dataOffset front + k) = elf (sec.offset.toNat + k)

/-- Sections that are assembled as they are in the file: no address of code wraps when it is turned into bytes, and no
byte that is kept has been swapped for an earlier section. -/
structure SectionsCareful (elf : ℕ → U8) (sections : List ElfSection) : Prop where
  addrs : ∀ sec ∈ texts sections, sec.size ≠ 0 → sec.addr.toNat < 2 ^ 30
  code : ∀ front sec back, sections = front ++ sec :: back → kindOf sec = .vpuCode → ∀ k < sec.size.toNat,
    (∀ t ∈ texts back, ¬ Loads t (4 * sec.addr.toNat + k)) →
      swappedByte (elfAfter elf front) sec k = swappedByte elf sec k
  data : ∀ front sec back, sections = front ++ sec :: back → kindOf sec = .vpuData → ∀ k < sec.size.toNat,
    elfAfter elf front (sec.offset.toNat + k) = elf (sec.offset.toNat + k)

end NvidiaOot.Model
