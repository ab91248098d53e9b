import NvidiaOot.Library.ByteArea
import NvidiaOot.Library.Fallible
import NvidiaOot.Program.Types

/-!
# The loader of ADSP applications: the layout of a module

An application is a relocatable ELF file.  `memory` is the copy of the file and what follows it
in the kernel's memory, which is read where an offset of the file leads there.  The section
headers are changed in place: `sh_entsize` gets the offset of the section in the module, with a
mark if it is an init section, and `sh_addr` the place where it is then copied to.

Not modelled: messages, and `dram_app_mem_request` except for what it returns.

Sources are in `drivers/platform/tegra/nvadsp/`.
-/

namespace NvidiaOot.Program

open Library

/-- A byte of the file. -/
def u8At (memory : List U8) (p : ℕ) : U8 := memory.getD p 0

def u16At (memory : List U8) (p : ℕ) : U16 := u8At memory (p + 1) ++ u8At memory p

def u32At (memory : List U8) (p : ℕ) : U32 := u16At memory (p + 2) ++ u16At memory p

/-- `strlen` -/
def strlen (memory : List U8) (p : ℕ) : ℕ := ((memory.drop p).takeWhile fun c => c ≠ 0).length

/-- `strstarts`, for a start without a zero. -/
def strstarts (memory : List U8) (p : ℕ) (start : List U8) : Bool :=
  slice (u8At memory) p start.length = start

/-- `struct elf32_hdr` -/
structure Elf32Hdr where
  eIdent : List U8
  eType : U16
  eMachine : U16
  eEntry : U32
  eShoff : U32
  eFlags : U32
  eShentsize : U16
  eShnum : U16
  eShstrndx : U16
deriving DecidableEq, Repr

/-- `sizeof(struct elf32_hdr)` -/
def sizeofElf32Hdr : ℕ := 52

def elf32HdrAt (memory : List U8) : Elf32Hdr where
  eIdent := slice (u8At memory) 0 4
  eType := u16At memory 16
  eMachine := u16At memory 18
  eEntry := u32At memory 24
  eShoff := u32At memory 32
  eFlags := u32At memory 36
  eShentsize := u16At memory 46
  eShnum := u16At memory 48
  eShstrndx := u16At memory 50

/-- `struct elf32_shdr` -/
structure Elf32Shdr where
  shName : U32
  shType : U32
  shFlags : U32
  shAddr : U32
  shOffset : U32
  shSize : U32
  shLink : U32
  shInfo : U32
  shAddralign : U32
  shEntsize : U32
deriving DecidableEq, Repr

/-- `sizeof(Elf32_Shdr)` -/
def sizeofElf32Shdr : ℕ := 40

def elf32ShdrAt (memory : List U8) (p : ℕ) : Elf32Shdr where
  shName := u32At memory p
  shType := u32At memory (p + 4)
  shFlags := u32At memory (p + 8)
  shAddr := u32At memory (p + 12)
  shOffset := u32At memory (p + 16)
  shSize := u32At memory (p + 20)
  shLink := u32At memory (p + 24)
  shInfo := u32At memory (p + 28)
  shAddralign := u32At memory (p + 32)
  shEntsize := u32At memory (p + 36)

/-- `struct elf32_sym` -/
structure Elf32Sym where
  stName : U32
  stValue : U32
  stSize : U32
  stInfo : U8
  stOther : U8
  stShndx : U16
deriving DecidableEq, Repr

/-- `sizeof(Elf32_Sym)` -/
def sizeofElf32Sym : ℕ := 16

def elf32SymAt (memory : List U8) (p : ℕ) : Elf32Sym where
  stName := u32At memory p
  stValue := u32At memory (p + 4)
  stSize := u32At memory (p + 8)
  stInfo := u8At memory (p + 12)
  stOther := u8At memory (p + 13)
  stShndx := u16At memory (p + 14)

/-- `ELFMAG` -/
def elfMag : List U8 := [0x7f, 0x45, 0x4c, 0x46]

/-- `ET_REL` -/
def etRel : U16 := 1
/-- `EM_ARM` -/
def emArm : U16 := 40

/-- `SHT_SYMTAB` -/
def shtSymtab : U32 := 2
/-- `SHT_NOBITS` -/
def shtNobits : U32 := 8

/-- `SHF_WRITE` -/
def shfWrite : U32 := 1
/-- `SHF_ALLOC` -/
def shfAlloc : U32 := 2
/-- `SHF_EXECINSTR` -/
def shfExecinstr : U32 := 4

/-- `SHN_UNDEF` -/
def shnUndef : U16 := 0

/-- `ALIGN` for a `size_t`. -/
def alignUp (x a : U64) : U64 := (x + (a - 1)) &&& ~~~(a - 1)

/-- `BITS_PER_INT` -/
def bitsPerInt : U32 := 32

/-- `INIT_OFFSET_MASK`, with the comparison of the source.
SOURCE: app_loader_linker.c:31-32 -/
def initOffsetMask : U32 := if (1 : U32) < bitsPerInt - 1 then 1 else 0

/-- `HWCAP_THUMB` -/
def hwcapThumb : U32 := 1 <<< 2
/-- `HWCAP_26BIT` -/
def hwcap26bit : U32 := 1 <<< 3
/-- `HWCAP_VFP` -/
def hwcapVfp : U32 := 1 <<< 6

/-- `EF_ARM_EABI_MASK` -/
def efArmEabiMask : U32 := 0xff000000
/-- `EF_ARM_EABI_UNKNOWN` -/
def efArmEabiUnknown : U32 := 0
/-- `EF_ARM_APCS_26` -/
def efArmApcs26 : U32 := 8
/-- `EF_ARM_VFP_FLOAT` -/
def efArmVfpFloat : U32 := 0x400
/-- `EF_ARM_SOFT_FLOAT` -/
def efArmSoftFloat : U32 := 0x200

/-- `".init"` -/
def dotInit : List U8 := [0x2e, 0x69, 0x6e, 0x69, 0x74]

/-- `ARCH_SHF_SMALL` -/
def archShfSmall : U32 := 0

/-- The flags that a section has, and those that it does not have, when it is laid out.
SOURCE: app_loader_linker.c:580-588 -/
def masks : List (U32 × U32) :=
  [(shfExecinstr ||| shfAlloc, archShfSmall), (shfAlloc, shfWrite ||| archShfSmall),
    (shfWrite ||| shfAlloc, archShfSmall), (archShfSmall ||| shfAlloc, 0)]

/-- SOURCE: app_loader_linker.c:106-118 -/
structure LoadInfo where
  memory : List U8
  len : U64
  sechdrs : ℕ → Elf32Shdr
  secstrings : ℕ
  strtab : ℕ
  symoffs : U64
  stroffs : U64
  indexSym : ℕ
  indexStr : ℕ

/-- What `load_adsp_dynamic_module` starts with. -/
def newLoadInfo (memory : List U8) (len : U64) : LoadInfo :=
  ⟨memory, len, fun i => elf32ShdrAt memory (sizeofElf32Shdr * i), 0, 0, 0, 0, 0, 0⟩

def LoadInfo.hdr (info : LoadInfo) : Elf32Hdr := elf32HdrAt info.memory

/-- The number of sections. -/
def LoadInfo.shnum (info : LoadInfo) : ℕ := info.hdr.eShnum.toNat

/-- Change a section header. -/
def LoadInfo.modify (info : LoadInfo) (i : ℕ) (f : Elf32Shdr → Elf32Shdr) : LoadInfo :=
  { info with sechdrs := fun j => if j = i then f (info.sechdrs i) else info.sechdrs j }

/-- The module that is loaded; `memory` is what is at `module_ptr`.
SOURCE: os.h:107-116 -/
structure AdspModule where
  size : U64
  adspModulePtr : U32
  memory : ℕ → U8

/-- What the loader is built for and what it gets from the kernel: whether `kzalloc` succeeds,
where `dram_app_mem_request` finds memory for a module, and what is there. -/
structure LoaderEnv where
  elfHwcap : U32
  kallsymsAll : Bool
  kzalloc : Bool
  dramAppMemRequest : U64 → Option U32
  dram : ℕ → U8

/-- SOURCE: app_loader_linker.c:769-800 -/
def elfCheckArchArm32 (env : LoaderEnv) (x : Elf32Hdr) : Bool :=
  if x.eMachine ≠ emArm then false
  else if x.eEntry &&& 1 ≠ 0 ∧ env.elfHwcap &&& hwcapThumb = 0 then false
  else if x.eEntry &&& 1 = 0 ∧ x.eEntry &&& 3 ≠ 0 then false
  else if x.eFlags &&& efArmEabiMask = efArmEabiUnknown then
    if x.eFlags &&& efArmApcs26 ≠ 0 ∧ env.elfHwcap &&& hwcap26bit = 0 then false
    else
      !(x.eFlags &&& (efArmVfpFloat ||| efArmSoftFloat) = efArmVfpFloat ∧
        env.elfHwcap &&& hwcapVfp = 0)
  else true

/-- SOURCE: app_loader_linker.c:802-819 -/
def elfHeaderCheck (env : LoaderEnv) (info : LoadInfo) : Except ℤ Unit := do
  reject (info.len.toNat < sizeofElf32Hdr) (-eNOEXEC)
  reject (info.hdr.eIdent ≠ elfMag ∨ info.hdr.eType ≠ etRel ∨
    elfCheckArchArm32 env info.hdr = false ∨ info.hdr.eShentsize.toNat ≠ sizeofElf32Shdr) (-eNOEXEC)
  reject (info.len.toNat ≤ info.hdr.eShoff.toNat ∨
    info.len.toNat - info.hdr.eShoff.toNat < info.shnum * sizeofElf32Shdr) (-eNOEXEC)

/-- The loop of `rewrite_section_headers`. -/
def rewriteLoop : List ℕ → LoadInfo → Except ℤ LoadInfo
  | [], info => .ok info
  | i :: l, info =>
    -- the sum has 32 bits
    if (info.sechdrs i).shType ≠ shtNobits ∧
        info.len.toNat < ((info.sechdrs i).shOffset + (info.sechdrs i).shSize).toNat then
      .error (-eNOEXEC)
    else rewriteLoop l (info.modify i fun s => { s with shAddr := s.shOffset })

/-- SOURCE: app_loader_linker.c:630-653 -/
def rewriteSectionHeaders (info : LoadInfo) : Except ℤ LoadInfo :=
  rewriteLoop (List.range' 1 (info.shnum - 1)) (info.modify 0 fun s => { s with shAddr := 0 })

/-- SOURCE: app_loader_linker.c:656-697 -/
def setupLoadInfo (env : LoaderEnv) (info : LoadInfo) : Except ℤ LoadInfo := do
  let sechdrs := fun i =>
    elf32ShdrAt info.memory (info.hdr.eShoff.toNat + sizeofElf32Shdr * i)
  let info ← rewriteSectionHeaders { info with
    sechdrs := sechdrs
    secstrings := (sechdrs info.hdr.eShstrndx.toNat).shOffset.toNat }
  reject (env.kzalloc = false) (-eNOMEM)
  match (List.range' 1 (info.shnum - 1)).find?
      fun i => (info.sechdrs i).shType = shtSymtab with
  | none => .error (-eNOEXEC)
  | some i =>
    .ok { info with
      indexSym := i
      indexStr := (info.sechdrs i).shLink.toNat
      strtab := (info.sechdrs (info.sechdrs i).shLink.toNat).shOffset.toNat }

/-- The offset for a section, and the size with it.
SOURCE: app_loader_linker.c:545-554 -/
def getOffset (size : U64) (sechdr : Elf32Shdr) : U32 × U64 :=
  let ret := (alignUp size
    (if sechdr.shAddralign = 0 then 1 else sechdr.shAddralign.setWidth 64)).setWidth 32
  (ret, (ret + sechdr.shSize).setWidth 64)

/-- Is it an init section, by its name? -/
def LoadInfo.isInit (info : LoadInfo) (i : ℕ) : Bool :=
  strstarts info.memory (info.secstrings + (info.sechdrs i).shName.toNat) dotInit

/-- Does a section have the flags of a mask? -/
def hasFlags (mask : U32 × U32) (s : Elf32Shdr) : Bool :=
  s.shFlags &&& mask.1 = mask.1 ∧ s.shFlags &&& mask.2 = 0

/-- Give a section the next offset. -/
def layoutOne (mark : U32) (st : U64 × LoadInfo) (i : ℕ) : U64 × LoadInfo :=
  let r := getOffset st.1 (st.2.sechdrs i)
  (r.2, st.2.modify i fun s => { s with shEntsize := r.1 ||| mark })

/-- One of the two double loops of `layout_sections`, for init sections or for the others. -/
def layoutPass (init : Bool) (st : U64 × LoadInfo) : U64 × LoadInfo :=
  masks.foldl (fun st mask => (List.range st.2.shnum).foldl (fun st i =>
    if hasFlags mask (st.2.sechdrs i) ∧ (st.2.sechdrs i).shEntsize = ~~~0 ∧ st.2.isInit i = init then
      layoutOne (if init then initOffsetMask else 0) st i
    else st) st) st

/-- SOURCE: app_loader_linker.c:578-628 -/
def layoutSections (st : U64 × LoadInfo) : U64 × LoadInfo :=
  let info := (List.range st.2.shnum).foldl
    (fun info i => info.modify i fun s => { s with shEntsize := ~~~0 }) st.2
  layoutPass true (layoutPass false (st.1, info))

/-- SOURCE: app_loader_linker.c:556-576 -/
def isCoreSymbol (env : LoaderEnv) (info : LoadInfo) (src : Elf32Sym) : Bool :=
  if src.stShndx = shnUndef ∨ info.shnum ≤ src.stShndx.toNat ∨ src.stName = 0 then false
  else
    let sec := info.sechdrs src.stShndx.toNat
    !(sec.shFlags &&& shfAlloc = 0 ∨ (env.kallsymsAll = false ∧ sec.shFlags &&& shfExecinstr = 0) ∨
      sec.shEntsize &&& initOffsetMask ≠ 0)

/-- The symbols of the file. -/
def LoadInfo.src (info : LoadInfo) (i : ℕ) : Elf32Sym :=
  elf32SymAt info.memory ((info.sechdrs info.indexSym).shOffset.toNat + sizeofElf32Sym * i)

/-- The number of the symbols. -/
def LoadInfo.nsrc (info : LoadInfo) : ℕ :=
  (info.sechdrs info.indexSym).shSize.toNat / sizeofElf32Sym

/-- The symbols for which `layout_symtab` makes room: the first and the core symbols. -/
def coreSymbols (env : LoaderEnv) (info : LoadInfo) : List ℕ :=
  (List.range info.nsrc).filter fun i => i = 0 || isCoreSymbol env info (info.src i)

/-- The room for the name of a symbol. -/
def LoadInfo.nameSize (info : LoadInfo) (i : ℕ) : ℕ :=
  strlen info.memory (info.strtab + (info.src i).stName.toNat) + 1

/-- A section that is put into the module. -/
def allocate (s : Elf32Shdr) : Elf32Shdr := { s with shFlags := s.shFlags ||| shfAlloc }

/-- The first part of `layout_symtab`, for the symbols of the file. -/
def layoutSymsect (st : U64 × LoadInfo) : U64 × LoadInfo :=
  layoutOne initOffsetMask (st.1, st.2.modify st.2.indexSym allocate) st.2.indexSym

/-- SOURCE: app_loader_linker.c:700-739 -/
def layoutSymtab (env : LoaderEnv) (st : U64 × LoadInfo) : U64 × LoadInfo :=
  let (size, info) := layoutSymsect st
  let core := coreSymbols env info
  let strtabSize : U32 := core.foldl (fun n i => n + BitVec.ofNat 32 (info.nameSize i)) 0
  let symalign := (info.sechdrs info.indexSym).shAddralign
  let symoffs := alignUp size (if symalign = 0 then 1 else symalign.setWidth 64)
  let stroffs := symoffs + BitVec.ofNat 64 (core.length * sizeofElf32Sym)
  layoutOne initOffsetMask (stroffs + strtabSize.setWidth 64,
    { info with symoffs := symoffs, stroffs := stroffs }.modify info.indexStr allocate) info.indexStr

/-- The offset of a section without the mark. -/
def destOf (s : Elf32Shdr) : U32 :=
  if s.shEntsize &&& initOffsetMask ≠ 0 then s.shEntsize &&& ~~~initOffsetMask else s.shEntsize

/-- The body of the loop of `move_module`. -/
def moveSection (st : AdspModule × LoadInfo) (i : ℕ) : AdspModule × LoadInfo :=
  let s := st.2.sechdrs i
  if s.shFlags &&& shfAlloc = 0 then st
  else
    let dest := destOf s
    let memory :=
      if s.shType ≠ shtNobits then
        blit st.1.memory dest.toNat s.shSize.toNat fun k => u8At st.2.memory (s.shOffset.toNat + k)
      else st.1.memory
    ({ st.1 with memory := memory }, st.2.modify i fun s => { s with shAddr := dest })

/-- SOURCE: app_loader_linker.c:494-543 -/
def moveModule (env : LoaderEnv) (size : U64) (info : LoadInfo) :
    Except ℤ (AdspModule × LoadInfo) :=
  match env.dramAppMemRequest size with
  | none => .error (-eNOMEM)
  | some ptr => .ok ((List.range info.shnum).foldl moveSection (⟨size, ptr, env.dram⟩, info))

/-- SOURCE: app_loader_linker.c:741-767 -/
def layoutAndAllocate (env : LoaderEnv) (info : LoadInfo) : Except ℤ (AdspModule × LoadInfo) := do
  let info ← setupLoadInfo env info
  let (size, info) := layoutSymtab env (layoutSections (0, info))
  moveModule env size info

/-- The part of `load_adsp_dynamic_module` up to the layout.
SOURCE: app_loader_linker.c:867-890 -/
def loadAdspDynamicModule (env : LoaderEnv) (memory : List U8) (len : U64) :
    Except ℤ (AdspModule × LoadInfo) := do
  elfHeaderCheck env (newLoadInfo memory len)
  layoutAndAllocate env (newLoadInfo memory len)

end NvidiaOot.Program
