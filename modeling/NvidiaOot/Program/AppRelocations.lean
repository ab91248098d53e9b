import NvidiaOot.Library.TraceLoop
import NvidiaOot.Library.WordBytes
import NvidiaOot.Program.AppLoaderLinker

/-!
# The loader of ADSP applications: symbols and relocations

The symbols are resolved in the copy of the symbol table in the module, and the relocations are then made there; the
relocation entries and the names are read from the copy of the file.  A relocation changes the four bytes at one place:
they are a word of which the two Thumb halves are the low and the high one.

The trace of `simplify_symbols` has the section indices that it goes to, and that of `apply_relocations` the entries
that were processed without an error.

Not modelled: messages.

Sources are in `drivers/platform/tegra/nvadsp/`.
-/

namespace NvidiaOot.Program

open Library

/-- `SHT_RELA` -/
def shtRela : U32 := 4
/-- `SHT_REL` -/
def shtRel : U32 := 9

/-- `SHN_ABS` -/
def shnAbs : U16 := 0xfff1
/-- `SHN_COMMON` -/
def shnCommon : U16 := 0xfff2

/-- `STB_WEAK` -/
def stbWeak : U8 := 2
/-- `STT_FUNC` -/
def sttFunc : U8 := 2

/-- `ELF_ST_BIND` -/
def elfStBind (info : U8) : U8 := info >>> 4
/-- `ELF32_ST_TYPE` -/
def elfStType (info : U8) : U8 := info &&& 0xf

/-- `struct elf32_rel` -/
structure Elf32Rel where
  rOffset : U32
  rInfo : U32
deriving DecidableEq, Repr

/-- `sizeof(Elf32_Rel)` -/
def sizeofElf32Rel : ℕ := 8

def elf32RelAt (memory : List U8) (p : ℕ) : Elf32Rel where
  rOffset := u32At memory p
  rInfo := u32At memory (p + 4)

/-- `ELF32_R_SYM` -/
def Elf32Rel.sym (rel : Elf32Rel) : ℕ := (rel.rInfo >>> 8).toNat
/-- `ELF32_R_TYPE` -/
def Elf32Rel.type (rel : Elf32Rel) : U32 := rel.rInfo &&& 0xff

/-- A symbol in the module. -/
def elf32SymIn (memory : ℕ → U8) (p : ℕ) : Elf32Sym where
  stName := getWord memory p
  stValue := getWord memory (p + 4)
  stSize := getWord memory (p + 8)
  stInfo := memory (p + 12)
  stOther := memory (p + 13)
  stShndx := memory (p + 15) ++ memory (p + 14)

/-- SOURCE: os.h:101-105 -/
structure GlobalSymInfo where
  name : List U8
  addr : U32
  info : U8
deriving DecidableEq, Repr

/-- `SYM_NAME_SZ` -/
def symNameSz : ℕ := 128

/-- Is `strncmp` zero, from the byte `p` on? -/
def strncmpZero (s t : ℕ → U8) : ℕ → ℕ → Bool
  | 0, _ => true
  | n + 1, p => if s p ≠ t p then false else if s p = 0 then true else strncmpZero s t n (p + 1)

/-- The first entry of the table has the number of the entries.
SOURCE: os.c:512-530 -/
def findGlobalSymbol (table : Option (ℕ → GlobalSymInfo)) (symName : ℕ → U8) : Option GlobalSymInfo := do
  let table ← table
  let numEnt := (table 0).addr.toInt.toNat
  ((List.range' 1 (numEnt - 1)).map table).find? fun s => strncmpZero (u8At s.name) symName symNameSz 0

section

variable (table : Option (ℕ → GlobalSymInfo)) (info : LoadInfo)

/-- Where the symbol `i` is in the module. -/
def LoadInfo.symAddr (i : ℕ) : ℕ := (info.sechdrs info.indexSym).shAddr.toNat + sizeofElf32Sym * i

/-- The symbol `i` in the module. -/
def LoadInfo.symIn (memory : ℕ → U8) (i : ℕ) : Elf32Sym := elf32SymIn memory (info.symAddr i)

/-- The name of a symbol. -/
def LoadInfo.symName (sym : Elf32Sym) : ℕ → U8 := fun p => u8At info.memory (info.strtab + sym.stName.toNat + p)

/-- The body of the loop of `simplify_symbols`. -/
def simplifySymbol (i : ℕ) (mod : AdspModule) : List ℕ × Except ℤ AdspModule :=
  let sym := info.symIn mod.memory i
  if sym.stShndx = shnCommon then ([], .error (-eNOEXEC))
  else if sym.stShndx = shnAbs then ([], .ok mod)
  else if sym.stShndx = shnUndef then
    match findGlobalSymbol table (info.symName sym) with
    | some s =>
      let memory := putWord mod.memory (info.symAddr i + 4) s.addr
      ([], .ok { mod with memory := blit memory (info.symAddr i + 12) 1 fun _ => s.info })
    | none => if elfStBind sym.stInfo = stbWeak then ([], .ok mod) else ([], .error (-eNOEXEC))
  else
    let secbase := (info.sechdrs sym.stShndx.toNat).shAddr
    ([sym.stShndx.toNat], .ok { mod with
      memory := putWord mod.memory (info.symAddr i + 4) (sym.stValue + (secbase + mod.adspModulePtr)) })

/-- SOURCE: app_loader_linker.c:426-492 -/
def simplifySymbols (mod : AdspModule) : List ℕ × Except ℤ AdspModule :=
  tracedTurns (simplifySymbol table info) (info.nsrc - 1) 1 mod

end

/-- The operand of a branch instruction, and whether it goes to a Thumb function. -/
def relocateBranch (sym : Elf32Sym) (adspLoc loc : U32) : Except ℤ U32 :=
  let field := (loc &&& 0x00ffffff) <<< 2
  let addend := if field &&& 0x02000000 ≠ 0 then field - 0x04000000 else field
  let offset := addend + (sym.stValue - adspLoc)
  let switchMode := elfStType sym.stInfo = sttFunc ∧ offset &&& 3 ≠ 0
  if offset.sle 0xfe000000 ∨ BitVec.sle 0x02000000 offset then .error (-eNOEXEC)
  else
    let word := (loc &&& 0xff000000) ||| (offset.sshiftRight 2 &&& 0x00ffffff)
    if switchMode then
      .ok ((word &&& ~~~0xff000000) ||| if offset &&& 2 ≠ 0 then 0xfb000000 else 0xfa000000)
    else .ok word

/-- The operand of a `MOVW` or `MOVT` instruction. -/
def relocateMov (movt : Bool) (sym : Elf32Sym) (loc : U32) : U32 :=
  let field := ((loc &&& 0xf0000) >>> 4) ||| (loc &&& 0xfff)
  let offset := ((field ^^^ 0x8000) - 0x8000) + sym.stValue
  let offset := if movt then offset.sshiftRight 16 else offset
  (loc &&& 0xfff0f000) ||| (((offset &&& 0xf000) <<< 4) ||| (offset &&& 0x0fff))

/-- The operand of a Thumb branch. -/
def relocateThmBranch (sym : Elf32Sym) (adspLoc loc : U32) : Except ℤ U32 :=
  let upper := loc &&& 0xffff
  let lower := loc >>> 16
  let sign := (upper >>> 10) &&& 1
  let j1 := (lower >>> 13) &&& 1
  let j2 := (lower >>> 11) &&& 1
  let field := (sign <<< 24) ||| ((~~~(j1 ^^^ sign) &&& 1) <<< 23) ||| ((~~~(j2 ^^^ sign) &&& 1) <<< 22) |||
    ((upper &&& 0x03ff) <<< 12) ||| ((lower &&& 0x07ff) <<< 1)
  let addend := if field &&& 0x01000000 ≠ 0 then field - 0x02000000 else field
  let target := addend + (sym.stValue - adspLoc)
  let switchMode := elfStType sym.stInfo = sttFunc ∧ target &&& 1 = 0
  let offset : U32 := if switchMode then (target + 3) &&& ~~~3 else target
  if offset.sle 0xff000000 ∨ BitVec.sle 0x01000000 offset then .error (-eNOEXEC)
  else
    let sign := offset.sshiftRight 24 &&& 1
    let j1 := sign ^^^ (~~~(offset.sshiftRight 23) &&& 1)
    let j2 := sign ^^^ (~~~(offset.sshiftRight 22) &&& 1)
    let upper := (upper &&& 0xf800) ||| (sign <<< 10) ||| (offset.sshiftRight 12 &&& 0x03ff)
    let lower := (lower &&& 0xd000) ||| (j1 <<< 13) ||| (j2 <<< 11) ||| (offset.sshiftRight 1 &&& 0x07ff)
    let lower := if switchMode then lower &&& ~~~((1 : U32) <<< 12) else lower
    .ok (lower.setWidth 16 ++ upper.setWidth 16)

/-- The operand of a Thumb `MOVW` or `MOVT` instruction. -/
def relocateThmMov (movt : Bool) (sym : Elf32Sym) (loc : U32) : U32 :=
  let upper := loc &&& 0xffff
  let lower := loc >>> 16
  let field := ((upper &&& 0x000f) <<< 12) ||| ((upper &&& 0x0400) <<< 1) ||| ((lower &&& 0x7000) >>> 4) |||
    (lower &&& 0x00ff)
  let offset := ((field ^^^ 0x8000) - 0x8000) + sym.stValue
  let offset := if movt then offset.sshiftRight 16 else offset
  let upper := (upper &&& 0xfbf0) ||| ((offset &&& 0xf000) >>> 12) ||| ((offset &&& 0x0800) >>> 1)
  let lower := (lower &&& 0x8f00) ||| ((offset &&& 0x0700) <<< 4) ||| (offset &&& 0x00ff)
  lower.setWidth 16 ++ upper.setWidth 16

/-- The word at the place of a relocation, by the type of the relocation.
SOURCE: app_loader_linker.c:189-391 -/
def relocateWord (type : U32) (sym : Elf32Sym) (adspLoc loc : U32) : Except ℤ U32 :=
  -- R_ARM_NONE
  if type = 0 then .ok loc
  -- R_ARM_ABS32, R_ARM_TARGET1
  else if type = 2 ∨ type = 38 then .ok (loc + sym.stValue)
  -- R_ARM_PC24, R_ARM_CALL, R_ARM_JUMP24
  else if type = 1 ∨ type = 28 ∨ type = 29 then relocateBranch sym adspLoc loc
  -- R_ARM_V4BX
  else if type = 40 then .ok ((loc &&& 0xf000000f) ||| 0x01a0f000)
  -- R_ARM_PREL31
  else if type = 42 then .ok ((loc + sym.stValue - adspLoc) &&& 0x7fffffff)
  -- R_ARM_MOVW_ABS_NC, R_ARM_MOVT_ABS
  else if type = 43 ∨ type = 44 then .ok (relocateMov (type = 44) sym loc)
  -- R_ARM_THM_CALL, R_ARM_THM_JUMP24
  else if type = 10 ∨ type = 30 then relocateThmBranch sym adspLoc loc
  -- R_ARM_THM_MOVW_ABS_NC, R_ARM_THM_MOVT_ABS
  else if type = 47 ∨ type = 48 then .ok (relocateThmMov (type = 48) sym loc)
  else .error (-eNOEXEC)

section

/-- A relocation entry that was processed: its section, the index of its symbol and its offset. -/
structure Relocation where
  relindex : ℕ
  sym : ℕ
  rOffset : U32
deriving DecidableEq, Repr

variable (info : LoadInfo)

/-- The destination section of a relocation section. -/
def LoadInfo.dstsec (relindex : ℕ) : Elf32Shdr := info.sechdrs (info.sechdrs relindex).shInfo.toNat

/-- The relocation entry `i` of a section. -/
def LoadInfo.rel (relindex i : ℕ) : Elf32Rel :=
  elf32RelAt info.memory ((info.sechdrs relindex).shOffset.toNat + sizeofElf32Rel * i)

/-- Is an entry let through?  The bound of the offset is a `size_t`. -/
def checkRel (relindex : ℕ) (rel : Elf32Rel) : Except ℤ Unit := do
  reject (info.nsrc < rel.sym) (-eNOEXEC)
  reject ((info.dstsec relindex).shSize.setWidth 64 - 4 < rel.rOffset.setWidth 64) (-eNOEXEC)

/-- What an entry does to the module. -/
def relocate (relindex : ℕ) (rel : Elf32Rel) (mod : AdspModule) : Except ℤ AdspModule := do
  checkRel info relindex rel
  let sym := info.symIn mod.memory rel.sym
  let loc := (info.dstsec relindex).shAddr.toNat + rel.rOffset.toNat
  let adspLoc := mod.adspModulePtr + (info.dstsec relindex).shAddr + rel.rOffset
  if elfStBind sym.stInfo = stbWeak ∧ sym.stShndx = shnUndef then .ok mod
  else
    let word ← relocateWord rel.type sym adspLoc (getWord mod.memory loc)
    .ok { mod with memory := putWord mod.memory loc word }

/-- The body of the loop of `apply_relocate`. -/
def applyRelocateEntry (relindex i : ℕ) (mod : AdspModule) : List Relocation × Except ℤ AdspModule :=
  match relocate info relindex (info.rel relindex i) mod with
  | .error e => ([], .error e)
  | .ok mod => ([⟨relindex, (info.rel relindex i).sym, (info.rel relindex i).rOffset⟩], .ok mod)

/-- SOURCE: app_loader_linker.c:120-394 -/
def applyRelocate (relindex : ℕ) (mod : AdspModule) : List Relocation × Except ℤ AdspModule :=
  tracedTurns (applyRelocateEntry info relindex) ((info.sechdrs relindex).shSize.toNat / sizeofElf32Rel) 0 mod

/-- The body of the loop of `apply_relocations`. -/
def applySection (i : ℕ) (mod : AdspModule) : List Relocation × Except ℤ AdspModule :=
  if info.shnum ≤ (info.sechdrs i).shInfo.toNat then ([], .ok mod)
  else if (info.dstsec i).shFlags &&& shfAlloc = 0 then ([], .ok mod)
  else if (info.sechdrs i).shType = shtRel then applyRelocate info i mod
  else if (info.sechdrs i).shType = shtRela then ([], .error (-eINVAL))
  else ([], .ok mod)

/-- SOURCE: app_loader_linker.c:396-424 -/
def applyRelocations (mod : AdspModule) : List Relocation × Except ℤ AdspModule :=
  tracedTurns (applySection info) (info.shnum - 1) 1 mod

end

end NvidiaOot.Program
