import NvidiaOot.Library.Ranges
import NvidiaOot.Program.AppRelocations

/-!
# What the loader of ADSP applications takes from a file

`LoaderSound` says that the sections that are read from the file are in the file and that the section headers that the
loader goes to are in the header table; `RelocationsSound` that the entries that are processed have a symbol of the
symbol table and change nothing outside their destination sections.
-/

namespace NvidiaOot.Model

open Library Program

section

variable (env : LoaderEnv) (table : Option (ℕ → GlobalSymInfo)) (memory : List U8) (len : U64)

def fileShnum : ℕ := (elf32HdrAt memory).eShnum.toNat

def fileHeader (i : ℕ) : Elf32Shdr :=
  elf32ShdrAt memory ((elf32HdrAt memory).eShoff.toNat + sizeofElf32Shdr * i)

/-- What `setup_load_info` passes to `rewrite_section_headers`. -/
def fileInfo : LoadInfo :=
  { newLoadInfo memory len with
    sechdrs := fileHeader memory
    secstrings := (fileHeader memory (elf32HdrAt memory).eShstrndx.toNat).shOffset.toNat }

/-- The section that `setup_load_info` takes for the symbol table. -/
def firstSymtab : Option ℕ :=
  (List.range' 1 (fileShnum memory - 1)).find? fun i => (fileHeader memory i).shType = shtSymtab

/-- The sections that `simplify_symbols` goes to, if a file is loaded. -/
def symbolReads : List ℕ :=
  match loadAdspDynamicModule env memory len with
  | .ok (mod, info) => (simplifySymbols table info mod).1
  | .error _ => []

/-- The sections whose headers the loader goes to by an index of the file. -/
def sectionReads : List ℕ :=
  (elf32HdrAt memory).eShstrndx.toNat ::
    ((firstSymtab memory).toList.map fun i => (fileHeader memory i).shLink.toNat) ++ symbolReads env table memory len

/-- What the loader relies on when it has accepted a file. -/
structure LoaderSound : Prop where
  sections : ∀ i, 1 ≤ i → i < fileShnum memory → (fileHeader memory i).shType ≠ shtNobits →
    (fileHeader memory i).shOffset.toNat + (fileHeader memory i).shSize.toNat ≤ len.toNat
  indices : ∀ k ∈ sectionReads env table memory len, k < fileShnum memory

/-- Does `simplify_symbols` end at a symbol? -/
def StopsAt (info : LoadInfo) (sym : Elf32Sym) : Prop :=
  sym.stShndx = shnCommon ∨ sym.stShndx = shnUndef ∧ findGlobalSymbol table (info.symName sym) = none ∧
    elfStBind sym.stInfo ≠ stbWeak

/-- Every symbol that the loop comes to has a section of the file or none. -/
def SymbolsCareful (info : LoadInfo) (mod : AdspModule) : Prop :=
  ∀ i, 1 ≤ i → i < info.nsrc → (∀ j, 1 ≤ j → j < i → ¬ StopsAt table info (info.symIn mod.memory j)) →
    (info.symIn mod.memory i).stShndx ∈ [shnUndef, shnAbs, shnCommon] ∨
      (info.symIn mod.memory i).stShndx.toNat < info.shnum

/-- A file for which the checks of the loader are enough. -/
structure FileCareful : Prop where
  sums : ∀ i, 1 ≤ i → i < fileShnum memory → (fileHeader memory i).shType ≠ shtNobits →
    (fileHeader memory i).shOffset.toNat + (fileHeader memory i).shSize.toNat ≤ max (2 ^ 32 - 1) len.toNat
  names : (elf32HdrAt memory).eShstrndx.toNat < fileShnum memory
  strings : ∀ i, firstSymtab memory = some i → (fileHeader memory i).shLink.toNat < fileShnum memory
  symbols : ∀ mod info, loadAdspDynamicModule env memory len = .ok (mod, info) → SymbolsCareful table info mod

end

section

variable (info : LoadInfo) (mod : AdspModule)

/-- The symbol of an entry is one of the symbol table, and its four bytes are in the destination section. -/
structure RelocationInside (r : Relocation) : Prop where
  symbol : r.sym < info.nsrc
  place : r.rOffset.toNat + 4 ≤ (info.dstsec r.relindex).shSize.toNat

/-- The bytes of a section in the module. -/
def moduleRange (s : Elf32Shdr) : Range := ⟨s.shAddr.toNat, s.shSize.toNat⟩

/-- What the relocations of a module do. -/
structure RelocationsSound : Prop where
  inside : ∀ r ∈ (applyRelocations info mod).1, RelocationInside info r
  frame : ∀ mod', (applyRelocations info mod).2 = .ok mod' → ∀ p, mod'.memory p ≠ mod.memory p →
    ∃ r ∈ (applyRelocations info mod).1, (moduleRange (info.dstsec r.relindex)).Has p

end

end NvidiaOot.Model
