import NvidiaOot.Library.Placement
import NvidiaOot.Library.Ranges
import NvidiaOot.Program.AppLoaderLinker

/-!
# The layout of an ADSP module

`blocks` lists what is laid out one after another, in the order of the source: the sections that
are loaded, then the init sections, the symbols of the file, room for the core symbols and
their names, and the strings of the file.  A block without an owner is room that no section is
copied to in the end: the room for the core symbols, and the first place of a section that is
laid out again as the symbol or string table.

`LayoutOk` is what the places must satisfy, and `Slips` says when they do not: the mark of an
init section is its lowest bit and not its highest, so that a section at an odd offset is copied
to the byte before.
-/

namespace NvidiaOot.Model

open Library Program

section

variable (info : LoadInfo)

/-- The sections of a list by the first of the masks that they have. -/
def byMask : List (U32 × U32) → List ℕ → List ℕ
  | [], _ => []
  | mask :: rest, left =>
    left.filter (fun i => hasFlags mask (info.sechdrs i)) ++
      byMask rest (left.filter fun i => !hasFlags mask (info.sechdrs i))

/-- The order in which the sections are laid out that are init sections, or those that are not. -/
def layoutOrder (init : Bool) : List ℕ :=
  byMask info masks ((List.range info.shnum).filter fun i => info.isInit i = init)

def alignOf (s : Elf32Shdr) : ℕ := if s.shAddralign = 0 then 1 else s.shAddralign.toNat

def blockOf (owner : Option ℕ) (i : ℕ) : Block ℕ :=
  ⟨owner, alignOf (info.sechdrs i), (info.sechdrs i).shSize.toNat⟩

/-- What a section takes in `layout_sections`. -/
def sectionBlock (i : ℕ) : Block ℕ :=
  blockOf info (if i = info.indexSym ∨ i = info.indexStr then none else some i) i

/-- What is laid out, with `core` bytes for the core symbols. -/
def blocks (core : ℕ) : List (Block ℕ) :=
  (layoutOrder info false ++ layoutOrder info true).map (sectionBlock info) ++
    [blockOf info (if info.indexSym = info.indexStr then none else some info.indexSym) info.indexSym,
      ⟨none, alignOf (info.sechdrs info.indexSym), core⟩,
      blockOf info (if info.indexStr < info.shnum then some info.indexStr else none) info.indexStr]

end

section

variable (env : LoaderEnv) (info : LoadInfo)

/-- The bytes for the core symbols and their names. -/
def coreSize : ℕ :=
  (coreSymbols env info).length * sizeofElf32Sym + ((coreSymbols env info).map info.nameSize).sum

/-- The size of the module, without bounds on the numbers. -/
def totalSize : ℕ :=
  placeEnd 0 (blocks info (coreSize env (layoutSymsect (layoutSections (0, info))).2))

end

def IsAlloc (info : LoadInfo) (i : ℕ) : Prop :=
  i < info.shnum ∧ (info.sechdrs i).shFlags &&& shfAlloc ≠ 0

def destRange (info : LoadInfo) (i : ℕ) : Range :=
  ⟨(info.sechdrs i).shAddr.toNat, (info.sechdrs i).shSize.toNat⟩

/-- The alignment of every section that is laid out is 0 or a power of two. -/
def PowersOfTwo (info : LoadInfo) : Prop :=
  ∀ i, i < info.shnum ∨ i = info.indexStr → ∃ k, alignOf (info.sechdrs i) = 2 ^ k

structure LayoutOk (mod : AdspModule) (info : LoadInfo) : Prop where
  disjoint : ∀ i j, IsAlloc info i → IsAlloc info j → i ≠ j →
    ∀ x, (destRange info i).Has x → ¬ (destRange info j).Has x
  aligned : ∀ i, IsAlloc info i → alignOf (info.sechdrs i) ∣ (info.sechdrs i).shAddr.toNat
  inside : ∀ i, IsAlloc info i → (destRange info i).stop ≤ mod.size.toNat

/-- Is the next block that is not empty a section that may be at any address, where no empty
block before it needs an alignment? -/
def Follows : List (Block ℕ) → Prop
  | [] => False
  | b :: l => b.align ≤ 1 ∧ if b.size = 0 then Follows l else b.owner.isSome = true

/-- Is there a section of odd size that starts at an even offset and has a section right after
it?  `n` bytes have been laid out since the last block that was aligned. -/
def Slips : ℕ → List (Block ℕ) → Prop
  | _, [] => False
  | n, b :: l =>
    (b.owner.isSome = true ∧ (if 2 ≤ b.align then 0 else n) % 2 = 0 ∧ b.size % 2 = 1 ∧ Follows l) ∨
      Slips ((if 2 ≤ b.align then 0 else n) + b.size) l

instance Follows.decidable : ∀ l, Decidable (Follows l)
  | [] => isFalse id
  | b :: l =>
    haveI := Follows.decidable l
    inferInstanceAs (Decidable (b.align ≤ 1 ∧ if b.size = 0 then Follows l else b.owner.isSome = true))

instance Slips.decidable : ∀ n l, Decidable (Slips n l)
  | _, [] => isFalse id
  | n, b :: l =>
    haveI := Slips.decidable ((if 2 ≤ b.align then 0 else n) + b.size) l
    inferInstanceAs (Decidable (_ ∨ _))

end NvidiaOot.Model
