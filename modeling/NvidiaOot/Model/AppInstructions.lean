import NvidiaOot.Program.AppRelocations

/-!
# The instructions that the loader of ADSP applications patches

What the processor makes of a word: the immediate value of a `MOVW` or a `MOVT`, and where a branch goes.  A Thumb
instruction of two halves is the word with the first half at its low end.
-/

namespace NvidiaOot.Model

open Program

inductive InstructionSet
  | arm
  | thumb
deriving DecidableEq, Repr

/-- The field of `len` bits from `start` on, moved to the bit `pos`. -/
def bits (w : U32) (start len pos : ℕ) : U32 := (w.extractLsb' start len).setWidth 32 <<< pos

/-- The relocations of `MOVW` and of `MOVT`. -/
def InstructionSet.movw : InstructionSet → U32
  | .arm => 43
  | .thumb => 47

def InstructionSet.movt : InstructionSet → U32
  | .arm => 44
  | .thumb => 48

/-- The immediate value: `imm4:imm12`, or `imm4:i:imm3:imm8`. -/
def InstructionSet.movImm : InstructionSet → U32 → U16
  | .arm, w => (bits w 16 4 12 ||| bits w 0 12 0).setWidth 16
  | .thumb, w => (bits w 0 4 12 ||| bits w 10 1 11 ||| bits w 28 3 8 ||| bits w 16 8 0).setWidth 16

/-- The operation and the register. -/
def InstructionSet.movKept : InstructionSet → U32
  | .arm => 0xfff0f000
  | .thumb => 0x8f00fbf0

/-- The value that a `MOVW` and a `MOVT` load. -/
def InstructionSet.movValue (s : InstructionSet) (w t : U32) : U32 := s.movImm t ++ s.movImm w

/-- A branch: is there a return address, its condition, does it end in Thumb code, and how far from its own place. -/
structure Branch where
  links : Bool
  cond : BitVec 4
  toThumb : Bool
  distance : U32
deriving DecidableEq, Repr

/-- The condition of a branch that is always taken. -/
def condAlways : BitVec 4 := 0xe

/-- `imm24:00` with its sign -/
def armAddend (w : U32) : U32 := ((bits w 0 24 2).setWidth 26).signExtend 32

/-- `S:I1:I2:imm10:imm11:0` -/
def thmFields (w : U32) : BitVec 25 :=
  (bits w 10 1 24 ||| bits (~~~((w >>> 29) ^^^ (w >>> 10))) 0 1 23 ||| bits (~~~((w >>> 27) ^^^ (w >>> 10))) 0 1 22 |||
    bits w 0 10 12 ||| bits w 16 11 1).setWidth 25

def thmAddend (w : U32) : U32 := (thmFields w).signExtend 32

/-- `B`, `BL` and `BLX` of ARM code by the upper byte; a `BLX` has the condition `1111`, and the low bit of its upper
byte counts half words. -/
def branchOfTop (top : U8) (addend : U32) : Option Branch :=
  if top.extractLsb' 1 3 ≠ 0b101 then none
  else if top.extractLsb' 4 4 = 0xf then
    some ⟨true, condAlways, true, addend + ((top.extractLsb' 0 1).setWidth 32 <<< 1)⟩
  else some ⟨top.getLsbD 0, top.extractLsb' 4 4, false, addend⟩

def armBranch (w : U32) : Option Branch := branchOfTop (w.extractLsb' 24 8) (armAddend w)

/-- `B.W`, `BL` and `BLX` of Thumb code at `place`; a `BLX` counts from the word that its place is in. -/
def thmBranch (place w : U32) : Option Branch :=
  if w.extractLsb' 11 5 ≠ 0b11110 ∨ w.getLsbD 31 = false then none
  else match w.getLsbD 30, w.getLsbD 28 with
    | true, true => some ⟨true, condAlways, true, thmAddend w⟩
    | true, false => if w.getLsbD 16 then none else some ⟨true, condAlways, false, thmAddend w - (place &&& 3)⟩
    | false, true => some ⟨false, condAlways, true, thmAddend w⟩
    | false, false => none

def InstructionSet.branch : InstructionSet → U32 → U32 → Option Branch
  | .arm, _, w => armBranch w
  | .thumb, place, w => thmBranch place w

/-- `R_ARM_PC24`, `R_ARM_CALL` and `R_ARM_JUMP24`; `R_ARM_THM_CALL` and `R_ARM_THM_JUMP24` -/
def InstructionSet.branchTypes : InstructionSet → List U32
  | .arm => [1, 28, 29]
  | .thumb => [10, 30]

/-- The bits that encode neither the distance of a relocated branch nor a switch of the instruction set. -/
def InstructionSet.branchKept : InstructionSet → Branch → U32
  | .arm, b => if b.toThumb then 0x0e000000 else 0xff000000
  | .thumb, b => if b.toThumb then 0xd000f800 else 0xc000f800

/-- Does the branch end at the distance?  The low bit of the address of Thumb code is no part of the address. -/
def Branch.Reaches (b : Branch) (distance : U32) : Prop :=
  if b.toThumb then b.distance >>> 1 = distance >>> 1 else b.distance = distance

/-- The word `w'` does at `place` what the branch `b` of the word `w` does, but goes to the symbol. -/
structure RelocatedBranch (s : InstructionSet) (sym : Elf32Sym) (place w w' : U32) (b b' : Branch) : Prop where
  reaches : b'.Reaches (b.distance + (sym.stValue - place))
  links : b.links = false → b'.links = false
  cond : b'.cond = b.cond
  kept : w' &&& s.branchKept b' = w &&& s.branchKept b'

/-- Does the loader take the target for code of the other instruction set? -/
def InstructionSet.Switches (s : InstructionSet) (sym : Elf32Sym) (place w : U32) : Prop :=
  elfStType sym.stInfo = sttFunc ∧ match s with
    | .arm => (armAddend w + (sym.stValue - place)) &&& 3 ≠ 0
    | .thumb => (thmAddend w + (sym.stValue - place)) &&& 1 = 0

/-- A branch to code of the other instruction set is an unconditional `BL`, or of ARM code a `BLX` without a half word;
the others go to a place that their encoding can name. -/
def InstructionSet.BranchCareful (s : InstructionSet) (sym : Elf32Sym) (place w : U32) (b : Branch) : Prop :=
  match s with
  | .arm => (s.Switches sym place w → w.extractLsb' 24 8 = 0xeb ∨ w.extractLsb' 24 8 = 0xfa) ∧
      (¬ s.Switches sym place w → (armAddend w + (sym.stValue - place)) &&& (if b.toThumb then 2 else 3) = 0)
  | .thumb => s.Switches sym place w → b.links = true ∧ (thmAddend w + sym.stValue) &&& 3 = 0

end NvidiaOot.Model
