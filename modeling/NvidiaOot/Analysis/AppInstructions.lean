import Mathlib.Tactic.IntervalCases
import NvidiaOot.Library.BitFields
import NvidiaOot.Model.AppInstructions

/-!
# Relocated instructions of ADSP applications

The fields of a patched word are compared bit by bit; what the code does about signs is the sign extension of
`Library.BitFields`.

A pair of `MOVW` and `MOVT` loads the symbol and the addend.  A branch keeps what it does and goes to the symbol as long
as it need not change the instruction set, or is a `BL` that may become a `BLX`.
-/

namespace NvidiaOot.Analysis

open Library Program Model

@[simp]
theorem getElem_bits (w : U32) (start len pos : ℕ) {i : ℕ} (hi : i < 32) : (bits w start len pos)[i] =
    (!decide (i < pos) && (decide (i - pos < len) && w.getLsbD (start + (i - pos)))) := by
  unfold bits
  rw [BitVec.getElem_shiftLeft, BitVec.getElem_setWidth, BitVec.getLsbD_extractLsb']

/-- The two halves of a Thumb instruction in their word. -/
theorem halves_append (upper lower : U32) :
    lower.setWidth 16 ++ upper.setWidth 16 = (lower <<< 16) ||| (upper &&& 0xffff) := by
  rw [← BitVec.setWidth_eq (lower.setWidth 16 ++ upper.setWidth 16), BitVec.setWidth_append_eq_shiftLeft_setWidth_or]
  refine BitVec.eq_of_getLsbD_eq fun i hi => ?_
  interval_cases i <;> simp

section

variable (s : InstructionSet) (sym : Elf32Sym)

/-- The low half or the high half of what the pair loads. -/
def movHalf (movt : Bool) (x : U32) : U32 := if movt then x.sshiftRight 16 else x

/-- The fields of an immediate value. -/
def movEncode : InstructionSet → U32 → U32
  | .arm, x => bits x 12 4 16 ||| bits x 0 12 0
  | .thumb, x => bits x 12 4 0 ||| bits x 11 1 10 ||| bits x 8 3 28 ||| bits x 0 8 16

theorem movHalf_append (x : U32) : (movHalf true x).setWidth 16 ++ (movHalf false x).setWidth 16 = x := by
  unfold movHalf
  rw [halves_append, if_pos rfl, if_neg Bool.false_ne_true]
  refine BitVec.eq_of_getLsbD_eq fun i hi => ?_
  interval_cases i <;> simp [BitVec.getElem_sshiftRight]

theorem movImm_encode (w x : U32) : s.movImm ((w &&& s.movKept) ||| movEncode s x) = x.setWidth 16 := by
  refine BitVec.eq_of_getLsbD_eq fun i hi => ?_
  cases s <;> unfold InstructionSet.movImm InstructionSet.movKept movEncode <;> interval_cases i <;> simp

theorem movKept_encode (w x : U32) : ((w &&& s.movKept) ||| movEncode s x) &&& s.movKept = w &&& s.movKept := by
  refine BitVec.eq_of_getLsbD_eq fun i hi => ?_
  cases s <;> unfold InstructionSet.movKept movEncode <;> interval_cases i <;> simp

theorem armMovField (w : U32) :
    ((w &&& 0xf0000) >>> 4) ||| (w &&& 0xfff) = (InstructionSet.arm.movImm w).setWidth 32 := by
  unfold InstructionSet.movImm
  refine BitVec.eq_of_getLsbD_eq fun i hi => ?_
  interval_cases i <;> simp

theorem thmMovField (w : U32) : (((w &&& 0xffff) &&& 0x000f) <<< 12) ||| (((w &&& 0xffff) &&& 0x0400) <<< 1) |||
    (((w >>> 16) &&& 0x7000) >>> 4) ||| ((w >>> 16) &&& 0x00ff) = (InstructionSet.thumb.movImm w).setWidth 32 := by
  unfold InstructionSet.movImm
  refine BitVec.eq_of_getLsbD_eq fun i hi => ?_
  interval_cases i <;> simp

theorem armMov_encode (w x : U32) : (w &&& 0xfff0f000) ||| (((x &&& 0xf000) <<< 4) ||| (x &&& 0x0fff)) =
    (w &&& InstructionSet.arm.movKept) ||| movEncode .arm x := by
  unfold InstructionSet.movKept movEncode
  refine BitVec.eq_of_getLsbD_eq fun i hi => ?_
  interval_cases i <;> simp

theorem thmMov_encode (w x : U32) :
    (let upper := w &&& 0xffff
      let lower := w >>> 16
      let upper := (upper &&& 0xfbf0) ||| ((x &&& 0xf000) >>> 12) ||| ((x &&& 0x0800) >>> 1)
      let lower := (lower &&& 0x8f00) ||| ((x &&& 0x0700) <<< 4) ||| (x &&& 0x00ff)
      lower.setWidth 16 ++ upper.setWidth 16) = (w &&& InstructionSet.thumb.movKept) ||| movEncode .thumb x := by
  unfold InstructionSet.movKept movEncode
  dsimp only
  rw [halves_append]
  refine BitVec.eq_of_getLsbD_eq fun i hi => ?_
  interval_cases i <;> simp

/-- What one instruction of a pair becomes. -/
theorem relocateWord_mov (movt : Bool) (place w : U32) :
    relocateWord (if movt then s.movt else s.movw) sym place w =
      .ok ((w &&& s.movKept) ||| movEncode s (movHalf movt ((s.movImm w).signExtend 32 + sym.stValue))) := by
  have hsign : ∀ a : U16, (a.setWidth 32 ^^^ 0x8000) - 0x8000 = a.signExtend 32 :=
    fun a => (signExtend_eq_xor_sub (by decide) a).symm
  cases s with
  | arm =>
    have htype : relocateWord (if movt then 44 else 43) sym place w = .ok (relocateMov movt sym w) := by
      cases movt <;> rfl
    refine htype.trans (congrArg _ ?_)
    rw [← hsign, ← armMovField]
    exact armMov_encode w _
  | thumb =>
    have htype : relocateWord (if movt then 48 else 47) sym place w = .ok (relocateThmMov movt sym w) := by
      cases movt <;> rfl
    refine htype.trans (congrArg _ ?_)
    rw [← hsign, ← thmMovField]
    exact thmMov_encode w _

/-- A relocated pair loads the symbol and the addend, and with no addend the symbol. -/
theorem movPair_relocated (place place' w t : U32) (hpair : s.movImm w = s.movImm t) :
    ∃ w' t', relocateWord s.movw sym place w = .ok w' ∧ relocateWord s.movt sym place' t = .ok t' ∧
      s.movValue w' t' = sym.stValue + (s.movImm w).signExtend 32 ∧
      (s.movImm w = 0 → s.movValue w' t' = sym.stValue) ∧
      w' &&& s.movKept = w &&& s.movKept ∧ t' &&& s.movKept = t &&& s.movKept := by
  have hvalue : ∀ x, s.movValue ((w &&& s.movKept) ||| movEncode s (movHalf false x))
      ((t &&& s.movKept) ||| movEncode s (movHalf true x)) = x := by
    intro x
    unfold InstructionSet.movValue
    rw [movImm_encode, movImm_encode, movHalf_append]
  refine ⟨_, _, relocateWord_mov s sym false place w, relocateWord_mov s sym true place' t, ?_, fun hzero => ?_,
    movKept_encode s w _, movKept_encode s t _⟩
  · rw [← hpair, hvalue, BitVec.add_comm]
  · rw [← hpair, hvalue, hzero]
    exact BitVec.zero_add _

theorem movPair_relocated_arm :
    ∃ w' t', relocateWord 43 ⟨0, 0x12348765, 0, 0, 0, 0⟩ 0 0xe3001000 = .ok w' ∧
      relocateWord 44 ⟨0, 0x12348765, 0, 0, 0, 0⟩ 4 0xe3401000 = .ok t' ∧
      InstructionSet.arm.movValue w' t' = 0x12348765 := by
  obtain ⟨w', t', hw, ht, -, hvalue, -⟩ :=
    movPair_relocated .arm ⟨0, 0x12348765, 0, 0, 0, 0⟩ 0 4 0xe3001000 0xe3401000 (by decide)
  exact ⟨w', t', hw, ht, hvalue (by decide)⟩

end

end NvidiaOot.Analysis
