import NvidiaOot.Analysis.AppInstructions

/-!
# Relocated branches of ADSP applications

Where the code accepts a branch, the patched word has the distance of the symbol but for its low bits.  A branch keeps
what it does and goes to the symbol exactly when it need not change the instruction set, or is a `BL` that may become a
`BLX`; a `B` to the other instruction set becomes a call, or no branch at all.
-/

namespace NvidiaOot.Analysis

open Library Program Model

theorem toNat_and_three (x : U32) : x &&& 3 = 0 ↔ x.toNat % 4 = 0 := and_low_eq_zero_iff (k := 2) x rfl

theorem toNat_and_two (x : U32) : x &&& 2 = 0 ↔ x.toNat / 2 % 2 = 0 := by
  rw [show (2 : U32) = BitVec.twoPow 32 1 from rfl, BitVec.and_twoPow, BitVec.getLsbD, Nat.testBit_eq_decide_div_mod_eq]
  rcases Nat.mod_two_eq_zero_or_one (x.toNat / 2) with h | h
  · simp [h]
  · simpa [h] using (by decide : BitVec.twoPow 32 1 ≠ 0)

theorem toNat_and_not_three (x : U32) : (x &&& ~~~3).toNat = x.toNat / 4 * 4 := toNat_and_not (k := 2) x rfl

theorem toNat_and_not_one (x : U32) : (x &&& ~~~1).toNat = x.toNat / 2 * 2 := toNat_and_not (k := 1) x rfl

/-- Twice the number of a branch is a number, and a field that has the low bits of one. -/
theorem halved_eq_iff (x y : U32) : x >>> 1 = y >>> 1 ↔ x.toNat / 2 = y.toNat / 2 := by
  rw [← BitVec.toNat_inj, BitVec.toNat_ushiftRight, BitVec.toNat_ushiftRight]
  rfl

section

variable (sym : Elf32Sym) (place w : U32)

/-- The word of an ARM branch. -/
def armWord (top : U8) (x : U32) : U32 := (top.setWidth 32 <<< 24) ||| bits x 2 24 0

theorem armWord_top (top : U8) (x : U32) : (armWord top x).extractLsb' 24 8 = top := by
  unfold armWord
  refine BitVec.eq_of_getLsbD_eq fun i hi => ?_
  interval_cases i <;> simp

theorem armWord_of_patched (x : U32) :
    (w &&& 0xff000000) ||| (x.sshiftRight 2 &&& 0x00ffffff) = armWord (w.extractLsb' 24 8) x := by
  unfold armWord
  refine BitVec.eq_of_getLsbD_eq fun i hi => ?_
  interval_cases i <;> simp [BitVec.getElem_sshiftRight]

theorem armWord_other_top (top top' : U8) (x : U32) :
    (armWord top x &&& (~~~0xff000000 : U32)) ||| (top'.setWidth 32 <<< 24) = armWord top' x := by
  unfold armWord
  refine BitVec.eq_of_getLsbD_eq fun i hi => ?_
  interval_cases i <;> simp

theorem armWord_addend (top : U8) {x : U32} (hrange : -2 ^ 25 ≤ x.toInt ∧ x.toInt < 2 ^ 25) :
    armAddend (armWord top x) = x &&& ~~~3 := by
  have hfield : (bits (armWord top x) 0 24 2).setWidth 26 = (x &&& ~~~3).setWidth 26 := by
    unfold armWord
    refine BitVec.eq_of_getLsbD_eq fun i hi => ?_
    interval_cases i <;> simp
  have hkeep := toNat_and_not_three x
  have hx := BitVec.toInt_eq_toNat_cond x
  have hy := BitVec.toInt_eq_toNat_cond (x &&& ~~~3)
  unfold armAddend
  rw [hfield, signExtend_setWidth_of_range (by decide) (by split at hx <;> split at hy <;> omega)
    (by split at hx <;> split at hy <;> omega)]

theorem armBranch_word (top : U8) {x : U32} (hrange : -2 ^ 25 ≤ x.toInt ∧ x.toInt < 2 ^ 25) :
    armBranch (armWord top x) = branchOfTop top (x &&& ~~~3) := by
  rw [armBranch, armWord_top, armWord_addend top hrange]

theorem armField : (if (w &&& 0x00ffffff) <<< 2 &&& 0x02000000 ≠ 0 then (w &&& 0x00ffffff) <<< 2 - 0x04000000
    else (w &&& 0x00ffffff) <<< 2) = armAddend w := by
  have hfield : (w &&& 0x00ffffff) <<< 2 = ((bits w 0 24 2).setWidth 26).setWidth 32 := by
    refine BitVec.eq_of_getLsbD_eq fun i hi => ?_
    interval_cases i <;> simp
  rw [hfield]
  exact (signExtend_eq_ite (by decide) ((bits w 0 24 2).setWidth 26)).symm

/-- What the symbol is away from, counted as the addend counts. -/
def armDistance : U32 := armAddend w + (sym.stValue - place)

/-- The upper byte of a `BLX` over a distance. -/
def blxTop (x : U32) : U8 := if x &&& 2 = 0 then 0xfa else 0xfb

/-- A branch that is accepted is in range, and is patched. -/
theorem relocateBranch_eq_ok {w' : U32} (h : relocateBranch sym place w = .ok w') {x : U32}
    (hx : x = armDistance sym place w) : (-2 ^ 25 ≤ x.toInt ∧ x.toInt < 2 ^ 25) ∧
      (InstructionSet.arm.Switches sym place w ∧ w' = armWord (blxTop x) x ∨
        ¬ InstructionSet.arm.Switches sym place w ∧ w' = armWord (w.extractLsb' 24 8) x) := by
  unfold relocateBranch at h
  simp only [armField, armWord_of_patched] at h
  change ite _ _ (ite (elfStType sym.stInfo = sttFunc ∧ armDistance sym place w &&& 3 ≠ 0) _ _) = _ at h
  split at h
  · cases h
  rename_i hin
  rw [not_or, BitVec.sle_iff_toInt_le, BitVec.sle_iff_toInt_le, not_le, not_le] at hin
  refine ⟨hx ▸ ⟨hin.1.le, hin.2⟩, ?_⟩
  split at h <;> rename_i hswitch <;> cases h
  · refine Or.inl ⟨hswitch, ?_⟩
    unfold blxTop
    subst hx
    split <;> rename_i htwo
    · exact (armWord_other_top _ 0xfb _).trans (congrArg (fun top => armWord top _) (if_neg htwo).symm)
    · exact (armWord_other_top _ 0xfa _).trans (congrArg (fun top => armWord top _) (if_pos (not_not.mp htwo)).symm)
  · exact Or.inr ⟨hswitch, by rw [hx]; rfl⟩

theorem top_of_blx : ∀ top : U8, top.extractLsb' 1 3 = 0b101 → top.extractLsb' 4 4 = 0xf →
    top = 0xfa ∨ top = 0xfb := by decide +kernel

theorem top_of_branch : ∀ top : U8, top.extractLsb' 1 3 = 0b101 → top.extractLsb' 4 4 ≠ 0xf →
    (top = 0xeb ∨ top = 0xfa ↔ top.getLsbD 0 = true ∧ top.extractLsb' 4 4 = condAlways) := by decide +kernel

/-- A branch with another distance has the same upper byte; `half` is the half word of a `BLX`. -/
theorem branchOfTop_eq_some {top : U8} {a : U32} {b : Branch} (h : branchOfTop top a = some b) :
    ∃ half : U32, (half = 0 ∨ half = 2 ∧ b.toThumb = true) ∧ b.distance = a + half ∧
      (∀ a', branchOfTop top a' = some { b with distance := a' + half }) ∧
      (top = 0xeb ∨ top = 0xfa ↔ b.links = true ∧ b.cond = condAlways ∧ half = 0) := by
  unfold branchOfTop at h ⊢
  by_cases hbranch : top.extractLsb' 1 3 = 0b101
  · by_cases hcond : top.extractLsb' 4 4 = 0xf
    · simp only [hbranch, hcond, ne_eq, not_true, if_true, if_false] at h ⊢
      cases h
      rcases top_of_blx top hbranch hcond with rfl | rfl
      · exact ⟨0, .inl rfl, rfl, fun a' => rfl, by simp⟩
      · exact ⟨2, .inr ⟨rfl, rfl⟩, rfl, fun a' => rfl, by simp⟩
    · simp only [hbranch, hcond, ne_eq, not_true, if_false] at h ⊢
      cases h
      refine ⟨0, .inl rfl, (BitVec.add_zero a).symm, fun a' => by rw [BitVec.ofNat_eq_ofNat, BitVec.add_zero], ?_⟩
      rw [top_of_branch top hbranch hcond]
      simp
  · simp only [hbranch, ne_eq, not_false_iff, if_true] at h
    cases h

/-- The bits that every branch has. -/
theorem armBranch_kept {v : U32} {b : Branch} (h : armBranch v = some b) : v &&& 0x0e000000 = 0x0a000000 := by
  unfold armBranch branchOfTop at h
  split at h
  · cases h
  rename_i hbranch
  have hbit (i : ℕ) : ((v.extractLsb' 24 8).extractLsb' 1 3).getLsbD i = (0b101 : BitVec 3).getLsbD i := by
    rw [not_not.mp hbranch]
  have hlow := hbit 0
  have hmid := hbit 1
  have hhigh := hbit 2
  simp at hlow hmid hhigh
  refine BitVec.eq_of_getLsbD_eq fun i hi => ?_
  interval_cases i <;> simp [hlow, hmid, hhigh]

theorem and_top (v : U32) : v &&& (0xff000000 : U32) = (v.extractLsb' 24 8).setWidth 32 <<< 24 := by
  refine BitVec.eq_of_getLsbD_eq fun i hi => ?_
  interval_cases i <;> simp

/-- An ARM branch is exact where the set stays and the low bits of the distance are no loss, and where a `BL` that is
always taken, or a `BLX`, becomes a `BLX`. -/
theorem armRelocated_iff {b : Branch} (hb : armBranch w = some b) {w' : U32}
    (h : relocateBranch sym place w = .ok w') :
    (∃ b', armBranch w' = some b' ∧ RelocatedBranch .arm sym place w w' b b') ↔
      InstructionSet.arm.BranchCareful sym place w b := by
  obtain ⟨half, hhalf, hdist, hother, htop⟩ := branchOfTop_eq_some hb
  generalize hx : armDistance sym place w = x
  obtain ⟨hrange, hword⟩ := relocateBranch_eq_ok sym place w h hx.symm
  have hgoal : b.distance + (sym.stValue - place) = x + half := by
    rw [hdist, ← hx, armDistance, BitVec.add_assoc, BitVec.add_comm half, ← BitVec.add_assoc]
  have hthree := toNat_and_not_three x
  have hlt := x.isLt
  rcases hword with ⟨hswitches, rfl⟩ | ⟨hstays, rfl⟩
  · have hone := toNat_and_not_one x
    have hpatched : armBranch (armWord (blxTop x) x) = some ⟨true, condAlways, true, x &&& ~~~1⟩ := by
      rw [armBranch_word _ hrange, blxTop]
      split <;> rename_i htwo <;> rw [toNat_and_two] at htwo
      · have hsame : (x &&& ~~~3) + 0 = x &&& ~~~1 := by
          rw [← BitVec.toNat_inj, BitVec.toNat_add, hthree, hone]
          simp
          omega
        rw [← hsame]
        rfl
      have hsame : (x &&& ~~~3) + 2 = x &&& ~~~1 := by
        rw [← BitVec.toNat_inj, BitVec.toNat_add, hthree, hone]
        simp
        omega
      rw [← hsame]
      rfl
    have hreach : (⟨true, condAlways, true, x &&& ~~~1⟩ : Branch).Reaches (x + half) ↔ half = 0 := by
      unfold Branch.Reaches
      rw [if_pos rfl, halved_eq_iff, hone, BitVec.toNat_add]
      rcases hhalf with rfl | ⟨rfl, -⟩ <;> simp <;> omega
    constructor
    · rintro ⟨b', hb', hreloc⟩
      cases hpatched.symm.trans hb'
      have hlinks : b.links = true := by
        by_contra hno
        exact Bool.noConfusion (hreloc.links (Bool.eq_false_of_not_eq_true hno))
      exact ⟨fun _ => htop.mpr ⟨hlinks, hreloc.cond.symm, hreach.mp (hgoal ▸ hreloc.reaches)⟩,
        fun hstays => absurd hswitches hstays⟩
    · intro hcareful
      obtain ⟨hlinks, hcond, hzero⟩ := htop.mp (hcareful.1 hswitches)
      exact ⟨_, hpatched, hgoal ▸ hreach.mpr hzero, fun hno => absurd (hlinks.symm.trans hno) (by decide),
        hcond.symm, (armBranch_kept hpatched).trans (armBranch_kept hb).symm⟩
  have hpatched : armBranch (armWord (w.extractLsb' 24 8) x) = some { b with distance := (x &&& ~~~3) + half } := by
    rw [armBranch_word _ hrange, hother]
  have hreach : ({ b with distance := (x &&& ~~~3) + half } : Branch).Reaches (x + half) ↔
      x &&& (if b.toThumb then 2 else 3) = 0 := by
    unfold Branch.Reaches
    by_cases hthumb : b.toThumb = true
    · rw [if_pos hthumb, if_pos hthumb, halved_eq_iff, toNat_and_two, BitVec.toNat_add, BitVec.toNat_add, hthree]
      rcases hhalf with rfl | ⟨rfl, -⟩ <;> simp <;> omega
    · rw [if_neg hthumb, if_neg hthumb, BitVec.add_left_inj, toNat_and_three, ← BitVec.toNat_inj, hthree]
      omega
  have hkept : ∀ m : U32, m &&& 0xff000000 = m → armWord (w.extractLsb' 24 8) x &&& m = w &&& m := by
    intro m hm
    rw [← hm, BitVec.and_comm m, ← BitVec.and_assoc, ← BitVec.and_assoc, and_top, and_top, armWord_top]
  constructor
  · rintro ⟨b', hb', hreloc⟩
    cases hpatched.symm.trans hb'
    have hlow := hreach.mp (hgoal ▸ hreloc.reaches)
    rw [← hx] at hlow
    exact ⟨fun hswitches => absurd hswitches hstays, fun _ => hlow⟩
  · intro hcareful
    have hlow := hcareful.2 hstays
    rw [← armDistance, hx] at hlow
    refine ⟨_, hpatched, hgoal ▸ hreach.mpr hlow, id, rfl, hkept _ ?_⟩
    unfold InstructionSet.branchKept
    dsimp only
    split <;> rfl

end

section

variable (sym : Elf32Sym) (place w : U32)

/-- The fields of the distance of a Thumb branch. -/
def thmEncode (x : U32) : U32 :=
  bits x 24 1 10 ||| bits (~~~(x >>> 23) ^^^ (x >>> 24)) 0 1 29 ||| bits (~~~(x >>> 22) ^^^ (x >>> 24)) 0 1 27 |||
    bits x 12 10 0 ||| bits x 1 11 16

/-- The bits of a Thumb branch that the code keeps. -/
def thmKept (switch : Bool) : U32 := if switch then 0xc000f800 else 0xd000f800

/-- The word of a Thumb branch with another distance. -/
def thmWord (switch : Bool) (w x : U32) : U32 := (w &&& thmKept switch) ||| thmEncode x

theorem thmEncode_kept (switch : Bool) (x : U32) : thmEncode x &&& thmKept switch = 0 := by
  unfold thmEncode thmKept
  refine BitVec.eq_of_getLsbD_eq fun i hi => ?_
  cases switch <;> interval_cases i <;> simp

theorem thmWord_kept (switch : Bool) (x : U32) : thmWord switch w x &&& thmKept switch = w &&& thmKept switch := by
  rw [thmWord, BitVec.and_or_distrib_right, thmEncode_kept, BitVec.and_assoc, BitVec.and_self]
  exact BitVec.or_zero

/-- What the code puts together from the halves. -/
theorem thmWord_of_patched (switch : Bool) (x : U32) :
    (let upper := w &&& 0xffff
      let lower := w >>> 16
      let sign := x.sshiftRight 24 &&& 1
      let j1 := sign ^^^ (~~~(x.sshiftRight 23) &&& 1)
      let j2 := sign ^^^ (~~~(x.sshiftRight 22) &&& 1)
      let upper := (upper &&& 0xf800) ||| (sign <<< 10) ||| (x.sshiftRight 12 &&& 0x03ff)
      let lower := (lower &&& 0xd000) ||| (j1 <<< 13) ||| (j2 <<< 11) ||| (x.sshiftRight 1 &&& 0x07ff)
      let lower := if switch then lower &&& ~~~((1 : U32) <<< 12) else lower
      lower.setWidth 16 ++ upper.setWidth 16) = thmWord switch w x := by
  have hxor : ∀ sign bit : Bool, (sign != !bit) = (!bit != sign) := by decide
  unfold thmWord thmEncode thmKept
  dsimp only
  rw [halves_append]
  refine BitVec.eq_of_getLsbD_eq fun i hi => ?_
  cases switch <;> interval_cases i <;> simp [BitVec.getElem_sshiftRight, hxor]

/-- The field of a Thumb branch as the code puts it together. -/
def thmField (w : U32) : U32 :=
  let upper := w &&& 0xffff
  let lower := w >>> 16
  let sign := (upper >>> 10) &&& 1
  let j1 := (lower >>> 13) &&& 1
  let j2 := (lower >>> 11) &&& 1
  (sign <<< 24) ||| ((~~~(j1 ^^^ sign) &&& 1) <<< 23) ||| ((~~~(j2 ^^^ sign) &&& 1) <<< 22) |||
    ((upper &&& 0x03ff) <<< 12) ||| ((lower &&& 0x07ff) <<< 1)

theorem thmField_eq : (if thmField w &&& 0x01000000 ≠ 0 then thmField w - 0x02000000 else thmField w) = thmAddend w := by
  have hfield : thmField w = (thmFields w).setWidth 32 := by
    unfold thmField thmFields
    refine BitVec.eq_of_getLsbD_eq fun i hi => ?_
    interval_cases i <;> simp
  rw [hfield]
  exact (signExtend_eq_ite (by decide) _).symm

def thmDistance : U32 := thmAddend w + (sym.stValue - place)

/-- The distance of a branch to ARM code is rounded up to a word. -/
def thmRounded (switch : Bool) (x : U32) : U32 := if switch then (x + 3) &&& ~~~3 else x

theorem relocateThmBranch_eq_ok {w' : U32} (h : relocateThmBranch sym place w = .ok w') :
    ∃ switch : Bool, (switch = true ↔ InstructionSet.thumb.Switches sym place w) ∧
      (-2 ^ 24 ≤ (thmRounded switch (thmDistance sym place w)).toInt ∧
        (thmRounded switch (thmDistance sym place w)).toInt < 2 ^ 24) ∧
      w' = thmWord switch w (thmRounded switch (thmDistance sym place w)) := by
  have hsplit : relocateThmBranch sym place w =
      let switchMode := elfStType sym.stInfo = sttFunc ∧ thmDistance sym place w &&& 1 = 0
      let offset := thmRounded (decide switchMode) (thmDistance sym place w)
      if offset.sle 0xff000000 ∨ BitVec.sle 0x01000000 offset then .error (-eNOEXEC)
      else .ok (thmWord (decide switchMode) w offset) := by
    unfold thmDistance
    rw [← thmField_eq]
    unfold relocateThmBranch thmRounded thmField
    simp only [decide_eq_true_eq, ← thmWord_of_patched]
  rw [hsplit] at h
  dsimp only at h
  split at h
  · cases h
  rename_i hin
  rw [not_or, BitVec.sle_iff_toInt_le, BitVec.sle_iff_toInt_le, not_le, not_le] at hin
  exact ⟨decide (elfStType sym.stInfo = sttFunc ∧ thmDistance sym place w &&& 1 = 0), decide_eq_true_iff,
    ⟨hin.1.le, hin.2⟩, (Except.ok.inj h).symm⟩

theorem thmFields_call (x : U32) : thmFields (thmWord false w x) = (x &&& ~~~1).setWidth 25 := by
  unfold thmFields thmWord thmEncode thmKept
  refine BitVec.eq_of_getLsbD_eq fun i hi => ?_
  interval_cases i <;> simp

theorem thmFields_switch (x : U32) : thmFields (thmWord true w x) = (x &&& ~~~1).setWidth 25 := by
  unfold thmFields thmWord thmEncode thmKept
  refine BitVec.eq_of_getLsbD_eq fun i hi => ?_
  interval_cases i <;> simp

theorem thmWord_addend (switch : Bool) {x : U32} (hrange : -2 ^ 24 ≤ x.toInt ∧ x.toInt < 2 ^ 24) :
    thmAddend (thmWord switch w x) = x &&& ~~~1 := by
  have hfield : thmFields (thmWord switch w x) = (x &&& ~~~1).setWidth 25 := by
    cases switch
    · exact thmFields_call w x
    · exact thmFields_switch w x
  have hkeep := toNat_and_not_one x
  have hx := BitVec.toInt_eq_toNat_cond x
  have hy := BitVec.toInt_eq_toNat_cond (x &&& ~~~1)
  rw [thmAddend, hfield, signExtend_setWidth_of_range (by decide) (by split at hx <;> split at hy <;> omega)
    (by split at hx <;> split at hy <;> omega)]

/-- The bits of a branch that say what it is. -/
theorem thmWord_bits (switch : Bool) (x : U32) :
    (thmWord switch w x).extractLsb' 11 5 = w.extractLsb' 11 5 ∧
      (thmWord switch w x).getLsbD 31 = w.getLsbD 31 ∧ (thmWord switch w x).getLsbD 30 = w.getLsbD 30 ∧
      (thmWord switch w x).getLsbD 28 = (w.getLsbD 28 && !switch) ∧
      (thmWord switch w x).getLsbD 16 = x.getLsbD 1 := by
  unfold thmWord thmEncode thmKept
  refine ⟨BitVec.eq_of_getLsbD_eq fun i hi => ?_, ?_, ?_, ?_, ?_⟩
  · cases switch <;> interval_cases i <;> simp
  all_goals cases switch <;> simp

/-- A `BL` or a `B.W`. -/
theorem thmBranch_eq_some {v : U32} {b : Branch} (h : thmBranch place v = some b) (hb : b.toThumb = true) :
    ¬ (v.extractLsb' 11 5 ≠ 0b11110 ∨ v.getLsbD 31 = false) ∧ v.getLsbD 28 = true ∧
      b = ⟨v.getLsbD 30, condAlways, true, thmAddend v⟩ := by
  unfold thmBranch at h
  split at h
  · cases h
  rename_i hhead
  split at h <;> rename_i hlink hset
  · exact ⟨hhead, hset, by rw [hlink]; exact (Option.some.inj h).symm⟩
  · split at h
    · cases h
    · cases h
      cases hb
  · exact ⟨hhead, hset, by rw [hlink]; exact (Option.some.inj h).symm⟩
  · cases h

/-- A branch of Thumb code is exact where the set stays, or if it is a `BL` to a word. -/
theorem thmRelocated_iff {b : Branch} (hb : thmBranch place w = some b) (hthumb : b.toThumb = true) {w' : U32}
    (h : relocateThmBranch sym place w = .ok w') :
    (∃ b', thmBranch place w' = some b' ∧ RelocatedBranch .thumb sym place w w' b b') ↔
      InstructionSet.thumb.BranchCareful sym place w b := by
  obtain ⟨hhead, hset, hbranch⟩ := thmBranch_eq_some place hb hthumb
  obtain ⟨switch, hswitch, hrange, rfl⟩ := relocateThmBranch_eq_ok sym place w h
  generalize hx : thmRounded switch (thmDistance sym place w) = x at *
  obtain ⟨hup, h31, h30, h28, h16⟩ := thmWord_bits w switch x
  have haddend := thmWord_addend w switch hrange
  have hgoal : b.distance + (sym.stValue - place) = thmDistance sym place w := by
    rw [hbranch, thmDistance]
  cases switch with
  | false =>
    have hstays : ¬ InstructionSet.thumb.Switches sym place w := fun h => Bool.false_ne_true (hswitch.mpr h)
    have hpatched : thmBranch place (thmWord false w x) = some { b with distance := x &&& ~~~1 } := by
      unfold thmBranch
      rw [hup, h31, h30, h28, hset, haddend, hbranch, if_neg hhead]
      cases w.getLsbD 30 <;> rfl
    refine ⟨fun _ h => absurd h hstays, fun _ => ⟨_, hpatched, ?_, id, rfl, ?_⟩⟩
    · unfold Branch.Reaches
      rw [if_pos hthumb, hgoal, halved_eq_iff, toNat_and_not_one, ← hx]
      exact Nat.mul_div_cancel _ two_pos
    · have hmask : InstructionSet.thumb.branchKept { b with distance := x &&& ~~~1 } = 0xd000f800 := if_pos hthumb
      rw [hmask]
      exact thmWord_kept w false x
  | true =>
    have hswitches : InstructionSet.thumb.Switches sym place w := hswitch.mp rfl
    have hxnat : x.toNat = (thmDistance sym place w + 3).toNat / 4 * 4 := by
      rw [← hx]
      exact toNat_and_not_three _
    have hhalf : x.getLsbD 1 = false := by
      rw [BitVec.getLsbD, Nat.testBit_eq_decide_div_mod_eq, hxnat]
      simp
      omega
    have hword : x &&& ~~~1 = x := by
      rw [← BitVec.toNat_inj, toNat_and_not_one, hxnat]
      omega
    have hpatched : thmBranch place (thmWord true w x) =
        if b.links then some ⟨true, condAlways, false, x - (place &&& 3)⟩ else none := by
      unfold thmBranch
      rw [hup, h31, h30, h28, h16, hset, haddend, hhalf, hword, hbranch, if_neg hhead]
      cases w.getLsbD 30 <;> rfl
    have hreach : x - (place &&& 3) = thmDistance sym place w ↔ (thmAddend w + sym.stValue) &&& 3 = 0 := by
      have hsum : thmDistance sym place w = thmAddend w + sym.stValue - place := by
        rw [thmDistance, BitVec.sub_eq_add_neg, BitVec.sub_eq_add_neg, BitVec.add_assoc]
      have hlow : (place &&& 3).toNat = place.toNat % 4 := toNat_and_low (k := 2) place rfl
      rw [toNat_and_three, ← BitVec.toNat_inj, BitVec.toNat_sub, hxnat, hlow, BitVec.toNat_add, hsum, BitVec.toNat_sub]
      have hplace := place.isLt
      have htarget := (thmAddend w + sym.stValue).isLt
      simp
      omega
    constructor
    · rintro ⟨b', hb', hreloc⟩ -
      rw [hpatched] at hb'
      split at hb'
      · rename_i hlinks
        cases hb'
        exact ⟨hlinks, hreach.mp (hgoal ▸ hreloc.reaches)⟩
      · cases hb'
    · intro hcareful
      obtain ⟨hlinks, htarget⟩ := hcareful hswitches
      rw [if_pos hlinks] at hpatched
      refine ⟨_, hpatched, ?_, fun hno => ?_, ?_, thmWord_kept w true x⟩
      · rw [hgoal]
        exact hreach.mpr htarget
      · rw [hlinks] at hno
        cases hno
      · rw [hbranch]

end

section

variable (s : InstructionSet) (sym : Elf32Sym) (place w : U32)

theorem relocateWord_arm {type : U32} (h : type ∈ InstructionSet.arm.branchTypes) :
    relocateWord type sym place w = relocateBranch sym place w := by
  simp only [InstructionSet.branchTypes, List.mem_cons, List.not_mem_nil, or_false] at h
  rcases h with rfl | rfl | rfl <;> rfl

theorem relocateWord_thumb {type : U32} (h : type ∈ InstructionSet.thumb.branchTypes) :
    relocateWord type sym place w = relocateThmBranch sym place w := by
  simp only [InstructionSet.branchTypes, List.mem_cons, List.not_mem_nil, or_false] at h
  rcases h with rfl | rfl <;> rfl

/-- **A relocated branch goes to the symbol and keeps what it does exactly when it is one that the code is careful
with.** -/
theorem relocatedBranch_iff {type : U32} (htype : type ∈ s.branchTypes) {b : Branch} (hb : s.branch place w = some b)
    (hset : s = .thumb → b.toThumb = true) {w' : U32} (h : relocateWord type sym place w = .ok w') :
    (∃ b', s.branch place w' = some b' ∧ RelocatedBranch s sym place w w' b b') ↔ s.BranchCareful sym place w b := by
  cases s with
  | arm =>
    rw [relocateWord_arm sym place w htype] at h
    exact armRelocated_iff sym place w hb h
  | thumb =>
    rw [relocateWord_thumb sym place w htype] at h
    exact thmRelocated_iff sym place w hb (hset rfl) h

/-- A `BL` to a Thumb function becomes a `BLX`. -/
theorem relocatedBranch_iff_call :
    (∃ b', armBranch 0xfa0003fe = some b' ∧
      RelocatedBranch .arm ⟨0, 0x3001, 0, 0x12, 0, 1⟩ 0x2000 0xebfffffe 0xfa0003fe ⟨true, condAlways, false, -8⟩ b') ↔
      InstructionSet.arm.BranchCareful ⟨0, 0x3001, 0, 0x12, 0, 1⟩ 0x2000 0xebfffffe ⟨true, condAlways, false, -8⟩ :=
  relocatedBranch_iff .arm ⟨0, 0x3001, 0, 0x12, 0, 1⟩ 0x2000 0xebfffffe (by decide : (28 : U32) ∈ [1, 28, 29])
    (by decide) (by decide) (by decide)

/-- A `B` to a Thumb function becomes a `BLX`, which is a call. -/
theorem jump_becomes_call : ¬ ∀ (s : InstructionSet) (sym : Elf32Sym) (place w type : U32) (b : Branch) (w' : U32),
    type ∈ s.branchTypes → s.branch place w = some b → (s = .thumb → b.toThumb = true) →
    relocateWord type sym place w = .ok w' →
      ∃ b', s.branch place w' = some b' ∧ RelocatedBranch s sym place w w' b b' := by
  intro h
  obtain ⟨b', hb', hreloc⟩ := h .arm ⟨0, 0x3001, 0, 0x12, 0, 1⟩ 0x2000 0xeafffffe 29
    ⟨false, condAlways, false, -8⟩ 0xfa0003fe (by decide) (by decide) (by decide) (by decide)
  have hcall : armBranch 0xfa0003fe = some ⟨true, condAlways, true, 0xff8⟩ := by decide
  obtain rfl := Option.some.inj (hcall.symm.trans hb')
  exact Bool.noConfusion (hreloc.links rfl)

end

end NvidiaOot.Analysis
