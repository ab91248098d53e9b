import NvidiaOot.Model.PvaDma

/-!
# What is programmed against what was validated

Each word of the hardware descriptor gives back the user's values exactly when these fit
their fields.  The driver validates the values at their full width and does not look at
the widths, so an accepted descriptor can be programmed as another one.
-/

namespace NvidiaOot.Analysis

open Library Program Model

section

theorem toNat_byte_shiftLeft (x : U8) {k : ℕ} (hk : k ≤ 24) : (byte x <<< k).toNat = x.toNat <<< k := by
  have hx : x.toNat < 2 ^ 8 := x.isLt
  have hshift : x.toNat <<< k < 2 ^ 32 := by
    calc x.toNat <<< k = x.toNat * 2 ^ k := Nat.shiftLeft_eq _ _
      _ < 2 ^ 8 * 2 ^ k := Nat.mul_lt_mul_of_pos_right hx (Nat.two_pow_pos k)
      _ ≤ 2 ^ 8 * 2 ^ 24 := Nat.mul_le_mul_left _ (Nat.pow_le_pow_right (by norm_num) hk)
  exact Nat.mod_eq_of_lt hshift

theorem toNat_byte (x : U8) : (byte x).toNat = x.toNat :=
  BitVec.toNat_setWidth_of_le (by norm_num)

variable (desc : DmaDescriptor)

theorem toNat_byte_shiftLefts (x : U8) :
    (byte x <<< 1).toNat = x.toNat <<< 1 ∧ (byte x <<< 2).toNat = x.toNat <<< 2 ∧
    (byte x <<< 3).toNat = x.toNat <<< 3 ∧ (byte x <<< 4).toNat = x.toNat <<< 4 ∧
    (byte x <<< 7).toNat = x.toNat <<< 7 ∧ (byte x <<< 12).toNat = x.toNat <<< 12 := by
  refine ⟨?_, ?_, ?_, ?_, ?_, ?_⟩ <;> exact toNat_byte_shiftLeft x (by norm_num)

theorem toNat_transferControl0 : (transferControl0 desc).toNat =
    pack [(desc.srcTransferMode.toNat, 3), (desc.srcFormat.toNat, 1),
      (desc.dstTransferMode.toNat, 3), (desc.dstFormat.toNat, 1)] % 2 ^ 8 := by
  simp only [transferControl0, BitVec.toNat_setWidth, BitVec.toNat_or, toNat_byte,
    toNat_byte_shiftLefts, pack, Nat.shiftLeft_or_distrib, ← Nat.shiftLeft_add,
    Nat.zero_shiftLeft, Nat.or_zero, Nat.or_assoc]

theorem toNat_transferControl1 : (transferControl1 desc).toNat =
    pack [(desc.bytePerPixel.toNat, 2), (desc.pxDirection.toNat, 1), (desc.pyDirection.toNat, 1),
      (desc.boundaryPixelExtension.toNat, 3), (desc.transTrueCompletion.toNat, 1)] % 2 ^ 8 := by
  simp only [transferControl1, BitVec.toNat_setWidth, BitVec.toNat_or, toNat_byte,
    toNat_byte_shiftLefts, pack, Nat.shiftLeft_or_distrib, ← Nat.shiftLeft_add,
    Nat.zero_shiftLeft, Nat.or_zero, Nat.or_assoc]

theorem toNat_hwSwTrigEvents : (hwSwTrigEvents desc).toNat =
    pack [(desc.trigEventMode.toNat, 2), (desc.trigVpuEvents.toNat, 10),
      (desc.descReloadEnable.toNat, 4)] % 2 ^ 16 := by
  simp only [hwSwTrigEvents, BitVec.toNat_setWidth, BitVec.toNat_or, toNat_byte,
    toNat_byte_shiftLefts, pack, Nat.shiftLeft_or_distrib, ← Nat.shiftLeft_add,
    Nat.zero_shiftLeft, Nat.or_zero, Nat.or_assoc]

theorem toNat_surfaceBits (addr : U64) : (surfaceBits addr).toNat = (addr.toNat >>> 9 % 2 ^ 5) <<< 3 := by
  have hmask : (addr &&& 0x3E00).toNat = (addr.toNat >>> 9 % 2 ^ 5) <<< 9 := by
    apply Nat.eq_of_testBit_eq
    intro i
    have hconst : (0x3E00 : U64).toNat = (2 ^ 5 - 1) <<< 9 := by decide
    rw [BitVec.toNat_and, hconst, Nat.testBit_and, Nat.testBit_shiftLeft, Nat.testBit_shiftLeft,
      Nat.testBit_two_pow_sub_one, Nat.testBit_mod_two_pow, Nat.testBit_shiftRight]
    by_cases hi : 9 ≤ i
    · simp [hi, Bool.and_comm]
    · simp [hi]
  have hlt : addr.toNat >>> 9 % 2 ^ 5 < 2 ^ 5 := Nat.mod_lt _ (by norm_num)
  rw [surfaceBits, BitVec.toNat_setWidth, BitVec.toNat_ushiftRight, hmask]
  generalize addr.toNat >>> 9 % 2 ^ 5 = bits at hlt
  omega

theorem toNat_transferControl2_or (addr : U64) : (transferControl2 desc ||| surfaceBits addr).toNat =
    pack [(desc.prefetchEnable.toNat, 1), (desc.dstCbEnable.toNat, 1),
      (desc.srcCbEnable.toNat, 1), (addr.toNat >>> 9 % 2 ^ 5, 5)] % 2 ^ 8 := by
  have hsurface : (surfaceBits addr).toNat = (addr.toNat >>> 9 % 2 ^ 5) <<< 3 % 2 ^ 8 := by
    rw [← toNat_surfaceBits, Nat.mod_eq_of_lt (surfaceBits addr).isLt]
  rw [BitVec.toNat_or, hsurface, transferControl2, BitVec.toNat_setWidth, ← Nat.or_mod_two_pow]
  simp only [BitVec.toNat_or, toNat_byte, toNat_byte_shiftLefts, pack, Nat.shiftLeft_or_distrib,
    ← Nat.shiftLeft_add, Nat.zero_shiftLeft, Nat.or_zero, Nat.or_assoc]

theorem toNat_transferControl2 : (transferControl2 desc).toNat =
    pack [(desc.prefetchEnable.toNat, 1), (desc.dstCbEnable.toNat, 1),
      (desc.srcCbEnable.toNat, 1), (0, 5)] % 2 ^ 8 := by
  simp only [transferControl2, BitVec.toNat_setWidth, BitVec.toNat_or, toNat_byte,
    toNat_byte_shiftLefts, pack, Nat.shiftLeft_or_distrib, ← Nat.shiftLeft_add,
    Nat.zero_shiftLeft, Nat.or_zero, Nat.or_assoc]

theorem toNat_bit16 (x : U32) {n : ℕ} (hn : n ≤ 6) : (bit16 x n).toNat = (x.toNat >>> 16 % 2) <<< n := by
  have hbit : ((x >>> 16) &&& 1).toNat = x.toNat >>> 16 % 2 := by
    exact Nat.and_two_pow_sub_one_eq_mod _ 1
  have hpow : 2 ^ n ≤ 2 ^ 6 := Nat.pow_le_pow_right (by norm_num) hn
  rw [bit16, BitVec.toNat_shiftLeft, hbit, Nat.shiftLeft_eq]
  apply Nat.mod_eq_of_lt
  calc x.toNat >>> 16 % 2 * 2 ^ n ≤ 1 * 2 ^ 6 := Nat.mul_le_mul (by omega) hpow
    _ < 2 ^ 32 := by norm_num

theorem toNat_cbExt : (cbExt desc).toNat =
    pack [(desc.srcCbStart.toNat >>> 16 % 2, 2), (desc.dstCbStart.toNat >>> 16 % 2, 2),
      (desc.srcCbSize.toNat >>> 16 % 2, 2), (desc.dstCbSize.toNat >>> 16 % 2, 2)] % 2 ^ 8 := by
  simp only [cbExt, BitVec.toNat_setWidth, BitVec.toNat_or,
    toNat_bit16 _ (show 0 ≤ 6 by norm_num), toNat_bit16 _ (show 2 ≤ 6 by norm_num),
    toNat_bit16 _ (show 4 ≤ 6 by norm_num), toNat_bit16 _ (show 6 ≤ 6 by norm_num), pack,
    Nat.shiftLeft_or_distrib, ← Nat.shiftLeft_add, Nat.zero_shiftLeft, Nat.shiftLeft_zero,
    Nat.or_zero, Nat.or_assoc]

theorem toNat_ptCntl (rpt : U8) (adv : U32) :
    (ptCntl rpt adv).toNat = pack [(adv.toNat % 2 ^ 24, 24), (rpt.toNat, 8)] := by
  have hadv : (adv &&& 0xFFFFFF).toNat = adv.toNat % 2 ^ 24 := by
    exact Nat.and_two_pow_sub_one_eq_mod _ 24
  have hrpt : byte rpt &&& 0xFF = byte rpt := by
    apply BitVec.eq_of_toNat_eq
    exact (Nat.and_two_pow_sub_one_eq_mod _ 8).trans (Nat.mod_eq_of_lt rpt.isLt)
  rw [ptCntl, BitVec.toNat_or, hrpt, hadv, toNat_byte_shiftLeft rpt le_rfl, Nat.or_comm]
  simp only [pack, Nat.zero_shiftLeft, Nat.or_zero]

end

/-- A repeat count and its advance are read back exactly when the advance has 24 bits. -/
theorem readRepeat_iff (rpt : U8) (adv : U32) :
    readRepeat (ptCntl rpt adv) = (rpt.toNat, adv.toInt) ↔ FitsAdvance adv := by
  have hword := (unpack_pack_iff [(adv.toNat % 2 ^ 24, 24), (rpt.toNat, 8)]).mpr (by
    intro f hf
    rcases List.mem_pair.mp hf with rfl | rfl
    · exact Nat.mod_lt _ (by norm_num)
    · exact rpt.isLt)
  rw [← toNat_ptCntl] at hword
  obtain ⟨hlow, hhigh⟩ : (ptCntl rpt adv).toNat % 2 ^ 24 = adv.toNat % 2 ^ 24 ∧
      (ptCntl rpt adv).toNat >>> 24 % 2 ^ 8 = rpt.toNat := by
    simpa only [List.map, unpack, List.cons.injEq, and_true] using hword
  have hrpt : ((ptCntl rpt adv) >>> 24).toNat = rpt.toNat := by
    rw [BitVec.toNat_ushiftRight, Nat.shiftRight_eq_div_pow]
    omega
  have hadv : (ptCntl rpt adv).setWidth 24 = adv.setWidth 24 := by
    apply BitVec.eq_of_toNat_eq
    rw [BitVec.toNat_setWidth, BitVec.toNat_setWidth, hlow]
  rw [readRepeat, hrpt, hadv, Prod.mk.injEq, FitsAdvance,
    toInt_setWidth_eq_iff adv (show 23 + 1 ≤ 32 by norm_num)]
  exact and_iff_right rfl

theorem circular_iff (x : U32) :
    (x.setWidth 16).toNat + 2 ^ 16 * (x.toNat >>> 16 % 2) = x.toNat ↔ x.toNat < 2 ^ 17 := by
  rw [BitVec.toNat_setWidth, Nat.shiftRight_eq_div_pow]
  omega

theorem cbExt_bits (desc : DmaDescriptor) : (cbExt desc).toNat >>> 0 % 2 = desc.srcCbStart.toNat >>> 16 % 2 ∧
    (cbExt desc).toNat >>> 2 % 2 = desc.dstCbStart.toNat >>> 16 % 2 ∧
    (cbExt desc).toNat >>> 4 % 2 = desc.srcCbSize.toNat >>> 16 % 2 ∧
    (cbExt desc).toNat >>> 6 % 2 = desc.dstCbSize.toNat >>> 16 % 2 := by
  have hbit (x : U32) : x.toNat >>> 16 % 2 < 2 ^ 2 :=
    (Nat.mod_lt _ (by norm_num)).trans (by norm_num)
  have hword := (unpack_word_iff (toNat_cbExt desc)).mpr (by
    intro f hf
    simp only [List.mem_cons, List.not_mem_nil, or_false] at hf
    rcases hf with rfl | rfl | rfl | rfl <;> exact hbit _)
  simp only [List.map, unpack, List.cons.injEq, and_true, ← Nat.shiftRight_add] at hword
  have hmod (n : ℕ) : n % 2 ^ 2 % 2 = n % 2 := Nat.mod_mod_of_dvd n (by norm_num)
  have hlt (x : U32) : x.toNat >>> 16 % 2 % 2 = x.toNat >>> 16 % 2 := Nat.mod_mod _ _
  obtain ⟨h0, h2, h4, h6⟩ := hword
  refine ⟨?_, ?_, ?_, ?_⟩
  · rw [Nat.shiftRight_zero, ← hmod, h0, hlt]
  · rw [← hmod, h2, hlt]
  · rw [← hmod, h4, hlt]
  · rw [← hmod, h6, hlt]

theorem readAddr_eq (addr : U64) : readAddr (adr0 addr) (adr1 addr) = addr.toNat % 2 ^ 40 := by
  rw [readAddr, adr0, adr1, BitVec.toNat_setWidth, BitVec.toNat_setWidth,
    BitVec.toNat_ushiftRight, Nat.shiftRight_eq_div_pow]
  omega

theorem toNat_mark (format : U8) : (format.setWidth 64 <<< 39 : U64).toNat = format.toNat * 2 ^ 39 := by
  rw [BitVec.toNat_shiftLeft, BitVec.toNat_setWidth_of_le (by norm_num), Nat.shiftLeft_eq]
  apply Nat.mod_eq_of_lt
  omega

/-- As long as the sum has 40 bits the mark is disjoint from the address below it, and OR
and sum agree. -/
theorem marked_addr_iff (buffer offset : U64) (format : U8) :
    ((buffer ||| format.setWidth 64 <<< 39) + offset).toNat % 2 ^ 40 =
      buffer.toNat + offset.toNat + format.toNat * 2 ^ 39 ↔
    buffer.toNat + offset.toNat + format.toNat * 2 ^ 39 < 2 ^ 40 := by
  constructor
  · intro hkeep
    rw [← hkeep]
    exact Nat.mod_lt _ (Nat.two_pow_pos 40)
  · intro hfits
    have hor : (buffer ||| format.setWidth 64 <<< 39).toNat =
        buffer.toNat + format.toNat * 2 ^ 39 := by
      rw [BitVec.toNat_or, toNat_mark]
      by_cases hzero : format.toNat = 0
      · rw [hzero, Nat.zero_mul, Nat.or_zero, Nat.add_zero]
      · have hlow : buffer.toNat < 2 ^ 39 := by omega
        rw [Nat.or_comm, ← Nat.shiftLeft_eq, ← Nat.shiftLeft_add_eq_or_of_lt hlow, Nat.add_comm]
    rw [BitVec.toNat_add, hor]
    omega

theorem plain_addr_iff (buffer offset : U64) : (buffer + offset).toNat % 2 ^ 40 = buffer.toNat + offset.toNat ↔
      buffer.toNat + offset.toNat < 2 ^ 40 := by
  rw [BitVec.toNat_add]
  omega

/-- The address of either side is read back exactly when its exact value has 40 bits. -/
theorem side_addr_iff (hwgen : ℕ) (mode format : U8) (buffer offset : U64) :
    ((buffer ||| formatMark hwgen mode format) + offset).toNat % 2 ^ 40 =
      buffer.toNat + offset.toNat + markValue hwgen mode format ↔
    buffer.toNat + offset.toNat + markValue hwgen mode format < 2 ^ 40 := by
  unfold formatMark markValue
  split
  · exact marked_addr_iff buffer offset format
  · have hzero : buffer ||| 0 = buffer := BitVec.or_zero
    rw [hzero, Nat.add_zero]
    exact plain_addr_iff buffer offset

theorem toNat_addSurface (task : DmaTask) (desc : DmaDescriptor) : (addSurface task desc).2.toNat =
      pack [(desc.prefetchEnable.toNat, 1), (desc.dstCbEnable.toNat, 1),
        (desc.srcCbEnable.toNat, 1), (surfaceValue (addSurface task desc).1 desc, 5)] % 2 ^ 8 := by
  unfold addSurface surfaceValue
  by_cases hsrc : desc.srcFormat = 1 ∧ desc.srcTransferMode = xferMc
  · simp only [if_pos hsrc]
    exact toNat_transferControl2_or desc _
  simp only [if_neg hsrc]
  by_cases hdst : desc.dstFormat = 1 ∧ desc.dstTransferMode = xferMc
  · simp only [if_pos hdst]
    exact toNat_transferControl2_or desc _
  · simp only [if_neg hdst]
    exact toNat_transferControl2 desc

theorem surfaceValue_lt (task : DmaTask) (desc : DmaDescriptor) : surfaceValue task desc < 32 := by
  unfold surfaceValue
  split
  · exact Nat.mod_lt _ (by norm_num)
  · split
    · exact Nat.mod_lt _ (by norm_num)
    · norm_num

section

variable {env : DmaEnv} {task task' : DmaTask} {dtd dtd' : PvaDtd} {n : ℕ}

theorem srcAddrBase_ok {hwgen : ℕ} {desc : DmaDescriptor} {bh : U8} {base : U64}
    (h : srcAddrBase env hwgen task desc n bh = .ok (base, task')) :
    ∃ buffer t, srcBuffer env task desc = .ok (buffer, t) ∧
      base = buffer.addr ||| formatMark hwgen desc.srcTransferMode desc.srcFormat := by
  obtain ⟨⟨buffer, t⟩, hbuffer, hrest⟩ := bind_eq_ok.mp h
  obtain ⟨u, -, hrest⟩ := bind_eq_ok.mp hrest
  have hret := pure_eq_ok.mp hrest
  exact ⟨buffer, t, hbuffer, (congrArg Prod.fst hret).symm⟩

theorem dstAddrBase_ok {hwgen : ℕ} {desc : DmaDescriptor} {misr : Bool} {bh : U8} {base : U64}
    (h : dstAddrBase env hwgen task desc n misr bh = .ok (base, task')) :
    if misr then base = desc.dstPtr.setWidth 64 else ∃ buffer t, dstBuffer env task desc = .ok (buffer, t) ∧
      base = buffer.addr ||| formatMark hwgen desc.dstTransferMode desc.dstFormat := by
  cases misr with
  | true =>
    have hret := pure_eq_ok.mp (reject_bind_eq_ok.mp h).2
    exact (congrArg Prod.fst hret).symm
  | false =>
    obtain ⟨⟨buffer, t⟩, hbuffer, hrest⟩ := bind_eq_ok.mp h
    obtain ⟨info, -, hrest⟩ := bind_eq_ok.mp hrest
    have hret := pure_eq_ok.mp hrest
    exact ⟨buffer, t, hbuffer, (congrArg Prod.fst hret).symm⟩

/-- The destination address that a patched descriptor carries. -/
def HasDst (hwgen : ℕ) (desc : DmaDescriptor) (misr : Bool) (d : PvaDtd) (dst : U64) : Prop :=
  readAddr d.dstAdr0 d.dstAdr1 =
    ((if misr then dst else dst ||| formatMark hwgen desc.dstTransferMode desc.dstFormat) +
      desc.dstOffset).toNat % 2 ^ 40

/-- The destination address is read back exactly when its exact value has 40 bits. -/
theorem HasDst.iff {hwgen : ℕ} {desc : DmaDescriptor} {misr : Bool} {d : PvaDtd} {dst : U64}
    (h : HasDst hwgen desc misr d dst) : readAddr d.dstAdr0 d.dstAdr1 = dstValue hwgen desc misr dst ↔
      dstValue hwgen desc misr dst < 2 ^ 40 := by
  rw [h]
  cases misr with
  | true => exact plain_addr_iff dst desc.dstOffset
  | false => exact side_addr_iff hwgen desc.dstTransferMode desc.dstFormat dst desc.dstOffset

theorem patch_ok (h : patchDmaDescAddress env task (task.dmaDescriptors n) dtd n (isMisr task n)
      (task.descBlockHeightLog2 n) = .ok (task', dtd')) : ∃ src dst, namedAddresses env task n = .ok (src, dst) ∧
      readAddr dtd'.srcAdr0 dtd'.srcAdr1 = ((src ||| formatMark task.version (task.dmaDescriptors n).srcTransferMode
          (task.dmaDescriptors n).srcFormat) + (task.dmaDescriptors n).srcOffset).toNat % 2 ^ 40 ∧
      (dst.isSome = decide ((task.dmaDescriptors n).srcTransferMode ≠ srcXferVpuConfig)) ∧ ∀ addr, dst = some addr →
        HasDst task.version (task.dmaDescriptors n) (isMisr task n) dtd' addr := by
  obtain ⟨⟨base, t⟩, hbase, hrest⟩ := bind_eq_ok.mp h
  obtain ⟨srcBuf, ts, hsrc, rfl⟩ := srcAddrBase_ok hbase
  dsimp only at hrest
  by_cases hvpu : (task.dmaDescriptors n).srcTransferMode = srcXferVpuConfig
  · -- a program configuration has no destination
    rw [if_pos hvpu] at hrest
    obtain ⟨-, rfl⟩ := Prod.mk.inj (pure_eq_ok.mp hrest)
    refine ⟨srcBuf.addr, none, bind_eq_ok.mpr ⟨(srcBuf, ts), hsrc, if_pos hvpu⟩, ?_, ?_, nofun⟩
    · exact readAddr_eq _
    · simp [hvpu]
  rw [if_neg hvpu] at hrest
  obtain ⟨⟨dstBase, td⟩, hdstBase, hrest⟩ := bind_eq_ok.mp hrest
  obtain ⟨-, rfl⟩ := Prod.mk.inj (pure_eq_ok.mp hrest)
  have hdst := dstAddrBase_ok hdstBase
  by_cases hmisr : isMisr task n = true
  · rw [if_pos hmisr] at hdst
    refine ⟨srcBuf.addr, some ((task.dmaDescriptors n).dstPtr.setWidth 64),
      bind_eq_ok.mpr ⟨(srcBuf, ts), hsrc, ?_⟩, ?_, ?_, ?_⟩
    · exact (if_neg hvpu).trans (if_pos hmisr)
    · exact readAddr_eq _
    · simp [hvpu]
    · intro addr haddr
      cases haddr
      rw [HasDst, if_pos hmisr, ← hdst]
      exact readAddr_eq _
  rw [if_neg hmisr] at hdst
  obtain ⟨dstBuf, t2, hdst, rfl⟩ := hdst
  refine ⟨srcBuf.addr, some dstBuf.addr, bind_eq_ok.mpr ⟨(srcBuf, ts), hsrc, ?_⟩, ?_, ?_, ?_⟩
  · refine (if_neg hvpu).trans ((if_neg hmisr).trans ?_)
    exact bind_eq_ok.mpr ⟨_, hbase, bind_eq_ok.mpr ⟨(dstBuf, t2), hdst, rfl⟩⟩
  · exact readAddr_eq _
  · simp [hvpu]
  · rintro addr haddr
    cases haddr
    rw [HasDst, if_neg hmisr]
    exact readAddr_eq _

/-- The words of a mapped descriptor: packed from the user's fields, patched addresses,
surface bits. -/
theorem mapDescriptor_ok {bl : Bool} (h : mapDescriptor env task dtd n = .ok (task', dtd', bl)) :
    ∃ t patched frda, patchDmaDescAddress env task (task.dmaDescriptors n) dtd n (isMisr task n)
        (task.descBlockHeightLog2 n) = .ok (t, patched) ∧
      linkAccepted t.numDmaDescriptors (task.dmaDescriptors n).linkDescId = .ok () ∧
      task' = (addSurface t (task.dmaDescriptors n)).1 ∧
      dtd' = { packDescriptor (task.dmaDescriptors n) patched with
        transferControl2 := (addSurface t (task.dmaDescriptors n)).2, frda := frda } := by
  obtain ⟨-, -, h⟩ := bind_eq_ok.mp h
  obtain ⟨⟨t, patched⟩, hpatch, h⟩ := bind_eq_ok.mp h
  obtain ⟨-, h⟩ := reject_bind_eq_ok.mp h
  obtain ⟨u, hlink, h⟩ := bind_eq_ok.mp h
  obtain ⟨frda, -, h⟩ := bind_eq_ok.mp h
  have hret := pure_eq_ok.mp h
  exact ⟨t, patched, frda, hpatch, hlink, (congrArg Prod.fst hret).symm, (congrArg (fun r => r.2.1) hret).symm⟩

end

section

variable {env : DmaEnv} {task task' : DmaTask} {dtd dtd' : PvaDtd} {n : ℕ} {bl : Bool}

/--
**A programmed descriptor reads as the validated one exactly when its values fit.**

SOURCE: drivers/video/tegra/host/pva/pva_dma.c:815-1021
-/
theorem mapDescriptor_reads_back_iff (hwgen : ℕ) (hgen : task.version = hwgen)
    (h : mapDescriptor env task dtd n = .ok (task', dtd', bl)) :
    ∃ src dst, namedAddresses env task n = .ok (src, dst) ∧ (readFields dtd' dst.isSome =
          userFields hwgen (task.dmaDescriptors n) (surfaceValue task' (task.dmaDescriptors n))
            (isMisr task n) src dst ↔ Fits hwgen (task.dmaDescriptors n) (isMisr task n) src dst) := by
  obtain ⟨t, patched, frda, hpatch, -, rfl, rfl⟩ := mapDescriptor_ok h
  obtain ⟨src, dst, hnamed, hsrcAddr, -, hdstAddr⟩ := patch_ok hpatch
  refine ⟨src, dst, hnamed, ?_⟩
  generalize task.dmaDescriptors n = desc at hsrcAddr hdstAddr ⊢
  rw [hgen] at hsrcAddr hdstAddr
  have hcontrol0 := unpack_word_iff (toNat_transferControl0 desc)
  have hcontrol1 := unpack_word_iff (toNat_transferControl1 desc)
  have hcontrol2 := unpack_word_iff (toNat_addSurface t desc)
  have htrigger := unpack_word_iff (toNat_hwSwTrigEvents desc)
  have hsurface := surfaceValue_lt (addSurface t desc).1 desc
  simp only [List.map, List.forall_mem_cons, List.not_mem_nil, false_implies, implies_true,
    and_true] at hcontrol0 hcontrol1 hcontrol2 htrigger
  have hpy : (desc.py.setWidth 8).toNat = desc.py.toNat ↔ desc.py.toNat < 256 := by
    rw [BitVec.toNat_setWidth]
    omega
  have hcb := cbExt_bits desc
  have hsrc : readAddr patched.srcAdr0 patched.srcAdr1 = srcValue hwgen desc src ↔
      srcValue hwgen desc src < 2 ^ 40 := by
    rw [hsrcAddr]
    exact side_addr_iff hwgen desc.srcTransferMode desc.srcFormat src desc.srcOffset
  have hdst : (if dst.isSome = true then some (readAddr patched.dstAdr0 patched.dstAdr1) else none) =
      dst.map (dstValue hwgen desc (isMisr task n)) ↔
      ∀ addr, dst = some addr → dstValue hwgen desc (isMisr task n) addr < 2 ^ 40 := by
    cases dst with
    | none => simp
    | some addr => simpa using (hdstAddr addr rfl).iff
  unfold readFields userFields
  rw [Fields.mk.injEq]
  dsimp only [packDescriptor]
  simp only [hcontrol0, hcontrol1, hcontrol2, htrigger, hpy, readRepeat_iff, readCircular, hcb,
    circular_iff, hsrc, hdst, true_and]
  constructor
  · rintro ⟨h0, h1, h2, h3, hpy, hs1, hs2, hs3, hd1, hd2, hd3, hss, hsz, hds, hdz, hsa, hda⟩
    exact ⟨h0, h1, ⟨h2.1, h2.2.1, h2.2.2.1⟩, ⟨h3.1, h3.2.2⟩, hpy, ⟨hs1, hs2, hs3⟩, ⟨hd1, hd2, hd3⟩,
      ⟨hss, hsz⟩, ⟨hds, hdz⟩, hsa, hda⟩
  · intro hfits
    have hevents : desc.trigVpuEvents.toNat < 2 ^ 10 := desc.trigVpuEvents.isLt.trans (by norm_num)
    obtain ⟨h0, h1, h2, h3, hpy, ⟨hs1, hs2, hs3⟩, ⟨hd1, hd2, hd3⟩, ⟨hss, hsz⟩, ⟨hds, hdz⟩, hsa, hda⟩ :=
      hfits
    exact ⟨h0, h1, ⟨h2.1, h2.2.1, h2.2.2, hsurface⟩, ⟨h3.1, hevents, h3.2⟩, hpy, hs1, hs2, hs3, hd1,
      hd2, hd3, hss, hsz, hds, hdz, hsa, hda⟩

end

end NvidiaOot.Analysis
