import NvidiaOot.Analysis.IvcPeer

/-!
# Advancing over a frame has the effect of copying it

When an end may write, `tegra_ivc_write` and the zero-copy calls reach the same state, unless an address of
the cache maintenance overflows: in 64 bits both stop at the frame, and in 32 bits `tegra_ivc_write_advance`
fails although the counter has moved on.
-/

namespace NvidiaOot.Analysis

open Library Program Model

variable {n fs : U32} {s : IvcWorld}

/-! ## Addresses -/

theorem isU32AdditionSafe_iff {a b : U32} : isU32AdditionSafe a b = true ↔ a.toNat + b.toNat < 2 ^ 32 := by
  have hle : a ≤ BitVec.allOnes 32 := by
    rw [BitVec.le_def, BitVec.toNat_allOnes]
    omega
  unfold isU32AdditionSafe
  rw [decide_eq_true_eq, ge_iff_le, BitVec.le_def, BitVec.toNat_sub_of_le hle, BitVec.toNat_allOnes]
  omega

theorem exec_safeAddU64_of_lt {a b : U64} (h : a.toNat + b.toNat < 2 ^ 64) :
    (safeAddU64 a b).exec s = .ok (a + b, s) := by
  simp [safeAddU64, isU64AdditionSafe_iff.mpr h]

theorem exec_safeAddU64_of_ge {a b : U64} (h : 2 ^ 64 ≤ a.toNat + b.toNat) :
    (safeAddU64 a b).exec s = .error .safeAddU64 := by
  have hunsafe : isU64AdditionSafe a b = false := by
    rw [← Bool.not_eq_true, isU64AdditionSafe_iff]
    omega
  simp [safeAddU64, hunsafe]

theorem exec_safeMultU32U32U64 (a b : U32) :
    (safeMultU32U32U64 a b).exec s = .ok (a.setWidth 64 * b.setWidth 64, s) := by
  have hsafe : isU32U32U64MultiplicationSafe a b = true := by
    unfold isU32U32U64MultiplicationSafe
    split
    · rfl
    rename_i hne
    have hb : 0 < b.toNat := by
      rw [Nat.pos_iff_ne_zero]
      intro hzero
      exact hne (Or.inr (BitVec.eq_of_toNat_eq hzero))
    have ha := a.isLt
    have hblt := b.isLt
    rw [decide_eq_true_eq, ge_iff_le, BitVec.le_def, BitVec.toNat_udiv, BitVec.toNat_allOnes,
      BitVec.toNat_setWidth_of_le (by decide), BitVec.toNat_setWidth_of_le (by decide),
      Nat.le_div_iff_mul_le hb]
    have hprod := Nat.mul_lt_mul'' ha hblt
    omega
  simp [safeMultU32U32U64, hsafe]

theorem toNat_frameProduct (a b : U32) : (a.setWidth 64 * b.setWidth 64 : U64).toNat = a.toNat * b.toNat := by
  have hprod := Nat.mul_lt_mul'' a.isLt b.isLt
  rw [BitVec.toNat_mul, BitVec.toNat_setWidth_of_le (by decide), BitVec.toNat_setWidth_of_le (by decide),
    Nat.mod_eq_of_lt (by omega)]

/-- The bus address of a frame fits 64 bits, when there is a device to keep coherent with. -/
def FrameAddressable (s : IvcWorld) (handle : U64) (frame : U32) : Prop :=
  s.ivc.peerDevice = true →
    handle.toNat + sizeofIvcChannelHeader + s.ivc.frameSize.toNat * frame.toNat < 2 ^ 64

theorem toNat_headerSize : (BitVec.ofNat 64 sizeofIvcChannelHeader).toNat = sizeofIvcChannelHeader := by
  simp [sizeofIvcChannelHeader]

theorem exec_ivcInvalidateFrame_of_addressable {handle : U64} {frame : U32} (hframe : frame < s.ivc.nframes)
    (h : FrameAddressable s handle frame) : (ivcInvalidateFrame handle frame 0).exec s = .ok ((), s) := by
  unfold ivcInvalidateFrame
  rw [Prog.exec_bind_of_ok (exec_getIvc s)]
  cases hpeer : s.ivc.peerDevice with
  | false => rfl
  | true =>
    have haddr := h hpeer
    have hbase : (handle + BitVec.ofNat 64 sizeofIvcChannelHeader).toNat =
        handle.toNat + sizeofIvcChannelHeader := by
      rw [BitVec.toNat_add, toNat_headerSize, Nat.mod_eq_of_lt (by omega)]
    have hhandle : (ivcFrameHandle handle frame).exec s = .ok
        (handle + BitVec.ofNat 64 sizeofIvcChannelHeader +
          s.ivc.frameSize.setWidth 64 * frame.setWidth 64, s) := by
      unfold ivcFrameHandle
      rw [Prog.exec_bind_of_ok (exec_getIvc s), hpeer]
      simp only [Bool.not_true, Bool.false_eq_true, if_false, ge_iff_le, if_neg (BitVec.not_le.mpr hframe)]
      rw [Prog.exec_bind_of_ok (exec_safeAddU64_of_lt (by rw [toNat_headerSize]; omega)),
        Prog.exec_bind_of_ok (exec_safeMultU32U32U64 _ _)]
      apply exec_safeAddU64_of_lt
      rw [hbase, toNat_frameProduct]
      exact haddr
    simp only [Bool.not_true, Bool.false_eq_true, if_false]
    rw [Prog.exec_bind_of_ok hhandle, Prog.exec_bind_of_ok (exec_safeAddU64_of_lt _)]
    · rfl
    · have hlt := (handle + BitVec.ofNat 64 sizeofIvcChannelHeader +
          s.ivc.frameSize.setWidth 64 * frame.setWidth 64).isLt
      have hzero : (0 : U64).toNat = 0 := by simp
      omega

theorem exec_ivcInvalidateFrame_of_not {handle : U64} {frame : U32} (hframe : frame < s.ivc.nframes)
    (h : ¬ FrameAddressable s handle frame) : (ivcInvalidateFrame handle frame 0).exec s = .error .safeAddU64 := by
  obtain ⟨hpeer, haddr⟩ := Classical.not_imp.mp h
  have hhandle : (ivcFrameHandle handle frame).exec s = .error .safeAddU64 := by
    unfold ivcFrameHandle
    rw [Prog.exec_bind_of_ok (exec_getIvc s), hpeer]
    simp only [Bool.not_true, Bool.false_eq_true, if_false, ge_iff_le, if_neg (BitVec.not_le.mpr hframe)]
    by_cases hheader : handle.toNat + sizeofIvcChannelHeader < 2 ^ 64
    · have hbase : (handle + BitVec.ofNat 64 sizeofIvcChannelHeader).toNat =
          handle.toNat + sizeofIvcChannelHeader := by
        rw [BitVec.toNat_add, toNat_headerSize, Nat.mod_eq_of_lt (by omega)]
      rw [Prog.exec_bind_of_ok (exec_safeAddU64_of_lt (by rw [toNat_headerSize]; omega)),
        Prog.exec_bind_of_ok (exec_safeMultU32U32U64 _ _)]
      apply exec_safeAddU64_of_ge
      rw [hbase, toNat_frameProduct]
      omega
    · exact Prog.exec_bind_of_error (exec_safeAddU64_of_ge (by rw [toNat_headerSize]; omega))
  unfold ivcInvalidateFrame
  rw [Prog.exec_bind_of_ok (exec_getIvc s), hpeer]
  simp only [Bool.not_true, Bool.false_eq_true, if_false]
  exact Prog.exec_bind_of_error hhandle

theorem exec_ivcFramePointer {frame : U32} (hframe : frame < s.ivc.nframes) :
    (ivcFramePointer frame).exec s = .ok (frameOffset s.ivc frame, s) :=
  exec_ivcFramePointer_eq_ok.mpr ⟨hframe, rfl⟩

/-! ## Closed forms -/

def afterRead (s : IvcWorld) : IvcWorld :=
  { advanceRx s with
    notified := if s.rx.wCount - (s.rx.rCount + 1) = s.ivc.nframes - 1 then s.notified + 1
      else s.notified }

def afterWrite (s : IvcWorld) : IvcWorld :=
  { advanceTx s with notified := if s.tx.wCount + 1 - s.tx.rCount = 1 then s.notified + 1 else s.notified }

theorem exec_advanceRx_notify (s : IvcWorld) {α : Type} (a : α) :
    (do ivcAdvanceRx; notifyIfAvailCount .rx (s.ivc.nframes - 1); return a : IvcProg α).exec s =
      .ok (a, afterRead s) := by
  rw [Prog.exec_bind_of_ok (exec_ivcAdvanceRx s), Prog.exec_bind_of_ok (exec_notifyIfAvailCount .rx _ _)]
  rfl

theorem exec_advanceTx_notify (s : IvcWorld) {α : Type} (a : α) :
    (do ivcAdvanceTx; notifyIfAvailCount .tx 1; return a : IvcProg α).exec s = .ok (a, afterWrite s) := by
  rw [Prog.exec_bind_of_ok (exec_ivcAdvanceTx s), Prog.exec_bind_of_ok (exec_notifyIfAvailCount .tx 1 _)]
  rfl

theorem checkRead_lt {s : IvcWorld} (h : checkRead s ≠ 0) : checkRead s < 0 := by
  unfold checkRead at h ⊢
  split
  · decide
  split
  · decide
  · rename_i hstate hempty
    rw [if_neg hstate, if_neg hempty] at h
    exact absurd rfl h

theorem checkWrite_lt {s : IvcWorld} (h : checkWrite s ≠ 0) : checkWrite s < 0 := by
  unfold checkWrite at h ⊢
  split
  · decide
  split
  · decide
  · rename_i hstate hfull
    rw [if_neg hstate, if_neg hfull] at h
    exact absurd rfl h

theorem exec_tegraIvcReadAdvance (s : IvcWorld) : tegraIvcReadAdvance.exec s = .ok (0, afterRead s) ∧ CanRead s ∨
      ∃ result < 0, tegraIvcReadAdvance.exec s = .ok (result, s) := by
  unfold tegraIvcReadAdvance
  rw [Prog.exec_bind_of_ok (exec_ivcCheckRead s)]
  by_cases hcheck : checkRead s = 0
  · rw [if_neg (not_not.mpr hcheck), Prog.exec_bind_of_ok (exec_getIvc s)]
    have hfault : - eFAULT < 0 := by decide
    split
    · exact Or.inr ⟨- eFAULT, hfault, rfl⟩
    split
    · exact Or.inr ⟨- eFAULT, hfault, rfl⟩
    · split
      · exact Or.inr ⟨- eFAULT, hfault, rfl⟩
      · exact Or.inl ⟨exec_advanceRx_notify s 0, checkRead_eq_zero.mp hcheck⟩
  · rw [if_pos hcheck]
    exact Or.inr ⟨checkRead s, checkRead_lt hcheck, rfl⟩

theorem tegraIvcRead_afterRead {maxRead : U64} :
    Prog.Returns (tegraIvcRead maxRead) s fun r t => 0 ≤ r.1 → t = afterRead s := by
  unfold tegraIvcRead ivcReadFrame
  refine .bind (.of_ok (exec_getIvc s) ?_)
  refine .ite (fun _ => .of_ok rfl fun hresult => absurd hresult (by decide)) fun _ => ?_
  refine .bind (.of_ok (exec_ivcCheckRead s) (.ite (fun hcheck => .of_ok rfl fun hresult => ?_) fun _ => ?_))
  · exact absurd hresult (not_le.mpr (checkRead_lt hcheck))
  · refine .bind (returns_ivcInvalidateFrame (.bind (returns_ivcFramePointer (.bind ?_))))
    intro bytes s₁ hcopy
    cases hcopy
    exact .ite (fun hfault => by cases hfault) fun _ => .of_ok (exec_advanceRx_notify s _) fun _ => rfl

def filled (s : IvcWorld) (contents : ℕ → U8) : IvcWorld :=
  { s with txFrames := blit s.txFrames (writeOffset s) s.ivc.frameSize.toNat contents }

theorem tegraIvcWrite_afterWrite {contents : ℕ → U8} {size : U64} :
    Prog.Returns (tegraIvcWrite contents size) s fun r t => 0 ≤ r → t = { afterWrite s with txFrames := t.txFrames } := by
  unfold tegraIvcWrite ivcWriteFrame
  refine .bind (.of_ok (exec_getIvc s) ?_)
  refine .ite (fun _ => .of_ok rfl fun hresult => absurd hresult (by decide)) fun _ => ?_
  refine .bind (.of_ok (exec_ivcCheckWrite s) (.ite (fun hcheck => .of_ok rfl fun hresult => ?_) fun _ => ?_))
  · exact absurd hresult (not_le.mpr (checkWrite_lt hcheck))
  · refine .bind (returns_ivcFramePointer (.bind ?_))
    intro u s₁ hcopy
    cases hcopy
    refine .ite (fun hfault => by cases hfault) fun _ => .bind (.of_ok (exec_copyToFrame _ _ _ _) ?_)
    exact .bind (returns_ivcInvalidateFrame (.of_ok (exec_advanceTx_notify _ _) fun _ => rfl))

/-- The narrow test of the handle, after the counter has moved on. -/
def NarrowSafe (s : IvcWorld) : Prop := s.ivc.txHandle.toNat % 2 ^ 32 + offsetofRCount < 2 ^ 32

theorem narrowSafe_iff (s : IvcWorld) :
    isU32AdditionSafe (s.ivc.txHandle.setWidth 32) (BitVec.ofNat 32 offsetofRCount) = true ↔ NarrowSafe s := by
  rw [isU32AdditionSafe_iff, BitVec.toNat_setWidth]
  rfl

theorem exec_tegraIvcWriteAdvance (hcheck : checkWrite s = 0) (hpos : s.ivc.wPos < s.ivc.nframes)
    (haddr : FrameAddressable s s.ivc.txHandle s.ivc.wPos) :
    (NarrowSafe s → tegraIvcWriteAdvance.exec s = .ok (0, afterWrite s)) ∧
      (¬ NarrowSafe s → tegraIvcWriteAdvance.exec s = .ok (- eFAULT, advanceTx s)) := by
  unfold tegraIvcWriteAdvance
  rw [Prog.exec_bind_of_ok (exec_ivcCheckWrite s), if_neg (not_not.mpr hcheck),
    Prog.exec_bind_of_ok (exec_getIvc s)]
  simp only [ivcFlushFrame]
  rw [Prog.exec_bind_of_ok (exec_ivcInvalidateFrame_of_addressable hpos haddr),
    Prog.exec_bind_of_ok (exec_ivcAdvanceTx s)]
  constructor
  · intro hnarrow
    rw [(narrowSafe_iff s).mpr hnarrow]
    simp only [Bool.not_true, Bool.false_eq_true, if_false]
    rw [Prog.exec_bind_of_ok (exec_notifyIfAvailCount .tx 1 _)]
    rfl
  · intro hnarrow
    have hfalse : isU32AdditionSafe (s.ivc.txHandle.setWidth 32) (BitVec.ofNat 32 offsetofRCount) =
        false := by
      rw [← Bool.not_eq_true, narrowSafe_iff]
      exact hnarrow
    rw [hfalse]
    rfl

theorem exec_tegraIvcWrite (hcheck : checkWrite s = 0) (hpos : s.ivc.wPos < s.ivc.nframes)
    (haddr : FrameAddressable s s.ivc.txHandle s.ivc.wPos) (contents : ℕ → U8) :
    (tegraIvcWrite contents (s.ivc.frameSize.setWidth 64)).exec s =
      .ok (toInt32 (s.ivc.frameSize.setWidth 64), afterWrite (filled s contents)) := by
  have hsize : ¬ s.ivc.frameSize.setWidth 64 > s.ivc.frameSize.setWidth 64 := by simp
  have hlen : (s.ivc.frameSize.setWidth 64).toNat = s.ivc.frameSize.toNat :=
    BitVec.toNat_setWidth_of_le (by decide)
  have hkernel : ¬ CopyBuffer.kernel = .user true := by simp
  unfold tegraIvcWrite ivcWriteFrame
  rw [Prog.exec_bind_of_ok (exec_getIvc s), if_neg hsize, Prog.exec_bind_of_ok (exec_ivcCheckWrite s),
    if_neg (not_not.mpr hcheck), Prog.exec_bind_of_ok (exec_ivcFramePointer hpos)]
  simp only [copyFromBuffer]
  rw [Prog.exec_bind_of_ok (exec_copyToFrame _ _ _ _), if_neg hkernel,
    Prog.exec_bind_of_ok (exec_copyToFrame _ _ _ _)]
  simp only [hlen, Nat.sub_self, blit_zero, ivcFlushFrame]
  have hflush : (ivcInvalidateFrame s.ivc.txHandle s.ivc.wPos 0).exec (filled s contents) =
      .ok ((), filled s contents) := exec_ivcInvalidateFrame_of_addressable hpos haddr
  apply (Prog.exec_bind_of_ok hflush).trans
  exact exec_advanceTx_notify (filled s contents) _

theorem exec_tegraIvcRead (hcheck : checkRead s = 0) (hpos : s.ivc.rPos < s.ivc.nframes)
    (haddr : FrameAddressable s s.ivc.rxHandle s.ivc.rPos) : (tegraIvcRead (s.ivc.frameSize.setWidth 64)).exec s =
      .ok ((toInt32 (s.ivc.frameSize.setWidth 64),
        slice s.rxFrames (readOffset s) (s.ivc.frameSize.setWidth 64).toNat), afterRead s) := by
  have hsize : ¬ s.ivc.frameSize.setWidth 64 > s.ivc.frameSize.setWidth 64 := by simp
  have hkernel : ¬ CopyBuffer.kernel = .user true := by simp
  unfold tegraIvcRead ivcReadFrame
  rw [Prog.exec_bind_of_ok (exec_getIvc s), if_neg hsize, Prog.exec_bind_of_ok (exec_ivcCheckRead s),
    if_neg (not_not.mpr hcheck), Prog.exec_bind_of_ok (exec_ivcInvalidateFrame_of_addressable hpos haddr),
    Prog.exec_bind_of_ok (exec_ivcFramePointer hpos)]
  simp only [copyToBuffer]
  rw [Prog.exec_bind_of_ok (exec_copyFromFrame _ _ _), if_neg hkernel]
  exact exec_advanceRx_notify s _

theorem exec_zeroCopyWrite (hcheck : checkWrite s = 0) (hpos : s.ivc.wPos < s.ivc.nframes) (contents : ℕ → U8) :
    (zeroCopyWrite contents).exec s = tegraIvcWriteAdvance.exec (filled s contents) := by
  have hnext : tegraIvcWriteGetNextFrame.exec s = .ok (.ok (writeOffset s), s) := by
    unfold tegraIvcWriteGetNextFrame
    rw [Prog.exec_bind_of_ok (exec_ivcCheckWrite s), if_neg (not_not.mpr hcheck),
      Prog.exec_bind_of_ok (exec_getIvc s), Prog.exec_bind_of_ok (exec_ivcFramePointer hpos)]
    rfl
  unfold zeroCopyWrite
  rw [Prog.exec_bind_of_ok hnext]
  rfl

/-! ## When the calls agree -/

theorem readAdvanced_afterRead (hpos : s.ivc.rPos < s.ivc.nframes) : ReadAdvanced s (afterRead s) where
  rCount := rfl
  rPos := ringNext_toNat hpos
  notified := rfl
  asRead _ _ _ _ h := tegraIvcRead_afterRead _ _ h

theorem writeAdvanced_afterWrite (hpos : s.ivc.wPos < s.ivc.nframes) : WriteAdvanced s (afterWrite s) where
  wCount := rfl
  wPos := ringNext_toNat hpos
  notified := rfl
  asWrite _ _ _ _ h := tegraIvcWrite_afterWrite _ _ h

theorem wCount_succ_ne (w : U32) : w + 1 ≠ w := by bv_omega

/-- The advancing calls do what the copying ones do if and only if the end may not write, or the address of
its next frame fits 64 bits and that of the counter fits 32 bits. -/
theorem ivc_advances_as_copied_iff (h : GoodIvc n fs s.ivc) : AdvancesAsCopied s ↔
      (CanWrite s → FrameAddressable s s.ivc.txHandle s.ivc.wPos ∧ NarrowSafe s) := by
  have hwPos : s.ivc.wPos < s.ivc.nframes := by
    rw [h.nframes]
    exact h.wPos
  have hrPos : s.ivc.rPos < s.ivc.nframes := by
    rw [h.nframes]
    exact h.rPos
  constructor
  · intro hcopied hwrite
    have hcheck := checkWrite_eq_zero.mpr hwrite
    obtain ⟨result, s', hexec, hor⟩ := hcopied.write
    have haddr : FrameAddressable s s.ivc.txHandle s.ivc.wPos := by
      by_contra hnot
      -- The address of the frame overflows, and the flush does not return.
      have hflush := exec_ivcInvalidateFrame_of_not hwPos hnot
      unfold tegraIvcWriteAdvance at hexec
      rw [Prog.exec_bind_of_ok (exec_ivcCheckWrite s), if_neg (not_not.mpr hcheck),
        Prog.exec_bind_of_ok (exec_getIvc s)] at hexec
      simp only [ivcFlushFrame] at hexec
      rw [Prog.exec_bind_of_error hflush] at hexec
      cases hexec
    refine ⟨haddr, ?_⟩
    by_contra hnarrow
    rw [(exec_tegraIvcWriteAdvance hcheck hwPos haddr).2 hnarrow] at hexec
    cases hexec
    rcases hor with ⟨hzero, -⟩ | ⟨-, -, htx, -⟩
    · exact absurd hzero (by decide)
    · exact wCount_succ_ne s.tx.wCount (congrArg IvcChannelHeader.wCount htx)
  · intro hsafe
    constructor
    · rcases exec_tegraIvcReadAdvance s with ⟨hexec, -⟩ | ⟨result, hresult, hexec⟩
      · exact ⟨0, afterRead s, hexec, Or.inl ⟨rfl, readAdvanced_afterRead hrPos⟩⟩
      · exact ⟨result, s, hexec, Or.inr ⟨hresult, rfl, rfl, rfl⟩⟩
    · by_cases hcheck : checkWrite s = 0
      · obtain ⟨haddr, hnarrow⟩ := hsafe (checkWrite_eq_zero.mp hcheck)
        exact ⟨0, afterWrite s, (exec_tegraIvcWriteAdvance hcheck hwPos haddr).1 hnarrow,
          Or.inl ⟨rfl, writeAdvanced_afterWrite hwPos⟩⟩
      · refine ⟨checkWrite s, s, ?_, Or.inr ⟨checkWrite_lt hcheck, rfl, rfl, rfl⟩⟩
        unfold tegraIvcWriteAdvance
        rw [Prog.exec_bind_of_ok (exec_ivcCheckWrite s), if_pos hcheck]
        rfl
    · intro contents
      by_cases hcheck : checkWrite s = 0
      · obtain ⟨haddr, hnarrow⟩ := hsafe (checkWrite_eq_zero.mp hcheck)
        have hfilled : checkWrite (filled s contents) = 0 := hcheck
        have hnarrow' : NarrowSafe (filled s contents) := hnarrow
        refine ⟨0, toInt32 (s.ivc.frameSize.setWidth 64), afterWrite (filled s contents), ?_,
          exec_tegraIvcWrite hcheck hwPos haddr contents, Or.inl ⟨rfl, rfl⟩⟩
        rw [exec_zeroCopyWrite hcheck hwPos]
        exact (exec_tegraIvcWriteAdvance hfilled hwPos haddr).1 hnarrow'
      refine ⟨checkWrite s, checkWrite s, s, ?_, ?_, Or.inr ⟨checkWrite_lt hcheck, rfl⟩⟩
      · unfold zeroCopyWrite tegraIvcWriteGetNextFrame
        rw [Prog.exec_bind, Prog.exec_bind_of_ok (exec_ivcCheckWrite s), if_pos hcheck]
        rfl
      · have hsize : ¬ s.ivc.frameSize.setWidth 64 > s.ivc.frameSize.setWidth 64 := by simp
        unfold tegraIvcWrite ivcWriteFrame
        rw [Prog.exec_bind_of_ok (exec_getIvc s), if_neg hsize,
          Prog.exec_bind_of_ok (exec_ivcCheckWrite s), if_pos hcheck]
        rfl

/-- The calls agree on a fresh channel whose handles are 0. -/
theorem ivc_advances_as_copied_fresh : AdvancesAsCopied freshWorld := by
  have hgood : GoodIvc 3 64 freshWorld.ivc := by
    constructor <;> decide
  apply (ivc_advances_as_copied_iff hgood).mpr
  intro hwrite
  constructor
  · nofun
  · unfold NarrowSafe
    decide

/-- A fresh channel whose transmit queue is mapped across the end of the first 4 GiB. -/
def highHandleWorld : IvcWorld :=
  { freshWorld with
    ivc := { freshWorld.ivc with peerDevice := true, rxHandle := 0xFFFF0000, txHandle := 0xFFFFFFC0 } }

/-- The counter and the position advance, and the call returns an error without a notification. -/
theorem ivc_write_advance_fault :
    (∃ s', tegraIvcWriteAdvance.exec highHandleWorld = .ok (- eFAULT, s') ∧ s'.tx.wCount = 1 ∧
      s'.ivc.wPos = 1 ∧ s'.notified = highHandleWorld.notified) ∧ ¬ AdvancesAsCopied highHandleWorld := by
  have hwrite : CanWrite highHandleWorld := by
    constructor <;> decide
  have hnarrow : ¬ NarrowSafe highHandleWorld := by
    unfold NarrowSafe
    decide
  have haddr : FrameAddressable highHandleWorld highHandleWorld.ivc.txHandle highHandleWorld.ivc.wPos := by
    intro hpeer
    decide
  have hfault := (exec_tegraIvcWriteAdvance (checkWrite_eq_zero.mpr hwrite) (by decide) haddr).2 hnarrow
  refine ⟨⟨advanceTx highHandleWorld, hfault, by decide, by decide, rfl⟩, ?_⟩
  intro hcopied
  obtain ⟨result, s', hexec, hor⟩ := hcopied.write
  cases hexec
  rcases hor with ⟨hzero, -⟩ | ⟨-, -, htx, -⟩
  · exact absurd hzero (by decide)
  · exact wCount_succ_ne highHandleWorld.tx.wCount (congrArg IvcChannelHeader.wCount htx)

end NvidiaOot.Analysis
