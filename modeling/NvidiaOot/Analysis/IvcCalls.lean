import NvidiaOot.Library.RingCounter
import NvidiaOot.Model.Ivc

/-!
# What one IVC call does

Run without interference, each function of tegra-ivc.c has a closed form.  The
elementary accesses and the counter tests are computed (`exec_ivcCheckRead`,
`exec_ivcAdvanceTx`, …), and every data call is then put into one of three classes
(`DataEffect`): it changes no counter, it publishes the frame at `w_pos`, or it consumes
the frame at `r_pos`.  The system results need nothing else about the calls.
-/

namespace NvidiaOot.Analysis

open Library Program Model

variable {frame : U32} {r : ℤ} {ivc : Ivc} {v : U64}

variable {s s' : IvcWorld}

/-! ## Initialisation -/

theorem checkIvcParams_product {base1 base2 : U64} {nframes frameSize : U32}
    (h : checkIvcParams base1 base2 nframes frameSize = 0) : nframes.toNat * frameSize.toNat < 2 ^ 32 := by
  unfold checkIvcParams at h
  by_cases hprod : nframes.setWidth 64 * frameSize.setWidth 64 ≥ (0x100000000 : U64)
  · rw [if_pos hprod] at h
    exact absurd h (by decide)
  have hle : nframes.toNat * frameSize.toNat < 2 ^ 64 := by
    have := Nat.mul_lt_mul'' nframes.isLt frameSize.isLt
    omega
  have hlt := BitVec.not_le.mp hprod
  rw [BitVec.lt_def, BitVec.toNat_mul, BitVec.toNat_setWidth_of_le (by decide),
    BitVec.toNat_setWidth_of_le (by decide), Nat.mod_eq_of_lt hle] at hlt
  exact hlt

/-- A successful initialisation leaves both positions at the first frame, and the frame
area has a 32-bit size. -/
theorem initialised_facts (h : Initialised ivc) :
    ivc.wPos = 0 ∧ ivc.rPos = 0 ∧ ivc.nframes.toNat * ivc.frameSize.toNat < 2 ^ 32 := by
  obtain ⟨blank, rxBase, txBase, nframes, frameSize, peer, h⟩ := h
  unfold tegraIvcInit tegraIvcInitBody at h
  simp only at h
  split at h
  case isTrue hparams => exact absurd (Prod.mk.inj (Except.ok.inj h)).1 hparams
  case isFalse hparams =>
    have hprod := checkIvcParams_product (not_not.mp hparams)
    split at h
    · exact absurd (Prod.mk.inj (Except.ok.inj h)).1 (by decide)
    split at h
    · cases h
    split at h
    · exact absurd (Prod.mk.inj (Except.ok.inj h)).1 (by decide)
    split at h
    case isTrue hmap => exact absurd (Prod.mk.inj (Except.ok.inj h)).1 hmap
    case isFalse hmap =>
      cases h
      exact ⟨rfl, rfl, hprod⟩

/-! ## Elementary accesses -/

@[simp] theorem exec_readOnce (ch : Side) (f : Field) (s : IvcWorld) :
    (readOnce ch f).exec s = .ok ((s.header ch).get f, s) := rfl

@[simp] theorem exec_writeOnce (ch : Side) (f : Field) (v : U32) (s : IvcWorld) :
    (writeOnce ch f v).exec s = .ok ((), s.store ch f v) := rfl

@[simp] theorem exec_getIvc (s : IvcWorld) : getIvc.exec s = .ok (s.ivc, s) := rfl

@[simp] theorem exec_setWPos (v : U32) (s : IvcWorld) :
    (setWPos v).exec s = .ok ((), { s with ivc := { s.ivc with wPos := v } }) := rfl

@[simp] theorem exec_setRPos (v : U32) (s : IvcWorld) :
    (setRPos v).exec s = .ok ((), { s with ivc := { s.ivc with rPos := v } }) := rfl

@[simp] theorem exec_copyFromFrame (off len : ℕ) (s : IvcWorld) :
    (copyFromFrame off len).exec s = .ok (slice s.rxFrames off len, s) := rfl

@[simp] theorem exec_copyToFrame (off len : ℕ) (src : ℕ → U8) (s : IvcWorld) : (copyToFrame off len src).exec s =
      .ok ((), { s with txFrames := blit s.txFrames off len src }) := rfl

@[simp] theorem exec_notify (s : IvcWorld) : notify.exec s = .ok ((), { s with notified := s.notified + 1 }) := rfl

/-! ## Counter tests -/

def channelEmpty (n : U32) (h : IvcChannelHeader) : Bool :=
  h.wCount - h.rCount > n || h.wCount = h.rCount

def channelFull (n : U32) (h : IvcChannelHeader) : Bool := h.wCount - h.rCount ≥ n

theorem exec_ivcChannelEmpty (ch : Side) (s : IvcWorld) :
    (ivcChannelEmpty ch).exec s = .ok (channelEmpty s.ivc.nframes (s.header ch), s) := by
  unfold ivcChannelEmpty channelEmpty
  by_cases h : (s.header ch).wCount - (s.header ch).rCount > s.ivc.nframes
  · simp [Prog.exec_bind, Except.bind, IvcChannelHeader.get, h]
  · simp [Prog.exec_bind, Except.bind, IvcChannelHeader.get, h]

theorem exec_ivcChannelFull (ch : Side) (s : IvcWorld) :
    (ivcChannelFull ch).exec s = .ok (channelFull s.ivc.nframes (s.header ch), s) := by
  simp [ivcChannelFull, channelFull, Prog.exec_bind, Except.bind, IvcChannelHeader.get]

theorem exec_ivcChannelAvailCount (ch : Side) (s : IvcWorld) : (ivcChannelAvailCount ch).exec s =
      .ok ((s.header ch).wCount - (s.header ch).rCount, s) := by
  simp [ivcChannelAvailCount, Prog.exec_bind, Except.bind, IvcChannelHeader.get]

def checkRead (s : IvcWorld) : ℤ :=
  if s.tx.state ≠ ivcStateEstablished then -eCONNRESET
  else if channelEmpty s.ivc.nframes s.rx then -eNOMEM else 0

def checkWrite (s : IvcWorld) : ℤ :=
  if s.tx.state ≠ ivcStateEstablished then -eCONNRESET
  else if channelFull s.ivc.nframes s.tx then -eNOMEM else 0

theorem exec_ivcCheckRead (s : IvcWorld) : ivcCheckRead.exec s = .ok (checkRead s, s) := by
  unfold ivcCheckRead checkRead
  by_cases hst : s.tx.state = ivcStateEstablished
  · cases he : channelEmpty s.ivc.nframes s.rx
    all_goals simp [Prog.exec_bind, Except.bind, exec_ivcChannelEmpty, IvcWorld.header,
      IvcChannelHeader.get, hst, he]
  · simp [Prog.exec_bind, Except.bind, IvcWorld.header, IvcChannelHeader.get, hst]

theorem exec_ivcCheckWrite (s : IvcWorld) : ivcCheckWrite.exec s = .ok (checkWrite s, s) := by
  unfold ivcCheckWrite checkWrite
  by_cases hst : s.tx.state = ivcStateEstablished
  · cases he : channelFull s.ivc.nframes s.tx
    all_goals simp [Prog.exec_bind, Except.bind, exec_ivcChannelFull, IvcWorld.header,
      IvcChannelHeader.get, hst, he]
  · simp [Prog.exec_bind, Except.bind, IvcWorld.header, IvcChannelHeader.get, hst]

/-- The endpoint may take a frame: it is established and its receive channel not empty. -/
def CanRead (s : IvcWorld) : Prop :=
  s.tx.state = ivcStateEstablished ∧ channelEmpty s.ivc.nframes s.rx = false

/-- The endpoint may fill a frame: it is established and its transmit channel not full. -/
def CanWrite (s : IvcWorld) : Prop :=
  s.tx.state = ivcStateEstablished ∧ channelFull s.ivc.nframes s.tx = false

theorem checkRead_eq_zero : checkRead s = 0 ↔ CanRead s := by
  unfold checkRead CanRead
  by_cases hst : s.tx.state = ivcStateEstablished
  · cases channelEmpty s.ivc.nframes s.rx <;> simp [hst, eNOMEM]
  · simp [hst, eCONNRESET]

theorem checkWrite_eq_zero : checkWrite s = 0 ↔ CanWrite s := by
  unfold checkWrite CanWrite
  by_cases hst : s.tx.state = ivcStateEstablished
  · cases channelFull s.ivc.nframes s.tx <;> simp [hst, eNOMEM]
  · simp [hst, eCONNRESET]

/-! ## Advancing -/

def advanceTx (s : IvcWorld) : IvcWorld :=
  { s with
    tx := { s.tx with wCount := s.tx.wCount + 1 }
    ivc := { s.ivc with wPos := ringNext s.ivc.nframes s.ivc.wPos } }

def advanceRx (s : IvcWorld) : IvcWorld :=
  { s with
    rx := { s.rx with rCount := s.rx.rCount + 1 }
    ivc := { s.ivc with rPos := ringNext s.ivc.nframes s.ivc.rPos } }

theorem exec_ivcAdvanceTx (s : IvcWorld) : ivcAdvanceTx.exec s = .ok ((), advanceTx s) := by
  unfold ivcAdvanceTx advanceTx ringNext
  by_cases h : s.ivc.wPos = s.ivc.nframes - 1#32
  all_goals simp [Prog.exec_bind, Except.bind, IvcWorld.header, IvcChannelHeader.get,
    IvcWorld.store, IvcChannelHeader.set, h]

theorem exec_ivcAdvanceRx (s : IvcWorld) : ivcAdvanceRx.exec s = .ok ((), advanceRx s) := by
  unfold ivcAdvanceRx advanceRx ringNext
  by_cases h : s.ivc.rPos = s.ivc.nframes - 1#32
  all_goals simp [Prog.exec_bind, Except.bind, IvcWorld.header, IvcChannelHeader.get,
    IvcWorld.store, IvcChannelHeader.set, h]

/-! ## Frame addresses -/

theorem toNat_frameOffset {n fs : U32} (harea : n.toNat * fs.toNat < 2 ^ 32)
    (hfs : ivc.frameSize = fs) (hframe : frame.toNat < n.toNat) :
    frameOffset ivc frame = fs.toNat * frame.toNat := by
  have hle : fs.toNat * frame.toNat ≤ n.toNat * fs.toNat := by
    rw [Nat.mul_comm n.toNat]
    exact Nat.mul_le_mul_left _ hframe.le
  rw [frameOffset, hfs, BitVec.toNat_mul, Nat.mod_eq_of_lt (by omega)]

theorem frameOffset_add_le {n fs : U32} (harea : n.toNat * fs.toNat < 2 ^ 32) (hfs : ivc.frameSize = fs)
    (hframe : frame.toNat < n.toNat) : frameOffset ivc frame + fs.toNat ≤ n.toNat * fs.toNat := by
  rw [toNat_frameOffset harea hfs hframe]
  calc fs.toNat * frame.toNat + fs.toNat = fs.toNat * (frame.toNat + 1) := by ring
    _ ≤ fs.toNat * n.toNat := Nat.mul_le_mul_left _ hframe
    _ = n.toNat * fs.toNat := Nat.mul_comm _ _

theorem exec_ivcFramePointer_eq_ok {x : ℕ × IvcWorld} : (ivcFramePointer frame).exec s = .ok x ↔
      frame < s.ivc.nframes ∧ x = (frameOffset s.ivc frame, s) := by
  unfold ivcFramePointer
  by_cases h : s.ivc.nframes ≤ frame
  · have hlt : ¬ frame < s.ivc.nframes := BitVec.not_lt.mpr h
    simp [Prog.exec_bind, Except.bind, h, hlt]
  · have hlt : frame < s.ivc.nframes := BitVec.not_le.mp h
    simp [Prog.exec_bind, Except.bind, h, hlt, frameOffset, eq_comm]

theorem isU64AdditionSafe_iff {a b : U64} : isU64AdditionSafe a b = true ↔ a.toNat + b.toNat < 2 ^ 64 := by
  have hle : a ≤ BitVec.allOnes 64 := by
    rw [BitVec.le_def, BitVec.toNat_allOnes]
    omega
  unfold isU64AdditionSafe
  rw [decide_eq_true_eq, ge_iff_le, BitVec.le_def, BitVec.toNat_sub_of_le hle, BitVec.toNat_allOnes]
  omega

theorem exec_safeAddU64_eq_ok {a b : U64} (h : (safeAddU64 a b).exec s = .ok (v, s')) : s' = s := by
  unfold safeAddU64 at h
  split at h <;> cases h
  rfl

theorem exec_safeMultU32U32U64_eq_ok {a b : U32} (h : (safeMultU32U32U64 a b).exec s = .ok (v, s')) : s' = s := by
  unfold safeMultU32U32U64 at h
  split at h <;> cases h
  rfl

theorem exec_ivcFrameHandle_eq_ok {handle : U64}
    (h : (ivcFrameHandle handle frame).exec s = .ok (v, s')) : s' = s := by
  unfold ivcFrameHandle at h
  rw [Prog.exec_bind_of_ok (exec_getIvc s)] at h
  split at h
  · cases h
  split at h
  · cases h
  obtain ⟨base, s₁, hbase, h⟩ := Prog.exec_bind_eq_ok.mp h
  obtain ⟨off, s₂, hoff, h⟩ := Prog.exec_bind_eq_ok.mp h
  rw [exec_safeAddU64_eq_ok h, exec_safeMultU32U32U64_eq_ok hoff, exec_safeAddU64_eq_ok hbase]

/-- The cache maintenance of a frame changes nothing when its address can be computed. -/
theorem exec_ivcInvalidateFrame_eq_ok {handle : U64} {offset : U64} {u : Unit}
    (h : (ivcInvalidateFrame handle frame offset).exec s = .ok (u, s')) : s' = s := by
  unfold ivcInvalidateFrame at h
  rw [Prog.exec_bind_of_ok (exec_getIvc s)] at h
  split at h
  · cases h
    rfl
  obtain ⟨p, s₁, hp, h⟩ := Prog.exec_bind_eq_ok.mp h
  obtain ⟨q, s₂, hq, h⟩ := Prog.exec_bind_eq_ok.mp h
  cases h
  rw [exec_safeAddU64_eq_ok hq, exec_ivcFrameHandle_eq_ok hp]

/-- The notification test notifies exactly when the counters differ by the given count. -/
theorem exec_notifyIfAvailCount (ch : Side) (c : U32) (s : IvcWorld) :
    (notifyIfAvailCount ch c).exec s = .ok ((), { s with
      notified := if (s.header ch).wCount - (s.header ch).rCount = c then s.notified + 1
        else s.notified }) := by
  unfold notifyIfAvailCount
  rw [Prog.exec_bind_of_ok (exec_ivcChannelAvailCount ch s)]
  by_cases h : (s.header ch).wCount - (s.header ch).rCount = c
  · rw [if_pos h, if_pos h, exec_notify]
  · rw [if_neg h, if_neg h, Prog.exec_pure]

/-! ## The three classes of data calls -/

/-- What a data call does to the state: nothing, fill the next frame, publish the next
frame after filling it, or consume a frame. -/
inductive DataEffect (s : IvcWorld) : IvcWorld → Prop where
  | quiet (k : ℕ) : DataEffect s { s with notified := k }
  | fill (m : ℕ → U8) (k : ℕ) (h : CanWrite s)
      (hm : AgreeOutside s.txFrames m (writeOffset s) s.ivc.frameSize.toNat) :
      DataEffect s { s with txFrames := m, notified := k }
  | publish (m : ℕ → U8) (k : ℕ) (h : CanWrite s)
      (hm : AgreeOutside s.txFrames m (writeOffset s) s.ivc.frameSize.toNat) :
      DataEffect s { advanceTx s with txFrames := m, notified := k }
  | consume (k : ℕ) (h : CanRead s) : DataEffect s { advanceRx s with notified := k }

/-- The bytes that a receive call delivered come from the frame at `r_pos`. -/
def Delivered (s : IvcWorld) (off : ℕ) (data : List U8) : Prop :=
  data = [] ∨ (CanRead s ∧ ∃ len, off + len ≤ s.ivc.frameSize.toNat ∧
    data = slice s.rxFrames (readOffset s + off) len)

theorem DataEffect.refl (s : IvcWorld) : DataEffect s s := .quiet s.notified

theorem DataEffect.sizes (h : DataEffect s s') :
    s'.ivc.nframes = s.ivc.nframes ∧ s'.ivc.frameSize = s.ivc.frameSize := by
  cases h <;> exact ⟨rfl, rfl⟩

/-! ### Receiving -/

section

open Prog (Returns)

variable {α : Type} {Q : α → IvcWorld → Prop} {x : ℤ → α} {p : IvcProg α}

theorem returns_ivcInvalidateFrame {handle : U64} {offset : U64} {Q : Unit → IvcWorld → Prop} (h : Q () s) :
    Returns (ivcInvalidateFrame handle frame offset) s Q := by
  intro u s' hu
  rw [exec_ivcInvalidateFrame_eq_ok hu]
  exact h

theorem returns_ivcFramePointer {Q : ℕ → IvcWorld → Prop} (h : Q (frameOffset s.ivc frame) s) :
    Returns (ivcFramePointer frame) s Q := by
  intro p s' hp
  cases (exec_ivcFramePointer_eq_ok.mp hp).2
  exact h

theorem returns_ifReadable (h : Q (x (checkRead s)) s) (h' : CanRead s → Returns p s Q) :
    Returns (ivcCheckRead >>= fun r => if r ≠ 0 then pure (x r) else p) s Q := by
  refine .bind (.of_ok (exec_ivcCheckRead s) ?_)
  exact .ite (fun _ => .of_ok rfl h) fun hcheck => h' (checkRead_eq_zero.mp (not_not.mp hcheck))

theorem returns_ifWritable (h : Q (x (checkWrite s)) s) (h' : CanWrite s → Returns p s Q) :
    Returns (ivcCheckWrite >>= fun r => if r ≠ 0 then pure (x r) else p) s Q := by
  refine .bind (.of_ok (exec_ivcCheckWrite s) ?_)
  exact .ite (fun _ => .of_ok rfl h) fun hcheck => h' (checkWrite_eq_zero.mp (not_not.mp hcheck))

theorem returns_advanceRx {c : U32} {a : α} (h : ∀ k, Q a { advanceRx s with notified := k }) :
    Returns (do ivcAdvanceRx; notifyIfAvailCount .rx c; return a) s Q :=
  .bind (.of_ok (exec_ivcAdvanceRx s) (.bind (.of_ok (exec_notifyIfAvailCount .rx c _) (.of_ok rfl (h _)))))

theorem returns_advanceTx {a : α} (h : ∀ k, Q a { advanceTx s with notified := k }) :
    Returns (do ivcAdvanceTx; notifyIfAvailCount .tx 1; return a) s Q :=
  .bind (.of_ok (exec_ivcAdvanceTx s) (.bind (.of_ok (exec_notifyIfAvailCount .tx 1 _) (.of_ok rfl (h _)))))

theorem ivcReadFrame_effect {buf : CopyBuffer} {maxRead : U64} :
    Returns (ivcReadFrame buf maxRead) s fun r s' => DataEffect s s' ∧ Delivered s 0 r.2 := by
  unfold ivcReadFrame
  refine .bind (.of_ok (exec_getIvc s) ?_)
  refine .ite (fun _ => .of_ok rfl ⟨.refl s, .inl rfl⟩) fun hsize => ?_
  have hlen : 0 + maxRead.toNat ≤ s.ivc.frameSize.toNat := by bv_omega
  refine returns_ifReadable ⟨.refl s, .inl rfl⟩ fun hread => ?_
  refine .bind (returns_ivcInvalidateFrame (.bind (returns_ivcFramePointer (.bind ?_))))
  intro bytes s₁ hcopy
  refine .ite (fun hfault => ?_) fun _ => ?_
  · subst hfault
    cases hcopy
    exact .of_ok rfl ⟨.refl _, .inl rfl⟩
  · cases buf with
    | none => cases hcopy
    | kernel | user =>
      cases hcopy
      exact returns_advanceRx fun _ => ⟨.consume _ hread, .inr ⟨hread, _, hlen, rfl⟩⟩

theorem tegraIvcReadPeek_effect {off count : U64} :
    Returns (tegraIvcReadPeek off count) s fun r s' => s' = s ∧ Delivered s off.toNat r.2 := by
  unfold tegraIvcReadPeek
  refine .ite (fun _ => .of_ok rfl ⟨rfl, .inl rfl⟩) fun hsum => ?_
  refine .bind (.of_ok (exec_getIvc s) ?_)
  refine .ite (fun _ => .of_ok rfl ⟨rfl, .inl rfl⟩) fun hsize => ?_
  have hlen : off.toNat + count.toNat ≤ s.ivc.frameSize.toNat := by
    have := isU64AdditionSafe_iff.mp (by simpa using hsum)
    bv_omega
  refine returns_ifReadable ⟨rfl, .inl rfl⟩ fun hread => ?_
  refine .bind (returns_ivcInvalidateFrame (.bind (returns_ivcFramePointer ?_)))
  exact .of_ok rfl ⟨rfl, .inr ⟨hread, _, hlen, rfl⟩⟩

theorem tegraIvcReadGetNextFrame_effect :
    Returns tegraIvcReadGetNextFrame s fun r s' => s' = s ∧ ∀ p, r = .ok p → CanRead s ∧ p = readOffset s := by
  unfold tegraIvcReadGetNextFrame
  refine returns_ifReadable ⟨rfl, fun p hp => by cases hp⟩ fun hread => ?_
  refine .bind (.of_ok (exec_getIvc s) ?_)
  refine .bind (returns_ivcInvalidateFrame (.bind (returns_ivcFramePointer ?_)))
  refine .of_ok rfl ⟨rfl, fun p hp => ⟨hread, ?_⟩⟩
  cases hp
  rfl

theorem tegraIvcReadAdvance_effect : Returns tegraIvcReadAdvance s fun _ s' => DataEffect s s' := by
  unfold tegraIvcReadAdvance
  refine returns_ifReadable (.refl s) fun hread => ?_
  refine .bind (.of_ok (exec_getIvc s) ?_)
  -- the three range tests return without a change
  refine .ite (fun _ => .of_ok rfl (.refl s)) fun _ => ?_
  refine .ite (fun _ => .of_ok rfl (.refl s)) fun _ => ?_
  refine .ite (fun _ => .of_ok rfl (.refl s)) fun _ => ?_
  exact returns_advanceRx fun _ => .consume _ hread

/-! ### Transmitting -/

theorem agreeOutside_writeFrame (m : ℕ → U8) (o : ℕ) {len size : ℕ} (hsize : size ≤ len) (contents : ℕ → U8) :
    AgreeOutside m (blit (blit m o size contents) (o + size) (len - size) fun _ => 0) o len :=
  ((AgreeOutside.refl m o len).blit le_rfl (by omega) _).blit (by omega) (by omega) _

theorem ivcWriteFrame_effect {buf : CopyBuffer} {contents : ℕ → U8} {size : U64} :
    Returns (ivcWriteFrame buf contents size) s fun _ s' => DataEffect s s' := by
  unfold ivcWriteFrame
  refine .bind (.of_ok (exec_getIvc s) ?_)
  refine .ite (fun _ => .of_ok rfl (.refl s)) fun hsize => ?_
  have hlen : size.toNat ≤ s.ivc.frameSize.toNat := by bv_omega
  refine returns_ifWritable (.refl s) fun hwrite => ?_
  refine .bind (returns_ivcFramePointer (.bind ?_))
  intro u s₁ hcopy
  refine .ite (fun hfault => ?_) fun _ => ?_
  · subst hfault
    cases hcopy
    exact .of_ok rfl (.fill _ s.notified hwrite ((AgreeOutside.refl _ _ _).blit le_rfl (by omega) _))
  · cases buf with
    | none => cases hcopy
    | kernel | user =>
      cases hcopy
      refine .bind (.of_ok (exec_copyToFrame _ _ _ _) (.bind (returns_ivcInvalidateFrame ?_)))
      exact returns_advanceTx fun _ => .publish _ _ hwrite (agreeOutside_writeFrame _ _ hlen _)

theorem tegraIvcWritePoke_effect {contents : ℕ → U8} {off count : U64} :
    Returns (tegraIvcWritePoke contents off count) s fun _ s' => DataEffect s s' := by
  unfold tegraIvcWritePoke
  refine .ite (fun _ => .of_ok rfl (.refl s)) fun hsum => ?_
  refine .ite (fun _ => .of_ok rfl (.refl s)) fun _ => ?_
  refine .bind (.of_ok (exec_getIvc s) ?_)
  refine .ite (fun _ => .of_ok rfl (.refl s)) fun hsize => ?_
  have hlen : off.toNat + count.toNat ≤ s.ivc.frameSize.toNat := by
    have := isU64AdditionSafe_iff.mp (by simpa using hsum)
    bv_omega
  refine returns_ifWritable (.refl s) fun hwrite => ?_
  refine .bind (returns_ivcFramePointer (.of_ok rfl (.fill _ s.notified hwrite ?_)))
  exact (AgreeOutside.refl _ _ _).blit (by unfold writeOffset; omega) (by unfold writeOffset; omega) _

theorem tegraIvcWriteGetNextFrame_effect :
    Returns tegraIvcWriteGetNextFrame s fun r s' => s' = s ∧ ∀ p, r = .ok p → CanWrite s ∧ p = writeOffset s := by
  unfold tegraIvcWriteGetNextFrame
  refine returns_ifWritable ⟨rfl, fun p hp => by cases hp⟩ fun hwrite => ?_
  refine .bind (.of_ok (exec_getIvc s) (.bind (returns_ivcFramePointer ?_)))
  refine .of_ok rfl ⟨rfl, fun p hp => ⟨hwrite, ?_⟩⟩
  cases hp
  rfl

theorem tegraIvcWriteAdvance_effect : Returns tegraIvcWriteAdvance s fun _ s' => DataEffect s s' := by
  unfold tegraIvcWriteAdvance
  refine returns_ifWritable (.refl s) fun hwrite => ?_
  refine .bind (.of_ok (exec_getIvc s) (.bind (returns_ivcInvalidateFrame ?_)))
  refine .bind (.of_ok (exec_ivcAdvanceTx _) ?_)
  -- the counter is already advanced when the handle fails its test
  refine .ite (fun _ => .of_ok rfl (.publish s.txFrames s.notified hwrite (.refl _ _ _))) fun _ => ?_
  refine .bind (.of_ok (exec_notifyIfAvailCount .tx 1 _) (.of_ok rfl ?_))
  exact .publish s.txFrames _ hwrite (.refl _ _ _)

end

/-! ### All data calls -/

/-- **Every data call is quiet, fills, publishes or consumes**, and the bytes that it
delivers come from the frame at `r_pos`. -/
theorem code_effect {c : IvcCall} {r : IvcResult} (hc : c.isData = true)
    (h : c.code.exec s = .ok (r, s')) : DataEffect s s' ∧ Delivered s c.offset r.data := by
  cases c with
  | read maxRead | readUser faults maxRead =>
    obtain ⟨x, s₁, hx, h⟩ := Prog.exec_bind_eq_ok.mp h
    cases h
    exact ivcReadFrame_effect x _ hx
  | readPeek off count =>
    obtain ⟨x, s₁, hx, h⟩ := Prog.exec_bind_eq_ok.mp h
    cases h
    obtain ⟨rfl, hdata⟩ := tegraIvcReadPeek_effect x _ hx
    exact ⟨.refl _, hdata⟩
  | readGetNextFrame =>
    obtain ⟨x, s₁, hx, h⟩ := Prog.exec_bind_eq_ok.mp h
    cases h
    obtain ⟨rfl, -⟩ := tegraIvcReadGetNextFrame_effect _ _ hx
    exact ⟨.refl _, .inl rfl⟩
  | readAdvance =>
    obtain ⟨x, s₁, hx, h⟩ := Prog.exec_bind_eq_ok.mp h
    cases h
    exact ⟨tegraIvcReadAdvance_effect _ _ hx, .inl rfl⟩
  | write contents size | writeUser faults contents size =>
    obtain ⟨x, s₁, hx, h⟩ := Prog.exec_bind_eq_ok.mp h
    cases h
    exact ⟨ivcWriteFrame_effect _ _ hx, .inl rfl⟩
  | writePoke contents off count =>
    obtain ⟨x, s₁, hx, h⟩ := Prog.exec_bind_eq_ok.mp h
    cases h
    exact ⟨tegraIvcWritePoke_effect _ _ hx, .inl rfl⟩
  | writeGetNextFrame =>
    obtain ⟨x, s₁, hx, h⟩ := Prog.exec_bind_eq_ok.mp h
    cases h
    obtain ⟨rfl, -⟩ := tegraIvcWriteGetNextFrame_effect _ _ hx
    exact ⟨.refl _, .inl rfl⟩
  | writeAdvance =>
    obtain ⟨x, s₁, hx, h⟩ := Prog.exec_bind_eq_ok.mp h
    cases h
    exact ⟨tegraIvcWriteAdvance_effect _ _ hx, .inl rfl⟩
  | channelReset | channelNotified | channelSync => cases hc

theorem readGetNextFrame_pointer {p : ℕ} (h : IvcCall.readGetNextFrame.code.exec s = .ok (.frame (.ok p), s')) :
    s' = s ∧ CanRead s ∧ p = readOffset s := by
  obtain ⟨x, s₁, hx, h⟩ := Prog.exec_bind_eq_ok.mp h
  cases h
  obtain ⟨rfl, hp⟩ := tegraIvcReadGetNextFrame_effect _ _ hx
  exact ⟨rfl, hp p rfl⟩

theorem writeGetNextFrame_pointer {p : ℕ} (h : IvcCall.writeGetNextFrame.code.exec s = .ok (.frame (.ok p), s')) :
    s' = s ∧ CanWrite s ∧ p = writeOffset s := by
  obtain ⟨x, s₁, hx, h⟩ := Prog.exec_bind_eq_ok.mp h
  cases h
  obtain ⟨rfl, hp⟩ := tegraIvcWriteGetNextFrame_effect _ _ hx
  exact ⟨rfl, hp p rfl⟩

end NvidiaOot.Analysis
