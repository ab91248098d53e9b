import NvidiaOot.Model.Dce

/-!
# When a message arrives as it was sent

Of the three bounds, the length of the message, the size of the buffer and the size of the frame, one
variant of the read looks at the first only and the other at the second only, which it also writes to
the header; neither looks at the third.  So all is well just if they fit by themselves.
-/

namespace NvidiaOot.Analysis

open Library Program Model

/-! ## Sending -/

variable {x : DceExchange}

theorem toNat_eq_zero_of_not_pos {size : U64} (h : ¬ size > 0) : size.toNat = 0 := by
  have hle : size.toNat ≤ (0 : U64).toNat := by
    rw [gt_iff_lt, BitVec.lt_def, not_lt] at h
    exact h
  simpa using hle

section

variable (hnext : x.writeNext = none)

include hnext

theorem sent_frame : x.sent.frame =
      blit (putWord x.frame 0 (x.size.setWidth 32)) SIZEOF_DCE_IPC_HEADER x.size.toNat x.data := by
  unfold DceExchange.sent dceIpcSendMessage dceIpcWriteChannel
  simp only [hnext, if_true, dceIpcPayload]
  split
  · rfl
  · rename_i hsize
    rw [toNat_eq_zero_of_not_pos hsize, blit_zero]

theorem sent_inFrame_iff : DceIpcCall.InFrame x.sent x.frameSize ↔
      SIZEOF_DCE_IPC_HEADER + x.size.toNat ≤ x.frameSize.toNat := by
  unfold DceIpcCall.InFrame DceExchange.sent dceIpcSendMessage dceIpcWriteChannel
  simp only [hnext, if_true, dceIpcPayload]
  split
  · simp only [List.cons_append, List.nil_append, List.mem_cons, List.not_mem_nil, or_false,
      forall_eq_or_imp, forall_eq]
    omega
  · rename_i hsize
    simp [toNat_eq_zero_of_not_pos hsize]

theorem sent_ret_eq_zero : x.sent.ret = x.writeAdvance := by
  unfold DceExchange.sent dceIpcSendMessage dceIpcWriteChannel
  simp only [hnext]
  split
  · rfl
  · rfl

end

theorem sent_inFrame_of_error {err : ℤ} (hnext : x.writeNext = some err) :
    DceIpcCall.InFrame x.sent x.frameSize := by
  simp [DceIpcCall.InFrame, DceExchange.sent, dceIpcSendMessage, hnext]

/-! ## The frame that arrives -/

theorem getWord_arrived : getWord x.arrived 0 = x.length := by
  unfold DceExchange.arrived DceExchange.length
  cases hheader : x.header with
  | some length => simp
  | none =>
    simp only [Option.getD_none]
    cases hnext : x.writeNext with
    | some err => simp [DceExchange.sent, dceIpcSendMessage, hnext]
    | none =>
      rw [sent_frame hnext, getWord_blit (by decide), getWord_putWord, if_pos rfl]

theorem arrived_payload (hnext : x.writeNext = none) (hheader : x.header = none) {i : ℕ}
    (hi : i < x.size.toNat) : x.arrived (SIZEOF_DCE_IPC_HEADER + i) = x.data i := by
  unfold DceExchange.arrived
  simp only [hheader]
  rw [sent_frame hnext, blit, if_pos (by omega), Nat.add_sub_cancel_left]

/-! ## Reading -/

def readLength (x : DceExchange) : IvcFrameKind → ℕ
  | .iosysMap => x.bufferSize.toNat
  | .pointer => x.length.toNat

theorem setWidth_length_toNat (w : U32) : (w.setWidth 64).toNat = w.toNat := by
  rw [BitVec.toNat_setWidth, Nat.mod_eq_of_lt (by omega)]

section

variable (hnext : x.readNext = none)

include hnext

/-- The bytes behind the header are copied, as many as the variant takes for the length. -/
theorem readBy_copied (kind : IvcFrameKind) :
    (x.readBy kind).copied = slice x.arrived SIZEOF_DCE_IPC_HEADER (readLength x kind) := by
  unfold DceExchange.readBy dceIpcReadMessage dceIpcReadChannel
  cases kind with
  | iosysMap =>
    simp only [hnext, if_true, true_and, dceIpcPayload, readLength]
    split
    · exact slice_putWord (by decide) _ _
    · rename_i hsize
      rw [toNat_eq_zero_of_not_pos hsize]
      rfl
  | pointer =>
    simp only [hnext, if_true, true_and, dceIpcPayload, readLength, getWord_arrived]
    split
    · rw [setWidth_length_toNat]
    · rename_i hsize
      rw [← setWidth_length_toNat, toNat_eq_zero_of_not_pos hsize]
      rfl

theorem readBy_inFrame_iff (kind : IvcFrameKind) :
    DceIpcCall.InFrame (x.readBy kind) x.frameSize ↔
      SIZEOF_DCE_IPC_HEADER + readLength x kind ≤ x.frameSize.toNat := by
  unfold DceIpcCall.InFrame DceExchange.readBy dceIpcReadMessage dceIpcReadChannel
  cases kind with
  | iosysMap =>
    simp only [hnext, if_true, true_and, dceIpcPayload, readLength]
    split
    · simp only [List.cons_append, List.nil_append, List.mem_cons, List.not_mem_nil, or_false,
        forall_eq_or_imp, forall_eq]
      omega
    · rename_i hsize
      simp [toNat_eq_zero_of_not_pos hsize]
  | pointer =>
    simp only [hnext, if_true, true_and, dceIpcPayload, readLength, getWord_arrived]
    split
    · simp only [List.cons_append, List.nil_append, List.mem_cons, List.not_mem_nil, or_false,
        forall_eq_or_imp, forall_eq, setWidth_length_toNat]
      omega
    · rename_i hsize
      simp [← setWidth_length_toNat x.length, toNat_eq_zero_of_not_pos hsize]

theorem readBy_frame (kind : IvcFrameKind) : (x.readBy kind).frame = x.arrived ↔
      (kind = .iosysMap → x.length = x.bufferSize.setWidth 32) := by
  unfold DceExchange.readBy dceIpcReadMessage dceIpcReadChannel
  cases kind with
  | iosysMap =>
    simp only [hnext, if_true, true_and, true_implies]
    rw [← getWord_arrived, ← putWord_eq_self_iff]
    split
    · rfl
    · rfl
  | pointer =>
    simp only [hnext, if_true, true_and, reduceCtorEq, false_implies, iff_true]
    split
    · rfl
    · rfl

theorem same_iff : (x.readBy .iosysMap).copied = (x.readBy .pointer).copied ↔
      x.length.toNat = x.bufferSize.toNat := by
  rw [readBy_copied hnext, readBy_copied hnext]
  constructor
  · intro h
    have hlen := congrArg List.length h
    simp only [length_slice, readLength] at hlen
    exact hlen.symm
  · intro h
    simp only [readLength, h]

end

theorem readLength_eq (h : x.length.toNat = x.bufferSize.toNat) (kind : IvcFrameKind) :
    readLength x kind = x.bufferSize.toNat := by
  cases kind with
  | iosysMap => rfl
  | pointer => exact h

theorem readSound_iff (hnext : x.readNext = none) : x.ReadSound ↔ x.length.toNat = x.bufferSize.toNat ∧
      SIZEOF_DCE_IPC_HEADER + x.bufferSize.toNat ≤ x.frameSize.toNat := by
  constructor
  · intro h
    have hlength := (same_iff hnext).mp h.same
    have hframe := (readBy_inFrame_iff hnext x.reader).mp h.inFrame
    rw [readLength_eq hlength] at hframe
    exact ⟨hlength, hframe⟩
  · rintro ⟨hlength, hframe⟩
    have hread := readLength_eq hlength x.reader
    constructor
    · rw [DceExchange.read, readBy_copied hnext, length_slice, hread]
    · rw [DceExchange.read, readBy_inFrame_iff hnext, hread]
      exact hframe
    · rw [DceExchange.read, readBy_frame hnext]
      intro _
      apply BitVec.eq_of_toNat_eq
      rw [BitVec.toNat_setWidth, hlength, Nat.mod_eq_of_lt (by omega)]
    · exact (same_iff hnext).mpr hlength

theorem readSound_of_error {err : ℤ} (hnext : x.readNext = some err) : x.ReadSound := by
  constructor
  · simp [DceExchange.read, DceExchange.readBy, dceIpcReadMessage, hnext]
  · simp [DceIpcCall.InFrame, DceExchange.read, DceExchange.readBy, dceIpcReadMessage, hnext]
  · simp [DceExchange.read, DceExchange.readBy, dceIpcReadMessage, hnext]
  · simp [DceExchange.readBy, dceIpcReadMessage, hnext]

theorem copied_intact (hwrite : x.writeNext = none) (hheader : x.header = none)
    (hread : x.readNext = none) (hlength : x.length.toNat = x.bufferSize.toNat) {i : ℕ}
    (hi : i < min x.size.toNat x.bufferSize.toNat) : x.read.copied[i]? = some (x.data i) := by
  have hsize := hi.trans_le (min_le_left _ _)
  have hbuffer := hi.trans_le (min_le_right _ _)
  rw [DceExchange.read, readBy_copied hread, readLength_eq hlength, slice]
  simp [hbuffer, arrived_payload hwrite hheader hsize]

/-- **Messages.**  A message is sent in bounds, read in bounds and without a change of the frame, with
the bytes that were sent and the same in both variants, just if it fits the frame and has the size of
the buffer. -/
theorem dce_exchange_sound_iff (x : DceExchange) : x.Sound ↔ x.Fits := by
  constructor
  · intro h
    constructor
    · intro hnext hadvance
      rw [← sent_inFrame_iff hnext]
      apply h.send
      rw [sent_ret_eq_zero hnext, hadvance]
    · exact fun hnext => ((readSound_iff hnext).mp h.read).1
    · exact fun hnext => ((readSound_iff hnext).mp h.read).2
  · intro h
    constructor
    · intro hret
      cases hnext : x.writeNext with
      | some err => exact sent_inFrame_of_error hnext
      | none =>
        rw [sent_ret_eq_zero hnext] at hret
        rw [sent_inFrame_iff hnext]
        exact h.send hnext hret
    · cases hnext : x.readNext with
      | some err => exact readSound_of_error hnext
      | none => exact (readSound_iff hnext).mpr ⟨h.buffer hnext, h.frame hnext⟩
    · intro hwrite _ hheader hread _ i hi
      exact copied_intact hwrite hheader hread (h.buffer hread) hi

theorem processEventRead_not_inFrame (frame : ℕ → U8) (advance : ℤ) :
    ¬ DceIpcCall.InFrame (dceClientProcessEventRead .iosysMap frame advance)
      DCE_DISPRM_EVENT_NOTIFY_CMD_MAX_FSIZE := by
  intro h
  have hmem : (SIZEOF_DCE_IPC_HEADER, DCE_CLIENT_MAX_IPC_MSG_SIZE.toNat) ∈
      (dceClientProcessEventRead .iosysMap frame advance).accessed := by
    simp [dceClientProcessEventRead, dceIpcReadMessage, dceIpcReadChannel, dceIpcPayload,
      DCE_CLIENT_MAX_IPC_MSG_SIZE]
  exact absurd (h _ hmem) (by decide)

/-- An event of eight bytes, read by the worker into its buffer of 4096 bytes. -/
def dceEventExchange (kind : IvcFrameKind) : DceExchange where
  frameSize := DCE_DISPRM_EVENT_NOTIFY_CMD_MAX_FSIZE
  frame := fun _ => 0
  writer := kind
  writeNext := none
  data := fun _ => 1
  size := 8
  writeAdvance := 0
  header := none
  reader := kind
  readNext := none
  bufferSize := DCE_CLIENT_MAX_IPC_MSG_SIZE
  readAdvance := 0

theorem dce_event_not_sound : ¬ (dceEventExchange .iosysMap).Sound := by
  intro h
  exact processEventRead_not_inFrame _ _ h.read.inFrame

end NvidiaOot.Analysis
