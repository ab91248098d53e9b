import NvidiaOot.Library.Wakeup
import NvidiaOot.Analysis.IvcCalls

/-!
# No notification of a channel is lost

The writer waits for free slots and the reader for published frames.  Each is the
producer for the other, so the invariant `NoLostWakeup` is used twice: with the number of
outstanding frames, and with the number of free slots.  `wakeInv_step` is the step lemma
for the eight steps of the two calls.
-/

namespace NvidiaOot.Analysis

open Library Program Model

variable {buf : CopyBuffer} {args : WriteArgs} {r : ℤ}

/-! ## The steps -/

variable {s s' : IvcWorld}

theorem exec_writeFrameCopy_eq_ok {contents : ℕ → U8} {size : U64}
    (h : (writeFrameCopy buf contents size).exec s = .ok (r, s')) : ∃ m, s' = { s with txFrames := m } := by
  unfold writeFrameCopy at h
  rw [Prog.exec_bind_of_ok (exec_getIvc s)] at h
  obtain ⟨p, s₁, hp, h⟩ := Prog.exec_bind_eq_ok.mp h
  cases (exec_ivcFramePointer_eq_ok.mp hp).2
  obtain ⟨u, s₂, hcopy, h⟩ := Prog.exec_bind_eq_ok.mp h
  cases buf with
  | none => cases hcopy
  | kernel | user =>
    cases hcopy
    split at h
    · cases h
      exact ⟨_, rfl⟩
    rw [Prog.exec_bind_of_ok (exec_copyToFrame _ _ _ _)] at h
    obtain ⟨u', s₃, hflush, h⟩ := Prog.exec_bind_eq_ok.mp h
    obtain rfl := exec_ivcInvalidateFrame_eq_ok hflush
    cases h
    exact ⟨_, rfl⟩

theorem exec_readFrameCopy_eq_ok {maxRead : U64} {r : ℤ × List U8}
    (h : (readFrameCopy buf maxRead).exec s = .ok (r, s')) : s' = s := by
  unfold readFrameCopy at h
  rw [Prog.exec_bind_of_ok (exec_getIvc s)] at h
  obtain ⟨u, s₁, hinv, h⟩ := Prog.exec_bind_eq_ok.mp h
  obtain rfl := exec_ivcInvalidateFrame_eq_ok hinv
  obtain ⟨p, s₂, hp, h⟩ := Prog.exec_bind_eq_ok.mp h
  cases (exec_ivcFramePointer_eq_ok.mp hp).2
  obtain ⟨data, s₃, hcopy, h⟩ := Prog.exec_bind_eq_ok.mp h
  cases buf with
  | none => cases hcopy
  | kernel | user =>
    cases hcopy
    split at h <;> cases h <;> rfl

/-! ## The invariant -/

/-- The number of frames published and not yet consumed. -/
def outstanding (s : WakeState) : ℕ := (s.channel.wCount - s.channel.rCount).toNat

/-- A call that passed its check and has not yet advanced its counter. -/
def Phase.Granted {α : Type} : Phase α → Prop
  | .checked _ | .copied => True
  | .idle | .stored => False

structure WakeInv (n : U32) (s : WakeState) : Prop where
  nframes : ∀ e, (s.ends e).ivc.nframes = n
  established : ∀ e, (s.ends e).header.state = ivcStateEstablished
  fill : outstanding s ≤ n.toNat
  freeSlot : Phase.Granted s.writer → outstanding s < n.toNat
  unreadFrame : Phase.Granted s.reader → 0 < outstanding s
  sawEmpty_idle : s.sawEmpty ≠ none → s.reader = .idle
  sawFull_idle : s.sawFull ≠ none → s.writer = .idle
  empty : NoLostWakeup (outstanding s) (s.ends .a).notified (s.writer = .stored) s.sawEmpty
  full : NoLostWakeup (n.toNat - outstanding s) (s.ends .b).notified (s.reader = .stored)
    s.sawFull

theorem wakeInv_start {n : U32} {s : WakeState} (h : WakeStart n s) : WakeInv n s where
  nframes := h.nframes_eq
  established := h.established
  fill := h.fill
  freeSlot := by
    rw [h.writer]
    exact False.elim
  unreadFrame := by
    rw [h.reader]
    exact False.elim
  sawEmpty_idle := fun _ => h.reader
  sawFull_idle := fun _ => h.writer
  empty := h.sawEmpty ▸ .of_none
  full := h.sawFull ▸ .of_none

variable {n : U32} {w w' : WakeState}

theorem wakeChannelFull_iff : channelFull n w.channel = true ↔ n.toNat - outstanding w = 0 := by
  rw [channelFull, decide_eq_true_eq, ge_iff_le, BitVec.le_def, outstanding]
  omega

section

variable (h : WakeInv n w)

include h

theorem WakeInv.channelEmpty_iff : channelEmpty n w.channel = true ↔ outstanding w = 0 := by
  have hfill : w.channel.wCount - w.channel.rCount ≤ n := h.fill
  have hle : ¬ w.channel.wCount - w.channel.rCount > n := BitVec.not_lt.mpr hfill
  rw [channelEmpty, Bool.or_eq_true, decide_eq_true_eq, decide_eq_true_eq, or_iff_right hle, outstanding]
  constructor
  · intro heq
    rw [heq, sub_self]
    exact BitVec.toNat_zero
  · intro hzero
    exact sub_eq_zero.mp (BitVec.eq_of_toNat_eq hzero)

theorem WakeInv.checkWrite_eq :
    checkWrite (w.ends.view .a) = if n.toNat - outstanding w = 0 then -eNOMEM else 0 := by
  have hstate : (w.ends.view .a).tx.state = ivcStateEstablished := h.established .a
  have hn : (w.ends.view .a).ivc.nframes = n := h.nframes .a
  rw [checkWrite, if_neg (not_not.mpr hstate), hn]
  exact if_congr wakeChannelFull_iff rfl rfl

theorem WakeInv.checkRead_eq :
    checkRead (w.ends.view .b) = if outstanding w = 0 then -eNOMEM else 0 := by
  have hstate : (w.ends.view .b).tx.state = ivcStateEstablished := h.established .b
  have hn : (w.ends.view .b).ivc.nframes = n := h.nframes .b
  rw [checkRead, if_neg (not_not.mpr hstate), hn]
  exact if_congr h.channelEmpty_iff rfl rfl

theorem WakeInv.sawFull_eq_none (hphase : w.writer ≠ .idle) : w.sawFull = none := by
  by_contra hne
  exact hphase (h.sawFull_idle hne)

theorem WakeInv.sawEmpty_eq_none (hphase : w.reader ≠ .idle) : w.sawEmpty = none := by
  by_contra hne
  exact hphase (h.sawEmpty_idle hne)

/-! ## The steps of the writer -/

theorem WakeInv.writerCheck (hidle : w.writer = .idle)
    (hstep : w.writerCheck args = some w') : WakeInv n w' := by
  unfold WakeState.writerCheck at hstep
  split at hstep
  · cases hstep
    exact h
  rw [exec_of_ok (exec_ivcCheckWrite _), Option.map_some] at hstep
  cases hstep
  have hwaiting : NoLostWakeup (outstanding w) (w.ends .a).notified False w.sawEmpty :=
    h.empty.idle (by simp [hidle])
  have hcheck :=
    @NoLostWakeup.check (n.toNat - outstanding w) (w.ends .b).notified (w.reader = .stored)
  rw [put_view, h.checkWrite_eq]
  by_cases hfull : n.toNat - outstanding w = 0
  · rw [if_pos hfull] at hcheck
    simp only [if_pos hfull]
    exact { h with
      freeSlot := False.elim
      sawFull_idle := fun _ => rfl
      empty := hwaiting.idle id
      full := hcheck }
  simp only [if_neg hfull]
  exact { h with
    freeSlot := fun _ => by show outstanding w < _; omega
    sawFull_idle := fun hne => absurd rfl hne
    empty := hwaiting.idle id
    full := .of_none }

theorem WakeInv.writerCopy (hstep : wakeStep w .writerCopy = some w') : WakeInv n w' := by
  simp only [wakeStep] at hstep
  split at hstep
  case h_2 => cases hstep
  case h_1 args hphase =>
    obtain ⟨⟨r, ends⟩, hexec, rfl⟩ := Option.map_eq_some_iff.mp hstep
    obtain ⟨s', hx, rfl⟩ := exec_eq_some hexec
    obtain ⟨m, rfl⟩ := exec_writeFrameCopy_eq_ok hx
    have hnone := h.sawFull_eq_none (by simp [hphase])
    exact {
      nframes := fun e => by cases e; exacts [h.nframes .a, h.nframes .b]
      established := fun e => by cases e; exacts [h.established .a, h.established .b]
      fill := h.fill
      freeSlot := fun _ => h.freeSlot (by rw [hphase]; trivial)
      unreadFrame := h.unreadFrame
      sawEmpty_idle := h.sawEmpty_idle
      sawFull_idle := fun hne => absurd hnone hne
      empty := h.empty.idle (by simp [hphase])
      full := h.full }

/-- The store of the writer's counter: one more frame is outstanding and the decision is
still to come. -/
theorem WakeInv.writerAdvance (hstep : wakeStep w .writerAdvance = some w') : WakeInv n w' := by
  simp only [wakeStep] at hstep
  split at hstep
  case h_2 => cases hstep
  case h_1 hphase =>
    rw [exec_of_ok (exec_ivcAdvanceTx _), Option.map_some] at hstep
    have hw' := Option.some.inj hstep
    have hslot : outstanding w < n.toNat := h.freeSlot (by rw [hphase]; trivial)
    have hnone := h.sawFull_eq_none (by simp [hphase])
    have hout : outstanding w' = outstanding w + 1 := by
      rw [← hw']
      show (w.channel.wCount + 1 - w.channel.rCount).toNat = _
      rw [add_sub_right_comm]
      exact toNat_succ_of_lt (n := n) hslot
    have hempty : NoLostWakeup (outstanding w + 1) (w.ends .a).notified
        (w'.writer = .stored) w.sawEmpty :=
      h.empty.produce (by simp [hphase]) (by rw [← hw'])
    subst hw'
    exact {
      nframes := fun e => by cases e; exacts [h.nframes .a, h.nframes .b]
      established := fun e => by cases e; exacts [h.established .a, h.established .b]
      fill := by rw [hout]; exact hslot
      freeSlot := False.elim
      unreadFrame := fun _ => by rw [hout]; exact Nat.succ_pos _
      sawEmpty_idle := h.sawEmpty_idle
      sawFull_idle := fun hne => absurd hnone hne
      empty := by rw [hout]; exact hempty
      full := by simp only [hnone]; exact .of_none }

theorem WakeInv.writerDecide (hstep : wakeStep w .writerDecide = some w') : WakeInv n w' := by
  simp only [wakeStep] at hstep
  split at hstep
  case h_2 => cases hstep
  case h_1 hphase =>
    rw [exec_of_ok (exec_notifyIfAvailCount .tx 1 _), Option.map_some] at hstep
    cases hstep
    have hnone := h.sawFull_eq_none (by simp [hphase])
    have hone : outstanding w = 1 ↔ w.channel.wCount - w.channel.rCount = 1 := by
      unfold outstanding
      bv_omega
    have hempty : NoLostWakeup (outstanding w) (if w.channel.wCount - w.channel.rCount = 1 then
        (w.ends .a).notified + 1 else (w.ends .a).notified)
        ((Phase.idle : Phase WriteArgs) = .stored) w.sawEmpty := by
      rw [← if_congr hone rfl rfl]
      exact h.empty.decide
    exact {
      nframes := fun e => by cases e; exacts [h.nframes .a, h.nframes .b]
      established := fun e => by cases e; exacts [h.established .a, h.established .b]
      fill := h.fill
      freeSlot := False.elim
      unreadFrame := h.unreadFrame
      sawEmpty_idle := h.sawEmpty_idle
      sawFull_idle := fun _ => rfl
      empty := hempty
      full := by simp only [hnone]; exact .of_none }

/-! ## The steps of the reader -/

theorem WakeInv.readerCheck (hidle : w.reader = .idle) {args : ReadArgs}
    (hstep : w.readerCheck args = some w') : WakeInv n w' := by
  unfold WakeState.readerCheck at hstep
  split at hstep
  · cases hstep
    exact h
  rw [exec_of_ok (exec_ivcCheckRead _), Option.map_some] at hstep
  cases hstep
  have hwaiting : NoLostWakeup (n.toNat - outstanding w) (w.ends .b).notified False w.sawFull :=
    h.full.idle (by simp [hidle])
  have hcheck := @NoLostWakeup.check (outstanding w) (w.ends .a).notified (w.writer = .stored)
  rw [put_view, h.checkRead_eq]
  by_cases hempty : outstanding w = 0
  · rw [if_pos hempty] at hcheck
    simp only [if_pos hempty]
    exact { h with
      unreadFrame := False.elim
      sawEmpty_idle := fun _ => rfl
      empty := hcheck
      full := hwaiting.idle id }
  simp only [if_neg hempty]
  exact { h with
    unreadFrame := fun _ => Nat.pos_of_ne_zero hempty
    sawEmpty_idle := fun hne => absurd rfl hne
    empty := .of_none
    full := hwaiting.idle id }

theorem WakeInv.readerCopy (hstep : wakeStep w .readerCopy = some w') : WakeInv n w' := by
  simp only [wakeStep] at hstep
  split at hstep
  case h_2 => cases hstep
  case h_1 args hphase =>
    obtain ⟨⟨r, ends⟩, hexec, rfl⟩ := Option.map_eq_some_iff.mp hstep
    obtain ⟨s', hx, rfl⟩ := exec_eq_some hexec
    obtain rfl := exec_readFrameCopy_eq_ok hx
    have hnone := h.sawEmpty_eq_none (by simp [hphase])
    rw [put_view]
    exact { h with
      unreadFrame := fun _ => h.unreadFrame (by rw [hphase]; trivial)
      sawEmpty_idle := fun hne => absurd hnone hne
      full := h.full.idle (by simp [hphase]) }

/-- The store of the reader's counter: one more slot is free and the decision is still to
come. -/
theorem WakeInv.readerAdvance (hstep : wakeStep w .readerAdvance = some w') : WakeInv n w' := by
  simp only [wakeStep] at hstep
  split at hstep
  case h_2 => cases hstep
  case h_1 hphase =>
    rw [exec_of_ok (exec_ivcAdvanceRx _), Option.map_some] at hstep
    have hw' := Option.some.inj hstep
    have hfill := h.fill
    have hframe : 0 < outstanding w := h.unreadFrame (by rw [hphase]; trivial)
    have hnone := h.sawEmpty_eq_none (by simp [hphase])
    have hne : w.channel.wCount - w.channel.rCount ≠ 0 := by
      unfold outstanding at hframe
      intro hzero
      rw [hzero] at hframe
      exact absurd hframe (by decide)
    have hout : outstanding w' + 1 = outstanding w := by
      rw [← hw']
      show (w.channel.wCount - (w.channel.rCount + 1)).toNat + 1 = _
      rw [← sub_sub]
      exact toNat_pred_of_ne hne
    have hfree : n.toNat - outstanding w' = n.toNat - outstanding w + 1 := by omega
    have hfull : NoLostWakeup (n.toNat - outstanding w + 1) (w.ends .b).notified
        (w'.reader = .stored) w.sawFull :=
      h.full.produce (by simp [hphase]) (by rw [← hw'])
    subst hw'
    exact {
      nframes := fun e => by cases e; exacts [h.nframes .a, h.nframes .b]
      established := fun e => by cases e; exacts [h.established .a, h.established .b]
      fill := by omega
      freeSlot := fun _ => by omega
      unreadFrame := False.elim
      sawEmpty_idle := fun hne => absurd hnone hne
      sawFull_idle := h.sawFull_idle
      empty := by simp only [hnone]; exact .of_none
      full := by rw [hfree]; exact hfull }

theorem WakeInv.readerDecide (hstep : wakeStep w .readerDecide = some w') : WakeInv n w' := by
  simp only [wakeStep] at hstep
  split at hstep
  case h_2 => cases hstep
  case h_1 hphase =>
    rw [h.nframes .b, exec_of_ok (exec_notifyIfAvailCount .rx (n - 1) _), Option.map_some] at hstep
    cases hstep
    have hnone := h.sawEmpty_eq_none (by simp [hphase])
    have hone : n.toNat - outstanding w = 1 ↔
        w.channel.wCount - w.channel.rCount = n - 1 := by
      have hfill := h.fill
      unfold outstanding at hfill ⊢
      bv_omega
    have hfull : NoLostWakeup (n.toNat - outstanding w)
        (if w.channel.wCount - w.channel.rCount = n - 1 then (w.ends .b).notified + 1
          else (w.ends .b).notified) ((Phase.idle : Phase ReadArgs) = .stored) w.sawFull := by
      rw [← if_congr hone rfl rfl]
      exact h.full.decide
    exact {
      nframes := fun e => by cases e; exacts [h.nframes .a, h.nframes .b]
      established := fun e => by cases e; exacts [h.established .a, h.established .b]
      fill := h.fill
      freeSlot := h.freeSlot
      unreadFrame := False.elim
      sawEmpty_idle := fun _ => rfl
      sawFull_idle := h.sawFull_idle
      empty := by simp only [hnone]; exact .of_none
      full := hfull }

end

/-! ## Every run -/

/-- **The step lemma.** -/
theorem wakeInv_step (w : WakeState) (a : WakeAction) (w' : WakeState) (h : WakeInv n w)
    (hstep : wakeStep w a = some w') : WakeInv n w' := by
  cases a with
  | writerCheck args =>
    simp only [wakeStep] at hstep
    split at hstep
    case h_1 hidle => exact h.writerCheck hidle hstep
    case h_2 => cases hstep
  | writerCopy => exact h.writerCopy hstep
  | writerAdvance => exact h.writerAdvance hstep
  | writerDecide => exact h.writerDecide hstep
  | readerCheck args =>
    simp only [wakeStep] at hstep
    split at hstep
    case h_1 hidle => exact h.readerCheck hidle hstep
    case h_2 => cases hstep
  | readerCopy => exact h.readerCopy hstep
  | readerAdvance => exact h.readerAdvance hstep
  | readerDecide => exact h.readerDecide hstep

/-- **The run lemma.** -/
theorem wakeInv_run {w₀ : WakeState} {as : List WakeAction} (hstart : WakeStart n w₀)
    (hrun : run wakeStep w₀ as = some w) : WakeInv n w :=
  run_invariant wakeInv_step (wakeInv_start hstart) hrun

/-- The end `e` is between its counter store and its decision `a`, and that decision calls
`notify`. -/
def WillNotify (w : WakeState) (a : WakeAction) (e : End) : Prop :=
  ∃ w', wakeStep w a = some w' ∧ (w'.ends e).notified = (w.ends e).notified + 1

theorem writer_willNotify (hphase : w.writer = .stored) (hone : outstanding w = 1) :
    WillNotify w .writerDecide .a := by
  have hcond : w.channel.wCount - w.channel.rCount = 1 := by
    unfold outstanding at hone
    bv_omega
  unfold WillNotify
  simp only [wakeStep, hphase, Ends.exec, exec_notifyIfAvailCount, Option.map_some]
  refine ⟨_, rfl, ?_⟩
  exact if_pos hcond

theorem WakeInv.reader_willNotify (h : WakeInv n w) (hphase : w.reader = .stored)
    (hone : n.toNat - outstanding w = 1) : WillNotify w .readerDecide .b := by
  have hfill := h.fill
  have hcond : w.channel.wCount - w.channel.rCount = n - 1 := by
    unfold outstanding at hone hfill
    bv_omega
  unfold WillNotify
  simp only [wakeStep, hphase, Ends.exec, exec_notifyIfAvailCount, Option.map_some]
  refine ⟨_, rfl, ?_⟩
  exact if_pos (hcond.trans (by rw [h.nframes .b]))

/-- **No wake-up is lost**, in every state that a writer and a reader of an established
channel reach: if the reader's latest check returned empty and a published frame is
unread, the writer has called `notify` since or is about to; if the writer's latest check
returned full and a slot is free, the reader has or is about to.
SOURCE: tegra-ivc.c:401-427, 567-597 -/
theorem ivc_no_lost_wakeup {w₀ : WakeState} {as : List WakeAction} (hstart : WakeStart n w₀)
    (hrun : run wakeStep w₀ as = some w) : (∀ k, w.sawEmpty = some k → w.channel.wCount ≠ w.channel.rCount →
      k < (w.ends .a).notified ∨ (w.writer = .stored ∧ WillNotify w .writerDecide .a)) ∧
    (∀ k, w.sawFull = some k → w.channel.wCount - w.channel.rCount < n →
      k < (w.ends .b).notified ∨ (w.reader = .stored ∧ WillNotify w .readerDecide .b)) := by
  have hinv := wakeInv_run hstart hrun
  constructor
  · intro k hk hunread
    have hpos : 0 < outstanding w := by
      unfold outstanding
      bv_omega
    rcases hinv.empty.awake hk hpos with hlt | ⟨hone, hphase⟩
    · exact .inl hlt
    · exact .inr ⟨hphase, writer_willNotify hphase hone⟩
  · intro k hk hfree
    have hpos : 0 < n.toNat - outstanding w := Nat.sub_pos_of_lt hfree
    rcases hinv.full.awake hk hpos with hlt | ⟨hone, hphase⟩
    · exact .inl hlt
    · exact .inr ⟨hphase, hinv.reader_willNotify hphase hone⟩

/-- An empty established channel of one frame, nobody inside a call. -/
def oneFrameWake : WakeState where
  ends _ := ⟨⟨0x1000, 0x2000, 0, 0, 1, 64, false, 0, 0⟩, ⟨0, 0, 0⟩, fun _ => 0, 0⟩
  writer := .idle
  reader := .idle
  sawEmpty := none
  sawFull := none

theorem oneFrameWake_start : WakeStart 1 oneFrameWake where
  nframes_eq _ := rfl
  established _ := rfl
  fill := by decide
  writer := rfl
  reader := rfl
  sawEmpty := rfl
  sawFull := rfl

/-- The reader finds the channel empty, then the writer stores its counter. -/
def oneFrameRun : List WakeAction :=
  [.readerCheck ⟨.kernel, 8⟩, .writerCheck ⟨.kernel, fun _ => 1, 8⟩, .writerCopy, .writerAdvance]

theorem oneFrameRun_awake : ∃ w, run wakeStep oneFrameWake oneFrameRun = some w ∧
      w.sawEmpty = some 0 ∧ w.channel.wCount ≠ w.channel.rCount ∧
      (0 < (w.ends .a).notified ∨ (w.writer = .stored ∧ WillNotify w .writerDecide .a)) := by
  have hsome : (run wakeStep oneFrameWake oneFrameRun).isSome = true := by decide
  have hrun := (Option.some_get hsome).symm
  have hunread : (1 : U32) ≠ 0 := by decide
  exact ⟨_, hrun, rfl, hunread, (ivc_no_lost_wakeup oneFrameWake_start hrun).1 0 rfl hunread⟩

/-! ## The steps without interference are the calls -/

/-- After a passed check, `ivc_write_frame` is its copy and then the two counter steps. -/
theorem exec_ivcWriteFrame_split {contents : ℕ → U8} {size : U64}
    (hsize : ¬ size > s.ivc.frameSize.setWidth 64) (hcheck : checkWrite s = 0) :
    (ivcWriteFrame buf contents size).exec s =
      ((writeFrameCopy buf contents size).exec s).bind fun x =>
        if x.1 = 0 then
          (do ivcAdvanceTx; notifyIfAvailCount .tx 1; return toInt32 size : IvcProg ℤ).exec x.2
        else .ok x := by
  unfold ivcWriteFrame writeFrameCopy
  rw [Prog.exec_bind_of_ok (exec_getIvc s), if_neg hsize,
    Prog.exec_bind_of_ok (exec_ivcCheckWrite s), if_neg (not_not.mpr hcheck),
    Prog.exec_bind_of_ok (exec_getIvc s)]
  simp only [Prog.exec_bind (ivcFramePointer _), Prog.exec_bind (copyFromBuffer _ _ _ _)]
  cases (ivcFramePointer s.ivc.wPos).exec s with
  | error b => rfl
  | ok x =>
    show ((copyFromBuffer buf x.1 size.toNat contents).exec x.2).bind _ =
      (((copyFromBuffer buf x.1 size.toNat contents).exec x.2).bind _).bind _
    cases (copyFromBuffer buf x.1 size.toNat contents).exec x.2 with
    | error b => rfl
    | ok y =>
      simp only [Except.bind]
      by_cases hfault : buf = .user true
      · rw [if_pos hfault, if_pos hfault]
        rfl
      rw [if_neg hfault, if_neg hfault]
      rw [Prog.exec_bind_of_ok (exec_copyToFrame _ _ _ _), Prog.exec_bind_of_ok (exec_copyToFrame _ _ _ _)]
      simp only [Prog.exec_bind (ivcFlushFrame _ _ _)]
      cases (ivcFlushFrame s.ivc.txHandle s.ivc.wPos 0).exec _ with
      | error b | ok z => rfl

/-- After a passed check, `ivc_read_frame` is its copy and then the two counter steps. -/
theorem exec_ivcReadFrame_split {maxRead : U64}
    (hsize : ¬ maxRead > s.ivc.frameSize.setWidth 64) (hcheck : checkRead s = 0) :
    (ivcReadFrame buf maxRead).exec s =
      ((readFrameCopy buf maxRead).exec s).bind fun x =>
        if x.1.1 = 0 then
          (do
            ivcAdvanceRx
            notifyIfAvailCount .rx (s.ivc.nframes - 1)
            return (toInt32 maxRead, x.1.2) : IvcProg (ℤ × List U8)).exec x.2
        else .ok x := by
  unfold ivcReadFrame readFrameCopy
  rw [Prog.exec_bind_of_ok (exec_getIvc s), if_neg hsize,
    Prog.exec_bind_of_ok (exec_ivcCheckRead s), if_neg (not_not.mpr hcheck),
    Prog.exec_bind_of_ok (exec_getIvc s)]
  simp only [Prog.exec_bind (ivcInvalidateFrame _ _ _), Prog.exec_bind (ivcFramePointer _),
    Prog.exec_bind (copyToBuffer _ _ _)]
  cases (ivcInvalidateFrame s.ivc.rxHandle s.ivc.rPos 0).exec s with
  | error b => rfl
  | ok u =>
    simp only [Except.bind]
    cases (ivcFramePointer s.ivc.rPos).exec u.2 with
    | error b => rfl
    | ok x =>
      simp only
      cases (copyToBuffer buf x.1 maxRead.toNat).exec x.2 with
      | error b => rfl
      | ok y =>
        simp only
        by_cases hfault : buf = .user true
        · rw [if_pos hfault, if_pos hfault]
          rfl
        · rw [if_neg hfault, if_neg hfault]
          rfl

theorem wakeStep_writerCheck (hphase : w.writer = .idle)
    (hsize : ¬ args.size > (w.ends .a).ivc.frameSize.setWidth 64) : wakeStep w (.writerCheck args) = some { w with
      writer := if checkWrite (w.ends.view .a) = 0 then .checked args else .idle
      sawFull := if checkWrite (w.ends.view .a) = -eNOMEM then some (w.ends .b).notified
        else none } := by
  simp only [wakeStep, hphase, WakeState.writerCheck]
  rw [if_neg hsize, exec_of_ok (exec_ivcCheckWrite _), Option.map_some, put_view]

theorem wakeStep_readerCheck {args : ReadArgs} (hphase : w.reader = .idle)
    (hsize : ¬ args.maxRead > (w.ends .b).ivc.frameSize.setWidth 64) :
    wakeStep w (.readerCheck args) = some { w with
      reader := if checkRead (w.ends.view .b) = 0 then .checked args else .idle
      sawEmpty := if checkRead (w.ends.view .b) = -eNOMEM then some (w.ends .a).notified
        else none } := by
  simp only [wakeStep, hphase, WakeState.readerCheck]
  rw [if_neg hsize, exec_of_ok (exec_ivcCheckRead _), Option.map_some, put_view]

/-- **The writer steps in a row are `ivc_write_frame`**: whatever the call does without
interference, a run of writer steps alone does. -/
theorem writer_uninterrupted (args : WriteArgs) (hidle : w.writer = .idle)
    (hx : (ivcWriteFrame args.buf args.contents args.size).exec (w.ends.view .a) =
      .ok (r, s')) : ∃ as w', as <+: [.writerCheck args, .writerCopy, .writerAdvance, .writerDecide] ∧
    run wakeStep w as = some w' ∧ w'.ends = w.ends.put .a s' ∧ w'.writer = .idle := by
  by_cases hsize : args.size > (w.ends.view .a).ivc.frameSize.setWidth 64
  · refine ⟨[.writerCheck args], w, ⟨_, rfl⟩, ?_, ?_, hidle⟩
    · refine run_cons_eq_some.mpr ⟨w, ?_, rfl⟩
      simp only [wakeStep, hidle, WakeState.writerCheck]
      exact if_pos hsize
    · unfold ivcWriteFrame at hx
      rw [Prog.exec_bind_of_ok (exec_getIvc _), if_pos hsize] at hx
      cases hx
      exact (put_view _ _).symm
  have hstep := wakeStep_writerCheck hidle hsize
  by_cases hcheck : checkWrite (w.ends.view .a) = 0
  case neg =>
    refine ⟨[.writerCheck args], _, ⟨_, rfl⟩, run_cons_eq_some.mpr ⟨_, hstep, rfl⟩, ?_, if_neg hcheck⟩
    unfold ivcWriteFrame at hx
    rw [Prog.exec_bind_of_ok (exec_getIvc _), if_neg hsize,
      Prog.exec_bind_of_ok (exec_ivcCheckWrite _), if_pos hcheck] at hx
    cases hx
    exact (put_view _ _).symm
  rw [exec_ivcWriteFrame_split hsize hcheck] at hx
  rw [if_pos hcheck] at hstep
  cases hcopy : (writeFrameCopy args.buf args.contents args.size).exec (w.ends.view .a) with
  | error b =>
    rw [hcopy] at hx
    cases hx
  | ok x =>
    obtain ⟨r₁, s₁⟩ := x
    rw [hcopy] at hx
    simp only [Except.bind] at hx
    by_cases hr : r₁ = 0
    · subst hr
      rw [if_pos rfl, Prog.exec_bind_of_ok (exec_ivcAdvanceTx s₁),
        Prog.exec_bind_of_ok (exec_notifyIfAvailCount .tx 1 _)] at hx
      cases hx
      refine ⟨[.writerCheck args, .writerCopy, .writerAdvance, .writerDecide], _, ⟨[], rfl⟩,
        run_cons_eq_some.mpr ⟨_, hstep, run_cons_eq_some.mpr ⟨_, congrArg (Option.map _) (exec_of_ok hcopy),
          run_cons_eq_some.mpr ⟨_, congrArg (Option.map _) (exec_of_ok (exec_ivcAdvanceTx _)), run_cons_eq_some.mpr
            ⟨_, congrArg (Option.map _) (exec_of_ok (exec_notifyIfAvailCount .tx 1 _)), rfl⟩⟩⟩⟩, ?_, rfl⟩
      simp only [put_put, view_put]
    rw [if_neg hr] at hx
    cases hx
    exact ⟨[.writerCheck args, .writerCopy], _, ⟨_, rfl⟩,
      run_cons_eq_some.mpr ⟨_, hstep, run_cons_eq_some.mpr
        ⟨_, congrArg (Option.map _) (exec_of_ok hcopy), rfl⟩⟩, rfl, if_neg hr⟩

theorem writer_uninterrupted_oneFrame : ∃ as w', run wakeStep oneFrameWake as = some w' ∧ w'.channel.wCount = 1 := by
  obtain ⟨as, w', -, hrun, hends, -⟩ :=
    writer_uninterrupted (w := oneFrameWake) ⟨.kernel, fun _ => 1, 8⟩ rfl rfl
  exact ⟨as, w', hrun, by rw [WakeState.channel, hends]; rfl⟩

/-- **The reader steps in a row are `ivc_read_frame`.** -/
theorem reader_uninterrupted (args : ReadArgs) {r : ℤ × List U8} (hidle : w.reader = .idle)
    (hx : (ivcReadFrame args.buf args.maxRead).exec (w.ends.view .b) = .ok (r, s')) :
    ∃ as w', as <+: [.readerCheck args, .readerCopy, .readerAdvance, .readerDecide] ∧
    run wakeStep w as = some w' ∧ w'.ends = w.ends.put .b s' ∧ w'.reader = .idle := by
  by_cases hsize : args.maxRead > (w.ends.view .b).ivc.frameSize.setWidth 64
  · refine ⟨[.readerCheck args], w, ⟨_, rfl⟩, ?_, ?_, hidle⟩
    · refine run_cons_eq_some.mpr ⟨w, ?_, rfl⟩
      simp only [wakeStep, hidle, WakeState.readerCheck]
      exact if_pos hsize
    · unfold ivcReadFrame at hx
      rw [Prog.exec_bind_of_ok (exec_getIvc _), if_pos hsize] at hx
      cases hx
      exact (put_view _ _).symm
  have hstep := wakeStep_readerCheck hidle hsize
  by_cases hcheck : checkRead (w.ends.view .b) = 0
  case neg =>
    refine ⟨[.readerCheck args], _, ⟨_, rfl⟩, run_cons_eq_some.mpr ⟨_, hstep, rfl⟩, ?_, if_neg hcheck⟩
    unfold ivcReadFrame at hx
    rw [Prog.exec_bind_of_ok (exec_getIvc _), if_neg hsize,
      Prog.exec_bind_of_ok (exec_ivcCheckRead _), if_pos hcheck] at hx
    cases hx
    exact (put_view _ _).symm
  rw [exec_ivcReadFrame_split hsize hcheck] at hx
  rw [if_pos hcheck] at hstep
  cases hcopy : (readFrameCopy args.buf args.maxRead).exec (w.ends.view .b) with
  | error b =>
    rw [hcopy] at hx
    cases hx
  | ok x =>
    obtain ⟨⟨r₁, data⟩, s₁⟩ := x
    obtain rfl := exec_readFrameCopy_eq_ok hcopy
    rw [hcopy] at hx
    simp only [Except.bind] at hx
    by_cases hr : r₁ = 0
    · subst hr
      rw [if_pos rfl, Prog.exec_bind_of_ok (exec_ivcAdvanceRx _),
        Prog.exec_bind_of_ok (exec_notifyIfAvailCount .rx _ _)] at hx
      cases hx
      refine ⟨[.readerCheck args, .readerCopy, .readerAdvance, .readerDecide], _, ⟨[], rfl⟩,
        run_cons_eq_some.mpr ⟨_, hstep, run_cons_eq_some.mpr ⟨_, congrArg (Option.map _) (exec_of_ok hcopy),
          run_cons_eq_some.mpr ⟨_, congrArg (Option.map _) (exec_of_ok (exec_ivcAdvanceRx _)), run_cons_eq_some.mpr
            ⟨_, congrArg (Option.map _) (exec_of_ok (exec_notifyIfAvailCount .rx _ _)), rfl⟩⟩⟩⟩, ?_, rfl⟩
      simp only [put_put, view_put, put_view, put_self, advanceRx]
      rfl
    rw [if_neg hr] at hx
    cases hx
    exact ⟨[.readerCheck args, .readerCopy], _, ⟨_, rfl⟩,
      run_cons_eq_some.mpr ⟨_, hstep, run_cons_eq_some.mpr
        ⟨_, congrArg (Option.map _) (exec_of_ok hcopy), rfl⟩⟩, rfl, if_neg hr⟩

theorem reader_uninterrupted_oneFrame : ∃ as w', run wakeStep oneFrameWake as = some w' ∧ w'.channel.rCount = 0 := by
  obtain ⟨as, w', -, hrun, hends, -⟩ :=
    reader_uninterrupted (w := oneFrameWake) ⟨.kernel, 8⟩ rfl rfl
  exact ⟨as, w', hrun, by rw [WakeState.channel, hends]; rfl⟩

end NvidiaOot.Analysis
