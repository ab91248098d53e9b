import NvidiaOot.Analysis.IvcAdvance
import NvidiaOot.Analysis.IvcFifo

/-!
# The counters of a channel after any run

The counters are the numbers of frames ever written and read, modulo `2 ^ 32`, and the positions are the same
numbers modulo `nframes`.  Two functions read more out of the counters than that.
-/

namespace NvidiaOot.Analysis

open Library Program Model

variable {s : IvcWorld} {l : IvcLink}

variable {n fs : U32}

/-! ## What a run leaves as it is -/

/-- The state of an end and its device are as in the other link. -/
def SameSetup (l₀ l : IvcLink) : Prop :=
  ∀ e, (l.ends e).header.state = (l₀.ends e).header.state ∧
    (l.ends e).ivc.peerDevice = (l₀.ends e).ivc.peerDevice ∧
    (l.ends e).ivc.txHandle = (l₀.ends e).ivc.txHandle

theorem DataEffect.setup {s' : IvcWorld} (h : DataEffect s s') :
    s'.tx.state = s.tx.state ∧ s'.rx.state = s.rx.state ∧ s'.ivc.peerDevice = s.ivc.peerDevice ∧
      s'.ivc.txHandle = s.ivc.txHandle := by
  cases h <;> exact ⟨rfl, rfl, rfl, rfl⟩

theorem sameSetup_step (l₀ l : IvcLink) (a : LinkAction) (l' : IvcLink) (h : SameSetup l₀ l)
    (hstep : linkStep l a = some l') : SameSetup l₀ l' := by
  intro e
  cases a with
  | call x c =>
    simp only [linkStep] at hstep
    split at hstep
    · rename_i hdata
      obtain ⟨y, hexec, rfl⟩ := Option.map_eq_some_iff.mp hstep
      obtain ⟨s', hcode, hends⟩ := exec_eq_some hexec
      obtain ⟨htx, hrx, hpeer, hhandle⟩ := (code_effect hdata hcode).1.setup
      simp only [hends]
      rcases End.eq_or_eq_other e x with rfl | rfl
      · rw [put_self]
        obtain ⟨hstate, hdevice, htxHandle⟩ := h e
        exact ⟨htx.trans hstate, hpeer.trans hdevice, hhandle.trans htxHandle⟩
      · rw [put_other]
        obtain ⟨hstate, hdevice, htxHandle⟩ := h x.other
        exact ⟨hrx.trans hstate, hdevice, htxHandle⟩
    · cases hstep
  | fill x off len bytes =>
    simp only [linkStep] at hstep
    split at hstep
    · obtain ⟨p, -, rfl⟩ := Option.map_eq_some_iff.mp hstep
      by_cases hx : e = x
      · subst hx
        simpa [IvcLink.fill] using h e
      · simpa [IvcLink.fill, hx] using h e
    · cases hstep
  | look x off len =>
    simp only [linkStep] at hstep
    split at hstep
    · obtain ⟨p, -, rfl⟩ := Option.map_eq_some_iff.mp hstep
      exact h e
    · cases hstep

theorem sameSetup_run {l₀ : IvcLink} {as : List LinkAction} (hrun : run linkStep l₀ as = some l) :
    SameSetup l₀ l := by
  apply run_invariant (sameSetup_step l₀) _ hrun
  intro e
  exact ⟨rfl, rfl, rfl⟩

theorem established_run {l₀ : IvcLink} {as : List LinkAction} (hstart : LinkStart n fs l₀)
    (hrun : run linkStep l₀ as = some l) (e : End) : (l.ends e).header.state = ivcStateEstablished := by
  rw [(sameSetup_run hrun e).1, hstart.header]

/-! ## Free frames -/

theorem safeSubtractU32_of_le {a b : U32} (h : b ≤ a) : (safeSubtractU32 a b).exec s = .ok (a - b, s) := by
  simp [safeSubtractU32, isU32SubtractionSafe, h]

theorem safeSubtractU32_of_lt {a b : U32} (h : ¬ b ≤ a) :
    (safeSubtractU32 a b).exec s = .error .safeSubtractU32 := by
  simp [safeSubtractU32, isU32SubtractionSafe, h]

/-- The number of free frames is read off the counters when neither the subtraction nor the narrow address
goes round. -/
theorem exec_tegraIvcTxFramesAvailable (hnarrow : NarrowSafe s)
    (hle : s.tx.rCount ≤ s.tx.wCount) (hused : s.tx.wCount - s.tx.rCount ≤ s.ivc.nframes) :
    tegraIvcTxFramesAvailable.exec s = .ok (s.ivc.nframes - (s.tx.wCount - s.tx.rCount), s) := by
  have hadd : (safeAddU32 (s.ivc.txHandle.setWidth 32) (BitVec.ofNat 32 offsetofRCount)).exec s =
      .ok (s.ivc.txHandle.setWidth 32 + BitVec.ofNat 32 offsetofRCount, s) := by
    simp [safeAddU32, (narrowSafe_iff s).mpr hnarrow]
  unfold tegraIvcTxFramesAvailable
  rw [Prog.exec_bind_of_ok (exec_getIvc s), Prog.exec_bind_of_ok hadd,
    Prog.exec_bind_of_ok (exec_readOnce .tx .wCount s), Prog.exec_bind_of_ok (exec_readOnce .tx .rCount s)]
  apply (Prog.exec_bind_of_ok (safeSubtractU32_of_le hle)).trans
  exact safeSubtractU32_of_le hused

theorem txFramesAvailable_eq_ok {s' : IvcWorld} {v : U32} (h : tegraIvcTxFramesAvailable.exec s = .ok (v, s')) :
    NarrowSafe s ∧ s.tx.rCount ≤ s.tx.wCount := by
  unfold tegraIvcTxFramesAvailable at h
  rw [Prog.exec_bind_of_ok (exec_getIvc s)] at h
  obtain ⟨x, s₁, hadd, h⟩ := Prog.exec_bind_eq_ok.mp h
  have hnarrow : NarrowSafe s := by
    rw [← narrowSafe_iff]
    unfold safeAddU32 at hadd
    split at hadd
    · cases hadd
    · rename_i hsafe
      simpa using hsafe
  have hs₁ : s₁ = s := by
    unfold safeAddU32 at hadd
    split at hadd <;> cases hadd
    rfl
  subst hs₁
  refine ⟨hnarrow, ?_⟩
  by_contra hle
  have herr : (safeSubtractU32 s₁.tx.wCount s₁.tx.rCount).exec s₁ = .error .safeSubtractU32 :=
    safeSubtractU32_of_lt hle
  have h' : (safeSubtractU32 s₁.tx.wCount s₁.tx.rCount >>= safeSubtractU32 s₁.ivc.nframes).exec s₁ =
      .ok (v, s') := h
  rw [Prog.exec_bind_of_error herr] at h'
  cases h'

theorem checkWrite_full (hstate : s.tx.state = ivcStateEstablished) :
    ivcCheckWrite.exec s = .ok (- eNOMEM, s) ↔ s.ivc.nframes ≤ s.tx.wCount - s.tx.rCount := by
  rw [exec_ivcCheckWrite]
  by_cases hfull : s.ivc.nframes ≤ s.tx.wCount - s.tx.rCount
  · simp [checkWrite, hstate, channelFull, hfull]
  · simp [checkWrite, hstate, channelFull, hfull, eNOMEM]

/-- In every state that the two ends reach, the number of free frames is told exactly if and only if the
counter of the writer has not gone round before that of the reader, and the address of the latter fits 32
bits. -/
theorem ivc_frames_available_iff {l₀ l : IvcLink} {as : List LinkAction} (hn : 1 ≤ n)
    (hstart : LinkStart n fs l₀) (hrun : run linkStep l₀ as = some l) (e : End) :
    FramesAvailableExact (l.ends.view e) ↔
      (l.ends e).header.rCount ≤ (l.ends e).header.wCount ∧ NarrowSafe (l.ends.view e) := by
  have hinv := linkInv_run hn hstart hrun
  have hring := (hinv.lane e).ring
  have hsub := hring.toNat_sub
  have hout := hring.outstanding
  have hnframes : (l.ends.view e).ivc.nframes = n := hinv.nframes e
  have hused : (l.ends.view e).tx.wCount - (l.ends.view e).tx.rCount ≤ (l.ends.view e).ivc.nframes := by
    rw [hnframes, BitVec.le_def]
    have hsub' : ((l.ends.view e).tx.wCount - (l.ends.view e).tx.rCount).toNat = _ := hsub
    omega
  constructor
  · rintro ⟨v, hexec, -⟩
    obtain ⟨hnarrow, hle⟩ := txFramesAvailable_eq_ok hexec
    exact ⟨hle, hnarrow⟩
  · rintro ⟨hle, hnarrow⟩
    have hvalue : ((l.ends.view e).ivc.nframes -
        ((l.ends.view e).tx.wCount - (l.ends.view e).tx.rCount)).toNat =
          (l.ends.view e).ivc.nframes.toNat -
            ((l.ends.view e).tx.wCount - (l.ends.view e).tx.rCount).toNat := BitVec.toNat_sub_of_le hused
    refine ⟨_, exec_tegraIvcTxFramesAvailable hnarrow hle hused, hvalue, ?_⟩
    rw [checkWrite_full (established_run hstart hrun e)]
    constructor
    · intro hzero
      have hnat := congrArg BitVec.toNat hzero
      rw [BitVec.le_def]
      have hz : (0 : U32).toNat = 0 := by simp
      omega
    · intro hfull
      rw [BitVec.le_def] at hused hfull
      apply BitVec.eq_of_toNat_eq
      have hz : (0 : U32).toNat = 0 := by simp
      omega

/-- Nothing has gone round after a few calls. -/
theorem threeFrameRun_frames_available : ∃ l, run linkStep threeFrameLink threeFrameRun = some l ∧
      (FramesAvailableExact (l.ends.view .a) ↔ (1 : U32) ≤ 2 ∧ NarrowSafe (l.ends.view .a)) := by
  have hsome : (run linkStep threeFrameLink threeFrameRun).isSome = true := by decide
  refine ⟨_, (Option.some_get hsome).symm, ?_⟩
  exact ivc_frames_available_iff (by decide) threeFrameLink_start (Option.some_get hsome).symm .a

/-! ## Runs of any length -/

section

variable (h : LinkInv n fs l)

include h

theorem LinkInv.wPos_lt (e : End) : (l.ends e).ivc.wPos < n := by
  have hpos : 0 < n.toNat := by simpa using BitVec.lt_def.mp h.npos
  rw [BitVec.lt_def, (h.lane e).ring.wPos]
  exact Nat.mod_lt _ hpos

theorem LinkInv.rPos_lt (e : End) : (l.ends e).ivc.rPos < n := by
  have hpos : 0 < n.toNat := by simpa using BitVec.lt_def.mp h.npos
  have hlane := h.lane e.other
  rw [End.other_other] at hlane
  rw [BitVec.lt_def, hlane.ring.rPos]
  exact Nat.mod_lt _ hpos

theorem linkStep_write {e : End}
    (hstate : (l.ends e).header.state = ivcStateEstablished) (hpeer : (l.ends e).ivc.peerDevice = false)
    (hfree : (l.ledger e).published.length < (l.ledger e.other).consumed.length + n.toNat) (contents : ℕ → U8) :
    ∃ l', linkStep l (.call e (.write contents (fs.setWidth 64))) = some l' ∧
      (l'.ledger e).published.length = (l.ledger e).published.length + 1 ∧
      l'.ledger e.other = l.ledger e.other := by
  have hnframes : (l.ends.view e).ivc.nframes = n := h.nframes e
  have hsize : (l.ends.view e).ivc.frameSize = fs := h.frameSize e
  have hcheck : checkWrite (l.ends.view e) = 0 := by
    rw [checkWrite_eq_zero]
    refine ⟨hstate, ?_⟩
    rw [channelFull, decide_eq_false_iff_not, hnframes]
    exact (h.lane e).ring.not_full_iff.mpr hfree
  have hpos : (l.ends.view e).ivc.wPos < (l.ends.view e).ivc.nframes := by
    rw [hnframes]
    exact h.wPos_lt e
  have haddr : FrameAddressable (l.ends.view e) (l.ends.view e).ivc.txHandle (l.ends.view e).ivc.wPos := by
    intro hdevice
    have hdevice' : (l.ends e).ivc.peerDevice = true := hdevice
    rw [hpeer] at hdevice'
    cases hdevice'
  have hexec := exec_tegraIvcWrite hcheck hpos haddr contents
  rw [hsize] at hexec
  have hcode : (IvcCall.write contents (fs.setWidth 64)).code.exec (l.ends.view e) =
      .ok (.code (toInt32 (fs.setWidth 64)) [], afterWrite (filled (l.ends.view e) contents)) :=
    (Prog.exec_bind_of_ok hexec).trans rfl
  have hends := exec_of_ok hcode
  have hwrite : (IvcCall.write contents (fs.setWidth 64)).isData = true := rfl
  refine ⟨_, by simp only [linkStep, hwrite, if_true, hends, Option.map_some]; rfl, ?_, ?_⟩
  · have hcount : (afterWrite (filled (l.ends.view e) contents)).tx.wCount ≠ (l.ends.view e).tx.wCount :=
      wCount_succ_ne _
    simp [Ledger.record, hcount]
  · simp

theorem linkStep_read {e : End}
    (hstate : (l.ends e).header.state = ivcStateEstablished) (hpeer : (l.ends e).ivc.peerDevice = false)
    (hne : (l.ledger e).consumed.length < (l.ledger e.other).published.length) :
    ∃ l', linkStep l (.call e (.read (fs.setWidth 64))) = some l' ∧
      (l'.ledger e).consumed.length = (l.ledger e).consumed.length + 1 ∧ l'.ledger e.other = l.ledger e.other := by
  have hnframes : (l.ends.view e).ivc.nframes = n := h.nframes e
  have hsize : (l.ends.view e).ivc.frameSize = fs := h.frameSize e
  have hlane := h.lane e.other
  rw [End.other_other] at hlane
  have hcheck : checkRead (l.ends.view e) = 0 := by
    rw [checkRead_eq_zero]
    refine ⟨hstate, ?_⟩
    have hsub := hlane.ring.toNat_sub
    have hout := hlane.ring.outstanding
    rw [channelEmpty, Bool.or_eq_false_iff, decide_eq_false_iff_not, decide_eq_false_iff_not, hnframes]
    constructor
    · rw [gt_iff_lt, BitVec.not_lt, BitVec.le_def]
      have hsub' : ((l.ends.view e).rx.wCount - (l.ends.view e).rx.rCount).toNat = _ := hsub
      omega
    · exact hlane.ring.ne_iff.mpr hne
  have hpos : (l.ends.view e).ivc.rPos < (l.ends.view e).ivc.nframes := by
    rw [hnframes]
    exact h.rPos_lt e
  have haddr : FrameAddressable (l.ends.view e) (l.ends.view e).ivc.rxHandle (l.ends.view e).ivc.rPos := by
    intro hdevice
    have hdevice' : (l.ends e).ivc.peerDevice = true := hdevice
    rw [hpeer] at hdevice'
    cases hdevice'
  have hexec := exec_tegraIvcRead hcheck hpos haddr
  rw [hsize] at hexec
  have hcode : (IvcCall.read (fs.setWidth 64)).code.exec (l.ends.view e) =
      .ok (.code (toInt32 (fs.setWidth 64)) (slice (l.ends.view e).rxFrames (readOffset (l.ends.view e))
        (fs.setWidth 64).toNat), afterRead (l.ends.view e)) :=
    (Prog.exec_bind_of_ok hexec).trans rfl
  have hends := exec_of_ok hcode
  have hread : (IvcCall.read (fs.setWidth 64)).isData = true := rfl
  refine ⟨_, by simp only [linkStep, hread, if_true, hends, Option.map_some]; rfl, ?_, ?_⟩
  · have hcount : (afterRead (l.ends.view e)).rx.rCount ≠ (l.ends.view e).rx.rCount := wCount_succ_ne _
    simp [Ledger.record, hcount]
  · simp

end

/-- One end writes a frame and the other one reads it, `k` times. -/
def ivcRounds (k : ℕ) : List LinkAction :=
  (List.replicate k [.call .a (.write (fun _ => 0) 64), .call .b (.read 64)]).flatten

theorem ivcRounds_succ (k : ℕ) :
    ivcRounds (k + 1) = ivcRounds k ++ [.call .a (.write (fun _ => 0) 64), .call .b (.read 64)] := by
  simp [ivcRounds, List.replicate_succ']

theorem run_ivcRounds (k : ℕ) :
    ∃ l, run linkStep threeFrameLink (ivcRounds k) = some l ∧ (l.ledger .a).published.length = k ∧
      (l.ledger .b).consumed.length = k := by
  induction k with
  | zero => exact ⟨threeFrameLink, rfl, rfl, rfl⟩
  | succ k ih =>
    obtain ⟨l, hrun, hpublished, hconsumed⟩ := ih
    have hn : (1 : U32) ≤ 3 := by decide
    obtain ⟨-, hpeerA, -⟩ := sameSetup_run hrun .a
    have hthree : (3 : U32).toNat = 3 := by simp
    obtain ⟨l₁, hwrite, hpublished₁, hother₁⟩ :=
      linkStep_write (linkInv_run hn threeFrameLink_start hrun) (e := .a)
        (established_run threeFrameLink_start hrun .a) hpeerA (by
          show (l.ledger .a).published.length < (l.ledger .b).consumed.length + (3 : U32).toNat
          omega) (fun _ => 0)
    have hrun₁ : run linkStep threeFrameLink
        (ivcRounds k ++ [.call .a (.write (fun _ => 0) 64)]) = some l₁ := by
      rw [run_append, hrun, Option.bind_some]
      exact run_cons_eq_some.mpr ⟨l₁, hwrite, rfl⟩
    have hother₁' : l₁.ledger .b = l.ledger .b := hother₁
    obtain ⟨-, hpeerB, -⟩ := sameSetup_run hrun₁ .b
    obtain ⟨l₂, hread, hconsumed₂, hother₂⟩ :=
      linkStep_read (linkInv_run hn threeFrameLink_start hrun₁) (e := .b)
        (established_run threeFrameLink_start hrun₁ .b) hpeerB (by
          show (l₁.ledger .b).consumed.length < (l₁.ledger .a).published.length
          rw [hother₁']
          omega)
    have hother₂' : l₂.ledger .a = l₁.ledger .a := hother₂
    refine ⟨l₂, ?_, ?_, ?_⟩
    · rw [ivcRounds_succ, run_append, hrun, Option.bind_some]
      exact run_cons_eq_some.mpr ⟨l₁, hwrite, run_cons_eq_some.mpr ⟨l₂, hread, rfl⟩⟩
    · rw [hother₂', hpublished₁, hpublished]
    · rw [hconsumed₂, hother₁', hconsumed]

/-- The ends of a link have written a frame without reading one after `2 ^ 32 - 1` rounds. -/
def wrappingRun : List LinkAction :=
  ivcRounds (2 ^ 32 - 1) ++ [.call .a (.write (fun _ => 0) 64)]

theorem run_wrappingRun :
    ∃ l, run linkStep threeFrameLink wrappingRun = some l ∧ (l.ledger .a).published.length = 2 ^ 32 ∧
      (l.ledger .b).consumed.length = 2 ^ 32 - 1 := by
  obtain ⟨l, hrun, hpublished, hconsumed⟩ := run_ivcRounds (2 ^ 32 - 1)
  have hthree : (3 : U32).toNat = 3 := by simp
  obtain ⟨-, hpeer, -⟩ := sameSetup_run hrun .a
  have hfree : (l.ledger .a).published.length < (l.ledger .b).consumed.length + (3 : U32).toNat := by omega
  obtain ⟨l₁, hwrite, hpublished₁, hother₁⟩ :=
    linkStep_write (linkInv_run (by decide) threeFrameLink_start hrun) (e := .a)
      (established_run threeFrameLink_start hrun .a) hpeer hfree (fun _ => 0)
  have hother₁' : l₁.ledger .b = l.ledger .b := hother₁
  refine ⟨l₁, ?_, ?_, ?_⟩
  · rw [wrappingRun, run_append, hrun, Option.bind_some]
    exact run_cons_eq_some.mpr ⟨l₁, hwrite, rfl⟩
  · omega
  · rw [hother₁', hconsumed]

/-- Two frames are free, and the function reaches `BUG()`. -/
theorem ivc_frames_available_bug : ∃ l, run linkStep threeFrameLink wrappingRun = some l ∧
      tegraIvcTxFramesAvailable.exec (l.ends.view .a) = .error .safeSubtractU32 ∧
      ¬ FramesAvailableExact (l.ends.view .a) := by
  obtain ⟨l, hrun, hpublished, hconsumed⟩ := run_wrappingRun
  have hring := ((linkInv_run (by decide) threeFrameLink_start hrun).lane .a).ring
  have hw : (l.ends.view .a).tx.wCount.toNat = 0 := by
    have hwritten : (l.ends.view .a).tx.wCount = BitVec.ofNat 32 _ := hring.written
    rw [hwritten, hpublished, BitVec.toNat_ofNat, Nat.mod_self]
  have hr : (l.ends.view .a).tx.rCount.toNat = 2 ^ 32 - 1 := by
    have hread : (l.ends.view .a).tx.rCount = BitVec.ofNat 32 (l.ledger .b).consumed.length := hring.read
    rw [hread, hconsumed, BitVec.toNat_ofNat, Nat.mod_eq_of_lt (by omega)]
  have hle : ¬ (l.ends.view .a).tx.rCount ≤ (l.ends.view .a).tx.wCount := by
    rw [BitVec.le_def]
    omega
  have hadd : (safeAddU32 ((l.ends.view .a).ivc.txHandle.setWidth 32)
      (BitVec.ofNat 32 offsetofRCount)).exec (l.ends.view .a) =
        .ok (BitVec.ofNat 32 offsetofRCount, l.ends.view .a) := by
    obtain ⟨-, -, hhandle⟩ := sameSetup_run hrun .a
    have hhandle' : (l.ends.view .a).ivc.txHandle = 0 := hhandle
    rw [hhandle']
    rfl
  have hbug : tegraIvcTxFramesAvailable.exec (l.ends.view .a) = .error .safeSubtractU32 := by
    unfold tegraIvcTxFramesAvailable
    rw [Prog.exec_bind_of_ok (exec_getIvc _), Prog.exec_bind_of_ok hadd,
      Prog.exec_bind_of_ok (exec_readOnce .tx .wCount _), Prog.exec_bind_of_ok (exec_readOnce .tx .rCount _)]
    apply Prog.exec_bind_of_error
    exact safeSubtractU32_of_lt hle
  refine ⟨l, hrun, hbug, ?_⟩
  rintro ⟨v, hexec, -⟩
  rw [hbug] at hexec
  cases hexec

/-! ## Positions -/

theorem exec_tegraIvcChannelSync (hn : s.ivc.nframes ≠ 0) :
    tegraIvcChannelSync.exec s = .ok (0, { s with ivc := { s.ivc with
      wPos := s.tx.wCount % s.ivc.nframes, rPos := s.rx.rCount % s.ivc.nframes } }) := by
  unfold tegraIvcChannelSync
  rw [Prog.exec_bind_of_ok (exec_getIvc s), if_neg hn]
  rfl

theorem syncKeepsPositions_iff (hn : s.ivc.nframes ≠ 0) : SyncKeepsPositions s ↔
      s.tx.wCount % s.ivc.nframes = s.ivc.wPos ∧ s.rx.rCount % s.ivc.nframes = s.ivc.rPos := by
  unfold SyncKeepsPositions
  rw [exec_tegraIvcChannelSync hn]
  constructor
  · intro h
    have hivc := congrArg IvcWorld.ivc (Prod.mk.inj (Except.ok.inj h)).2
    exact ⟨congrArg Ivc.wPos hivc, congrArg Ivc.rPos hivc⟩
  · rintro ⟨hw, hr⟩
    rw [hw, hr]

/-- In every state that the two ends reach, synchronising an end keeps its positions if and only if its
counters have lost multiples of the number of frames. -/
theorem ivc_sync_keeps_positions_iff {l₀ l : IvcLink} {as : List LinkAction} (hn : 1 ≤ n)
    (hstart : LinkStart n fs l₀) (hrun : run linkStep l₀ as = some l) (e : End) :
    SyncKeepsPositions (l.ends.view e) ↔ n.toNat ∣ 2 ^ 32 * ((l.ledger e).published.length / 2 ^ 32) ∧
        n.toNat ∣ 2 ^ 32 * ((l.ledger e).consumed.length / 2 ^ 32) := by
  have hinv := linkInv_run hn hstart hrun
  have hnframes : (l.ends.view e).ivc.nframes = n := hinv.nframes e
  have hne : (l.ends.view e).ivc.nframes ≠ 0 := by
    rw [hnframes]
    exact (BitVec.pos_iff_ne_zero n).mp hinv.npos
  have hreader := hinv.lane e.other
  rw [End.other_other] at hreader
  rw [syncKeepsPositions_iff hne, hnframes, ← (hinv.lane e).ring.umod_written_iff, ← hreader.ring.umod_read_iff]
  rfl

/-- Nothing has gone round yet. -/
theorem threeFrameRun_synchronised : ∃ l, run linkStep threeFrameLink threeFrameRun = some l ∧
      (SyncKeepsPositions (l.ends.view .b) ↔ (3 : U32).toNat ∣ 2 ^ 32 * (0 / 2 ^ 32) ∧
        (3 : U32).toNat ∣ 2 ^ 32 * (1 / 2 ^ 32)) := by
  have hsome : (run linkStep threeFrameLink threeFrameRun).isSome = true := by decide
  refine ⟨_, (Option.some_get hsome).symm, ?_⟩
  exact ivc_sync_keeps_positions_iff (by decide) threeFrameLink_start (Option.some_get hsome).symm .b

/-- After `2 ^ 32` frames the counters are at the first frame of three, and the positions at the second
one. -/
theorem ivc_sync_moves_positions : ∃ l, run linkStep threeFrameLink (ivcRounds (2 ^ 32)) = some l ∧
      (l.ends.view .a).tx.wCount = 0 ∧ (l.ends.view .a).ivc.wPos = 1 ∧ ¬ SyncKeepsPositions (l.ends.view .a) := by
  obtain ⟨l, hrun, hpublished, -⟩ := run_ivcRounds (2 ^ 32)
  have hinv := linkInv_run (by decide) threeFrameLink_start hrun
  have hring := (hinv.lane .a).ring
  have hthree : (3 : U32).toNat = 3 := by simp
  have hw : (l.ends.view .a).tx.wCount = 0 := by
    have hwritten : (l.ends.view .a).tx.wCount = BitVec.ofNat 32 (l.ledger .a).published.length :=
      hring.written
    rw [hwritten, hpublished]
    decide
  have hpos : (l.ends.view .a).ivc.wPos = 1 := by
    have hposition : (l.ends.view .a).ivc.wPos.toNat = (l.ledger .a).published.length % (3 : U32).toNat :=
      hring.wPos
    apply BitVec.eq_of_toNat_eq
    rw [hposition, hpublished, hthree]
    simp
  have hnframes : (l.ends.view .a).ivc.nframes = 3 := hinv.nframes .a
  have hne : (l.ends.view .a).ivc.nframes ≠ 0 := by
    rw [hnframes]
    decide
  refine ⟨l, hrun, hw, hpos, ?_⟩
  rw [syncKeepsPositions_iff hne, hw, hpos, hnframes]
  rintro ⟨hzero, -⟩
  revert hzero
  decide

end NvidiaOot.Analysis
