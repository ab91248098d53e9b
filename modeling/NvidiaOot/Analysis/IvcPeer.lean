import NvidiaOot.Analysis.IvcCalls

/-!
# An endpoint is safe against its peer

The peer's counters are read several times inside one call and may be anything each time,
so nothing is assumed about them.  What holds at all times is local (`GoodIvc`): both
positions are below the number of frames.  Each function of tegra-ivc.c has one rule for
`Prog.Holds`; a rule fixes the endpoint's `struct ivc` before the function, and its last
hypothesis is what must hold afterwards.
-/

namespace NvidiaOot.Analysis

open Library Program Model

variable {Q : Unit → List IvcEvent → IvcWorld → Prop} {ch : Side} {v : U32} {len off : ℕ}

variable {n fs : U32}

/-- The endpoint's own data between any two accesses. -/
structure GoodIvc (n fs : U32) (i : Ivc) : Prop where
  nframes : i.nframes = n
  frameSize : i.frameSize = fs
  wPos : i.wPos < n
  rPos : i.rPos < n

def peer (n fs : U32) : Environment IvcWorld where
  rely := PeerMay
  inv s := GoodIvc n fs s.ivc
  rely_refl _ := rfl
  rely_trans _ _ _ h h' := h'.trans h
  inv_stable _ _ h h' := by rwa [h']

def promise (n fs : U32) (c : IvcCall) : Promise IvcEvent IvcBug where
  event := AccessOk n fs c
  bug b := b ≠ .framePointer ∧ b ≠ .frameHandle

section

variable {c : IvcCall} {α : Type} {i : Ivc} {s : IvcWorld} {tr : List IvcEvent}

abbrev Post (α : Type) := α → List IvcEvent → IvcWorld → Prop

abbrev Safe (n fs : U32) (c : IvcCall) (p : IvcProg α)
    (Q : Post α) (tr : List IvcEvent) (s : IvcWorld) : Prop :=
  Prog.Holds (peer n fs) (promise n fs c) p Q tr s

theorem peer_inv (hi : GoodIvc n fs i) (hs : s.ivc = i) : (peer n fs).inv s := by
  rw [← hs] at hi
  exact hi

theorem safe_bind {β : Type} {Q : Post β} {p : IvcProg α} {g : α → IvcProg β}
    (h : Safe n fs c p (fun a => Safe n fs c (g a) Q) tr s) : Safe n fs c (p >>= g) Q tr s :=
  (Prog.holds_bind _ _ _ _ _ _ _).mpr h

theorem safe_ite {Q : Post α} {test : Prop} [Decidable test] {p p' : IvcProg α}
    (h : test → Safe n fs c p Q tr s) (h' : ¬ test → Safe n fs c p' Q tr s) :
    Safe n fs c (if test then p else p') Q tr s := by
  split
  · exact h ‹_›
  · exact h' ‹_›

theorem snapshot_of_loads {w r : U32} (h : 1 ≤ (w - r).toNat) (hle : w - r ≤ n) (tr : List IvcEvent) :
    Snapshot n (.load .rx .rCount r :: .load .rx .wCount w :: tr) :=
  ⟨w, r, [], tr, rfl, fun _ => List.not_mem_nil, h, hle⟩

theorem snapshot_cons {e : IvcEvent} (h : Snapshot n tr) (he : ∀ v, e ≠ .load .rx .wCount v) :
    Snapshot n (e :: tr) := by
  obtain ⟨w, r, later, earlier, rfl, hlater, hle⟩ := h
  refine ⟨w, r, e :: later, earlier, rfl, fun v hv => ?_, hle⟩
  rcases List.mem_cons.mp hv with heq | hmem
  · exact he v heq.symm
  · exact hlater v hmem

theorem safe_safeAddU64 {a b : U64} {Q : Post U64} (hQ : ∀ v, Q v tr s) :
    Safe n fs c (safeAddU64 a b) Q tr s := by
  unfold safeAddU64
  split
  · exact ⟨IvcBug.noConfusion, IvcBug.noConfusion⟩
  · exact hQ _

theorem safe_safeMultU32U32U64 {a b : U32} {Q : Post U64} (hQ : ∀ v, Q v tr s) :
    Safe n fs c (safeMultU32U32U64 a b) Q tr s := by
  unfold safeMultU32U32U64
  split
  · exact ⟨IvcBug.noConfusion, IvcBug.noConfusion⟩
  · exact hQ _

/-- Copies out of the current frame are access promises that hold on a snapshot. -/
theorem copyOut_ok (harea : n.toNat * fs.toNat < 2 ^ 32) (hi : GoodIvc n fs i) (hsnap : Snapshot n tr)
    (hlen : off + len ≤ fs.toNat) :
    AccessOk n fs c tr (.copyOut (frameOffset i i.rPos + off) len) := by
  have hframe := frameOffset_add_le harea hi.frameSize (show i.rPos.toNat < n.toNat from hi.rPos)
  exact ⟨by omega, hsnap⟩

variable (hi : GoodIvc n fs i) (hs : s.ivc = i)

include hi hs

/-! ## Single accesses -/

theorem safe_readOnce {f : Field} {Q : Post U32} (hQ : ∀ v s', s'.ivc = i → Q v (.load ch f v :: tr) s') :
    Safe n fs c (readOnce ch f) Q tr s := by
  refine ⟨trivial, peer_inv hi hs, fun s' hs' => ?_⟩
  exact hQ _ s' (Eq.trans hs' hs)

theorem safe_writeOnce {f : Field} (hev : AccessOk n fs c tr (.store ch f v))
    (hQ : ∀ s', s'.ivc = i → Q () (.store ch f v :: tr) s') : Safe n fs c (writeOnce ch f v) Q tr s := by
  have hstore : (s.store ch f v).ivc = i := by cases ch <;> exact hs
  refine ⟨hev, peer_inv hi hstore, fun s' hs' => ?_⟩
  exact hQ s' (Eq.trans hs' hstore)

theorem safe_getIvc {Q : Post Ivc} (hQ : ∀ s', s'.ivc = i → Q i tr s') : Safe n fs c getIvc Q tr s := by
  refine ⟨peer_inv hi hs, fun s' hs' => ?_⟩
  rw [Prog.holds_ret, hs]
  exact hQ s' (Eq.trans hs' hs)

theorem safe_setWPos (hv : v < n)
    (hQ : GoodIvc n fs { i with wPos := v } → ∀ s', s'.ivc = { i with wPos := v } → Q () tr s') :
    Safe n fs c (setWPos v) Q tr s := by
  subst hs
  have hgood : GoodIvc n fs { s.ivc with wPos := v } := { hi with wPos := hv }
  exact ⟨hgood, fun s' hs' => hQ hgood s' hs'⟩

theorem safe_setRPos (hv : v < n)
    (hQ : GoodIvc n fs { i with rPos := v } → ∀ s', s'.ivc = { i with rPos := v } → Q () tr s') :
    Safe n fs c (setRPos v) Q tr s := by
  subst hs
  have hgood : GoodIvc n fs { s.ivc with rPos := v } := { hi with rPos := hv }
  exact ⟨hgood, fun s' hs' => hQ hgood s' hs'⟩

theorem safe_copyFromFrame {Q : Post (List U8)} (hev : AccessOk n fs c tr (.copyOut off len))
    (hQ : ∀ data s', s'.ivc = i → Q data (.copyOut off len :: tr) s') :
    Safe n fs c (copyFromFrame off len) Q tr s := by
  refine ⟨hev, peer_inv hi hs, fun s' hs' => ?_⟩
  exact hQ _ s' (Eq.trans hs' hs)

theorem safe_copyToFrame {src : ℕ → U8} (hlen : off + len ≤ n.toNat * fs.toNat)
    (hQ : ∀ s', s'.ivc = i → Q () (.copyIn off len :: tr) s') :
    Safe n fs c (copyToFrame off len src) Q tr s := by
  refine ⟨hlen, peer_inv hi hs, fun s' hs' => ?_⟩
  exact hQ s' (Eq.trans hs' hs)

theorem safe_notify (hQ : ∀ s', s'.ivc = i → Q () (.notify :: tr) s') :
    Safe n fs c notify Q tr s := by
  refine ⟨trivial, peer_inv hi hs, fun s' hs' => ?_⟩
  exact hQ s' (Eq.trans hs' hs)

/-! ## Counter tests -/

theorem safe_ivcChannelEmpty {Q : Post Bool}
    (hQ : ∀ b tr' s', s'.ivc = i → (b = false → Snapshot n tr') → Q b tr' s') :
    Safe n fs c (ivcChannelEmpty .rx) Q tr s := by
  unfold ivcChannelEmpty
  refine safe_bind (safe_readOnce hi hs fun w s₁ hs₁ => ?_)
  refine safe_bind (safe_readOnce hi hs₁ fun r s₂ hs₂ => ?_)
  refine safe_bind (safe_getIvc hi hs₂ fun s₃ hs₃ => ?_)
  rw [hi.nframes]
  split_ifs with hover
  · exact hQ _ _ s₃ hs₃ fun h => by cases h
  · refine hQ _ _ s₃ hs₃ fun h => ?_
    rw [decide_eq_false_iff_not] at h
    exact snapshot_of_loads (by bv_omega) (BitVec.not_lt.mp hover) tr

theorem safe_ivcChannelFull {Q : Post Bool} (hQ : ∀ b tr' s', s'.ivc = i → Q b tr' s') :
    Safe n fs c (ivcChannelFull .tx) Q tr s := by
  unfold ivcChannelFull
  refine safe_bind (safe_readOnce hi hs fun w s₁ hs₁ => ?_)
  refine safe_bind (safe_readOnce hi hs₁ fun r s₂ hs₂ => ?_)
  exact safe_bind (safe_getIvc hi hs₂ fun s₃ hs₃ => hQ _ _ s₃ hs₃)

theorem safe_ivcCheckRead {Q : Post ℤ} (hQ : ∀ r tr' s', s'.ivc = i → (r = 0 → Snapshot n tr') → Q r tr' s') :
    Safe n fs c ivcCheckRead Q tr s := by
  unfold ivcCheckRead
  refine safe_bind (safe_readOnce hi hs fun state s₁ hs₁ => ?_)
  refine safe_ite (fun _ => hQ _ _ s₁ hs₁ fun h => absurd h (by decide)) fun hstate => ?_
  refine safe_bind (safe_ivcChannelEmpty hi hs₁ fun b tr₂ s₂ hs₂ hsnap => ?_)
  cases b with
  | false => exact hQ _ _ s₂ hs₂ fun _ => hsnap rfl
  | true =>
    refine safe_bind (safe_ivcChannelEmpty hi hs₂ fun b tr₃ s₃ hs₃ hsnap => ?_)
    cases b with
    | false => exact hQ _ _ s₃ hs₃ fun _ => hsnap rfl
    | true => exact hQ _ _ s₃ hs₃ fun h => absurd h (by decide)

theorem safe_ivcCheckWrite {Q : Post ℤ} (hQ : ∀ r tr' s', s'.ivc = i → Q r tr' s') :
    Safe n fs c ivcCheckWrite Q tr s := by
  unfold ivcCheckWrite
  refine safe_bind (safe_readOnce hi hs fun state s₁ hs₁ => ?_)
  refine safe_ite (fun _ => hQ _ _ s₁ hs₁) fun hstate => ?_
  refine safe_bind (safe_ivcChannelFull hi hs₁ fun b tr₂ s₂ hs₂ => ?_)
  cases b with
  | false => exact hQ _ _ s₂ hs₂
  | true =>
    refine safe_bind (safe_ivcChannelFull hi hs₂ fun b tr₃ s₃ hs₃ => ?_)
    cases b <;> exact hQ _ _ s₃ hs₃

theorem safe_notifyIfAvailCount {count : U32} (hQ : ∀ tr' s', s'.ivc = i → Q () tr' s') :
    Safe n fs c (notifyIfAvailCount ch count) Q tr s := by
  unfold notifyIfAvailCount ivcChannelAvailCount
  refine safe_bind (safe_bind (safe_readOnce hi hs fun w s₁ hs₁ => ?_))
  refine safe_bind (safe_readOnce hi hs₁ fun r s₂ hs₂ => ?_)
  exact safe_ite (fun _ => safe_notify hi hs₂ fun s₃ hs₃ => hQ _ s₃ hs₃) fun _ => hQ _ s₂ hs₂

/-! ## Advancing -/

theorem safe_ivcAdvanceTx (hQ : ∀ i' tr' s', GoodIvc n fs i' → s'.ivc = i' → Q () tr' s') :
    Safe n fs c ivcAdvanceTx Q tr s := by
  have hnext : ringNext i.nframes i.wPos < n := by
    rw [hi.nframes]
    exact ringNext_lt hi.wPos
  unfold ringNext at hnext
  unfold ivcAdvanceTx
  refine safe_bind (safe_readOnce hi hs fun w s₁ hs₁ => ?_)
  refine safe_bind (safe_writeOnce hi hs₁ trivial fun s₂ hs₂ => ?_)
  refine safe_bind (safe_getIvc hi hs₂ fun s₃ hs₃ => ?_)
  by_cases hlast : i.wPos = i.nframes - 1
  · rw [if_pos hlast] at hnext ⊢
    exact safe_setWPos hi hs₃ hnext fun hgood s₄ hs₄ => hQ _ _ s₄ hgood hs₄
  · rw [if_neg hlast] at hnext ⊢
    exact safe_setWPos hi hs₃ hnext fun hgood s₄ hs₄ => hQ _ _ s₄ hgood hs₄

theorem safe_ivcAdvanceRx (hsnap : Snapshot n tr)
    (hQ : ∀ i' tr' s', GoodIvc n fs i' → s'.ivc = i' → Q () tr' s') : Safe n fs c ivcAdvanceRx Q tr s := by
  have hnext : ringNext i.nframes i.rPos < n := by
    rw [hi.nframes]
    exact ringNext_lt hi.rPos
  unfold ringNext at hnext
  unfold ivcAdvanceRx
  refine safe_bind (safe_readOnce hi hs fun r s₁ hs₁ => ?_)
  refine safe_bind (safe_writeOnce hi hs₁ (fun _ => snapshot_cons hsnap fun v h => by cases h) fun s₂ hs₂ => ?_)
  refine safe_bind (safe_getIvc hi hs₂ fun s₃ hs₃ => ?_)
  by_cases hlast : i.rPos = i.nframes - 1
  · rw [if_pos hlast] at hnext ⊢
    exact safe_setRPos hi hs₃ hnext fun hgood s₄ hs₄ => hQ _ _ s₄ hgood hs₄
  · rw [if_neg hlast] at hnext ⊢
    exact safe_setRPos hi hs₃ hnext fun hgood s₄ hs₄ => hQ _ _ s₄ hgood hs₄

/-! ## Frame addresses -/

theorem safe_ivcFramePointer {frame : U32} {Q : Post ℕ} (hframe : frame < n)
    (hQ : ∀ s', s'.ivc = i → Q (frameOffset i frame) tr s') : Safe n fs c (ivcFramePointer frame) Q tr s := by
  unfold ivcFramePointer
  refine safe_bind (safe_getIvc hi hs fun s₁ hs₁ => ?_)
  rw [if_neg (by rw [hi.nframes]; exact BitVec.not_le.mpr hframe)]
  exact hQ s₁ hs₁

/-- The cache maintenance of a frame of the ring reaches neither `BUG_ON` of
`ivc_frame_handle`. -/
theorem safe_ivcInvalidateFrame {handle : U64} {frame : U32} {offset : U64} (hframe : frame < n)
    (hQ : ∀ s', s'.ivc = i → Q () tr s') :
    Safe n fs c (ivcInvalidateFrame handle frame offset) Q tr s := by
  unfold ivcInvalidateFrame
  refine safe_bind (safe_getIvc hi hs fun s₁ hs₁ => ?_)
  refine safe_ite (fun _ => hQ s₁ hs₁) fun hpeer => ?_
  unfold ivcFrameHandle
  refine safe_bind (safe_bind (safe_getIvc hi hs₁ fun s₂ hs₂ => ?_))
  rw [if_neg hpeer, if_neg (by rw [hi.nframes]; exact BitVec.not_le.mpr hframe)]
  generalize BitVec.ofNat 64 sizeofIvcChannelHeader = header
  refine safe_bind (safe_safeAddU64 fun base => ?_)
  refine safe_bind (safe_safeMultU32U32U64 fun off => ?_)
  refine safe_safeAddU64 fun addr => ?_
  exact safe_bind (safe_safeAddU64 fun _ => hQ s₂ hs₂)

/-! ## Receive calls -/

theorem safe_ivcReadFrame {buf : CopyBuffer} {maxRead : U64} {Q : Post (ℤ × List U8)}
    (harea : n.toNat * fs.toNat < 2 ^ 32) (hbuf : buf ≠ .none) (hQ : ∀ r tr' s', Q r tr' s') :
    Safe n fs c (ivcReadFrame buf maxRead) Q tr s := by
  unfold ivcReadFrame
  refine safe_bind (safe_getIvc hi hs fun s₁ hs₁ => ?_)
  rw [hi.frameSize]
  refine safe_ite (fun _ => hQ _ _ _) fun hsize => ?_
  refine safe_bind (safe_ivcCheckRead hi hs₁ fun r tr₂ s₂ hs₂ hsnap => ?_)
  refine safe_ite (fun _ => hQ _ _ _) fun hr => ?_
  have hsnap := hsnap (not_not.mp hr)
  have hlen : 0 + maxRead.toNat ≤ fs.toNat := by bv_omega
  refine safe_bind (safe_ivcInvalidateFrame hi hs₂ hi.rPos fun s₃ hs₃ => ?_)
  refine safe_bind (safe_ivcFramePointer hi hs₃ hi.rPos fun s₄ hs₄ => ?_)
  have hcopy := copyOut_ok (c := c) harea hi hsnap hlen
  have hrest : ∀ data s₅, s₅.ivc = i → Prog.Holds (peer n fs) (promise n fs c)
      (if buf = .user true then return (-eFAULT, []) else do
        ivcAdvanceRx
        notifyIfAvailCount .rx (i.nframes - 1)
        return (toInt32 maxRead, data)) Q
      (.copyOut (frameOffset i i.rPos) maxRead.toNat :: tr₂) s₅ := by
    intro data s₅ hs₅
    split_ifs with hfault
    · exact hQ _ _ _
    rw [Prog.holds_bind]
    refine safe_ivcAdvanceRx hi hs₅ (snapshot_cons hsnap fun v h => by cases h)
      fun i' tr₆ s₆ hi' hs₆ => ?_
    exact safe_bind (safe_notifyIfAvailCount hi' hs₆ fun tr₇ s₇ _ => hQ _ _ _)
  cases buf with
  | none => exact absurd rfl hbuf
  | kernel | user faults => exact safe_copyFromFrame hi hs₄ hcopy hrest

theorem safe_tegraIvcReadPeek {off count : U64} {Q : Post (ℤ × List U8)} (harea : n.toNat * fs.toNat < 2 ^ 32)
    (hQ : ∀ r tr' s', Q r tr' s') :
    Safe n fs c (tegraIvcReadPeek off count) Q tr s := by
  unfold tegraIvcReadPeek
  refine safe_ite (fun _ => hQ _ _ _) fun hsum => ?_
  refine safe_bind (safe_getIvc hi hs fun s₁ hs₁ => ?_)
  rw [hi.frameSize]
  refine safe_ite (fun _ => hQ _ _ _) fun hsize => ?_
  refine safe_bind (safe_ivcCheckRead hi hs₁ fun r tr₂ s₂ hs₂ hsnap => ?_)
  refine safe_ite (fun _ => hQ _ _ _) fun hr => ?_
  have hlen : off.toNat + count.toNat ≤ fs.toNat := by
    have := isU64AdditionSafe_iff.mp (by simpa using hsum)
    bv_omega
  refine safe_bind (safe_ivcInvalidateFrame hi hs₂ hi.rPos fun s₃ hs₃ => ?_)
  refine safe_bind (safe_ivcFramePointer hi hs₃ hi.rPos fun s₄ hs₄ => ?_)
  exact safe_copyFromFrame hi hs₄ (copyOut_ok harea hi (hsnap (not_not.mp hr)) hlen) fun _ _ _ => hQ _ _ _

theorem safe_tegraIvcReadGetNextFrame {Q : Post (Except ℤ ℕ)}
    (hQ : ∀ r tr' s', (∀ p, r = .ok p → p = frameOffset i i.rPos ∧ Snapshot n tr') →
      Q r tr' s') : Safe n fs c tegraIvcReadGetNextFrame Q tr s := by
  unfold tegraIvcReadGetNextFrame
  refine safe_bind (safe_ivcCheckRead hi hs fun r tr₁ s₁ hs₁ hsnap => ?_)
  refine safe_ite (fun _ => hQ _ _ _ fun p hp => by cases hp) fun hr => ?_
  refine safe_bind (safe_getIvc hi hs₁ fun s₂ hs₂ => ?_)
  refine safe_bind (safe_ivcInvalidateFrame hi hs₂ hi.rPos fun s₃ hs₃ => ?_)
  refine safe_bind (safe_ivcFramePointer hi hs₃ hi.rPos fun s₄ hs₄ => ?_)
  refine hQ _ _ _ fun p hp => ?_
  cases hp
  exact ⟨rfl, hsnap (not_not.mp hr)⟩

theorem safe_tegraIvcReadAdvance {Q : Post ℤ} (hQ : ∀ r tr' s', Q r tr' s') :
    Safe n fs c tegraIvcReadAdvance Q tr s := by
  unfold tegraIvcReadAdvance
  refine safe_bind (safe_ivcCheckRead hi hs fun r tr₁ s₁ hs₁ hsnap => ?_)
  refine safe_ite (fun _ => hQ _ _ _) fun hr => ?_
  refine safe_bind (safe_getIvc hi hs₁ fun s₂ hs₂ => ?_)
  generalize BitVec.ofNat 64 offsetofRCount = rOffset
  generalize BitVec.ofNat 64 offsetofWCount = wOffset
  -- the three range tests return
  split
  · exact hQ _ _ _
  split
  · exact hQ _ _ _
  split
  · exact hQ _ _ _
  refine safe_bind (safe_ivcAdvanceRx hi hs₂ (hsnap (not_not.mp hr)) fun i' tr₃ s₃ hi' hs₃ => ?_)
  exact safe_bind (safe_notifyIfAvailCount hi' hs₃ fun _ _ _ => hQ _ _ _)

/-! ## Transmit calls -/

theorem safe_ivcWriteFrame {buf : CopyBuffer} {contents : ℕ → U8} {size : U64} {Q : Post ℤ}
    (harea : n.toNat * fs.toNat < 2 ^ 32) (hbuf : buf ≠ .none) (hQ : ∀ r tr' s', Q r tr' s') :
    Safe n fs c (ivcWriteFrame buf contents size) Q tr s := by
  have hframe := frameOffset_add_le harea hi.frameSize (show i.wPos.toNat < n.toNat from hi.wPos)
  unfold ivcWriteFrame
  refine safe_bind (safe_getIvc hi hs fun s₁ hs₁ => ?_)
  rw [hi.frameSize]
  refine safe_ite (fun _ => hQ _ _ _) fun hsize => ?_
  have hlen : size.toNat ≤ fs.toNat := by bv_omega
  refine safe_bind (safe_ivcCheckWrite hi hs₁ fun r tr₂ s₂ hs₂ => ?_)
  refine safe_ite (fun _ => hQ _ _ _) fun hr => ?_
  refine safe_bind (safe_ivcFramePointer hi hs₂ hi.wPos fun s₃ hs₃ => ?_)
  have hrest : ∀ s₄, s₄.ivc = i → Safe n fs c
      (if buf = .user true then return -eFAULT else do
        copyToFrame (frameOffset i i.wPos + size.toNat) (fs.toNat - size.toNat) fun _ => 0
        ivcFlushFrame i.txHandle i.wPos 0
        ivcAdvanceTx
        notifyIfAvailCount .tx 1
        return toInt32 size) Q (.copyIn (frameOffset i i.wPos) size.toNat :: tr₂) s₄ := by
    intro s₄ hs₄
    refine safe_ite (fun _ => hQ _ _ _) fun hfault => ?_
    refine safe_bind (safe_copyToFrame hi hs₄ (by omega) fun s₅ hs₅ => ?_)
    refine safe_bind (safe_ivcInvalidateFrame hi hs₅ hi.wPos fun s₆ hs₆ => ?_)
    refine safe_bind (safe_ivcAdvanceTx hi hs₆ fun i' tr₇ s₇ hi' hs₇ => ?_)
    exact safe_bind (safe_notifyIfAvailCount hi' hs₇ fun _ _ _ => hQ _ _ _)
  cases buf with
  | none => exact absurd rfl hbuf
  | kernel | user faults => exact safe_bind (safe_copyToFrame hi hs₃ (by omega) hrest)

theorem safe_tegraIvcWritePoke {contents : ℕ → U8} {off count : U64} {Q : Post ℤ}
    (harea : n.toNat * fs.toNat < 2 ^ 32) (hQ : ∀ r tr' s', Q r tr' s') :
    Safe n fs c (tegraIvcWritePoke contents off count) Q tr s := by
  have hframe := frameOffset_add_le harea hi.frameSize (show i.wPos.toNat < n.toNat from hi.wPos)
  unfold tegraIvcWritePoke
  refine safe_ite (fun _ => hQ _ _ _) fun hsum => ?_
  refine safe_ite (fun _ => hQ _ _ _) fun _ => ?_
  refine safe_bind (safe_getIvc hi hs fun s₁ hs₁ => ?_)
  rw [hi.frameSize]
  refine safe_ite (fun _ => hQ _ _ _) fun hsize => ?_
  refine safe_bind (safe_ivcCheckWrite hi hs₁ fun r tr₂ s₂ hs₂ => ?_)
  refine safe_ite (fun _ => hQ _ _ _) fun hr => ?_
  have hlen : off.toNat + count.toNat ≤ fs.toNat := by
    bv_omega
  refine safe_bind (safe_ivcFramePointer hi hs₂ hi.wPos fun s₃ hs₃ => ?_)
  exact safe_bind (safe_copyToFrame hi hs₃ (by omega) fun _ _ => hQ _ _ _)

theorem safe_tegraIvcWriteGetNextFrame {Q : Post (Except ℤ ℕ)}
    (hQ : ∀ r tr' s', (∀ p, r = .ok p → p = frameOffset i i.wPos) → Q r tr' s') :
    Safe n fs c tegraIvcWriteGetNextFrame Q tr s := by
  unfold tegraIvcWriteGetNextFrame
  refine safe_bind (safe_ivcCheckWrite hi hs fun r tr₁ s₁ hs₁ => ?_)
  refine safe_ite (fun _ => hQ _ _ _ fun p hp => by cases hp) fun hr => ?_
  refine safe_bind (safe_getIvc hi hs₁ fun s₂ hs₂ => ?_)
  refine safe_bind (safe_ivcFramePointer hi hs₂ hi.wPos fun s₃ hs₃ => ?_)
  refine hQ _ _ _ fun p hp => ?_
  cases hp
  rfl

theorem safe_tegraIvcWriteAdvance {Q : Post ℤ} (hQ : ∀ r tr' s', Q r tr' s') :
    Safe n fs c tegraIvcWriteAdvance Q tr s := by
  unfold tegraIvcWriteAdvance
  refine safe_bind (safe_ivcCheckWrite hi hs fun r tr₁ s₁ hs₁ => ?_)
  refine safe_ite (fun _ => hQ _ _ _) fun hr => ?_
  refine safe_bind (safe_getIvc hi hs₁ fun s₂ hs₂ => ?_)
  refine safe_bind (safe_ivcInvalidateFrame hi hs₂ hi.wPos fun s₃ hs₃ => ?_)
  refine safe_bind (safe_ivcAdvanceTx hi hs₃ fun i' tr₄ s₄ hi' hs₄ => ?_)
  generalize BitVec.ofNat 32 offsetofRCount = rOffset
  split
  · exact hQ _ _ _
  exact safe_bind (safe_notifyIfAvailCount hi' hs₄ fun _ _ _ => hQ _ _ _)

/-! ## The reset protocol -/

theorem safe_tegraIvcChannelReset (hQ : ∀ tr' s', Q () tr' s') :
    Safe n fs c tegraIvcChannelReset Q tr s := by
  unfold tegraIvcChannelReset
  refine safe_bind (safe_writeOnce hi hs trivial fun s₁ hs₁ => ?_)
  exact safe_notify hi hs₁ fun _ _ => hQ _ _

theorem safe_resetCounters (hn : 0 < n) (hc : c.isReceive = false)
    (hQ : ∀ i' tr' s', GoodIvc n fs i' → s'.ivc = i' → Q () tr' s') : Safe n fs c resetCounters Q tr s := by
  unfold resetCounters
  refine safe_bind (safe_writeOnce hi hs trivial fun s₁ hs₁ => ?_)
  have hev : ∀ tr', AccessOk n fs c tr' (.store .rx .rCount 0) := by
    intro tr' hreceive
    rw [hc] at hreceive
    cases hreceive
  refine safe_bind (safe_writeOnce hi hs₁ (hev _) fun s₂ hs₂ => ?_)
  refine safe_bind (safe_setWPos hi hs₂ hn fun hi₃ s₃ hs₃ => ?_)
  exact safe_setRPos hi₃ hs₃ hn fun hi₄ s₄ hs₄ => hQ _ _ s₄ hi₄ hs₄

theorem safe_tegraIvcChannelNotified {Q : Post ℤ} (hn : 0 < n) (hc : c.isReceive = false)
    (hQ : ∀ r tr' s', Q r tr' s') :
    Safe n fs c tegraIvcChannelNotified Q tr s := by
  -- what follows every branch
  have htail : ∀ i' tr' s', GoodIvc n fs i' → s'.ivc = i' →
      Safe n fs c
        (do
          if (← readOnce .tx .state) = ivcStateEstablished then
            return 0
          return -eAGAIN : IvcProg ℤ) Q tr' s' := by
    intro i' tr' s' hi' hs'
    refine safe_bind (safe_readOnce hi' hs' fun state s₁ hs₁ => ?_)
    split <;> exact hQ _ _ _
  have hstore : ∀ i' tr' s' v, GoodIvc n fs i' → s'.ivc = i' →
      Safe n fs c
        (do
          writeOnce .tx .state v
          notify
          if (← readOnce .tx .state) = ivcStateEstablished then
            return 0
          return -eAGAIN : IvcProg ℤ) Q tr' s' := by
    intro i' tr' s' v hi' hs'
    refine safe_bind (safe_writeOnce hi' hs' trivial fun s₁ hs₁ => ?_)
    exact safe_bind (safe_notify hi' hs₁ fun s₂ => htail _ _ _ hi')
  unfold tegraIvcChannelNotified
  refine safe_bind (safe_readOnce hi hs fun peerState s₁ hs₁ => ?_)
  refine safe_ite (fun _ => safe_bind (safe_resetCounters hi hs₁ hn hc fun _ _ _ => hstore _ _ _ _)) fun hsync => ?_
  refine safe_bind (safe_readOnce hi hs₁ fun state s₂ hs₂ => ?_)
  refine safe_ite (fun _ => safe_bind (safe_resetCounters hi hs₂ hn hc fun _ _ _ => hstore _ _ _ _)) fun hack => ?_
  refine safe_bind (safe_readOnce hi hs₂ fun state' s₃ hs₃ => ?_)
  exact safe_ite (fun _ => hstore _ _ _ _ hi hs₃) fun _ => htail _ _ _ hi hs₃

theorem safe_tegraIvcChannelSync {Q : Post ℤ} (hn : 0 < n) (hQ : ∀ r tr' s', Q r tr' s') :
    Safe n fs c tegraIvcChannelSync Q tr s := by
  unfold tegraIvcChannelSync
  refine safe_bind (safe_getIvc hi hs fun s₁ hs₁ => ?_)
  rw [hi.nframes]
  refine safe_ite (fun _ => hQ _ _ _) fun hzero => ?_
  have hmod : ∀ x : U32, x % n < n := by
    intro x
    exact Nat.mod_lt _ (BitVec.lt_def.mp hn)
  refine safe_bind (safe_readOnce hi hs₁ fun w s₂ hs₂ => ?_)
  refine safe_bind (safe_setWPos hi hs₂ (hmod w) fun hi₃ s₃ hs₃ => ?_)
  refine safe_bind (safe_readOnce hi₃ hs₃ fun r s₄ hs₄ => ?_)
  exact safe_bind (safe_setRPos hi₃ hs₄ (hmod r) fun _ _ _ => hQ _ _ _)

omit hi hs in
/-- **Every call keeps its promise**, from every state with good positions. -/
theorem safe_code (harea : n.toNat * fs.toNat < 2 ^ 32) (hn : 0 < n) (c : IvcCall) (s : IvcWorld)
    (hi : GoodIvc n fs s.ivc) : Safe n fs c c.code (fun r tr _ => ResultOk n fs c r tr) [] s := by
  have hread := fun (i : Ivc) (h : GoodIvc n fs i) =>
    frameOffset_add_le harea h.frameSize (show i.rPos.toNat < n.toNat from h.rPos)
  have hwrite := fun (i : Ivc) (h : GoodIvc n fs i) =>
    frameOffset_add_le harea h.frameSize (show i.wPos.toNat < n.toNat from h.wPos)
  cases c with
  | read maxRead | readUser faults maxRead =>
    exact safe_bind (safe_ivcReadFrame hi rfl harea CopyBuffer.noConfusion fun _ _ _ => trivial)
  | readPeek off count =>
    exact safe_bind (safe_tegraIvcReadPeek hi rfl harea fun _ _ _ => trivial)
  | readGetNextFrame =>
    refine safe_bind (safe_tegraIvcReadGetNextFrame hi rfl fun r tr' s' hp => ?_)
    cases r with
    | error result => trivial
    | ok p =>
      obtain ⟨rfl, hsnap⟩ := hp p rfl
      exact ⟨hread _ hi, fun _ => hsnap⟩
  | readAdvance =>
    exact safe_bind (safe_tegraIvcReadAdvance hi rfl fun _ _ _ => trivial)
  | write contents size | writeUser faults contents size =>
    exact safe_bind (safe_ivcWriteFrame hi rfl harea CopyBuffer.noConfusion fun _ _ _ => trivial)
  | writePoke contents off count =>
    exact safe_bind (safe_tegraIvcWritePoke hi rfl harea fun _ _ _ => trivial)
  | writeGetNextFrame =>
    refine safe_bind (safe_tegraIvcWriteGetNextFrame hi rfl fun r tr' s' hp => ?_)
    cases r with
    | error result => trivial
    | ok p =>
      obtain rfl := hp p rfl
      exact ⟨hwrite _ hi, fun h => by cases h⟩
  | writeAdvance =>
    exact safe_bind (safe_tegraIvcWriteAdvance hi rfl fun _ _ _ => trivial)
  | channelReset =>
    exact safe_bind (safe_tegraIvcChannelReset hi rfl fun _ _ => trivial)
  | channelNotified =>
    exact safe_bind (safe_tegraIvcChannelNotified hi rfl hn rfl fun _ _ _ => trivial)
  | channelSync =>
    exact safe_bind (safe_tegraIvcChannelSync hi rfl hn fun _ _ _ => trivial)

end

/-- **An endpoint is safe against its peer**: whatever calls an initialised endpoint makes
and whatever the peer puts into shared memory between any two accesses, in every
configuration that the endpoint reaches both positions are below `nframes`, every copy and
every frame pointer stays inside the frame area, the `BUG_ON`s of `ivc_frame_pointer` and
`ivc_frame_handle` are not reached, and a receive call takes a frame only on a snapshot of
between one and `nframes` frames.
SOURCE: tegra-ivc.c:188-296, 330-335, 368-533, 613-638 -/
theorem ivc_safe_against_peer {s : IvcWorld} {x : IvcConfig} (hinit : Initialised s.ivc)
    (hn : 1 ≤ s.ivc.nframes) (hx : Prog.Reachable IvcCall.code PeerMay s x) :
    SafeConfig s.ivc.nframes s.ivc.frameSize x := by
  have hpos : 0 < s.ivc.nframes := by bv_omega
  obtain ⟨hw, hr, harea⟩ := initialised_facts hinit
  have hgood : GoodIvc s.ivc.nframes s.ivc.frameSize s.ivc :=
    ⟨rfl, rfl, hw ▸ hpos, hr ▸ hpos⟩
  have hsound : Prog.Sound (peer s.ivc.nframes s.ivc.frameSize)
      (promise s.ivc.nframes s.ivc.frameSize)
      (fun c r tr _ => ResultOk s.ivc.nframes s.ivc.frameSize c r tr) x :=
    Prog.Reachable.sound (safe_code harea hpos) hgood hx
  refine ⟨hsound.inv.wPos, hsound.inv.rPos, ?_, ?_, ?_⟩
  · rintro c f k events t rfl
    exact hsound.event
  · rintro c b events t rfl
    exact hsound.bug
  · rintro c r events t rfl
    exact hsound.result

def freshWorld : IvcWorld := threeFrameEnds.view .a

/-- The peer claims an absurd number of frames before the endpoint reads. -/
def lyingWorld : IvcWorld :=
  { freshWorld with rx := { freshWorld.rx with wCount := 0xffffffff } }

theorem lyingWorld_safe : SafeConfig 3 64 (.busy (.read 4) (IvcCall.read 4).code [] lyingWorld) := by
  have hidle : Prog.Reachable IvcCall.code PeerMay freshWorld (.idle lyingWorld) :=
    .step .start (.environmentIdle _ _ rfl)
  exact ivc_safe_against_peer (s := freshWorld) (threeFrameEnds_initialised .a) (by decide)
    (.step hidle (.call _ _))

end NvidiaOot.Analysis
