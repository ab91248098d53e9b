import NvidiaOot.Analysis.IvcCalls

/-!
# The reset handshake

What one end contributes to the handshake is its `Stance`: its state, where its run of
`tegra_ivc_channel_notified` stands, and the two counters and positions that it owns.  A
step of an end changes its own stance only.  `Agrees n X Y` says what the stance `X` may
be given the peer's stance `Y`; it holds in both directions (`Mutual`) after every run in
which no end in `ivc_state_sync` loads the state of a peer that is about to become
established (`LoadsSettledPeer`).

Without that condition the handshake can end with both ends established and counters that
do not fit: `staleLoadRun` replays such a run.
-/

namespace NvidiaOot.Analysis

open Library Program Model Function

/-! ## Stances -/

structure Stance where
  state : U32
  phase : HandshakePhase
  wCount : U32
  rCount : U32
  wPos : U32
  rPos : U32

/-- The stance of an end; its receive counter lies in the peer's header. -/
def stance (s : ResetState) (e : End) : Stance where
  state := (s.ends e).header.state
  phase := s.phase e
  wCount := (s.ends e).header.wCount
  rCount := (s.ends e.other).header.rCount
  wPos := (s.ends e).ivc.wPos
  rPos := (s.ends e).ivc.rPos

def Stance.Cleared (X : Stance) : Prop :=
  X.wCount = 0 ∧ X.rCount = 0 ∧ X.wPos = 0 ∧ X.rPos = 0

/-- What the run of the handler has cleared so far. -/
def Stance.Progress (X : Stance) : Prop :=
  match X.phase with
  | .idle | .clearWCount _ => True
  | .clearRCount _ => X.wCount = 0
  | .clearPositions _ => X.wCount = 0 ∧ X.rCount = 0
  | .storeState _ => X.Cleared

def StanceLane (n : U32) (X Y : Stance) : Prop := Coupled n X.wCount Y.rCount X.wPos Y.rPos

structure Agrees (n : U32) (X Y : Stance) : Prop where
  known : X.state = ivcStateEstablished ∨ X.state = ivcStateSync ∨ X.state = ivcStateAck
  /-- An established end that reacts to a reset has a peer that waits for it. -/
  established_busy : X.state = ivcStateEstablished → X.phase ≠ .idle →
    X.phase.target = some .ack ∧ Y.state = ivcStateSync ∧ Y.phase = .idle
  /-- An end that resets does not react while its peer still is established. -/
  sync_busy : X.state = ivcStateSync → X.phase ≠ .idle → Y.state ≠ ivcStateEstablished
  /-- Who is about to become established has a peer that acknowledged, or that has reset
  again since, or that is established already. -/
  target_established : X.phase.target = some .established →
    Y.state = ivcStateAck ∨ (Y.state = ivcStateSync ∧ Y.phase = .idle) ∨
      (Y.state = ivcStateEstablished ∧ X.state = ivcStateAck)
  target_both : X.phase.target = some .established → Y.phase.target = some .established →
    X.state = ivcStateAck
  ack_cleared : X.state = ivcStateAck → X.Cleared
  progress : X.Progress
  coupled : X.state = ivcStateEstablished → Y.state ≠ ivcStateSync →
    StanceLane n X Y ∧ StanceLane n Y X

def Mutual (n : U32) (X Y : Stance) : Prop := Agrees n X Y ∧ Agrees n Y X

variable {n : U32} {X Y : Stance}

theorem Mutual.symm (h : Mutual n X Y) : Mutual n Y X := And.symm h

theorem StanceLane.of_cleared (hn : 0 < n) (hX : X.Cleared) (hY : Y.Cleared) : StanceLane n X Y := by
  obtain ⟨hw, -, hwp, -⟩ := hX
  obtain ⟨-, hr, -, hrp⟩ := hY
  unfold StanceLane
  rw [hw, hr, hwp, hrp]
  exact .empty hn 0

theorem established_ne_sync : ivcStateEstablished ≠ ivcStateSync := by decide

theorem established_ne_ack : ivcStateEstablished ≠ ivcStateAck := by decide

theorem sync_ne_ack : ivcStateSync ≠ ivcStateAck := by decide

/-! ## The steps of one end -/

theorem Mutual.reset (h : Mutual n X Y) (hidle : X.phase = .idle) :
    Mutual n { X with state := ivcStateSync } Y := by
  obtain ⟨hX, hY⟩ := h
  constructor
  · exact {
      known := .inr (.inl rfl)
      established_busy := fun he => absurd he established_ne_sync.symm
      sync_busy := fun _ hbusy => absurd hidle hbusy
      target_established := fun ht => by simp [hidle, HandshakePhase.target] at ht
      target_both := fun ht => by simp [hidle, HandshakePhase.target] at ht
      ack_cleared := fun ha => absurd ha sync_ne_ack
      progress := hX.progress
      coupled := fun he => absurd he established_ne_sync.symm }
  · exact {
      known := hY.known
      established_busy := fun he hbusy =>
        ⟨(hY.established_busy he hbusy).1, rfl, hidle⟩
      sync_busy := fun _ _ => established_ne_sync.symm
      target_established := fun _ => .inr (.inl ⟨rfl, hidle⟩)
      target_both := fun _ ht => by simp [hidle, HandshakePhase.target] at ht
      ack_cleared := hY.ack_cleared
      progress := hY.progress
      coupled := fun _ hne => absurd rfl hne }

theorem decide_cases (peer own : U32) : (peer = ivcStateSync ∧ HandshakePhase.decide peer own = .clearWCount .ack) ∨
    (peer = ivcStateAck ∧ own = ivcStateSync ∧ HandshakePhase.decide peer own = .clearWCount .established) ∨
    (peer ≠ ivcStateSync ∧ own = ivcStateAck ∧ HandshakePhase.decide peer own = .storeState .established) ∨
    HandshakePhase.decide peer own = .idle := by
  unfold HandshakePhase.decide
  by_cases hsync : peer = ivcStateSync
  · rw [if_pos hsync]
    exact .inl ⟨hsync, rfl⟩
  rw [if_neg hsync]
  by_cases hboth : own = ivcStateSync ∧ peer = ivcStateAck
  · rw [if_pos hboth]
    exact .inr (.inl ⟨hboth.2, hboth.1, rfl⟩)
  rw [if_neg hboth]
  split_ifs with hack
  · exact .inr (.inr (.inl ⟨hsync, hack, rfl⟩))
  · exact .inr (.inr (.inr rfl))

section

variable (h : Mutual n X Y)

include h

theorem Mutual.load_sync (hsync : Y.state = ivcStateSync)
    (hload : X.state = ivcStateSync → Y.phase.target ≠ some .established) :
    Mutual n { X with phase := .clearWCount .ack } Y := by
  obtain ⟨hX, hY⟩ := h
  have hwaits : X.state = ivcStateEstablished → Y.phase = .idle := by
    intro he
    by_contra hbusy
    exact hY.sync_busy hsync hbusy he
  constructor
  · exact {
      known := hX.known
      established_busy := fun he _ => ⟨rfl, hsync, hwaits he⟩
      sync_busy := fun _ _ => hsync.trans_ne established_ne_sync.symm
      target_established := fun ht => by cases ht
      target_both := fun ht => by cases ht
      ack_cleared := hX.ack_cleared
      progress := trivial
      coupled := hX.coupled }
  · exact {
      known := hY.known
      established_busy := fun he => absurd (hsync.symm.trans he) established_ne_sync.symm
      sync_busy := hY.sync_busy
      target_established := fun ht => by
        rcases hY.target_established ht with ha | ⟨hs, -⟩ | ⟨-, ha⟩
        · exact .inl ha
        · exact absurd ht (hload hs)
        · exact absurd (hsync.symm.trans ha) sync_ne_ack
      target_both := fun _ ht => by cases ht
      ack_cleared := hY.ack_cleared
      progress := hY.progress
      coupled := hY.coupled }

/-- The load of `ivc_state_ack` by an end that has reset: it will become established. -/
theorem Mutual.load_ack (hack : Y.state = ivcStateAck)
    (hsync : X.state = ivcStateSync) (hload : Y.phase.target ≠ some .established) :
    Mutual n { X with phase := .clearWCount .established } Y := by
  obtain ⟨hX, hY⟩ := h
  constructor
  · exact {
      known := hX.known
      established_busy := fun he => absurd (hsync.symm.trans he) established_ne_sync.symm
      sync_busy := fun _ _ => hack.trans_ne established_ne_ack.symm
      target_established := fun _ => .inl hack
      target_both := fun _ ht => absurd ht hload
      ack_cleared := hX.ack_cleared
      progress := trivial
      coupled := hX.coupled }
  · exact {
      known := hY.known
      established_busy := fun he => absurd (hack.symm.trans he) established_ne_ack.symm
      sync_busy := hY.sync_busy
      target_established := fun ht => absurd ht hload
      target_both := fun ht => absurd ht hload
      ack_cleared := hY.ack_cleared
      progress := hY.progress
      coupled := hY.coupled }

/-- The load by an end that has acknowledged, of a state that is not `ivc_state_sync`. -/
theorem Mutual.load_established (hpeer : Y.state ≠ ivcStateSync) (hack : X.state = ivcStateAck) :
    Mutual n { X with phase := .storeState .established } Y := by
  obtain ⟨hX, hY⟩ := h
  constructor
  · exact {
      known := hX.known
      established_busy := fun he => absurd (hack.symm.trans he) established_ne_ack.symm
      sync_busy := fun hs => absurd (hack.symm.trans hs) sync_ne_ack.symm
      target_established := fun _ => by
        rcases hY.known with he | hs | ha
        · exact .inr (.inr ⟨he, hack⟩)
        · exact absurd hs hpeer
        · exact .inl ha
      target_both := fun _ _ => hack
      ack_cleared := hX.ack_cleared
      progress := hX.ack_cleared hack
      coupled := hX.coupled }
  · exact {
      known := hY.known
      established_busy := fun he hbusy =>
        absurd (hack.symm.trans (hY.established_busy he hbusy).2.1) sync_ne_ack.symm
      sync_busy := hY.sync_busy
      target_established := fun _ => .inl hack
      target_both := fun ht _ => by
        rcases hY.known with he | hs | ha
        · have hbusy : Y.phase ≠ .idle := by
            intro hi
            rw [hi] at ht
            cases ht
          rw [(hY.established_busy he hbusy).1] at ht
          cases ht
        · exact absurd hs hpeer
        · exact ha
      ack_cleared := hY.ack_cleared
      progress := hY.progress
      coupled := hY.coupled }

theorem Mutual.load (hidle : X.phase = .idle)
    (hload : X.state = ivcStateSync → Y.phase.target ≠ some .established) :
    Mutual n { X with phase := .decide Y.state X.state } Y := by
  rcases decide_cases Y.state X.state with ⟨hs, hd⟩ | ⟨ha, hs, hd⟩ | ⟨hp, ha, hd⟩ | hd
  · rw [hd]
    exact h.load_sync hs hload
  · rw [hd]
    exact h.load_ack ha hs (hload hs)
  · rw [hd]
    exact h.load_established hp ha
  · rw [hd, ← hidle]
    exact h

end

theorem StanceLane.of_cleared_eq {X' : Stance} (hX : X.Cleared) (hX' : X'.Cleared)
    (h : StanceLane n Y X ∧ StanceLane n X Y) : StanceLane n Y X' ∧ StanceLane n X' Y := by
  obtain ⟨hw, hr, hwp, hrp⟩ := hX
  obtain ⟨hw', hr', hwp', hrp'⟩ := hX'
  unfold StanceLane at h ⊢
  rw [hw, hr, hwp, hrp] at h
  rw [hw', hr', hwp', hrp']
  exact h

section

variable (h : Mutual n X Y)

include h

/-- One more part of a busy end is cleared.  Either the end has acknowledged before, then
all of it is zero already, or the lanes are not in use. -/
theorem Mutual.clear {X' : Stance} (hbusy : X.phase ≠ .idle) (hstate : X'.state = X.state)
    (htarget : X'.phase.target = X.phase.target) (hprogress : X'.Progress)
    (hcleared : X.Cleared → X'.Cleared) : Mutual n X' Y := by
  obtain ⟨hX, hY⟩ := h
  constructor
  · exact {
      known := hstate ▸ hX.known
      established_busy := fun he _ => htarget ▸ hX.established_busy (hstate ▸ he) hbusy
      sync_busy := fun hs _ => hX.sync_busy (hstate ▸ hs) hbusy
      target_established := fun ht => hstate ▸ hX.target_established (htarget ▸ ht)
      target_both := fun ht ht' => hstate ▸ hX.target_both (htarget ▸ ht) ht'
      ack_cleared := fun ha => hcleared (hX.ack_cleared (hstate ▸ ha))
      progress := hprogress
      coupled := fun he hne =>
        absurd (hX.established_busy (hstate ▸ he) hbusy).2.1 hne }
  · exact {
      known := hY.known
      established_busy := fun he hb => absurd (hY.established_busy he hb).2.2 hbusy
      sync_busy := fun hs hb => hstate ▸ hY.sync_busy hs hb
      target_established := fun ht => by
        rw [hstate]
        rcases hY.target_established ht with ha | ⟨-, hi⟩ | hea
        · exact .inl ha
        · exact absurd hi hbusy
        · exact .inr (.inr hea)
      target_both := fun ht ht' => hY.target_both ht (htarget ▸ ht')
      ack_cleared := hY.ack_cleared
      progress := hY.progress
      coupled := fun he hne => by
        rw [hstate] at hne
        have hack : X.state = ivcStateAck := by
          rcases hX.known with hxe | hxs | hxa
          · exact absurd (he.symm.trans (hX.established_busy hxe hbusy).2.1)
              established_ne_sync
          · exact absurd hxs hne
          · exact hxa
        have hzero := hX.ack_cleared hack
        exact StanceLane.of_cleared_eq hzero (hcleared hzero) (hY.coupled he hne) }

theorem Mutual.store_ack (hphase : X.phase = .storeState .ack) :
    Mutual n { X with state := ivcStateAck, phase := .idle } Y := by
  obtain ⟨hX, hY⟩ := h
  have hbusy : X.phase ≠ .idle := by simp [hphase]
  have hzero : X.Cleared := by simpa [Stance.Progress, hphase] using hX.progress
  constructor
  · exact {
      known := .inr (.inr rfl)
      established_busy := fun he => absurd he established_ne_ack.symm
      sync_busy := fun hs => absurd hs sync_ne_ack.symm
      target_established := fun ht => by cases ht
      target_both := fun ht => by cases ht
      ack_cleared := fun _ => hzero
      progress := trivial
      coupled := fun he => absurd he established_ne_ack.symm }
  · exact {
      known := hY.known
      established_busy := fun he hb => absurd (hY.established_busy he hb).2.2 hbusy
      sync_busy := fun _ _ => established_ne_ack.symm
      target_established := fun _ => .inl rfl
      target_both := fun _ ht => by cases ht
      ack_cleared := hY.ack_cleared
      progress := hY.progress
      coupled := fun he _ => by
        refine hY.coupled he fun hs => ?_
        exact hX.sync_busy hs hbusy he }

theorem Mutual.store_established (hn : 0 < n) (hphase : X.phase = .storeState .established) :
    Mutual n { X with state := ivcStateEstablished, phase := .idle } Y := by
  obtain ⟨hX, hY⟩ := h
  have hbusy : X.phase ≠ .idle := by simp [hphase]
  have htarget : X.phase.target = some .established := by rw [hphase]; rfl
  have hzero : X.Cleared := by simpa [Stance.Progress, hphase] using hX.progress
  have hlanes : Y.state ≠ ivcStateSync → StanceLane n X Y ∧ StanceLane n Y X := by
    intro hne
    rcases hX.target_established htarget with ha | ⟨hs, -⟩ | ⟨he, ha⟩
    · have hzero' := hY.ack_cleared ha
      exact ⟨.of_cleared hn hzero hzero', .of_cleared hn hzero' hzero⟩
    · exact absurd hs hne
    · exact (hY.coupled he (ha.trans_ne sync_ne_ack.symm)).symm
  constructor
  · exact {
      known := .inl rfl
      established_busy := fun _ hb => absurd rfl hb
      sync_busy := fun hs => absurd hs established_ne_sync
      target_established := fun ht => by cases ht
      target_both := fun ht => by cases ht
      ack_cleared := fun ha => absurd ha established_ne_ack
      progress := trivial
      coupled := fun _ hne => hlanes hne }
  · exact {
      known := hY.known
      established_busy := fun he hb => absurd (hY.established_busy he hb).2.2 hbusy
      sync_busy := fun hs hb => by
        rcases hX.target_established htarget with ha | ⟨-, hi⟩ | ⟨he, -⟩
        · exact absurd (hs.symm.trans ha) sync_ne_ack
        · exact absurd hi hb
        · exact absurd (he.symm.trans hs) established_ne_sync
      target_established := fun ht => .inr (.inr ⟨rfl, hY.target_both ht htarget⟩)
      target_both := fun _ ht => by cases ht
      ack_cleared := hY.ack_cleared
      progress := hY.progress
      coupled := fun he _ => (hlanes (he.trans_ne established_ne_sync)).symm }

theorem Mutual.data {X' : Stance} (hidle : X.phase = .idle)
    (he : X.state = ivcStateEstablished) (hstate : X'.state = X.state) (hphase : X'.phase = X.phase)
    (hlanes : StanceLane n X Y ∧ StanceLane n Y X → StanceLane n X' Y ∧ StanceLane n Y X') : Mutual n X' Y := by
  obtain ⟨hX, hY⟩ := h
  rw [he] at hstate
  rw [hidle] at hphase
  constructor
  · exact {
      known := .inl hstate
      established_busy := fun _ hb => absurd hphase hb
      sync_busy := fun hs => absurd (hstate.symm.trans hs) established_ne_sync
      target_established := fun ht => by rw [hphase] at ht; cases ht
      target_both := fun ht => by rw [hphase] at ht; cases ht
      ack_cleared := fun ha => absurd (hstate.symm.trans ha) established_ne_ack
      progress := by simp [Stance.Progress, hphase]
      coupled := fun _ hne => hlanes (hX.coupled he hne) }
  · exact {
      known := hY.known
      established_busy := fun he' hb =>
        absurd (he.symm.trans (hY.established_busy he' hb).2.1) established_ne_sync
      sync_busy := fun hs hb => absurd he (hY.sync_busy hs hb)
      target_established := fun ht => by
        rcases hY.target_established ht with ha | ⟨hs, -⟩ | ⟨-, ha⟩
        · exact absurd (he.symm.trans ha) established_ne_ack
        · exact absurd (he.symm.trans hs) established_ne_sync
        · exact .inr (.inr ⟨hstate, ha⟩)
      target_both := fun _ ht => by rw [hphase] at ht; cases ht
      ack_cleared := hY.ack_cleared
      progress := hY.progress
      coupled := fun he' _ =>
        (hlanes (hY.coupled he' (he.trans_ne established_ne_sync)).symm).symm }

end

/-! ## The steps of the machine -/

variable {s s' : ResetState} {e : End}

structure ResetInv (n : U32) (s : ResetState) : Prop where
  npos : 0 < n
  nframes : ∀ e, (s.ends e).ivc.nframes = n
  agree : ∀ e, Mutual n (stance s e) (stance s e.other)

def stanceOf (t : IvcWorld) (phase : HandshakePhase) : Stance where
  state := t.tx.state
  phase := phase
  wCount := t.tx.wCount
  rCount := t.rx.rCount
  wPos := t.ivc.wPos
  rPos := t.ivc.rPos

section

variable (h : ResetInv n s)

include h

/-- **The frame rule of the machine**: an end that leaves alone what its peer owns only
changes its own stance. -/
theorem ResetInv.of_put (e : End) {t : IvcWorld} {phase : HandshakePhase}
    (hends : s'.ends = s.ends.put e t) (hphase : s'.phase = update s.phase e phase)
    (hframes : t.ivc.nframes = (s.ends.view e).ivc.nframes) (hrxState : t.rx.state = (s.ends.view e).rx.state)
    (hrxWCount : t.rx.wCount = (s.ends.view e).rx.wCount) (htxRCount : t.tx.rCount = (s.ends.view e).tx.rCount)
    (hm : Mutual n (stanceOf t phase) (stance s e.other)) : ResetInv n s' := by
  have hself : stance s' e = stanceOf t phase := by
    simp only [stance, hends, hphase, put_self, put_other, update_self, stanceOf]
  have hother : stance s' e.other = stance s e.other := by
    simp only [stance, hends, hphase, put_self, put_other, End.other_other,
      update_of_ne (End.other_ne e), hrxState, hrxWCount, htxRCount]
    rfl
  refine ⟨h.npos, fun x => ?_, fun x => ?_⟩
  · rcases End.eq_or_eq_other x e with rfl | rfl
    · rw [hends, put_self]
      exact hframes.trans (h.nframes x)
    · rw [hends, put_other]
      exact h.nframes e.other
  · rcases End.eq_or_eq_other x e with rfl | rfl
    · rw [hself, hother]
      exact hm
    · rw [End.other_other, hself, hother]
      exact hm.symm

theorem ResetInv.call {c : IvcCall}
    (hstep : resetStep s (.call e c) = some s') : ResetInv n s' := by
  simp only [resetStep, Option.ite_none_right_eq_some, Option.map_eq_some_iff] at hstep
  obtain ⟨⟨hidle, hc⟩, ⟨r, ends⟩, hexec, rfl⟩ := hstep
  obtain ⟨t, hx, rfl⟩ := exec_eq_some hexec
  have hm := h.agree e
  have hphase : s.phase = update s.phase e .idle := by
    rw [← hidle, update_eq_self]
  have hn : (s.ends.view e).ivc.nframes = n := h.nframes e
  have hstance : stanceOf (s.ends.view e) .idle = stance s e := by
    rw [← hidle]
    rfl
  cases (code_effect hc hx).1 with
  | quiet k | fill m k hw hmem => exact h.of_put e rfl hphase rfl rfl rfl rfl (hstance ▸ hm)
  | publish m k hw hmem =>
    refine h.of_put e rfl hphase rfl rfl rfl rfl ?_
    refine hm.data hidle hw.1 rfl hidle.symm fun hlanes => ⟨?_, hlanes.2⟩
    have hfull := hw.2
    rw [channelFull, decide_eq_false_iff_not, hn,
      show (s.ends.view e).tx.rCount = (stance s e.other).rCount by simp [stance, Ends.view]]
      at hfull
    show Coupled n _ _ (ringNext (s.ends.view e).ivc.nframes _) _
    rw [hn]
    exact Coupled.write hlanes.1 hfull
  | consume k hr =>
    refine h.of_put e rfl hphase rfl rfl rfl rfl ?_
    refine hm.data hidle hr.1 rfl hidle.symm fun hlanes => ⟨hlanes.1, ?_⟩
    have hempty := hr.2
    rw [channelEmpty, Bool.or_eq_false_iff, decide_eq_false_iff_not, decide_eq_false_iff_not]
      at hempty
    show Coupled n _ _ _ (ringNext (s.ends.view e).ivc.nframes _)
    rw [hn]
    exact Coupled.read hlanes.2 hempty.2

theorem ResetInv.reset (hstep : resetStep s (.reset e) = some s') : ResetInv n s' := by
  simp only [resetStep, Option.ite_none_right_eq_some, Option.map_eq_some_iff] at hstep
  obtain ⟨hidle, ⟨r, ends⟩, hexec, rfl⟩ := hstep
  obtain ⟨t, hx, rfl⟩ := exec_eq_some hexec
  cases hx
  have hphase : s.phase = update s.phase e .idle := by
    rw [← hidle, update_eq_self]
  have hm := (h.agree e).reset hidle
  rw [show (stance s e).phase = .idle from hidle] at hm
  exact h.of_put e rfl hphase rfl rfl rfl rfl hm

theorem ResetInv.load (hload : LoadsSettledPeer s (.load e))
    (hstep : resetStep s (.load e) = some s') : ResetInv n s' := by
  simp only [resetStep, Option.ite_none_right_eq_some, Option.map_eq_some_iff] at hstep
  obtain ⟨hidle, ⟨phase, ends⟩, hexec, rfl⟩ := hstep
  obtain ⟨t, hx, rfl⟩ := exec_eq_some hexec
  cases hx
  exact h.of_put e rfl rfl rfl rfl rfl rfl ((h.agree e).load hidle hload)

theorem ResetInv.proceed (hstep : resetStep s (.proceed e) = some s') : ResetInv n s' := by
  simp only [resetStep, Option.bind_eq_some_iff, Option.map_eq_some_iff] at hstep
  obtain ⟨⟨p, phase⟩, hnext, ⟨u, ends⟩, hexec, rfl⟩ := hstep
  obtain ⟨t, hx, rfl⟩ := exec_eq_some hexec
  have hm := h.agree e
  have hbusy : (stance s e).phase ≠ .idle := by
    intro hidle
    rw [show s.phase e = .idle from hidle] at hnext
    cases hnext
  cases hphase : s.phase e with
  | idle => exact absurd hphase hbusy
  | clearWCount target =>
    rw [hphase] at hnext
    cases hnext
    cases hx
    refine h.of_put e rfl rfl rfl rfl rfl rfl (hm.clear hbusy rfl ?_ rfl fun hz => ⟨rfl, hz.2⟩)
    simp only [stance, stanceOf, hphase, HandshakePhase.target]
  | clearRCount target =>
    have hw : (stance s e).wCount = 0 := by
      have := hm.1.progress
      rwa [Stance.Progress, show (stance s e).phase = .clearRCount target from hphase] at this
    rw [hphase] at hnext
    cases hnext
    cases hx
    refine h.of_put e rfl rfl rfl rfl rfl rfl
      (hm.clear hbusy rfl ?_ ⟨hw, rfl⟩ fun hz => ⟨hz.1, rfl, hz.2.2⟩)
    simp only [stance, stanceOf, hphase, HandshakePhase.target]
  | clearPositions target =>
    have hwr : (stance s e).wCount = 0 ∧ (stance s e).rCount = 0 := by
      have := hm.1.progress
      rwa [Stance.Progress, show (stance s e).phase = .clearPositions target from hphase]
        at this
    rw [hphase] at hnext
    cases hnext
    cases hx
    refine h.of_put e rfl rfl rfl rfl rfl rfl
      (hm.clear hbusy rfl ?_ ⟨hwr.1, hwr.2, rfl, rfl⟩ fun hz => ⟨hz.1, hz.2.1, rfl, rfl⟩)
    simp only [stance, stanceOf, hphase, HandshakePhase.target]
  | storeState target =>
    rw [hphase] at hnext
    cases hnext
    cases hx
    cases target with
    | ack => exact h.of_put e rfl rfl rfl rfl rfl rfl (hm.store_ack hphase)
    | established =>
      exact h.of_put e rfl rfl rfl rfl rfl rfl (hm.store_established h.npos hphase)

end

/-- **The step lemma.** -/
theorem resetInv_step (s : ResetState) (a : ResetAction) (s' : ResetState)
    (h : ResetInv n s) (hload : LoadsSettledPeer s a) (hstep : resetStep s a = some s') : ResetInv n s' := by
  cases a with
  | call e c => exact h.call hstep
  | reset e => exact h.reset hstep
  | load e => exact h.load hload hstep
  | proceed e => exact h.proceed hstep

theorem resetInv_start (hn : 1 ≤ n) (h : ResetStart n s) : ResetInv n s := by
  have hpos : 0 < n := by bv_omega
  have hzero : ∀ e, stance s e = ⟨ivcStateEstablished, .idle, 0, 0, 0, 0⟩ := by
    intro e
    have hinit := initialised_facts (h.initialised e)
    simp only [stance, h.header, h.phase, hinit.1, hinit.2.1]
  have hlane : StanceLane n ⟨ivcStateEstablished, .idle, 0, 0, 0, 0⟩
      ⟨ivcStateEstablished, .idle, 0, 0, 0, 0⟩ := Coupled.empty hpos 0
  refine ⟨hpos, h.nframes_eq, fun e => ?_⟩
  rw [hzero, hzero]
  have hagrees : Agrees n ⟨ivcStateEstablished, .idle, 0, 0, 0, 0⟩
      ⟨ivcStateEstablished, .idle, 0, 0, 0, 0⟩ := {
    known := .inl rfl
    established_busy := fun _ hb => absurd rfl hb
    sync_busy := fun _ hb => absurd rfl hb
    target_established := fun ht => by cases ht
    target_both := fun ht => by cases ht
    ack_cleared := fun ha => absurd ha established_ne_ack
    progress := trivial
    coupled := fun _ _ => ⟨hlane, hlane⟩ }
  exact ⟨hagrees, hagrees⟩

/-- **The reset handshake resynchronises both directions**, in every run in which no end in
`ivc_state_sync` loads the state of a peer that has already decided to become established:
whenever both ends are established and outside the handler, counters and positions of
each direction fit.
SOURCE: tegra-ivc.c:696-843 -/
theorem ivc_reset_consistent {s₀ : ResetState} {as : List ResetAction} (hn : 1 ≤ n)
    (hstart : ResetStart n s₀) (hload : AllSteps resetStep LoadsSettledPeer s₀ as)
    (hrun : run resetStep s₀ as = some s) (hsettled : s.Settled) : s.Consistent n := by
  have hinv : ResetInv n s :=
    run_invariant_of_allSteps resetInv_step (resetInv_start hn hstart) hload hrun
  intro e
  have hne : (stance s e.other).state ≠ ivcStateSync :=
    (hsettled e.other).1.trans_ne established_ne_sync
  have hlane := ((hinv.agree e).1.coupled (hsettled e).1 hne).1
  unfold StanceLane at hlane
  rw [show (stance s e.other).rCount = (s.ends e).header.rCount by simp [stance]] at hlane
  exact ⟨hlane.outstanding, hlane.modEq⟩

/-- Two fresh endpoints, established, outside the handler. -/
def freshEnds : ResetState where
  ends := threeFrameEnds
  phase _ := .idle

theorem freshEnds_start : ResetStart 3 freshEnds where
  initialised := threeFrameEnds_initialised
  nframes_eq e := by cases e <;> rfl
  header e := by cases e <;> rfl
  phase _ := rfl

/-- A run of `tegra_ivc_channel_notified` that clears the counters. -/
def clearingNotified (e : End) : List ResetAction :=
  [.load e, .proceed e, .proceed e, .proceed e, .proceed e]

/-- One end resets, both ends handle their notifications, and a frame is sent. -/
def handshakeRun : List ResetAction :=
  [.call .a (.write (fun _ => 1) 4), .reset .a] ++ clearingNotified .b ++
    clearingNotified .a ++ [.load .b, .proceed .b, .call .b (.write (fun _ => 2) 4)]

theorem handshakeRun_consistent :
    ∃ s, run resetStep freshEnds handshakeRun = some s ∧ s.Settled ∧ s.Consistent 3 := by
  have hsome : (run resetStep freshEnds handshakeRun).isSome = true := by decide
  have hrun := (Option.some_get hsome).symm
  have hload : AllSteps resetStep LoadsSettledPeer freshEnds handshakeRun := by decide
  have hsettled : ((run resetStep freshEnds handshakeRun).get hsome).Settled := by
    intro e
    cases e <;> exact ⟨rfl, rfl⟩
  exact ⟨_, hrun, hsettled,
    ivc_reset_consistent (by decide) freshEnds_start hload hrun hsettled⟩

/-- End `b` decides to become established, end `a` resets and loads the stale
`ivc_state_ack` of `b`, and `b` reads a frame of the old session before `a` clears its
counters. -/
def staleLoadRun : List ResetAction :=
  [.reset .a] ++ clearingNotified .b ++ clearingNotified .a ++
    [.call .a (.write (fun _ => 1) 4), .load .b, .reset .a, .load .a, .proceed .b,
      .call .b (.read 4), .proceed .a, .proceed .a, .proceed .a, .proceed .a]

/-- **The handshake can leave an established channel whose counters do not fit**: end `a`
has written 0 frames and end `b` has read 1. -/
theorem staleLoadRun_inconsistent :
    ¬ ∀ (n : U32) (s₀ s : ResetState) (as : List ResetAction), 1 ≤ n → ResetStart n s₀ →
      run resetStep s₀ as = some s → s.Settled → s.Consistent n := by
  intro hall
  have hsome : (run resetStep freshEnds staleLoadRun).isSome = true := by decide
  have hrun := (Option.some_get hsome).symm
  have hsettled : ((run resetStep freshEnds staleLoadRun).get hsome).Settled := by
    intro e
    cases e <;> exact ⟨rfl, rfl⟩
  have hle : (0 : U32) - 1 ≤ 3 :=
    (hall 3 freshEnds _ staleLoadRun (by decide) freshEnds_start hrun hsettled .a).1
  exact absurd hle (by decide)

/-! ## The steps without interference are the call -/

/-- The world after an end has cleared what it owns. -/
def clearedWorld (t : IvcWorld) : IvcWorld :=
  { t with
    tx := { t.tx with wCount := 0 }
    rx := { t.rx with rCount := 0 }
    ivc := { t.ivc with wPos := 0, rPos := 0 } }

/-- The world after an end has stored its new state and notified. -/
def storedWorld (t : IvcWorld) (target : HandshakeTarget) : IvcWorld :=
  { t with tx := { t.tx with state := target.state }, notified := t.notified + 1 }

/-- The world after the rest of a run of `tegra_ivc_channel_notified` that was decided. -/
def handledWorld (t : IvcWorld) : HandshakePhase → IvcWorld
  | .clearWCount target => storedWorld (clearedWorld t) target
  | .storeState target => storedWorld t target
  | .idle | .clearRCount _ | .clearPositions _ => t

/-- What `tegra_ivc_channel_notified` returns. -/
def notifiedCode (t : IvcWorld) : ℤ := if t.tx.state = ivcStateEstablished then 0 else -eAGAIN

/-- Without interference the handler decides on the loaded states and does the rest. -/
theorem exec_tegraIvcChannelNotified (t : IvcWorld) : tegraIvcChannelNotified.exec t =
      .ok (notifiedCode (handledWorld t (.decide t.rx.state t.tx.state)),
        handledWorld t (.decide t.rx.state t.tx.state)) := by
  have hown : (t.header .tx).get .state = t.tx.state := rfl
  unfold tegraIvcChannelNotified
  rw [Prog.exec_bind_of_ok (exec_readOnce .rx .state t), show (t.header .rx).get .state = t.rx.state from rfl]
  unfold HandshakePhase.decide
  by_cases hsync : t.rx.state = ivcStateSync
  · rw [if_pos hsync, if_pos hsync]
    rfl
  rw [if_neg hsync, if_neg hsync, Prog.exec_bind_of_ok (exec_readOnce .tx .state t), hown]
  by_cases hboth : t.tx.state = ivcStateSync ∧ t.rx.state = ivcStateAck
  · rw [if_pos hboth, if_pos hboth]
    rfl
  rw [if_neg hboth, if_neg hboth, Prog.exec_bind_of_ok (exec_readOnce .tx .state t), hown]
  by_cases hack : t.tx.state = ivcStateAck
  · rw [if_pos hack, if_pos hack]
    rfl
  rw [if_neg hack, if_neg hack]
  by_cases hestablished : t.tx.state = ivcStateEstablished
  all_goals simp [Prog.exec_bind, Except.bind, hown, hestablished, handledWorld, notifiedCode]

theorem resetStep_load (hidle : s.phase e = .idle) : resetStep s (.load e) = some { s with
      phase := update s.phase e
        (.decide (s.ends.view e).rx.state (s.ends.view e).tx.state) } := by
  simp only [resetStep, if_pos hidle]
  rw [exec_of_ok (l := s.ends) (e := e) rfl, Option.map_some, put_view]
  rfl

theorem resetStep_proceed {here phase : HandshakePhase} {p : IvcProg Unit} {t : IvcWorld}
    (hphase : s.phase e = here) (hnext : here.next = some (p, phase)) (hx : p.exec (s.ends.view e) = .ok ((), t)) :
    resetStep s (.proceed e) = some ⟨s.ends.put e t, update s.phase e phase⟩ := by
  simp only [resetStep, hphase, hnext, Option.bind_some, exec_of_ok hx, Option.map_some]

theorem proceed_store {target : HandshakeTarget} (hphase : s.phase e = .storeState target) :
    run resetStep s [.proceed e] = some ⟨s.ends.put e (storedWorld (s.ends.view e) target),
        update s.phase e .idle⟩ :=
  run_cons_eq_some.mpr ⟨_, resetStep_proceed hphase rfl rfl, rfl⟩

theorem proceed_clear {target : HandshakeTarget} (hphase : s.phase e = .clearWCount target) :
    run resetStep s [.proceed e, .proceed e, .proceed e, .proceed e] =
      some ⟨s.ends.put e (storedWorld (clearedWorld (s.ends.view e)) target), update s.phase e .idle⟩ := by
  refine run_cons_eq_some.mpr ⟨_, resetStep_proceed hphase rfl rfl, run_cons_eq_some.mpr
    ⟨_, resetStep_proceed (update_self ..) rfl rfl, run_cons_eq_some.mpr
      ⟨_, resetStep_proceed (update_self ..) rfl rfl, ?_⟩⟩⟩
  rw [proceed_store (update_self ..)]
  simp only [view_put, put_put, update_idem]
  rfl

/-- **The steps of the handler in a row are `tegra_ivc_channel_notified`**, which always returns. -/
theorem notified_uninterrupted (l : Ends) (phase : End → HandshakePhase) (e : End) :
    ∃ t as, tegraIvcChannelNotified.exec (l.view e) = .ok (notifiedCode t, t) ∧ as <+: clearingNotified e ∧
      run resetStep ⟨l, update phase e .idle⟩ as = some ⟨l.put e t, update phase e .idle⟩ := by
  have hx := exec_tegraIvcChannelNotified (l.view e)
  have hload := resetStep_load (s := ⟨l, update phase e .idle⟩) (update_self ..)
  rw [update_idem] at hload
  dsimp only at hload
  rcases decide_cases (l.view e).rx.state (l.view e).tx.state with
    ⟨-, hd⟩ | ⟨-, -, hd⟩ | ⟨-, -, hd⟩ | hd <;> rw [hd] at hload hx
  · refine ⟨_, clearingNotified e, hx, ⟨[], rfl⟩, run_cons_eq_some.mpr ⟨_, hload, ?_⟩⟩
    rw [proceed_clear (update_self ..)]
    simp only [update_idem, handledWorld]
  · refine ⟨_, clearingNotified e, hx, ⟨[], rfl⟩, run_cons_eq_some.mpr ⟨_, hload, ?_⟩⟩
    rw [proceed_clear (update_self ..)]
    simp only [update_idem, handledWorld]
  · refine ⟨_, [.load e, .proceed e], hx, ⟨_, rfl⟩, run_cons_eq_some.mpr ⟨_, hload, ?_⟩⟩
    rw [proceed_store (update_self ..)]
    simp only [update_idem, handledWorld]
  · refine ⟨_, [.load e], hx, ⟨_, rfl⟩, run_cons_eq_some.mpr ⟨_, hload, ?_⟩⟩
    rw [handledWorld, put_view, run_nil]

/-! ## The handshake completes -/

def ivcStates : List U32 := [ivcStateEstablished, ivcStateSync, ivcStateAck]

/-- The state that a run of the handler leaves its end in. -/
def shake (peer own : U32) : U32 :=
  ((HandshakePhase.decide peer own).target.map HandshakeTarget.state).getD own

/-- A run of the handler at one end. -/
def handlerStep (l : Ends) (e : End) : Option Ends :=
  (l.exec e tegraIvcChannelNotified).map Prod.snd

theorem handlerStep_shake (l : Ends) (e : End) : ∃ l', handlerStep l e = some l' ∧
    (l' e).header.state = shake (l e.other).header.state (l e).header.state ∧
    (l' e.other).header.state = (l e.other).header.state := by
  refine ⟨_, congrArg (Option.map Prod.snd) (exec_of_ok (exec_tegraIvcChannelNotified (l.view e))), ?_⟩
  simp only [put_self, put_other, shake, Ends.view]
  rcases decide_cases (l e.other).header.state (l e).header.state with
    ⟨-, hd⟩ | ⟨-, -, hd⟩ | ⟨-, -, hd⟩ | hd <;> rw [hd] <;> exact ⟨rfl, rfl⟩

theorem shake_four {x y : U32} (hx : x ∈ ivcStates) (hy : y ∈ ivcStates) :
    let x' := shake (shake (shake y x) y) (shake y x)
    x' = ivcStateEstablished ∧ shake x' (shake (shake y x) y) = ivcStateEstablished := by
  simp only [ivcStates, List.mem_cons, List.not_mem_nil, or_false] at hx hy
  rcases hx with rfl | rfl | rfl <;> rcases hy with rfl | rfl | rfl <;>
    simp [shake, HandshakePhase.decide, HandshakePhase.target, HandshakeTarget.state,
      ivcStateEstablished, ivcStateSync, ivcStateAck]

theorem run_established (es : List End) {l : Ends} (h : ∀ x, (l x).header.state = ivcStateEstablished) :
    ∃ l', run handlerStep l es = some l' ∧ ∀ x, (l' x).header.state = ivcStateEstablished := by
  induction es generalizing l with
  | nil => exact ⟨l, rfl, h⟩
  | cons e es ih =>
    obtain ⟨l₁, hrun, hself, hother⟩ := handlerStep_shake l e
    rw [h, h] at hself
    obtain ⟨l', hrest, h'⟩ := ih fun x =>
      (End.eq_or_eq_other x e).elim (· ▸ hself) (· ▸ hother.trans (h _))
    exact ⟨l', run_cons_eq_some.mpr ⟨l₁, hrun, hrest⟩, h'⟩

/-- **The handshake completes**: whatever the states of the ends, two runs of the handler at
each of them in turn establish both, and further runs leave them established. -/
theorem handshake_completes {l : Ends} (hknown : ∀ x, (l x).header.state ∈ ivcStates) (e : End) (es : List End) :
    ∃ l', run handlerStep l ([e, e.other, e, e.other] ++ es) = some l' ∧
      ∀ x, (l' x).header.state = ivcStateEstablished := by
  obtain ⟨l₁, hrun₁, hself₁, hother₁⟩ := handlerStep_shake l e
  obtain ⟨l₂, hrun₂, hself₂, hother₂⟩ := handlerStep_shake l₁ e.other
  obtain ⟨l₃, hrun₃, hself₃, hother₃⟩ := handlerStep_shake l₂ e
  obtain ⟨l₄, hrun₄, hself, hother⟩ := handlerStep_shake l₃ e.other
  have hfour := shake_four (hknown e) (hknown e.other)
  rw [End.other_other] at hself hother hself₂ hother₂
  rw [hother₃, hself₃, hself₂, hother₂, hother₁, hself₁] at hself
  rw [hself₃, hself₂, hother₂, hother₁, hself₁] at hother
  obtain ⟨l', hrun, h'⟩ := run_established (l := l₄) es fun x =>
    (End.eq_or_eq_other x e).elim (· ▸ hother.trans hfour.1) (· ▸ hself.trans hfour.2)
  refine ⟨l', ?_, h'⟩
  simp only [List.cons_append, List.nil_append, run, hrun₁, hrun₂, hrun₃, hrun₄, hrun, Option.bind_some]

theorem handshake_completes_sync : ∃ l', run handlerStep
    (fun e => { threeFrameEnds e with header := ⟨0, ivcStateSync, 0⟩ }) [.a, .b, .a, .b, .b] = some l' ∧
      ∀ x, (l' x).header.state = ivcStateEstablished :=
  handshake_completes (fun _ => List.mem_cons_of_mem _ List.mem_cons_self) .a [.b]

end NvidiaOot.Analysis
