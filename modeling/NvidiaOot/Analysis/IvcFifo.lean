import NvidiaOot.Library.RingQueue
import NvidiaOot.Analysis.IvcCalls

/-!
# The data path of a channel pair is a bounded FIFO

Each direction of a link satisfies `Lane`: the counters and positions count the frames
published and consumed (`Counted`), and the outstanding frames lie in the frame area
(`Stored`).  Writing to the frame that is filled next, publishing it and consuming a
frame keep a lane (`Lane.fill`, `Lane.publish`, `Lane.consume`), and by `code_effect` a
data call of an end is one of these for the direction it writes and for the direction it
reads.  The run lemma is `linkInv_run`.
-/

namespace NvidiaOot.Analysis

open Library Program Model Function

/-! ## One direction -/

def frameSlot (fs : U32) (m : ℕ → U8) (j : ℕ) : List U8 := slice m (fs.toNat * j) fs.toNat

/-- The bytes that an end saw are bytes of the frame published under that number. -/
def SeenIn (o : Observation) (published : List (List U8)) : Prop :=
  o.data = [] ∨ ∃ frame, published[o.frame]? = some frame ∧
    o.data = (frame.drop o.off).take o.data.length

/-- The direction from the end `W` to the end `R`. -/
structure Lane (n fs : U32) (W R : Endpoint) (gW gR : Ledger) : Prop where
  ring : Counted n gW.published.length gR.consumed.length
    W.header.wCount W.header.rCount W.ivc.wPos R.ivc.rPos
  stored : Stored n.toNat (frameSlot fs W.frames) gW.published gR.consumed
  writeHeld : ∀ p, gW.writeHeld = some p →
    p = fs.toNat * (gW.published.length % n.toNat) ∧
      gW.published.length < gR.consumed.length + n.toNat
  readHeld : ∀ p, gR.readHeld = some p →
    p = fs.toNat * (gR.consumed.length % n.toNat) ∧
      gR.consumed.length < gW.published.length
  observed : ∀ o ∈ gR.observed, SeenIn o gW.published

variable {n fs : U32} {W R : Endpoint} {gW gR : Ledger}

theorem frameSlot_eq_of_agreeOutside {m m' : ℕ → U8} {i j : ℕ}
    (hm : AgreeOutside m m' (fs.toNat * i) fs.toNat) (hne : j ≠ i) :
    frameSlot fs m' j = frameSlot fs m j := by
  refine hm.slice_eq ?_
  rcases Nat.lt_or_gt_of_ne hne with hlt | hlt
  · left
    calc fs.toNat * j + fs.toNat = fs.toNat * (j + 1) := by ring
      _ ≤ fs.toNat * i := Nat.mul_le_mul_left _ hlt
  · right
    calc fs.toNat * i + fs.toNat = fs.toNat * (i + 1) := by ring
      _ ≤ fs.toNat * j := Nat.mul_le_mul_left _ hlt

theorem SeenIn.append {o : Observation} {published : List (List U8)}
    (h : SeenIn o published) (more : List (List U8)) : SeenIn o (published ++ more) := by
  rcases h with h | ⟨frame, hframe, hdata⟩
  · exact .inl h
  · have hlt : o.frame < published.length := (List.getElem?_eq_some_iff.mp hframe).1
    exact .inr ⟨frame, by rw [List.getElem?_append_left hlt, hframe], hdata⟩

namespace Lane

section

variable (h : Lane n fs W R gW gR)

include h

/-- A lane only depends on the counters and frames of the channel, the two positions and
the ledger entries of the direction. -/
theorem transport {W' R' : Endpoint} {gW' gR' : Ledger}
    (hheader : W'.header = W.header) (hframes : W'.frames = W.frames)
    (hwPos : W'.ivc.wPos = W.ivc.wPos) (hrPos : R'.ivc.rPos = R.ivc.rPos)
    (hpub : gW'.published = gW.published) (hcon : gR'.consumed = gR.consumed)
    (hwrite : ∀ p, gW'.writeHeld = some p →
      p = fs.toNat * (gW.published.length % n.toNat) ∧
        gW.published.length < gR.consumed.length + n.toNat)
    (hread : ∀ p, gR'.readHeld = some p →
      p = fs.toNat * (gR.consumed.length % n.toNat) ∧
        gR.consumed.length < gW.published.length)
    (hobs : ∀ o ∈ gR'.observed, SeenIn o gW.published) : Lane n fs W' R' gW' gR' where
  ring := by
    rw [hheader, hwPos, hrPos, hpub, hcon]
    exact h.ring
  stored := by
    rw [hframes, hpub, hcon]
    exact h.stored
  writeHeld := by
    rw [hpub, hcon]
    exact hwrite
  readHeld := by
    rw [hpub, hcon]
    exact hread
  observed := by
    rw [hpub]
    exact hobs

theorem fill {m : ℕ → U8}
    (hfull : gW.published.length < gR.consumed.length + n.toNat)
    (hm : AgreeOutside W.frames m (fs.toNat * (gW.published.length % n.toNat)) fs.toNat) :
    Lane n fs { W with frames := m } R gW gR :=
  { h with stored := h.stored.fill hfull fun _ _ hne => frameSlot_eq_of_agreeOutside hm hne }

theorem publish (hn : 0 < n)
    (hfull : gW.published.length < gR.consumed.length + n.toNat) {gW' : Ledger}
    (hpub : gW'.published = gW.published ++ [frameSlot fs W.frames (gW.published.length % n.toNat)])
    (hheld : gW'.writeHeld = none) :
    Lane n fs
      { W with
        header := { W.header with wCount := W.header.wCount + 1 }
        ivc := { W.ivc with wPos := ringNext n W.ivc.wPos } } R gW' gR where
  ring := by
    rw [hpub, List.length_append, List.length_singleton]
    exact h.ring.write hn hfull
  stored := hpub ▸ h.stored.send hfull
  writeHeld := fun p hp => by
    rw [hheld] at hp
    cases hp
  readHeld := fun p hp => by
    obtain ⟨hp, hlt⟩ := h.readHeld p hp
    refine ⟨hp, ?_⟩
    rw [hpub, List.length_append]
    exact Nat.lt_add_right _ hlt
  observed := fun o ho => hpub ▸ (h.observed o ho).append _

theorem consume (hn : 0 < n)
    (hne : gR.consumed.length < gW.published.length) {gR' : Ledger}
    (hcon : gR'.consumed = gR.consumed ++ [frameSlot fs W.frames (gR.consumed.length % n.toNat)])
    (hheld : gR'.readHeld = none) (hobs : ∀ o ∈ gR'.observed, SeenIn o gW.published) :
    Lane n fs
      { W with header := { W.header with rCount := W.header.rCount + 1 } }
      { R with ivc := { R.ivc with rPos := ringNext n R.ivc.rPos } } gW gR' where
  ring := by
    rw [hcon, List.length_append, List.length_singleton]
    exact h.ring.consume hn hne
  stored := hcon ▸ h.stored.receive hne
  writeHeld := fun p hp => by
    obtain ⟨hp, hlt⟩ := h.writeHeld p hp
    refine ⟨hp, ?_⟩
    rw [hcon, List.length_append]
    omega
  readHeld := fun p hp => by
    rw [hheld] at hp
    cases hp
  observed := hobs

theorem observe (hne : gR.consumed.length < gW.published.length)
    {off len : ℕ} (hlen : off + len ≤ fs.toNat) :
    SeenIn ⟨gR.consumed.length, off,
      slice W.frames (fs.toNat * (gR.consumed.length % n.toNat) + off) len⟩ gW.published := by
  refine .inr ⟨_, h.stored.head hne, ?_⟩
  rw [length_slice]
  exact slice_drop_take W.frames hlen

end

end Lane

/-! ## Both directions -/

structure LinkInv (n fs : U32) (l : IvcLink) : Prop where
  npos : 0 < n
  area : n.toNat * fs.toNat < 2 ^ 32
  nframes : ∀ e, (l.ends e).ivc.nframes = n
  frameSize : ∀ e, (l.ends e).ivc.frameSize = fs
  lane : ∀ e, Lane n fs (l.ends e) (l.ends e.other) (l.ledger e) (l.ledger e.other)

theorem heldForWriting_eq_some {old : Option ℕ} {c : IvcCall} {r : IvcResult} {p : ℕ}
    (h : heldForWriting old c r = some p) :
    old = some p ∨ (c = .writeGetNextFrame ∧ r = .frame (.ok p)) := by
  unfold heldForWriting at h
  split at h
  · cases h
    exact .inr ⟨rfl, rfl⟩
  · exact .inl h

theorem heldForReading_eq_some {old : Option ℕ} {c : IvcCall} {r : IvcResult} {p : ℕ}
    (h : heldForReading old c r = some p) :
    old = some p ∨ (c = .readGetNextFrame ∧ r = .frame (.ok p)) := by
  unfold heldForReading at h
  split at h
  · cases h
    exact .inr ⟨rfl, rfl⟩
  · exact .inl h

namespace LinkInv

variable {l : IvcLink} {e : End} {c : IvcCall} {r : IvcResult} {s' : IvcWorld}

section

variable (h : LinkInv n fs l)

include h

theorem not_full (hw : CanWrite (l.ends.view e)) :
    (l.ledger e).published.length < (l.ledger e.other).consumed.length + n.toNat := by
  have hfull := hw.2
  rw [channelFull, decide_eq_false_iff_not,
    show (l.ends.view e).ivc.nframes = n from h.nframes e] at hfull
  exact (h.lane e).ring.not_full_iff.mp hfull

theorem not_empty (hr : CanRead (l.ends.view e)) :
    (l.ledger e).consumed.length < (l.ledger e.other).published.length := by
  have hempty := hr.2
  rw [channelEmpty, Bool.or_eq_false_iff, decide_eq_false_iff_not, decide_eq_false_iff_not]
    at hempty
  have hlane := h.lane e.other
  rw [End.other_other] at hlane
  exact hlane.ring.ne_iff.mp hempty.2

theorem writeOffset_eq (hw : CanWrite (l.ends.view e)) :
    writeOffset (l.ends.view e) = fs.toNat * ((l.ledger e).published.length % n.toNat) := by
  have hpos := (h.lane e).ring.wPos
  have hlt := h.not_full hw
  have hout := (h.lane e).ring.le
  rw [← hpos]
  refine toNat_frameOffset h.area (h.frameSize e) ?_
  rw [show (l.ends.view e).ivc.wPos = (l.ends e).ivc.wPos from rfl, hpos]
  exact Nat.mod_lt _ (by omega)

theorem readOffset_eq (hr : CanRead (l.ends.view e)) :
    readOffset (l.ends.view e) = fs.toNat * ((l.ledger e).consumed.length % n.toNat) := by
  have hlane := h.lane e.other
  rw [End.other_other] at hlane
  have hpos := hlane.ring.rPos
  have hlt := h.not_empty hr
  have hout := hlane.ring.outstanding
  rw [← hpos]
  refine toNat_frameOffset h.area (h.frameSize e) ?_
  rw [show (l.ends.view e).ivc.rPos = (l.ends e).ivc.rPos from rfl, hpos]
  exact Nat.mod_lt _ (by omega)

/-- **The direction that the calling end writes** keeps its lane. -/
theorem lane_write (hc : c.isData = true)
    (hx : c.code.exec (l.ends.view e) = .ok (r, s')) :
    Lane n fs (l.ends.put e s' e) (l.ends.put e s' e.other)
      ((l.ledger e).record (l.ends.view e) c r s') (l.ledger e.other) := by
  have hlane := h.lane e
  have hheld : ∀ p, heldForWriting (l.ledger e).writeHeld c r = some p →
      p = fs.toNat * ((l.ledger e).published.length % n.toNat) ∧
        (l.ledger e).published.length < (l.ledger e.other).consumed.length + n.toNat := by
    intro p hp
    rcases heldForWriting_eq_some hp with hold | ⟨rfl, rfl⟩
    · exact hlane.writeHeld p hold
    · obtain ⟨-, hw, rfl⟩ := writeGetNextFrame_pointer hx
      exact ⟨h.writeOffset_eq hw, h.not_full hw⟩
  rw [put_self, put_other]
  cases (code_effect hc hx).1 with
  | quiet k | consume k hr =>
    exact hlane.transport rfl rfl rfl rfl (if_pos rfl) rfl
      (fun p hp => hheld p ((if_pos rfl).symm.trans hp)) hlane.readHeld hlane.observed
  | fill m k hw hm =>
    rw [h.writeOffset_eq hw, show (l.ends.view e).ivc.frameSize = fs from h.frameSize e] at hm
    exact (hlane.fill (h.not_full hw) hm).transport rfl rfl rfl rfl (if_pos rfl) rfl
      (fun p hp => hheld p ((if_pos rfl).symm.trans hp)) hlane.readHeld hlane.observed
  | publish m k hw hm =>
    have hne : (advanceTx (l.ends.view e)).tx.wCount ≠ (l.ends.view e).tx.wCount := by
      rw [advanceTx]
      bv_omega
    have hoff := h.writeOffset_eq hw
    have hsize : (l.ends.view e).ivc.frameSize = fs := h.frameSize e
    rw [hoff, hsize] at hm
    have hledger : ((l.ledger e).record (l.ends.view e) c r
        { advanceTx (l.ends.view e) with txFrames := m, notified := k }).published =
        (l.ledger e).published ++
          [frameSlot fs m ((l.ledger e).published.length % n.toNat)] := by
      refine (if_neg hne).trans ?_
      rw [hoff, hsize]
      rfl
    have hpub := (hlane.fill (h.not_full hw) hm).publish h.npos (h.not_full hw) hledger
      (if_neg hne)
    exact hpub.transport rfl rfl (congrArg (ringNext · _) (h.nframes e)) rfl rfl rfl
      hpub.writeHeld hpub.readHeld hpub.observed

/-- **The direction that the calling end reads** keeps its lane. -/
theorem lane_read (hc : c.isData = true)
    (hx : c.code.exec (l.ends.view e) = .ok (r, s')) :
    Lane n fs (l.ends.put e s' e.other) (l.ends.put e s' e) (l.ledger e.other)
      ((l.ledger e).record (l.ends.view e) c r s') := by
  have hlane := h.lane e.other
  rw [End.other_other] at hlane
  have hheld : ∀ p, heldForReading (l.ledger e).readHeld c r = some p →
      p = fs.toNat * ((l.ledger e).consumed.length % n.toNat) ∧
        (l.ledger e).consumed.length < (l.ledger e.other).published.length := by
    intro p hp
    rcases heldForReading_eq_some hp with hold | ⟨rfl, rfl⟩
    · exact hlane.readHeld p hold
    · obtain ⟨-, hr, rfl⟩ := readGetNextFrame_pointer hx
      exact ⟨h.readOffset_eq hr, h.not_empty hr⟩
  obtain ⟨heff, hdelivered⟩ := code_effect hc hx
  have hobs : ∀ o ∈ (l.ledger e).observed ++
      [⟨(l.ledger e).consumed.length, c.offset, r.data⟩],
      SeenIn o (l.ledger e.other).published := by
    intro o ho
    rcases List.mem_append.mp ho with ho | ho
    · exact hlane.observed o ho
    obtain rfl := List.mem_singleton.mp ho
    rcases hdelivered with hnil | ⟨hr, len, hlen, hdata⟩
    · exact .inl hnil
    · rw [hdata, h.readOffset_eq hr]
      rw [show (l.ends.view e).ivc.frameSize = fs from h.frameSize e] at hlen
      exact hlane.observe (h.not_empty hr) hlen
  rw [put_self, put_other]
  cases heff with
  | quiet k | fill m k hw hm | publish m k hw hm =>
    exact hlane.transport rfl rfl rfl rfl rfl (if_pos rfl) hlane.writeHeld
      (fun p hp => hheld p ((if_pos rfl).symm.trans hp)) hobs
  | consume k hr =>
    have hne : (advanceRx (l.ends.view e)).rx.rCount ≠ (l.ends.view e).rx.rCount := by
      rw [advanceRx]
      bv_omega
    have hledger : ((l.ledger e).record (l.ends.view e) c r
        { advanceRx (l.ends.view e) with notified := k }).consumed =
        (l.ledger e).consumed ++
          [frameSlot fs (l.ends e.other).frames ((l.ledger e).consumed.length % n.toNat)] := by
      refine (if_neg hne).trans ?_
      rw [h.readOffset_eq hr, show (l.ends.view e).ivc.frameSize = fs from h.frameSize e]
      rfl
    have hcon := hlane.consume h.npos (h.not_empty hr) hledger (if_neg hne) hobs
    exact hcon.transport rfl rfl rfl (congrArg (ringNext · _) (h.nframes e)) rfl rfl
      hcon.writeHeld hcon.readHeld hcon.observed

end

end LinkInv

/-- The invariant after a step, from what the step does to the two directions at one end. -/
theorem LinkInv.of_lanes {l l' : IvcLink} (h : LinkInv n fs l) (e : End)
    (hsizes : ∀ x, (l'.ends x).ivc.nframes = (l.ends x).ivc.nframes ∧
      (l'.ends x).ivc.frameSize = (l.ends x).ivc.frameSize)
    (hwrite : Lane n fs (l'.ends e) (l'.ends e.other) (l'.ledger e) (l'.ledger e.other))
    (hread : Lane n fs (l'.ends e.other) (l'.ends e) (l'.ledger e.other) (l'.ledger e)) :
    LinkInv n fs l' where
  npos := h.npos
  area := h.area
  nframes x := (hsizes x).1.trans (h.nframes x)
  frameSize x := (hsizes x).2.trans (h.frameSize x)
  lane x := by
    rcases End.eq_or_eq_other x e with rfl | rfl
    · exact hwrite
    · rw [End.other_other]
      exact hread

/-- **The step lemma.** -/
theorem linkInv_step (l : IvcLink) (a : LinkAction) (l' : IvcLink) (h : LinkInv n fs l)
    (hstep : linkStep l a = some l') : LinkInv n fs l' := by
  cases a with
  | call e c =>
    simp only [linkStep, Option.ite_none_right_eq_some, Option.map_eq_some_iff] at hstep
    obtain ⟨hc, ⟨r, ends⟩, hexec, rfl⟩ := hstep
    obtain ⟨s', hx, rfl⟩ := exec_eq_some hexec
    have hsizes := (code_effect hc hx).1.sizes
    refine h.of_lanes e (fun x => ?_) ?_ ?_
    · rcases End.eq_or_eq_other x e with rfl | rfl
      · simp only [put_self]
        exact hsizes
      · simp only [put_other, and_self]
    · simpa only [view_put, update_self, update_of_ne (End.other_ne e)]
        using h.lane_write hc hx
    · simpa only [view_put, update_self, update_of_ne (End.other_ne e)]
        using h.lane_read hc hx
  | fill e off len bytes =>
    simp only [linkStep, Option.ite_none_right_eq_some, Option.map_eq_some_iff] at hstep
    obtain ⟨hlen, p, hheld, rfl⟩ := hstep
    obtain ⟨rfl, hfull⟩ := (h.lane e).writeHeld p hheld
    rw [h.frameSize e] at hlen
    have hlane := h.lane e.other
    rw [End.other_other] at hlane
    refine h.of_lanes e (fun x => ?_) ?_ ?_
    · rcases End.eq_or_eq_other x e with rfl | rfl
      · simp only [IvcLink.fill, update_self, and_self]
      · simp only [IvcLink.fill, update_of_ne (End.other_ne e), and_self]
    · simp only [IvcLink.fill, update_self, update_of_ne (End.other_ne e)]
      exact (h.lane e).fill hfull
        ((AgreeOutside.refl _ _ _).blit (Nat.le_add_right _ _) (by omega) bytes)
    · simp only [IvcLink.fill, update_self, update_of_ne (End.other_ne e)]
      exact hlane.transport rfl rfl rfl rfl rfl rfl hlane.writeHeld hlane.readHeld
        hlane.observed
  | look e off len =>
    simp only [linkStep, Option.ite_none_right_eq_some, Option.map_eq_some_iff] at hstep
    obtain ⟨hlen, p, hheld, rfl⟩ := hstep
    have hlane := h.lane e.other
    rw [End.other_other] at hlane
    obtain ⟨rfl, hne⟩ := hlane.readHeld p hheld
    rw [h.frameSize e] at hlen
    refine h.of_lanes e (fun x => ⟨rfl, rfl⟩) ?_ ?_
    · simp only [IvcLink.look, update_self, update_of_ne (End.other_ne e)]
      exact (h.lane e).transport rfl rfl rfl rfl rfl rfl (h.lane e).writeHeld
        (h.lane e).readHeld (h.lane e).observed
    · simp only [IvcLink.look, update_self, update_of_ne (End.other_ne e)]
      refine hlane.transport rfl rfl rfl rfl rfl rfl hlane.writeHeld hlane.readHeld ?_
      intro o ho
      rcases List.mem_append.mp ho with ho | ho
      · exact hlane.observed o ho
      · obtain rfl := List.mem_singleton.mp ho
        exact hlane.observe hne hlen

theorem linkInv_start {l : IvcLink} (hn : 1 ≤ n) (h : LinkStart n fs l) : LinkInv n fs l := by
  have hfacts := fun e => initialised_facts (h.initialised e)
  refine ⟨by bv_omega, ?_, h.nframes_eq, h.frameSize_eq, fun e => ?_⟩
  · have := (hfacts .a).2.2
    rwa [h.nframes_eq, h.frameSize_eq] at this
  · constructor
    · rw [h.header, h.ledger, h.ledger, (hfacts e).1, (hfacts e.other).2.1]
      exact Counted.zero n
    · rw [h.ledger, h.ledger]
      exact Stored.empty _ _
    · intro p hp
      rw [h.ledger] at hp
      cases hp
    · intro p hp
      rw [h.ledger] at hp
      cases hp
    · intro o ho
      rw [h.ledger] at ho
      cases ho

/-- **The run lemma.** -/
theorem linkInv_run {l₀ l : IvcLink} {as : List LinkAction} (hn : 1 ≤ n)
    (hstart : LinkStart n fs l₀) (hrun : run linkStep l₀ as = some l) : LinkInv n fs l :=
  run_invariant linkInv_step (linkInv_start hn hstart) hrun

/-! ## The data path -/

/-- What the ledgers of a link say about the direction that `e` writes: the frames
consumed are a prefix of the frames published, at most `nframes` are outstanding, the
positions are the counts modulo `nframes`, and whatever the reader saw of a frame is what
was published under that number. -/
structure Delivers (n : U32) (l : IvcLink) (e : End) : Prop where
  isPrefix : (l.ledger e.other).consumed <+: (l.ledger e).published
  outstanding :
    (l.ledger e).published.length ≤ (l.ledger e.other).consumed.length + n.toNat
  wPos : (l.ends e).ivc.wPos.toNat = (l.ledger e).published.length % n.toNat
  rPos : (l.ends e.other).ivc.rPos.toNat = (l.ledger e.other).consumed.length % n.toNat
  observed : ∀ o ∈ (l.ledger e.other).observed, SeenIn o (l.ledger e).published

/-- **The data path is first-in first-out in both directions**, over every run of the two
ends from an established link with all counters zero.
SOURCE: tegra-ivc.c:188-256, 368-427, 493-597, 642-694 -/
theorem ivc_data_path_fifo {l₀ l : IvcLink} {as : List LinkAction} (hn : 1 ≤ n)
    (hstart : LinkStart n fs l₀) (hrun : run linkStep l₀ as = some l) (e : End) :
    Delivers n l e := by
  have hlane := (linkInv_run hn hstart hrun).lane e
  exact ⟨hlane.stored.isPrefix, hlane.stored.outstanding, hlane.ring.wPos, hlane.ring.rPos, hlane.observed⟩

def threeFrameLink : IvcLink where
  ends := threeFrameEnds
  ledger _ := .empty

theorem threeFrameLink_start : LinkStart 3 64 threeFrameLink where
  initialised := threeFrameEnds_initialised
  nframes_eq e := by cases e <;> rfl
  frameSize_eq e := by cases e <;> rfl
  header e := by cases e <;> rfl
  ledger _ := rfl

/-- A frame written in place, another one written by a copy, and one read. -/
def threeFrameRun : List LinkAction :=
  [.call .a .writeGetNextFrame, .fill .a 0 2 (fun i => BitVec.ofNat 8 (i + 1)),
    .call .a .writeAdvance, .call .a (.write (fun _ => 7) 4), .call .b (.read 2)]

theorem threeFrameRun_delivers :
    ∃ l, run linkStep threeFrameLink threeFrameRun = some l ∧
      (l.ledger .b).consumed.length = 1 ∧ (l.ledger .a).published.length = 2 ∧
      Delivers 3 l .a := by
  have hsome : (run linkStep threeFrameLink threeFrameRun).isSome = true := by decide
  refine ⟨_, (Option.some_get hsome).symm, rfl, rfl, ?_⟩
  exact ivc_data_path_fifo (by decide) threeFrameLink_start (Option.some_get hsome).symm .a

end NvidiaOot.Analysis
