import NvidiaOot.Analysis.PvaWalk

/-!
# The channels of a task

What the walks of the channels leave behind, one after the other: every mapped descriptor
has the block height of one of them, and a walked channel's chain is mapped.  The last pass
maps the rest and changes nothing of that.
-/

namespace NvidiaOot.Analysis

open Library Program Model

variable {done l : List ℕ} {hwseqMode : Bool} {r : Except Stop DmaWalk} {e : Stop}

section

variable {T : DmaTask} {w w' : DmaWalk} {env : WalkEnv} {c : ℕ}

theorem channelMapping_same {hwseqInUse : Bool}
    (h : nvpvaTaskDmaChannelMapping env w c hwseqInUse = .ok w') : SameProgress w w' := by
  obtain ⟨u, -, h⟩ := bind_eq_ok.mp h
  split at h
  case isTrue =>
    obtain rfl := pure_eq_ok.mp h
    exact ⟨rfl, rfl, rfl, rfl⟩
  case isFalse =>
    split at h
    case isTrue => cases h
    case isFalse =>
      split at h
      case isFalse =>
        obtain rfl := pure_eq_ok.mp h
        exact ⟨rfl, rfl, rfl, rfl⟩
      case isTrue =>
        obtain ⟨effect, -, h⟩ := bind_eq_ok.mp h
        split at h
        case isFalse =>
          obtain rfl := pure_eq_ok.mp h
          exact ⟨rfl, rfl, rfl, rfl⟩
        case isTrue =>
          obtain ⟨ch, -, h⟩ := bind_eq_ok.mp h
          obtain rfl := pure_eq_ok.mp h
          exact ⟨rfl, rfl, rfl, rfl⟩

theorem prepareChannel_same (h : prepareChannel env hwseqMode w c = .ok w') : SameProgress w w' := by
  obtain ⟨w1, hmap, h⟩ := bind_eq_ok.mp h
  obtain ⟨-, h⟩ := reject_bind_eq_ok.mp h
  obtain rfl := pure_eq_ok.mp h
  have hsame := channelMapping_same (liftErr_eq_ok.mp hmap)
  exact ⟨hsame.same, hsame.mapped, hsame.processed, hsame.count⟩

theorem liftErr_error {α : Type} {x : Except ℤ α} (h : liftErr x = .error e) : ∃ code, e = .err code := by
  cases x with
  | ok a => cases h
  | error code => exact ⟨code, (Except.error.inj h).symm⟩

theorem prepareChannel_error (h : prepareChannel env hwseqMode w c = .error e) : ∃ code, e = .err code := by
  rcases bind_eq_error.mp h with hmap | ⟨w1, -, h⟩
  · exact liftErr_error hmap
  · rcases bind_eq_error.mp h with hreject | ⟨u, -, h⟩
    · exact ⟨_, (reject_eq_error.mp hreject).2.symm⟩
    · cases h

theorem finishChannel_same (w : DmaWalk) (c : ℕ) : SameProgress w (finishChannel w c) := by
  unfold finishChannel
  split
  · split <;> exact ⟨rfl, rfl, rfl, rfl⟩
  · exact ⟨rfl, rfl, rfl, rfl⟩

/-- The state after the channels of `done`: every mapped descriptor has the block height of
one of them, and its chain is mapped. -/
structure ChannelsDone (T : DmaTask) (done : List ℕ) (w : DmaWalk) : Prop where
  progress : Progress T w
  closed : ClosedUnderLinks T w
  starts : ∀ c ∈ done, SoftwareChannel T c → (T.dmaChannels c).descIndex ≠ 255 →
    (T.dmaChannels c).descIndex.toNat ∈ indices w
  origin : ∀ e ∈ w.mapped, ∃ c ∈ done, SoftwareChannel T c ∧
    e.2 = (T.dmaChannels c).blockHeight ∧ (SeparateChains T → InChain T c e.1)

section

variable (h : ChannelsDone T done w)

include h

theorem ChannelsDone.congr (hsame : SameProgress w w') : ChannelsDone T done w' := by
  have hindices : indices w' = indices w := congrArg (List.map Prod.fst) hsame.mapped
  refine ⟨h.progress.congr hsame, ?_, ?_, ?_⟩
  · unfold ClosedUnderLinks
    rw [hindices]
    exact h.closed
  · rw [hindices]
    exact h.starts
  · rw [hsame.mapped]
    exact h.origin

theorem ChannelsDone.skip
    (hskip : SoftwareChannel T c → (T.dmaChannels c).descIndex = 255) : ChannelsDone T (c :: done) w := by
  refine ⟨h.progress, h.closed, ?_, ?_⟩
  · intro c' hc' hsoft hstart
    rcases List.mem_cons.mp hc' with rfl | hin
    · exact absurd (hskip hsoft) hstart
    · exact h.starts c' hin hsoft hstart
  · intro e he
    obtain ⟨c', hin, horigin⟩ := h.origin e he
    exact ⟨c', List.mem_cons_of_mem _ hin, horigin⟩

theorem ChannelsDone.walked (hidx : (T.dmaChannels c).descIndex ≠ 255)
    (hrange : (T.dmaChannels c).descIndex.toNat < T.numDmaDescriptors.toNat) :
    Walked T (T.dmaChannels c).descIndex.toNat (T.dmaChannels c).blockHeight w
      { w with did := (T.dmaChannels c).descIndex + 1 } 0 := by
  have hid : ((T.dmaChannels c).descIndex + 1).toNat = (T.dmaChannels c).descIndex.toNat + 1 := by
    have hne : (T.dmaChannels c).descIndex.toNat ≠ 255 := fun heq => hidx (BitVec.eq_of_toNat_eq heq)
    bv_omega
  refine ⟨h.progress.congr ⟨rfl, rfl, rfl, rfl⟩, fun e he => he, fun e he => Or.inl he, ?_,
    Or.inr hid.symm, fun hzero => absurd rfl hzero, ?_⟩
  · intro a ha b hab
    exact Or.inl (h.closed a ha b hab)
  · dsimp only
    omega

/-- The chain of a channel that was not walked yet is new when chains are separate. -/
theorem ChannelsDone.newChain (hnot : c ∉ done)
    (hsoft : SoftwareChannel T c) (hidx : (T.dmaChannels c).descIndex ≠ 255)
    (hsep : SeparateChains T) : NewChain T (T.dmaChannels c).descIndex.toNat w := by
  constructor
  · intro d hd hin
    obtain ⟨e, he, rfl⟩ := List.mem_map.mp hin
    obtain ⟨c', hc', hsoft', -, horigin⟩ := h.origin e he
    have heq := hsep.disjoint c c' e.1 hsoft hsoft' ⟨hidx, hd⟩ (horigin hsep)
    exact hnot (heq ▸ hc')
  · intro a b ha hab hne
    exact hsep.acyclic c a b hsoft ⟨hidx, ha⟩ hab hne

end

section

variable (hT : T.numDmaDescriptors.toNat ≤ nvpvaReservedDescriptorsStartIdx)

include hT

/-- **A walked channel.**  Its chain is mapped, new descriptors with its block height. -/
theorem ChannelsDone.walk (h : ChannelsDone T done w) (hnot : c ∉ done) (hsoft : SoftwareChannel T c)
    (hidx : (T.dmaChannels c).descIndex ≠ 255)
    (hrange : (T.dmaChannels c).descIndex.toNat < T.numDmaDescriptors.toNat) {fuel : ℕ}
    (hrun : walkChain env (T.dmaChannels c).blockHeight fuel 0
      { w with did := (T.dmaChannels c).descIndex + 1 } = some (.ok w')) : ChannelsDone T (c :: done) w' := by
  have hwalked := h.walked hidx hrange
  obtain ⟨prev, hend, hclosed, hstart⟩ := (walkChain_spec hT hwalked hrun).2 w' rfl
  have hchain (hsep : SeparateChains T) (d : ℕ) (hd : d ∈ indices w') :
      d ∈ indices w ∨ Reaches T (T.dmaChannels c).descIndex.toNat d := by
    have hnew := h.newChain hnot hsoft hidx hsep
    have hfirst : ({ w with did := (T.dmaChannels c).descIndex + 1 } : DmaWalk).did - 1 =
        (T.dmaChannels c).descIndex := by
      exact BitVec.add_sub_cancel _ _
    have hon : OnChain T (T.dmaChannels c).descIndex.toNat w
        { w with did := (T.dmaChannels c).descIndex + 1 } 0 := by
      refine ⟨fun _ => rfl, fun d hd => Or.inl hd, fun _ => ?_, nofun, nofun⟩
      rw [hfirst]
      exact Relation.ReflTransGen.refl
    exact walkChain_onChain hT hnew hwalked hon hrun d hd
  refine ⟨hend.progress, hclosed, ?_, ?_⟩
  · intro c' hc' hsoft' hidx'
    rcases List.mem_cons.mp hc' with rfl | hin
    · exact hstart
    · obtain ⟨e, he, hed⟩ := List.mem_map.mp (h.starts c' hin hsoft' hidx')
      exact List.mem_map.mpr ⟨e, hend.keeps e he, hed⟩
  · intro e he
    rcases hend.entries e he with hold | ⟨hheight, hnew⟩
    · obtain ⟨c', hin, horigin⟩ := h.origin e hold
      exact ⟨c', List.mem_cons_of_mem _ hin, horigin⟩
    · refine ⟨c, List.mem_cons_self, hsoft, hheight, fun hsep => ⟨hidx, ?_⟩⟩
      have hein : e.1 ∈ indices w' := List.mem_map.mpr ⟨e, he, rfl⟩
      exact (hchain hsep e.1 hein).resolve_left hnew

theorem ChannelsDone.softwareWalk (hgood : StartsInRange T) (h : ChannelsDone T done w) (hnot : c ∉ done) (hsoft : SoftwareChannel T c) (hrun : softwareWalk env w c = some r) :
    (∀ e, r = .error e → ∃ code, e = .err code) ∧
    (∀ w', r = .ok w' → ChannelsDone T (c :: done) w') := by
  unfold Program.softwareWalk at hrun
  have hchannels : w.task.dmaChannels = T.dmaChannels := (submitted_congr h.progress.same).2.2.2.2.1
  rw [hchannels] at hrun
  dsimp only at hrun
  cases hchain : walkChain env (T.dmaChannels c).blockHeight walkFuel 0
      { w with did := (T.dmaChannels c).descIndex + 1 } with
  | none =>
    rw [hchain] at hrun
    cases hrun
  | some r1 =>
    rw [hchain] at hrun
    by_cases hidx : (T.dmaChannels c).descIndex = 255
    · -- the id is 0: there is nothing to walk
      have hdone : r1 = .ok { w with did := (T.dmaChannels c).descIndex + 1 } := by
        have hzero : (T.dmaChannels c).descIndex + 1 = 0 := by
          rw [hidx]
          rfl
        have hstop : walkChain env (T.dmaChannels c).blockHeight walkFuel 0
            { w with did := (T.dmaChannels c).descIndex + 1 } =
            some (.ok { w with did := (T.dmaChannels c).descIndex + 1 }) := by
          refine if_neg ?_
          rintro ⟨hne, -⟩
          exact hne hzero
        exact Option.some.inj (hchain.symm.trans hstop)
      rw [hdone] at hrun
      cases hrun
      refine ⟨nofun, fun w' hw' => ?_⟩
      cases hw'
      have hskip : ChannelsDone T (c :: done) w := h.skip fun _ => hidx
      have hsame : SameProgress w { w with did := (T.dmaChannels c).descIndex + 1 } :=
        ⟨rfl, rfl, rfl, rfl⟩
      exact (hskip.congr hsame).congr (finishChannel_same _ c)
    have hrange := hgood c hsoft hidx
    cases r1 with
    | error e =>
      cases hrun
      refine ⟨fun e' he' => ?_, nofun⟩
      exact (walkChain_spec hT (h.walked hidx hrange) hchain).1 e' he'
    | ok w1 =>
      cases hrun
      refine ⟨nofun, fun w' hw' => ?_⟩
      cases hw'
      exact (h.walk hT hnot hsoft hidx hrange hchain).congr (finishChannel_same w1 c)

theorem writeChannels_spec
    (hgood : StartsInRange T) (h : ChannelsDone T done w) (hl : ∀ c ∈ l, c < T.numDmaChannels.toNat ∧ c ∉ done)
    (hnodup : l.Nodup) (hrun : writeChannels env hwseqMode l w = some r) :
    (∀ e, r = .error e → ∃ code, e = .err code) ∧
    (∀ w', r = .ok w' → ∃ done', ChannelsDone T done' w' ∧ ∀ c, c ∈ done ∨ c ∈ l → c ∈ done') := by
  induction l generalizing done w with
  | nil =>
    cases hrun
    refine ⟨nofun, fun w' hw' => ?_⟩
    cases hw'
    exact ⟨done, h, fun c hc => hc.resolve_right List.not_mem_nil⟩
  | cons c l ih =>
    obtain ⟨hc, hl⟩ := List.forall_mem_cons.mp hl
    obtain ⟨hcl, hnodup⟩ := List.nodup_cons.mp hnodup
    have hl' : ∀ c' ∈ l, c' < T.numDmaChannels.toNat ∧ c' ∉ c :: done := by
      intro c' hc'
      refine ⟨(hl c' hc').1, fun hin => ?_⟩
      rcases List.mem_cons.mp hin with rfl | hin
      · exact hcl hc'
      · exact (hl c' hc').2 hin
    have hcollect (done' : List ℕ) (hdone : ∀ c', c' ∈ c :: done ∨ c' ∈ l → c' ∈ done') (c' : ℕ)
        (hc' : c' ∈ done ∨ c' ∈ c :: l) : c' ∈ done' := by
      rcases hc' with hin | hin
      · exact hdone c' (Or.inl (List.mem_cons_of_mem _ hin))
      · rcases List.mem_cons.mp hin with rfl | hin
        · exact hdone c' (Or.inl List.mem_cons_self)
        · exact hdone c' (Or.inr hin)
    unfold writeChannels at hrun
    cases hprep : prepareChannel env hwseqMode w c with
    | error e =>
      rw [hprep] at hrun
      cases hrun
      refine ⟨fun e' he' => ?_, nofun⟩
      obtain rfl := Except.error.inj he'
      exact prepareChannel_error hprep
    | ok w1 =>
      rw [hprep] at hrun
      have h1 := h.congr (prepareChannel_same hprep)
      have hchannels : w1.task.dmaChannels = T.dmaChannels :=
        (submitted_congr h1.progress.same).2.2.2.2.1
      dsimp only at hrun
      rw [hchannels] at hrun
      split at hrun
      case isTrue hhw =>
        have hskip : ChannelsDone T (c :: done) w1 := h1.skip fun hsoft => absurd hhw hsoft.2
        obtain ⟨herr, hok⟩ := ih hskip hl' hnodup hrun
        refine ⟨herr, fun w' hw' => ?_⟩
        obtain ⟨done', hdone', hall⟩ := hok w' hw'
        exact ⟨done', hdone', hcollect done' hall⟩
      case isFalse hsw =>
        cases hwalk : softwareWalk env w1 c with
        | none =>
          rw [hwalk] at hrun
          cases hrun
        | some r1 =>
          rw [hwalk] at hrun
          obtain ⟨herr, hok⟩ := h1.softwareWalk hT hgood hc.2 ⟨hc.1, hsw⟩ hwalk
          cases r1 with
          | error e =>
            cases hrun
            refine ⟨fun e' he' => ?_, nofun⟩
            obtain rfl := Except.error.inj he'
            exact herr _ rfl
          | ok w2 =>
            obtain ⟨herr2, hok2⟩ := ih (hok w2 rfl) hl' hnodup hrun
            refine ⟨herr2, fun w' hw' => ?_⟩
            obtain ⟨done', hdone', hall⟩ := hok2 w' hw'
            exact ⟨done', hdone', hcollect done' hall⟩

theorem writeChannels_returns (h : Progress T w) : writeChannels env hwseqMode l w ≠ none := by
  induction l generalizing w with
  | nil => exact Option.some_ne_none _
  | cons c l ih =>
    unfold writeChannels
    cases hprep : prepareChannel env hwseqMode w c with
    | error e => exact Option.some_ne_none _
    | ok w1 =>
      have h1 := h.congr (prepareChannel_same hprep)
      dsimp only
      split
      case isTrue => exact ih h1
      case isFalse =>
        have hstart : Progress T { w1 with did := (w1.task.dmaChannels c).descIndex + 1 } :=
          h1.congr ⟨rfl, rfl, rfl, rfl⟩
        have hfuel : roundsLeft T { w1 with did := (w1.task.dmaChannels c).descIndex + 1 } <
            walkFuel := by
          unfold roundsLeft walkFuel
          omega
        unfold softwareWalk
        dsimp only
        cases hchain : walkChain env (w1.task.dmaChannels c).blockHeight walkFuel 0
            { w1 with did := (w1.task.dmaChannels c).descIndex + 1 } with
        | none => exact absurd hchain (walkChain_returns hT hstart hfuel)
        | some r =>
          cases r with
          | error e => exact Option.some_ne_none _
          | ok w2 =>
            have h2 := (walkChain_progress hT hstart hchain).congr (finishChannel_same w2 c)
            exact ih h2

theorem softwareWalk_start
    (h : Progress T w) (hrun : softwareWalk env w c = some (.ok w')) :
    Progress T w' ∧ ((T.dmaChannels c).descIndex ≠ 255 →
      (T.dmaChannels c).descIndex.toNat < T.numDmaDescriptors.toNat) := by
  unfold Program.softwareWalk at hrun
  have hchannels : w.task.dmaChannels = T.dmaChannels := (submitted_congr h.same).2.2.2.2.1
  rw [hchannels] at hrun
  dsimp only at hrun
  have hstart : Progress T { w with did := (T.dmaChannels c).descIndex + 1 } :=
    h.congr ⟨rfl, rfl, rfl, rfl⟩
  cases hchain : walkChain env (T.dmaChannels c).blockHeight walkFuel 0
      { w with did := (T.dmaChannels c).descIndex + 1 } with
  | none =>
    rw [hchain] at hrun
    cases hrun
  | some r1 =>
    rw [hchain] at hrun
    cases r1 with
    | error e => cases hrun
    | ok w1 =>
      obtain rfl := Except.ok.inj (Option.some.inj hrun)
      have hprogress := walkChain_progress hT hstart hchain
      refine ⟨hprogress.congr (finishChannel_same w1 c), fun hidx => ?_⟩
      have hdid : (T.dmaChannels c).descIndex + 1 ≠ 0 := by bv_omega
      have hfirst := walkChain_start hT hstart hdid hchain
      rwa [BitVec.add_sub_cancel] at hfirst

theorem writeChannels_starts (h : Progress T w)
    (hrun : writeChannels env hwseqMode l w = some (.ok w')) :
    Progress T w' ∧ ∀ c ∈ l, (T.dmaChannels c).hwseqEnable ≠ 1 →
      (T.dmaChannels c).descIndex ≠ 255 →
      (T.dmaChannels c).descIndex.toNat < T.numDmaDescriptors.toNat := by
  induction l generalizing w with
  | nil =>
    obtain rfl := Except.ok.inj (Option.some.inj hrun)
    exact ⟨h, nofun⟩
  | cons c l ih =>
    unfold writeChannels at hrun
    cases hprep : prepareChannel env hwseqMode w c with
    | error e =>
      rw [hprep] at hrun
      cases hrun
    | ok w1 =>
      rw [hprep] at hrun
      have h1 := h.congr (prepareChannel_same hprep)
      have hchannels : w1.task.dmaChannels = T.dmaChannels := (submitted_congr h1.same).2.2.2.2.1
      dsimp only at hrun
      rw [hchannels] at hrun
      split at hrun
      case isTrue hhw =>
        obtain ⟨hprogress, hrest⟩ := ih h1 hrun
        exact ⟨hprogress, List.forall_mem_cons.mpr ⟨fun hsw => absurd hhw hsw, hrest⟩⟩
      case isFalse =>
        cases hwalk : softwareWalk env w1 c with
        | none =>
          rw [hwalk] at hrun
          cases hrun
        | some r1 =>
          rw [hwalk] at hrun
          cases r1 with
          | error e => cases hrun
          | ok w2 =>
            obtain ⟨h2, hstart⟩ := softwareWalk_start hT h1 hwalk
            obtain ⟨hprogress, hrest⟩ := ih h2 hrun
            exact ⟨hprogress, List.forall_mem_cons.mpr ⟨fun _ => hstart, hrest⟩⟩

end

/-- Descriptors that are closed under links hold all that is reached from one of them. -/
theorem ClosedUnderLinks.reaches (h : ClosedUnderLinks T w) {a b : ℕ} (ha : a ∈ indices w)
    (hab : Reaches T a b) : b ∈ indices w := by
  induction hab with
  | refl => exact ha
  | tail _ hlink ih => exact h _ ih _ hlink

/-- The chain of a channel that is done is mapped with the channel's block height. -/
theorem ChannelsDone.height {d : ℕ} (h : ChannelsDone T done w)
    (hheights : SameHeights T ∨ SeparateChains T) (hc : c ∈ done) (hsoft : SoftwareChannel T c)
    (hin : InChain T c d) : (d, (T.dmaChannels c).blockHeight) ∈ w.mapped := by
  have hd := h.closed.reaches (h.starts c hc hsoft hin.1) hin.2
  obtain ⟨⟨d', height⟩, he, rfl⟩ := List.mem_map.mp hd
  obtain ⟨c', hc', hsoft', hheight, hchain⟩ := h.origin _ he
  have hsame : height = (T.dmaChannels c).blockHeight := by
    rcases hheights with hsame | hsep
    · exact hheight.trans (hsame c' c hsoft' hsoft)
    · have heq := hsep.disjoint c c' d' hsoft hsoft' hin (hchain hsep)
      rw [heq]
      exact hheight
  rw [← hsame]
  exact he

end

section

variable {T : DmaTask} {w w' : DmaWalk} {env : WalkEnv}

theorem descLoop_last (hT : T.numDmaDescriptors.toNat ≤ nvpvaReservedDescriptorsStartIdx)
    {fuel d : ℕ} (h : Progress T w) (hfuel : T.numDmaDescriptors.toNat ≤ d + fuel) (hbelow : ∀ k < d, k ∈ indices w)
    (hrun : descLoop env.toDmaEnv T.numDmaDescriptors.toNat fuel d d w = r) :
    (∀ e, r = .error e → ∃ code, e = .err code) ∧
    (∀ w', r = .ok w' → Progress T w' ∧ (∀ k < T.numDmaDescriptors.toNat, k ∈ indices w') ∧
      ∀ e ∈ w.mapped, e ∈ w'.mapped) := by
  induction fuel generalizing d w with
  | zero =>
    subst hrun
    refine ⟨fun _ he => by (cases he), fun w' hw' => ?_⟩
    cases hw'
    exact ⟨h, fun k hk => hbelow k (by omega), fun e he => he⟩
  | succ fuel ih =>
    unfold descLoop at hrun
    split at hrun
    case isFalse hstop =>
      subst hrun
      refine ⟨fun _ he => by (cases he), fun w' hw' => ?_⟩
      cases hw'
      refine ⟨h, fun k hk => ?_, fun e he => he⟩
      -- either the pass is over, or the counter is full and then all are mapped
      by_contra hmissing
      have hroom := h.length_lt hk hmissing
      apply hstop
      rw [BitVec.lt_def, h.num, h.count]
      refine ⟨?_, hroom⟩
      by_contra hover
      exact hmissing (hbelow k (by omega))
    case isTrue hgo =>
      split at hrun
      case isTrue hmark =>
        have hin := (h.marked d).mp hmark
        refine ih h (by omega) (fun k hk => ?_) hrun
        rcases Nat.lt_succ_iff_lt_or_eq.mp hk with hlt | rfl
        · exact hbelow k hlt
        · exact hin
      case isFalse hmark =>
        have hnew : d ∉ indices w := fun hin => hmark ((h.marked d).mpr hin)
        have hfree : d ≠ nvpvaReservedDescriptorsStartIdx := by omega
        rw [if_neg hfree] at hrun
        have hd : d < (w.markProcessed d).task.numDmaDescriptors.toNat := by
          have hnum : (w.markProcessed d).task.numDmaDescriptors = T.numDmaDescriptors := h.num
          rw [hnum]
          exact hgo.1
        cases hone : mapOne env.toDmaEnv (w.markProcessed d) d with
        | error e =>
          rw [hone] at hrun
          subst hrun
          refine ⟨fun e' he' => ?_, fun _ he => by cases he⟩
          obtain rfl := Except.error.inj he'
          exact mapOne_error hd hone
        | ok w1 =>
          rw [hone] at hrun
          obtain ⟨hprogress, -, hmapped, -, -, -⟩ := h.mapOne hnew hone
          have hindices : indices w1 = d :: indices w := congrArg (List.map Prod.fst) hmapped
          have hbelow' : ∀ k < d + 1, k ∈ indices w1 := by
            intro k hk
            rw [hindices]
            rcases Nat.lt_succ_iff_lt_or_eq.mp hk with hlt | rfl
            · exact List.mem_cons_of_mem _ (hbelow k hlt)
            · exact List.mem_cons_self
          obtain ⟨herr, hok⟩ := ih hprogress (by omega) hbelow' hrun
          refine ⟨herr, fun w' hw' => ?_⟩
          obtain ⟨hp, hall, hkeep⟩ := hok w' hw'
          refine ⟨hp, hall, fun e he => hkeep e ?_⟩
          rw [hmapped]
          exact List.mem_cons_of_mem _ he

theorem ChannelsDone.cleared (w : DmaWalk) : ChannelsDone w.task [] w.cleared := by
  refine ⟨⟨rfl, List.nodup_nil, ?_, nofun, rfl⟩, nofun, nofun, nofun⟩
  intro d
  constructor
  · nofun
  · nofun

theorem hwseqSetup_same (h : hwseqSetup env w = .ok (hwseqMode, w')) : SameProgress w w' := by
  unfold hwseqSetup at h
  split at h
  case isTrue =>
    obtain ⟨-, rfl⟩ := Prod.mk.inj (Except.ok.inj h)
    exact ⟨rfl, rfl, rfl, rfl⟩
  case isFalse =>
    obtain ⟨-, h⟩ := reject_bind_eq_ok.mp h
    obtain ⟨-, h⟩ := reject_bind_eq_ok.mp h
    obtain ⟨⟨b, t⟩, hpin, h⟩ := bind_eq_ok.mp h
    obtain ⟨-, rfl⟩ := Prod.mk.inj (pure_eq_ok.mp h)
    have hplan := plan_pinMem (liftErr_eq_ok.mp hpin)
    obtain ⟨hprocessed, hcount, -, -⟩ := plan_congr hplan
    exact ⟨submitted_of_plan hplan, rfl, hprocessed, hcount⟩

theorem hwseqSetup_error (h : hwseqSetup env w = .error e) : ∃ code, e = .err code := by
  unfold hwseqSetup at h
  split at h
  case isTrue => cases h
  case isFalse =>
    rcases bind_eq_error.mp h with hversion | ⟨-, -, h⟩
    · exact ⟨_, (reject_eq_error.mp hversion).2.symm⟩
    rcases bind_eq_error.mp h with hsize | ⟨-, -, h⟩
    · exact ⟨_, (reject_eq_error.mp hsize).2.symm⟩
    · rcases bind_eq_error.mp h with hpin | ⟨r, -, h⟩
      · exact liftErr_error hpin
      · cases h

theorem checkBounds_error (h : checkBounds env w l = .error e) : ∃ code, e = .err code := by
  induction l with
  | nil => cases h
  | cons c l ih =>
    unfold checkBounds at h
    split at h
    case isFalse => exact ih h
    case isTrue =>
      split at h
      · exact ih h
      · exact ⟨_, (Except.error.inj h).symm⟩

/-- **After the last pass all descriptors are mapped**, the earlier ones as they were. -/
theorem finishDmaInfo_spec (hT : T.numDmaDescriptors.toNat ≤ nvpvaReservedDescriptorsStartIdx)
    (h : Progress T w) (hrun : finishDmaInfo env w = r) : (∀ e, r = .error e → ∃ code, e = .err code) ∧
    (∀ w', r = .ok w' → Progress T w' ∧ (∀ k < T.numDmaDescriptors.toNat, k ∈ indices w') ∧
      ∀ e ∈ w.mapped, e ∈ w'.mapped) := by
  have h0 : Progress T { w with did := 0 } := h.congr ⟨rfl, rfl, rfl, rfl⟩
  have hnone : ∀ k < 0, k ∈ indices { w with did := 0 } := fun k hk => absurd hk (Nat.not_lt_zero k)
  have hfuel := (Nat.zero_add T.numDmaDescriptors.toNat).ge
  have hpass (r : Except Stop DmaWalk)
      (hloop : descLoop env.toDmaEnv T.numDmaDescriptors.toNat T.numDmaDescriptors.toNat 0 0
        { w with did := 0 } = r) := descLoop_last hT h0 hfuel hnone hloop
  constructor
  · rintro e rfl
    rcases bind_eq_error.mp hrun with hmap | ⟨w1, -, hcheck⟩
    · rw [h.num] at hmap
      exact (hpass _ hmap).1 e rfl
    split at hcheck
    case isTrue =>
      rcases bind_eq_error.mp hcheck with hbounds | ⟨-, -, hpure⟩
      · exact checkBounds_error hbounds
      · cases hpure
    case isFalse => cases hcheck
  · rintro w' rfl
    obtain ⟨w1, hmap, hcheck⟩ := bind_eq_ok.mp hrun
    rw [h.num] at hmap
    have hsame : w1 = w' := by
      split at hcheck
      case isTrue =>
        obtain ⟨-, -, hpure⟩ := bind_eq_ok.mp hcheck
        exact pure_eq_ok.mp hpure
      case isFalse => exact pure_eq_ok.mp hcheck
    obtain rfl := hsame
    exact (hpass _ hmap).2 w1 rfl

end

section

variable {env : WalkEnv} {w w' : DmaWalk}

theorem pvaTaskWriteDmaInfo_busy (hdescs : w.task.numDmaDescriptors ≠ 0) (hchans : w.task.numDmaChannels ≠ 0) :
    pvaTaskWriteDmaInfo env w =
      match hwseqSetup env w.cleared with
      | .error e => some (.error e)
      | .ok (hwseqMode, w1) =>
        match writeChannels env hwseqMode (List.range w1.task.numDmaChannels.toNat) w1 with
        | some (.ok w2) => some (finishDmaInfo env w2)
        | other => other := by
  refine if_neg ?_
  rintro (hzero | hzero)
  · exact hdescs hzero
  · exact hchans hzero

section

variable (hT : w.task.numDmaDescriptors.toNat ≤ nvpvaReservedDescriptorsStartIdx)

include hT

section

variable (hdescs : w.task.numDmaDescriptors ≠ 0)

include hdescs

section

variable (hchans : w.task.numDmaChannels ≠ 0)

include hchans

/-- **The walk of a task always ends.** -/
theorem pvaTaskWriteDmaInfo_returns :
    pvaTaskWriteDmaInfo env w ≠ none := by
  rw [pvaTaskWriteDmaInfo_busy hdescs hchans]
  cases hsetup : hwseqSetup env w.cleared with
  | error e => exact Option.some_ne_none _
  | ok r =>
    have h1 := (ChannelsDone.cleared w).progress.congr (hwseqSetup_same hsetup)
    dsimp only
    split
    · exact Option.some_ne_none _
    · exact writeChannels_returns hT h1

theorem pvaTaskWriteDmaInfo_spec (hgood : StartsInRange w.task)
    (hrun : pvaTaskWriteDmaInfo env w = some r) : (∀ e, r = .error e → ∃ code, e = .err code) ∧
    (∀ w', r = .ok w' → Progress w.task w' ∧
      (∀ k < w.task.numDmaDescriptors.toNat, k ∈ indices w') ∧
      ∃ w1 done, ChannelsDone w.task done w1 ∧ (∀ c, SoftwareChannel w.task c → c ∈ done) ∧
        ∀ e ∈ w1.mapped, e ∈ w'.mapped) := by
  rw [pvaTaskWriteDmaInfo_busy hdescs hchans] at hrun
  cases hsetup : hwseqSetup env w.cleared with
  | error e =>
    rw [hsetup] at hrun
    cases hrun
    refine ⟨fun e' he' => ?_, nofun⟩
    obtain rfl := Except.error.inj he'
    exact hwseqSetup_error hsetup
  | ok setup =>
    obtain ⟨hwseqMode, w1⟩ := setup
    rw [hsetup] at hrun
    have h1 := (ChannelsDone.cleared w).congr (hwseqSetup_same hsetup)
    have hnum : w1.task.numDmaChannels = w.task.numDmaChannels :=
      (submitted_congr h1.progress.same).2.2.2.1
    dsimp only at hrun
    rw [hnum] at hrun
    have hbelow : ∀ c ∈ List.range w.task.numDmaChannels.toNat,
        c < w.task.numDmaChannels.toNat ∧ c ∉ ([] : List ℕ) := by
      intro c hc
      exact ⟨List.mem_range.mp hc, List.not_mem_nil⟩
    cases hwrite : writeChannels env hwseqMode (List.range w.task.numDmaChannels.toNat) w1 with
    | none =>
      rw [hwrite] at hrun
      cases hrun
    | some r1 =>
      rw [hwrite] at hrun
      obtain ⟨herr, hok⟩ := writeChannels_spec hT hgood h1 hbelow List.nodup_range hwrite
      cases r1 with
      | error e =>
        cases hrun
        refine ⟨fun e' he' => ?_, nofun⟩
        obtain rfl := Except.error.inj he'
        exact herr _ rfl
      | ok w2 =>
        obtain ⟨done, hdone, hall⟩ := hok w2 rfl
        obtain ⟨herr2, hok2⟩ := finishDmaInfo_spec hT hdone.progress (Option.some.inj hrun)
        refine ⟨herr2, fun w' hw' => ?_⟩
        obtain ⟨hprogress, hmapped, hkeep⟩ := hok2 w' hw'
        refine ⟨hprogress, hmapped, w2, done, hdone, fun c hsoft => ?_, hkeep⟩
        exact hall c (Or.inr (List.mem_range.mpr hsoft.1))

theorem pvaTaskWriteDmaInfo_starts
    (hrun : pvaTaskWriteDmaInfo env w = some (.ok w')) : StartsInRange w.task := by
  rw [pvaTaskWriteDmaInfo_busy hdescs hchans] at hrun
  cases hsetup : hwseqSetup env w.cleared with
  | error e =>
    rw [hsetup] at hrun
    cases hrun
  | ok setup =>
    obtain ⟨hwseqMode, w1⟩ := setup
    rw [hsetup] at hrun
    have h1 := (ChannelsDone.cleared w).progress.congr (hwseqSetup_same hsetup)
    have hnum : w1.task.numDmaChannels = w.task.numDmaChannels := (submitted_congr h1.same).2.2.2.1
    dsimp only at hrun
    rw [hnum] at hrun
    cases hwrite : writeChannels env hwseqMode (List.range w.task.numDmaChannels.toNat) w1 with
    | none =>
      rw [hwrite] at hrun
      cases hrun
    | some r1 =>
      rw [hwrite] at hrun
      cases r1 with
      | error e => cases hrun
      | ok w2 =>
        intro c hsoft hidx
        have hstarts := (writeChannels_starts hT h1 hwrite).2
        exact hstarts c (List.mem_range.mpr hsoft.1) hsoft.2 hidx

end

end

end

def softwareEnv : WalkEnv where
  toDmaEnv := roomyEnv
  verifyHwseqBlob _ _ := .error (-eINVAL)
  validateDmaBoundaries _ _ := .ok ()

/-- One channel of block height 3 that starts at the descriptor `descIndex`. -/
def oneChannelWalk (descIndex : U8) : DmaWalk :=
  { singleWalk copyDescriptor with
    task := { (singleWalk copyDescriptor).task with
      dmaChannels := fun _ => { (default : DmaChannel) with descIndex := descIndex, blockHeight := 3 } } }

theorem oneChannel_intended : WalkedAsIntended (oneChannelWalk 0).task := by
  intro _
  refine ⟨by decide, ⟨fun c _ _ => ?_, Or.inl fun c c' _ _ => rfl⟩⟩
  exact Nat.zero_lt_one

end

end NvidiaOot.Analysis
