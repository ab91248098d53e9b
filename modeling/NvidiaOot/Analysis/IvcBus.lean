import NvidiaOot.Library.BitFields
import NvidiaOot.Analysis.IvcCalls
import NvidiaOot.Model.IvcBus

/-!
# The queues of a region

As long as two queues have less than `2 ^ 32` bytes the sizes of the code are the exact ones, and each
channel takes its queues from the rest of its region.
-/

namespace NvidiaOot.Analysis

open Library Program Model Function

/-! ## Sizes -/

theorem and_align_eq_zero_iff (q : U32) : q &&& BitVec.ofNat 32 (ivcAlign - 1) = 0 ↔ q.toNat % 64 = 0 :=
  and_low_eq_zero_iff (k := 6) q (by simp [ivcAlign])

theorem totalQueueSize_eq_ok {q r : U32} (h : tegraIvcTotalQueueSize q = .ok r) : r.toNat = exactTotal q.toNat := by
  simp only [tegraIvcTotalQueueSize] at h
  have halign := and_align_eq_zero_iff q
  have hheader : (BitVec.ofNat 32 sizeofIvcChannelHeader).toNat = 128 := by
    simp [sizeofIvcChannelHeader]
  split at h
  · rename_i hnot
    have hr : r = 0 := (Except.ok.inj h).symm
    rw [exactTotal, ivcAlign, if_pos (mt halign.mpr hnot), hr]
    simp
  rename_i haligned
  rw [exactTotal, ivcAlign, if_neg (not_not.mpr (halign.mp (not_not.mp haligned)))]
  split at h
  · cases h
  rename_i hsafe
  rw [isU32AdditionSafe, Bool.not_eq_true', decide_eq_false_iff_not, not_not, ge_iff_le,
    BitVec.le_def, hheader] at hsafe
  have hle : q.toNat + 128 < 2 ^ 32 := by
    have hsub : (BitVec.allOnes 32 - q).toNat = 2 ^ 32 - 1 - q.toNat := by
      have hle : q ≤ BitVec.allOnes 32 := by
        rw [BitVec.le_def, BitVec.toNat_allOnes]
        omega
      rw [BitVec.toNat_sub_of_le hle, BitVec.toNat_allOnes]
    omega
  have hr : r = q + BitVec.ofNat 32 sizeofIvcChannelHeader := (Except.ok.inj h).symm
  rw [hr, BitVec.toNat_add, hheader, Nat.mod_eq_of_lt hle, sizeofIvcChannelHeader]

theorem roundFrames_exact {n : U32} (hn : n ≠ 0) (h : exactFrames n.toNat < 2 ^ 32) :
    (roundFrames n).toNat = exactFrames n.toNat := by
  rw [exactFrames] at h ⊢
  have hpos : 0 < n.toNat := Nat.pos_of_ne_zero fun h0 => hn (BitVec.eq_of_toNat_eq h0)
  have hsub : (n - 1).toNat = n.toNat - 1 := BitVec.toNat_sub_of_le (by
    exact hpos)
  have hsize : (n.toNat - 1).size < 32 := (Nat.pow_lt_pow_iff_right (by omega)).mp h
  rw [roundFrames, fls, hsub, Nat.mod_eq_of_lt hsize, BitVec.toNat_shiftLeft, Nat.shiftLeft_eq]
  change 1 * _ % _ = _
  rw [Nat.one_mul, Nat.mod_eq_of_lt h]

theorem initBody_checks {ivc ivc' : Ivc} {rx rxHandle tx txHandle : U64} {nframes frameSize : U32}
    (h : tegraIvcInitBody ivc rx rxHandle tx txHandle nframes frameSize none = .ok (0, ivc')) :
    checkIvcParams rx tx nframes frameSize = 0 := by
  simp only [tegraIvcInitBody] at h
  split at h
  · rename_i hcheck
    exact absurd (Prod.mk.inj (Except.ok.inj h)).1 hcheck
  · rename_i hcheck
    exact not_not.mp hcheck

theorem checkIvcParams_aligned {rx tx : U64} {nframes frameSize : U32}
    (h : checkIvcParams rx tx nframes frameSize = 0) : frameSize.toNat % 64 = 0 := by
  simp only [checkIvcParams] at h
  by_contra hnot
  have hmask := mt (and_align_eq_zero_iff frameSize).mp hnot
  split at h
  · cases h
  split at h
  · cases h
  · split at h
    · cases h
    · simp [eINVAL] at h

theorem checkIvcParams_eq (rx tx : U64) (nframes frameSize : U32) :
    checkIvcParams rx tx nframes frameSize = 0 ∨ checkIvcParams rx tx nframes frameSize = - eINVAL := by
  simp only [checkIvcParams]
  repeat' split
  all_goals first
    | exact Or.inr rfl
    | exact Or.inl rfl

/-- Where the size of the queues can be computed, they are set up or there is an error code. -/
theorem initBody_ends {ivc : Ivc} {rx rxHandle tx txHandle : U64} {nframes frameSize queueSize : U32}
    (htotal : tegraIvcTotalQueueSize (nframes * frameSize) = .ok queueSize) :
    ∃ ret ivc', tegraIvcInitBody ivc rx rxHandle tx txHandle nframes frameSize none = .ok (ret, ivc') ∧
      (ret = 0 ∨ isErr ret = true) := by
  simp only [tegraIvcInitBody, htotal, mapHandles]
  split
  · rename_i hcheck
    refine ⟨_, _, rfl, Or.inr ?_⟩
    rw [(checkIvcParams_eq rx tx nframes frameSize).resolve_left hcheck]
    decide
  split
  · exact ⟨_, _, rfl, Or.inr (by decide)⟩
  · split
    · exact ⟨_, _, rfl, Or.inr (by decide)⟩
    · exact ⟨_, _, rfl, Or.inl rfl⟩

/-! ## What a channel is created from -/

structure NodeValid (node : TegraIvcNode) (p : TegraIvcProperties) : Prop where
  count : ∃ n, node.frameCount = some n ∧ n ≠ 0 ∧ p.nframes = roundFrames n
  size : node.frameSize = some p.frameSize ∧ p.frameSize ≠ 0
  valid : ¬ InvalidNode node

theorem properties_eq_ok {node : TegraIvcNode} {p : TegraIvcProperties}
    (h : tegraIvcChannelProperties node = .ok p) : NodeValid node p := by
  simp only [tegraIvcChannelProperties] at h
  split at h
  · cases h
  split at h
  · cases h
  · cases h
  · rename_i service group hservice hgroup
    split at h
    · cases h
    rename_i hvalid
    split at h
    · cases h
    rename_i n hcount
    split at h
    · cases h
    rename_i hn
    split at h
    · cases h
    rename_i f hsize
    split at h
    · cases h
    rename_i hf
    rw [← Except.ok.inj h]
    refine ⟨⟨n, hcount, hn, rfl⟩, ⟨hsize, hf⟩, ?_⟩
    rintro (hmissing | hbad | hzero | hzero)
    · rw [hservice] at hmissing
      cases hmissing
    · exact hbad group hgroup (not_not.mp hvalid)
    · exact hn (hzero n hcount)
    · exact hf (hzero f hsize)

/-- What is wrong with the properties of a child has an error code, or the code zero. -/
theorem properties_eq_error {node : TegraIvcNode} {ret : ℤ}
    (h : tegraIvcChannelProperties node = .error ret) (hret : ret ≠ 0) : isErr ret = true := by
  simp only [tegraIvcChannelProperties] at h
  have hnomem : isErr (- eNOMEM) = true := by decide
  have hinval : isErr (- eINVAL) = true := by decide
  split at h
  · exact Except.error.inj h ▸ hnomem
  split at h
  · exact Except.error.inj h ▸ hinval
  · exact Except.error.inj h ▸ hinval
  · split at h
    · exact absurd (Except.error.inj h).symm hret
    · split at h
      · exact Except.error.inj h ▸ hinval
      · split at h
        · exact absurd (Except.error.inj h).symm hret
        · split at h
          · exact Except.error.inj h ▸ hinval
          · split at h
            · exact absurd (Except.error.inj h).symm hret
            · cases h

structure ChannelCreated (i : ℕ) (region : TegraIvcRegion) (node : TegraIvcNode)
    (chan : TegraIvcChannel) (region' : TegraIvcRegion) (p : TegraIvcProperties) : Prop where
  properties : tegraIvcChannelProperties node = .ok p
  config : tegraIvcConfigFull region = false
  total : tegraIvcTotalQueueSize (p.nframes * p.frameSize) = .ok chan.queueSize
  space : region.ivcSize + (2 * chan.queueSize).setWidth 64 ≤ region.size
  product : p.nframes.toNat * p.frameSize.toNat < 2 ^ 32
  aligned : p.frameSize.toNat % 64 = 0
  ofNode : chan.ofNode = node
  ofRegion : chan.region = i
  rx : chan.rx = region.ivcSize.setWidth 32
  tx : chan.tx = (region.ivcSize + chan.queueSize.setWidth 64).setWidth 32
  tlvOffset : chan.tlvOffset = region.configSize
  after : region' = { region with
    ivcSize := region.ivcSize + chan.queueSize.setWidth 64 + chan.queueSize.setWidth 64
    configSize := region.configSize + TLV_IVC_SETUP_SIZE }

theorem create_eq_ok {i : ℕ} {region region' : TegraIvcRegion} {node : TegraIvcNode}
    {chan : TegraIvcChannel} (h : tegraIvcChannelCreate i region node = .ok (chan, region')) :
    ∃ p, ChannelCreated i region node chan region' p := by
  simp only [tegraIvcChannelCreate] at h
  split at h
  · cases h
  rename_i p hp
  split at h
  · cases h
  rename_i hconfig
  split at h
  · cases h
  rename_i queueSize htotal
  split at h
  · cases h
  rename_i hspace
  split at h
  · cases h
  rename_i ret ivc hinit
  split at h
  · cases h
  rename_i hret
  rw [not_not.mp hret] at hinit
  have hcheck := initBody_checks hinit
  split at h
  · cases h
  obtain ⟨rfl, rfl⟩ := h
  exact ⟨p, hp, Bool.eq_false_of_not_eq_true hconfig, htotal, BitVec.not_lt.mp hspace,
    checkIvcParams_product hcheck, checkIvcParams_aligned hcheck, rfl, rfl, rfl, rfl, rfl,
    rfl⟩

/-! ## The layout -/

variable {i : ℕ} {region region' : TegraIvcRegion} {node : TegraIvcNode} {chan : TegraIvcChannel}
  {chans : List TegraIvcChannel} {p : TegraIvcProperties}

theorem ChannelCreated.exact (h : ChannelCreated i region node chan region' p)
    (hsmall : SmallQueues node) : chan.queueSize.toNat = queueBytes node := by
  have hvalid := properties_eq_ok h.properties
  obtain ⟨n, hcount, hn, hround⟩ := hvalid.count
  obtain ⟨hsize, hf⟩ := hvalid.size
  have hpos : 0 < p.frameSize.toNat := Nat.pos_of_ne_zero fun h0 => hf (BitVec.eq_of_toNat_eq h0)
  have hbytes : queueBytes node = exactFrames n.toNat * p.frameSize.toNat + 128 := by
    rw [queueBytes, hcount, hsize]
    simp [exactTotal, ivcAlign, sizeofIvcChannelHeader, Nat.mul_mod, h.aligned]
  rw [SmallQueues, hbytes] at hsmall
  have hframes : exactFrames n.toNat ≤ exactFrames n.toNat * p.frameSize.toNat :=
    Nat.le_mul_of_pos_right _ hpos
  have hexact : p.nframes.toNat = exactFrames n.toNat := by
    rw [hround]
    exact roundFrames_exact hn (by omega)
  rw [totalQueueSize_eq_ok h.total, BitVec.toNat_mul, hexact, Nat.mod_eq_of_lt (by omega), hbytes]
  simp [exactTotal, ivcAlign, sizeofIvcChannelHeader, Nat.mul_mod, h.aligned]

/-- Where the next channel starts, and what is behind. -/
structure RegionTracked (region : TegraIvcRegion) (chans : List TegraIvcChannel) : Prop where
  low : CAMRTC_IVC_CONFIG_SIZE.toNat ≤ region.ivcSize.toNat
  high : region.ivcSize.toNat < 2 ^ 32
  small : region.size.toNat < 2 ^ 32
  config : region.configSize.toNat % TLV_IVC_SETUP_SIZE.toNat = 0 ∧
    region.configSize.toNat ≤ CAMRTC_IVC_CONFIG_SIZE.toNat
  size : ∀ chan ∈ chans, chan.queueSize.toNat = queueBytes chan.ofNode
  bounds : ∀ r ∈ chans.flatMap channelQueues, CAMRTC_IVC_CONFIG_SIZE.toNat ≤ r.start ∧
    r.stop ≤ region.ivcSize.toNat ∧ r.stop ≤ region.size.toNat
  disjoint : (chans.flatMap channelQueues).Pairwise Range.Disjoint
  records : ∀ chan ∈ chans,
    chan.tlvOffset.toNat + TLV_IVC_SETUP_SIZE.toNat ≤ region.configSize.toNat

theorem RegionTracked.laid (h : RegionTracked region chans) : RegionLaid region chans where
  size := h.size
  bounds := fun r hr => ⟨(h.bounds r hr).1, (h.bounds r hr).2.2⟩
  disjoint := h.disjoint
  records := h.records
  terminator := by
    have hconfig := h.config
    simp [CAMRTC_IVC_CONFIG_SIZE, TLV_IVC_SETUP_SIZE, TLV_TAG_SIZE] at hconfig ⊢
    omega

theorem ChannelCreated.after_toNat (h : ChannelCreated i region node chan region' p)
    (htracked : RegionTracked region chans) (hsmall : SmallQueues node) :
    region'.ivcSize.toNat = region.ivcSize.toNat + 2 * queueBytes node ∧
      region.ivcSize.toNat + 2 * queueBytes node ≤ region.size.toNat ∧
      region'.configSize.toNat = region.configSize.toNat + 88 ∧
      region.configSize.toNat + 88 ≤ CAMRTC_IVC_CONFIG_SIZE.toNat := by
  have hexact := h.exact hsmall
  have hhigh := htracked.high
  have hconfig := htracked.config.2
  have hspace := h.space
  have hfull := h.config
  have hdouble : (2 * chan.queueSize).toNat = 2 * queueBytes node := by
    rw [BitVec.toNat_mul, hexact]
    exact Nat.mod_eq_of_lt hsmall
  rw [BitVec.le_def, BitVec.toNat_add, BitVec.toNat_setWidth_of_le (by omega), hdouble] at hspace
  rw [tegraIvcConfigFull, decide_eq_false_iff_not, BitVec.lt_def, BitVec.toNat_add] at hfull
  simp [CAMRTC_IVC_CONFIG_SIZE, TLV_IVC_SETUP_SIZE] at hconfig hfull
  rw [h.after]
  simp [CAMRTC_IVC_CONFIG_SIZE, TLV_IVC_SETUP_SIZE, hexact]
  omega

theorem ChannelCreated.tracked (h : ChannelCreated i region node chan region' p)
    (htracked : RegionTracked region chans) (hsmall : SmallQueues node) :
    RegionTracked region' (chan :: chans) := by
  have hexact := h.exact hsmall
  obtain ⟨hivc, hspace, hconfigEq, hconfigLe⟩ := h.after_toNat htracked hsmall
  have hsize : region'.size = region.size := by rw [h.after]
  have hhigh := htracked.high
  have hlow := htracked.low
  have hrecord := htracked.config
  have hsizeLt := htracked.small
  have hrx : chan.rx.toNat = region.ivcSize.toNat := by
    rw [h.rx, BitVec.toNat_setWidth]
    exact Nat.mod_eq_of_lt hhigh
  have htx : chan.tx.toNat = region.ivcSize.toNat + queueBytes node := by
    rw [h.tx, BitVec.toNat_setWidth, BitVec.toNat_add, BitVec.toNat_setWidth_of_le (by omega), hexact]
    omega
  have hqueues : channelQueues chan =
      [⟨region.ivcSize.toNat, queueBytes node⟩,
        ⟨region.ivcSize.toNat + queueBytes node, queueBytes node⟩] := by
    rw [channelQueues, hrx, htx, h.ofNode]
  constructor
  · omega
  · omega
  · rw [hsize]
    exact hsizeLt
  · simp [TLV_IVC_SETUP_SIZE] at hrecord ⊢
    omega
  · intro c hc
    rcases List.mem_cons.mp hc with rfl | hc
    · rw [h.ofNode]
      exact hexact
    · exact htracked.size c hc
  · intro r hr
    rw [List.flatMap_cons, hqueues] at hr
    rw [hsize]
    rcases List.mem_append.mp hr with hr | hr
    · simp only [List.mem_cons, List.not_mem_nil, or_false] at hr
      rcases hr with rfl | rfl <;> simp only [Range.stop] <;> omega
    · have hold := htracked.bounds r hr
      omega
  · rw [List.flatMap_cons, hqueues]
    refine List.pairwise_append.mpr ⟨?_, htracked.disjoint, ?_⟩
    · simp [Range.Disjoint, Range.stop]
    · intro r hr r' hr'
      have hold := htracked.bounds r' hr'
      simp only [List.mem_cons, List.not_mem_nil, or_false] at hr
      refine Or.inr ?_
      rcases hr with rfl | rfl
      · exact hold.2.1
      · exact hold.2.1.trans (Nat.le_add_right _ _)
  · intro c hc
    rcases List.mem_cons.mp hc with rfl | hc
    · rw [h.tlvOffset, hconfigEq]
      exact Nat.le_refl _
    · have hold := htracked.records c hc
      omega

/-! ## Runs over the children -/

variable {bus bus' : TegraIvcBus} {op : ℕ × TegraIvcNode} {ops : List (ℕ × TegraIvcNode)}
  {count : ℕ}

theorem ivcBusStep_eq_some (h : ivcBusStep bus op = some bus') : (op.2.disabled = true ∧ bus' = bus) ∨
      op.2.disabled = false ∧ ∃ chan region' p, ChannelCreated op.1 (bus.regions op.1) op.2 chan region' p ∧
          bus' = ⟨update bus.regions op.1 region', chan :: bus.chans⟩ := by
  simp only [ivcBusStep] at h
  split at h
  · rename_i hdisabled
    exact Or.inl ⟨hdisabled, (Option.some.inj h).symm⟩
  rename_i henabled
  obtain ⟨⟨chan, region'⟩, hcreate, rfl⟩ := Option.map_eq_some_iff.mp h
  have hok : tegraIvcChannelCreate op.1 (bus.regions op.1) op.2 = .ok (chan, region') := by
    cases heq : tegraIvcChannelCreate op.1 (bus.regions op.1) op.2 with
    | error fault => simp [heq, Except.toOption] at hcreate
    | ok result =>
      rw [heq] at hcreate
      exact congrArg Except.ok (Option.some.inj hcreate)
  obtain ⟨p, hp⟩ := create_eq_ok hok
  exact Or.inr ⟨Bool.eq_false_of_not_eq_true henabled, chan, region', p, hp, rfl⟩

def BusTracked (count : ℕ) (bus : TegraIvcBus) : Prop :=
  ∀ i < count, RegionTracked (bus.regions i) (channelsOf bus i)

theorem busTracked_step (h : BusTracked count bus) (hsmall : op.2.disabled = false → SmallQueues op.2)
    (hlt : op.1 < count) (hstep : ivcBusStep bus op = some bus') : BusTracked count bus' := by
  rcases ivcBusStep_eq_some hstep with ⟨-, rfl⟩ | ⟨henabled, chan, region', p, hcreated, rfl⟩
  · exact h
  intro i hi
  by_cases heq : i = op.1
  · subst heq
    have hnew := hcreated.tracked (h op.1 hlt) (hsmall henabled)
    simpa [channelsOf, hcreated.ofRegion] using hnew
  · simpa [channelsOf, hcreated.ofRegion, heq, Ne.symm heq] using h i hi

theorem busTracked_run (h : BusTracked count bus)
    (hsmall : ∀ op ∈ ops, op.2.disabled = false → SmallQueues op.2) (hlt : ∀ op ∈ ops, op.1 < count)
    (hrun : run ivcBusStep bus ops = some bus') : BusTracked count bus' := by
  induction ops generalizing bus with
  | nil =>
    rw [run_nil, Option.some.injEq] at hrun
    exact hrun ▸ h
  | cons op ops ih =>
    obtain ⟨mid, hstep, hrest⟩ := run_cons_eq_some.mp hrun
    have hmid := busTracked_step h (hsmall op List.mem_cons_self) (hlt op List.mem_cons_self) hstep
    exact ih hmid (fun o ho => hsmall o (List.mem_cons_of_mem op ho))
      (fun o ho => hlt o (List.mem_cons_of_mem op ho)) hrest

theorem step_keeps (hstep : ivcBusStep bus op = some bus') :
    (∀ chan ∈ bus.chans, chan ∈ bus'.chans) ∧ ∀ i, (bus'.regions i).size = (bus.regions i).size := by
  rcases ivcBusStep_eq_some hstep with ⟨-, rfl⟩ | ⟨henabled, chan, region', p, hcreated, rfl⟩
  · exact ⟨fun chan hchan => hchan, fun i => rfl⟩
  refine ⟨fun c hc => List.mem_cons_of_mem chan hc, ?_⟩
  intro i
  by_cases heq : i = op.1
  · simp [heq, hcreated.after]
  · simp [heq]

theorem run_keeps (hrun : run ivcBusStep bus ops = some bus') :
    (∀ chan ∈ bus.chans, chan ∈ bus'.chans) ∧ ∀ i, (bus'.regions i).size = (bus.regions i).size := by
  induction ops generalizing bus with
  | nil =>
    rw [run_nil, Option.some.injEq] at hrun
    exact hrun ▸ ⟨fun chan hchan => hchan, fun i => rfl⟩
  | cons op ops ih =>
    obtain ⟨mid, hstep, hrest⟩ := run_cons_eq_some.mp hrun
    have hfirst := step_keeps hstep
    have hothers := ih hrest
    exact ⟨fun chan hchan => hothers.1 chan (hfirst.1 chan hchan), fun i => (hothers.2 i).trans (hfirst.2 i)⟩

theorem run_creates (hrun : run ivcBusStep bus ops = some bus') (hop : op ∈ ops)
    (henabled : op.2.disabled = false) :
    ¬ InvalidNode op.2 ∧ ∃ chan ∈ bus'.chans, chan.ofNode = op.2 ∧ chan.region = op.1 := by
  induction ops generalizing bus with
  | nil => cases hop
  | cons first ops ih =>
    obtain ⟨mid, hstep, hrest⟩ := run_cons_eq_some.mp hrun
    rcases List.mem_cons.mp hop with rfl | hop
    · rcases ivcBusStep_eq_some hstep with ⟨hdisabled, -⟩ | ⟨-, chan, region', p, hcreated, rfl⟩
      · rw [henabled] at hdisabled
        cases hdisabled
      · exact ⟨(properties_eq_ok hcreated.properties).valid, chan,
          (run_keeps hrest).1 chan List.mem_cons_self, hcreated.ofNode, hcreated.ofRegion⟩
    · exact ih hrest hop

theorem smallQueues_of_laid (h : RegionLaid region chans) (hsize : region.size.toNat < 2 ^ 32)
    (hchan : chan ∈ chans) : SmallQueues chan.ofNode := by
  have hmem : ∀ r ∈ channelQueues chan, r ∈ chans.flatMap channelQueues :=
    fun r hr => List.mem_flatMap.mpr ⟨chan, hchan, hr⟩
  have hrx := h.bounds ⟨chan.rx.toNat, queueBytes chan.ofNode⟩ (hmem _ (by simp [channelQueues]))
  have htx := h.bounds ⟨chan.tx.toNat, queueBytes chan.ofNode⟩ (hmem _ (by simp [channelQueues]))
  have hdisjoint := (List.pairwise_flatMap.mp h.disjoint).1 chan hchan
  simp only [channelQueues, List.pairwise_cons, List.mem_singleton, forall_eq, Range.Disjoint,
    Range.stop] at hdisjoint
  simp only [Range.stop] at hrx htx
  rw [SmallQueues]
  omega

/-! ## The end of the start -/

/-- The start succeeds when every child is passed over or has its channel created. -/
theorem startFrom_eq_ok_iff : tegraIvcBusStartFrom bus ops = .ok bus' ↔ run ivcBusStep bus ops = some bus' := by
  induction ops generalizing bus with
  | nil => simp [tegraIvcBusStartFrom]
  | cons op ops ih =>
    obtain ⟨i, node⟩ := op
    rw [run_cons_eq_some]
    simp only [tegraIvcBusStartFrom, ivcBusStep]
    split
    · simp [ih]
    cases hcreate : tegraIvcChannelCreate i (bus.regions i) node with
    | ok result => simp [ih, Except.toOption]
    | error fault =>
      cases fault with
      | bug b => simp [Except.toOption]
      | ret code =>
        simp only [Except.toOption, Option.map_none, reduceCtorEq, false_and, exists_false, iff_false]
        split <;> simp

theorem tegraIvcBusStop_eq_nil (chans : List TegraIvcChannel) : tegraIvcBusStop chans = [] := by
  induction chans with
  | nil => rfl
  | cons chan chans ih => exact ih

theorem create_reports {fault : IvcFault} (hreports : ReportsErrors bus (i, node))
    (henabled : node.disabled = false) (hcreate : tegraIvcChannelCreate i (bus.regions i) node = .error fault) :
    ∃ ret, fault = .ret ret ∧ isErr ret = true := by
  obtain ⟨hcode, htotal⟩ := hreports henabled
  simp only [tegraIvcChannelCreate] at hcreate
  have hnospc : isErr (- eNOSPC) = true := by decide
  split at hcreate
  · rename_i ret hret
    refine ⟨ret, (Except.error.inj hcreate).symm, properties_eq_error hret ?_⟩
    rintro rfl
    exact hcode hret
  rename_i p hp
  split at hcreate
  · exact ⟨_, (Except.error.inj hcreate).symm, hnospc⟩
  rename_i hconfig
  have hok := htotal p hp (Bool.eq_false_of_not_eq_true hconfig)
  split at hcreate
  · rename_i b hb
    simp [hb, Except.isOk, Except.toBool] at hok
  rename_i queueSize hqueue
  split at hcreate
  · exact ⟨_, (Except.error.inj hcreate).symm, hnospc⟩
  obtain ⟨ret, ivc, hinit, hret⟩ := @initBody_ends ivcZero
    ((bus.regions i).base + ((bus.regions i).ivcSize.setWidth 32).setWidth 64)
    ((bus.regions i).iova + ((bus.regions i).ivcSize.setWidth 32).setWidth 64)
    ((bus.regions i).base + (((bus.regions i).ivcSize + queueSize.setWidth 64).setWidth 32).setWidth 64)
    ((bus.regions i).iova + (((bus.regions i).ivcSize + queueSize.setWidth 64).setWidth 32).setWidth 64)
    p.nframes p.frameSize queueSize hqueue
  rw [hinit] at hcreate
  simp only at hcreate
  split at hcreate
  · rename_i hne
    exact ⟨ret, (Except.error.inj hcreate).symm, hret.resolve_left hne⟩
  split at hcreate
  · rename_i errno herrno
    exact ⟨errno.code, (Except.error.inj hcreate).symm, errno.isErr⟩
  · cases hcreate

/-- Where each fault is reported, the start succeeds or fails with nothing left. -/
theorem startFrom_of_reports (h : AllSteps ivcBusStep ReportsErrors bus ops) :
    (∃ bus', tegraIvcBusStartFrom bus ops = .ok bus') ∨
      ∃ ret < 0, tegraIvcBusStartFrom bus ops = .error (.failed ret []) := by
  induction ops generalizing bus with
  | nil => exact Or.inl ⟨bus, rfl⟩
  | cons op ops ih =>
    obtain ⟨i, node⟩ := op
    obtain ⟨hreports, hrest⟩ := h
    simp only [tegraIvcBusStartFrom]
    split
    · rename_i hdisabled
      exact ih (hrest bus (by simp [ivcBusStep, hdisabled]))
    rename_i henabled
    have hnode := Bool.eq_false_of_not_eq_true henabled
    cases hcreate : tegraIvcChannelCreate i (bus.regions i) node with
    | ok result => exact ih (hrest _ (by simp [ivcBusStep, hnode, hcreate, Except.toOption]))
    | error fault =>
      obtain ⟨ret, rfl, hret⟩ := create_reports hreports hnode hcreate
      simp only [hret, if_true, tegraIvcBusStop_eq_nil]
      rw [isErr, Bool.and_eq_true, decide_eq_true_iff, decide_eq_true_iff] at hret
      exact Or.inr ⟨ret, hret.2, rfl⟩

theorem reports_of_failed {ret : ℤ} {left : List TegraIvcChannel}
    (h : tegraIvcBusStartFrom bus ops = .error (.failed ret left)) : AllSteps ivcBusStep ReportsErrors bus ops := by
  induction ops generalizing bus with
  | nil => trivial
  | cons op ops ih =>
    obtain ⟨i, node⟩ := op
    simp only [tegraIvcBusStartFrom] at h
    split at h
    · rename_i hdisabled
      refine ⟨fun henabled => ?_, ?_⟩
      · rw [hdisabled] at henabled
        cases henabled
      · intro bus' hstep
        simp only [ivcBusStep, hdisabled, if_true, Option.some.injEq] at hstep
        exact ih (hstep ▸ h)
    rename_i henabled
    have hnode := Bool.eq_false_of_not_eq_true henabled
    refine ⟨fun _ => ⟨?_, ?_⟩, ?_⟩
    · intro hzero
      simp [tegraIvcChannelCreate, hzero, isErr] at h
    · intro p hp hconfig
      cases htotal : tegraIvcTotalQueueSize (p.nframes * p.frameSize) with
      | ok queueSize => rfl
      | error b => simp [tegraIvcChannelCreate, hp, hconfig, htotal] at h
    · intro bus' hstep
      simp only [ivcBusStep, hnode, Bool.false_eq_true, if_false] at hstep
      obtain ⟨result, hcreate, rfl⟩ := Option.map_eq_some_iff.mp hstep
      cases heq : tegraIvcChannelCreate i (bus.regions i) node with
      | error fault => simp [heq, Except.toOption] at hcreate
      | ok created =>
        rw [heq] at h hcreate
        obtain rfl : created = result := Option.some.inj hcreate
        exact ih h

/-! ## The regions that were parsed -/

theorem parseRegion_tracked {spec : TegraIvcRegionSpec} (h : tegraIvcBusParseRegion spec = .ok region) :
    RegionTracked region [] := by
  simp only [tegraIvcBusParseRegion] at h
  split at h
  · cases h
  split at h
  · cases h
  split at h
  · cases h
  split at h
  · cases h
  · rename_i ret size hnodes hret memory base iova hmemory
    rw [← Except.ok.inj h]
    constructor
    · simp [CAMRTC_IVC_CONFIG_SIZE]
    · simp [CAMRTC_IVC_CONFIG_SIZE]
    · exact size.isLt
    · simp [CAMRTC_IVC_CONFIG_SIZE]
    · simp
    · simp
    · simp
    · simp

theorem parseRegions_tracked {specs : List TegraIvcRegionSpec} {regions : ℕ → TegraIvcRegion} {j : ℕ}
    (h : tegraIvcBusParseRegions i specs = .ok regions) (hlow : i ≤ j) (hhigh : j < i + specs.length) :
    RegionTracked (regions j) [] := by
  induction specs generalizing i regions with
  | nil =>
    rw [List.length_nil] at hhigh
    omega
  | cons spec specs ih =>
    simp only [tegraIvcBusParseRegions] at h
    split at h
    · cases h
    rename_i region hregion
    split at h
    · cases h
    rename_i others hothers
    rw [← Except.ok.inj h]
    by_cases hj : j = i
    · rw [hj, update_self]
      exact parseRegion_tracked hregion
    · rw [update_of_ne hj]
      rw [List.length_cons] at hhigh
      exact ih hothers (by omega) (by omega)

theorem lt_of_mem_busNodes {specs : List TegraIvcRegionSpec} (h : op ∈ tegraIvcBusNodes i specs) :
    op.1 < i + specs.length := by
  induction specs generalizing i with
  | nil => cases h
  | cons spec specs ih =>
    rw [List.length_cons]
    rcases List.mem_append.mp h with h | h
    · obtain ⟨node, -, rfl⟩ := List.mem_map.mp h
      omega
    · have hrest := ih h
      omega

/-! ## The layout of a bus -/

theorem busSound_iff {specs : List TegraIvcRegionSpec} {regions : ℕ → TegraIvcRegion}
    (hparse : tegraIvcBusParseRegions 0 specs = .ok regions) :
    BusSound specs regions ↔ BusCareful specs regions := by
  have hfresh : ∀ j < specs.length, RegionTracked (regions j) [] :=
    fun j hj => parseRegions_tracked hparse (Nat.zero_le j) (by omega)
  have hlt : ∀ op ∈ tegraIvcBusNodes 0 specs, op.1 < specs.length := by
    intro op hop
    have hop' := lt_of_mem_busNodes hop
    omega
  constructor
  · intro h
    constructor
    · intro hinvalid
      obtain ⟨ret, -, hfailed⟩ := h.refused hinvalid
      exact reports_of_failed hfailed
    · intro hsome op hop henabled
      obtain ⟨bus, hrun⟩ := Option.isSome_iff_exists.mp hsome
      obtain ⟨-, chan, hchan, hnode, hregion⟩ := run_creates hrun hop henabled
      have hlaid := h.laid bus (startFrom_eq_ok_iff.mpr hrun) op.1 (hlt op hop)
      have hsize : (bus.regions op.1).size.toNat < 2 ^ 32 := by
        rw [(run_keeps hrun).2 op.1]
        exact (hfresh op.1 (hlt op hop)).small
      rw [← hnode]
      exact smallQueues_of_laid hlaid hsize (List.mem_filter.mpr ⟨hchan, by simp [hregion]⟩)
  · intro h
    constructor
    · intro bus hstart i hi
      have hrun := startFrom_eq_ok_iff.mp hstart
      have hsmall := h.small (by rw [hrun]; rfl)
      have hstarted : BusTracked specs.length ⟨regions, []⟩ := hfresh
      exact (busTracked_run hstarted hsmall hlt hrun i hi).laid
    · intro hinvalid
      rcases startFrom_of_reports (h.reports hinvalid) with ⟨bus, hok⟩ | hfailed
      · obtain ⟨op, hop, henabled, hbad⟩ := hinvalid
        exact absurd hbad (run_creates (startFrom_eq_ok_iff.mp hok) hop henabled).1
      · exact hfailed

/-- A child with these counts and sizes, and with everything else that a channel needs. -/
def ivcNodeOf (frameCount frameSize : U32) : TegraIvcNode where
  disabled := false
  service := some []
  version := none
  group := some 1
  frameCount := some frameCount
  frameSize := some frameSize
  noMemory := false
  deviceAdd := none

end NvidiaOot.Analysis
