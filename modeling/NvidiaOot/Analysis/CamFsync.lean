import NvidiaOot.Model.CamFsync

/-!
# When frame-sync generators lock

The common multiple of the frequencies is accumulated in 32 bits.  As long as it has 32 bits it is exact, and the
generators lock when a period of it has at least half a tick; one that was cut says nothing about the frequencies.
-/

namespace NvidiaOot.Analysis

open Program Model

/-! ## The common multiple -/

/-- One more frequency. -/
def lcmStep (r f : ℕ) : ℕ := if r = 0 then f else f.lcm r

section multiples

variable {l : List ℕ} {r f : ℕ}

theorem lcmStep_ne_zero (hf : f ≠ 0) : lcmStep r f ≠ 0 := by
  unfold lcmStep
  split
  case isTrue => exact hf
  case isFalse hr => exact Nat.lcm_ne_zero hf hr

theorem foldl_lcmStep (hl : 0 ∉ l) (hr : r ≠ 0) : l.foldl lcmStep r = r.lcm (l : Multiset ℕ).lcm := by
  induction l generalizing r with
  | nil => exact (Nat.lcm_one_right r).symm
  | cons f l ih =>
    rw [List.mem_cons, not_or] at hl
    have hstep : lcmStep r f = r.lcm f := by rw [lcmStep, if_neg hr, Nat.lcm_comm]
    rw [List.foldl_cons, ih hl.2 (lcmStep_ne_zero (Ne.symm hl.1)), hstep, Nat.lcm_assoc,
      ← Multiset.cons_coe, Multiset.lcm_cons]
    rfl

/-- A multiple that has 32 bits in the end had them all along. -/
theorem foldl_cut (hl : 0 ∉ l) (hlt : l.foldl lcmStep r < 2 ^ 32) :
    l.foldl (fun r f => lcmStep r f % 2 ^ 32) r = l.foldl lcmStep r := by
  induction l generalizing r with
  | nil => rfl
  | cons f l ih =>
    rw [List.mem_cons, not_or] at hl
    have hne : lcmStep r f ≠ 0 := lcmStep_ne_zero (Ne.symm hl.1)
    have hle : lcmStep r f ≤ l.foldl lcmStep (lcmStep r f) := by
      rw [foldl_lcmStep hl.2 hne]
      exact Nat.le_lcm_left _ (Nat.pos_of_ne_zero ((Multiset.lcm_ne_zero_iff _).mpr hl.2))
    have hcut : lcmStep r f % 2 ^ 32 = lcmStep r f := Nat.mod_eq_of_lt (Nat.lt_of_le_of_lt hle hlt)
    rw [List.foldl_cons, List.foldl_cons, hcut]
    exact ih hl.2 hlt

end multiples

variable {generators : List CamFsyncGenerator} {g : CamFsyncGenerator}

theorem freqHz_pos (g : CamFsyncGenerator) : 0 < g.freqHz.toNat :=
  Nat.pos_of_ne_zero fun h => g.freqHz_ne (BitVec.eq_of_toNat_eq h)

theorem zero_notMem_freqs (generators : List CamFsyncGenerator) : 0 ∉ freqs generators := by
  intro h
  obtain ⟨g, -, hg⟩ := List.mem_map.mp h
  exact absurd hg (Nat.ne_of_gt (freqHz_pos g))

theorem freqLcm_of_ne (h : generators ≠ []) : freqLcm generators = (freqs generators : Multiset ℕ).lcm := if_neg h

theorem freqLcm_pos (h : generators ≠ []) : 0 < freqLcm generators := by
  rw [freqLcm_of_ne h]
  exact Nat.pos_of_ne_zero ((Multiset.lcm_ne_zero_iff _).mpr (zero_notMem_freqs generators))

theorem freqHz_dvd (hg : g ∈ generators) : g.freqHz.toNat ∣ freqLcm generators := by
  rw [freqLcm_of_ne (List.ne_nil_of_mem hg)]
  exact Multiset.dvd_lcm (Multiset.mem_coe.mpr (List.mem_map_of_mem hg))

/-- A common multiple of 32 bits is not cut. -/
theorem cutLcm_eq (hlt : freqLcm generators < 2 ^ 32) : cutLcm (freqs generators) = freqLcm generators := by
  cases generators with
  | nil => rfl
  | cons g l =>
    have hexact : (freqs (g :: l)).foldl lcmStep 0 = freqLcm (g :: l) := by
      change (freqs l).foldl lcmStep g.freqHz.toNat = _
      rw [foldl_lcmStep (zero_notMem_freqs l) (Nat.ne_of_gt (freqHz_pos g)),
        freqLcm_of_ne (List.cons_ne_nil g l)]
      exact (Multiset.lcm_cons _ _).symm
    rw [← hexact] at hlt ⊢
    exact foldl_cut (zero_notMem_freqs (g :: l)) hlt

theorem setWidth_ne_zero (x : U32) : x.setWidth 64 ≠ 0 ↔ x.toNat ≠ 0 := by
  rw [Ne, ← BitVec.toNat_inj, BitVec.toNat_setWidth_of_le (by decide)]
  rfl

/-- 64 bits are enough for the multiple of two numbers of 32 bits. -/
theorem toNat_lcmUlong {a b : U32} (ha : a.toNat ≠ 0) (hb : b.toNat ≠ 0) :
    (lcmUlong (a.setWidth 64) (b.setWidth 64)).toNat = a.toNat.lcm b.toNat := by
  have hgcd : a.toNat.gcd b.toNat ≤ a.toNat := Nat.gcd_le_left _ (Nat.pos_of_ne_zero ha)
  have hle : a.toNat.lcm b.toNat ≤ a.toNat * b.toNat :=
    Nat.lcm_le_mul (Nat.pos_of_ne_zero ha) (Nat.pos_of_ne_zero hb)
  have hmul : a.toNat * b.toNat < 2 ^ 32 * 2 ^ 32 := Nat.mul_lt_mul'' a.isLt b.isLt
  have hwa : (a.setWidth 64).toNat = a.toNat := BitVec.toNat_setWidth_of_le (by decide)
  have hwb : (b.setWidth 64).toNat = b.toNat := BitVec.toNat_setWidth_of_le (by decide)
  have hcut : a.toNat.gcd b.toNat % 2 ^ 64 = a.toNat.gcd b.toNat := by
    have := a.isLt
    omega
  rw [lcmUlong, if_pos ⟨(setWidth_ne_zero a).mpr ha, (setWidth_ne_zero b).mpr hb⟩, BitVec.toNat_mul,
    BitVec.toNat_udiv, BitVec.toNat_ofNat, hwa, hwb, hcut, Nat.div_mul_right_comm (Nat.gcd_dvd_left _ _),
    ← Nat.lcm_eq_mul_div]
  omega

theorem toNat_lcmNotZero {a : U32} (ha : a.toNat ≠ 0) (b : U32) :
    ((lcmNotZero (a.setWidth 64) (b.setWidth 64)).setWidth 32).toNat = lcmStep b.toNat a.toNat % 2 ^ 32 := by
  rw [BitVec.toNat_setWidth, lcmNotZero, lcmStep]
  congr 1
  by_cases hb : b.toNat = 0
  · have hnone : lcmUlong (a.setWidth 64) (b.setWidth 64) = 0 :=
      if_neg fun h => (setWidth_ne_zero b).mp h.2 hb
    rw [if_neg (not_not.mpr hnone), if_neg fun h => (setWidth_ne_zero b).mp h hb, if_pos hb,
      BitVec.toNat_setWidth_of_le (by decide)]
  · have hlcm := toNat_lcmUlong ha hb
    have hne : lcmUlong (a.setWidth 64) (b.setWidth 64) ≠ 0 := by
      intro hzero
      rw [hzero] at hlcm
      exact Nat.lcm_ne_zero ha hb hlcm.symm
    rw [if_pos hne, if_neg hb, hlcm]

theorem toNat_findMaxFreqHzLcm (generators : List CamFsyncGenerator) :
    (camFsyncFindMaxFreqHzLcm generators).toNat = cutLcm (freqs generators) := by
  have hfold : ∀ r : U32, (generators.foldl (fun runningLcm g =>
      (lcmNotZero (g.freqHz.setWidth 64) (runningLcm.setWidth 64)).setWidth 32) r).toNat =
      (freqs generators).foldl (fun r f => lcmStep r f % 2 ^ 32) r.toNat := by
    induction generators with
    | nil => exact fun _ => rfl
    | cons g l ih =>
      intro r
      rw [List.foldl_cons, ih, toNat_lcmNotZero (Nat.ne_of_gt (freqHz_pos g))]
      rfl
  exact hfold 0

/-! ## Edges -/

theorem toNat_and_offset (x : U32) : (x &&& TSC_GENX_EDGEX_OFFSET).toNat = x.toNat % 2 ^ 28 :=
  Nat.and_two_pow_sub_one_eq_mod x.toNat 28

theorem edge_offset {flags : U32} (hflags : flags &&& TSC_GENX_EDGEX_OFFSET = 0#32) (x : U32) :
    ((flags ||| x &&& TSC_GENX_EDGEX_OFFSET) &&& TSC_GENX_EDGEX_OFFSET).toNat = x.toNat % 2 ^ 28 := by
  rw [BitVec.and_or_distrib_right, hflags, BitVec.zero_or, BitVec.and_assoc, BitVec.and_self, toNat_and_offset]

/-- The active part of a period is not longer than the period. -/
theorem toNat_multFrac_le (x : U32) {d : U32} (hd : d < 100) : (multFrac x d 100).toNat ≤ x.toNat := by
  have hd' : d.toNat < 100 := hd
  have hquot : x.toNat / 100 * d.toNat ≤ x.toNat / 100 * 100 := Nat.mul_le_mul_left _ (by omega)
  have hrem : x.toNat % 100 * d.toNat ≤ x.toNat % 100 * 100 := Nat.mul_le_mul_left _ (by omega)
  have hx := x.isLt
  have h100 : (100 : U32).toNat = 100 := rfl
  rw [multFrac, BitVec.toNat_add, BitVec.toNat_mul, BitVec.toNat_udiv, BitVec.toNat_udiv, BitVec.toNat_mul,
    BitVec.toNat_umod, h100, Nat.mod_eq_of_lt (a := x.toNat / 100 * d.toNat) (by omega),
    Nat.mod_eq_of_lt (a := x.toNat % 100 * d.toNat) (by omega)]
  omega

/-- The ticks of a period, as `programEdges` computes them. -/
def ticksOf (maxFreqHzLcm freqHz : U32) : U32 :=
  (divRoundClosest TSC_TICKS_PER_HZ (maxFreqHzLcm.setWidth 64)).setWidth 32 * (maxFreqHzLcm / freqHz)

theorem period_programEdges {features : CamFsyncFeatures} (henforced : features.enforced = true) (m : U32)
    (g : CamFsyncGenerator) (hlt : (ticksOf m g.freqHz).toNat < 2 ^ 28) :
    EdgeRegs.period (programEdges features m g) = (ticksOf m g.freqHz).toNat := by
  have hle := toNat_multFrac_le (ticksOf m g.freqHz) g.dutyCycle_lt
  unfold programEdges EdgeRegs.period
  dsimp only
  rw [if_pos henforced]
  change ((_ ||| multFrac (ticksOf m g.freqHz) _ _ &&& _) &&& _).toNat +
    ((_ ||| (ticksOf m g.freqHz - multFrac (ticksOf m g.freqHz) _ _) &&& _) &&& _).toNat = _
  rw [edge_offset (by decide), edge_offset (by decide), BitVec.toNat_sub_of_le hle]
  omega

theorem toNat_ticksOf (m f : U32) :
    (ticksOf m f).toNat = (31250000 + m.toNat / 2) / m.toNat * (m.toNat / f.toNat) % 2 ^ 32 := by
  have hm := m.isLt
  have hdiv : (31250000 + m.toNat / 2) / m.toNat ≤ 31250000 + m.toNat / 2 := Nat.div_le_self _ _
  have hround : ((divRoundClosest TSC_TICKS_PER_HZ (m.setWidth 64)).setWidth 32).toNat =
      (31250000 + m.toNat / 2) / m.toNat := by
    have hsum : (TSC_TICKS_PER_HZ + m.setWidth 64 / 2).toNat = 31250000 + m.toNat / 2 := by
      rw [BitVec.toNat_add, BitVec.toNat_udiv, BitVec.toNat_setWidth_of_le (by decide)]
      change (31250000 + m.toNat / 2) % 2 ^ 64 = _
      omega
    rw [divRoundClosest, BitVec.toNat_setWidth, BitVec.toNat_udiv, hsum, BitVec.toNat_setWidth_of_le (by decide)]
    exact Nat.mod_eq_of_lt (by omega)
  rw [ticksOf, BitVec.toNat_mul, hround, BitVec.toNat_udiv]

/-- A multiple with a tick for half of its period gives every generator whole periods of it. -/
theorem toNat_ticksOf_of_le {m f : U32} (hm : 0 < m.toNat) (hle : m.toNat ≤ 62500000) :
    (ticksOf m f).toNat = (31250000 + m.toNat / 2) / m.toNat * (m.toNat / f.toNat) ∧
      (ticksOf m f).toNat < 2 ^ 28 := by
  have hmul : (31250000 + m.toNat / 2) / m.toNat * (m.toNat / f.toNat) ≤
      (31250000 + m.toNat / 2) / m.toNat * m.toNat := Nat.mul_le_mul_left _ (Nat.div_le_self _ _)
  have hback := Nat.div_mul_le_self (31250000 + m.toNat / 2) m.toNat
  rw [toNat_ticksOf, Nat.mod_eq_of_lt (by omega)]
  exact ⟨rfl, by omega⟩

theorem toNat_ticksOf_of_lt {m : U32} (hlt : 62500000 < m.toNat) (f : U32) : (ticksOf m f).toNat = 0 := by
  rw [toNat_ticksOf, Nat.div_eq_of_lt (by omega), Nat.zero_mul, Nat.zero_mod]

/-- The generators of a group whose multiple has 32 bits and is accepted. -/
theorem locks_of_lcm {group : FsyncGeneratorGroup} {m : U32} (henforced : group.features.enforced = true)
    (hne : group.generators ≠ []) (hm : m.toNat = freqLcm group.generators) :
    (∃ base, 1 ≤ base ∧ List.Forall₂
      (fun g r => EdgeRegs.period r = base * (freqLcm group.generators / g.freqHz.toNat)) group.generators
        (group.generators.map (programEdges group.features m))) ↔ freqLcm group.generators ≤ 62500000 := by
  have hpos := freqLcm_pos hne
  rw [← hm] at hpos ⊢
  constructor
  · rintro ⟨base, hbase, hall⟩
    by_contra hlt
    obtain ⟨g, hg⟩ := List.exists_mem_of_ne_nil _ hne
    have hperiod := List.forall₂_same.mp (List.forall₂_map_right_iff.mp hall) g hg
    have hzero := toNat_ticksOf_of_lt (Nat.lt_of_not_le hlt) g.freqHz
    rw [period_programEdges henforced m g (by omega), hzero] at hperiod
    have hquot : 0 < m.toNat / g.freqHz.toNat :=
      Nat.div_pos (Nat.le_of_dvd hpos (hm ▸ freqHz_dvd hg)) (freqHz_pos g)
    have := Nat.mul_pos hbase hquot
    omega
  · intro hle
    refine ⟨(31250000 + m.toNat / 2) / m.toNat, (Nat.le_div_iff_mul_le hpos).mpr (by omega), ?_⟩
    refine List.forall₂_map_right_iff.mpr (List.forall₂_same.mpr fun g _ => ?_)
    obtain ⟨hticks, hlt⟩ := toNat_ticksOf_of_le (f := g.freqHz) hpos hle
    rw [period_programEdges henforced m g hlt, hticks]

theorem locksExactly_iff (group : FsyncGeneratorGroup) : LocksExactly group ↔ LocksWhen group := by
  unfold LocksExactly LocksWhen
  refine forall_congr' fun henforced => ?_
  have hm := toNat_findMaxFreqHzLcm group.generators
  unfold camFsyncProgramGroupGeneratorEdges
  simp only [henforced, if_true, true_and]
  by_cases hmax : group.features.maxFreqHzLcm < camFsyncFindMaxFreqHzLcm group.generators
  · -- what is refused has to lock nothing
    rw [if_pos hmax]
    refine iff_of_true nofun ?_
    rw [BitVec.lt_def, hm] at hmax
    split
    case isTrue hlt => exact Or.inl (cutLcm_eq hlt ▸ hmax)
    case isFalse => exact hmax
  rw [if_neg hmax]
  simp only [Except.ok.injEq, forall_eq']
  rw [BitVec.lt_def, hm] at hmax
  have hbound := group.features.maxFreqHzLcm.isLt
  split
  case isFalse hlt => exact iff_of_false (fun h => by omega) hmax
  case isTrue hlt =>
    rw [cutLcm_eq hlt] at hm hmax
    rw [or_iff_right hmax, and_iff_right (Nat.le_of_not_lt hmax)]
    by_cases hne : group.generators = []
    · simp only [hne, freqLcm, if_true]
      exact iff_of_true ⟨1, Nat.le_refl 1, List.Forall₂.nil⟩ (Nat.zero_le _)
    · exact locks_of_lcm henforced hne hm

/-! ## Start -/

theorem ticks_of (x : U64) : StartRegs.ticks { start0 := x.setWidth 32
                                               start1 := (x >>> 32).setWidth 32 &&& TSC_GENX_START1_MSB_VAL } =
    x.toNat % 2 ^ 56 := by
  have hmask (y : U32) : (y &&& TSC_GENX_START1_MSB_VAL).toNat = y.toNat % 2 ^ 24 :=
    Nat.and_two_pow_sub_one_eq_mod y.toNat 24
  unfold StartRegs.ticks
  rw [BitVec.and_assoc, BitVec.and_self, hmask, BitVec.toNat_setWidth, BitVec.toNat_setWidth, BitVec.toNat_ushiftRight,
    Nat.shiftRight_eq_div_pow]
  omega

theorem toNat_offset (x : U32) : (multFrac x NS_PER_MS TSC_NS_PER_TICK).toNat = x.toNat * 31250 % 2 ^ 32 := by
  have h32 : TSC_NS_PER_TICK.toNat = 32 := rfl
  have hms : NS_PER_MS.toNat = 1000000 := rfl
  have hrem : x.toNat % 32 * 1000000 % 2 ^ 32 / 32 = x.toNat % 32 * 31250 := by omega
  rw [multFrac, BitVec.toNat_add, BitVec.toNat_mul, BitVec.toNat_udiv, BitVec.toNat_udiv, BitVec.toNat_mul,
    BitVec.toNat_umod, h32, hms, hrem]
  omega

/-- A sum with a number that is cut is read exactly when nothing was cut. -/
theorem add_cut_mod_iff (a o : ℕ) : (a + o % 2 ^ 32) % 2 ^ 56 = a + o ↔ o < 2 ^ 32 ∧ a + o < 2 ^ 56 := by
  constructor
  · intro h
    have hread : a + o < 2 ^ 56 := h ▸ Nat.mod_lt _ (by decide)
    have hcut := Nat.mod_le o (2 ^ 32)
    rw [Nat.mod_eq_of_lt (by omega)] at h
    omega
  · rintro ⟨ho, hsum⟩
    rw [Nat.mod_eq_of_lt ho, Nat.mod_eq_of_lt hsum]

theorem startsExactly_iff (group : FsyncGeneratorGroup) : StartsExactly group ↔ StartsWhen group := by
  unfold StartsExactly StartsWhen camFsyncProgramStartValues
  rw [List.forall₂_map_right_iff, List.forall₂_same]
  refine forall₂_congr fun g hg => ?_
  have hfloor : g.offsetMs.toNat * 10 ^ 6 / 32 = g.offsetMs.toNat * 31250 := by omega
  have habs := group.absStartTicks.isLt
  rw [ticks_of, hfloor, ← add_cut_mod_iff]
  split
  case isTrue =>
    rw [BitVec.toNat_add, BitVec.toNat_setWidth_of_le (by decide), toNat_offset,
      Nat.mod_mod_of_dvd _ (by decide : 2 ^ 56 ∣ 2 ^ 64)]
  case isFalse hno =>
    have hzero : g.offsetMs = 0 := by
      by_contra hne
      exact hno ⟨by_contra fun hoff => hne (group.offset_eq (Bool.not_eq_true _ ▸ hoff) g hg), hne⟩
    rw [hzero]
    rfl

/-- **Generators lock and start where they should** exactly when no multiple and no offset is cut, and a period of the
common multiple has half a tick. -/
theorem cam_fsync_locks_iff (group : FsyncGeneratorGroup) :
    LocksExactly group ∧ StartsExactly group ↔ LocksWhen group ∧ StartsWhen group :=
  and_congr (locksExactly_iff group) (startsExactly_iff group)

/-- Two frequencies whose least common multiple is `2 ^ 32 + 24`. -/
def cutGroup : FsyncGeneratorGroup where
  features := ⟨true, 120, true⟩
  absStartTicks := 0
  generators := [⟨5, 50, 0, by decide, by decide⟩, ⟨858993464, 50, 0, by decide, by decide⟩]
  offset_eq := nofun

/-- A signal of 30 Hz that starts 137.439 s after the others. -/
def lateGroup : FsyncGeneratorGroup where
  features := ⟨true, 120, true⟩
  absStartTicks := 0
  generators := [⟨30, 50, 137439, by decide, by decide⟩]
  offset_eq := nofun

/-- The multiple is taken for 24: one signal has 6 Hz and the other none; and the late one starts at once. -/
theorem cam_fsync_drifts :
    ((camFsyncProgramGroupGeneratorEdges cutGroup).toOption.map (·.map EdgeRegs.period) = some [5208332, 0] ∧
      ¬ LocksExactly cutGroup) ∧
    (camFsyncProgramStartValues lateGroup).map StartRegs.ticks = [1454] ∧ ¬ StartsExactly lateGroup := by
  refine ⟨⟨by decide +kernel, ?_⟩, by decide +kernel, ?_⟩
  · intro h
    exact absurd (h rfl _ rfl).1 (by decide +kernel)
  · rw [startsExactly_iff]
    unfold StartsWhen
    decide +kernel

end NvidiaOot.Analysis
