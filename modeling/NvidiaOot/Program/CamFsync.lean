import NvidiaOot.Program.Types

/-!
# Frame-sync signal generators

The signal generators of a group start together, each after an offset of its own, and toggle at two edges.  The device
tree gives the frequency, duty cycle and offset of each; `cam_fsync_add_generator` checks them, and a group carries
what was checked.  An access to the device tree or the kernel gives its answer in `GeneratorNode`.

`lcm_not_zero` of the kernel is written out: the least common multiple in 64 bits, or the number that is not 0.

Source: `drivers/media/platform/tegra/cam_fsync/cam_fsync.c`.
-/

namespace NvidiaOot.Program

def eALREADY : ℤ := 114

def TSC_TICKS_PER_HZ : U64 := 31250000
def TSC_NS_PER_TICK : U32 := 32
def NS_PER_MS : U32 := 1000000

def TSC_GENX_EDGEX_TOGGLE : U32 := 0x20000000
def TSC_GENX_EDGEX_LOOP : U32 := 0x10000000
/-- `GENMASK(27, 0)` -/
def TSC_GENX_EDGEX_OFFSET : U32 := 0x0fffffff
/-- `GENMASK(23, 0)` -/
def TSC_GENX_START1_MSB_VAL : U32 := 0x00ffffff

/-- `struct cam_fsync_generator`, its configuration. -/
structure CamFsyncGenerator where
  freqHz : U32
  dutyCycle : U32
  offsetMs : U32
  freqHz_ne : freqHz ≠ 0
  dutyCycle_lt : dutyCycle < 100
deriving DecidableEq

/-- `struct cam_fsync_controller_features` -/
structure CamFsyncFeatures where
  enforced : Bool
  maxFreqHzLcm : U32
  offsetEnabled : Bool

/-- `struct fsync_generator_group` -/
structure FsyncGeneratorGroup where
  features : CamFsyncFeatures
  absStartTicks : U64
  generators : List CamFsyncGenerator
  /-- An offset that is not read is 0. -/
  offset_eq : features.offsetEnabled = false → ∀ g ∈ generators, g.offsetMs = 0

structure GeneratorNode where
  kzalloc : Bool
  resource : Bool
  inGroup : Bool
  ioremap : Except ℤ Unit
  freqHz : Except ℤ U32
  dutyCycle : Except ℤ U32
  offsetMs : Except ℤ U32

/-- `list_add_tail` -/
def FsyncGeneratorGroup.add (group : FsyncGeneratorGroup) (g : CamFsyncGenerator)
    (h : group.features.offsetEnabled = false → g.offsetMs = 0) : FsyncGeneratorGroup where
  features := group.features
  absStartTicks := group.absStartTicks
  generators := group.generators ++ [g]
  offset_eq hoff g' hg' := by
    rcases List.mem_append.mp hg' with hold | hnew
    · exact group.offset_eq hoff g' hold
    · rw [List.mem_singleton.mp hnew]
      exact h hoff

def camFsyncAddGenerator (group : FsyncGeneratorGroup) (np : GeneratorNode) : Except ℤ FsyncGeneratorGroup :=
  if !np.kzalloc then .error (-eNOMEM)
  else if !np.resource then .error (-eINVAL)
  else if np.inGroup then .error (-eALREADY)
  else do
    np.ioremap
    let freqHz ← np.freqHz
    if hfreq : freqHz = 0 then .error (-eINVAL)
    else
      let dutyCycle ← np.dutyCycle
      if hduty : dutyCycle < 100 then
        if hoff : group.features.offsetEnabled then
          let offsetMs ← np.offsetMs
          .ok (group.add ⟨freqHz, dutyCycle, offsetMs, hfreq, hduty⟩ fun hno => by rw [hno] at hoff; cases hoff)
        else .ok (group.add ⟨freqHz, dutyCycle, 0, hfreq, hduty⟩ fun _ => rfl)
      else .error (-eINVAL)

/-! ## Edges -/

/-- `lcm` of the kernel -/
def lcmUlong (a b : U64) : U64 :=
  if a ≠ 0 ∧ b ≠ 0 then a / BitVec.ofNat 64 (a.toNat.gcd b.toNat) * b else 0

def lcmNotZero (a b : U64) : U64 :=
  if lcmUlong a b ≠ 0 then lcmUlong a b else if b ≠ 0 then b else a

/-- `cam_fsync_find_max_freq_hz_lcm` -/
def camFsyncFindMaxFreqHzLcm (generators : List CamFsyncGenerator) : U32 :=
  generators.foldl (fun runningLcm g => (lcmNotZero (g.freqHz.setWidth 64) (runningLcm.setWidth 64)).setWidth 32) 0

/-- `DIV_ROUND_CLOSEST` of unsigned numbers -/
def divRoundClosest (x divisor : U64) : U64 := (x + divisor / 2) / divisor

/-- `mult_frac` of 32-bit numbers -/
def multFrac (x numer denom : U32) : U32 := x / denom * numer + x % denom * numer / denom

/-- The edge registers of a generator. -/
structure EdgeRegs where
  edge0 : U32
  edge1 : U32
deriving DecidableEq

/-- What `cam_fsync_program_group_generator_edges` writes for one generator. -/
def programEdges (features : CamFsyncFeatures) (maxFreqHzLcm : U32) (g : CamFsyncGenerator) : EdgeRegs :=
  let ticksInPeriod : U32 :=
    if features.enforced then
      (divRoundClosest TSC_TICKS_PER_HZ (maxFreqHzLcm.setWidth 64)).setWidth 32 * (maxFreqHzLcm / g.freqHz)
    else (divRoundClosest TSC_TICKS_PER_HZ (g.freqHz.setWidth 64)).setWidth 32
  let ticksActive := multFrac ticksInPeriod g.dutyCycle 100
  let ticksInactive := ticksInPeriod - ticksActive
  { edge0 := TSC_GENX_EDGEX_TOGGLE ||| ticksActive &&& TSC_GENX_EDGEX_OFFSET
    edge1 := TSC_GENX_EDGEX_TOGGLE ||| TSC_GENX_EDGEX_LOOP ||| ticksInactive &&& TSC_GENX_EDGEX_OFFSET }

def camFsyncProgramGroupGeneratorEdges (group : FsyncGeneratorGroup) : Except ℤ (List EdgeRegs) :=
  let maxFreqHzLcm := if group.features.enforced then camFsyncFindMaxFreqHzLcm group.generators else 0
  if group.features.enforced ∧ maxFreqHzLcm > group.features.maxFreqHzLcm then .error (-eINVAL)
  else .ok (group.generators.map (programEdges group.features maxFreqHzLcm))

/-! ## Start -/

/-- The start registers of a generator. -/
structure StartRegs where
  start0 : U32
  start1 : U32
deriving DecidableEq

/-- `cam_fsync_program_group_generator_start_values` -/
def camFsyncProgramStartValues (group : FsyncGeneratorGroup) : List StartRegs :=
  group.generators.map fun g =>
    let absStartTscTicks : U64 :=
      if group.features.offsetEnabled ∧ g.offsetMs ≠ 0 then
        group.absStartTicks + (multFrac g.offsetMs NS_PER_MS TSC_NS_PER_TICK).setWidth 64
      else group.absStartTicks
    { start0 := absStartTscTicks.setWidth 32
      start1 := (absStartTscTicks >>> 32).setWidth 32 &&& TSC_GENX_START1_MSB_VAL }

end NvidiaOot.Program
