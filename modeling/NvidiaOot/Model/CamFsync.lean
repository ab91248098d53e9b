import Mathlib.Algebra.GCDMonoid.Multiset
import Mathlib.Algebra.GCDMonoid.Nat
import NvidiaOot.Program.CamFsync

/-!
# Generators that lock

The period of a generator is the sum of its two edges.  Generators lock when every period is the same number of ticks
for each of the periods that the generator has less than their least common multiple.
-/

namespace NvidiaOot.Model

open Program

/-- The ticks between two cycles of the signal. -/
def EdgeRegs.period (r : EdgeRegs) : ℕ :=
  (r.edge0 &&& TSC_GENX_EDGEX_OFFSET).toNat + (r.edge1 &&& TSC_GENX_EDGEX_OFFSET).toNat

/-- The tick at which the signal starts. -/
def StartRegs.ticks (r : StartRegs) : ℕ := r.start0.toNat + 2 ^ 32 * (r.start1 &&& TSC_GENX_START1_MSB_VAL).toNat

def freqs (generators : List CamFsyncGenerator) : List ℕ := generators.map fun g => g.freqHz.toNat

/-- The least common multiple of the frequencies; like `lcm_not_zero` says, 0 when there are none. -/
def freqLcm (generators : List CamFsyncGenerator) : ℕ :=
  if generators = [] then 0 else (freqs generators : Multiset ℕ).lcm

/-- **The generators of a group lock** when their edges are programmed. -/
def LocksExactly (group : FsyncGeneratorGroup) : Prop :=
  group.features.enforced = true → ∀ regs, camFsyncProgramGroupGeneratorEdges group = .ok regs →
    freqLcm group.generators ≤ group.features.maxFreqHzLcm.toNat ∧ ∃ base, 1 ≤ base ∧
      List.Forall₂ (fun g r => EdgeRegs.period r = base * (freqLcm group.generators / g.freqHz.toNat))
        group.generators regs

/-- **Each generator starts at its offset** after the start of the group. -/
def StartsExactly (group : FsyncGeneratorGroup) : Prop :=
  List.Forall₂ (fun g r => StartRegs.ticks r = group.absStartTicks.toNat + g.offsetMs.toNat * 10 ^ 6 / 32)
    group.generators (camFsyncProgramStartValues group)

/-! ## Where they do -/

/-- A common multiple that is cut to 32 bits after each frequency. -/
def cutLcm (l : List ℕ) : ℕ := l.foldl (fun r f => (if r = 0 then f else f.lcm r) % 2 ^ 32) 0

/-- A common multiple in 32 bits is refused or has a tick for half of its period; one that is cut is refused. -/
def LocksWhen (group : FsyncGeneratorGroup) : Prop :=
  group.features.enforced = true →
    if freqLcm group.generators < 2 ^ 32 then
      group.features.maxFreqHzLcm.toNat < freqLcm group.generators ∨ freqLcm group.generators ≤ 62500000
    else group.features.maxFreqHzLcm.toNat < cutLcm (freqs group.generators)

/-- The offset has 32 bits, and the counter does not overflow. -/
def StartsWhen (group : FsyncGeneratorGroup) : Prop :=
  ∀ g ∈ group.generators,
    g.offsetMs.toNat * 31250 < 2 ^ 32 ∧ group.absStartTicks.toNat + g.offsetMs.toNat * 31250 < 2 ^ 56

end NvidiaOot.Model
