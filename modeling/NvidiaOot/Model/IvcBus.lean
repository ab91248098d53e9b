import NvidiaOot.Library.Machine
import NvidiaOot.Library.Ranges
import NvidiaOot.Program.IvcBus

/-!
# The layout of the regions

What the two passes over a device tree promise together.  A disabled child describes no channel.
-/

namespace NvidiaOot.Model

open Library Program

/-! ## Exact sizes -/

def exactFrames (nframes : ℕ) : ℕ := 2 ^ (nframes - 1).size

/-- `tegra_ivc_total_queue_size`, over the integers. -/
def exactTotal (queueSize : ℕ) : ℕ :=
  if queueSize % ivcAlign ≠ 0 then 0 else queueSize + sizeofIvcChannelHeader

/-- The size of a queue of the channel that a child describes. -/
def queueBytes (node : TegraIvcNode) : ℕ :=
  match node.frameCount, node.frameSize with
  | some nframes, some frameSize => exactTotal (exactFrames nframes.toNat * frameSize.toNat)
  | _, _ => 0

/-! ## What is promised -/

/-- The two queues of a channel, in its region. -/
def channelQueues (chan : TegraIvcChannel) : List Range :=
  [⟨chan.rx.toNat, queueBytes chan.ofNode⟩, ⟨chan.tx.toNat, queueBytes chan.ofNode⟩]

def channelsOf (bus : TegraIvcBus) (i : ℕ) : List TegraIvcChannel :=
  bus.chans.filter fun chan => chan.region = i

/-- The queues of a region, and its records with the terminator behind them. -/
structure RegionLaid (region : TegraIvcRegion) (chans : List TegraIvcChannel) : Prop where
  size : ∀ chan ∈ chans, chan.queueSize.toNat = queueBytes chan.ofNode
  bounds : ∀ r ∈ chans.flatMap channelQueues,
    CAMRTC_IVC_CONFIG_SIZE.toNat ≤ r.start ∧ r.stop ≤ region.size.toNat
  disjoint : (chans.flatMap channelQueues).Pairwise Range.Disjoint
  records : ∀ chan ∈ chans,
    chan.tlvOffset.toNat + TLV_IVC_SETUP_SIZE.toNat ≤ region.configSize.toNat
  terminator : region.configSize.toNat + TLV_TAG_SIZE ≤ CAMRTC_IVC_CONFIG_SIZE.toNat

def BusLaid (bus : TegraIvcBus) (count : ℕ) : Prop :=
  ∀ i < count, RegionLaid (bus.regions i) (channelsOf bus i)

/-- A property that a channel must have is missing, or is out of range. -/
def InvalidNode (node : TegraIvcNode) : Prop :=
  node.service = none ∨ (∀ group, node.group = some group → group &&& 0x7fff ≠ group) ∨
    (∀ nframes, node.frameCount = some nframes → nframes = 0) ∨
    ∀ frameSize, node.frameSize = some frameSize → frameSize = 0

/-- The start of a bus over the regions that were parsed. -/
structure BusSound (specs : List TegraIvcRegionSpec) (regions : ℕ → TegraIvcRegion) : Prop where
  laid : ∀ bus, tegraIvcBusStart specs regions = .ok bus → BusLaid bus specs.length
  refused : (∃ op ∈ tegraIvcBusNodes 0 specs, op.2.disabled = false ∧ InvalidNode op.2) →
    ∃ ret < 0, tegraIvcBusStart specs regions = .error (.failed ret [])

def IvcBusSound (specs : List TegraIvcRegionSpec) : Prop :=
  ∀ regions, tegraIvcBusParseRegions 0 specs = .ok regions → BusSound specs regions

/-! ## When it is kept -/

/-- One child: its channel is created, or there is none to create. -/
def ivcBusStep (bus : TegraIvcBus) (op : ℕ × TegraIvcNode) : Option TegraIvcBus :=
  if op.2.disabled then some bus
  else
    (tegraIvcChannelCreate op.1 (bus.regions op.1) op.2).toOption.map fun result =>
      ⟨Function.update bus.regions op.1 result.2, result.1 :: bus.chans⟩

/-- What is wrong with the properties of the child, if anything, has an error code, and the size of its
queues can be computed. -/
def ReportsErrors (bus : TegraIvcBus) (op : ℕ × TegraIvcNode) : Prop :=
  op.2.disabled = false →
    tegraIvcChannelProperties op.2 ≠ .error 0 ∧
      ∀ p, tegraIvcChannelProperties op.2 = .ok p → tegraIvcConfigFull (bus.regions op.1) = false →
        (tegraIvcTotalQueueSize (p.nframes * p.frameSize)).isOk = true

/-- The two queues have less than `2 ^ 32` bytes. -/
def SmallQueues (node : TegraIvcNode) : Prop := 2 * queueBytes node < 2 ^ 32

structure BusCareful (specs : List TegraIvcRegionSpec) (regions : ℕ → TegraIvcRegion) : Prop where
  reports : (∃ op ∈ tegraIvcBusNodes 0 specs, op.2.disabled = false ∧ InvalidNode op.2) →
    AllSteps ivcBusStep ReportsErrors ⟨regions, []⟩ (tegraIvcBusNodes 0 specs)
  small : (run ivcBusStep ⟨regions, []⟩ (tegraIvcBusNodes 0 specs)).isSome = true →
    ∀ op ∈ tegraIvcBusNodes 0 specs, op.2.disabled = false → SmallQueues op.2

def IvcBusCareful (specs : List TegraIvcRegionSpec) : Prop :=
  ∀ regions, tegraIvcBusParseRegions 0 specs = .ok regions → BusCareful specs regions

end NvidiaOot.Model
