import Mathlib.Data.Nat.Size
import NvidiaOot.Program.Ivc

/-!
# Regions of the bus of the camera processor

A region holds the queues of the channels that are the children of one node of the device tree.  One
pass over the children sizes the region and allocates it; a second pass makes a channel of each child
and carves its two queues and its record out of the region.

Sources are in `drivers/platform/tegra/rtcpu/`.
-/

namespace NvidiaOot.Program

open Function

def eNODEV : ℤ := 19

/-- The end of a function: an error code, or `BUG()`. -/
inductive IvcFault where
  | ret (code : ℤ)
  | bug (b : IvcBug)
deriving DecidableEq

/-- `IS_ERR(ERR_PTR(ret))` -/
def isErr (ret : ℤ) : Bool := -4095 ≤ ret && ret < 0

/-- An error code of the kernel. -/
structure KernelErrno where
  code : ℤ
  isErr : isErr code = true
deriving DecidableEq

/-! ## The device tree -/

/-- A child of a node of channels: its properties, whether there is no memory for its device, and what
the kernel answers when the device is added. -/
structure TegraIvcNode where
  disabled : Bool
  service : Option (List U8)
  version : Option U32
  group : Option U32
  frameCount : Option U32
  frameSize : Option U32
  noMemory : Bool
  deviceAdd : Option KernelErrno
deriving DecidableEq

/-- An entry of `nvidia,ivc-channels`, and the memory that `dma_alloc_coherent` has for it. -/
structure TegraIvcRegionSpec where
  argsCount : ℕ
  nodes : List TegraIvcNode
  memory : Option (U64 × U64)
deriving DecidableEq

/-! ## Regions -/

def CAMRTC_IVC_CONFIG_SIZE : U32 := 4096

/-- SOURCE: ivc-bus.c:26-32 -/
structure TegraIvcRegion where
  base : U64
  size : U64
  iova : U64
  configSize : U64
  ivcSize : U64
deriving DecidableEq, Repr

/-- What `kzalloc` leaves in the queues of a channel. -/
def ivcZero : Ivc := ⟨0, 0, 0, 0, 0, 0, false, 0, 0⟩

/-- What it leaves in `bus->regions`. -/
def tegraIvcRegionZero : TegraIvcRegion := ⟨0, 0, 0, 0, 0⟩

/-- The number of the highest bit, from 1 on. -/
def fls (x : U32) : ℕ := x.toNat.size

/-- `1 << fls(nframes - 1)`, where a shift by 32 is one by 0.
SOURCE: ivc-bus.c:140, 524 -/
def roundFrames (nframes : U32) : U32 := (1 : U32) <<< (fls (nframes - 1) % 32)

/-- The loop over the children, from a return code and a size on.
SOURCE: ivc-bus.c:516-536 -/
def tegraIvcBusParseNodes : List TegraIvcNode → ℤ → U32 → Except IvcFault (ℤ × U32)
  | [], ret, size => .ok (ret, size)
  | node :: nodes, _, size =>
    match node.frameCount with
    | none => .ok (- eINVAL, size)
    | some nframes =>
      if nframes = 0 then .ok (0, size)
      else
        match node.frameSize with
        | none => .ok (- eINVAL, size)
        | some frameSize =>
          if frameSize = 0 then .ok (0, size)
          else
            match tegraIvcTotalQueueSize (roundFrames nframes * frameSize) with
            | .error b => .error (.bug b)
            | .ok queueSize => tegraIvcBusParseNodes nodes 0 (size + 2 * queueSize)

/-- SOURCE: ivc-bus.c:503-557 -/
def tegraIvcBusParseRegion (spec : TegraIvcRegionSpec) : Except IvcFault TegraIvcRegion :=
  if spec.argsCount < 3 then .error (.ret (- eINVAL))
  else
    match tegraIvcBusParseNodes spec.nodes (- eNODEV) CAMRTC_IVC_CONFIG_SIZE with
    | .error fault => .error fault
    | .ok (ret, size) =>
      if ret ≠ 0 then .error (.ret ret)
      else
        match spec.memory with
        | none => .error (.ret (- eNOMEM))
        | some (base, iova) =>
          .ok ⟨base, size.setWidth 64, iova, 0, CAMRTC_IVC_CONFIG_SIZE.setWidth 64⟩

/-- The regions from one index on.
SOURCE: ivc-bus.c:493-561 -/
def tegraIvcBusParseRegions : ℕ → List TegraIvcRegionSpec → Except IvcFault (ℕ → TegraIvcRegion)
  | _, [] => .ok fun _ => tegraIvcRegionZero
  | i, spec :: specs =>
    match tegraIvcBusParseRegion spec with
    | .error fault => .error fault
    | .ok region =>
      match tegraIvcBusParseRegions (i + 1) specs with
      | .error fault => .error fault
      | .ok regions => .ok (update regions i region)

/-! ## Channels -/

/-- SOURCE: include/soc/tegra/camrtc-channels.h:51-74 -/
structure CamrtcTlvIvcSetup where
  rxIova : U64
  rxFrameSize : U32
  rxNframes : U32
  txIova : U64
  txFrameSize : U32
  txNframes : U32
  channelGroup : U32
  ivcVersion : U32
  ivcService : List U8
deriving DecidableEq, Repr

/-- `sizeof(struct camrtc_tlv_ivc_setup)` -/
def TLV_IVC_SETUP_SIZE : U64 := 88
/-- `sizeof(tlv->tag)` -/
def TLV_TAG_SIZE : ℕ := 8

/-- A channel: the number of its region, the offsets of its queues and of its record in it, and the
record. -/
structure TegraIvcChannel where
  ofNode : TegraIvcNode
  region : ℕ
  rx : U32
  tx : U32
  queueSize : U32
  ivc : Ivc
  group : U32
  tlvOffset : U64
  tlv : CamrtcTlvIvcSetup
deriving DecidableEq

/-- What is read of the properties of a child. -/
structure TegraIvcProperties where
  service : List U8
  version : U32
  group : U32
  nframes : U32
  frameSize : U32
deriving DecidableEq, Repr

/-- The error code is that of the last call, also where a property was found and is not valid.
SOURCE: ivc-bus.c:97-148 -/
def tegraIvcChannelProperties (node : TegraIvcNode) : Except ℤ TegraIvcProperties :=
  if node.noMemory then .error (- eNOMEM)
  else
    match node.service, node.group with
    | none, _ => .error (- eINVAL)
    | some _, none => .error (- eINVAL)
    | some service, some group =>
      if group &&& 0x7fff ≠ group then .error 0
      else
        match node.frameCount with
        | none => .error (- eINVAL)
        | some nframes =>
          if nframes = 0 then .error 0
          else
            match node.frameSize with
            | none => .error (- eINVAL)
            | some frameSize =>
              if frameSize = 0 then .error 0
              else .ok ⟨service, node.version.getD 0, group, roundFrames nframes, frameSize⟩

/-- The region is full of records.
SOURCE: ivc-bus.c:150 -/
def tegraIvcConfigFull (region : TegraIvcRegion) : Bool :=
  CAMRTC_IVC_CONFIG_SIZE.setWidth 64 < region.configSize + TLV_IVC_SETUP_SIZE

/-- SOURCE: ivc-bus.c:80-242 -/
def tegraIvcChannelCreate (i : ℕ) (region : TegraIvcRegion) (node : TegraIvcNode) :
    Except IvcFault (TegraIvcChannel × TegraIvcRegion) :=
  match tegraIvcChannelProperties node with
  | .error ret => .error (.ret ret)
  | .ok p =>
    if tegraIvcConfigFull region then .error (.ret (- eNOSPC))
    else
      match tegraIvcTotalQueueSize (p.nframes * p.frameSize) with
      | .error b => .error (.bug b)
      | .ok queueSize =>
        if region.size < region.ivcSize + (2 * queueSize).setWidth 64 then .error (.ret (- eNOSPC))
        else
          let ivcSize := region.ivcSize + queueSize.setWidth 64
          let rx : U32 := region.ivcSize.setWidth 32
          let tx : U32 := ivcSize.setWidth 32
          match tegraIvcInitBody ivcZero (region.base + rx.setWidth 64) (region.iova + rx.setWidth 64)
            (region.base + tx.setWidth 64) (region.iova + tx.setWidth 64) p.nframes p.frameSize none with
          | .error b => .error (.bug b)
          | .ok (ret, ivc) =>
            if ret ≠ 0 then .error (.ret ret)
            else
              match node.deviceAdd with
              | some errno => .error (.ret errno.code)
              | none =>
                .ok (
                  { ofNode := node
                    region := i
                    rx := rx
                    tx := tx
                    queueSize := queueSize
                    ivc := ivc
                    group := p.group
                    tlvOffset := region.configSize
                    tlv := ⟨region.iova + rx.setWidth 64, p.frameSize, p.nframes,
                      region.iova + tx.setWidth 64, p.frameSize, p.nframes, p.group, p.version,
                      p.service.take 31⟩ },
                  { region with
                    ivcSize := ivcSize + queueSize.setWidth 64
                    configSize := region.configSize + TLV_IVC_SETUP_SIZE })

/-! ## The bus -/

structure TegraIvcBus where
  regions : ℕ → TegraIvcRegion
  chans : List TegraIvcChannel

/-- The end of `tegra_ivc_bus_start`: a return code and the channels that are left, an access through
a channel that was not created, or `BUG()`. -/
inductive IvcBusEnd where
  | failed (ret : ℤ) (chans : List TegraIvcChannel)
  | nullChannel
  | bug (b : IvcBug)
deriving DecidableEq

/-- SOURCE: ivc-bus.c:311-320 -/
def tegraIvcBusStop : List TegraIvcChannel → List TegraIvcChannel
  | [] => []
  | _ :: chans => tegraIvcBusStop chans

/-- The children of the nodes from one index on, each with the index of its region. -/
def tegraIvcBusNodes : ℕ → List TegraIvcRegionSpec → List (ℕ × TegraIvcNode)
  | _, [] => []
  | i, spec :: specs => spec.nodes.map (Prod.mk i) ++ tegraIvcBusNodes (i + 1) specs

/-- The loops of `tegra_ivc_bus_start`.
SOURCE: ivc-bus.c:322-367 -/
def tegraIvcBusStartFrom : TegraIvcBus → List (ℕ × TegraIvcNode) → Except IvcBusEnd TegraIvcBus
  | bus, [] => .ok bus
  | bus, (i, node) :: nodes =>
    if node.disabled then tegraIvcBusStartFrom bus nodes
    else
      match tegraIvcChannelCreate i (bus.regions i) node with
      | .error (.bug b) => .error (.bug b)
      | .error (.ret ret) =>
        if isErr ret then .error (.failed ret (tegraIvcBusStop bus.chans)) else .error .nullChannel
      | .ok (chan, region) =>
        tegraIvcBusStartFrom ⟨update bus.regions i region, chan :: bus.chans⟩ nodes

def tegraIvcBusStart (specs : List TegraIvcRegionSpec) (regions : ℕ → TegraIvcRegion) :
    Except IvcBusEnd TegraIvcBus :=
  tegraIvcBusStartFrom ⟨regions, []⟩ (tegraIvcBusNodes 0 specs)

end NvidiaOot.Program
