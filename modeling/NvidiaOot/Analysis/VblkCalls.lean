import NvidiaOot.Library.Positions
import NvidiaOot.Model.Vblk

/-!
# The calls of the worker of the virtual block device

A call of `submit_bio_req` leaves every slot in use as it was, or it fills a free slot and sends its frame.
A call of `complete_bio_req` that reports no error ends the request of a slot, with success only for a
good answer, and frees the slot.
-/

namespace NvidiaOot.Analysis

open Library Program Model Function

variable {dev dev' : VblkDev} {r : Request} {resp : VsResponse} {req : VscRequest} {slot : ℕ}

/-! ## Slots -/

structure VscSameSlot (req req' : VscRequest) : Prop where
  id : req'.id = req.id
  vblkdev : req'.vblkdev = req.vblkdev
  mempoolOffset : req'.mempoolOffset = req.mempoolOffset
  mempoolLen : req'.mempoolLen = req.mempoolLen

theorem VscSameSlot.refl (req : VscRequest) : VscSameSlot req req := ⟨rfl, rfl, rfl, rfl⟩

theorem VscSameSlot.trans {req' req'' : VscRequest} (h : VscSameSlot req req')
    (h' : VscSameSlot req' req'') : VscSameSlot req req'' :=
  ⟨h'.id.trans h.id, h'.vblkdev.trans h.vblkdev, h'.mempoolOffset.trans h.mempoolOffset,
    h'.mempoolLen.trans h.mempoolLen⟩

structure VblkSlotted (dev : VblkDev) : Prop where
  max : dev.maxRequests.toNat ≤ MAX_VSC_REQS.toNat
  slots : ∀ i, i < dev.maxRequests.toNat →
    VscSameSlot (setupSlot dev.config dev.maxIoctlRequests (BitVec.ofNat 32 i)) (dev.reqs i)

structure VblkReady (dev : VblkDev) : Prop extends VblkSlotted dev where
  queue : dev.queue = true
  active : dev.queueState = .active

theorem vscSlot_id (h : VblkSlotted dev) {i : ℕ} (hi : i < dev.maxRequests.toNat) : (dev.reqs i).id.toNat = i := by
  have hlt := dev.maxRequests.isLt
  rw [(h.slots i hi).id, setupSlot, BitVec.toNat_ofNat]
  exact Nat.mod_eq_of_lt (hi.trans hlt)

theorem vscSlot_mempoolLen (h : VblkSlotted dev) {i : ℕ}
    (hi : i < dev.maxRequests.toNat) : (dev.reqs i).mempoolLen = maxIoBytes dev.config :=
  (h.slots i hi).mempoolLen

theorem findFirstZeroBit_spec {bits : ℕ → Bool} {n : ℕ} (h : findFirstZeroBit bits n < n) :
    bits (findFirstZeroBit bits n) = false := by
  unfold findFirstZeroBit at h ⊢
  cases hfind : (List.range n).find? fun i => !bits i with
  | none =>
    rw [hfind, Option.getD_none] at h
    omega
  | some i =>
    simpa using List.find?_some hfind

/-- A step that changes nothing but the contents of a slot, the pool and the number of scatter lists. -/
structure VblkOnSlot (slot : ℕ) (dev dev' : VblkDev) : Prop where
  config : dev'.config = dev.config
  size : dev'.size = dev.size
  queue : dev'.queue = dev.queue
  queueState : dev'.queueState = dev.queueState
  maxRequests : dev'.maxRequests = dev.maxRequests
  maxIoctlRequests : dev'.maxIoctlRequests = dev.maxIoctlRequests
  reqList : dev'.reqList = dev.reqList
  pending : dev'.pendingReqs = dev.pendingReqs
  inflight : dev'.inflightReqs = dev.inflightReqs
  reqQueueEmpty : dev'.reqQueueEmpty = dev.reqQueueEmpty
  others : ∀ i, i ≠ slot → dev'.reqs i = dev.reqs i
  same : VscSameSlot (dev.reqs slot) (dev'.reqs slot)
  sgAllocs : dev.sgAllocs ≤ dev'.sgAllocs

theorem VblkOnSlot.refl (slot : ℕ) (dev : VblkDev) : VblkOnSlot slot dev dev :=
  ⟨rfl, rfl, rfl, rfl, rfl, rfl, rfl, rfl, rfl, rfl, fun _ _ => rfl, VscSameSlot.refl _, le_rfl⟩

theorem VblkOnSlot.trans {dev'' : VblkDev} (h : VblkOnSlot slot dev dev')
    (h' : VblkOnSlot slot dev' dev'') : VblkOnSlot slot dev dev'' where
  config := h'.config.trans h.config
  size := h'.size.trans h.size
  queue := h'.queue.trans h.queue
  queueState := h'.queueState.trans h.queueState
  maxRequests := h'.maxRequests.trans h.maxRequests
  maxIoctlRequests := h'.maxIoctlRequests.trans h.maxIoctlRequests
  reqList := h'.reqList.trans h.reqList
  pending := h'.pending.trans h.pending
  inflight := h'.inflight.trans h.inflight
  reqQueueEmpty := h'.reqQueueEmpty.trans h.reqQueueEmpty
  others i hi := (h'.others i hi).trans (h.others i hi)
  same := h.same.trans h'.same
  sgAllocs := h.sgAllocs.trans h'.sgAllocs

theorem vblkOnSlot_update (dev : VblkDev) (slot : ℕ) (h : VscSameSlot (dev.reqs slot) req) :
    VblkOnSlot slot dev { dev with reqs := update dev.reqs slot req } where
  config := rfl
  size := rfl
  queue := rfl
  queueState := rfl
  maxRequests := rfl
  maxIoctlRequests := rfl
  reqList := rfl
  pending := rfl
  inflight := rfl
  reqQueueEmpty := rfl
  others i hi := update_of_ne hi _ _
  same := by simpa using h
  sgAllocs := le_rfl

theorem VblkOnSlot.slotted (h : VblkOnSlot slot dev dev') (hdev : VblkSlotted dev) : VblkSlotted dev' where
  max := by
    rw [h.maxRequests]
    exact hdev.max
  slots i hi := by
    rw [h.maxRequests] at hi
    rw [h.config, h.maxIoctlRequests]
    by_cases heq : i = slot
    · subst heq
      exact (hdev.slots i hi).trans h.same
    · rw [h.others i heq]
      exact hdev.slots i hi

theorem VblkOnSlot.ready (h : VblkOnSlot slot dev dev') (hdev : VblkReady dev) : VblkReady dev' :=
  ⟨h.slotted hdev.toVblkSlotted, h.queue.trans hdev.queue, h.queueState.trans hdev.active⟩

/-! ## The device that was set up -/

/-- A device that was set up is idle, with the limits of the set-up. -/
structure VblkSetUp (config : VsConfigInfo) (nframes : U32) (ivmSize : U64) (dev : VblkDev) : Prop where
  ready : VblkReady dev
  sameConfig : dev.config = config
  maxRequests : dev.maxRequests = (requestLimits config nframes ivmSize).1
  maxIoctlRequests : dev.maxIoctlRequests = (requestLimits config nframes ivmSize).2
  vm : config.blkConfig.useVmAddress = 0 ∨ config.blkConfig.useVmAddress = 1
  pending : dev.pendingReqs = fun _ => false
  reqList : dev.reqList = []
  inflight : dev.inflightReqs = 0
  inflightIoctl : dev.inflightIoctlReqs = 0
  reqQueueEmpty : dev.reqQueueEmpty = 0

theorem toNat_min_le (n : U32) : (if MAX_VSC_REQS < n then MAX_VSC_REQS else n).toNat ≤ n.toNat ∧
      (if MAX_VSC_REQS < n then MAX_VSC_REQS else n).toNat ≤ 32 := by
  have hmax : MAX_VSC_REQS.toNat = 32 := by simp [MAX_VSC_REQS]
  split
  · rename_i hlt
    rw [BitVec.lt_def] at hlt
    omega
  · rename_i hle
    rw [BitVec.lt_def] at hle
    omega

theorem setupDevice_spec {config : VsConfigInfo} {nframes : U32} {ivmk : Option (U64 × (ℕ → U8))} (h : setupDevice config nframes ivmk = some dev) :
    VblkSetUp config nframes ((ivmk.map Prod.fst).getD 0) dev := by
  have hmax (ivmSize : U64) :
      (requestLimits config nframes ivmSize).1.toNat ≤ MAX_VSC_REQS.toNat := by
    unfold requestLimits
    split
    · exact (toNat_min_le _).2
    · exact (toNat_min_le _).2
  simp only [setupDevice] at h
  split at h
  · cases h
  split at h
  · cases h
  split at h
  · cases h
  split at h
  · cases h
  rename_i hvm
  split at h
  · cases h
  split at h
  · cases h
  cases h
  refine ⟨⟨⟨hmax _, ?_⟩, rfl, rfl⟩, rfl, rfl, rfl, ?_, rfl, rfl, rfl, rfl, rfl⟩
  · intro i hi
    simp only [if_pos hi]
    exact VscSameSlot.refl _
  · by_cases hone : config.blkConfig.useVmAddress = 1
    · exact Or.inr hone
    · left
      by_contra hzero
      apply hvm
      simp only [usesMempool, decide_eq_false hone, decide_eq_false hzero, decide_eq_true hone]
      rfl

/-! ## Reserving a slot and freeing it -/

structure VblkReserved (slot : ℕ) (dev dev' : VblkDev) : Prop where
  lt : slot < dev.maxRequests.toNat
  free : dev.pendingReqs slot = false
  eq : dev' = { dev with
    reqs := update dev.reqs slot { dev.reqs slot with
      vsReq := { (dev.reqs slot).vsReq with reqId := BitVec.ofNat 32 slot } }
    pendingReqs := update dev.pendingReqs slot true
    inflightReqs := dev.inflightReqs + 1 }

theorem vblkReserve_cases (dev : VblkDev) :
    (¬ findFirstZeroBit dev.pendingReqs dev.maxRequests.toNat < dev.maxRequests.toNat ∧
      vblkReserve dev = (none, dev)) ∨
    ∃ slot dev', vblkReserve dev = (some slot, dev') ∧
      findFirstZeroBit dev.pendingReqs dev.maxRequests.toNat = slot ∧ VblkReserved slot dev dev' := by
  by_cases hlt : findFirstZeroBit dev.pendingReqs dev.maxRequests.toNat < dev.maxRequests.toNat
  · right
    exact ⟨_, _, if_pos hlt, rfl, ⟨hlt, findFirstZeroBit_spec hlt, rfl⟩⟩
  · left
    exact ⟨hlt, if_neg hlt⟩

theorem vblkGetReq_of_active (h : dev.queueState = .active) : vblkGetReq dev = vblkReserve dev :=
  if_neg (not_not.mpr h)

theorem VblkReserved.slotted (h : VblkReserved slot dev dev') (hdev : VblkSlotted dev) : VblkSlotted dev' := by
  rw [h.eq]
  refine ⟨hdev.max, ?_⟩
  intro i hi
  have hsame : VscSameSlot (dev.reqs slot) { dev.reqs slot with
      vsReq := { (dev.reqs slot).vsReq with reqId := BitVec.ofNat 32 slot } } := ⟨rfl, rfl, rfl, rfl⟩
  exact ((vblkOnSlot_update dev slot hsame).slotted hdev).slots i hi

theorem VblkReserved.ready (h : VblkReserved slot dev dev') (hdev : VblkReady dev) : VblkReady dev' := by
  refine ⟨h.slotted hdev.toVblkSlotted, ?_, ?_⟩
  · rw [h.eq]
    exact hdev.queue
  · rw [h.eq]
    exact hdev.active

theorem vblkPutCheck_of_pending (h : VblkSlotted dev)
    (hlt : slot < dev.maxRequests.toNat) (hpending : dev.pendingReqs slot = true) :
    vblkPutCheck dev slot = true := by
  have hid := vscSlot_id h hlt
  have hbound : (dev.reqs slot).vblkdev = true := (h.slots slot hlt).vblkdev
  have hle : ¬ dev.maxRequests ≤ (dev.reqs slot).id := by
    rw [BitVec.le_def, hid]
    omega
  unfold vblkPutCheck
  simp [hbound, hle, hid, hpending]

theorem vblkRelease_eq (h : VblkSlotted dev) (hlt : slot < dev.maxRequests.toNat) :
    vblkRelease dev slot = { dev with
      pendingReqs := update dev.pendingReqs slot false
      reqs := update dev.reqs slot
        { dev.reqs slot with vsReq := VsRequest.zero, req := none }
      inflightReqs := dev.inflightReqs - 1 } := by
  simp only [vblkRelease, vscSlot_id h hlt]

theorem vblkPutReq_eq (h : VblkReady dev)
    (hlt : slot < dev.maxRequests.toNat) (hpending : dev.pendingReqs slot = true) : vblkPutReq dev slot = { dev with
      pendingReqs := update dev.pendingReqs slot false
      reqs := update dev.reqs slot
        { dev.reqs slot with vsReq := VsRequest.zero, req := none }
      inflightReqs := dev.inflightReqs - 1 } := by
  have hdrained : vblkDrained (vblkRelease dev slot) = false := by
    unfold vblkDrained vblkRelease
    simp [h.active]
  unfold vblkPutReq
  rw [vblkPutCheck_of_pending h.toVblkSlotted hlt hpending, hdrained, vblkRelease_eq h.toVblkSlotted hlt]
  rfl

/-! ## What a call of `submit_bio_req` can do -/

/-- All slots in use are as they were, and so is the list. -/
structure VblkKept (dev dev' : VblkDev) : Prop where
  ready : VblkReady dev'
  config : dev'.config = dev.config
  size : dev'.size = dev.size
  maxRequests : dev'.maxRequests = dev.maxRequests
  maxIoctlRequests : dev'.maxIoctlRequests = dev.maxIoctlRequests
  reqList : dev'.reqList = dev.reqList
  pending : dev'.pendingReqs = dev.pendingReqs
  inflight : dev'.inflightReqs = dev.inflightReqs
  inUse : ∀ i, dev.pendingReqs i = true → dev'.reqs i = dev.reqs i
  sgAllocs : dev.sgAllocs ≤ dev'.sgAllocs

/-- The count of the ioctls in flight is kept as well. -/
structure VblkQuiet (dev dev' : VblkDev) : Prop extends VblkKept dev dev' where
  inflightIoctl : dev'.inflightIoctlReqs = dev.inflightIoctlReqs

theorem VblkQuiet.refl (h : VblkReady dev) : VblkQuiet dev dev :=
  ⟨⟨h, rfl, rfl, rfl, rfl, rfl, rfl, rfl, fun _ _ => rfl, le_rfl⟩, rfl⟩

theorem VblkReserved.put {dev'' : VblkDev} (h : VblkReserved slot dev dev')
    (hdev : VblkReady dev) (hslot : VblkOnSlot slot dev' dev'') : VblkKept dev (vblkPutReq dev'' slot) ∧
      (vblkPutReq dev'' slot).inflightIoctlReqs = dev''.inflightIoctlReqs := by
  have hready := hslot.ready (h.ready hdev)
  have hmax : dev''.maxRequests = dev.maxRequests := by rw [hslot.maxRequests, h.eq]
  have hlt : slot < dev''.maxRequests.toNat := by
    rw [hmax]
    exact h.lt
  have hpending : dev''.pendingReqs = update dev.pendingReqs slot true := by
    rw [hslot.pending, h.eq]
  have hput := vblkPutReq_eq hready hlt (by simp [hpending])
  have hsame : VscSameSlot (dev''.reqs slot)
      { dev''.reqs slot with vsReq := VsRequest.zero, req := none } := ⟨rfl, rfl, rfl, rfl⟩
  have hclear := (vblkOnSlot_update dev'' slot hsame).ready hready
  rw [hput]
  refine ⟨⟨⟨⟨hclear.max, hclear.slots⟩, hclear.queue, hclear.active⟩, ?_, ?_, hmax, ?_, ?_, ?_, ?_, ?_, ?_⟩, rfl⟩
  · simp [hslot.config, h.eq]
  · simp [hslot.size, h.eq]
  · simp [hslot.maxIoctlRequests, h.eq]
  · simp [hslot.reqList, h.eq]
  · simp only [hpending, update_idem]
    rw [← h.free]
    exact update_eq_self slot dev.pendingReqs
  · simp [hslot.inflight, h.eq]
  · intro i hi
    have hne : i ≠ slot := by
      rintro rfl
      rw [h.free] at hi
      cases hi
    simp only [update_of_ne hne]
    rw [hslot.others i hne, h.eq]
    exact update_of_ne hne _ _
  · have := hslot.sgAllocs
    rw [h.eq] at this
    exact this

/-- A request fills a free slot, and its frame is written. -/
structure VblkSent (dev dev' : VblkDev) (slot : ℕ) (r : Request) : Prop where
  ready : VblkReady dev'
  config : dev'.config = dev.config
  size : dev'.size = dev.size
  maxRequests : dev'.maxRequests = dev.maxRequests
  maxIoctlRequests : dev'.maxIoctlRequests = dev.maxIoctlRequests
  reqList : dev'.reqList = dev.reqList
  lt : slot < dev.maxRequests.toNat
  free : dev.pendingReqs slot = false
  pending : dev'.pendingReqs = update dev.pendingReqs slot true
  inflight : dev'.inflightReqs = dev.inflightReqs + 1
  inflightIoctl : dev'.inflightIoctlReqs =
    if r.op = .drvIn then dev.inflightIoctlReqs + 1 else dev.inflightIoctlReqs
  others : ∀ i, i ≠ slot → dev'.reqs i = dev.reqs i
  req : (dev'.reqs slot).req = some r
  reqId : (dev'.reqs slot).vsReq.reqId = BitVec.ofNat 32 slot
  accepts : vblkAccepts dev r = true
  blkReq : r.op ≠ .drvIn → r.op ≠ .flush →
    (dev'.reqs slot).vsReq.blkReq.blkOffset = blkOffset dev.config r ∧
      (dev'.reqs slot).vsReq.blkReq.numBlks = blkCount dev.config r
  written : r.op = .write → dev.config.blkConfig.useVmAddress = 0 →
    dev'.sharedBuffer = copyFromSegments (dev.reqs slot).mempoolOffset.toNat
      (blkCount dev.config r * dev.config.blkConfig.hardblkSize).toNat 0 r.segments dev.sharedBuffer
  sgLst : usesSg dev.config r = true → (dev'.reqs slot).sgLst = some dev.sgAllocs
  sgAllocs : dev'.sgAllocs = if usesSg dev.config r then dev.sgAllocs + 1 else dev.sgAllocs

theorem mapSg_spec (env : VblkSubmitEnv) (dev : VblkDev) (slot : ℕ) :
    (∃ dev', mapSg env dev slot = (none, dev', []) ∧ VblkOnSlot slot dev dev' ∧
      dev'.inflightIoctlReqs = dev.inflightIoctlReqs) ∨
    ∃ addr dev', mapSg env dev slot = (some addr, dev', [.mapped dev.sgAllocs]) ∧
      env.sgAlloc = true ∧ env.sgMap.isSome = true ∧ VblkOnSlot slot dev dev' ∧
      dev'.inflightIoctlReqs = dev.inflightIoctlReqs ∧ dev'.sharedBuffer = dev.sharedBuffer ∧
      (dev'.reqs slot).sgLst = some dev.sgAllocs ∧ (dev'.reqs slot).vsReq = (dev.reqs slot).vsReq ∧
      dev'.sgAllocs = dev.sgAllocs + 1 := by
  have hset (sg : Option ℕ) : VscSameSlot (dev.reqs slot) { dev.reqs slot with sgLst := sg } :=
    ⟨rfl, rfl, rfl, rfl⟩
  have hlist := vblkOnSlot_update dev slot (hset (some dev.sgAllocs))
  have halloc : VblkOnSlot slot dev { dev with
      reqs := update dev.reqs slot { dev.reqs slot with sgLst := some dev.sgAllocs }
      sgAllocs := dev.sgAllocs + 1 } :=
    { hlist with sgAllocs := Nat.le_succ _ }
  unfold mapSg
  cases hsg : env.sgAlloc with
  | false =>
    left
    exact ⟨_, rfl, vblkOnSlot_update dev slot (hset none), rfl⟩
  | true =>
    cases hmap : env.sgMap with
    | none =>
      left
      exact ⟨_, rfl, halloc, rfl⟩
    | some addr =>
      right
      refine ⟨addr, _, rfl, rfl, rfl, halloc, rfl, rfl, ?_, ?_, rfl⟩
      · simp
      · simp

theorem bioReqSanityCheck_congr (hc : dev'.config = dev.config)
    (hs : dev'.size = dev.size) (r : Request) (len : U32) :
    bioReqSanityCheck dev' r len = bioReqSanityCheck dev r len := by
  simp only [bioReqSanityCheck, hc, hs]

theorem vblkAccepts_congr (hc : dev'.config = dev.config)
    (hs : dev'.size = dev.size) (r : Request) : vblkAccepts dev' r = vblkAccepts dev r := by
  simp only [vblkAccepts, bioReqSanityCheck_congr hc hs, hc]

/-- A frame is filled in a slot, for a request that the checks accept. -/
structure VblkFilled (dev dev' : VblkDev) (slot : ℕ) (r : Request) : Prop where
  onSlot : VblkOnSlot slot dev dev'
  accepts : vblkAccepts dev r = true
  inflightIoctl : dev'.inflightIoctlReqs =
    if r.op = .drvIn then dev.inflightIoctlReqs + 1 else dev.inflightIoctlReqs
  req : (dev'.reqs slot).req = some r
  reqId : (dev'.reqs slot).vsReq.reqId = (dev.reqs slot).vsReq.reqId
  blkReq : r.op ≠ .drvIn → r.op ≠ .flush →
    (dev'.reqs slot).vsReq.blkReq.blkOffset = blkOffset dev.config r ∧
      (dev'.reqs slot).vsReq.blkReq.numBlks = blkCount dev.config r
  written : r.op = .write → dev.config.blkConfig.useVmAddress = 0 →
    dev'.sharedBuffer = copyFromSegments (dev.reqs slot).mempoolOffset.toNat
      (blkCount dev.config r * dev.config.blkConfig.hardblkSize).toNat 0 r.segments dev.sharedBuffer
  sgLst : (dev'.reqs slot).sgLst = (dev.reqs slot).sgLst
  sgAllocs : dev'.sgAllocs = dev.sgAllocs

theorem vblkOnSlot_update_buffer (dev : VblkDev) (slot : ℕ) (mem : ℕ → U8)
    (ioctls : U32) (h : VscSameSlot (dev.reqs slot) req) : VblkOnSlot slot dev { dev with
      reqs := update dev.reqs slot req
      sharedBuffer := mem
      inflightIoctlReqs := ioctls } :=
  { vblkOnSlot_update dev slot h with }

theorem fillBlkReq_cases (addr : U64)
    (hlen : (dev.reqs slot).mempoolLen = maxIoBytes dev.config) (hop : r.op ≠ .drvIn)
    (hreq : (dev.reqs slot).req = some r) : (vblkAccepts dev r = false ∧ fillBlkReq dev slot r addr = none) ∨
    ∃ dev', fillBlkReq dev slot r addr = some dev' ∧ VblkFilled dev dev' slot r := by
  have haccepts : vblkAccepts dev r = ((blkCmdOp dev.config r.op).isSome &&
      (r.op = .flush || bioReqSanityCheck dev r (maxIoBytes dev.config))) := by
    unfold vblkAccepts
    rw [if_neg hop]
  unfold fillBlkReq
  cases hcmd : blkCmdOp dev.config r.op with
  | none =>
    left
    simp [haccepts, hcmd]
  | some op =>
    by_cases hflush : r.op = .flush
    · right
      let flush : VscRequest := { dev.reqs slot with
        vsReq := { (dev.reqs slot).vsReq with
          reqOp := op
          blkReq := { (dev.reqs slot).vsReq.blkReq with
            blkOffset := 0
            numBlks := dev.config.blkConfig.numBlks.setWidth 32 } } }
      have hon : VblkOnSlot slot dev { dev with reqs := update dev.reqs slot flush } :=
        vblkOnSlot_update dev slot ⟨rfl, rfl, rfl, rfl⟩
      refine ⟨_, by simp only [if_pos hflush, flush], hon, ?_, ?_, ?_, ?_, ?_, ?_, ?_, rfl⟩
      · rw [haccepts, hcmd]
        simp [hflush]
      · simp [hop]
      · simpa [flush] using hreq
      · simp [flush]
      · simp [hflush]
      · simp [hflush]
      · simp [flush]
    simp only [if_neg hflush, hlen]
    cases hsane : bioReqSanityCheck dev r (maxIoBytes dev.config) with
    | false =>
      left
      simp [haccepts, hflush, hsane]
    | true =>
      right
      refine ⟨_, rfl, vblkOnSlot_update_buffer dev slot _ dev.inflightIoctlReqs
        ⟨rfl, rfl, rfl, hlen.symm⟩, ?_, ?_, ?_, ?_, ?_, ?_, ?_, rfl⟩
      · simp [haccepts, hcmd, hsane]
      · simp [hop]
      · simpa using hreq
      · simp
      · simp
      · intro hwrite hvm
        simp [hwrite, hvm, transferBytes]
      · simp

theorem fillIoctlReq_cases (hlen : (dev.reqs slot).mempoolLen = maxIoBytes dev.config) (hop : r.op = .drvIn)
    (hreq : (dev.reqs slot).req = some r) : (vblkAccepts dev r = false ∧ fillIoctlReq dev slot r = none) ∨
    ∃ dev', fillIoctlReq dev slot r = some dev' ∧ VblkFilled dev dev' slot r := by
  have haccepts : vblkAccepts dev r = (dev.config.supports VS_BLK_IOCTL_OP_F &&
      (ioctlReqCheck r.completionData (maxIoBytes dev.config)).isSome) := by
    unfold vblkAccepts
    rw [if_pos hop]
  unfold fillIoctlReq vblkPrepIoctlReq
  simp only [hlen]
  cases hsupp : dev.config.supports VS_BLK_IOCTL_OP_F with
  | false =>
    left
    simp [haccepts, hsupp]
  | true =>
    cases hcheck : ioctlReqCheck r.completionData (maxIoBytes dev.config) with
    | none =>
      left
      simp [haccepts, hcheck]
    | some checked =>
      right
      refine ⟨_, rfl, vblkOnSlot_update_buffer dev slot _ (dev.inflightIoctlReqs + 1)
        ⟨rfl, rfl, rfl, hlen.symm⟩, ?_, ?_, ?_, ?_, ?_, ?_, ?_, rfl⟩
      · simp [haccepts, hsupp, hcheck]
      · simp [hop]
      · simpa using hreq
      · simp
      · simp [hop]
      · simp [hop]
      · simp

theorem fillVsReq_cases (r : Request) (addr : U64) (hlen : (dev.reqs slot).mempoolLen = maxIoBytes dev.config) :
    (vblkAccepts dev r = false ∧ fillVsReq dev slot r addr = none) ∨
    ∃ dev', fillVsReq dev slot r addr = some dev' ∧ VblkFilled dev dev' slot r := by
  let typed : VscRequest := { dev.reqs slot with
    req := some r
    vsReq := { (dev.reqs slot).vsReq with type := VS_DATA_REQ } }
  let dev1 : VblkDev := { dev with reqs := update dev.reqs slot typed }
  have hon : VblkOnSlot slot dev dev1 := vblkOnSlot_update dev slot ⟨rfl, rfl, rfl, rfl⟩
  have hslot : dev1.reqs slot = typed := update_self slot typed dev.reqs
  have haccepts : vblkAccepts dev1 r = vblkAccepts dev r := vblkAccepts_congr rfl rfl r
  have hlen1 : (dev1.reqs slot).mempoolLen = maxIoBytes dev1.config := by rw [hslot]; exact hlen
  have hreq1 : (dev1.reqs slot).req = some r := by rw [hslot]
  have hback {dev'} (h : VblkFilled dev1 dev' slot r) : VblkFilled dev dev' slot r :=
    { h with
      onSlot := hon.trans h.onSlot
      accepts := haccepts ▸ h.accepts
      reqId := h.reqId.trans (by rw [hslot])
      written := fun hwrite hvm => (h.written hwrite hvm).trans (by rw [hslot])
      sgLst := h.sgLst.trans (by rw [hslot]) }
  by_cases hop : r.op = .drvIn
  · have hfill : fillVsReq dev slot r addr = fillIoctlReq dev1 slot r := if_neg (not_not.mpr hop)
    rw [hfill, ← haccepts]
    apply (fillIoctlReq_cases hlen1 hop hreq1).imp_right
    rintro ⟨dev', heq, h⟩
    exact ⟨dev', heq, hback h⟩
  have hfill : fillVsReq dev slot r addr = fillBlkReq dev1 slot r addr := if_pos hop
  rw [hfill, ← haccepts]
  apply (fillBlkReq_cases addr hlen1 hop hreq1).imp_right
  rintro ⟨dev', heq, h⟩
  exact ⟨dev', heq, hback h⟩

theorem VblkFilled.sent {dev1 dev2 dev3 : VblkDev} (hdev : VblkReady dev)
    (hres : VblkReserved slot dev dev1) (hon : VblkOnSlot slot dev1 dev2)
    (hioctl : dev2.inflightIoctlReqs = dev.inflightIoctlReqs) (hbuffer : dev2.sharedBuffer = dev.sharedBuffer)
    (hframe : (dev2.reqs slot).vsReq = (dev1.reqs slot).vsReq)
    (hsg : usesSg dev.config r = true → (dev2.reqs slot).sgLst = some dev.sgAllocs)
    (halloc : dev2.sgAllocs = if usesSg dev.config r then dev.sgAllocs + 1 else dev.sgAllocs)
    (h : VblkFilled dev2 dev3 slot r) : VblkSent dev dev3 slot r := by
  have hall := hon.trans h.onSlot
  have hconfig : dev2.config = dev.config := by rw [hon.config, hres.eq]
  have hsize : dev2.size = dev.size := by rw [hon.size, hres.eq]
  have hoffset : (dev2.reqs slot).mempoolOffset = (dev.reqs slot).mempoolOffset := by
    rw [hon.same.mempoolOffset, hres.eq]
    simp
  refine ⟨hall.ready (hres.ready hdev), ?_, ?_, ?_, ?_, ?_, hres.lt, hres.free, ?_, ?_, ?_, ?_, h.req, ?_,
    ?_, ?_, ?_, ?_, ?_⟩
  · rw [hall.config, hres.eq]
  · rw [hall.size, hres.eq]
  · rw [hall.maxRequests, hres.eq]
  · rw [hall.maxIoctlRequests, hres.eq]
  · rw [hall.reqList, hres.eq]
  · rw [hall.pending, hres.eq]
  · rw [hall.inflight, hres.eq]
  · rw [h.inflightIoctl, hioctl]
  · intro i hi
    rw [hall.others i hi, hres.eq]
    exact update_of_ne hi _ _
  · rw [h.reqId, hframe, hres.eq]
    simp
  · rw [← vblkAccepts_congr hconfig hsize]
    exact h.accepts
  · rw [← hconfig]
    exact h.blkReq
  · rw [← hconfig, ← hoffset, ← hbuffer]
    exact h.written
  · intro huse
    rw [h.sgLst, hsg huse]
  · rw [h.sgAllocs, halloc]

/-- What a request that was taken from the list leads to: it is ended with an error and its slot is given
back, or its frame was filled and its write did not return 0.  A careful submission has nothing to undo
in the first case, and sends the frame in the second. -/
theorem submitTaken_cases (env : VblkSubmitEnv) (r : Request) {dev1 : VblkDev}
    (hdev : VblkReady dev) (hres : VblkReserved slot dev dev1) :
    (∃ dev' effects, submitTaken env dev1 slot r = (true, dev', effects ++ [reqErrorHandler r]) ∧
      VblkKept dev dev' ∧ (vblkSubmitCareful env dev r →
        effects = [] ∧ dev'.inflightIoctlReqs = dev.inflightIoctlReqs)) ∨
    ∃ dev', submitTaken env dev1 slot r = (true, dev',
        (if usesSg dev.config r then [.mapped dev.sgAllocs] else []) ++
          if 0 < env.ivcWrite then [.sent r (dev'.reqs slot).vsReq] else []) ∧
      VblkSent dev dev' slot r ∧ (vblkSubmitCareful env dev r → 0 < env.ivcWrite) := by
  have hconfig : dev1.config = dev.config := by rw [hres.eq]
  have hioctl1 : dev1.inflightIoctlReqs = dev.inflightIoctlReqs := by rw [hres.eq]
  have hbuffer1 : dev1.sharedBuffer = dev.sharedBuffer := by rw [hres.eq]
  have hsize : dev1.size = dev.size := by rw [hres.eq]
  have hallocs : dev1.sgAllocs = dev.sgAllocs := by rw [hres.eq]
  have hlen : (dev1.reqs slot).mempoolLen = maxIoBytes dev1.config :=
    vscSlot_mempoolLen (hres.ready hdev).toVblkSlotted (by rw [hres.eq]; exact hres.lt)
  unfold vblkSubmitCareful submitTaken submitFill
  simp only [hconfig]
  cases huse : usesSg dev.config r with
  | true =>
    simp only [if_true]
    rcases mapSg_spec env dev1 slot with ⟨dev2, hmap, hon, hioctl⟩ |
      ⟨addr, dev2, hmap, hsgAlloc, hsgMap, hon, hioctl, hbuffer, hsg, hframe, halloc⟩
    · -- No scatter list is mapped, and the request is ended.
      left
      rw [hmap]
      obtain ⟨hkept, hput⟩ := hres.put hdev hon
      exact ⟨_, [], rfl, hkept, fun _ => ⟨rfl, hput.trans (hioctl.trans hioctl1)⟩⟩
    rw [hmap]
    have hlen2 : (dev2.reqs slot).mempoolLen = maxIoBytes dev2.config := by
      rw [hon.same.mempoolLen, hlen, hon.config]
    have haccepts : vblkAccepts dev2 r = vblkAccepts dev r :=
      vblkAccepts_congr (hon.config.trans hconfig) (hon.size.trans hsize) r
    rcases fillVsReq_cases r addr hlen2 with ⟨hno, hfill⟩ | ⟨dev3, hfill, hfilled⟩
    · left
      simp only [hfill]
      refine ⟨_, _, rfl, (hres.put hdev hon).1, ?_⟩
      intro hcareful
      rw [haccepts, (hcareful hsgAlloc hsgMap).1] at hno
      cases hno
    simp only [hfill]
    by_cases hwrite : env.ivcWrite = 0
    · left
      rw [if_pos hwrite]
      refine ⟨_, _, rfl, (hres.put hdev (hon.trans hfilled.onSlot)).1, ?_⟩
      intro hcareful
      exact absurd hwrite (hcareful hsgAlloc hsgMap).2.ne'
    right
    rw [if_neg hwrite, ← hallocs]
    refine ⟨dev3, rfl, hfilled.sent hdev hres hon (hioctl.trans hioctl1) (hbuffer.trans hbuffer1)
      hframe ?_ ?_, ?_⟩
    · intro _
      rw [hsg, hallocs]
    · rw [halloc, hallocs, huse, if_pos rfl]
    · intro hcareful
      exact (hcareful hsgAlloc hsgMap).2
  | false =>
    simp only [Bool.false_eq_true, if_false]
    rcases fillVsReq_cases r 0 hlen with ⟨hno, hfill⟩ | ⟨dev3, hfill, hfilled⟩
    · left
      simp only [hfill]
      obtain ⟨hkept, hput⟩ := hres.put hdev (VblkOnSlot.refl slot dev1)
      exact ⟨_, [], rfl, hkept, fun _ => ⟨rfl, hput.trans hioctl1⟩⟩
    have haccepts : vblkAccepts dev r = true := by
      rw [← vblkAccepts_congr hconfig hsize]
      exact hfilled.accepts
    simp only [hfill]
    by_cases hwrite : env.ivcWrite = 0
    · left
      rw [if_pos hwrite]
      obtain ⟨hkept, hput⟩ := hres.put hdev hfilled.onSlot
      refine ⟨_, [], rfl, hkept, ?_⟩
      intro hcareful
      have hop : r.op ≠ .drvIn := ((hcareful haccepts).resolve_left (by omega)).2
      refine ⟨rfl, ?_⟩
      rw [hput, hfilled.inflightIoctl, if_neg hop, hioctl1]
    right
    rw [if_neg hwrite]
    refine ⟨dev3, rfl, hfilled.sent hdev hres (VblkOnSlot.refl slot dev1) hioctl1 hbuffer1 rfl ?_ ?_, ?_⟩
    · intro hsome
      rw [huse] at hsome
      cases hsome
    · rw [hallocs, huse]
      simp
    · intro hcareful
      exact (hcareful haccepts).resolve_right fun h => hwrite h.1

theorem VblkReserved.withList (h : VblkReserved slot dev dev') (l : List Request) :
    VblkReserved slot { dev with reqList := l } { dev' with reqList := l } := by
  refine ⟨h.lt, h.free, ?_⟩
  rw [h.eq]

theorem VblkReady.withList (h : VblkReady dev) (l : List Request) : VblkReady { dev with reqList := l } :=
  ⟨⟨h.max, h.slots⟩, h.queue, h.active⟩

/-- A call of `submit_bio_req` does nothing, or it takes the first request, and that request is ended with
an error or its frame is written. -/
theorem submitBioReq_cases (env : VblkSubmitEnv) (hdev : VblkReady dev) :
    (∃ dev', submitBioReq env dev = (false, dev', []) ∧ VblkQuiet dev dev') ∨
    ∃ r rest, dev.reqList = r :: rest ∧ r ∈ vblkTaken env dev ∧
      ((∃ dev' effects, submitBioReq env dev = (true, dev', effects ++ [reqErrorHandler r]) ∧
          VblkKept { dev with reqList := rest } dev' ∧ (vblkSubmitCareful env dev r →
            effects = [] ∧ dev'.inflightIoctlReqs = dev.inflightIoctlReqs)) ∨
        ∃ slot dev', findFirstZeroBit dev.pendingReqs dev.maxRequests.toNat = slot ∧
          submitBioReq env dev = (true, dev',
            (if usesSg dev.config r then [.mapped dev.sgAllocs] else []) ++
              if 0 < env.ivcWrite then [.sent r (dev'.reqs slot).vsReq] else []) ∧
          VblkSent { dev with reqList := rest } dev' slot r ∧
          (vblkSubmitCareful env dev r → 0 < env.ivcWrite)) := by
  unfold submitBioReq
  cases hwrite : env.canWrite with
  | false =>
    left
    exact ⟨dev, rfl, VblkQuiet.refl hdev⟩
  | true =>
    have hqueue : (!dev.queue) = false := by simp [hdev.queue]
    simp only [Bool.not_true, hqueue, Bool.false_eq_true, if_false]
    rw [vblkGetReq_of_active hdev.active]
    rcases vblkReserve_cases dev with ⟨-, hget⟩ | ⟨slot, dev1, hget, hfind, hres⟩
    · left
      rw [hget]
      exact ⟨dev, rfl, VblkQuiet.refl hdev⟩
    rw [hget]
    have hlist : dev1.reqList = dev.reqList := by rw [hres.eq]
    have hquiet : VblkQuiet dev (vblkPutReq dev1 slot) := by
      obtain ⟨hkept, hput⟩ := hres.put hdev (VblkOnSlot.refl slot dev1)
      exact ⟨hkept, hput.trans (by rw [hres.eq])⟩
    cases hreqs : dev.reqList with
    | nil =>
      left
      refine ⟨_, ?_, hquiet⟩
      simp only [takeEntry, hlist, hreqs]
    | cons r rest =>
      have hlimited : ioctlLimited dev1 r = ioctlLimited dev r := by rw [hres.eq]; rfl
      cases hlim : ioctlLimited dev r with
      | true =>
        left
        refine ⟨_, ?_, hquiet⟩
        simp only [takeEntry, hlist, hreqs, hlimited, hlim, if_true]
      | false =>
        right
        have htaken : r ∈ vblkTaken env dev := by
          simp [vblkTaken, hwrite, hfind, hres.lt, hreqs, hlim]
        refine ⟨r, rest, rfl, htaken, ?_⟩
        simp only [takeEntry, hlist, hreqs, hlimited, hlim, Bool.false_eq_true, if_false]
        rcases submitTaken_cases env r (hdev.withList rest) (hres.withList rest) with
          h | ⟨dev', heq, hsent, hpos⟩
        · exact Or.inl h
        · exact Or.inr ⟨slot, dev', hfind, heq, hsent, hpos⟩

/-! ## What a call of `complete_bio_req` can do -/

structure VblkFreed (dev dev' : VblkDev) (slot : ℕ) : Prop where
  ready : VblkReady dev'
  config : dev'.config = dev.config
  size : dev'.size = dev.size
  maxRequests : dev'.maxRequests = dev.maxRequests
  maxIoctlRequests : dev'.maxIoctlRequests = dev.maxIoctlRequests
  reqList : dev'.reqList = dev.reqList
  pending : dev'.pendingReqs = update dev.pendingReqs slot false
  inflight : dev'.inflightReqs = dev.inflightReqs - 1
  others : ∀ i, i ≠ slot → dev'.reqs i = dev.reqs i
  sgAllocs : dev'.sgAllocs = dev.sgAllocs

structure VblkDone (dev dev' : VblkDev) (slot : ℕ) (r : Request) : Prop
    extends VblkFreed dev dev' slot where
  inflightIoctl : dev'.inflightIoctlReqs =
    if r.op = .drvIn then dev.inflightIoctlReqs - 1 else dev.inflightIoctlReqs

def vblkSgOf (dev : VblkDev) (slot : ℕ) (r : Request) : List ℕ :=
  if usesSg dev.config r then (dev.reqs slot).sgLst.toList else []

/-- The effects end a request, and give its scatter list back. -/
def VblkEnds (dev : VblkDev) (slot : ℕ) (r : Request) (status : BlkStatus)
    (effects : List VblkEffect) : Prop :=
  ∀ l : VblkLedger, effects.foldl (VblkLedger.enter dev.config) l = { l with
    ended := (r.tag, status) :: l.ended
    unmapped := vblkSgOf dev slot r ++ l.unmapped
    freed := vblkSgOf dev slot r ++ l.freed }

theorem vblkGetReqBySrNum_eq (h : VblkSlotted dev) (num : U32) : vblkGetReqBySrNum dev num =
      if num.toNat < dev.maxRequests.toNat ∧ dev.pendingReqs num.toNat = true then some num.toNat
      else none := by
  unfold vblkGetReqBySrNum
  by_cases hlt : num.toNat < dev.maxRequests.toNat
  · have hle : ¬ dev.maxRequests ≤ num := by
      rw [BitVec.le_def]
      omega
    rw [if_neg hle, vscSlot_id h hlt]
    cases hpending : dev.pendingReqs num.toNat <;> simp [hlt]
  have hle : dev.maxRequests ≤ num := by
    rw [BitVec.le_def]
    omega
  rw [if_pos hle, if_neg (fun h => hlt h.1)]

theorem not_hsiErrorMagic (h : VblkSlotted dev) (hsiErrRptInj : Bool) (hlt : resp.reqId.toNat < dev.maxRequests.toNat) :
    ¬ (hsiErrRptInj && decide (resp.reqId = HSI_ERROR_MAGIC)) = true := by
  have hsmall : resp.reqId.toNat < 32 := hlt.trans_le (h.max.trans (by simp [MAX_VSC_REQS]))
  intro hboth
  have heq : resp.reqId = HSI_ERROR_MAGIC := by simpa using (Bool.and_eq_true_iff.mp hboth).2
  rw [heq] at hsmall
  simp [HSI_ERROR_MAGIC] at hsmall

section

variable (h : VblkReady dev)

include h

theorem completeBioReq_of_pending (hsiErrRptInj : Bool) (hlt : resp.reqId.toNat < dev.maxRequests.toNat)
    (hpending : dev.pendingReqs resp.reqId.toNat = true) : completeBioReq hsiErrRptInj dev (some resp) =
      (true, vblkPutReq (completeRequest dev (dev.reqs resp.reqId.toNat) resp).1 resp.reqId.toNat,
        .answered resp :: (completeRequest dev (dev.reqs resp.reqId.toNat) resp).2) := by
  have hmagic := not_hsiErrorMagic h.toVblkSlotted hsiErrRptInj hlt
  have hsome : vblkGetReqBySrNum dev resp.reqId = some resp.reqId.toNat := by
    rw [vblkGetReqBySrNum_eq h.toVblkSlotted, if_pos ⟨hlt, hpending⟩]
  simp only [completeBioReq, completeResponse, if_neg hmagic, hsome]

/-- A response that names no slot in use changes nothing but the status of an injected error. -/
theorem completeBioReq_of_free (hsiErrRptInj : Bool) (hnone : vblkGetReqBySrNum dev resp.reqId = none) :
    ∃ dev', completeBioReq hsiErrRptInj dev (some resp) = (true, dev', [.answered resp]) ∧
      VblkQuiet dev dev' := by
  by_cases hmagic : (hsiErrRptInj && decide (resp.reqId = HSI_ERROR_MAGIC)) = true
  · refine ⟨{ dev with hsierrorStatus := resp.respStatus }, ?_, ?_⟩
    · simp only [completeBioReq, completeResponse, if_pos hmagic]
    · exact ⟨⟨⟨⟨h.max, h.slots⟩, h.queue, h.active⟩, rfl, rfl, rfl, rfl, rfl, rfl, rfl, fun _ _ => rfl,
        le_rfl⟩, rfl⟩
  · refine ⟨dev, ?_, VblkQuiet.refl h⟩
    simp only [completeBioReq, completeResponse, if_neg hmagic, hnone]

theorem vblkFreed_put
    (hlt : slot < dev.maxRequests.toNat) (hpending : dev.pendingReqs slot = true) (ioctls : U32) :
    VblkFreed dev (vblkPutReq { dev with inflightIoctlReqs := ioctls } slot) slot ∧
      (vblkPutReq { dev with inflightIoctlReqs := ioctls } slot).inflightIoctlReqs = ioctls := by
  have hready : VblkReady { dev with inflightIoctlReqs := ioctls } :=
    ⟨⟨h.max, h.slots⟩, h.queue, h.active⟩
  have hsame : VscSameSlot (dev.reqs slot)
      { dev.reqs slot with vsReq := VsRequest.zero, req := none } := ⟨rfl, rfl, rfl, rfl⟩
  have hclear := (vblkOnSlot_update dev slot hsame).ready h
  rw [vblkPutReq_eq hready hlt hpending]
  refine ⟨⟨⟨⟨hclear.max, hclear.slots⟩, hclear.queue, hclear.active⟩, rfl, rfl, rfl, rfl, rfl, rfl, rfl, ?_,
    rfl⟩, rfl⟩
  intro i hi
  exact update_of_ne hi _ _

theorem vblkDone_put
    (hlt : slot < dev.maxRequests.toNat) (hpending : dev.pendingReqs slot = true) {ioctls : U32}
    (hioctls : ioctls = if r.op = .drvIn then dev.inflightIoctlReqs - 1 else dev.inflightIoctlReqs) :
    VblkDone dev (vblkPutReq { dev with inflightIoctlReqs := ioctls } slot) slot r := by
  obtain ⟨hfreed, hput⟩ := vblkFreed_put h hlt hpending ioctls
  exact ⟨hfreed, hput.trans hioctls⟩

end

theorem completeRequest_dev (dev : VblkDev) (vscReq : VscRequest) (resp : VsResponse) :
    ∃ ioctls, (completeRequest dev vscReq resp).1 = { dev with inflightIoctlReqs := ioctls } := by
  unfold completeRequest
  cases vscReq.req with
  | none => exact ⟨_, rfl⟩
  | some r =>
    by_cases hstatus : resp.status = 0
    · simp only [if_pos hstatus]
      split
      · exact ⟨_, rfl⟩
      · split
        · exact ⟨_, rfl⟩
        · exact ⟨_, rfl⟩
    by_cases hop : r.op = .drvIn
    · cases hsupp : dev.config.supports VS_BLK_IOCTL_OP_F with
      | true =>
        simp only [if_neg hstatus, hop, decide_true, Bool.not_true, Bool.and_true,
          Bool.false_eq_true, if_false, if_true]
        exact ⟨_, rfl⟩
      | false =>
        simp only [if_neg hstatus, hop, decide_true, Bool.not_false, Bool.and_true, if_true]
        exact ⟨_, rfl⟩
    · simp only [if_neg hstatus, hop, decide_false, Bool.and_false, Bool.false_eq_true, if_false]
      exact ⟨_, rfl⟩

theorem completeBioReq_cases (h : VblkReady dev) (hsiErrRptInj : Bool) (read : Option VsResponse) :
    VblkKept dev (completeBioReq hsiErrRptInj dev read).2.1 ∨
      ∃ slot, VblkFreed dev (completeBioReq hsiErrRptInj dev read).2.1 slot := by
  cases read with
  | none => exact Or.inl (VblkQuiet.refl h).toVblkKept
  | some resp =>
    by_cases hslot : resp.reqId.toNat < dev.maxRequests.toNat ∧ dev.pendingReqs resp.reqId.toNat = true
    · right
      refine ⟨resp.reqId.toNat, ?_⟩
      rw [completeBioReq_of_pending h hsiErrRptInj hslot.1 hslot.2]
      obtain ⟨ioctls, heq⟩ := completeRequest_dev dev (dev.reqs resp.reqId.toNat) resp
      simp only [heq]
      exact (vblkFreed_put h hslot.1 hslot.2 ioctls).1
    left
    have hnone : vblkGetReqBySrNum dev resp.reqId = none := by
      rw [vblkGetReqBySrNum_eq h.toVblkSlotted, if_neg hslot]
    obtain ⟨dev', heq, hquiet⟩ := completeBioReq_of_free h hsiErrRptInj hnone
    rw [heq]
    exact hquiet.toVblkKept

theorem handleNonIoctlResp_ends (dev : VblkDev) (slot : ℕ) (hop : r.op ≠ .drvIn) (hstatus : resp.status = 0)
    (hcount : r.op ≠ .flush → (dev.reqs slot).vsReq.blkReq.numBlks = blkCount dev.config r) :
    ∃ status, (status = .ok → vblkGoodAnswer dev.config r resp = true) ∧
      VblkEnds dev slot r status (handleNonIoctlResp dev (dev.reqs slot) r resp) := by
  have hsg (l : VblkLedger) :
      (if dev.config.blkConfig.useVmAddress ≠ 0 && r.isRw then
        ((dev.reqs slot).sgLst.elim [] fun sg => [VblkEffect.unmapped sg, .freed sg]) else []).foldl
          (VblkLedger.enter dev.config) l =
        { l with
          unmapped := vblkSgOf dev slot r ++ l.unmapped
          freed := vblkSgOf dev slot r ++ l.freed } := by
    unfold vblkSgOf usesSg
    by_cases huse : (dev.config.blkConfig.useVmAddress ≠ 0 && r.isRw) = true
    · simp only [if_pos huse]
      cases (dev.reqs slot).sgLst <;> rfl
    · simp only [if_neg huse]
      rfl
  cases hfails : nonIoctlRespFails r (dev.reqs slot).vsReq.blkReq resp with
  | true =>
    refine ⟨.ioerr, by simp, ?_⟩
    intro l
    unfold handleNonIoctlResp
    simp only [hfails, Bool.not_true, Bool.false_and, Bool.false_eq_true, if_false, List.nil_append,
      List.foldl_append, hsg]
    rfl
  | false =>
    refine ⟨.ok, ?_, ?_⟩
    · intro _
      unfold nonIoctlRespFails at hfails
      simp only [Bool.or_eq_false_iff, Bool.and_eq_false_iff, decide_eq_false_iff_not, not_not] at hfails
      obtain ⟨hresp, hnum⟩ := hfails
      simp only [vblkGoodAnswer, hstatus, hresp, hop, decide_true, decide_false, Bool.or_true,
        Bool.true_and, Bool.false_or, Bool.or_eq_true, decide_eq_true_eq]
      by_cases hflush : r.op = .flush
      · exact Or.inl hflush
      · right
        rw [← hcount hflush]
        exact (hnum.resolve_left hflush).symm
    · intro l
      unfold handleNonIoctlResp
      simp only [hfails, Bool.false_eq_true, if_false, List.foldl_append, hsg]
      split <;> rfl

theorem completeRequest_ends (h : VblkReady dev)
    (hlt : slot < dev.maxRequests.toNat) (hpending : dev.pendingReqs slot = true)
    (hreq : (dev.reqs slot).req = some r) (hioctl : r.op = .drvIn → dev.config.supports VS_BLK_IOCTL_OP_F = true)
    (hcount : r.op ≠ .drvIn → r.op ≠ .flush →
      (dev.reqs slot).vsReq.blkReq.numBlks = blkCount dev.config r) (hstatus : resp.status = 0) :
    ∃ status, (status = .ok → vblkGoodAnswer dev.config r resp = true) ∧
      VblkEnds dev slot r status (completeRequest dev (dev.reqs slot) resp).2 ∧
      VblkDone dev (vblkPutReq (completeRequest dev (dev.reqs slot) resp).1 slot) slot r := by
  unfold completeRequest
  simp only [hreq, if_pos hstatus]
  by_cases hop : r.op = .drvIn
  · rw [if_pos (by simp [hop, hioctl hop])]
    refine ⟨.ok, ?_, ?_, vblkDone_put h hlt hpending (if_pos hop).symm⟩
    · intro _
      simp [vblkGoodAnswer, hstatus, hop]
    · intro l
      have hsg : vblkSgOf dev slot r = [] := by simp [vblkSgOf, usesSg, Request.isRw, hop]
      rw [List.foldl_append, hsg]
      unfold vblkCompleteIoctlReq
      cases (dev.reqs slot).ioctlReq <;> rfl
  · obtain ⟨status, hgood, hends⟩ := handleNonIoctlResp_ends dev slot hop hstatus (hcount hop)
    rw [if_neg (by simp [hop]), if_pos hop]
    exact ⟨status, hgood, hends, vblkDone_put h hlt hpending (if_neg hop).symm⟩

/-! ## A small device -/

def vblkSmallConfig : VsConfigInfo where
  blkConfig := ⟨512, 8, 8, VS_BLK_READ_OP_F ||| VS_BLK_WRITE_OP_F, 100, 0⟩
  physDev := 1

def vblkSmallPool : Option (U64 × (ℕ → U8)) := some (8192, fun _ => 0)

def vblkReadOps : List VblkOp :=
  [.request ⟨0, .read, 1, 512, [List.replicate 512 0], none⟩ true, .work 0, .complete none,
    .submit ⟨true, false, none, 64⟩]

end NvidiaOot.Analysis
