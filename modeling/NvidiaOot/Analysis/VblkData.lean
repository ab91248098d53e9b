import NvidiaOot.Analysis.VblkCalls

/-!
# The data of the virtual block device lies where it belongs

The copies between the pool and the segments are exact when the segments are as long as the transfer, the
frame describes the bytes of its request when those end below `2 ^ 64`, and the slices of the slots are
apart as long as their offsets do not wrap and no two ioctls share one.
-/

namespace NvidiaOot.Analysis

open Library Program Model Function

variable {dev dev' : VblkDev} {r : Request} {i ivmSize total : ℕ}

/-! ## Copies -/

theorem slice_succ_append (m : ℕ → U8) (off a b : ℕ) :
    slice m off (a + b) = slice m off a ++ slice m (off + a) b := by
  unfold slice
  rw [List.range_add, List.map_append, List.map_map]
  congr 1
  apply List.map_congr_left
  intro j _
  simp [Nat.add_assoc]

theorem slice_blit_self (m : ℕ → U8) (off : ℕ) (seg : List U8) :
    slice (blit m off seg.length fun j => seg.getD j 0) off seg.length = seg := by
  apply List.ext_getElem
  · simp
  · intro j hj _
    rw [length_slice] at hj
    simp only [slice, blit, List.getElem_map, List.getElem_range]
    simp [hj]

/-- Segments that are as long as the transfer are copied to the pool one after another. -/
theorem copyFromSegments_spec (offset : ℕ) {limit : ℕ} (segs : List (List U8)) (mem : ℕ → U8)
    (h : total + segs.flatten.length = limit) :
    slice (copyFromSegments offset limit total segs mem) (offset + total) segs.flatten.length = segs.flatten ∧
      AgreeOutside mem (copyFromSegments offset limit total segs mem) (offset + total) segs.flatten.length := by
  induction segs generalizing total mem with
  | nil => exact ⟨rfl, AgreeOutside.refl mem _ _⟩
  | cons seg rest ih =>
    rw [List.flatten_cons, List.length_append] at h ⊢
    have hsize : ¬ limit < total + seg.length := by omega
    simp only [copyFromSegments, if_neg hsize]
    have hblit : AgreeOutside mem (blit mem (offset + total) seg.length fun j => seg.getD j 0)
        (offset + total) (seg.length + rest.flatten.length) :=
      (AgreeOutside.refl mem _ _).blit le_rfl (by omega) _
    by_cases hlast : total + seg.length = limit
    · have hrest : rest.flatten = [] := List.length_eq_zero_iff.mp (by omega)
      rw [if_pos hlast]
      refine ⟨?_, hblit⟩
      rw [hrest, List.length_nil, Nat.add_zero, List.append_nil]
      exact slice_blit_self mem (offset + total) seg
    rw [if_neg hlast]
    obtain ⟨hslice, hagree⟩ := @ih (total + seg.length)
      (blit mem (offset + total) seg.length fun j => seg.getD j 0) (by omega)
    rw [← Nat.add_assoc] at hslice hagree
    constructor
    · rw [slice_succ_append, hslice, hagree.slice_eq (Or.inl le_rfl), slice_blit_self]
    · intro i hi
      rw [hagree i (by omega)]
      exact hblit i hi

/-- Segments that are as long as the transfer are filled from the pool one after another. -/
theorem copyToSegments_spec (offset : ℕ) {limit : ℕ} (segs : List (List U8)) (mem : ℕ → U8)
    (h : total + segs.flatten.length = limit) :
    (copyToSegments mem offset limit total segs).map List.length = segs.map List.length ∧
      (copyToSegments mem offset limit total segs).flatten = slice mem (offset + total) segs.flatten.length := by
  induction segs generalizing total with
  | nil => exact ⟨rfl, rfl⟩
  | cons seg rest ih =>
    rw [List.flatten_cons, List.length_append] at h ⊢
    have hsize : ¬ limit < total + seg.length := by omega
    simp only [copyToSegments, if_neg hsize, List.drop_length, List.append_nil]
    by_cases hlast : total + seg.length = limit
    · have hrest : rest.flatten = [] := List.length_eq_zero_iff.mp (by omega)
      rw [if_pos hlast]
      constructor
      · simp
      · rw [List.flatten_cons, hrest, List.length_nil, List.append_nil, Nat.add_zero]
    rw [if_neg hlast]
    obtain ⟨hlengths, hflatten⟩ := @ih (total + seg.length) (by omega)
    constructor
    · simp [hlengths]
    · rw [List.flatten_cons, hflatten, slice_succ_append, Nat.add_assoc]

/-! ## What a frame describes -/

theorem sectors_bytes (h : r.dataLen.toNat % 512 = 0) : r.sectors * SECTOR_SIZE = r.dataLen := by
  have hsize : SECTOR_SIZE.toNat = 512 := by simp [SECTOR_SIZE]
  apply BitVec.eq_of_toNat_eq
  rw [BitVec.toNat_mul, hsize, Request.sectors, BitVec.toNat_ushiftRight, Nat.shiftRight_eq_div_pow]
  omega

theorem bioReqSanityCheck_exact {len : U32}
    (h : bioReqSanityCheck dev r len = true) (hfits : r.pos.toNat * 512 + r.dataLen.toNat < 2 ^ 64) :
    r.startOffset.toNat = r.pos.toNat * 512 ∧ r.pos.toNat * 512 + r.dataLen.toNat ≤ dev.size.toNat ∧
      r.pos.toNat * 512 % dev.config.blkConfig.hardblkSize.toNat = 0 ∧
      r.dataLen.toNat % dev.config.blkConfig.hardblkSize.toNat = 0 ∧
      (dev.config.blkConfig.useVmAddress = 0 → r.op ≠ .discard → r.op ≠ .secureErase →
        r.dataLen.toNat ≤ len.toNat) := by
  have hwiden (x : U32) : (x.setWidth 64).toNat = x.toNat := BitVec.toNat_setWidth_of_le (by omega)
  have hstart : r.startOffset.toNat = r.pos.toNat * 512 := by
    have hsize : SECTOR_SIZE.toNat = 512 := by simp [SECTOR_SIZE]
    have hlt : r.pos.toNat * 512 < 2 ^ 64 := (Nat.le_add_right _ _).trans_lt hfits
    have hmul := BitVec.toNat_mul r.pos (SECTOR_SIZE.setWidth 64)
    rw [(hwiden SECTOR_SIZE).trans hsize, Nat.mod_eq_of_lt hlt] at hmul
    exact hmul
  simp only [bioReqSanityCheck] at h
  split at h
  · cases h
  rename_i hrange
  split at h
  · cases h
  rename_i halign
  split at h
  · cases h
  rename_i hwhole
  split at h
  · cases h
  rename_i hpool
  simp only [Bool.or_eq_true, decide_eq_true_eq, not_or, BitVec.le_def, BitVec.lt_def,
    BitVec.toNat_add, hwiden, hstart] at hrange
  have halign' := congrArg BitVec.toNat (not_not.mp halign)
  have hwhole' := congrArg BitVec.toNat (not_not.mp hwhole)
  rw [BitVec.toNat_umod, hstart, hwiden] at halign'
  rw [BitVec.toNat_umod, hwiden, hwiden] at hwhole'
  refine ⟨hstart, by omega, by simpa using halign', by simpa using hwhole', ?_⟩
  intro hvm hdiscard herase
  simp only [hvm, hdiscard, herase, Bool.and_eq_true, decide_eq_true_eq, ne_eq, not_false_eq_true,
    true_and, BitVec.lt_def, hwiden] at hpool
  omega

theorem vblkDescribes_of_check {len : U32} {frame : VsBlkRequest}
    (h : bioReqSanityCheck dev r len = true) (hformed : vblkFormed r)
    (hfits : r.pos.toNat * 512 + r.dataLen.toNat < 2 ^ 64) (hoffset : frame.blkOffset = blkOffset dev.config r)
    (hcount : frame.numBlks = blkCount dev.config r) : VblkDescribes dev frame r := by
  obtain ⟨hstart, hend, halign, hwhole, -⟩ := bioReqSanityCheck_exact h hfits
  refine ⟨?_, ?_, hend⟩
  · have hwiden : (dev.config.blkConfig.hardblkSize.setWidth 64).toNat =
        dev.config.blkConfig.hardblkSize.toNat := BitVec.toNat_setWidth_of_le (by omega)
    rw [hoffset, blkOffset, BitVec.toNat_udiv, hstart, hwiden]
    exact Nat.div_mul_cancel (Nat.dvd_of_mod_eq_zero halign)
  · rw [hcount, blkCount, sectors_bytes hformed.1, BitVec.toNat_udiv]
    exact Nat.div_mul_cancel (Nat.dvd_of_mod_eq_zero hwhole)

theorem vblkDescribes_product {frame : VsBlkRequest} (h : VblkDescribes dev frame r) :
    (frame.numBlks * dev.config.blkConfig.hardblkSize).toNat = r.dataLen.toNat := by
  rw [BitVec.toNat_mul, h.bytes]
  exact Nat.mod_eq_of_lt r.dataLen.isLt

/-! ## The slices of the pool -/

/-- What the set-up of a device says of its limits. -/
structure VblkFits (ivmSize : ℕ) (dev : VblkDev) : Prop where
  vm : dev.config.blkConfig.useVmAddress = 0 →
    dev.maxRequests.toNat * (maxIoBytes dev.config).toNat ≤ ivmSize
  ioctl : dev.config.blkConfig.useVmAddress ≠ 0 →
    dev.maxIoctlRequests.toNat ≤ 32 ∧ dev.maxIoctlRequests.toNat * 0x80000 ≤ ivmSize

theorem toNat_quotient_le (x y : U64) : ((x / y).setWidth 32).toNat * y.toNat ≤ x.toNat := by
  have hle : ((x / y).setWidth 32).toNat ≤ (x / y).toNat := by
    exact Nat.mod_le _ _
  exact (Nat.mul_le_mul_right _ hle).trans (by
    exact Nat.div_mul_le_self _ _)

theorem sliceBytes : UFS_IOCTL_MAX_SIZE_SUPPORTED.toNat = 0x80000 := by
  simp [UFS_IOCTL_MAX_SIZE_SUPPORTED]

theorem toNat_slice {x : U32} (hx : x.toNat < 32) :
    (x * UFS_IOCTL_MAX_SIZE_SUPPORTED).toNat = x.toNat * 0x80000 := by
  have hlt : x.toNat * 0x80000 < 2 ^ 32 := by omega
  have hmul := BitVec.toNat_mul x UFS_IOCTL_MAX_SIZE_SUPPORTED
  rw [sliceBytes, Nat.mod_eq_of_lt hlt] at hmul
  exact hmul

theorem requestLimits_fits (config : VsConfigInfo) (nframes : U32) (ivmSize : U64) :
    (config.blkConfig.useVmAddress = 0 →
      (requestLimits config nframes ivmSize).1.toNat * (maxIoBytes config).toNat ≤ ivmSize.toNat) ∧
    (config.blkConfig.useVmAddress = 1 → (requestLimits config nframes ivmSize).2.toNat ≤ 32 ∧
        (requestLimits config nframes ivmSize).2.toNat * 0x80000 ≤ ivmSize.toNat) := by
  constructor
  · intro hvm
    have hne : ¬ config.blkConfig.useVmAddress = 1 := by
      rw [hvm]
      decide
    simp only [requestLimits, if_neg hne]
    have hquot := toNat_quotient_le ivmSize ((maxIoBytes config).setWidth 64)
    exact (Nat.mul_le_mul_right _ (toNat_min_le _).1).trans hquot
  · intro hvm
    simp only [requestLimits, if_pos hvm]
    split
    · simp
    have hquot := toNat_quotient_le ivmSize (UFS_IOCTL_MAX_SIZE_SUPPORTED.setWidth 64)
    obtain ⟨hle, hmax⟩ := toNat_min_le
      ((ivmSize / UFS_IOCTL_MAX_SIZE_SUPPORTED.setWidth 64).setWidth 32)
    exact ⟨hmax, (Nat.mul_le_mul_right _ hle).trans hquot⟩

theorem slices_disjoint {j size a b : ℕ} (hij : i ≠ j) (ha : a ≤ size) (hb : b ≤ size) :
    (⟨i * size, a⟩ : Range).Disjoint ⟨j * size, b⟩ := by
  unfold Range.Disjoint Range.stop
  rcases Nat.lt_or_gt_of_ne hij with hlt | hlt
  · left
    have := Nat.mul_le_mul_right size (Nat.succ_le_of_lt hlt)
    rw [Nat.succ_mul] at this
    simp only
    omega
  right
  have := Nat.mul_le_mul_right size (Nat.succ_le_of_lt hlt)
  rw [Nat.succ_mul] at this
  simp only
  omega

theorem slice_inside {n size a : ℕ} (hi : i < n) (ha : a ≤ size) (hn : n * size ≤ total) :
    (⟨i * size, a⟩ : Range).stop ≤ total := by
  unfold Range.stop
  have := Nat.mul_le_mul_right size (Nat.succ_le_of_lt hi)
  rw [Nat.succ_mul] at this
  simp only
  omega

/-! ## The requests in flight -/

structure VblkCarried (dev : VblkDev) (i : ℕ) (r : Request) : Prop where
  formed : vblkFormed r
  accepts : vblkAccepts dev r = true
  fits : r.op ≠ .drvIn → r.op ≠ .flush → r.pos.toNat * 512 + r.dataLen.toNat < 2 ^ 64
  offset : dev.config.blkConfig.useVmAddress = 0 → vblkUsesPool dev.config r = true →
    i * (maxIoBytes dev.config).toNat < 2 ^ 32
  slice : dev.config.blkConfig.useVmAddress ≠ 0 → r.op = .drvIn →
    vblkPoolBytes r ≤ 0x80000 ∧ 0 < dev.maxIoctlRequests.toNat
  blkReq : r.op ≠ .drvIn → r.op ≠ .flush →
    (dev.reqs i).vsReq.blkReq.blkOffset = blkOffset dev.config r ∧
      (dev.reqs i).vsReq.blkReq.numBlks = blkCount dev.config r

/-- The requests in flight were checked, and no two ioctls share a slice. -/
structure VblkDataInv (ivmSize : ℕ) (dev : VblkDev) : Prop where
  ready : VblkReady dev
  fits : VblkFits ivmSize dev
  inRange : ∀ i, dev.pendingReqs i = true → i < dev.maxRequests.toNat
  formed : ∀ r ∈ dev.reqList, vblkFormed r
  carried : ∀ i r, vblkInFlight dev i = some r → VblkCarried dev i r
  shares : dev.config.blkConfig.useVmAddress ≠ 0 → ∀ i j r r', i ≠ j →
    vblkInFlight dev i = some r → vblkInFlight dev j = some r' → r.op = .drvIn → r'.op = .drvIn →
      i % dev.maxIoctlRequests.toNat ≠ j % dev.maxIoctlRequests.toNat

theorem pending_of_inFlight (h : vblkInFlight dev i = some r) :
    dev.pendingReqs i = true ∧ (dev.reqs i).req = some r := by
  unfold vblkInFlight at h
  split at h
  · exact ⟨‹_›, h⟩
  · cases h

theorem vblkAccepts_check (h : vblkAccepts dev r = true) (hop : r.op ≠ .drvIn) (hflush : r.op ≠ .flush) :
    bioReqSanityCheck dev r (maxIoBytes dev.config) = true := by
  unfold vblkAccepts at h
  rw [if_neg hop] at h
  simpa [hflush] using (Bool.and_eq_true_iff.mp h).2

theorem vblkPoolBytes_le (h : VblkCarried dev i r)
    (hvm : dev.config.blkConfig.useVmAddress = 0) (huse : vblkUsesPool dev.config r = true) :
    vblkPoolBytes r ≤ (maxIoBytes dev.config).toNat := by
  by_cases hop : r.op = .drvIn
  · have haccepts := h.accepts
    unfold vblkAccepts at haccepts
    rw [if_pos hop] at haccepts
    have hcheck := (Bool.and_eq_true_iff.mp haccepts).2
    unfold vblkPoolBytes
    rw [if_pos hop]
    unfold ioctlReqCheck at hcheck
    cases hdata : r.completionData with
    | none => simp [hdata] at hcheck
    | some ioctl =>
      simp only [hdata, Option.bind_some] at hcheck
      split at hcheck
      · cases hcheck
      · rename_i hle
        exact Nat.le_of_not_lt hle
  unfold vblkPoolBytes
  rw [if_neg hop]
  have hrw : r.isRw = true := by simpa [vblkUsesPool, hop, hvm] using huse
  have hkind : r.op = .read ∨ r.op = .write := by simpa [Request.isRw] using hrw
  have hflush : r.op ≠ .flush := by
    intro heq
    simp [heq] at hkind
  have hcheck := bioReqSanityCheck_exact (vblkAccepts_check h.accepts hop hflush) (h.fits hop hflush)
  apply hcheck.2.2.2.2 hvm
  · intro heq
    simp [heq] at hkind
  · intro heq
    simp [heq] at hkind

theorem vblkPoolRange_pool (hinv : VblkDataInv ivmSize dev) (h : vblkInFlight dev i = some r) (hvm : dev.config.blkConfig.useVmAddress = 0)
    (huse : vblkUsesPool dev.config r = true) :
    vblkPoolRange dev i r = ⟨i * (maxIoBytes dev.config).toNat, vblkPoolBytes r⟩ := by
  have hi := hinv.inRange i (pending_of_inFlight h).1
  have hlt := hi.trans dev.maxRequests.isLt
  have hoffset := (hinv.ready.slots i hi).mempoolOffset
  have hwrap := (hinv.carried i r h).offset hvm huse
  unfold vblkPoolRange
  rw [hoffset]
  simp only [setupSlot, slotOffset, if_pos hvm, BitVec.toNat_mul, BitVec.toNat_ofNat,
    Nat.mod_eq_of_lt hlt, Nat.mod_eq_of_lt hwrap]

theorem vblkPoolRange_ioctl (hinv : VblkDataInv ivmSize dev) (h : vblkInFlight dev i = some r) (hvm : dev.config.blkConfig.useVmAddress ≠ 0)
    (hop : r.op = .drvIn) :
    vblkPoolRange dev i r = ⟨i % dev.maxIoctlRequests.toNat * 0x80000, vblkPoolBytes r⟩ := by
  have hi := hinv.inRange i (pending_of_inFlight h).1
  have hlt := hi.trans dev.maxRequests.isLt
  have hcarried := hinv.carried i r h
  have hsupp : dev.config.supports VS_BLK_IOCTL_OP_F = true := by
    have haccepts := hcarried.accepts
    unfold vblkAccepts at haccepts
    rw [if_pos hop] at haccepts
    exact (Bool.and_eq_true_iff.mp haccepts).1
  have hmod := Nat.mod_lt i (hcarried.slice hvm hop).2
  have hmax := (hinv.fits.ioctl hvm).1
  have hoffset : (dev.reqs i).mempoolOffset =
      BitVec.ofNat 32 i % dev.maxIoctlRequests * UFS_IOCTL_MAX_SIZE_SUPPORTED := by
    rw [(hinv.ready.slots i hi).mempoolOffset, setupSlot, slotOffset, if_neg hvm, if_pos hsupp]
  have hindex : (BitVec.ofNat 32 i % dev.maxIoctlRequests).toNat = i % dev.maxIoctlRequests.toNat := by
    rw [BitVec.toNat_umod, BitVec.toNat_ofNat, Nat.mod_eq_of_lt hlt]
  rw [vblkPoolRange, hoffset, toNat_slice (by omega), hindex]

theorem VblkDataInv.placed (h : VblkDataInv ivmSize dev) : VblkPlaced ivmSize dev := by
  -- Only ioctls use the pool of a device with addresses of the VM.
  have hioctl {r : Request} (hvm : dev.config.blkConfig.useVmAddress ≠ 0)
      (huse : vblkUsesPool dev.config r = true) : r.op = .drvIn := by
    rw [vblkUsesPool, decide_eq_false hvm, Bool.false_and, Bool.or_false] at huse
    exact of_decide_eq_true huse
  refine ⟨?_, ?_, ?_⟩
  · intro i r hr huse
    by_cases hvm : dev.config.blkConfig.useVmAddress = 0
    · rw [vblkPoolRange_pool h hr hvm huse]
      exact slice_inside (h.inRange i (pending_of_inFlight hr).1)
        (vblkPoolBytes_le (h.carried i r hr) hvm huse) (h.fits.vm hvm)
    have hop := hioctl hvm huse
    obtain ⟨hbytes, hpos⟩ := (h.carried i r hr).slice hvm hop
    rw [vblkPoolRange_ioctl h hr hvm hop]
    exact slice_inside (Nat.mod_lt i hpos) hbytes (h.fits.ioctl hvm).2
  · intro i j r r' hij hr hr' huse huse'
    by_cases hvm : dev.config.blkConfig.useVmAddress = 0
    · rw [vblkPoolRange_pool h hr hvm huse, vblkPoolRange_pool h hr' hvm huse']
      exact slices_disjoint hij (vblkPoolBytes_le (h.carried i r hr) hvm huse)
        (vblkPoolBytes_le (h.carried j r' hr') hvm huse')
    have hop := hioctl hvm huse
    have hop' := hioctl hvm huse'
    rw [vblkPoolRange_ioctl h hr hvm hop, vblkPoolRange_ioctl h hr' hvm hop']
    exact slices_disjoint (h.shares hvm i j r r' hij hr hr' hop hop')
      ((h.carried i r hr).slice hvm hop).1 ((h.carried j r' hr').slice hvm hop').1
  · intro i r hr hop hflush
    have hcarried := h.carried i r hr
    obtain ⟨hoffset, hcount⟩ := hcarried.blkReq hop hflush
    exact vblkDescribes_of_check (vblkAccepts_check hcarried.accepts hop hflush) hcarried.formed
      (hcarried.fits hop hflush) hoffset hcount

/-! ## Steps -/

/-- A request in flight is carried on by a step that leaves its slot and the set-up as they were. -/
theorem VblkCarried.congr (h : VblkCarried dev i r)
    (hconfig : dev'.config = dev.config) (hsize : dev'.size = dev.size)
    (hioctls : dev'.maxIoctlRequests = dev.maxIoctlRequests) (hreq : dev'.reqs i = dev.reqs i) :
    VblkCarried dev' i r where
  formed := h.formed
  accepts := (vblkAccepts_congr hconfig hsize r).trans h.accepts
  fits := h.fits
  offset := by
    rw [hconfig]
    exact h.offset
  slice := by
    rw [hconfig, hioctls]
    exact h.slice
  blkReq := by
    rw [hreq, hconfig]
    exact h.blkReq

theorem VblkFits.congr (h : VblkFits ivmSize dev)
    (hconfig : dev'.config = dev.config) (hmax : dev'.maxRequests = dev.maxRequests)
    (hioctls : dev'.maxIoctlRequests = dev.maxIoctlRequests) : VblkFits ivmSize dev' := by
  constructor
  · rw [hconfig, hmax]
    exact h.vm
  · rw [hconfig, hioctls]
    exact h.ioctl

section

variable (h : VblkDataInv ivmSize dev)

include h

theorem VblkDataInv.less
    (hready : VblkReady dev') (hconfig : dev'.config = dev.config) (hsize : dev'.size = dev.size)
    (hmax : dev'.maxRequests = dev.maxRequests) (hioctls : dev'.maxIoctlRequests = dev.maxIoctlRequests)
    (hformed : ∀ r ∈ dev'.reqList, vblkFormed r)
    (hpending : ∀ i, dev'.pendingReqs i = true → dev.pendingReqs i = true ∧ dev'.reqs i = dev.reqs i) :
    VblkDataInv ivmSize dev' := by
  have hback {i : ℕ} {r : Request} (hr : vblkInFlight dev' i = some r) :
      vblkInFlight dev i = some r ∧ dev'.reqs i = dev.reqs i := by
    obtain ⟨hpend, hreq⟩ := pending_of_inFlight hr
    obtain ⟨hpend', hsame⟩ := hpending i hpend
    refine ⟨?_, hsame⟩
    rw [vblkInFlight, if_pos hpend', ← hsame, hreq]
  refine ⟨hready, h.fits.congr hconfig hmax hioctls, ?_, hformed, ?_, ?_⟩
  · intro i hi
    rw [hmax]
    exact h.inRange i (hpending i hi).1
  · intro i r hr
    obtain ⟨hold, hsame⟩ := hback hr
    exact (h.carried i r hold).congr hconfig hsize hioctls hsame
  · rw [hconfig, hioctls]
    intro hvm i j r r' hij hr hr'
    exact h.shares hvm i j r r' hij (hback hr).1 (hback hr').1

theorem VblkDataInv.kept (hkept : VblkKept dev dev') : VblkDataInv ivmSize dev' := by
  apply h.less hkept.ready hkept.config hkept.size hkept.maxRequests hkept.maxIoctlRequests
  · rw [hkept.reqList]
    exact h.formed
  · intro i hi
    rw [hkept.pending] at hi
    exact ⟨hi, hkept.inUse i hi⟩

theorem VblkDataInv.freed {slot : ℕ}
    (hfreed : VblkFreed dev dev' slot) : VblkDataInv ivmSize dev' := by
  apply h.less hfreed.ready hfreed.config hfreed.size hfreed.maxRequests hfreed.maxIoctlRequests
  · rw [hfreed.reqList]
    exact h.formed
  · intro i hi
    rw [hfreed.pending] at hi
    by_cases heq : i = slot
    · rw [heq, update_self] at hi
      cases hi
    · rw [update_of_ne heq] at hi
      exact ⟨hi, hfreed.others i heq⟩

theorem VblkDataInv.withList {l : List Request} (hl : ∀ r ∈ l, vblkFormed r) :
    VblkDataInv ivmSize { dev with reqList := l } :=
  h.less (h.ready.withList l) rfl rfl rfl rfl hl fun _ hi => ⟨hi, rfl⟩

end

theorem VblkDataInv.sent {slot : ℕ}
    (h : VblkDataInv ivmSize dev) (hsent : VblkSent dev dev' slot r) (hformed : vblkFormed r)
    (hlimited : ioctlLimited dev r = false) (hcareful : vblkPlaceCareful dev slot r) :
    VblkDataInv ivmSize dev' := by
  obtain ⟨hfits, hoffset, hslice⟩ := hcareful
  have hold {i : ℕ} {r' : Request} (hi : i ≠ slot) (hr' : vblkInFlight dev' i = some r') :
      vblkInFlight dev i = some r' := by
    obtain ⟨hpend, hreq⟩ := pending_of_inFlight hr'
    rw [hsent.pending, update_of_ne hi] at hpend
    rw [vblkInFlight, if_pos hpend, ← hsent.others i hi, hreq]
  have hnew {r' : Request} (hr' : vblkInFlight dev' slot = some r') : r' = r :=
    Option.some.inj ((pending_of_inFlight hr').2.symm.trans hsent.req)
  -- The slice of the new ioctl is that of no other ioctl in flight.
  have halone (hvm : dev.config.blkConfig.useVmAddress ≠ 0) (hop : r.op = .drvIn) {j : ℕ}
      {r' : Request} (hr' : vblkInFlight dev j = some r') (hop' : r'.op = .drvIn) :
      j % dev.maxIoctlRequests.toNat ≠ slot % dev.maxIoctlRequests.toNat := by
    intro heq
    have hnone := (hslice hvm hop).2
    unfold vblkSharesSlice at hnone
    rw [List.any_eq_false] at hnone
    have hj := List.mem_range.mpr (h.inRange j (pending_of_inFlight hr').1)
    have := hnone j hj
    simp [hr', hop', heq] at this
  refine ⟨hsent.ready, h.fits.congr hsent.config hsent.maxRequests hsent.maxIoctlRequests, ?_, ?_, ?_, ?_⟩
  · intro i hi
    rw [hsent.maxRequests]
    by_cases heq : i = slot
    · exact heq ▸ hsent.lt
    · rw [hsent.pending, update_of_ne heq] at hi
      exact h.inRange i hi
  · rw [hsent.reqList]
    exact h.formed
  · intro i r' hr'
    by_cases heq : i = slot
    · subst heq
      obtain rfl := hnew hr'
      refine ⟨hformed, (vblkAccepts_congr hsent.config hsent.size r').trans hsent.accepts, hfits, ?_, ?_, ?_⟩
      · rw [hsent.config]
        exact hoffset
      · rw [hsent.config, hsent.maxIoctlRequests]
        intro hvm hop
        refine ⟨?_, ?_⟩
        · exact (hslice hvm hop).1
        · have haccepts := hsent.accepts
          unfold vblkAccepts at haccepts
          rw [if_pos hop] at haccepts
          have hsupp := (Bool.and_eq_true_iff.mp haccepts).1
          have hroom : dev.inflightIoctlReqs < dev.maxIoctlRequests := by
            simp only [ioctlLimited, hsupp, decide_eq_true hop, decide_eq_true hvm, Bool.true_and,
              decide_eq_false_iff_not, BitVec.not_le] at hlimited
            exact hlimited
          rw [BitVec.lt_def] at hroom
          omega
      · rw [hsent.config]
        exact hsent.blkReq
    · exact (h.carried i r' (hold heq hr')).congr hsent.config hsent.size hsent.maxIoctlRequests
        (hsent.others i heq)
  · rw [hsent.config, hsent.maxIoctlRequests]
    intro hvm i j ri rj hij hri hrj hopi hopj
    by_cases hi : i = slot
    · subst hi
      obtain rfl := hnew hri
      exact (halone hvm hopi (hold (Ne.symm hij) hrj) hopj).symm
    by_cases hj : j = slot
    · subst hj
      obtain rfl := hnew hrj
      exact halone hvm hopj (hold hi hri) hopi
    · exact h.shares hvm i j ri rj hij (hold hi hri) (hold hj hrj) hopi hopj

theorem vblkTaken_spec {env : VblkSubmitEnv} (h : r ∈ vblkTaken env dev) : ioctlLimited dev r = false := by
  unfold vblkTaken at h
  split at h
  · simpa using (Option.mem_filter_iff.mp h).2
  · cases h

/-- A careful call of `submit_bio_req` keeps the data in place, and a write that it puts in flight has its
segments in its range. -/
theorem VblkDataInv.submit (h : VblkDataInv ivmSize dev)
    {env : VblkSubmitEnv} (hcareful : ∀ r ∈ vblkTaken env dev, vblkAccepts dev r = true →
      vblkPlaceCareful dev (findFirstZeroBit dev.pendingReqs dev.maxRequests.toNat) r) :
    VblkDataInv ivmSize (submitBioReq env dev).2.1 ∧ VblkWritten dev (submitBioReq env dev).2.1 := by
  have hnone {dev' : VblkDev} (hpending : dev'.pendingReqs = dev.pendingReqs) :
      VblkWritten dev dev' := by
    intro i r hfree hr
    have hpend := (pending_of_inFlight hr).1
    rw [hpending, hfree] at hpend
    cases hpend
  rcases submitBioReq_cases env h.ready with ⟨dev', heq, hquiet⟩ | ⟨r, rest, hlist, htaken,
    ⟨dev', effects, heq, hkept, -⟩ | ⟨slot, dev', hfind, heq, hsent, -⟩⟩
  · rw [heq]
    exact ⟨h.kept hquiet.toVblkKept, hnone hquiet.pending⟩
  · have hrest : ∀ r' ∈ rest, vblkFormed r' := fun r' hr' =>
      h.formed r' (hlist ▸ List.mem_cons_of_mem r hr')
    rw [heq]
    exact ⟨(h.withList hrest).kept hkept, hnone hkept.pending⟩
  · have hrest : ∀ r' ∈ rest, vblkFormed r' := fun r' hr' =>
      h.formed r' (hlist ▸ List.mem_cons_of_mem r hr')
    have hformed : vblkFormed r := h.formed r (hlist ▸ List.mem_cons_self)
    have hlimited : ioctlLimited dev r = false := vblkTaken_spec htaken
    have hplace := hcareful r htaken hsent.accepts
    rw [hfind] at hplace
    have hinv := (h.withList hrest).sent hsent hformed hlimited hplace
    rw [heq]
    refine ⟨hinv, ?_⟩
    intro i r' hfree hr' hop hvm
    obtain ⟨hpend, hreq⟩ := pending_of_inFlight hr'
    have hi : i = slot := by
      by_contra hne
      rw [hsent.pending, update_of_ne hne] at hpend
      exact Bool.false_ne_true (hfree.symm.trans hpend)
    subst hi
    obtain rfl := Option.some.inj (hreq.symm.trans hsent.req)
    have hdrv : r'.op ≠ .drvIn := by simp [hop]
    have hflush : r'.op ≠ .flush := by simp [hop]
    have hproduct := vblkDescribes_product (hinv.placed.described i r' hr' hdrv hflush)
    rw [(hsent.blkReq hdrv hflush).2, hsent.config] at hproduct
    have hlength : r'.segments.flatten.length = r'.dataLen.toNat :=
      hformed.2 (by simp [Request.isRw, hop])
    have hslot : (dev'.reqs i).mempoolOffset = (dev.reqs i).mempoolOffset := by
      have hlt : i < dev'.maxRequests.toNat := by
        rw [hsent.maxRequests]
        exact hsent.lt
      rw [(hsent.ready.slots i hlt).mempoolOffset, (h.ready.slots i hsent.lt).mempoolOffset,
        hsent.config, hsent.maxIoctlRequests]
    have hcopy := copyFromSegments_spec (dev.reqs i).mempoolOffset.toNat r'.segments dev.sharedBuffer
      (Nat.zero_add _)
    have hbuffer := hsent.written hop hvm
    simp only [hproduct] at hbuffer
    rw [hlength, ← hbuffer, Nat.add_zero] at hcopy
    rw [vblkPoolRange, hslot]
    exact hcopy

theorem VblkDataInv.read (h : VblkDataInv ivmSize dev) (hsiErrRptInj : Bool) (resp : VsResponse) :
    VblkRead dev resp (completeBioReq hsiErrRptInj dev (some resp)).2.2 := by
  intro r hr hop hvm hended
  obtain ⟨hpend, hreq⟩ := pending_of_inFlight hr
  have hdrv : r.op ≠ .drvIn := by simp [hop]
  have hdescribes := h.placed.described _ r hr hdrv (by simp [hop])
  rw [completeBioReq_of_pending h.ready hsiErrRptInj (h.inRange _ hpend) hpend] at hended ⊢
  have hlength : r.segments.flatten.length = r.dataLen.toNat :=
    (h.carried _ r hr).formed.2 (by simp [Request.isRw, hop])
  by_cases hstatus : resp.status = 0
  · have heffects : (completeRequest dev (dev.reqs resp.reqId.toNat) resp).2 =
        handleNonIoctlResp dev (dev.reqs resp.reqId.toNat) r resp := by
      simp [completeRequest, hreq, hstatus, hop]
    simp only [heffects] at hended ⊢
    cases hfails : nonIoctlRespFails r (dev.reqs resp.reqId.toNat).vsReq.blkReq resp with
    | true => simp [handleNonIoctlResp, hfails, hvm, reqErrorHandler] at hended
    | false =>
      obtain ⟨hlengths, hflatten⟩ := copyToSegments_spec
        (dev.reqs resp.reqId.toNat).mempoolOffset.toNat r.segments dev.sharedBuffer (Nat.zero_add _)
      rw [hlength, Nat.add_zero] at hflatten
      rw [hlength] at hlengths
      refine ⟨_, ?_, hlengths, ?_⟩
      · simp [handleNonIoctlResp, hfails, hvm, hop, transferBytes, vblkDescribes_product hdescribes]
      · rw [hflatten, hdescribes.bytes]
        rfl
  · have heffects : (completeRequest dev (dev.reqs resp.reqId.toNat) resp).2 =
        [reqErrorHandler r, reqErrorHandler r] := by
      simp [completeRequest, hreq, hstatus, hop]
    simp [heffects, reqErrorHandler] at hended

theorem VblkDataInv.step {s s' : VblkState} {hsiErrRptInj : Bool} {op : VblkOp}
    (h : VblkDataInv ivmSize s.dev) (hcareful : vblkDataCareful s op)
    (hstep : vblkStep hsiErrRptInj s op = some s') :
    VblkDataInv ivmSize s'.dev ∧ VblkMoved hsiErrRptInj s s' op := by
  cases op with
  | request r alloc =>
    simp only [vblkStep] at hstep
    split at hstep
    · cases hstep
    cases hstep
    cases alloc with
    | false => exact ⟨h, trivial⟩
    | true =>
      refine ⟨h.withList ?_, trivial⟩
      intro r' hr'
      rcases List.mem_append.mp hr' with hold | hnew
      · exact h.formed r' hold
      · rw [List.mem_singleton.mp hnew]
        exact hcareful
  | work notified =>
    simp only [vblkStep] at hstep
    split at hstep
    · cases hstep
      exact ⟨h, trivial⟩
    · cases hstep
  | complete read =>
    simp only [vblkStep] at hstep
    split at hstep
    · cases hstep
      refine ⟨?_, ?_⟩
      · rcases completeBioReq_cases h.ready hsiErrRptInj read with hkept | ⟨slot, hfreed⟩
        · exact h.kept hkept
        · exact h.freed hfreed
      · cases read with
        | none => exact trivial
        | some resp => exact h.read hsiErrRptInj resp
    · cases hstep
  | submit env =>
    simp only [vblkStep] at hstep
    split at hstep
    · cases hstep
      exact h.submit hcareful
    · cases hstep
  | pool mem =>
    cases hstep
    refine ⟨?_, trivial⟩
    exact h.less ⟨⟨h.ready.max, h.ready.slots⟩, h.ready.queue, h.ready.active⟩ rfl rfl rfl rfl h.formed
      fun _ hi => ⟨hi, rfl⟩

theorem vblkDataInv_start {config : VsConfigInfo} {nframes : U32} {ivmSize : U64}
    (h : VblkSetUp config nframes ivmSize dev) : VblkDataInv ivmSize.toNat dev := by
  have hidle (i : ℕ) : vblkInFlight dev i = none := by
    rw [vblkInFlight, h.pending]
    rfl
  obtain ⟨hpool, hioctl⟩ := requestLimits_fits config nframes ivmSize
  refine ⟨h.ready, ⟨?_, ?_⟩, ?_, ?_, ?_, ?_⟩
  · rw [h.sameConfig, h.maxRequests]
    exact hpool
  · rw [h.sameConfig, h.maxIoctlRequests]
    intro hvm
    exact hioctl (h.vm.resolve_left hvm)
  · simp [h.pending]
  · simp [h.reqList]
  · intro i r hr
    rw [hidle] at hr
    cases hr
  · intro _ i j r r' _ hr
    rw [hidle] at hr
    cases hr

/-- **Data goes to the right place**: the requests in flight have ranges of the pool that are apart, their
frames describe their bytes, and the copies are exact, as long as the requests are those of a block layer,
their bytes end below `2 ^ 64`, the offsets of the slots do not wrap, and no ioctl of a device with
addresses of the VM is longer than a slice or shares one. -/
theorem vblk_data_placed (hsiErrRptInj : Bool) {config : VsConfigInfo} {nframes : U32}
    {ivmk : Option (U64 × (ℕ → U8))} {dev : VblkDev} (hdev : setupDevice config nframes ivmk = some dev)
    {s : VblkState} {ops : List VblkOp}
    (hcareful : AllSteps (vblkStep hsiErrRptInj) vblkDataCareful (vblkStart dev) ops)
    (hrun : run (vblkStep hsiErrRptInj) (vblkStart dev) ops = some s) :
    VblkPlaced ((ivmk.map Prod.fst).getD 0).toNat s.dev ∧
      ∀ op s', vblkDataCareful s op → vblkStep hsiErrRptInj s op = some s' → VblkMoved hsiErrRptInj s s' op := by
  have hinv := run_invariant_of_allSteps
    (I := fun s : VblkState => VblkDataInv ((ivmk.map Prod.fst).getD 0).toNat s.dev)
    (fun _ _ _ hs hP hstep => (hs.step hP hstep).1) (vblkDataInv_start (setupDevice_spec hdev))
    hcareful hrun
  exact ⟨hinv.placed, fun op s' hthis hstep => (hinv.step hthis hstep).2⟩

theorem vblk_data_placed_read : ∃ dev s s', setupDevice vblkSmallConfig 32 vblkSmallPool = some dev ∧
      run (vblkStep false) (vblkStart dev) (vblkReadOps ++ [.pool fun i => BitVec.ofNat 8 i]) = some s ∧
      vblkStep false s (.complete (some ⟨0, 0, 0, 1⟩)) = some s' ∧
      VblkPlaced 8192 s.dev ∧ VblkMoved false s s' (.complete (some ⟨0, 0, 0, 1⟩)) := by
  have hset : (setupDevice vblkSmallConfig 32 vblkSmallPool).isSome = true := by decide +kernel
  obtain ⟨dev, hdev⟩ := Option.isSome_iff_exists.mp hset
  have hrun : ((setupDevice vblkSmallConfig 32 vblkSmallPool).bind fun dev =>
      (run (vblkStep false) (vblkStart dev) (vblkReadOps ++ [.pool fun i => BitVec.ofNat 8 i])).bind fun s =>
          (vblkStep false s (.complete (some ⟨0, 0, 0, 1⟩))).map fun _ => true) = some true := by
    decide +kernel
  have hcareful : (setupDevice vblkSmallConfig 32 vblkSmallPool).all (fun dev =>
      decide (AllSteps (vblkStep false) vblkDataCareful (vblkStart dev)
        (vblkReadOps ++ [.pool fun i => BitVec.ofNat 8 i]))) = true := by decide +kernel
  rw [hdev, Option.bind_some] at hrun
  rw [hdev, Option.all_some, decide_eq_true_eq] at hcareful
  obtain ⟨s, hs, hstep⟩ := Option.bind_eq_some_iff.mp hrun
  obtain ⟨s', hs', -⟩ := Option.map_eq_some_iff.mp hstep
  obtain ⟨hplaced, hmoved⟩ := vblk_data_placed false hdev hcareful hs
  exact ⟨dev, s, s', hdev, hs, hs', hplaced, hmoved _ s' trivial hs'⟩

/-- A device with addresses of the VM, pass-through and two slices for ioctls. -/
def vblkUfsConfig : VsConfigInfo where
  blkConfig := ⟨512, 8, 8, VS_BLK_READ_OP_F ||| VS_BLK_WRITE_OP_F ||| VS_BLK_IOCTL_OP_F, 100, 1⟩
  physDev := VSC_DEV_UFS

def vblkIoctl (tag : ℕ) : Request where
  tag := tag
  op := .drvIn
  pos := 0
  dataLen := 0
  segments := []
  completionData := some ⟨0, some [1, 2, 3, 4], 4⟩

def vblkMixedOps : List VblkOp :=
  [.request (vblkIoctl 0) true, .request ⟨1, .read, 1, 512, [List.replicate 512 0], none⟩ true,
    .request (vblkIoctl 2) true, .work 0,
    .complete none, .submit ⟨true, true, some 0, 64⟩, .complete none, .submit ⟨true, true, some 0, 64⟩,
    .complete none, .submit ⟨true, true, some 0, 64⟩]

/-- The two ioctls have the same bytes of the pool. -/
theorem vblk_ioctls_overlap : ∃ dev s, setupDevice vblkUfsConfig 32 (some (0x100000, fun _ => 0)) = some dev ∧
      run (vblkStep false) (vblkStart dev) vblkMixedOps = some s ∧ ¬ VblkPlaced 0x100000 s.dev := by
  have hrun : ((setupDevice vblkUfsConfig 32 (some (0x100000, fun _ => 0))).bind fun dev =>
      (run (vblkStep false) (vblkStart dev) vblkMixedOps).map fun s =>
        (vblkInFlight s.dev 0, vblkInFlight s.dev 2, (s.dev.reqs 0).mempoolOffset,
          (s.dev.reqs 2).mempoolOffset)) = some (some (vblkIoctl 0), some (vblkIoctl 2), 0, 0) := by
    decide +kernel
  obtain ⟨dev, hdev, hrun⟩ := Option.bind_eq_some_iff.mp hrun
  obtain ⟨s, hs, heq⟩ := Option.map_eq_some_iff.mp hrun
  simp only [Prod.mk.injEq] at heq
  obtain ⟨hfirst, hlast, hoffset, hoffset'⟩ := heq
  refine ⟨dev, s, hdev, hs, ?_⟩
  intro h
  have hpool (tag : ℕ) : vblkUsesPool s.dev.config (vblkIoctl tag) = true := by
    simp [vblkUsesPool, vblkIoctl]
  have hapart := h.apart 0 2 _ _ (by omega) hfirst hlast (hpool 0) (hpool 2)
  simp [vblkPoolRange, hoffset, hoffset', Range.Disjoint, Range.stop, vblkPoolBytes, vblkIoctl] at hapart

end NvidiaOot.Analysis
