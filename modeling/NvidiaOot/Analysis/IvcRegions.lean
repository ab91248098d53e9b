import NvidiaOot.Analysis.IvcAdvance
import NvidiaOot.Analysis.IvcBus

/-!
# The two queues of a channel

The parameters are checked for the frames of the lower queue, and not for the header that stands before them.
-/

namespace NvidiaOot.Analysis

open Library Program Model

variable {rxBase txBase : U64} {nframes frameSize : U32}

/-! ## Regions -/

/-- The lower region ends before the upper one starts, and the upper one does not wrap. -/
theorem regionsApart_iff {a b t : ℕ} (ht : 0 < t) :
    RegionsApart a b t ↔ min a b + t ≤ max a b ∧ max a b + t ≤ 2 ^ 64 := by
  constructor
  · rintro ⟨ha, hb, hdisjoint⟩
    refine ⟨?_, by omega⟩
    by_contra hnot
    apply hdisjoint (max a b)
    omega
  · rintro ⟨hlower, hupper⟩
    refine ⟨by omega, by omega, fun x hx => ?_⟩
    omega

/-! ## Checks -/

theorem and_align_eq_zero_iff' (q : U64) : q &&& BitVec.ofNat 64 (ivcAlign - 1) = 0 ↔ q.toNat % 64 = 0 :=
  and_low_eq_zero_iff (k := 6) q (by simp [ivcAlign])

structure ParamsChecked (rxBase txBase : U64) (nframes frameSize : U32) : Prop where
  product : nframes.toNat * frameSize.toNat < 2 ^ 32
  rxAligned : rxBase.toNat % 64 = 0
  txAligned : txBase.toNat % 64 = 0
  frameAligned : frameSize.toNat % 64 = 0
  frames : (min rxBase.toNat txBase.toNat + nframes.toNat * frameSize.toNat) % 2 ^ 64 ≤
    max rxBase.toNat txBase.toNat

theorem toNat_frames (hproduct : nframes.toNat * frameSize.toNat < 2 ^ 32) :
    ((frameSize * nframes).setWidth 64).toNat = nframes.toNat * frameSize.toNat := by
  rw [BitVec.toNat_setWidth_of_le (by decide), BitVec.toNat_mul, Nat.mul_comm, Nat.mod_eq_of_lt hproduct]

theorem checkIvcParams_checked (h : checkIvcParams rxBase txBase nframes frameSize = 0) :
    ParamsChecked rxBase txBase nframes frameSize := by
  have hproduct := checkIvcParams_product h
  have hframes := toNat_frames hproduct
  have hlt := BitVec.lt_def (x := rxBase) (y := txBase)
  simp only [checkIvcParams] at h
  split at h
  · cases h
  split at h
  · cases h
  rename_i hrx
  split at h
  · cases h
  rename_i htx
  split at h
  · cases h
  rename_i hsize
  refine ⟨hproduct, (and_align_eq_zero_iff' rxBase).mp (not_not.mp hrx),
    (and_align_eq_zero_iff' txBase).mp (not_not.mp htx), (and_align_eq_zero_iff frameSize).mp (not_not.mp hsize),
    ?_⟩
  split at h
  · rename_i hlower
    split at h
    · cases h
    rename_i hframe
    rw [gt_iff_lt, BitVec.not_lt, BitVec.le_def, BitVec.toNat_add, hframes] at hframe
    rw [min_eq_left hlower.le, max_eq_right hlower.le]
    exact hframe
  rename_i hupper
  split at h
  · cases h
  rename_i hframe
  rw [gt_iff_lt, BitVec.not_lt, BitVec.le_def, BitVec.toNat_add, hframes] at hframe
  rw [hlt, Nat.not_lt] at hupper
  rw [min_eq_right hupper, max_eq_left hupper]
  exact hframe

theorem multiplicationSafe_of_lt (h : nframes.toNat * frameSize.toNat < 2 ^ 32) :
    isU32U32U32MultiplicationSafe nframes frameSize = true := by
  unfold isU32U32U32MultiplicationSafe
  split
  · rfl
  rename_i hne
  have hpos : 0 < frameSize.toNat := by
    apply Nat.pos_of_ne_zero
    intro hzero
    exact hne (Or.inr (BitVec.eq_of_toNat_eq hzero))
  rw [decide_eq_true_eq, ge_iff_le, BitVec.le_def, BitVec.toNat_udiv, BitVec.toNat_allOnes,
    Nat.le_div_iff_mul_le hpos]
  omega

/-! ## Sizes -/

section

variable (h : ParamsChecked rxBase txBase nframes frameSize)

include h

theorem ParamsChecked.area_mod :
    (nframes.toNat * frameSize.toNat) % 64 = 0 := by
  rw [Nat.mul_mod, h.frameAligned]
  simp

theorem ParamsChecked.toNat_mul :
    (nframes * frameSize).toNat = nframes.toNat * frameSize.toNat := by
  rw [BitVec.toNat_mul, Nat.mod_eq_of_lt h.product]

/-- The size of a queue can be computed exactly when header and frames have less than `2 ^ 32` bytes. -/
theorem ParamsChecked.totalQueueSize :
    (nframes.toNat * frameSize.toNat + 128 < 2 ^ 32 →
      ∃ total, tegraIvcTotalQueueSize (nframes * frameSize) = .ok total ∧
        total.toNat = nframes.toNat * frameSize.toNat + 128) ∧ (¬ nframes.toNat * frameSize.toNat + 128 < 2 ^ 32 →
      tegraIvcTotalQueueSize (nframes * frameSize) = .error .safeAddU32) := by
  have hmul := h.toNat_mul
  have haligned : ¬ nframes * frameSize &&& BitVec.ofNat 32 (ivcAlign - 1) ≠ 0 := by
    rw [not_not, and_align_eq_zero_iff, hmul]
    exact h.area_mod
  have hheader : (BitVec.ofNat 32 sizeofIvcChannelHeader).toNat = 128 := by simp [sizeofIvcChannelHeader]
  have hsafe := isU32AdditionSafe_iff (a := nframes * frameSize) (b := BitVec.ofNat 32 sizeofIvcChannelHeader)
  rw [hmul, hheader] at hsafe
  unfold tegraIvcTotalQueueSize
  rw [if_neg haligned]
  constructor
  · intro hlt
    rw [hsafe.mpr hlt]
    refine ⟨_, rfl, ?_⟩
    rw [BitVec.toNat_add, hmul, hheader, Nat.mod_eq_of_lt hlt]
  · intro hge
    rw [Bool.eq_false_iff.mpr (mt hsafe.mp hge)]
    rfl

end

/-! ## Initialisation -/

theorem tegraIvcInit_rejected (h : checkIvcParams rxBase txBase nframes frameSize ≠ 0) (ivc : Ivc)
    (peerDevice : Option PeerDevice) : tegraIvcInit ivc rxBase txBase nframes frameSize peerDevice =
      .ok (checkIvcParams rxBase txBase nframes frameSize, ivc) := by
  simp only [tegraIvcInit, tegraIvcInitBody]
  rw [if_pos h]

section

variable (h : ParamsChecked rxBase txBase nframes frameSize)

include h

section

variable (hcheck : checkIvcParams rxBase txBase nframes frameSize = 0)

include hcheck

theorem tegraIvcInit_bug
    (hbug : ¬ nframes.toNat * frameSize.toNat + 128 < 2 ^ 32) (ivc : Ivc) (peerDevice : Option PeerDevice) :
    tegraIvcInit ivc rxBase txBase nframes frameSize peerDevice = .error .safeAddU32 := by
  simp only [tegraIvcInit, tegraIvcInitBody]
  rw [if_neg (not_not.mpr hcheck), multiplicationSafe_of_lt h.product, if_neg (by simp), h.totalQueueSize.2 hbug]

/-- Without `BUG()` there is a result, which is an error code for frames of more than `INT_MAX` bytes. -/
theorem tegraIvcInit_returns
    (hsize : nframes.toNat * frameSize.toNat + 128 < 2 ^ 32) (ivc : Ivc) (peerDevice : Option PeerDevice) :
    ∃ ret ivc', tegraIvcInit ivc rxBase txBase nframes frameSize peerDevice = .ok (ret, ivc') ∧
      (¬ frameSize.toNat < 2 ^ 31 → ret = - e2BIG) := by
  obtain ⟨total, htotal, -⟩ := h.totalQueueSize.1 hsize
  simp only [tegraIvcInit, tegraIvcInitBody]
  rw [if_neg (not_not.mpr hcheck), multiplicationSafe_of_lt h.product, if_neg (by simp), htotal]
  by_cases hmax : frameSize.toNat > 2 ^ 31 - 1
  · simp only [hmax, if_true]
    exact ⟨_, _, rfl, fun _ => rfl⟩
  simp only [hmax, if_false]
  split
  · exact ⟨_, _, rfl, fun hnot => absurd (by omega) hnot⟩
  · exact ⟨_, _, rfl, fun hnot => absurd (by omega) hnot⟩

theorem tegraIvcInit_local
    (hsize : nframes.toNat * frameSize.toNat + 128 < 2 ^ 32) (hmax : frameSize.toNat < 2 ^ 31) (ivc : Ivc) :
    ∃ ivc', tegraIvcInit ivc rxBase txBase nframes frameSize none = .ok (0, ivc') := by
  obtain ⟨total, htotal, -⟩ := h.totalQueueSize.1 hsize
  have hmax' : ¬ frameSize.toNat > 2 ^ 31 - 1 := by omega
  simp only [tegraIvcInit, tegraIvcInitBody]
  rw [if_neg (not_not.mpr hcheck), multiplicationSafe_of_lt h.product, if_neg (by simp), htotal]
  simp only [hmax', if_false, mapHandles]
  exact ⟨_, rfl⟩

end

end

/-- A channel gets two queues apart from each other, and no `BUG()` is reached, if and only if parameters that
pass the checks leave room for a header: frames of both sizes that are left out would make the queue exceed 32
bits, the upper queue must end in the address space, and the distance of the queues must not be that of the
frames alone, or of the frames and half a header. -/
theorem init_keeps_queues_apart_iff : InitKeepsQueuesApart rxBase txBase nframes frameSize ↔
      (checkIvcParams rxBase txBase nframes frameSize = 0 →
        nframes.toNat * frameSize.toNat ≠ 2 ^ 32 - 128 ∧ nframes.toNat * frameSize.toNat ≠ 2 ^ 32 - 64 ∧
        (frameSize.toNat < 2 ^ 31 →
          max rxBase.toNat txBase.toNat - min rxBase.toNat txBase.toNat ≠ nframes.toNat * frameSize.toNat ∧
          max rxBase.toNat txBase.toNat - min rxBase.toNat txBase.toNat ≠ nframes.toNat * frameSize.toNat + 64 ∧
          max rxBase.toNat txBase.toNat + (nframes.toNat * frameSize.toNat + 128) ≤ 2 ^ 64)) := by
  by_cases hcheck : checkIvcParams rxBase txBase nframes frameSize = 0
  swap
  · simp only [hcheck, false_implies, iff_true]
    intro ivc peerDevice
    rw [tegraIvcInit_rejected hcheck]
    refine ⟨⟨_, rfl⟩, fun ivc' h => ?_⟩
    exact absurd (Prod.mk.inj (Except.ok.inj h)).1 hcheck
  have h := checkIvcParams_checked hcheck
  obtain ⟨hproduct, hrx, htx, -, hframes⟩ := id h
  have harea := h.area_mod
  simp only [hcheck, true_implies]
  by_cases hsize : nframes.toNat * frameSize.toNat + 128 < 2 ^ 32
  swap
  · constructor
    · intro happart
      obtain ⟨x, hx⟩ := (happart ⟨0, 0, 0, 0, 0, 0, false, 0, 0⟩ none).1
      rw [tegraIvcInit_bug h hcheck hsize] at hx
      cases hx
    · rintro ⟨h128, h64, -⟩
      omega
  obtain ⟨total, htotal, hvalue⟩ := h.totalQueueSize.1 hsize
  have hpos : 0 < nframes.toNat * frameSize.toNat + 128 := by omega
  constructor
  · intro happart
    refine ⟨by omega, by omega, fun hmax => ?_⟩
    obtain ⟨ivc', hinit⟩ := tegraIvcInit_local h hcheck hsize hmax ⟨0, 0, 0, 0, 0, 0, false, 0, 0⟩
    obtain ⟨total', htotal', hregions⟩ := (happart _ none).2 ivc' hinit
    rw [htotal] at htotal'
    cases htotal'
    rw [hvalue, regionsApart_iff hpos] at hregions
    omega
  · rintro ⟨-, -, hroom⟩ ivc peerDevice
    obtain ⟨ret, ivc', hinit, hbig⟩ := tegraIvcInit_returns h hcheck hsize ivc peerDevice
    refine ⟨⟨_, hinit⟩, fun ivc'' hzero => ⟨total, htotal, ?_⟩⟩
    have hret : ret = 0 := by
      rw [hinit] at hzero
      exact (Prod.mk.inj (Except.ok.inj hzero)).1
    have hmax : frameSize.toNat < 2 ^ 31 := by
      by_contra hnot
      rw [hbig hnot] at hret
      simp [e2BIG] at hret
    rw [hvalue, regionsApart_iff hpos]
    omega

/-- The second queue starts where the frames of the first one would end without a header, and a queue of
`2 ^ 32 - 128` bytes of frames has no size. -/
theorem init_queues_overlap :
    ¬ InitKeepsQueuesApart 0x1000 0x10c0 3 64 ∧ ¬ InitKeepsQueuesApart 0 0x100000000 67108862 64 := by
  constructor
  · intro happart
    have hinit : (tegraIvcInit ⟨0, 0, 0, 0, 0, 0, false, 0, 0⟩ 0x1000 0x10c0 3 64 none) =
        .ok (0, ⟨0x1000, 0x10c0, 0, 0, 3, 64, false, 0, 0⟩) := by decide
    obtain ⟨total, htotal, hregions⟩ := (happart _ none).2 _ hinit
    cases htotal
    apply hregions.2.2 0x10c0
    decide
  · intro happart
    obtain ⟨x, hx⟩ := (happart ⟨0, 0, 0, 0, 0, 0, false, 0, 0⟩ none).1
    cases hx

end NvidiaOot.Analysis
