import NvidiaOot.Analysis.VblkRequests

/-!
# The slots of the virtual block device, step by step

Each slot in use is held by the worker, or its request was sent and is not answered, or its response is in
the channel.  Each request is on the list, was ended, is carried by the worker, or is in such a slot.
-/

namespace NvidiaOot.Analysis

open Library Program Model Function

variable {s : VblkPmState} {r : Request} {dev dev' : VblkDev} {stage : VblkStage} {resp : VsResponse} {slot : ℕ}

/-! ## Stages -/

def stageSlot : VblkStage → Option ℕ
  | .taking _ slot | .sending slot _ | .putting slot _ => some slot
  | _ => none

def stageFilling : VblkStage → Option ℕ
  | .taking _ slot | .sending slot _ => some slot
  | _ => none

def putNextCarried : VblkPutNext → Option Request
  | .failed r => some r
  | _ => none

/-- The request that the worker has taken from the list. -/
def stageCarried : VblkStage → Option Request
  | .sending _ r | .ending r => some r
  | .putting _ next | .testing next | .signalling next => putNextCarried next
  | _ => none

def putNextLooks : VblkPutNext → Bool
  | .noRequest completed => completed
  | _ => true

/-- The worker looks at the responses before it returns. -/
def stageLooks : VblkStage → Bool
  | .idle => false
  | .submitting completed | .reserving completed | .taking completed _ => completed
  | .putting _ next | .testing next | .signalling next => putNextLooks next
  | _ => true

/-- The worker has a slot in use, or reserves one. -/
def stageBusy : VblkStage → Bool
  | .reserving _ | .taking _ _ | .sending _ _ | .putting _ _ => true
  | _ => false

def stageSettled : VblkStage → Bool
  | .idle | .completing | .submitting _ => true
  | _ => false

/-- The worker has freed a slot, and decides whether suspend may go on. -/
def stageTests : VblkStage → Bool
  | .testing _ | .signalling _ => true
  | _ => false

section

variable (c : Bool)

@[simp] theorem loop_slot : stageSlot (VblkPmState.loop c) = none := by cases c <;> rfl

@[simp] theorem loop_filling : stageFilling (VblkPmState.loop c) = none := by
  cases c <;> rfl

@[simp] theorem loop_carried : stageCarried (VblkPmState.loop c) = none := by
  cases c <;> rfl

@[simp] theorem loop_looks : stageLooks (VblkPmState.loop c) = c := by cases c <;> rfl

@[simp] theorem loop_busy : stageBusy (VblkPmState.loop c) = false := by cases c <;> rfl

@[simp] theorem loop_settled : stageSettled (VblkPmState.loop c) = true := by
  cases c <;> rfl

end

section

variable (next : VblkPutNext)

@[simp] theorem afterPut_slot : stageSlot (VblkPmState.afterPut next) = none := by
  cases next with
  | completed => rfl
  | noRequest c => exact loop_slot c
  | failed r => rfl

@[simp] theorem afterPut_filling : stageFilling (VblkPmState.afterPut next) = none := by
  cases next with
  | completed => rfl
  | noRequest c => exact loop_filling c
  | failed r => rfl

@[simp] theorem afterPut_carried :
    stageCarried (VblkPmState.afterPut next) = putNextCarried next := by
  cases next with
  | completed => rfl
  | noRequest c => exact loop_carried c
  | failed r => rfl

@[simp] theorem afterPut_looks :
    stageLooks (VblkPmState.afterPut next) = putNextLooks next := by
  cases next with
  | completed => rfl
  | noRequest c => exact loop_looks c
  | failed r => rfl

@[simp] theorem afterPut_busy : stageBusy (VblkPmState.afterPut next) = false := by
  cases next with
  | completed => rfl
  | noRequest c => exact loop_busy c
  | failed r => rfl

end

theorem stageSettled_free (h : stageSettled stage = true) : stageSlot stage = none ∧ stageCarried stage = none := by
  cases stage <;> simp_all [stageSettled, stageSlot, stageCarried]

theorem stageBusy_of_slot (h : stageSlot stage = some slot) : stageBusy stage = true := by
  cases stage <;> simp_all [stageSlot, stageBusy]

/-! ## What the calls note -/

def endedTag : VblkEffect → Option ℕ
  | .ended tag _ => some tag
  | _ => none

def sentTag : VblkEffect → Option ℕ
  | .sent r _ => some r.tag
  | _ => none

def sentSlot : VblkEffect → Option ℕ
  | .sent _ frame => some frame.reqId.toNat
  | _ => none

theorem foldl_note_eq (effects : List VblkEffect) (s : VblkPmState) : effects.foldl VblkPmState.note s = { s with
      ended := (effects.filterMap endedTag).reverse ++ s.ended
      sent := (effects.filterMap sentTag).reverse ++ s.sent
      unanswered := (effects.filterMap sentSlot).reverse ++ s.unanswered } := by
  induction effects generalizing s with
  | nil => rfl
  | cons effect effects ih =>
    rw [List.foldl_cons, ih]
    cases effect <;> simp [VblkPmState.note, List.filterMap_cons, endedTag, sentTag, sentSlot]

theorem vblkPm_did_eq (s : VblkPmState) (dev : VblkDev) (effects : List VblkEffect) : s.did dev effects = { s with
      dev := dev
      ended := (effects.filterMap endedTag).reverse ++ s.ended
      sent := (effects.filterMap sentTag).reverse ++ s.sent
      unanswered := (effects.filterMap sentSlot).reverse ++ s.unanswered } :=
  foldl_note_eq effects { s with dev := dev }

theorem completeRequest_endedTag {vscReq : VscRequest} (hreq : vscReq.req = some r)
    (hioctl : r.op = .drvIn → dev.config.supports VS_BLK_IOCTL_OP_F = true) (resp : VsResponse) :
    r.tag ∈ (completeRequest dev vscReq resp).2.filterMap endedTag := by
  unfold completeRequest
  simp only [hreq]
  by_cases hstatus : resp.status = 0
  · simp only [if_pos hstatus]
    by_cases hop : r.op = .drvIn
    · simp [hioctl hop, hop, endedTag]
    simp only [hop, decide_false, Bool.and_false, Bool.false_eq_true, if_false, ne_eq, not_false_eq_true, if_true]
    unfold handleNonIoctlResp
    rw [List.filterMap_append, List.mem_append]
    right
    split <;> simp [endedTag, reqErrorHandler]
  simp only [if_neg hstatus]
  rw [List.filterMap_append, List.mem_append]
  right
  simp [endedTag, reqErrorHandler]

/-- A response that names no slot in use changes the status of an injected error at most. -/
theorem completeResponse_of_none (hsiErrRptInj : Bool) (hnone : vblkGetReqBySrNum dev resp.reqId = none) :
    ∃ status, completeResponse hsiErrRptInj dev resp =
      (none, { dev with hsierrorStatus := status }, [.answered resp]) := by
  unfold completeResponse
  split
  · exact ⟨resp.respStatus, rfl⟩
  · rw [hnone]
    exact ⟨dev.hsierrorStatus, rfl⟩

/-- What the handling of a response does: nothing, or the request of a slot in use is ended. -/
theorem completeResponse_cases (h : VblkSlotted dev) (hsiErrRptInj : Bool) (resp : VsResponse) :
    (¬ (resp.reqId.toNat < dev.maxRequests.toNat ∧ dev.pendingReqs resp.reqId.toNat = true) ∧
      ∃ status, completeResponse hsiErrRptInj dev resp =
        (none, { dev with hsierrorStatus := status }, [.answered resp])) ∨
    (resp.reqId.toNat < dev.maxRequests.toNat ∧ dev.pendingReqs resp.reqId.toNat = true) ∧
      ∃ ioctls effects, completeResponse hsiErrRptInj dev resp =
          (some resp.reqId.toNat, { dev with inflightIoctlReqs := ioctls }, effects) ∧
        ∀ r, (dev.reqs resp.reqId.toNat).req = some r →
          (r.op = .drvIn → dev.config.supports VS_BLK_IOCTL_OP_F = true) →
          r.tag ∈ effects.filterMap endedTag := by
  by_cases hslot : resp.reqId.toNat < dev.maxRequests.toNat ∧ dev.pendingReqs resp.reqId.toNat = true
  · right
    obtain ⟨ioctls, hdev⟩ := completeRequest_dev dev (dev.reqs resp.reqId.toNat) resp
    have hsome : vblkGetReqBySrNum dev resp.reqId = some resp.reqId.toNat := by
      rw [vblkGetReqBySrNum_eq h, if_pos hslot]
    refine ⟨hslot, ioctls, .answered resp :: (completeRequest dev (dev.reqs resp.reqId.toNat) resp).2, ?_, ?_⟩
    · simp only [completeResponse, if_neg (not_hsiErrorMagic h hsiErrRptInj hslot.1), hsome, hdev]
    · intro r hr hioctl
      exact completeRequest_endedTag hr hioctl resp
  · left
    refine ⟨hslot, completeResponse_of_none hsiErrRptInj ?_⟩
    rw [vblkGetReqBySrNum_eq h, if_neg hslot]

/-- What the frame of a request that was taken from the list leads to: nothing but the contents of the
slot, or the slot holds the request and the frame was sent. -/
theorem submitFill_cases (env : VblkSubmitEnv) (h : VblkSlotted dev)
    (hlt : slot < dev.maxRequests.toNat) (hreqId : (dev.reqs slot).vsReq.reqId = BitVec.ofNat 32 slot)
    (r : Request) :
    (∃ dev' effects, submitFill env dev slot r = (false, dev', effects) ∧ VblkOnSlot slot dev dev') ∨
    ∃ dev' effects, submitFill env dev slot r = (true, dev', effects) ∧ VblkOnSlot slot dev dev' ∧
      (dev'.reqs slot).req = some r ∧ (r.op = .drvIn → dev.config.supports VS_BLK_IOCTL_OP_F = true) ∧
      (0 ≤ env.ivcWrite → slot ∈ effects.filterMap sentSlot) := by
  have hmap : ∃ addr dev1 effects, (if usesSg dev.config r then mapSg env dev slot
      else (some 0, dev, [])) = (addr, dev1, effects) ∧ VblkOnSlot slot dev dev1 ∧
      (addr.isSome = true → (dev1.reqs slot).vsReq = (dev.reqs slot).vsReq) := by
    split
    · rcases mapSg_spec env dev slot with ⟨dev1, heq, hon, -⟩ |
        ⟨addr, dev1, heq, -, -, hon, -, -, -, hframe, -⟩
      · exact ⟨none, dev1, [], heq, hon, by simp⟩
      · exact ⟨some addr, dev1, _, heq, hon, fun _ => hframe⟩
    · exact ⟨some 0, dev, [], rfl, VblkOnSlot.refl slot dev, fun _ => rfl⟩
  obtain ⟨addr, dev1, effects, heq, hon, hframe⟩ := hmap
  unfold submitFill
  rw [heq]
  cases addr with
  | none => exact Or.inl ⟨dev1, effects, rfl, hon⟩
  | some addr =>
    have hlen : (dev1.reqs slot).mempoolLen = maxIoBytes dev1.config := by
      rw [hon.same.mempoolLen, hon.config]
      exact vscSlot_mempoolLen h hlt
    rcases fillVsReq_cases r addr hlen with ⟨-, hfill⟩ | ⟨dev2, hfill, hfilled⟩
    · left
      simp only [hfill]
      exact ⟨dev1, effects, rfl, hon⟩
    have hon' := hon.trans hfilled.onSlot
    simp only [hfill]
    by_cases hwrite : env.ivcWrite = 0
    · left
      rw [if_pos hwrite]
      exact ⟨dev2, effects, rfl, hon'⟩
    right
    rw [if_neg hwrite]
    refine ⟨dev2, _, rfl, hon', hfilled.req, ?_, ?_⟩
    · intro hop
      rw [← hon.config]
      exact vblkAccepts_ioctlOp hfilled.accepts hop
    · intro hsent
      have hid : (dev2.reqs slot).vsReq.reqId.toNat = slot := by
        rw [hfilled.reqId, hframe rfl, hreqId, BitVec.toNat_ofNat]
        exact Nat.mod_eq_of_lt (hlt.trans dev.maxRequests.isLt)
      rw [if_pos (by omega), List.filterMap_append, List.mem_append]
      right
      simp [sentSlot, hid]

/-! ## The slots in use -/

/-- The request of a slot was sent, and the worker has not handled its response. -/
def vblkOutstanding (s : VblkPmState) (i : ℕ) : Prop :=
  s.dev.pendingReqs i = true ∧ stageSlot s.stage ≠ some i

/-- The server has not answered the request of a slot, or its response is in the channel. -/
def vblkAwaited (s : VblkPmState) (i : ℕ) : Prop :=
  i ∈ s.unanswered ∨ ∃ resp ∈ s.rx, resp.reqId.toNat = i

/-- A request is on the list, or was ended, or the worker carries it. -/
def vblkAtRest (s : VblkPmState) (tag : ℕ) : Prop :=
  tag ∈ s.dev.reqList.map Request.tag ∨ tag ∈ s.ended ∨
    ∃ r, stageCarried s.stage = some r ∧ r.tag = tag

structure VblkPmSlots (s : VblkPmState) : Prop where
  slotted : VblkSlotted s.dev
  inRange : ∀ i, s.dev.pendingReqs i = true → i < s.dev.maxRequests.toNat
  inflight : s.dev.inflightReqs.toNat = VblkState.slotCount s.dev.pendingReqs
  held : ∀ slot, stageSlot s.stage = some slot → s.dev.pendingReqs slot = true
  reqId : ∀ slot, stageFilling s.stage = some slot →
    (s.dev.reqs slot).vsReq.reqId = BitVec.ofNat 32 slot
  req : ∀ i, vblkOutstanding s i → ∃ r, (s.dev.reqs i).req = some r ∧
    (r.op = .drvIn → s.dev.config.supports VS_BLK_IOCTL_OP_F = true)
  awaited : ∀ i, vblkOutstanding s i → vblkAwaited s i
  kept : ∀ tag ∈ s.queued, vblkAtRest s tag ∨
    ∃ i r, vblkOutstanding s i ∧ (s.dev.reqs i).req = some r ∧ r.tag = tag

theorem VblkPmSlots.free (h : VblkPmSlots s) (hzero : s.dev.inflightReqs = 0)
    (i : ℕ) : s.dev.pendingReqs i = false := by
  by_contra hi
  have hpending : s.dev.pendingReqs i = true := by simpa using hi
  have hcount : VblkState.slotCount s.dev.pendingReqs = 0 := by
    rw [← h.inflight, hzero]
    simp
  have hlt : i < MAX_VSC_REQS.toNat := (h.inRange i hpending).trans_le h.slotted.max
  have hpos := le_countP_range hlt hpending
  unfold VblkState.slotCount at hcount
  omega

theorem VblkPmSlots.inflight_ne (h : VblkPmSlots s) {i : ℕ}
    (hi : s.dev.pendingReqs i = true) : s.dev.inflightReqs ≠ 0 := by
  intro hzero
  rw [h.free hzero i] at hi
  cases hi

/-- While the count is not zero and the worker holds no slot, some request is in flight. -/
theorem VblkPmSlots.exists_inFlight (h : VblkPmSlots s)
    (hne : s.dev.inflightReqs ≠ 0) (hslot : stageSlot s.stage = none) : ∃ i, vblkOutstanding s i := by
  by_contra hnone
  apply hne
  have hfree (i : ℕ) : s.dev.pendingReqs i = (fun _ => false) i := by
    by_contra hi
    exact hnone ⟨i, by simpa using hi, by simp [hslot]⟩
  apply BitVec.eq_of_toNat_eq
  rw [h.inflight, funext hfree, slotCount_false]
  simp

theorem VblkPmSlots.keep {s' : VblkPmState} (h : VblkPmSlots s) (hslotted : VblkSlotted s'.dev)
    (hrange : ∀ i, s'.dev.pendingReqs i = true → i < s'.dev.maxRequests.toNat)
    (hinflight : s'.dev.inflightReqs.toNat = VblkState.slotCount s'.dev.pendingReqs)
    (hheld : ∀ slot, stageSlot s'.stage = some slot → s'.dev.pendingReqs slot = true)
    (hreqId : ∀ slot, stageFilling s'.stage = some slot → (s'.dev.reqs slot).vsReq.reqId = BitVec.ofNat 32 slot)
    (hconfig : s'.dev.config = s.dev.config) (hflight : ∀ i, vblkOutstanding s' i ↔ vblkOutstanding s i)
    (hreqs : ∀ i, vblkOutstanding s i → s'.dev.reqs i = s.dev.reqs i)
    (hawaited : ∀ i, vblkOutstanding s i → vblkAwaited s i → vblkAwaited s' i)
    (hqueued : ∀ tag ∈ s'.queued, tag ∈ s.queued ∨ vblkAtRest s' tag)
    (hrest : ∀ tag, vblkAtRest s tag → vblkAtRest s' tag) : VblkPmSlots s' where
  slotted := hslotted
  inRange := hrange
  inflight := hinflight
  held := hheld
  reqId := hreqId
  req i hi := by
    have hi' := (hflight i).mp hi
    rw [hreqs i hi', hconfig]
    exact h.req i hi'
  awaited i hi := by
    have hi' := (hflight i).mp hi
    exact hawaited i hi' (h.awaited i hi')
  kept tag htag := by
    rcases hqueued tag htag with hold | hnew
    · rcases h.kept tag hold with hat | ⟨i, r, hi, hr, heq⟩
      · exact Or.inl (hrest tag hat)
      · right
        refine ⟨i, r, (hflight i).mpr hi, ?_, heq⟩
        rw [hreqs i hi]
        exact hr
    · exact Or.inl hnew

/-- The slots and the list of the device are as they were. -/
structure VblkSameSlots (dev dev' : VblkDev) : Prop where
  config : dev'.config = dev.config
  maxRequests : dev'.maxRequests = dev.maxRequests
  maxIoctlRequests : dev'.maxIoctlRequests = dev.maxIoctlRequests
  reqs : dev'.reqs = dev.reqs
  pending : dev'.pendingReqs = dev.pendingReqs
  inflight : dev'.inflightReqs = dev.inflightReqs
  reqList : dev'.reqList = dev.reqList

theorem VblkSameSlots.refl (dev : VblkDev) : VblkSameSlots dev dev :=
  ⟨rfl, rfl, rfl, rfl, rfl, rfl, rfl⟩

theorem VblkPmSlots.move {s' : VblkPmState} (h : VblkPmSlots s) (hsame : VblkSameSlots s.dev s'.dev)
    (hslot : stageSlot s'.stage = stageSlot s.stage)
    (hfilling : ∀ slot, stageFilling s'.stage = some slot → stageFilling s.stage = some slot)
    (hcarried : stageCarried s'.stage = stageCarried s.stage) (hqueued : s'.queued = s.queued)
    (hended : s'.ended = s.ended)
    (hawaited : ∀ i, vblkOutstanding s i → vblkAwaited s i → vblkAwaited s' i) : VblkPmSlots s' := by
  apply h.keep
  · refine ⟨?_, ?_⟩
    · rw [hsame.maxRequests]
      exact h.slotted.max
    · rw [hsame.maxRequests, hsame.config, hsame.maxIoctlRequests, hsame.reqs]
      exact h.slotted.slots
  · rw [hsame.pending, hsame.maxRequests]
    exact h.inRange
  · rw [hsame.inflight, hsame.pending]
    exact h.inflight
  · rw [hslot, hsame.pending]
    exact h.held
  · intro slot hs
    rw [hsame.reqs]
    exact h.reqId slot (hfilling slot hs)
  · exact hsame.config
  · intro i
    unfold vblkOutstanding
    rw [hsame.pending, hslot]
  · intro i _
    rw [hsame.reqs]
  · exact hawaited
  · rw [hqueued]
    exact fun tag htag => Or.inl htag
  · intro tag
    unfold vblkAtRest
    rw [hsame.reqList, hended, hcarried]
    exact id

/-! ## A step of the worker and the slots -/

section

variable (h : VblkPmSlots s)

include h

theorem VblkPmSlots.goto (hslot : stageSlot stage = stageSlot s.stage)
    (hfilling : ∀ slot, stageFilling stage = some slot → stageFilling s.stage = some slot)
    (hcarried : stageCarried stage = stageCarried s.stage) : VblkPmSlots (s.goto stage) :=
  h.move (VblkSameSlots.refl s.dev) hslot hfilling hcarried rfl rfl fun _ _ => id

theorem VblkPmSlots.drop (hstage : s.stage = .completing) {rest : List VsResponse} (hrx : s.rx = resp :: rest)
    (hfree : ¬ (resp.reqId.toNat < s.dev.maxRequests.toNat ∧
      s.dev.pendingReqs resp.reqId.toNat = true)) (status : ℤ) :
    VblkPmSlots ((({ s with rx := rest }).did { s.dev with hsierrorStatus := status }
      [.answered resp]).goto (.submitting true)) := by
  apply h.move
  · exact ⟨rfl, rfl, rfl, rfl, rfl, rfl, rfl⟩
  · rw [hstage]
    rfl
  · nofun
  · rw [hstage]
    rfl
  · rfl
  · rfl
  · intro i hi hawaited
    apply Or.imp_right _ hawaited
    rintro ⟨resp', hmem, rfl⟩
    rw [hrx] at hmem
    rcases List.mem_cons.mp hmem with rfl | hmem
    · exact absurd ⟨h.inRange _ hi.1, hi.1⟩ hfree
    · exact ⟨resp', hmem, rfl⟩

/-- The response to the request of a slot is handled, and the worker holds the slot. -/
theorem VblkPmSlots.complete (hstage : s.stage = .completing) {rest : List VsResponse} (hrx : s.rx = resp :: rest)
    (hpending : s.dev.pendingReqs resp.reqId.toNat = true) (ioctls : U32) {effects : List VblkEffect}
    (hended : ∀ r, (s.dev.reqs resp.reqId.toNat).req = some r →
      (r.op = .drvIn → s.dev.config.supports VS_BLK_IOCTL_OP_F = true) → r.tag ∈ effects.filterMap endedTag) :
    VblkPmSlots ((({ s with rx := rest }).did { s.dev with inflightIoctlReqs := ioctls }
      effects).goto (.putting resp.reqId.toNat .completed)) := by
  have hnone : stageSlot s.stage = none := by
    rw [hstage]
    rfl
  rw [vblkPm_did_eq]
  have hflight (i : ℕ) (hi : s.dev.pendingReqs i = true) : vblkOutstanding s i := ⟨hi, by simp [hnone]⟩
  refine ⟨⟨h.slotted.max, h.slotted.slots⟩, h.inRange, h.inflight, ?_, ?_, ?_, ?_, ?_⟩
  · intro slot hs
    cases hs
    exact hpending
  · nofun
  · exact fun i hi => h.req i (hflight i hi.1)
  · intro i hi
    rcases h.awaited i (hflight i hi.1) with hun | ⟨resp', hmem, heq⟩
    · exact Or.inl (List.mem_append_right _ hun)
    right
    rw [hrx] at hmem
    rcases List.mem_cons.mp hmem with rfl | hmem
    · exact absurd (congrArg some heq) hi.2
    · exact ⟨resp', hmem, heq⟩
  · intro tag htag
    rcases h.kept tag htag with (hlist | hend | ⟨r, hr, -⟩) | ⟨i, r, hi, hr, rfl⟩
    · exact Or.inl (Or.inl hlist)
    · exact Or.inl (Or.inr (Or.inl (List.mem_append_right _ hend)))
    · rw [hstage] at hr
      cases hr
    · by_cases heq : i = resp.reqId.toNat
      · subst heq
        obtain ⟨r', hr', hioctl⟩ := h.req _ hi
        obtain rfl : r = r' := Option.some.inj (hr.symm.trans hr')
        left
        right
        left
        exact List.mem_append_left _ (List.mem_reverse.mpr (hended r hr hioctl))
      · right
        exact ⟨i, r, ⟨hi.1, fun hs => heq (Option.some.inj hs).symm⟩, hr, rfl⟩

theorem VblkPmSlots.reserve {c : Bool} (hstage : s.stage = .reserving c)
    (hres : VblkReserved slot s.dev dev') : VblkPmSlots ((s.did dev' []).goto (.taking c slot)) := by
  have hlt : slot < MAX_VSC_REQS.toNat := hres.lt.trans_le h.slotted.max
  have hpending : dev'.pendingReqs = update s.dev.pendingReqs slot true := by rw [hres.eq]
  have hself : dev'.pendingReqs slot = true := by simp [hpending]
  have hother (i : ℕ) (hi : i ≠ slot) : dev'.pendingReqs i = s.dev.pendingReqs i := by
    rw [hpending]
    exact update_of_ne hi _ _
  have hreqs (i : ℕ) (hi : i ≠ slot) : dev'.reqs i = s.dev.reqs i := by
    rw [hres.eq]
    exact update_of_ne hi _ _
  have hne (i : ℕ) (hi : s.dev.pendingReqs i = true) : i ≠ slot := by
    rintro rfl
    rw [hres.free] at hi
    cases hi
  apply h.keep (hres.slotted h.slotted)
  · intro i hi
    have hmax : dev'.maxRequests = s.dev.maxRequests := by rw [hres.eq]
    show i < dev'.maxRequests.toNat
    rw [hmax]
    by_cases heq : i = slot
    · rw [heq]
      exact hres.lt
    · exact h.inRange i ((hother i heq).symm.trans hi)
  · have hinflight : dev'.inflightReqs = s.dev.inflightReqs + 1 := by rw [hres.eq]
    show dev'.inflightReqs.toNat = VblkState.slotCount dev'.pendingReqs
    rw [hinflight, toNat_succ_of_count h.inflight (slotCount_le _)]
    have hcount := slotCount_of_eq_off hlt hother
    rw [hres.free, hself] at hcount
    simpa using hcount.symm
  · intro i hs
    cases hs
    exact hself
  · intro i hs
    cases hs
    show (dev'.reqs slot).vsReq.reqId = BitVec.ofNat 32 slot
    rw [hres.eq]
    simp
  · show dev'.config = s.dev.config
    rw [hres.eq]
  · intro i
    constructor
    · rintro ⟨hi, hs⟩
      have heq : i ≠ slot := fun heq => hs (congrArg some heq.symm)
      exact ⟨(hother i heq).symm.trans hi, by simp [hstage, stageSlot]⟩
    · rintro ⟨hi, -⟩
      exact ⟨(hother i (hne i hi)).trans hi, fun hs => hne i hi (Option.some.inj hs).symm⟩
  · exact fun i hi => hreqs i (hne i hi.1)
  · exact fun i _ => id
  · exact fun tag htag => Or.inl htag
  · intro tag hat
    have hlist : dev'.reqList = s.dev.reqList := by rw [hres.eq]
    rcases hat with hmem | hend | ⟨r, hr, -⟩
    · left
      show tag ∈ dev'.reqList.map Request.tag
      rwa [hlist]
    · exact Or.inr (Or.inl hend)
    · rw [hstage] at hr
      cases hr

theorem VblkPmSlots.take {c : Bool} (hstage : s.stage = .taking c slot) {rest : List Request}
    (hlist : s.dev.reqList = r :: rest) :
    VblkPmSlots ((s.did { s.dev with reqList := rest } []).goto (.sending slot r)) := by
  have hslot : stageSlot s.stage = some slot := by
    rw [hstage]
    rfl
  apply h.keep
  · exact ⟨h.slotted.max, h.slotted.slots⟩
  · exact h.inRange
  · exact h.inflight
  · intro i hs
    exact h.held i (hslot.trans hs)
  · intro i hs
    apply h.reqId i
    rw [hstage]
    exact hs
  · rfl
  · intro i
    unfold vblkOutstanding
    rw [hslot]
    rfl
  · exact fun i _ => rfl
  · exact fun i _ => id
  · exact fun tag htag => Or.inl htag
  · intro tag hat
    rcases hat with hmem | hend | ⟨r', hr', -⟩
    · rw [hlist, List.map_cons] at hmem
      rcases List.mem_cons.mp hmem with rfl | hmem
      · exact Or.inr (Or.inr ⟨r, rfl, rfl⟩)
      · exact Or.inl hmem
    · exact Or.inr (Or.inl hend)
    · rw [hstage] at hr'
      cases hr'

theorem VblkPmSlots.onSlot (hon : VblkOnSlot slot s.dev dev') :
    VblkSlotted dev' ∧ (∀ i, dev'.pendingReqs i = true → i < dev'.maxRequests.toNat) ∧
      dev'.inflightReqs.toNat = VblkState.slotCount dev'.pendingReqs := by
  refine ⟨hon.slotted h.slotted, ?_, ?_⟩
  · rw [hon.pending, hon.maxRequests]
    exact h.inRange
  · rw [hon.inflight, hon.pending]
    exact h.inflight

theorem VblkPmSlots.refuse
    (hstage : s.stage = .sending slot r) (hon : VblkOnSlot slot s.dev dev') (effects : List VblkEffect) :
    VblkPmSlots ((s.did dev' effects).goto (.putting slot (.failed r))) := by
  have hslot : stageSlot s.stage = some slot := by
    rw [hstage]
    rfl
  obtain ⟨hslotted, hrange, hinflight⟩ := h.onSlot hon
  rw [vblkPm_did_eq]
  apply h.keep hslotted hrange hinflight
  · intro i hs
    show dev'.pendingReqs i = true
    rw [hon.pending]
    exact h.held i (hslot.trans hs)
  · nofun
  · exact hon.config
  · intro i
    unfold vblkOutstanding
    rw [hslot]
    show dev'.pendingReqs i = true ∧ some slot ≠ some i ↔ _
    rw [hon.pending]
  · intro i hi
    apply hon.others i
    rintro rfl
    exact hi.2 hslot
  · exact fun i _ => Or.imp_left (List.mem_append_right _)
  · exact fun tag htag => Or.inl htag
  · intro tag hat
    rcases hat with hmem | hend | ⟨r', hr', heq⟩
    · left
      show tag ∈ dev'.reqList.map Request.tag
      rwa [hon.reqList]
    · exact Or.inr (Or.inl (List.mem_append_right _ hend))
    · right
      right
      rw [hstage] at hr'
      exact ⟨r', hr', heq⟩

theorem VblkPmSlots.send (hstage : s.stage = .sending slot r) (hon : VblkOnSlot slot s.dev dev')
    (hreq : (dev'.reqs slot).req = some r) (hioctl : r.op = .drvIn → s.dev.config.supports VS_BLK_IOCTL_OP_F = true)
    {effects : List VblkEffect} (hsent : slot ∈ effects.filterMap sentSlot) :
    VblkPmSlots ((s.did dev' effects).goto .completing) := by
  have hslot : stageSlot s.stage = some slot := by
    rw [hstage]
    rfl
  have hflight (i : ℕ) (hi : dev'.pendingReqs i = true) (hne : i ≠ slot) : vblkOutstanding s i := by
    rw [hon.pending] at hi
    refine ⟨hi, ?_⟩
    rw [hslot]
    exact fun heq => hne (Option.some.inj heq).symm
  obtain ⟨hslotted, hrange, hinflight⟩ := h.onSlot hon
  rw [vblkPm_did_eq]
  refine ⟨hslotted, hrange, hinflight, ?_, ?_, ?_, ?_, ?_⟩
  · nofun
  · nofun
  · intro i hi
    show ∃ r', (dev'.reqs i).req = some r' ∧
      (r'.op = .drvIn → dev'.config.supports VS_BLK_IOCTL_OP_F = true)
    rw [hon.config]
    by_cases heq : i = slot
    · subst heq
      exact ⟨r, hreq, hioctl⟩
    · rw [hon.others i heq]
      exact h.req i (hflight i hi.1 heq)
  · intro i hi
    by_cases heq : i = slot
    · subst heq
      exact Or.inl (List.mem_append_left _ (List.mem_reverse.mpr hsent))
    · exact (h.awaited i (hflight i hi.1 heq)).imp_left (List.mem_append_right _)
  · intro tag htag
    have hnew (i : ℕ) (hi : s.dev.pendingReqs i = true) : dev'.pendingReqs i = true := by
      rwa [hon.pending]
    rcases h.kept tag htag with (hmem | hend | ⟨r', hr', heq⟩) | ⟨i, r', hi, hr', heq⟩
    · left
      left
      show tag ∈ dev'.reqList.map Request.tag
      rwa [hon.reqList]
    · exact Or.inl (Or.inr (Or.inl (List.mem_append_right _ hend)))
    · right
      rw [hstage] at hr'
      cases hr'
      exact ⟨slot, r, ⟨hnew slot (h.held slot hslot), by simp [VblkPmState.goto, stageSlot]⟩, hreq, heq⟩
    · right
      refine ⟨i, r', ⟨hnew i hi.1, by simp [VblkPmState.goto, stageSlot]⟩, ?_, heq⟩
      show (dev'.reqs i).req = some r'
      rw [hon.others i fun hs => hi.2 (hs ▸ hslot)]
      exact hr'

theorem VblkPmSlots.release {next : VblkPutNext} (hstage : s.stage = .putting slot next) :
    VblkPmSlots ((s.did (vblkRelease s.dev slot) []).goto (.testing next)) := by
  have hslot : stageSlot s.stage = some slot := by
    rw [hstage]
    rfl
  have hpending := h.held slot hslot
  have hlt := h.inRange slot hpending
  have heq := vblkRelease_eq h.slotted hlt
  have hsame : VscSameSlot (s.dev.reqs slot)
      { s.dev.reqs slot with vsReq := VsRequest.zero, req := none } := ⟨rfl, rfl, rfl, rfl⟩
  have hclear := (vblkOnSlot_update s.dev slot hsame).slotted h.slotted
  have hother (i : ℕ) (hi : i ≠ slot) :
      update s.dev.pendingReqs slot false i = s.dev.pendingReqs i :=
    update_of_ne hi _ _
  rw [heq]
  apply h.keep
  · exact ⟨hclear.max, hclear.slots⟩
  · intro i hi
    apply h.inRange i
    rw [← hother i]
    · exact hi
    · rintro rfl
      simp [VblkPmState.goto, VblkPmState.did] at hi
  · have hcount := slotCount_of_eq_off (hlt.trans_le h.slotted.max) hother
    rw [hpending, update_self, Bool.toNat_true, Bool.toNat_false, Nat.add_zero] at hcount
    show (s.dev.inflightReqs - 1).toNat =
      VblkState.slotCount (update s.dev.pendingReqs slot false)
    rw [toNat_pred_of_count h.inflight (by omega)]
    omega
  · nofun
  · nofun
  · rfl
  · intro i
    constructor
    · rintro ⟨hi, -⟩
      by_cases his : i = slot
      · subst his
        simp [VblkPmState.goto, VblkPmState.did] at hi
      · refine ⟨(hother i his).symm.trans hi, ?_⟩
        rw [hslot]
        exact fun hs => his (Option.some.inj hs).symm
    · rintro ⟨hi, hs⟩
      have his : i ≠ slot := by
        rintro rfl
        exact hs hslot
      exact ⟨(hother i his).trans hi, by simp [VblkPmState.goto, stageSlot]⟩
  · intro i hi
    have his : i ≠ slot := by
      rintro rfl
      exact hi.2 hslot
    exact update_of_ne his _ _
  · exact fun i _ => id
  · exact fun tag htag => Or.inl htag
  · intro tag hat
    rcases hat with hmem | hend | ⟨r, hr, htag⟩
    · exact Or.inl hmem
    · exact Or.inr (Or.inl hend)
    · rw [hstage] at hr
      exact Or.inr (Or.inr ⟨r, hr, htag⟩)

theorem VblkPmSlots.finish (hstage : s.stage = .ending r) :
    VblkPmSlots ((s.did s.dev [reqErrorHandler r]).goto .completing) := by
  apply h.keep
  · exact h.slotted
  · exact h.inRange
  · exact h.inflight
  · nofun
  · nofun
  · rfl
  · intro i
    unfold vblkOutstanding
    rw [hstage]
    rfl
  · exact fun i _ => rfl
  · exact fun i _ => id
  · exact fun tag htag => Or.inl htag
  · intro tag hat
    rcases hat with hmem | hend | ⟨r', hr', rfl⟩
    · exact Or.inl hmem
    · exact Or.inr (Or.inl (List.mem_cons_of_mem _ hend))
    · rw [hstage] at hr'
      cases hr'
      exact Or.inr (Or.inl List.mem_cons_self)

end

end NvidiaOot.Analysis
