import NvidiaOot.Analysis.VblkCalls

/-!
# Requests of the virtual block device end once

The accounts of a device that was set up are in order, and every call that the driver handles to its end
keeps them in order.
-/

namespace NvidiaOot.Analysis

open Library Program Model Function

variable {s : VblkState} {r : Request} {dev' : VblkDev} {slot : ℕ}

/-! ## The accounts -/

/-- The accounts are in order, and each request in flight is in the slot that its frame names. -/
structure VblkInv (s : VblkState) : Prop extends VblkSound s where
  ready : VblkReady s.dev
  inRange : ∀ i, s.dev.pendingReqs i = true → i < s.dev.maxRequests.toNat
  held : ∀ i r, s.ledger.awaiting i = some r → (s.dev.reqs i).req = some r
  ioctlOp : ∀ i r, s.ledger.awaiting i = some r → r.op = .drvIn →
    s.dev.config.supports VS_BLK_IOCTL_OP_F = true
  numBlks : ∀ i r, s.ledger.awaiting i = some r → r.op ≠ .drvIn → r.op ≠ .flush →
    (s.dev.reqs i).vsReq.blkReq.numBlks = blkCount s.dev.config r
  sgLst : ∀ i r, s.ledger.awaiting i = some r → usesSg s.dev.config r = true →
    ∃ sg ∈ s.ledger.mapped, (s.dev.reqs i).sgLst = some sg
  mappedLt : ∀ sg ∈ s.ledger.mapped, sg < s.dev.sgAllocs
  unmappedLt : ∀ sg ∈ s.ledger.unmapped, sg < s.dev.sgAllocs
  freedLt : ∀ sg ∈ s.ledger.freed, sg < s.dev.sgAllocs

theorem slotCount_of_eq_off {p q : ℕ → Bool} (hlt : slot < MAX_VSC_REQS.toNat) (h : ∀ j, j ≠ slot → q j = p j) :
    VblkState.slotCount q + (p slot).toNat = VblkState.slotCount p + (q slot).toNat :=
  countP_range_of_eq_off hlt h

theorem slotCount_congr {p q : ℕ → Bool} (h : ∀ j, q j = p j) : VblkState.slotCount q = VblkState.slotCount p :=
  countP_range_congr h

theorem slotCount_le (p : ℕ → Bool) : VblkState.slotCount p ≤ 32 := by
  have hle := List.countP_le_length (p := p) (l := List.range MAX_VSC_REQS.toNat)
  exact hle.trans (by simp [MAX_VSC_REQS])

theorem slotCount_false : VblkState.slotCount (fun _ => false) = 0 := by
  simp [VblkState.slotCount]

theorem toNat_succ_of_count {x : U32} {n : ℕ} (hx : x.toNat = n) (hn : n ≤ 32) : (x + 1).toNat = n + 1 := by
  have hone : (1 : U32).toNat = 1 := BitVec.toNat_one (by omega)
  rw [BitVec.toNat_add, hx, hone]
  exact Nat.mod_eq_of_lt (by omega)

theorem toNat_pred_of_count {x : U32} {n : ℕ} (hx : x.toNat = n) (hn : 1 ≤ n) : (x - 1).toNat = n - 1 := by
  have hone : (1 : U32).toNat = 1 := BitVec.toNat_one (by omega)
  rw [BitVec.toNat_sub_of_le, hx, hone]
  rw [BitVec.le_def, hone]
  omega

theorem awaiting_of_free (h : VblkSound s) {i : ℕ}
    (hfree : s.dev.pendingReqs i = false) : s.ledger.awaiting i = none := by
  have hsome := h.pending i
  rw [hfree] at hsome
  simpa using hsome.symm

theorem pending_of_awaiting (h : VblkSound s) {i : ℕ}
    (hr : s.ledger.awaiting i = some r) : s.dev.pendingReqs i = true := by
  rw [h.pending i, hr]
  rfl

theorem VblkInv.quiet (h : VblkInv s) (hq : VblkQuiet s.dev dev')
    (worker : VblkWorker) : VblkInv { s with dev := dev', worker := worker } := by
  have hreqs (i : ℕ) (r : Request) (hr : s.ledger.awaiting i = some r) : dev'.reqs i = s.dev.reqs i :=
    hq.inUse i (pending_of_awaiting h.toVblkSound hr)
  have hheld (sg i : ℕ) : VblkState.sgHeld { s with dev := dev', worker := worker } sg i =
      s.sgHeld sg i := by
    unfold VblkState.sgHeld
    cases hr : s.ledger.awaiting i with
    | none => rfl
    | some r => rw [hreqs i r hr, hq.config]
  refine ⟨⟨?_, h.success, ?_, ?_, ?_, ?_, ?_⟩, hq.ready, ?_, ?_, ?_, ?_, ?_, ?_, ?_, ?_⟩
  · simpa only [hq.reqList] using h.once
  · simpa only [hq.pending] using h.pending
  · simpa only [hq.inflight, hq.pending] using h.inflight
  · simpa only [hq.inflightIoctl] using h.inflightIoctl
  · intro sg hsg
    rw [slotCount_congr (hheld sg)]
    exact h.unmapped sg hsg
  · intro sg hsg
    rw [slotCount_congr (hheld sg)]
    exact h.freed sg hsg
  · simpa only [hq.pending, hq.maxRequests] using h.inRange
  · intro i r hr
    simpa only [hreqs i r hr] using h.held i r hr
  · simpa only [hq.config] using h.ioctlOp
  · intro i r hr
    simpa only [hreqs i r hr, hq.config] using h.numBlks i r hr
  · intro i r hr
    simpa only [hreqs i r hr, hq.config] using h.sgLst i r hr
  · exact fun sg hsg => (h.mappedLt sg hsg).trans_le hq.sgAllocs
  · exact fun sg hsg => (h.unmappedLt sg hsg).trans_le hq.sgAllocs
  · exact fun sg hsg => (h.freedLt sg hsg).trans_le hq.sgAllocs

theorem VblkInv.request (h : VblkInv s) (hr : r.tag ∉ s.queued) : VblkInv { s with
      dev := { s.dev with reqList := s.dev.reqList ++ [r] }
      queued := r.tag :: s.queued } := by
  refine { h with once := ?_, ready := ⟨⟨h.ready.max, h.ready.slots⟩, h.ready.queue, h.ready.active⟩ }
  intro tag
  have honce := h.once tag
  simp only [List.map_append, List.map_cons, List.map_nil, List.count_append, List.mem_cons]
  by_cases htag : tag = r.tag
  · subst htag
    rw [if_neg hr] at honce
    simp only [List.count_cons_self, List.count_nil, true_or, if_true]
    omega
  · have hcount : [r.tag].count tag = 0 := by simp [Ne.symm htag]
    simp only [htag, false_or, hcount]
    omega

theorem VblkInv.reject (h : VblkInv s) {rest : List Request} (hlist : s.dev.reqList = r :: rest) : VblkInv { s with
      dev := { s.dev with reqList := rest }
      ledger := { s.ledger with ended := (r.tag, .ioerr) :: s.ledger.ended } } := by
  refine { h with
    once := ?_
    success := ?_
    ready := ⟨⟨h.ready.max, h.ready.slots⟩, h.ready.queue, h.ready.active⟩ }
  · intro tag
    rw [← h.once tag, hlist]
    simp only [VblkLedger.endings, List.map_cons, List.count_cons]
    omega
  · intro tag hmem
    rcases List.mem_cons.mp hmem with heq | hmem
    · cases heq
    · exact h.success tag hmem

theorem vblkAccepts_ioctlOp {dev : VblkDev} (h : vblkAccepts dev r = true)
    (hop : r.op = .drvIn) : dev.config.supports VS_BLK_IOCTL_OP_F = true := by
  unfold vblkAccepts at h
  rw [if_pos hop] at h
  exact (Bool.and_eq_true_iff.mp h).1

theorem VblkInv.send (h : VblkInv s) {rest : List Request} (hlist : s.dev.reqList = r :: rest)
    (hsent : VblkSent { s.dev with reqList := rest } dev' slot r) (worker : VblkWorker) : VblkInv { s with
      dev := dev'
      ledger := { s.ledger with
        awaiting := update s.ledger.awaiting slot (some r)
        mapped := (if usesSg s.dev.config r then [s.dev.sgAllocs] else []) ++ s.ledger.mapped }
      worker := worker } := by
  have hconfig : dev'.config = s.dev.config := hsent.config
  have hlt : slot < MAX_VSC_REQS.toNat := hsent.lt.trans_le h.ready.max
  have hnone : s.ledger.awaiting slot = none := awaiting_of_free h.toVblkSound hsent.free
  have hother (j : ℕ) (hj : j ≠ slot) :
      update s.ledger.awaiting slot (some r) j = s.ledger.awaiting j :=
    update_of_ne hj _ _
  have hreqs (j : ℕ) (hj : j ≠ slot) : dev'.reqs j = s.dev.reqs j := hsent.others j hj
  -- What one more request in flight does to a count of those in flight.
  have hcount (p : Request → Bool) :
      VblkState.slotCount (fun j => (update s.ledger.awaiting slot (some r) j).any p) =
      VblkState.slotCount (fun j => (s.ledger.awaiting j).any p) + (p r).toNat := by
    have hoff := slotCount_of_eq_off hlt (p := fun j => (s.ledger.awaiting j).any p)
      (q := fun j => (update s.ledger.awaiting slot (some r) j).any p)
      (fun j hj => by rw [hother j hj])
    simpa [hnone] using hoff
  have hallocs : dev'.sgAllocs = if usesSg s.dev.config r then s.dev.sgAllocs + 1 else s.dev.sgAllocs :=
    hsent.sgAllocs
  have hheld (sg : ℕ) :
      VblkState.slotCount (fun j =>
        (update s.ledger.awaiting slot (some r) j).any (usesSg dev'.config) &&
          decide ((dev'.reqs j).sgLst = some sg)) =
      VblkState.slotCount (s.sgHeld sg) +
        (usesSg s.dev.config r && decide (s.dev.sgAllocs = sg)).toNat := by
    have hoff := slotCount_of_eq_off hlt (p := s.sgHeld sg)
      (q := fun j => (update s.ledger.awaiting slot (some r) j).any (usesSg dev'.config) &&
        decide ((dev'.reqs j).sgLst = some sg))
      (fun j hj => by rw [hother j hj, hreqs j hj, hconfig]; rfl)
    have hbefore : s.sgHeld sg slot = false := by simp [VblkState.sgHeld, hnone]
    rw [hbefore, Bool.toNat_false, Nat.add_zero] at hoff
    rw [hoff, update_self, hconfig]
    cases huse : usesSg s.dev.config r with
    | false => simp [huse]
    | true =>
      have hsg : (dev'.reqs slot).sgLst = some s.dev.sgAllocs := hsent.sgLst huse
      simp [huse, hsg]
  -- No slot holds a scatter list that was not mapped.
  have hfresh : VblkState.slotCount (s.sgHeld s.dev.sgAllocs) = 0 := by
    rw [slotCount_congr (q := s.sgHeld s.dev.sgAllocs) (p := fun _ => false), slotCount_false]
    intro j
    cases hj : s.ledger.awaiting j with
    | none => simp [VblkState.sgHeld, hj]
    | some r' =>
      cases huse : usesSg s.dev.config r' with
      | false => simp [VblkState.sgHeld, hj, huse]
      | true =>
        obtain ⟨sg, hmem, hsg⟩ := h.sgLst j r' hj huse
        have := (h.mappedLt sg hmem).ne
        simp [VblkState.sgHeld, hj, huse, hsg, this]
  have hlists (l : List ℕ) (hl : ∀ sg ∈ l, sg < s.dev.sgAllocs)
      (hold : ∀ sg ∈ s.ledger.mapped, VblkState.slotCount (s.sgHeld sg) + l.count sg = 1) (sg : ℕ)
      (hsg : sg ∈ (if usesSg s.dev.config r then [s.dev.sgAllocs] else []) ++ s.ledger.mapped) :
      VblkState.slotCount (s.sgHeld sg) + (usesSg s.dev.config r && decide (s.dev.sgAllocs = sg)).toNat +
        l.count sg = 1 := by
    by_cases hnew : s.dev.sgAllocs = sg
    · subst hnew
      have hnotin : s.dev.sgAllocs ∉ l := fun hmem => lt_irrefl _ (hl _ hmem)
      rw [hfresh, List.count_eq_zero_of_not_mem hnotin]
      cases huse : usesSg s.dev.config r with
      | true => simp
      | false =>
        rw [huse] at hsg
        exact absurd (h.mappedLt _ (by simpa using hsg)) (lt_irrefl _)
    have hmem : sg ∈ s.ledger.mapped := by
      rcases List.mem_append.mp hsg with hmem | hmem
      · split at hmem
        · exact absurd (List.mem_singleton.mp hmem).symm hnew
        · cases hmem
      · exact hmem
    simpa [hnew] using hold sg hmem
  refine ⟨⟨?_, h.success, ?_, ?_, ?_, ?_, ?_⟩, hsent.ready, ?_, ?_, ?_, ?_, ?_, ?_, ?_, ?_⟩
  · intro tag
    have honce := h.once tag
    rw [hlist, List.map_cons, List.count_cons] at honce
    have hrest : dev'.reqList = rest := hsent.reqList
    simp only [hcount, hrest]
    rw [← honce]
    by_cases htag : r.tag = tag
    · simp [htag, VblkLedger.endings]
      omega
    · simp [htag, VblkLedger.endings]
  · intro j
    have hpending : dev'.pendingReqs = update s.dev.pendingReqs slot true := hsent.pending
    simp only [hpending]
    by_cases hj : j = slot
    · subst hj
      simp
    · rw [update_of_ne hj, hother j hj]
      exact h.pending j
  · have hpending : dev'.pendingReqs = update s.dev.pendingReqs slot true := hsent.pending
    have hinflight : dev'.inflightReqs = s.dev.inflightReqs + 1 := hsent.inflight
    have hoff := slotCount_of_eq_off hlt (p := s.dev.pendingReqs) (q := dev'.pendingReqs)
      (fun j hj => by rw [hpending, update_of_ne hj])
    have hfree : s.dev.pendingReqs slot = false := hsent.free
    rw [hfree, hpending, update_self, Bool.toNat_false, Bool.toNat_true] at hoff
    simp only [hinflight, hpending]
    rw [toNat_succ_of_count h.inflight (slotCount_le _)]
    omega
  · have hioctl : dev'.inflightIoctlReqs =
        if r.op = .drvIn then s.dev.inflightIoctlReqs + 1 else s.dev.inflightIoctlReqs :=
      hsent.inflightIoctl
    simp only [hcount, hioctl]
    split_ifs with hop
    · rw [toNat_succ_of_count h.inflightIoctl (slotCount_le _)]
      simp [hop]
    · rw [h.inflightIoctl]
      simp [hop]
  · intro sg hsg
    exact (congrArg (· + s.ledger.unmapped.count sg) (hheld sg)).trans
      (hlists s.ledger.unmapped h.unmappedLt h.unmapped sg hsg)
  · intro sg hsg
    exact (congrArg (· + s.ledger.freed.count sg) (hheld sg)).trans
      (hlists s.ledger.freed h.freedLt h.freed sg hsg)
  · intro j hj
    have hmax : dev'.maxRequests = s.dev.maxRequests := hsent.maxRequests
    have hpending : dev'.pendingReqs = update s.dev.pendingReqs slot true := hsent.pending
    simp only [hmax]
    by_cases heq : j = slot
    · subst heq
      exact hsent.lt
    · simp only [hpending, update_of_ne heq] at hj
      exact h.inRange j hj
  · intro j r' hr'
    by_cases heq : j = slot
    · subst heq
      simp only [update_self] at hr'
      exact hsent.req.trans hr'
    · simp only [hother j heq] at hr'
      simp only [hreqs j heq]
      exact h.held j r' hr'
  · intro j r' hr' hop
    simp only [hconfig]
    by_cases heq : j = slot
    · subst heq
      simp only [update_self, Option.some.injEq] at hr'
      subst hr'
      exact vblkAccepts_ioctlOp hsent.accepts hop
    · simp only [hother j heq] at hr'
      exact h.ioctlOp j r' hr' hop
  · intro j r' hr' hop hflush
    simp only [hconfig]
    by_cases heq : j = slot
    · subst heq
      simp only [update_self, Option.some.injEq] at hr'
      subst hr'
      exact (hsent.blkReq hop hflush).2
    · simp only [hother j heq] at hr'
      simp only [hreqs j heq]
      exact h.numBlks j r' hr' hop hflush
  · intro j r' hr' huse
    simp only [hconfig] at huse
    by_cases heq : j = slot
    · subst heq
      simp only [update_self, Option.some.injEq] at hr'
      subst hr'
      exact ⟨s.dev.sgAllocs, by simp [huse], hsent.sgLst huse⟩
    · simp only [hother j heq] at hr'
      obtain ⟨sg, hmem, hsg⟩ := h.sgLst j r' hr' huse
      exact ⟨sg, List.mem_append_right _ hmem, by simpa only [hreqs j heq] using hsg⟩
  · intro sg hmem
    simp only [hallocs]
    rcases List.mem_append.mp hmem with hmem | hmem
    · split at hmem
      · rw [if_pos ‹_›, List.mem_singleton.mp hmem]
        exact Nat.lt_succ_self _
      · cases hmem
    · have := h.mappedLt sg hmem
      split <;> omega
  · intro sg hmem
    have := h.unmappedLt sg hmem
    simp only [hallocs]
    split <;> omega
  · intro sg hmem
    have := h.freedLt sg hmem
    simp only [hallocs]
    split <;> omega

theorem count_vblkSgOf (dev : VblkDev) (slot : ℕ) (r : Request) (sg : ℕ) : (vblkSgOf dev slot r).count sg =
      (usesSg dev.config r && decide ((dev.reqs slot).sgLst = some sg)).toNat := by
  unfold vblkSgOf
  cases usesSg dev.config r with
  | false => rfl
  | true =>
    cases (dev.reqs slot).sgLst with
    | none => rfl
    | some sg' => by_cases heq : sg' = sg <;> simp [heq]

theorem VblkInv.finish (h : VblkInv s)
    (hr : s.ledger.awaiting slot = some r) (hdone : VblkDone s.dev dev' slot r) {status : BlkStatus}
    {answeredOk : List ℕ} (hold : ∀ tag ∈ s.ledger.answeredOk, tag ∈ answeredOk)
    (hok : status = .ok → r.tag ∈ answeredOk) (worker : VblkWorker) : VblkInv { s with
      dev := dev'
      ledger := { s.ledger with
        awaiting := update s.ledger.awaiting slot none
        answeredOk := answeredOk
        ended := (r.tag, status) :: s.ledger.ended
        unmapped := vblkSgOf s.dev slot r ++ s.ledger.unmapped
        freed := vblkSgOf s.dev slot r ++ s.ledger.freed }
      worker := worker } := by
  have hpend := pending_of_awaiting h.toVblkSound hr
  have hrange := h.inRange slot hpend
  have hlt : slot < MAX_VSC_REQS.toNat := hrange.trans_le h.ready.max
  have hother (j : ℕ) (hj : j ≠ slot) :
      update s.ledger.awaiting slot none j = s.ledger.awaiting j :=
    update_of_ne hj _ _
  -- What is awaited now was awaited before, in another slot.
  have hback {j : ℕ} {r' : Request}
      (hr' : update s.ledger.awaiting slot none j = some r') :
      j ≠ slot ∧ s.ledger.awaiting j = some r' := by
    by_cases hj : j = slot
    · subst hj
      simp at hr'
    · exact ⟨hj, (hother j hj) ▸ hr'⟩
  have hcount (p : Request → Bool) :
      VblkState.slotCount (fun j => (update s.ledger.awaiting slot none j).any p) +
        (p r).toNat = VblkState.slotCount fun j => (s.ledger.awaiting j).any p := by
    have hoff := slotCount_of_eq_off hlt (p := fun j => (s.ledger.awaiting j).any p)
      (q := fun j => (update s.ledger.awaiting slot none j).any p)
      (fun j hj => by rw [hother j hj])
    simpa [hr] using hoff
  have hheld (sg : ℕ) :
      VblkState.slotCount (fun j =>
        (update s.ledger.awaiting slot none j).any (usesSg dev'.config) &&
          decide ((dev'.reqs j).sgLst = some sg)) + (vblkSgOf s.dev slot r).count sg =
      VblkState.slotCount (s.sgHeld sg) := by
    have hoff := slotCount_of_eq_off hlt (p := s.sgHeld sg)
      (q := fun j => (update s.ledger.awaiting slot none j).any (usesSg dev'.config) &&
        decide ((dev'.reqs j).sgLst = some sg))
      (fun j hj => by rw [hother j hj, hdone.others j hj, hdone.config]; rfl)
    rw [count_vblkSgOf]
    simpa [VblkState.sgHeld, hr] using hoff
  have hcond (l : List ℕ) (sg : ℕ) (hlist : VblkState.slotCount (s.sgHeld sg) + l.count sg = 1) :
      VblkState.slotCount (fun j =>
        (update s.ledger.awaiting slot none j).any (usesSg dev'.config) &&
          decide ((dev'.reqs j).sgLst = some sg)) + (vblkSgOf s.dev slot r ++ l).count sg = 1 := by
    have := hheld sg
    rw [List.count_append]
    omega
  have hgiven (sg : ℕ) (hsg : sg ∈ vblkSgOf s.dev slot r) : sg < s.dev.sgAllocs := by
    unfold vblkSgOf at hsg
    split at hsg
    · obtain ⟨sg', hmem, hsg'⟩ := h.sgLst slot r hr ‹_›
      rw [hsg'] at hsg
      rw [List.mem_singleton.mp hsg]
      exact h.mappedLt sg' hmem
    · cases hsg
  refine ⟨⟨?_, ?_, ?_, ?_, ?_, ?_, ?_⟩, hdone.ready, ?_, ?_, ?_, ?_, ?_, ?_, ?_, ?_⟩
  · intro tag
    have honce := h.once tag
    have htags := hcount fun r => r.tag = tag
    simp only [hdone.reqList, VblkLedger.endings, List.map_cons, List.count_cons] at honce ⊢
    rw [← honce, ← htags]
    by_cases htag : r.tag = tag
    · simp [htag]
      omega
    · simp [htag]
  · intro tag hmem
    rcases List.mem_cons.mp hmem with heq | hmem
    · cases heq
      exact hok rfl
    · exact hold tag (h.success tag hmem)
  · intro j
    simp only [hdone.pending]
    by_cases hj : j = slot
    · subst hj
      simp
    · rw [update_of_ne hj, hother j hj]
      exact h.pending j
  · have hoff := slotCount_of_eq_off hlt (p := s.dev.pendingReqs) (q := dev'.pendingReqs)
      (fun j hj => by rw [hdone.pending, update_of_ne hj])
    rw [hpend, hdone.pending, update_self, Bool.toNat_false, Bool.toNat_true] at hoff
    simp only [hdone.inflight, hdone.pending]
    rw [toNat_pred_of_count h.inflight (by omega)]
    omega
  · have hops := hcount fun r => r.op = .drvIn
    simp only [hdone.inflightIoctl]
    by_cases hop : r.op = .drvIn
    · rw [decide_eq_true hop, Bool.toNat_true] at hops
      rw [if_pos hop, toNat_pred_of_count h.inflightIoctl (by omega)]
      omega
    · rw [decide_eq_false hop, Bool.toNat_false] at hops
      rw [if_neg hop, h.inflightIoctl]
      omega
  · exact fun sg hsg => hcond s.ledger.unmapped sg (h.unmapped sg hsg)
  · exact fun sg hsg => hcond s.ledger.freed sg (h.freed sg hsg)
  · intro j hj
    simp only [hdone.maxRequests]
    by_cases heq : j = slot
    · exact heq ▸ hrange
    · simp only [hdone.pending, update_of_ne heq] at hj
      exact h.inRange j hj
  · intro j r' hr'
    obtain ⟨hj, hr'⟩ := hback hr'
    simpa only [hdone.others j hj] using h.held j r' hr'
  · intro j r' hr'
    obtain ⟨hj, hr'⟩ := hback hr'
    simpa only [hdone.config] using h.ioctlOp j r' hr'
  · intro j r' hr'
    obtain ⟨hj, hr'⟩ := hback hr'
    simpa only [hdone.others j hj, hdone.config] using h.numBlks j r' hr'
  · intro j r' hr'
    obtain ⟨hj, hr'⟩ := hback hr'
    simpa only [hdone.others j hj, hdone.config] using h.sgLst j r' hr'
  · intro sg hmem
    simp only [hdone.sgAllocs]
    exact h.mappedLt sg hmem
  · intro sg hmem
    simp only [hdone.sgAllocs]
    exact (List.mem_append.mp hmem).elim (hgiven sg) (h.unmappedLt sg)
  · intro sg hmem
    simp only [hdone.sgAllocs]
    exact (List.mem_append.mp hmem).elim (hgiven sg) (h.freedLt sg)

/-! ## Runs -/

theorem VblkInv.submit (h : VblkInv s) {env : VblkSubmitEnv}
    (hcareful : ∀ r ∈ vblkTaken env s.dev, vblkSubmitCareful env s.dev r) (worker : VblkWorker) :
    VblkInv (s.call (submitBioReq env s.dev).2 worker) := by
  rcases submitBioReq_cases env h.ready with ⟨dev', heq, hquiet⟩ | ⟨r, rest, hlist, htaken,
    ⟨dev', effects, heq, hkept, hundo⟩ | ⟨slot, dev', -, heq, hsent, hpos⟩⟩
  · rw [heq]
    exact h.quiet hquiet worker
  · obtain ⟨heffects, hioctl⟩ := hundo (hcareful r htaken)
    rw [heq, heffects]
    exact (h.reject hlist).quiet ⟨hkept, hioctl⟩ worker
  · rw [heq, if_pos (hpos (hcareful r htaken))]
    have hslot : (dev'.reqs slot).vsReq.reqId.toNat = slot := by
      have hlt := hsent.lt.trans s.dev.maxRequests.isLt
      rw [hsent.reqId, BitVec.toNat_ofNat]
      exact Nat.mod_eq_of_lt hlt
    have hsend := h.send hlist hsent worker
    rw [← hslot] at hsend
    cases huse : usesSg s.dev.config r with
    | false | true =>
      rw [huse] at hsend
      exact hsend

theorem VblkInv.complete (h : VblkInv s) {hsiErrRptInj : Bool}
    {read : Option VsResponse} (hcareful : vblkCareful s (.complete read)) (worker : VblkWorker) :
    VblkInv (s.call (completeBioReq hsiErrRptInj s.dev read).2 worker) := by
  cases read with
  | none => exact h.quiet (VblkQuiet.refl h.ready) worker
  | some resp =>
    cases hr : s.ledger.awaiting resp.reqId.toNat with
    | none =>
      -- The response names no request in flight.
      have hanswer : s.ledger.answer s.dev.config resp = s.ledger := by
        simp only [VblkLedger.answer, hr]
      have hnone : vblkGetReqBySrNum s.dev resp.reqId = none := by
        rw [vblkGetReqBySrNum_eq h.ready.toVblkSlotted, h.pending, hr]
        simp
      obtain ⟨dev', heq, hquiet⟩ := completeBioReq_of_free h.ready hsiErrRptInj hnone
      have hinv := h.quiet hquiet worker
      rw [← hanswer] at hinv
      rw [heq]
      exact hinv
    | some r =>
      have hstatus : resp.status = 0 := hcareful (by rw [hr]; rfl)
      have hpending := pending_of_awaiting h.toVblkSound hr
      have hlt := h.inRange _ hpending
      obtain ⟨status, hgood, hends, hdone⟩ := completeRequest_ends h.ready hlt hpending
        (h.held _ r hr) (h.ioctlOp _ r hr) (h.numBlks _ r hr) hstatus
      rw [completeBioReq_of_pending h.ready hsiErrRptInj hlt hpending]
      unfold VblkState.call
      rw [List.foldl_cons]
      have hanswer : s.ledger.enter s.dev.config (.answered resp) = { s.ledger with
          awaiting := update s.ledger.awaiting resp.reqId.toNat none
          answeredOk := if vblkGoodAnswer s.dev.config r resp then r.tag :: s.ledger.answeredOk
            else s.ledger.answeredOk } := by
        simp only [VblkLedger.enter, VblkLedger.answer, hr]
      rw [hanswer, hends]
      apply h.finish hr hdone
      · intro tag hmem
        split
        · exact List.mem_cons_of_mem _ hmem
        · exact hmem
      · intro hok
        rw [if_pos (hgood hok)]
        exact List.mem_cons_self

theorem VblkInv.step {s' : VblkState} {hsiErrRptInj : Bool} {op : VblkOp} (h : VblkInv s)
    (hcareful : vblkCareful s op) (hstep : vblkStep hsiErrRptInj s op = some s') : VblkInv s' := by
  cases op with
  | request r alloc =>
    simp only [vblkStep] at hstep
    split at hstep
    · cases hstep
    rename_i hnew
    cases hstep
    cases alloc with
    | false => exact h
    | true => exact h.request hnew
  | work notified =>
    simp only [vblkStep] at hstep
    split at hstep
    · cases hstep
      exact h.quiet (VblkQuiet.refl h.ready) _
    · cases hstep
  | complete read =>
    simp only [vblkStep] at hstep
    split at hstep
    · cases hstep
      exact h.complete hcareful _
    · cases hstep
  | submit env =>
    simp only [vblkStep] at hstep
    split at hstep
    · cases hstep
      exact h.submit hcareful _
    · cases hstep
  | pool mem =>
    cases hstep
    have hquiet : VblkQuiet s.dev { s.dev with sharedBuffer := mem } :=
      ⟨⟨⟨⟨h.ready.max, h.ready.slots⟩, h.ready.queue, h.ready.active⟩, rfl, rfl, rfl, rfl, rfl, rfl, rfl,
        fun _ _ => rfl, le_rfl⟩, rfl⟩
    exact h.quiet hquiet s.worker

theorem vblkInv_start {config : VsConfigInfo} {nframes : U32} {ivmSize : U64} {dev : VblkDev}
    (h : VblkSetUp config nframes ivmSize dev) : VblkInv (vblkStart dev) := by
  have hzero : VblkState.slotCount (fun _ => false) = 0 := slotCount_false
  refine ⟨⟨?_, ?_, ?_, ?_, ?_, ?_, ?_⟩, h.ready, ?_, ?_, ?_, ?_, ?_, ?_, ?_, ?_⟩ <;>
    simp [vblkStart, VblkLedger.empty, VblkLedger.endings, h.pending, h.reqList, h.inflight,
      h.inflightIoctl, hzero]

/-- **Requests end exactly once, with success only where the server reported it**, and the slots, the
counters and the scatter lists are in step, as long as the server reports no error for a request in flight
and no submission fails after a step that it does not undo. -/
theorem vblk_requests_sound (hsiErrRptInj : Bool) {config : VsConfigInfo} {nframes : U32}
    {ivmk : Option (U64 × (ℕ → U8))} {dev : VblkDev} (hdev : setupDevice config nframes ivmk = some dev)
    {s : VblkState} {ops : List VblkOp}
    (hcareful : AllSteps (vblkStep hsiErrRptInj) vblkCareful (vblkStart dev) ops)
    (hrun : run (vblkStep hsiErrRptInj) (vblkStart dev) ops = some s) : VblkSound s := by
  have hstart := vblkInv_start (setupDevice_spec hdev)
  have hinv := run_invariant_of_allSteps (I := VblkInv)
    (fun _ _ _ hs hP hstep => hs.step hP hstep) hstart hcareful hrun
  exact hinv.toVblkSound

theorem vblk_requests_sound_read : ∃ dev s, setupDevice vblkSmallConfig 32 vblkSmallPool = some dev ∧
      run (vblkStep false) (vblkStart dev) (vblkReadOps ++ [.complete (some ⟨0, 0, 0, 1⟩)]) = some s ∧
      VblkSound s := by
  have hset : (setupDevice vblkSmallConfig 32 vblkSmallPool).isSome = true := by decide +kernel
  obtain ⟨dev, hdev⟩ := Option.isSome_iff_exists.mp hset
  have hrun : (((setupDevice vblkSmallConfig 32 vblkSmallPool).bind fun dev =>
      run (vblkStep false) (vblkStart dev)
        (vblkReadOps ++ [.complete (some ⟨0, 0, 0, 1⟩)])).isSome) = true := by decide +kernel
  have hcareful : (setupDevice vblkSmallConfig 32 vblkSmallPool).all (fun dev =>
      decide (AllSteps (vblkStep false) vblkCareful (vblkStart dev)
        (vblkReadOps ++ [.complete (some ⟨0, 0, 0, 1⟩)]))) = true := by decide +kernel
  rw [hdev, Option.bind_some] at hrun
  rw [hdev, Option.all_some, decide_eq_true_eq] at hcareful
  obtain ⟨s, hs⟩ := Option.isSome_iff_exists.mp hrun
  exact ⟨dev, s, hdev, hs, vblk_requests_sound false hdev hcareful hs⟩

/-- The server reports an error for the read, which is ended twice. -/
theorem vblk_error_ends_twice : ∃ dev s, setupDevice vblkSmallConfig 32 vblkSmallPool = some dev ∧
      run (vblkStep false) (vblkStart dev) (vblkReadOps ++ [.complete (some ⟨0, -5, 0, 0⟩)]) = some s ∧
      s.ledger.endings 0 = 2 ∧ ¬ VblkSound s := by
  have hrun : ((setupDevice vblkSmallConfig 32 vblkSmallPool).bind fun dev =>
      (run (vblkStep false) (vblkStart dev)
        (vblkReadOps ++ [.complete (some ⟨0, -5, 0, 0⟩)])).map fun s => s.ledger.endings 0) = some 2 := by
    decide +kernel
  obtain ⟨dev, hdev, hrun⟩ := Option.bind_eq_some_iff.mp hrun
  obtain ⟨s, hs, htwice⟩ := Option.map_eq_some_iff.mp hrun
  refine ⟨dev, s, hdev, hs, htwice, ?_⟩
  intro h
  have honce := h.once 0
  split at honce <;> omega

end NvidiaOot.Analysis
