import NvidiaOot.Analysis.VblkSlots

/-!
# Suspend drains the virtual block device

While the queue is suspended the worker reserves no slot, and a completion is seen only when no slot is in
use and the worker holds none.  The worker that suspend waits for comes closer to its next look at the
responses with each step.
-/

namespace NvidiaOot.Analysis

open Library Program Model

variable {s s' : VblkPmState} {dev : VblkDev} {c hsiErrRptInj : Bool} {r : Request} {slot : ℕ}

/-! ## The order of the steps -/

/-- The state of the queue that suspend and resume have set. -/
def pmQueueState : VblkPm → VblkQueueState
  | .running | .resumed | .reinited | .irqEnabled => .active
  | _ => .suspended

/-- Suspend was called, and has not seen a completion. -/
def pmDraining : VblkPm → Bool
  | .marked | .waiting => true
  | _ => false

def pmDrained : VblkPm → Bool
  | .drained | .irqDisabled | .flushing _ | .suspended => true
  | _ => false

def pmFresh : VblkPm → Bool
  | .running | .reinited | .irqEnabled => true
  | _ => false

def pmWakes : VblkPm → Bool
  | .running | .marked | .waiting => true
  | _ => false

def vblkEmpty (s : VblkPmState) : Prop :=
  s.dev.inflightReqs = 0 ∧ stageBusy s.stage = false

structure VblkPmOrder (s : VblkPmState) : Prop where
  runs : s.started = s.finished + if s.stage = .idle then 0 else 1
  queueState : s.dev.queueState = pmQueueState s.pm
  drained : pmDrained s.pm = true → vblkEmpty s
  completed : pmDraining s.pm = true → 0 < s.dev.reqQueueEmpty → vblkEmpty s
  fresh : pmFresh s.pm = true → s.dev.reqQueueEmpty = 0
  signal : ∀ next, s.stage = .signalling next →
    s.dev.inflightReqs = 0 ∧ s.dev.queueState = .suspended
  tests : s.pm = .waiting → s.dev.reqQueueEmpty = 0 → s.dev.inflightReqs = 0 →
    stageTests s.stage = true
  flush : ∀ upTo, s.pm = .flushing upTo → upTo < s.started → stageSettled s.stage = true
  settled : s.pm = .suspended → stageSettled s.stage = true
  wake : pmWakes s.pm = true → s.rx ≠ [] → s.workPending = true ∨ stageLooks s.stage = true

/-- What a step of the worker does to the count of the slots in use and to the completions. -/
structure VblkStageStep (s s' : VblkPmState) : Prop where
  mono : s.dev.reqQueueEmpty ≤ s'.dev.reqQueueEmpty
  completes : s.dev.reqQueueEmpty < s'.dev.reqQueueEmpty →
    s.dev.queueState = .suspended ∧ vblkEmpty s'
  empty : s.dev.queueState = .suspended → vblkEmpty s → vblkEmpty s'
  signal : ∀ next, s'.stage = .signalling next →
    s'.dev.inflightReqs = 0 ∧ s.dev.queueState = .suspended
  tests : s.dev.queueState = .suspended → (s.dev.inflightReqs = 0 → stageTests s.stage = true) →
    s'.dev.reqQueueEmpty = 0 → s'.dev.inflightReqs = 0 → stageTests s'.stage = true
  settled : s.dev.queueState = .suspended → s.dev.inflightReqs = 0 → stageSettled s.stage = true →
    stageSettled s'.stage = true ∧ s'.sent = s.sent
  looks : s'.rx ≠ [] → s.rx ≠ [] ∧ (stageLooks s.stage = true → stageLooks s'.stage = true)
  rank : s.dev.queueState = .suspended → (s.stage = .completing → s.rx ≠ []) → s'.rank < s.rank

structure VblkWorked (s s' : VblkPmState) : Prop extends VblkStageStep s s' where
  left : s.stage ≠ .idle
  pm : s'.pm = s.pm
  queueState : s'.dev.queueState = s.dev.queueState
  started : s'.started = s.started
  finished : s'.finished = if s'.stage = .idle then s.finished + 1 else s.finished
  workPending : s'.workPending = s.workPending
  unanswered : ∀ i ∈ s.unanswered, i ∈ s'.unanswered

theorem VblkPmOrder.work (h : VblkPmOrder s) (hw : VblkWorked s s') : VblkPmOrder s' where
  runs := by
    have hruns := h.runs
    rw [if_neg hw.left] at hruns
    rw [hw.started, hw.finished, hruns]
    split <;> omega
  queueState := by
    rw [hw.queueState, hw.pm]
    exact h.queueState
  drained hpm := by
    rw [hw.pm] at hpm
    have hstate : s.dev.queueState = .suspended := by
      rw [h.queueState]
      cases hs : s.pm <;> simp_all [pmDrained, pmQueueState]
    exact hw.empty hstate (h.drained hpm)
  completed hpm hpos := by
    rw [hw.pm] at hpm
    have hstate : s.dev.queueState = .suspended := by
      rw [h.queueState]
      cases hs : s.pm <;> simp_all [pmDraining, pmQueueState]
    rcases hw.mono.lt_or_eq with hlt | heq
    · exact (hw.completes hlt).2
    · exact hw.empty hstate (h.completed hpm (heq.symm ▸ hpos))
  fresh hpm := by
    rw [hw.pm] at hpm
    have hzero := h.fresh hpm
    rcases hw.mono.lt_or_eq with hlt | heq
    · have hstate := (hw.completes hlt).1
      rw [h.queueState] at hstate
      cases hs : s.pm <;> simp_all [pmFresh, pmQueueState]
    · rw [← heq]
      exact hzero
  signal next hs := by
    rw [hw.queueState]
    exact hw.signal next hs
  tests hpm hzero hcount := by
    rw [hw.pm] at hpm
    have hstate : s.dev.queueState = .suspended := by
      rw [h.queueState, hpm]
      rfl
    have hmono := hw.mono
    exact hw.tests hstate (h.tests hpm (by omega)) hzero hcount
  flush upTo hpm hlt := by
    rw [hw.pm] at hpm
    rw [hw.started] at hlt
    have hstate : s.dev.queueState = .suspended := by
      rw [h.queueState, hpm]
      rfl
    exact (hw.settled hstate (h.drained (by simp [hpm, pmDrained])).1 (h.flush upTo hpm hlt)).1
  settled hpm := by
    rw [hw.pm] at hpm
    have hstate : s.dev.queueState = .suspended := by
      rw [h.queueState, hpm]
      rfl
    exact (hw.settled hstate (h.drained (by simp [hpm, pmDrained])).1 (h.settled hpm)).1
  wake hpm hrx := by
    rw [hw.pm] at hpm
    obtain ⟨hold, hlooks⟩ := hw.looks hrx
    rw [hw.workPending]
    exact (h.wake hpm hold).imp_right hlooks

/-- A step that changes neither the count of the slots in use nor the completions. -/
theorem vblkStageStep_of_same (hinflight : s'.dev.inflightReqs = s.dev.inflightReqs)
    (hcompletions : s'.dev.reqQueueEmpty = s.dev.reqQueueEmpty)
    (hbusy : s.dev.queueState = .suspended → s.dev.inflightReqs = 0 → stageBusy s.stage = false →
      stageBusy s'.stage = false) (hsignal : ∀ next, s'.stage = .signalling next →
      s.dev.inflightReqs = 0 ∧ s.dev.queueState = .suspended)
    (htests : s.dev.queueState = .suspended → s.dev.inflightReqs = 0 → stageTests s.stage = true →
      stageTests s'.stage = true) (hsettled : s.dev.queueState = .suspended → s.dev.inflightReqs = 0 →
      stageSettled s.stage = true → stageSettled s'.stage = true ∧ s'.sent = s.sent)
    (hlooks : s'.rx ≠ [] → s.rx ≠ [] ∧ (stageLooks s.stage = true → stageLooks s'.stage = true))
    (hrank : s.dev.queueState = .suspended → (s.stage = .completing → s.rx ≠ []) → s'.rank < s.rank) :
    VblkStageStep s s' where
  mono := hcompletions.ge
  completes hlt := by omega
  empty hstate hempty := by
    unfold vblkEmpty
    rw [hinflight]
    exact ⟨hempty.1, hbusy hstate hempty.1 hempty.2⟩
  signal next hs := by
    rw [hinflight]
    exact hsignal next hs
  tests hstate htest _ hcount := by
    rw [hinflight] at hcount
    exact htests hstate hcount (htest hcount)
  settled := hsettled
  looks := hlooks
  rank := hrank

theorem loop_rank (c : Bool) : (VblkPmState.loop c).rank ≤ 2 := by
  cases c <;> simp [VblkPmState.loop, VblkStage.rank]

theorem afterPut_rank (next : VblkPutNext) : (VblkPmState.afterPut next).rank ≤ 4 := by
  cases next with
  | completed | failed r => simp [VblkPmState.afterPut, VblkStage.rank]
  | noRequest c => exact (loop_rank c).trans (by omega)

theorem loop_ne_signalling (c : Bool) (next : VblkPutNext) : VblkPmState.loop c ≠ .signalling next := by
  cases c <;> simp [VblkPmState.loop]

theorem afterPut_ne_signalling (next next' : VblkPutNext) : VblkPmState.afterPut next ≠ .signalling next' := by
  cases next with
  | completed | failed r => simp [VblkPmState.afterPut]
  | noRequest c => exact loop_ne_signalling c next'

theorem VblkStageStep.worked {s : VblkPmState} {rx : List VsResponse} {dev : VblkDev}
    {effects : List VblkEffect} {stage : VblkStage} (hleft : s.stage ≠ .idle)
    (hqueue : dev.queueState = s.dev.queueState)
    (h : VblkStageStep s ((({ s with rx := rx }).did dev effects).goto stage)) :
    VblkWorked s ((({ s with rx := rx }).did dev effects).goto stage) := by
  rw [vblkPm_did_eq] at h ⊢
  exact { h with
    left := hleft
    pm := rfl
    queueState := hqueue
    started := rfl
    finished := rfl
    workPending := rfl
    unanswered := fun _ => List.mem_append_right _ }

theorem vblkWorked_goto {stage : VblkStage} (hleft : s.stage ≠ .idle)
    (hbusy : s.dev.queueState = .suspended → s.dev.inflightReqs = 0 → stageBusy s.stage = false →
      stageBusy stage = false) (hsignal : ∀ next, stage = .signalling next →
      s.dev.inflightReqs = 0 ∧ s.dev.queueState = .suspended)
    (htests : s.dev.queueState = .suspended → s.dev.inflightReqs = 0 → stageTests s.stage = true →
      stageTests stage = true)
    (hsettled : s.dev.queueState = .suspended → stageSettled s.stage = true → stageSettled stage = true)
    (hlooks : s.rx ≠ [] → stageLooks s.stage = true → stageLooks stage = true)
    (hrank : s.dev.queueState = .suspended → (s.stage = .completing → s.rx ≠ []) →
      stage.rank < s.stage.rank) : VblkWorked s (s.goto stage) := by
  have hstep : VblkStageStep s (s.goto stage) := by
    apply vblkStageStep_of_same
    · rfl
    · rfl
    · exact hbusy
    · exact hsignal
    · exact htests
    · exact fun hstate _ hs => ⟨hsettled hstate hs, rfl⟩
    · exact fun hrx => ⟨hrx, hlooks hrx⟩
    · intro hstate hrx
      exact Nat.add_lt_add_left (hrank hstate hrx) _
  exact @VblkStageStep.worked s s.rx s.dev [] stage hleft rfl hstep

/-- What a step of the worker keeps, and what it does. -/
def VblkWorkKept (s s' : VblkPmState) : Prop := VblkPmSlots s' ∧ VblkWorked s s'

section

variable (h : VblkPmSlots s)

include h

theorem vblkPm_completing (hsiErrRptInj : Bool)
    (hstage : s.stage = .completing) {resp : VsResponse} {rest : List VsResponse}
    (hrx : s.rx = resp :: rest) {slot : Option ℕ} {effects : List VblkEffect}
    (hresp : completeResponse hsiErrRptInj s.dev resp = (slot, dev, effects)) :
    VblkWorkKept s ((({ s with rx := rest }).did dev effects).goto
      (slot.elim (.submitting true) fun slot => .putting slot .completed)) := by
  have hleft : s.stage ≠ .idle := by simp [hstage]
  have hmore : s.rx ≠ [] := by simp [hrx]
  have hrank (stage : VblkStage) (hlow : stage.rank ≤ 7) (dev : VblkDev) (effects : List VblkEffect) :
      ((({ s with rx := rest }).did dev effects).goto stage).rank < s.rank := by
    have hone : s.stage.rank = 1 := by
      rw [hstage]
      rfl
    rw [vblkPm_did_eq]
    simp only [VblkPmState.rank, VblkPmState.goto, hrx, List.length_cons, hone]
    omega
  rcases completeResponse_cases h.slotted hsiErrRptInj resp with
    ⟨hfree, status, heq⟩ | ⟨⟨hlt, hpending⟩, ioctls, ends, heq, hended⟩
  · obtain ⟨rfl, rfl, rfl⟩ : slot = none ∧ dev = { s.dev with hsierrorStatus := status } ∧
        effects = [.answered resp] := by simpa using hresp.symm.trans heq
    refine ⟨h.drop hstage hrx hfree status, ?_⟩
    refine VblkStageStep.worked hleft ?_ ?_
    · rfl
    apply vblkStageStep_of_same
    · rfl
    · rfl
    · exact fun _ _ _ => rfl
    · exact fun next hs => absurd hs (by simp [VblkPmState.goto])
    · intro _ _ hs
      rw [hstage] at hs
      cases hs
    · exact fun _ _ _ => ⟨rfl, rfl⟩
    · exact fun _ => ⟨hmore, fun _ => rfl⟩
    · exact fun _ _ => hrank _ (by simp [VblkStage.rank]) _ _
  obtain ⟨rfl, rfl, rfl⟩ : slot = some resp.reqId.toNat ∧
      dev = { s.dev with inflightIoctlReqs := ioctls } ∧ effects = ends := by
    simpa using hresp.symm.trans heq
  have hne := h.inflight_ne hpending
  refine ⟨h.complete hstage hrx hpending ioctls hended, ?_⟩
  refine VblkStageStep.worked hleft ?_ ?_
  · rfl
  rw [vblkPm_did_eq]
  apply vblkStageStep_of_same
  · rfl
  · rfl
  · exact fun _ hzero => absurd hzero hne
  · exact fun next hs => absurd hs (by simp [VblkPmState.goto])
  · exact fun _ hzero => absurd hzero hne
  · exact fun _ hzero => absurd hzero hne
  · exact fun _ => ⟨hmore, fun _ => rfl⟩
  · have hlower := hrank (.putting resp.reqId.toNat .completed) (by simp [VblkStage.rank])
      { s.dev with inflightIoctlReqs := ioctls } effects
    rw [vblkPm_did_eq] at hlower
    exact fun _ _ => hlower

theorem vblkPm_reserving
    (hstage : s.stage = .reserving c) (hres : VblkReserved slot s.dev dev) :
    VblkWorkKept s ((s.did dev []).goto (.taking c slot)) := by
  have hslots := h.reserve hstage hres
  have hpending : dev.pendingReqs slot = true := hslots.held slot rfl
  have hne : dev.inflightReqs ≠ 0 := hslots.inflight_ne hpending
  have hbusy : stageBusy s.stage = true := by
    rw [hstage]
    rfl
  have hcompletions : dev.reqQueueEmpty = s.dev.reqQueueEmpty := by rw [hres.eq]
  refine ⟨hslots, ?_⟩
  apply @VblkStageStep.worked s s.rx
  · simp [hstage]
  · rw [hres.eq]
  refine ⟨?_, ?_, ?_, ?_, ?_, ?_, ?_, ?_⟩
  · exact hcompletions.ge
  · exact fun hlt => absurd hlt (by simp [VblkPmState.goto, VblkPmState.did, hcompletions])
  · exact fun _ hempty => absurd hempty.2 (by simp [hbusy])
  · exact fun next hs => absurd hs (by simp [VblkPmState.goto])
  · exact fun _ _ _ hzero => absurd hzero hne
  · intro _ _ hs
    rw [hstage] at hs
    cases hs
  · intro hrx
    rw [hstage]
    exact ⟨hrx, id⟩
  · intro _ _
    simp [VblkPmState.rank, VblkPmState.goto, VblkPmState.did, hstage, VblkStage.rank]

theorem vblkPm_taking (hstage : s.stage = .taking c slot) {rest : List Request}
    (hlist : s.dev.reqList = r :: rest) :
    VblkWorkKept s ((s.did { s.dev with reqList := rest } []).goto (.sending slot r)) := by
  refine ⟨h.take hstage hlist, ?_⟩
  apply @VblkStageStep.worked s s.rx
  · simp [hstage]
  · rfl
  have hbusy : stageBusy s.stage = true := by
    rw [hstage]
    rfl
  apply vblkStageStep_of_same
  · rfl
  · rfl
  · exact fun _ _ hs => absurd hs (by simp [hbusy])
  · exact fun next hs => absurd hs (by simp [VblkPmState.goto])
  · intro _ _ hs
    rw [hstage] at hs
    cases hs
  · intro _ _ hs
    rw [hstage] at hs
    cases hs
  · exact fun hrx => ⟨hrx, fun _ => rfl⟩
  · intro _ _
    simp [VblkPmState.rank, VblkPmState.goto, VblkPmState.did, hstage, VblkStage.rank]

theorem vblkPm_sending
    (hstage : s.stage = .sending slot r) {env : VblkSubmitEnv} (hcareful : 0 ≤ env.ivcWrite)
    {written : Bool} {effects : List VblkEffect} (hfill : submitFill env s.dev slot r = (written, dev, effects)) :
    VblkWorkKept s ((s.did dev effects).goto
      (if written then .completing else .putting slot (.failed r))) := by
  have hslot : stageSlot s.stage = some slot := by
    rw [hstage]
    rfl
  have hpending := h.held slot hslot
  have hne := h.inflight_ne hpending
  have hreqId := h.reqId slot (by rw [hstage]; rfl)
  have hbusy : stageBusy s.stage = true := stageBusy_of_slot hslot
  have hworked (stage : VblkStage) (hlow : stage.rank ≤ 7)
      (hnot : ∀ next, stage ≠ .signalling next) (hlook : stageLooks stage = true)
      (hon : VblkOnSlot slot s.dev dev) : VblkWorked s ((s.did dev effects).goto stage) := by
    apply @VblkStageStep.worked s s.rx
    · simp [hstage]
    · exact hon.queueState
    rw [vblkPm_did_eq]
    apply vblkStageStep_of_same
    · exact hon.inflight
    · exact hon.reqQueueEmpty
    · exact fun _ _ hs => absurd hs (by simp [hbusy])
    · exact fun next hs => absurd hs (hnot next)
    · exact fun _ hzero => absurd hzero hne
    · exact fun _ hzero => absurd hzero hne
    · exact fun hrx => ⟨hrx, fun _ => hlook⟩
    · intro _ _
      have height : s.stage.rank = 8 := by
        rw [hstage]
        rfl
      simp only [VblkPmState.rank, VblkPmState.goto, height]
      omega
  rcases submitFill_cases env h.slotted (h.inRange slot hpending) hreqId r with
    ⟨dev', ends, heq, hon⟩ | ⟨dev', ends, heq, hon, hreq, hioctl, hsent⟩
  · obtain ⟨rfl, rfl, rfl⟩ : written = false ∧ dev = dev' ∧ effects = ends := by
      simpa using hfill.symm.trans heq
    exact ⟨h.refuse hstage hon effects,
      hworked _ (by simp [VblkStage.rank]) (by simp) rfl hon⟩
  obtain ⟨rfl, rfl, rfl⟩ : written = true ∧ dev = dev' ∧ effects = ends := by
    simpa using hfill.symm.trans heq
  exact ⟨h.send hstage hon hreq hioctl (hsent hcareful),
    hworked _ (by simp [VblkStage.rank]) (by simp) rfl hon⟩

theorem vblkPm_putting {next : VblkPutNext} (hstage : s.stage = .putting slot next) :
    VblkWorkKept s ((s.did (vblkRelease s.dev slot) []).goto (.testing next)) := by
  refine ⟨h.release hstage, ?_⟩
  have hbusy : stageBusy s.stage = true := by
    rw [hstage]
    rfl
  apply @VblkStageStep.worked s s.rx
  · simp [hstage]
  · rfl
  refine ⟨le_rfl, ?_, ?_, ?_, ?_, ?_, ?_, ?_⟩
  · exact fun hlt => absurd hlt (lt_irrefl _)
  · exact fun _ hempty => absurd hempty.2 (by simp [hbusy])
  · exact fun next hs => absurd hs (by simp [VblkPmState.goto])
  · exact fun _ _ _ _ => rfl
  · intro _ _ hs
    rw [hstage] at hs
    cases hs
  · intro hrx
    rw [hstage]
    exact ⟨hrx, id⟩
  · intro _ _
    simp [VblkPmState.rank, VblkPmState.goto, VblkPmState.did, hstage, VblkStage.rank]

theorem vblkPm_signalling {next : VblkPutNext} (hstage : s.stage = .signalling next)
    (hsignal : s.dev.inflightReqs = 0 ∧ s.dev.queueState = .suspended) :
    VblkWorkKept s ((s.did (vblkSignal s.dev) []).goto (VblkPmState.afterPut next)) := by
  have hempty : vblkEmpty ((s.did (vblkSignal s.dev) []).goto (VblkPmState.afterPut next)) :=
    ⟨hsignal.1, afterPut_busy next⟩
  refine ⟨?_, ?_⟩
  · apply h.move
    · exact ⟨rfl, rfl, rfl, rfl, rfl, rfl, rfl⟩
    · rw [hstage]
      exact afterPut_slot next
    · intro slot hs
      exact absurd hs (by simp [VblkPmState.goto])
    · rw [hstage]
      exact afterPut_carried next
    · rfl
    · rfl
    · exact fun _ _ => id
  · apply @VblkStageStep.worked s s.rx
    · simp [hstage]
    · rfl
    refine ⟨Nat.le_succ _, ?_, ?_, ?_, ?_, ?_, ?_, ?_⟩
    · exact fun _ => ⟨hsignal.2, hempty⟩
    · exact fun _ _ => hempty
    · exact fun next' hs => absurd hs (afterPut_ne_signalling next next')
    · exact fun _ _ hzero => absurd hzero (Nat.succ_ne_zero _)
    · intro _ _ hs
      rw [hstage] at hs
      cases hs
    · intro hrx
      rw [hstage]
      exact ⟨hrx, fun hlook => (afterPut_looks next).trans hlook⟩
    · intro _ _
      have hlow := afterPut_rank next
      have hfive : s.stage.rank = 5 := by
        rw [hstage]
        rfl
      simp only [VblkPmState.rank, VblkPmState.goto, VblkPmState.did, hfive, List.foldl_nil]
      omega

theorem vblkPm_ending (hstage : s.stage = .ending r) :
    VblkWorkKept s ((s.did s.dev [reqErrorHandler r]).goto .completing) := by
  refine ⟨h.finish hstage, ?_⟩
  apply @VblkStageStep.worked s s.rx
  · simp [hstage]
  · rfl
  apply vblkStageStep_of_same
  · rfl
  · rfl
  · exact fun _ _ _ => rfl
  · exact fun next hs => absurd hs (by simp [VblkPmState.goto])
  · intro _ _ hs
    rw [hstage] at hs
    cases hs
  · intro _ _ hs
    rw [hstage] at hs
    cases hs
  · exact fun hrx => ⟨hrx, fun _ => rfl⟩
  · intro _ _
    rw [vblkPm_did_eq]
    simp [VblkPmState.rank, VblkPmState.goto, hstage, VblkStage.rank]

theorem vblkPm_loop (hslot : stageSlot s.stage = none) (hcarried : stageCarried s.stage = none)
    (htests : stageTests s.stage = false) (hlooks : stageLooks s.stage = c)
    (hrank : 2 < s.stage.rank) : VblkWorkKept s (s.goto (VblkPmState.loop c)) := by
  have hleft : s.stage ≠ .idle := by
    intro hidle
    rw [hidle] at hrank
    exact absurd hrank (lt_irrefl 2)
  refine ⟨h.goto ((loop_slot c).trans hslot.symm) (by simp) ((loop_carried c).trans hcarried.symm),
    vblkWorked_goto hleft ?_ ?_ ?_ ?_ ?_ ?_⟩
  · simp
  · exact fun next hs => absurd hs (loop_ne_signalling c next)
  · simp [htests]
  · simp
  · exact fun _ hlook => (loop_looks c).trans (hlooks.symm.trans hlook)
  · exact fun _ _ => (loop_rank c).trans_lt hrank

theorem vblkPm_work (hsignal : ∀ next, s.stage = .signalling next →
      s.dev.inflightReqs = 0 ∧ s.dev.queueState = .suspended) {env : VblkSubmitEnv}
    (hcareful : s.stage.isSending = true → 0 ≤ env.ivcWrite)
    (hwork : s.work hsiErrRptInj env = some s') : VblkWorkKept s s' := by
  unfold VblkPmState.work at hwork
  cases hstage : s.stage with
  | idle =>
    rw [hstage] at hwork
    cases hwork
  | completing =>
    simp only [hstage] at hwork
    cases hrx : s.rx with
    | nil =>
      simp only [hrx, Option.some.injEq] at hwork
      subst hwork
      refine ⟨h.goto (by simp [hstage, stageSlot]) (by simp [stageFilling])
        (by simp [hstage, stageCarried]), vblkWorked_goto ?_ ?_ ?_ ?_ ?_ ?_ ?_⟩
      · simp [hstage]
      · simp [stageBusy]
      · simp
      · simp [hstage, stageTests]
      · simp [stageSettled]
      · simp [hrx]
      · exact fun _ hmore => absurd hrx (hmore hstage)
    | cons resp rest =>
      rcases hresp : completeResponse hsiErrRptInj s.dev resp with ⟨slot, dev, effects⟩
      simp only [hrx, hresp, Option.some.injEq] at hwork
      subst hwork
      simpa only [hstage] using vblkPm_completing h hsiErrRptInj hstage hrx hresp
  | submitting c =>
    simp only [hstage] at hwork
    split at hwork
    · rename_i hactive
      cases hwork
      have hnot : s.dev.queueState ≠ .suspended := by
        have hstate : s.dev.queueState = .active := by simpa using (Bool.and_eq_true_iff.mp hactive).2
        simp [hstate]
      refine ⟨h.goto (by simp [hstage, stageSlot]) (by simp [stageFilling])
        (by simp [hstage, stageCarried]), vblkWorked_goto ?_ ?_ ?_ ?_ ?_ ?_ ?_⟩
      · simp [hstage]
      · exact fun hstate => absurd hstate hnot
      · simp
      · exact fun hstate => absurd hstate hnot
      · exact fun hstate => absurd hstate hnot
      · simp [hstage, stageLooks]
      · exact fun hstate => absurd hstate hnot
    · cases hwork
      apply vblkPm_loop h
      all_goals simp [hstage, stageSlot, stageCarried, stageTests, stageLooks, VblkStage.rank]
  | reserving c =>
    simp only [hstage] at hwork
    rcases vblkReserve_cases s.dev with ⟨-, heq⟩ | ⟨slot, dev, heq, -, hres⟩
    · simp only [heq, Option.some.injEq] at hwork
      subst hwork
      apply vblkPm_loop h
      all_goals simp [hstage, stageSlot, stageCarried, stageTests, stageLooks, VblkStage.rank]
    · simp only [heq, Option.some.injEq] at hwork
      subst hwork
      exact vblkPm_reserving h hstage hres
  | taking c slot =>
    have hbusy : stageBusy s.stage = true := by
      rw [hstage]
      rfl
    have hgo : VblkWorkKept s (s.goto (.putting slot (.noRequest c))) := by
      refine ⟨h.goto (by simp [hstage, stageSlot]) (by simp [stageFilling])
        (by simp [hstage, stageCarried, putNextCarried]), vblkWorked_goto ?_ ?_ ?_ ?_ ?_ ?_ ?_⟩
      · simp [hstage]
      · simp [hbusy]
      · simp
      · simp [hstage, stageTests]
      · simp [hstage, stageSettled]
      · simp [hstage, stageLooks, putNextLooks]
      · simp [hstage, VblkStage.rank]
    simp only [hstage, takeEntry] at hwork
    cases hlist : s.dev.reqList with
    | nil =>
      simp only [hlist, Option.some.injEq] at hwork
      subst hwork
      exact hgo
    | cons r rest =>
      simp only [hlist] at hwork
      cases hlimited : ioctlLimited s.dev r with
      | true =>
        simp only [hlimited, if_true, Option.some.injEq] at hwork
        subst hwork
        exact hgo
      | false =>
        simp only [hlimited, Bool.false_eq_true, if_false, Option.some.injEq] at hwork
        subst hwork
        exact vblkPm_taking h hstage hlist
  | sending slot r =>
    rcases hfill : submitFill env s.dev slot r with ⟨written, dev, effects⟩
    simp only [hstage, hfill, Option.some.injEq] at hwork
    subst hwork
    exact vblkPm_sending h hstage (hcareful (by simp [hstage, VblkStage.isSending])) hfill
  | putting slot next =>
    have hpending := h.held slot (by simp [hstage, stageSlot])
    have hcheck := vblkPutCheck_of_pending h.slotted (h.inRange slot hpending) hpending
    simp only [hstage, hcheck, if_true, Option.some.injEq] at hwork
    subst hwork
    exact vblkPm_putting h hstage
  | testing next =>
    simp only [hstage, Option.some.injEq] at hwork
    subst hwork
    have hdrains : vblkDrained s.dev = true ↔
        s.dev.inflightReqs = 0 ∧ s.dev.queueState = .suspended := by
      unfold vblkDrained
      rw [Bool.and_eq_true, decide_eq_true_eq, decide_eq_true_eq]
    split
    · rename_i hdrained
      refine ⟨h.goto (by simp [hstage, stageSlot]) (by simp [stageFilling])
        (by simp [hstage, stageCarried]), vblkWorked_goto ?_ ?_ ?_ ?_ ?_ ?_ ?_⟩
      · simp [hstage]
      · simp [stageBusy]
      · exact fun _ _ => hdrains.mp hdrained
      · simp [stageTests]
      · simp [hstage, stageSettled]
      · simp [hstage, stageLooks]
      · simp [hstage, VblkStage.rank]
    rename_i hmore
    have hslot : stageSlot (VblkPmState.afterPut next) = stageSlot s.stage := by
      rw [hstage, afterPut_slot]
      rfl
    have hcarried : stageCarried (VblkPmState.afterPut next) = stageCarried s.stage := by
      rw [hstage, afterPut_carried]
      rfl
    refine ⟨h.goto hslot (by simp) hcarried, vblkWorked_goto ?_ ?_ ?_ ?_ ?_ ?_ ?_⟩
    · simp [hstage]
    · simp
    · exact fun next' hs => absurd hs (afterPut_ne_signalling next next')
    · exact fun hstate hzero => absurd (hdrains.mpr ⟨hzero, hstate⟩) hmore
    · simp [hstage, stageSettled]
    · intro _ hlook
      rw [hstage] at hlook
      exact (afterPut_looks next).trans hlook
    · intro _ _
      rw [hstage]
      exact (afterPut_rank next).trans_lt (by simp [VblkStage.rank])
  | signalling next =>
    simp only [hstage, Option.some.injEq] at hwork
    subst hwork
    exact vblkPm_signalling h hstage (hsignal next hstage)
  | ending r =>
    simp only [hstage, Option.some.injEq] at hwork
    subst hwork
    exact vblkPm_ending h hstage

end

/-! ## The other steps -/

structure VblkPmInv (s : VblkPmState) : Prop extends VblkPmSlots s, VblkPmOrder s

theorem vblkPmInv_start {config : VsConfigInfo} {nframes : U32} {ivmk : Option (U64 × (ℕ → U8))} (hsetup : setupDevice config nframes ivmk = some dev) :
    VblkPmInv (vblkPmStart dev) := by
  have h := setupDevice_spec hsetup
  have hpending (i : ℕ) : dev.pendingReqs i = false := by rw [h.pending]
  have hflight (i : ℕ) : ¬ vblkOutstanding (vblkPmStart dev) i := by
    rintro ⟨hi, -⟩
    exact absurd hi (by simp [vblkPmStart, hpending])
  have hzero : dev.reqQueueEmpty = 0 := h.reqQueueEmpty
  refine ⟨⟨h.ready.toVblkSlotted, ?_, ?_, ?_, ?_, ?_, ?_, ?_⟩, ⟨rfl, h.ready.active, ?_, ?_, ?_, ?_, ?_, ?_, ?_, ?_⟩⟩
  · intro i hi
    exact absurd hi (by simp [vblkPmStart, hpending])
  · show dev.inflightReqs.toNat = VblkState.slotCount dev.pendingReqs
    rw [h.inflight, h.pending, slotCount_false]
    simp
  · nofun
  · nofun
  · exact fun i hi => absurd hi (hflight i)
  · exact fun i hi => absurd hi (hflight i)
  · nofun
  · nofun
  · nofun
  · exact fun _ => hzero
  · nofun
  · nofun
  · nofun
  · nofun
  · exact fun _ hrx => absurd rfl hrx

theorem VblkPmInv.request (h : VblkPmInv s) (r : Request) : VblkPmInv { s with
      dev := (vblkRequest s.dev r true).2
      queued := r.tag :: s.queued
      workPending := true } := by
  have hslots : VblkPmSlots { s with
      dev := (vblkRequest s.dev r true).2
      queued := r.tag :: s.queued
      workPending := true } := by
    apply h.keep
    · exact ⟨h.slotted.max, h.slotted.slots⟩
    · exact h.inRange
    · exact h.inflight
    · exact h.held
    · exact h.reqId
    · rfl
    · exact fun i => Iff.rfl
    · exact fun i _ => rfl
    · exact fun i _ => id
    · intro tag htag
      rcases List.mem_cons.mp htag with rfl | hold
      · right
        left
        simp [vblkRequest]
      · exact Or.inl hold
    · intro tag hat
      apply Or.imp_left _ hat
      intro hmem
      simp only [vblkRequest, if_true, List.map_append]
      exact List.mem_append_left _ hmem
  exact ⟨hslots, { h with wake := fun _ _ => Or.inl rfl }⟩

theorem VblkPmInv.answer (h : VblkPmInv s) (resp : VsResponse) : VblkPmInv { s with
      rx := s.rx ++ [resp]
      unanswered := s.unanswered.filter fun slot => slot ≠ resp.reqId.toNat
      workPending := s.workPending || s.pm.listens } := by
  have hslots : VblkPmSlots { s with
      rx := s.rx ++ [resp]
      unanswered := s.unanswered.filter fun slot => slot ≠ resp.reqId.toNat
      workPending := s.workPending || s.pm.listens } := by
    apply h.move
    · exact VblkSameSlots.refl s.dev
    · rfl
    · exact fun _ => id
    · rfl
    · rfl
    · rfl
    · rintro i _ (hun | ⟨resp', hmem, heq⟩)
      · by_cases hi : i = resp.reqId.toNat
        · right
          exact ⟨resp, by simp, hi.symm⟩
        · left
          exact List.mem_filter.mpr ⟨hun, by simpa using hi⟩
      · right
        exact ⟨resp', List.mem_append_left _ hmem, heq⟩
  refine ⟨hslots, { h with wake := ?_ }⟩
  intro hpm _
  left
  have hlistens : s.pm.listens = true := by
    cases hs : s.pm <;> simp_all [pmWakes, VblkPm.listens]
  simp [hlistens]

theorem VblkPmInv.started (h : VblkPmInv s) (hidle : s.stage = .idle) :
    VblkPmInv { s with workPending := false, started := s.started + 1, stage := .completing } := by
  have hslots : VblkPmSlots
      { s with workPending := false, started := s.started + 1, stage := .completing } := by
    apply h.move
    · exact VblkSameSlots.refl s.dev
    · rw [hidle]
      rfl
    · nofun
    · rw [hidle]
      rfl
    · rfl
    · rfl
    · exact fun _ _ => id
  refine ⟨hslots, { h with
    runs := ?_
    drained := fun hpm => ⟨(h.drained hpm).1, rfl⟩
    completed := fun hpm hpos => ⟨(h.completed hpm hpos).1, rfl⟩
    signal := ?_
    tests := ?_
    flush := fun _ _ _ => rfl
    settled := fun _ => rfl
    wake := fun _ _ => Or.inr rfl }⟩
  · have hruns := h.runs
    rw [if_pos hidle] at hruns
    simp [hruns]
  · nofun
  · intro hpm hzero hcount
    have htest := h.tests hpm hzero hcount
    rw [hidle] at htest
    cases htest

theorem vblkSameSlots_power (dev : VblkDev) (queueState : VblkQueueState) (completions : ℕ) :
    VblkSameSlots dev { dev with queueState := queueState, reqQueueEmpty := completions } :=
  ⟨rfl, rfl, rfl, rfl, rfl, rfl, rfl⟩

theorem VblkPmSlots.power (h : VblkPmSlots s) (hsame : VblkSameSlots s.dev dev) (pm : VblkPm) (workPending : Bool) :
    VblkPmSlots { s with dev := dev, pm := pm, workPending := workPending } := by
  apply h.move hsame
  · rfl
  · exact fun _ => id
  · rfl
  · rfl
  · rfl
  · exact fun _ _ => id

section

variable (h : VblkPmInv s)

include h

theorem VblkPmInv.mark (hpm : s.pm = .running) :
    VblkPmInv { s with dev := vblkSetQueueState s.dev .suspended, pm := .marked } := by
  have hactive : s.dev.queueState = .active := by
    rw [h.queueState, hpm]
    rfl
  have hzero : s.dev.reqQueueEmpty = 0 := h.fresh (by simp [hpm, pmFresh])
  have hslots : VblkPmSlots { s with dev := vblkSetQueueState s.dev .suspended, pm := .marked } :=
    h.power (vblkSameSlots_power s.dev .suspended s.dev.reqQueueEmpty) _ s.workPending
  refine ⟨hslots, h.runs, rfl, ?_, ?_, ?_, ?_, ?_, ?_, ?_, ?_⟩
  · simp [pmDrained]
  · intro _ hpos
    exact absurd hzero (Nat.pos_iff_ne_zero.mp hpos)
  · simp [pmFresh]
  · intro next hs
    have hstate := (h.signal next hs).2
    rw [hactive] at hstate
    cases hstate
  · simp
  · simp
  · simp
  · intro _ hrx
    exact h.wake (by simp [hpm, pmWakes]) hrx

theorem VblkPmInv.check (hpm : s.pm = .marked)
    (hcareful : s.dev.inflightReqs = 0 → s.stage.isReserving = false) :
    VblkPmInv { s with dev := vblkSuspendCheck s.dev, pm := .waiting } := by
  have hbusy (hzero : s.dev.inflightReqs = 0) : stageBusy s.stage = false := by
    by_contra hs
    have hslot : ∃ slot, stageSlot s.stage = some slot := by
      cases hstage : s.stage <;> simp_all [stageBusy, stageSlot, VblkStage.isReserving]
    obtain ⟨slot, hslot⟩ := hslot
    exact h.inflight_ne (h.held slot hslot) hzero
  have hstate : s.dev.queueState = .suspended := by
    rw [h.queueState, hpm]
    rfl
  have hwake := h.wake (by simp [hpm, pmWakes])
  by_cases hzero : s.dev.inflightReqs = 0
  · have hcheck : vblkSuspendCheck s.dev = vblkSignal s.dev := if_pos hzero
    rw [hcheck]
    have hslots : VblkPmSlots { s with dev := vblkSignal s.dev, pm := .waiting } :=
      h.power (vblkSameSlots_power s.dev s.dev.queueState (s.dev.reqQueueEmpty + 1)) _ s.workPending
    refine ⟨hslots, h.runs, hstate, ?_, ?_, ?_, h.signal, ?_, ?_, ?_, fun _ => hwake⟩
    · simp [pmDrained]
    · exact fun _ _ => ⟨hzero, hbusy hzero⟩
    · simp [pmFresh]
    · exact fun _ hnone => absurd hnone (Nat.succ_ne_zero _)
    · simp
    · simp
  have hcheck : vblkSuspendCheck s.dev = s.dev := if_neg hzero
  rw [hcheck]
  have hslots : VblkPmSlots { s with pm := .waiting } :=
    h.power (VblkSameSlots.refl s.dev) _ s.workPending
  refine ⟨hslots, h.runs, hstate, ?_, ?_, ?_, h.signal, ?_, ?_, ?_, fun _ => hwake⟩
  · simp [pmDrained]
  · exact fun _ hpos => h.completed (by simp [hpm, pmDraining]) hpos
  · simp [pmFresh]
  · exact fun _ _ hcount => absurd hcount hzero
  · simp
  · simp

theorem VblkPmInv.wait (hpm : s.pm = .waiting) (hpos : 0 < s.dev.reqQueueEmpty) :
    VblkPmInv { s with
      dev := { s.dev with reqQueueEmpty := s.dev.reqQueueEmpty - 1 }
      pm := .drained } := by
  have hempty := h.completed (by simp [hpm, pmDraining]) hpos
  have hslots : VblkPmSlots { s with
      dev := { s.dev with reqQueueEmpty := s.dev.reqQueueEmpty - 1 }
      pm := .drained } :=
    h.power (vblkSameSlots_power s.dev s.dev.queueState (s.dev.reqQueueEmpty - 1)) _ s.workPending
  refine ⟨hslots, h.runs, ?_, fun _ => hempty, ?_, ?_, h.signal, ?_, ?_, ?_, ?_⟩
  · rw [h.queueState, hpm]
    rfl
  · simp [pmDraining]
  · simp [pmFresh]
  · simp
  · simp
  · simp
  · simp [pmWakes]

theorem VblkPmInv.pass (hdrained : pmDrained s.pm = true)
    {pm : VblkPm} (hpm : pmDrained pm = true)
    (hflush : ∀ upTo, pm = .flushing upTo → upTo < s.started → stageSettled s.stage = true)
    (hsettled : pm = .suspended → stageSettled s.stage = true) : VblkPmInv { s with pm := pm } := by
  have hempty := h.drained hdrained
  have hstate : pmQueueState s.pm = pmQueueState pm := by
    cases hs : s.pm <;> cases pm <;> simp_all [pmDrained, pmQueueState]
  have hslots : VblkPmSlots { s with pm := pm } :=
    h.power (VblkSameSlots.refl s.dev) pm s.workPending
  refine ⟨hslots, h.runs, h.queueState.trans hstate, fun _ => hempty, ?_, ?_, h.signal, ?_, hflush,
    hsettled, ?_⟩
  · cases pm <;> simp_all [pmDrained, pmDraining]
  · cases pm <;> simp_all [pmDrained, pmFresh]
  · rintro rfl
    cases hpm
  · cases pm <;> simp_all [pmDrained, pmWakes]

theorem VblkPmInv.resume
    (hsignal : ∀ next, s.stage ≠ .signalling next) (pm : VblkPm) (hpm : pmQueueState pm = .active)
    (completions : ℕ) (hfresh : pmFresh pm = true → completions = 0) (workPending : Bool)
    (hwake : pmWakes pm = true → workPending = true) : VblkPmInv { s with
      dev := { s.dev with queueState := .active, reqQueueEmpty := completions }
      pm := pm
      workPending := workPending } := by
  have hslots := h.power (vblkSameSlots_power s.dev .active completions) pm workPending
  refine ⟨hslots, h.runs, hpm.symm, ?_, ?_, hfresh, ?_, ?_, ?_, ?_, ?_⟩
  · cases pm <;> simp_all [pmDrained, pmQueueState]
  · cases pm <;> simp_all [pmDraining, pmQueueState]
  · exact fun next hs => absurd hs (hsignal next)
  · rintro rfl
    cases hpm
  · rintro upTo rfl
    cases hpm
  · rintro rfl
    cases hpm
  · exact fun hwakes _ => Or.inl (hwake hwakes)

theorem VblkPmInv.power (hcareful : vblkPmCareful s .pm)
    (hstep : s.power = some s') : VblkPmInv s' := by
  have hactive (hstate : pmQueueState s.pm = .active) :
      s.dev.queueState = .active ∧ ∀ next, s.stage ≠ .signalling next := by
    refine ⟨h.queueState.trans hstate, ?_⟩
    intro next hs
    have hsuspended := (h.signal next hs).2
    rw [h.queueState, hstate] at hsuspended
    cases hsuspended
  unfold VblkPmState.power at hstep
  cases hpm : s.pm with
  | running =>
    simp only [hpm, Option.some.injEq] at hstep
    subst hstep
    exact h.mark hpm
  | marked =>
    simp only [hpm, Option.some.injEq] at hstep
    subst hstep
    exact h.check hpm (hcareful hpm)
  | waiting =>
    simp only [hpm, vblkWait] at hstep
    split at hstep
    · rename_i hpos
      cases hstep
      exact h.wait hpm hpos
    · cases hstep
  | drained =>
    simp only [hpm, Option.some.injEq] at hstep
    subst hstep
    exact h.pass (by simp [hpm, pmDrained]) rfl (by simp) (by simp)
  | irqDisabled =>
    simp only [hpm, Option.some.injEq] at hstep
    subst hstep
    apply h.pass (by simp [hpm, pmDrained]) rfl
    · intro upTo heq hlt
      simp only [VblkPm.flushing.injEq] at heq
      omega
    · simp
  | flushing upTo =>
    simp only [hpm] at hstep
    obtain ⟨hle, rfl⟩ := Option.ite_some_none_eq_some.mp hstep
    apply h.pass (by simp [hpm, pmDrained]) rfl (by simp)
    intro _
    by_cases hidle : s.stage = .idle
    · rw [hidle]
      rfl
    · have hruns := h.runs
      rw [if_neg hidle] at hruns
      exact h.flush upTo hpm (by omega)
  | suspended =>
    simp only [hpm, Option.some.injEq] at hstep
    subst hstep
    have hsettled := h.settled hpm
    apply h.resume _ .resumed rfl s.dev.reqQueueEmpty (by simp [pmFresh]) s.workPending (by simp [pmWakes])
    intro next hs
    rw [hs] at hsettled
    cases hsettled
  | resumed =>
    simp only [hpm, Option.some.injEq] at hstep
    subst hstep
    obtain ⟨hstate, hsignal⟩ := hactive (by simp [hpm, pmQueueState])
    have hnext := h.resume hsignal .reinited rfl 0 (fun _ => rfl) s.workPending (by simp [pmWakes])
    rw [← hstate] at hnext
    exact hnext
  | reinited =>
    simp only [hpm, Option.some.injEq] at hstep
    subst hstep
    obtain ⟨hstate, hsignal⟩ := hactive (by simp [hpm, pmQueueState])
    have hfresh := h.fresh (by simp [hpm, pmFresh])
    have hnext := h.resume hsignal .irqEnabled rfl s.dev.reqQueueEmpty (fun _ => hfresh) s.workPending
      (by simp [pmWakes])
    rw [← hstate] at hnext
    exact hnext
  | irqEnabled =>
    simp only [hpm, Option.some.injEq] at hstep
    subst hstep
    obtain ⟨hstate, hsignal⟩ := hactive (by simp [hpm, pmQueueState])
    have hfresh := h.fresh (by simp [hpm, pmFresh])
    have hnext := h.resume hsignal .running rfl s.dev.reqQueueEmpty (fun _ => hfresh) true
      (fun _ => rfl)
    rw [← hstate] at hnext
    exact hnext

end

/-- **Every step keeps the invariant.** -/
theorem vblkPmInv_step (hsiErrRptInj : Bool) (s : VblkPmState) (op : VblkPmOp) (s' : VblkPmState)
    (h : VblkPmInv s) (hcareful : vblkPmCareful s op) (hstep : vblkPmStep hsiErrRptInj s op = some s') :
    VblkPmInv s' := by
  cases op with
  | request r =>
    simp only [vblkPmStep] at hstep
    split at hstep
    · cases hstep
    · cases hstep
      exact h.request r
  | answer resp =>
    cases hstep
    exact h.answer resp
  | start =>
    obtain ⟨hgo, rfl⟩ := Option.ite_some_none_eq_some.mp hstep
    exact h.started (by simpa using (Bool.and_eq_true_iff.mp hgo).2)
  | work env =>
    obtain ⟨hslots, hworked⟩ := vblkPm_work h.toVblkPmSlots h.signal hcareful hstep
    exact ⟨hslots, h.toVblkPmOrder.work hworked⟩
  | pm => exact h.power hcareful hstep

/-! ## Suspend comes to its end -/

/-- While suspend waits and the server has answered all requests, a response is in the channel, or the
worker decides whether suspend may go on. -/
theorem VblkPmInv.left (h : VblkPmInv s) (hwaits : s.waits)
    (hslot : stageSlot s.stage = none) (htests : stageTests s.stage = false) : s.rx ≠ [] := by
  obtain ⟨hpm, hzero, hun⟩ := hwaits
  have hne : s.dev.inflightReqs ≠ 0 := by
    intro hcount
    have htest := h.tests hpm hzero hcount
    rw [htests] at htest
    cases htest
  obtain ⟨i, hi⟩ := h.exists_inFlight hne hslot
  rcases h.awaited i hi with hmem | ⟨resp, hmem, -⟩
  · rw [hun] at hmem
    cases hmem
  · exact List.ne_nil_of_mem hmem

theorem vblkPm_own_step {op : VblkPmOp} (h : VblkPmInv s) (hcareful : vblkPmCareful s op) (hown : op.isOwn = true)
    (hstep : vblkPmStep hsiErrRptInj s op = some s') : s'.pm = s.pm ∧ s.dev.reqQueueEmpty ≤ s'.dev.reqQueueEmpty ∧
      (∀ i ∈ s.unanswered, i ∈ s'.unanswered) ∧
      (s.waits → s'.rank + (if op.isWork then 1 else 0) ≤ s.rank) := by
  cases op with
  | request r =>
    simp only [vblkPmStep] at hstep
    split at hstep
    · cases hstep
    · cases hstep
      exact ⟨rfl, le_rfl, fun _ => id, fun _ => le_rfl⟩
  | answer resp => cases hown
  | start =>
    simp only [vblkPmStep] at hstep
    split at hstep
    · rename_i hgo
      have hidle : s.stage = .idle := by simpa using (Bool.and_eq_true_iff.mp hgo).2
      cases hstep
      refine ⟨rfl, le_rfl, fun _ => id, ?_⟩
      intro _
      simp [VblkPmState.rank, hidle, VblkStage.rank, VblkPmOp.isWork]
    · cases hstep
  | work env =>
    obtain ⟨-, hworked⟩ := vblkPm_work h.toVblkPmSlots h.signal hcareful hstep
    refine ⟨hworked.pm, hworked.mono, hworked.unanswered, ?_⟩
    intro hwaits
    have hstate : s.dev.queueState = .suspended := by
      rw [h.queueState, hwaits.1]
      rfl
    apply hworked.rank hstate
    intro hstage
    exact h.left hwaits (by simp [hstage, stageSlot]) (by simp [hstage, stageTests])
  | pm => cases hown

theorem VblkPmInv.bounded {ops : List VblkPmOp} (h : VblkPmInv s) (hown : ops.all VblkPmOp.isOwn = true)
    (hcareful : AllSteps (vblkPmStep hsiErrRptInj) vblkPmCareful s ops)
    (hrun : run (vblkPmStep hsiErrRptInj) s ops = some s') (hwaits : s'.waits) :
    s.waits ∧ ops.countP VblkPmOp.isWork + s'.rank ≤ s.rank := by
  induction ops generalizing s with
  | nil =>
    cases hrun
    exact ⟨hwaits, by simp⟩
  | cons op ops ih =>
    obtain ⟨t, hstep, hrest⟩ := run_cons_eq_some.mp hrun
    obtain ⟨hop, hops⟩ := Bool.and_eq_true_iff.mp ((List.all_cons).symm.trans hown)
    obtain ⟨hwaits', hle⟩ := ih (vblkPmInv_step hsiErrRptInj s op t h hcareful.1 hstep) hops
      (hcareful.2 t hstep) hrest
    obtain ⟨hpm, hmono, hun, hrank⟩ := vblkPm_own_step h hcareful.1 hop hstep
    -- A completion and an unanswered slot would still be there.
    have hs : s.waits := by
      refine ⟨hpm ▸ hwaits'.1, ?_, ?_⟩
      · have := hwaits'.2.1
        omega
      · apply List.eq_nil_iff_forall_not_mem.mpr
        intro i hi
        have hmem := hun i hi
        rw [hwaits'.2.2] at hmem
        cases hmem
    refine ⟨hs, ?_⟩
    have hlower := hrank hs
    rw [List.countP_cons]
    omega

theorem VblkPmInv.drains (h : VblkPmInv s) (hsiErrRptInj : Bool) : VblkDrains hsiErrRptInj s where
  drained hpm := h.free (h.drained (by simp [hpm, pmDrained])).1
  kept hpm tag htag := by
    have hempty := h.drained (by simp [hpm, pmDrained])
    obtain ⟨-, hcarried⟩ := stageSettled_free (h.settled hpm)
    rcases h.kept tag htag with (hlist | hend | ⟨r, hr, -⟩) | ⟨i, r, ⟨hi, -⟩, -⟩
    · exact Or.inl hlist
    · exact Or.inr hend
    · rw [hcarried] at hr
      cases hr
    · exact absurd hempty.1 (h.inflight_ne hi)
  silent hpm op s' hstep := by
    have hempty := h.drained (by simp [hpm, pmDrained])
    have hsettled := h.settled hpm
    have hstate : s.dev.queueState = .suspended := by
      rw [h.queueState, hpm]
      rfl
    cases op with
    | request r =>
      simp only [vblkPmStep] at hstep
      split at hstep
      · cases hstep
      · cases hstep
        rfl
    | answer resp =>
      cases hstep
      rfl
    | start =>
      simp only [vblkPmStep] at hstep
      obtain ⟨-, rfl⟩ := Option.ite_some_none_eq_some.mp hstep
      rfl
    | work env =>
      -- The worker is not about to send.
      have hcareful : s.stage.isSending = true → 0 ≤ env.ivcWrite := by
        intro hsending
        cases hs : s.stage <;> simp_all [VblkStage.isSending, stageSettled]
      obtain ⟨-, hworked⟩ := vblkPm_work h.toVblkPmSlots h.signal hcareful hstep
      exact (hworked.settled hstate hempty.1 hsettled).2
    | pm =>
      simp only [vblkPmStep, VblkPmState.power, hpm, Option.some.injEq] at hstep
      subst hstep
      rfl
  progress hwaits := by
    by_cases hidle : s.stage = .idle
    · left
      have hrx := h.left hwaits (by simp [hidle, stageSlot]) (by simp [hidle, stageTests])
      have hwake := h.wake (by simp [hwaits.1, pmWakes]) hrx
      simpa [hidle, stageLooks] using hwake
    · exact Or.inr hidle
  bounded _ ops s' hown hcareful hrun hwaits' := by
    have hle := (h.bounded hown hcareful hrun hwaits').2
    omega
  fresh hpm := h.fresh (by simp [hpm, pmFresh])

/-- **Suspend drains the device** in every run in which it does not look at the count of the requests in
flight between the worker's look at the queue and its reservation, and in which every write of a frame
ends without an error. -/
theorem vblk_suspend_drains (hsiErrRptInj : Bool) {config : VsConfigInfo} {nframes : U32}
    {ivmk : Option (U64 × (ℕ → U8))} {dev : VblkDev}
    (hsetup : setupDevice config nframes ivmk = some dev) {ops : List VblkPmOp} {s : VblkPmState}
    (hcareful : AllSteps (vblkPmStep hsiErrRptInj) vblkPmCareful (vblkPmStart dev) ops)
    (hrun : run (vblkPmStep hsiErrRptInj) (vblkPmStart dev) ops = some s) : VblkDrains hsiErrRptInj s :=
  (run_invariant_of_allSteps (vblkPmInv_step hsiErrRptInj) (vblkPmInv_start hsetup) hcareful
    hrun).drains hsiErrRptInj

/-- A read is sent, suspend waits until its response is handled, and the device resumes. -/
def vblkSuspendOps : List VblkPmOp :=
  let env : VblkSubmitEnv := ⟨true, false, none, 64⟩
  [.request ⟨0, .read, 1, 512, [List.replicate 512 0], none⟩, .start, .work env, .work env, .work env,
    .work env, .work env, .pm, .pm, .work env, .work env, .answer ⟨0, 0, 0, 1⟩, .start, .work env,
    .work env, .work env, .work env, .pm, .work env, .work env, .work env, .pm, .pm, .pm, .pm, .pm, .pm,
    .pm]

theorem vblk_suspend_drains_read : ∃ dev s, setupDevice vblkSmallConfig 32 vblkSmallPool = some dev ∧
      run (vblkPmStep false) (vblkPmStart dev) vblkSuspendOps = some s ∧ VblkDrains false s := by
  have hset : (setupDevice vblkSmallConfig 32 vblkSmallPool).isSome = true := by decide +kernel
  obtain ⟨dev, hdev⟩ := Option.isSome_iff_exists.mp hset
  have hrun : ((setupDevice vblkSmallConfig 32 vblkSmallPool).bind fun dev =>
      run (vblkPmStep false) (vblkPmStart dev) vblkSuspendOps).isSome = true := by decide +kernel
  have hcareful : (setupDevice vblkSmallConfig 32 vblkSmallPool).all (fun dev =>
      decide (AllSteps (vblkPmStep false) vblkPmCareful (vblkPmStart dev) vblkSuspendOps)) = true := by
    decide +kernel
  rw [hdev, Option.bind_some] at hrun
  rw [hdev, Option.all_some, decide_eq_true_eq] at hcareful
  obtain ⟨s, hs⟩ := Option.isSome_iff_exists.mp hrun
  exact ⟨dev, s, hdev, hs, vblk_suspend_drains false hdev hcareful hs⟩

/-- The worker has seen that the queue is active when suspend finds that nothing is in flight. -/
def vblkRaceOps : List VblkPmOp :=
  let env : VblkSubmitEnv := ⟨true, false, none, 64⟩
  [.request ⟨0, .read, 1, 512, [List.replicate 512 0], none⟩, .start, .work env, .work env, .pm, .pm,
    .work env, .work env, .work env, .work env, .work env, .pm, .pm, .pm, .pm]

/-- Suspend returns while a read is in flight. -/
theorem vblk_suspend_in_flight : ∃ dev s, setupDevice vblkSmallConfig 32 vblkSmallPool = some dev ∧
      run (vblkPmStep false) (vblkPmStart dev) vblkRaceOps = some s ∧ s.pm = .suspended ∧
      s.dev.pendingReqs 0 = true ∧ s.unanswered = [0] ∧ ¬ VblkDrains false s := by
  have hrun : ((setupDevice vblkSmallConfig 32 vblkSmallPool).bind fun dev =>
      (run (vblkPmStep false) (vblkPmStart dev) vblkRaceOps).map fun s =>
        (s.pm, s.dev.pendingReqs 0, s.unanswered)) = some (.suspended, true, [0]) := by
    decide +kernel
  obtain ⟨dev, hdev, hrun⟩ := Option.bind_eq_some_iff.mp hrun
  obtain ⟨s, hs, hend⟩ := Option.map_eq_some_iff.mp hrun
  obtain ⟨hpm, hpending, hun⟩ : s.pm = .suspended ∧ s.dev.pendingReqs 0 = true ∧ s.unanswered = [0] := by
    simpa using hend
  refine ⟨dev, s, hdev, hs, hpm, hpending, hun, ?_⟩
  intro h
  have hfree := h.drained hpm 0
  rw [hpending] at hfree
  cases hfree

end NvidiaOot.Analysis
