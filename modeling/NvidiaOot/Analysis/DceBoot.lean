import NvidiaOot.Model.Dce

/-!
# Waits and their own answers

A completion is set only while the thread waits for the answer that it stands for, and is consumed
there; the status in the mailbox is that of the command that the thread has sent.
-/

namespace NvidiaOot.Analysis

open Library Program Model

variable {prev : DceFsmState} {k : DceBootKind} {fsm fsm' : DceFsmInfo} {event : DceFsmEvent} {status : U32}
  {ret : ℤ} {interrupted : Bool}

/-! ## The state machine and the mailbox -/

def bootStates : List DceFsmState := [.fsmIdle, .bootWait, .bootcmdWfi]

/-- The state in which the machine waits for a kind of answer. -/
def waitState : DceBootKind → DceFsmState
  | .boot => .bootWait
  | .cmd => .bootcmdWfi

theorem postLocked_eq_some_iff : dceFsmPostLocked fsm event = some fsm' ↔
      dceFsmValidateEvent fsm event = 0 ∧ dceFsmSetState fsm event = fsm' := by
  unfold dceFsmPostLocked
  split
  · simp [*]
  · simp [*]

theorem validateEvent_eq_zero
    (h : dceFsmValidateEvent fsm event = 0) : dceFsmStateAccepts fsm.cState event = true := by
  unfold dceFsmValidateEvent at h
  split at h
  · simp [eINVAL] at h
  · split at h
    · assumption
    · simp [eINVAL] at h

theorem received_accepted (hstate : fsm.cState ∈ bootStates) (h : dceFsmPostLocked fsm k.received = some fsm') :
    fsm.cState = waitState k ∧ fsm'.cState = .fsmIdle := by
  obtain ⟨hvalid, hset⟩ := postLocked_eq_some_iff.mp h
  have haccepts := validateEvent_eq_zero hvalid
  simp only [bootStates, List.mem_cons, List.not_mem_nil, or_false] at hstate
  constructor
  · rcases hstate with hs | hs | hs <;> cases k <;>
      simp [hs, dceFsmStateAccepts, dceFsmWaitAccepts, DceBootKind.received, waitState] at haccepts ⊢
  · cases k <;> simp [← hset, DceBootKind.received, dceFsmSetState, DceFsmInfo.answer]

theorem received_accepts {fsm : DceFsmInfo} {k : DceBootKind} (hinit : fsm.initialized = true)
    (hstate : fsm.cState = waitState k) :
    dceFsmPostLocked fsm k.received = some (dceFsmSetState fsm k.received) := by
  rw [postLocked_eq_some_iff]
  refine ⟨?_, rfl⟩
  unfold dceFsmValidateEvent
  cases k <;>
    simp [hinit, hstate, waitState, dceFsmStateAccepts, dceFsmWaitAccepts, DceBootKind.received]

theorem initialized_of_post (h : dceFsmPostLocked fsm event = some fsm') : fsm'.initialized = fsm.initialized := by
  rw [← (postLocked_eq_some_iff.mp h).2]
  cases event <;> rfl

theorem requested_accepted (h : dceFsmPostLocked fsm k.requested = some fsm') : fsm'.cState ∈ bootStates := by
  obtain ⟨-, hset⟩ := postLocked_eq_some_iff.mp h
  cases k <;>
    simp [← hset, DceBootKind.requested, dceFsmSetState, DceFsmInfo.request, bootStates]

/-- What the interrupt posts for a status that is valid. -/
def StatusOf (k : DceBootKind) (mb : DceMailbox) : Prop :=
  mb.valid = true → dceBootInterfaceIsr mb = some k.received

theorem statusOf_ready (mb : DceMailbox) : StatusOf .boot { mb with ackValue := DCE_IRQ_READY, valid := true } := by
  intro _
  simp only [dceBootInterfaceIsr, dceMailboxGetInterfaceStatus, if_true]
  decide

theorem statusOf_answer (mb : DceMailbox)
    (htype : dceIrqGetStatusType status = DCE_IRQ_STATUS_TYPE_BOOT_CMD) (hne : status ≠ 0xffffffff) :
    StatusOf .cmd { mb with ackValue := status, valid := true } := by
  intro _
  simp only [dceBootInterfaceIsr, dceMailboxGetInterfaceStatus, if_true]
  rw [if_neg hne, htype]
  rfl

theorem bootInterfaceIsr_of_not_valid {mb : DceMailbox} (h : mb.valid = false) : dceBootInterfaceIsr mb = none := by
  simp [dceBootInterfaceIsr, dceMailboxGetInterfaceStatus, h]

theorem waitResult_eq_zero_iff (mb : DceMailbox) : dceMailboxWaitBootInterfaceResult mb = 0 ↔
      mb.valid = true ∧ mb.ackValue &&& DCE_BOOT_CMD_ERR_FLAG = 0 := by
  unfold dceMailboxWaitBootInterfaceResult dceMailboxGetInterfaceStatus
  cases mb.valid with
  | false => simp [eBADE, DCE_BOOT_CMD_ERR_FLAG]
  | true => simp [eBADE]

/-! ## What the steps keep -/

def hasAnswer : DceThread → Bool
  | .bootPost _ | .bootWake _ | .bootReset _ _ | .cmdStatus _ false => true
  | _ => false

/-- The states before requests that are under way. -/
def prevState : DceThread → DceFsmState
  | .idle => .fsmIdle
  | .bootRead prev | .bootPost prev | .bootWake prev | .bootReset prev _ | .bootWait prev |
    .cmdSend prev | .cmdWait prev | .cmdStatus prev _ | .returning prev _ _ => prev

/-- The thread, the interrupt and the mailbox fit together. -/
structure DceBootTracked (s : DceBootRun) : Prop where
  right : ∀ r ∈ s.returns, r.Right
  noLeftover : s.leftover = false
  initialized : s.fsm.initialized = true
  state : s.fsm.cState ∈ bootStates
  prev : prevState s.thread ∈ bootStates
  completeBoot : s.complete .boot = true → s.answered = true ∧
    (s.thread.awaitsBoot = true ∧ s.fsm.cState = .fsmIdle ∨ ∃ prev, s.thread = .bootReset prev 0)
  completeCmd : s.complete .cmd = true →
    s.answered = true ∧ s.thread.waitsCmd = true ∧ s.fsm.cState = .fsmIdle
  wakeBoot : s.isr = .wake .boot → s.answered = true ∧ s.thread.awaitsBoot = true ∧
    s.fsm.cState = .fsmIdle ∧ s.complete .boot = false
  wakeCmd : s.isr = .wake .cmd → s.answered = true ∧ s.thread.waitsCmd = true ∧
    s.fsm.cState = .fsmIdle ∧ s.complete .cmd = false
  isrBoot : s.isr.isOf .boot = true → s.thread.awaitsBoot = true → s.answered = true
  isrCmd : s.isr.isOf .cmd = true → s.thread.awaitsCmd = true → s.answered = true
  stored : ∀ k, s.isr = .stored k → StatusOf k s.mb ∧
    (k = .cmd → s.mb.ackValue &&& DCE_BOOT_CMD_ERR_FLAG = 0)
  storeAgain : ∀ status, s.isr = .storeAgain status → status &&& DCE_BOOT_CMD_ERR_FLAG = 0
  sending : (∃ prev, s.thread = .cmdSend prev) → s.answered = false ∧ s.mb.sMb = none ∧
    s.commands = [] ∧ s.isr.isOf .cmd = false
  commands : s.thread.awaitsCmd = true → (∀ t ∈ s.commands, t = s.tag) ∧ ∀ t ∈ s.mb.sMb, t = s.tag
  status : s.thread.awaitsCmd = true → s.answered = true →
    s.mb.valid = true ∧ s.mb.ackValue &&& DCE_BOOT_CMD_ERR_FLAG = 0
  unanswered : s.thread.awaitsCmd = true → s.answered = false → s.mb.valid = true →
    s.mb.ackValue &&& DCE_BOOT_CMD_ERR_FLAG ≠ 0
  answered : hasAnswer s.thread = true → s.answered = true
  reset : ∀ prev ret, s.thread = .bootReset prev ret → ret = 0
  returning : ∀ prev ret interrupted, s.thread = .returning prev ret interrupted →
    (ret = 0 → s.answered = true) ∧ (s.answered = true → interrupted = false → ret = 0)

variable {s s' : DceBootRun}

/-! ## Steps of the engine -/

theorem tracked_take (h : DceBootTracked s) (hstep : dceBootStep s .take = some s') : DceBootTracked s' := by
  simp only [dceBootStep] at hstep
  cases hmb : s.mb.sMb with
  | none => simp [hmb] at hstep
  | some tag =>
    simp only [hmb, Option.some.injEq] at hstep
    subst hstep
    exact { h with
      stored := h.stored
      sending := by
        intro hsend
        simp [(h.sending hsend).2.1] at hmb
      commands := by
        intro hawaits
        obtain ⟨hcommands, hmailbox⟩ := h.commands hawaits
        refine ⟨?_, by simp⟩
        intro t ht
        rcases List.mem_append.mp ht with ht | ht
        · exact hcommands t ht
        · rw [List.mem_singleton.mp ht]
          exact hmailbox tag (by simp [hmb]) }

theorem answered_or {b : Bool} (h : s.answered = true) : (s.answered || b) = true := by
  simp [h]

section

variable (h : DceBootTracked s)

include h

theorem tracked_answer
    (hcareful : dceBootCareful s (.answer status)) (hstep : dceBootStep s (.answer status) = some s') :
    DceBootTracked s' := by
  simp only [dceBootStep] at hstep
  cases hcommands : s.commands with
  | nil => simp [hcommands] at hstep
  | cons tag commands =>
    simp only [hcommands] at hstep
    split at hstep
    · rename_i hguard
      obtain ⟨hidle, htype, hne⟩ := hguard
      obtain ⟨mb, hmb, rfl⟩ := Option.map_eq_some_iff.mp hstep
      simp only [dceMailboxStoreInterfaceStatus] at hmb
      split at hmb
      · simp at hmb
      cases hmb
      have hnotSending : ¬ ∃ prev, s.thread = .cmdSend prev := by
        intro hsend
        simp [(h.sending hsend).2.2.1] at hcommands
      have hown : s.thread.awaitsCmd = true → tag = s.tag := by
        intro hawaits
        exact (h.commands hawaits).1 tag (by simp [hcommands])
      have hanswered : s.thread.awaitsCmd = true →
          (s.answered || s.thread.awaitsCmd && decide (tag = s.tag)) = true := by
        intro hawaits
        rw [hawaits, hown hawaits]
        simp
      exact { h with
        completeBoot := fun hc => ⟨answered_or (h.completeBoot hc).1, (h.completeBoot hc).2⟩
        completeCmd := fun hc => ⟨answered_or (h.completeCmd hc).1, (h.completeCmd hc).2⟩
        wakeBoot := by simp
        wakeCmd := by simp
        isrBoot := by simp [DceIsr.isOf]
        isrCmd := fun _ hawaits => hanswered hawaits
        stored := by
          intro k hk
          cases hk
          exact ⟨statusOf_answer s.mb htype hne, fun _ => hcareful⟩
        storeAgain := by simp
        sending := fun hsend => absurd hsend hnotSending
        commands := by
          intro hawaits
          obtain ⟨hmem, hmailbox⟩ := h.commands hawaits
          exact ⟨fun t ht => hmem t (by simp [hcommands, ht]), hmailbox⟩
        status := fun _ _ => ⟨rfl, hcareful⟩
        unanswered := by
          intro hawaits hno
          simp only [hanswered hawaits] at hno
          simp at hno
        answered := fun ha => answered_or (h.answered ha)
        returning := by
          intro prev ret interrupted hthread
          have hnot : s.thread.awaitsCmd = false := by
            simp only at hthread
            simp [hthread, DceThread.awaitsCmd]
          simpa [hnot] using h.returning prev ret interrupted hthread }
    · simp at hstep

theorem tracked_ready (hcareful : dceBootCareful s .ready)
    (hstep : dceBootStep s .ready = some s') : DceBootTracked s' := by
  simp only [dceBootStep] at hstep
  split at hstep
  · obtain ⟨mb, hmb, rfl⟩ := Option.map_eq_some_iff.mp hstep
    simp only [dceMailboxStoreInterfaceStatus] at hmb
    split at hmb
    · simp at hmb
    cases hmb
    have hcmd : s.thread.awaitsCmd = true → s.answered = false := hcareful
    -- The thread is in one handler only.
    have hnot : s.thread.awaitsCmd = true → s.thread.awaitsBoot = false := by
      cases s.thread <;> simp [DceThread.awaitsCmd, DceThread.awaitsBoot]
    exact { h with
      completeBoot := fun hc => ⟨answered_or (h.completeBoot hc).1, (h.completeBoot hc).2⟩
      completeCmd := fun hc => ⟨answered_or (h.completeCmd hc).1, (h.completeCmd hc).2⟩
      wakeBoot := by simp
      wakeCmd := by simp
      isrBoot := by
        intro _ hawaits
        rw [hawaits, Bool.or_true]
      isrCmd := by simp [DceIsr.isOf]
      stored := by
        intro k hk
        cases hk
        exact ⟨statusOf_ready s.mb, by simp⟩
      storeAgain := by simp
      sending := by
        rintro ⟨prev, hthread⟩
        simp only at hthread
        obtain ⟨ha, hmb, hcommands, -⟩ := h.sending ⟨prev, hthread⟩
        simp [ha, hmb, hcommands, hthread, DceThread.awaitsBoot, DceIsr.isOf]
      status := by
        intro hawaits ha
        simp only [hcmd hawaits, hnot hawaits] at ha
        simp at ha
      unanswered := fun _ _ _ => by simp [DCE_IRQ_READY, DCE_BOOT_CMD_ERR_FLAG]
      answered := fun ha => answered_or (h.answered ha)
      returning := by
        intro prev ret interrupted hthread
        simp only at hthread
        simpa [hthread, DceThread.awaitsBoot] using h.returning prev ret interrupted hthread }
  · simp at hstep

/-! ## Steps of the interrupt -/

/-- An interrupt that goes on to something that is no wake-up and no stored status. -/
theorem DceBootTracked.isr_to {isr : DceIsr} (hwake : ∀ k, isr ≠ .wake k)
    (hof : ∀ k, isr.isOf k = true → s.isr.isOf k = true) (hstored : ∀ k, isr ≠ .stored k)
    (hagain : ∀ status, isr = .storeAgain status → status &&& DCE_BOOT_CMD_ERR_FLAG = 0) :
    DceBootTracked { s with isr := isr } :=
  { h with
    wakeBoot := fun hisr => absurd hisr (hwake .boot)
    wakeCmd := fun hisr => absurd hisr (hwake .cmd)
    isrBoot := fun hisr hawaits => h.isrBoot (hof .boot hisr) hawaits
    isrCmd := fun hisr hawaits => h.isrCmd (hof .cmd hisr) hawaits
    stored := fun k hisr => absurd hisr (hstored k)
    storeAgain := hagain
    sending := by
      intro hsend
      obtain ⟨ha, hmb, hcommands, hisr⟩ := h.sending hsend
      refine ⟨ha, hmb, hcommands, ?_⟩
      by_contra hne
      rw [hof .cmd (by simpa using hne)] at hisr
      simp at hisr }

theorem DceBootTracked.isr_idle : DceBootTracked { s with isr := .idle } :=
  h.isr_to (by simp) (by simp [DceIsr.isOf]) (by simp) (by simp)

theorem tracked_isr_stored (hisr : s.isr = .stored k)
    (hstep : s.isrStep = some s') : DceBootTracked s' := by
  simp only [DceBootRun.isrStep, hisr] at hstep
  obtain ⟨hstatus, hflag⟩ := h.stored k hisr
  cases hvalid : s.mb.valid with
  | false =>
    simp only [bootInterfaceIsr_of_not_valid hvalid, Option.some.injEq] at hstep
    exact hstep ▸ h.isr_idle
  | true =>
    simp only [hstatus hvalid] at hstep
    cases k with
    | boot =>
      simp only [DceBootKind.received, reduceCtorEq, if_false, Option.some.injEq] at hstep
      exact hstep ▸ h.isr_to (by simp) (by simp [hisr, DceIsr.isOf]) (by simp) (by simp)
    | cmd =>
      simp only [DceBootKind.received, if_true, dceMailboxGetInterfaceStatus, hvalid, Option.some.injEq] at hstep
      subst hstep
      refine h.isr_to (by simp) (by simp [hisr, DceIsr.isOf]) (by simp) ?_
      intro status hs
      simp only [DceIsr.storeAgain.injEq] at hs
      exact hs ▸ hflag rfl

theorem tracked_isr_storeAgain
    (hisr : s.isr = .storeAgain status) (hstep : s.isrStep = some s') : DceBootTracked s' := by
  simp only [DceBootRun.isrStep, hisr] at hstep
  obtain ⟨mb, hmb, rfl⟩ := Option.map_eq_some_iff.mp hstep
  simp only [dceMailboxStoreInterfaceStatus] at hmb
  split at hmb
  · simp at hmb
  cases hmb
  have hflag := h.storeAgain status hisr
  have hcmd : s.isr.isOf .cmd = true := by simp [hisr, DceIsr.isOf]
  exact { h with
    wakeBoot := by simp
    wakeCmd := by simp
    isrBoot := by simp [DceIsr.isOf]
    isrCmd := fun _ hawaits => h.isrCmd hcmd hawaits
    stored := by simp
    storeAgain := by simp
    sending := by
      intro hsend
      simp [(h.sending hsend).2.2.2] at hcmd
    status := fun _ _ => ⟨rfl, hflag⟩
    unanswered := by
      intro hawaits hno
      simp only [h.isrCmd hcmd hawaits] at hno
      simp at hno }

/-- The interrupt posts its event, which is accepted only where the thread waits. -/
theorem tracked_isr_post (hcareful : dceBootCareful s .isr)
    (hisr : s.isr = .post k) (hstep : s.isrStep = some s') : DceBootTracked s' := by
  simp only [DceBootRun.isrStep, hisr] at hstep
  cases hpost : dceFsmPostLocked s.fsm k.received with
  | none =>
    simp only [hpost, Option.some.injEq] at hstep
    exact hstep ▸ h.isr_idle
  | some fsm =>
    simp only [hpost, Option.some.injEq] at hstep
    subst hstep
    obtain ⟨hwait, hidle⟩ := received_accepted h.state hpost
    have hof : ∀ j, (DceIsr.wake k).isOf j = s.isr.isOf j := by simp [hisr, DceIsr.isOf]
    -- A completion stands for an event that was accepted before.
    have hboot : s.complete .boot = true → s.thread.awaitsBoot = true → s.fsm.cState = .fsmIdle := by
      intro hc hawaits
      rcases (h.completeBoot hc).2 with ⟨-, hs⟩ | ⟨prev, hthread⟩
      · exact hs
      · simp [hthread, DceThread.awaitsBoot] at hawaits
    exact { h with
      initialized := (initialized_of_post hpost).trans h.initialized
      state := by simp [hidle, bootStates]
      completeBoot := by
        intro hc
        obtain ⟨ha, hor⟩ := h.completeBoot hc
        refine ⟨ha, ?_⟩
        rcases hor with ⟨hawaits, -⟩ | hthread
        · exact Or.inl ⟨hawaits, hidle⟩
        · exact Or.inr hthread
      completeCmd := by
        intro hc
        obtain ⟨ha, hwaits, -⟩ := h.completeCmd hc
        exact ⟨ha, hwaits, hidle⟩
      wakeBoot := by
        intro hk
        cases hk
        have hawaits := hcareful.1 hisr hwait
        refine ⟨h.isrBoot (by simp [hisr, DceIsr.isOf]) hawaits, hawaits, hidle, ?_⟩
        by_contra hc
        have hs := hboot (by simpa using hc) hawaits
        simp [hwait, waitState] at hs
      wakeCmd := by
        intro hk
        cases hk
        have hwaits := hcareful.2 hisr hwait
        have hawaits : s.thread.awaitsCmd = true := by
          cases hthread : s.thread <;> simp [hthread, DceThread.waitsCmd] at hwaits ⊢
          rfl
        refine ⟨h.isrCmd (by simp [hisr, DceIsr.isOf]) hawaits, hwaits, hidle, ?_⟩
        by_contra hc
        have hs := (h.completeCmd (by simpa using hc)).2.2
        simp [hwait, waitState] at hs
      isrBoot := fun hk hawaits => h.isrBoot (hof .boot ▸ hk) hawaits
      isrCmd := fun hk hawaits => h.isrCmd (hof .cmd ▸ hk) hawaits
      stored := by simp
      storeAgain := by simp
      sending := by
        intro hsend
        obtain ⟨ha, hmb, hcommands, hcmd⟩ := h.sending hsend
        exact ⟨ha, hmb, hcommands, hof .cmd ▸ hcmd⟩ }

theorem tracked_isr_wake (hisr : s.isr = .wake k)
    (hstep : s.isrStep = some s') : DceBootTracked s' := by
  simp only [DceBootRun.isrStep, hisr, Option.some.injEq] at hstep
  subst hstep
  have hidle := h.isr_idle
  cases k with
  | boot =>
    obtain ⟨ha, hawaits, hs, -⟩ := h.wakeBoot hisr
    exact { hidle with
      completeBoot := fun _ => ⟨ha, Or.inl ⟨hawaits, hs⟩⟩
      completeCmd := fun hc => h.completeCmd (by simpa [DceBootRun.setComplete] using hc)
      wakeBoot := by simp
      wakeCmd := by simp }
  | cmd =>
    obtain ⟨ha, hwaits, hs, -⟩ := h.wakeCmd hisr
    exact { hidle with
      completeBoot := fun hc => h.completeBoot (by simpa [DceBootRun.setComplete] using hc)
      completeCmd := fun _ => ⟨ha, hwaits, hs⟩
      wakeBoot := by simp
      wakeCmd := by simp }

theorem tracked_isr (hcareful : dceBootCareful s .isr)
    (hstep : dceBootStep s .isr = some s') : DceBootTracked s' := by
  simp only [dceBootStep] at hstep
  cases hisr : s.isr with
  | idle => simp [DceBootRun.isrStep, hisr] at hstep
  | stored k => exact tracked_isr_stored h hisr hstep
  | storeAgain status => exact tracked_isr_storeAgain h hisr hstep
  | post k => exact tracked_isr_post h hcareful hisr hstep
  | wake k => exact tracked_isr_wake h hisr hstep

end

/-! ## Steps of the thread -/

/-- The thread waits for nothing, and no completion is left. -/
structure Quiet (s : DceBootRun) : Prop where
  completeBoot : s.complete .boot = false
  completeCmd : s.complete .cmd = false
  wakeBoot : s.isr ≠ .wake .boot
  wakeCmd : s.isr ≠ .wake .cmd

theorem DceBootTracked.prevOf {thread : DceThread} (h : DceBootTracked s) (hthread : s.thread = thread) :
    prevState thread ∈ bootStates := hthread ▸ h.prev

theorem DceBootTracked.complete_boot {thread : DceThread} (h : DceBootTracked s) (hthread : s.thread = thread)
    (hboot : thread.awaitsBoot = false) (hreset : ∀ prev, thread ≠ .bootReset prev 0) : s.complete .boot = false := by
  by_contra hc
  rcases (h.completeBoot (by simpa using hc)).2 with ⟨hawaits, -⟩ | ⟨prev, hprev⟩
  · simp [hthread, hboot] at hawaits
  · exact hreset prev (hthread.symm.trans hprev)

theorem DceBootTracked.complete_cmd {thread : DceThread} (h : DceBootTracked s) (hthread : s.thread = thread)
    (hcmd : thread.waitsCmd = false) : s.complete .cmd = false := by
  by_contra hc
  have hwaits := (h.completeCmd (by simpa using hc)).2.1
  simp [hthread, hcmd] at hwaits

theorem DceBootTracked.wake_cmd {thread : DceThread} (h : DceBootTracked s) (hthread : s.thread = thread)
    (hcmd : thread.waitsCmd = false) : s.isr ≠ .wake .cmd := by
  intro hisr
  have hwaits := (h.wakeCmd hisr).2.1
  simp [hthread, hcmd] at hwaits

theorem DceBootTracked.quiet {thread : DceThread} (h : DceBootTracked s) (hthread : s.thread = thread)
    (hboot : thread.awaitsBoot = false) (hreset : ∀ prev, thread ≠ .bootReset prev 0)
    (hcmd : thread.waitsCmd = false) : Quiet s := by
  refine ⟨h.complete_boot hthread hboot hreset, h.complete_cmd hthread hcmd, fun hisr => ?_, h.wake_cmd hthread hcmd⟩
  have hawaits := (h.wakeBoot hisr).2.1
  simp [hthread, hboot] at hawaits

section

variable (h : DceBootTracked s)

include h

theorem DceBootTracked.goto (hquiet : Quiet s) {thread : DceThread}
    {answered : Bool} (hinit : fsm.initialized = true) (hstate : fsm.cState ∈ bootStates) (hprev : prevState thread ∈ bootStates)
    (hboot : thread.awaitsBoot = false)
    (hcmd : thread.awaitsCmd = true → s.thread.awaitsCmd = true ∧ answered = s.answered)
    (hsend : ∀ prev, thread ≠ .cmdSend prev)
    (hanswered : hasAnswer thread = true → answered = true)
    (hreset : ∀ prev ret, thread = .bootReset prev ret → ret = 0)
    (hreturning : ∀ prev ret interrupted, thread = .returning prev ret interrupted →
      (ret = 0 → answered = true) ∧ (answered = true → interrupted = false → ret = 0)) :
    DceBootTracked { s with fsm := fsm, thread := thread, answered := answered } :=
  { h with
    initialized := hinit
    state := hstate
    prev := hprev
    completeBoot := fun hc => absurd hc (by simp [hquiet.completeBoot])
    completeCmd := fun hc => absurd hc (by simp [hquiet.completeCmd])
    wakeBoot := fun hisr => absurd hisr hquiet.wakeBoot
    wakeCmd := fun hisr => absurd hisr hquiet.wakeCmd
    isrBoot := by simp [hboot]
    isrCmd := fun hisr hawaits => (hcmd hawaits).2.trans (h.isrCmd hisr (hcmd hawaits).1)
    sending := fun ⟨prev, hthread⟩ => absurd hthread (hsend prev)
    commands := fun hawaits => h.commands (hcmd hawaits).1
    status := fun hawaits ha => h.status (hcmd hawaits).1 ((hcmd hawaits).2.symm.trans ha)
    unanswered := fun hawaits ha => h.unanswered (hcmd hawaits).1 ((hcmd hawaits).2.symm.trans ha)
    answered := hanswered
    reset := hreset
    returning := hreturning }

theorem DceBootTracked.returned (hquiet : Quiet s) (hprev : prev ∈ bootStates)
    (hzero : ret = 0 → s.answered = true) (hanswered : s.answered = true → interrupted = false → ret = 0) :
    DceBootTracked { s with thread := .returning prev ret interrupted } := by
  refine h.goto hquiet h.initialized h.state hprev rfl nofun (by simp) (by simp [hasAnswer]) (by simp) ?_
  intro prev' ret' interrupted' hthread
  obtain ⟨-, rfl, rfl⟩ := DceThread.returning.inj hthread
  exact ⟨hzero, hanswered⟩

theorem DceBootTracked.clear (k : DceBootKind) : DceBootTracked (s.setComplete k false) :=
  { h with
    completeBoot := by
      intro hc
      cases k with
      | boot => simp [DceBootRun.setComplete] at hc
      | cmd => exact h.completeBoot (by simpa [DceBootRun.setComplete] using hc)
    completeCmd := by
      intro hc
      cases k with
      | boot => exact h.completeCmd (by simpa [DceBootRun.setComplete] using hc)
      | cmd => simp [DceBootRun.setComplete] at hc
    wakeBoot := by
      intro hisr
      obtain ⟨ha, hawaits, hs, hc⟩ := h.wakeBoot hisr
      refine ⟨ha, hawaits, hs, ?_⟩
      cases k with
      | boot => simp [DceBootRun.setComplete]
      | cmd => simpa [DceBootRun.setComplete] using hc
    wakeCmd := by
      intro hisr
      obtain ⟨ha, hwaits, hs, hc⟩ := h.wakeCmd hisr
      refine ⟨ha, hwaits, hs, ?_⟩
      cases k with
      | boot => simpa [DceBootRun.setComplete] using hc
      | cmd => simp [DceBootRun.setComplete] }

theorem tracked_interrupt (hcareful : dceBootCareful s .interrupt)
    (hstep : dceBootStep s .interrupt = some s') : DceBootTracked s' := by
  simp only [dceBootStep] at hstep
  obtain ⟨hwakeBoot, hwakeCmd⟩ := hcareful
  cases hthread : s.thread with
  | bootWait prev =>
    simp only [hthread] at hstep
    split at hstep
    · simp at hstep
    rename_i hc
    cases hstep
    have hprev : prev ∈ bootStates := h.prevOf hthread
    apply h.returned _ hprev
    · simp [eINTR]
    · simp
    · exact ⟨by simpa using hc, h.complete_cmd hthread rfl, hwakeBoot, hwakeCmd⟩
  | cmdWait prev =>
    simp only [hthread] at hstep
    split at hstep
    · simp at hstep
    rename_i hc
    cases hstep
    have hquiet : Quiet s := ⟨h.complete_boot hthread rfl nofun, by simpa using hc, hwakeBoot, hwakeCmd⟩
    have hprev : prev ∈ bootStates := h.prevOf hthread
    exact h.goto hquiet h.initialized h.state hprev rfl (by simp [hthread, DceThread.awaitsCmd])
      (by simp) (by simp [hasAnswer]) (by simp) (by simp)
  | idle | bootRead prev | bootPost prev | bootWake prev | bootReset prev ret | cmdSend prev
  | cmdStatus prev interrupted | returning prev ret interrupted => simp [hthread] at hstep

theorem tracked_request
    (hcareful : dceBootCareful s (.request k)) (hstep : dceBootStep s (.request k) = some s') :
    DceBootTracked s' := by
  simp only [dceBootStep] at hstep
  split at hstep
  · rename_i hidle
    simp only [Option.some.injEq] at hstep
    have hquiet := h.quiet hidle rfl nofun rfl
    have hleft : (s.leftover || s.complete k) = false := by
      cases k with
      | boot => simp [h.noLeftover, hquiet.completeBoot]
      | cmd => simp [h.noLeftover, hquiet.completeCmd]
    subst hstep
    unfold DceBootRun.request
    simp only
    cases hpost : dceFsmPostLocked s.fsm k.requested with
    | none =>
      have hrefused : DceBootTracked { s with answered := false } :=
        h.goto hquiet h.initialized h.state h.prev (by simp [hidle, DceThread.awaitsBoot])
          (by simp [hidle, DceThread.awaitsCmd]) (by simp [hidle]) (by simp [hidle, hasAnswer]) (by simp [hidle])
          (by simp [hidle])
      exact { hrefused with
        right := by
          intro r hr
          rcases List.mem_append.mp hr with hr | hr
          · exact h.right r hr
          · rw [List.mem_singleton.mp hr]
            exact ⟨by simp [eINVAL], by simp⟩
        noLeftover := hleft
        commands := by simp [hidle, DceThread.awaitsCmd] }
    | some fsm =>
      exact { h with
        noLeftover := hleft
        initialized := (initialized_of_post hpost).trans h.initialized
        state := requested_accepted hpost
        prev := by
          cases k with
          | boot | cmd => exact h.state
        completeBoot := fun hc => absurd hc (by simp [hquiet.completeBoot])
        completeCmd := fun hc => absurd hc (by simp [hquiet.completeCmd])
        wakeBoot := fun hisr => absurd hisr hquiet.wakeBoot
        wakeCmd := fun hisr => absurd hisr hquiet.wakeCmd
        isrBoot := by
          intro hisr hawaits
          cases k with
          | boot => exact absurd hisr (by simpa [dceBootCareful] using hcareful)
          | cmd => simp [DceBootKind.start, DceThread.awaitsBoot] at hawaits
        isrCmd := by
          intro _ hawaits
          cases k <;> simp [DceBootKind.start, DceThread.awaitsCmd] at hawaits
        sending := by
          rintro ⟨prev, hthread⟩
          cases k with
          | boot => simp [DceBootKind.start] at hthread
          | cmd => exact ⟨rfl, hcareful⟩
        commands := by cases k <;> simp [DceBootKind.start, DceThread.awaitsCmd]
        status := by simp
        unanswered := by cases k <;> simp [DceBootKind.start, DceThread.awaitsCmd]
        answered := by cases k <;> simp [DceBootKind.start, hasAnswer]
        reset := by cases k <;> simp [DceBootKind.start]
        returning := by cases k <;> simp [DceBootKind.start] }
  · simp at hstep

theorem tracked_bootRead (hthread : s.thread = .bootRead prev)
    (hstep : s.threadStep = some s') : DceBootTracked s' := by
  simp only [DceBootRun.threadStep, hthread] at hstep
  have hawaits : s.thread.awaitsBoot = true := by simp [hthread, DceThread.awaitsBoot]
  have hcmd := h.complete_cmd hthread rfl
  have hwake := h.wake_cmd hthread rfl
  have hboot : s.complete .boot = true → s.answered = true ∧ s.fsm.cState = .fsmIdle := by
    intro hc
    obtain ⟨ha, hor⟩ := h.completeBoot hc
    rcases hor with ⟨-, hs⟩ | ⟨prev', hb⟩
    · exact ⟨ha, hs⟩
    · simp [hthread] at hb
  have hprev : prev ∈ bootStates := h.prevOf hthread
  split at hstep
  · cases hstep
    exact { h with
      prev := hprev
      completeBoot := fun hc => ⟨rfl, Or.inl ⟨rfl, (hboot hc).2⟩⟩
      completeCmd := fun hc => absurd hc (by simp [hcmd])
      wakeBoot := fun hisr => ⟨rfl, rfl, (h.wakeBoot hisr).2.2⟩
      wakeCmd := fun hisr => absurd hisr hwake
      isrBoot := fun _ _ => rfl
      isrCmd := by simp [DceThread.awaitsCmd]
      sending := by simp
      commands := by simp [DceThread.awaitsCmd]
      status := by simp [DceThread.awaitsCmd]
      unanswered := by simp
      answered := fun _ => rfl
      reset := by simp
      returning := by simp }
  cases hstep
  exact { h with
    prev := hprev
    completeBoot := fun hc => ⟨(hboot hc).1, Or.inl ⟨rfl, (hboot hc).2⟩⟩
    completeCmd := fun hc => absurd hc (by simp [hcmd])
    wakeBoot := fun hisr => ⟨(h.wakeBoot hisr).1, rfl, (h.wakeBoot hisr).2.2⟩
    wakeCmd := fun hisr => absurd hisr hwake
    isrBoot := fun hisr _ => h.isrBoot hisr hawaits
    isrCmd := by simp [DceThread.awaitsCmd]
    sending := by simp
    commands := by simp [DceThread.awaitsCmd]
    status := by simp [DceThread.awaitsCmd]
    unanswered := by simp [DceThread.awaitsCmd]
    answered := by simp [hasAnswer]
    reset := by simp
    returning := by simp }

theorem tracked_bootPost
    (hcareful : dceBootCareful s .thread) (hthread : s.thread = .bootPost prev)
    (hstep : s.threadStep = some s') : DceBootTracked s' := by
  have hwaits : s.fsm.cState = .bootWait := hcareful (by simp [hthread, DceThread.postsBoot])
  have ha : s.answered = true := h.answered (by simp [hthread, hasAnswer])
  have hprev : prev ∈ bootStates := h.prevOf hthread
  have hquiet : Quiet s := by
    constructor
    · by_contra hc
      rcases (h.completeBoot (by simpa using hc)).2 with ⟨-, hs⟩ | ⟨prev', hb⟩
      · simp [hwaits] at hs
      · simp [hthread] at hb
    · exact h.complete_cmd hthread rfl
    · intro hisr
      have hs := (h.wakeBoot hisr).2.2.1
      simp [hwaits] at hs
    · exact h.wake_cmd hthread rfl
  have hpost := @received_accepts s.fsm .boot h.initialized hwaits
  simp only [DceBootKind.received] at hpost
  simp only [DceBootRun.threadStep, hthread, hpost, Option.some.injEq] at hstep
  subst hstep
  exact h.goto hquiet h.initialized (by simp [dceFsmSetState, DceFsmInfo.answer, bootStates]) hprev rfl nofun (by simp)
    (fun _ => ha) (by simp) (by simp)

/-- The callback of its own event sets the completion, and the handler resets it. -/
theorem tracked_bootWake (hthread : s.thread = .bootWake prev)
    (hstep : s.threadStep = some s') : DceBootTracked s' := by
  have ha : s.answered = true := h.answered (by simp [hthread, hasAnswer])
  have hprev : prev ∈ bootStates := h.prevOf hthread
  have hquiet := h.quiet hthread rfl nofun rfl
  simp only [DceBootRun.threadStep, hthread, Option.some.injEq] at hstep
  subst hstep
  have hreset : DceBootTracked { s with thread := .bootReset prev 0 } :=
    h.goto hquiet h.initialized h.state hprev rfl nofun (by simp) (fun _ => ha) (by simp) (by simp)
  exact { hreset with
    completeBoot := fun _ => ⟨ha, Or.inr ⟨prev, rfl⟩⟩
    completeCmd := fun hc => absurd hc (by simp [DceBootRun.setComplete, hquiet.completeCmd])
    wakeBoot := fun hisr => absurd hisr hquiet.wakeBoot
    wakeCmd := fun hisr => absurd hisr hquiet.wakeCmd }

end

/-- Without a completion of the other kind, a consumed completion leaves nothing. -/
theorem quiet_clear_boot {thread : DceThread} (h : DceBootTracked s) (hthread : s.thread = thread)
    (hcmd : thread.waitsCmd = false) (hwake : s.isr ≠ .wake .boot) : Quiet (s.setComplete .boot false) :=
  ⟨by simp [DceBootRun.setComplete], by simpa [DceBootRun.setComplete] using h.complete_cmd hthread hcmd, hwake,
    h.wake_cmd hthread hcmd⟩

section

variable (h : DceBootTracked s)

include h

theorem tracked_bootReset
    (hthread : s.thread = .bootReset prev ret) (hstep : s.threadStep = some s') : DceBootTracked s' := by
  have ha : s.answered = true := h.answered (by simp [hthread, hasAnswer])
  have hprev : prev ∈ bootStates := h.prevOf hthread
  simp only [DceBootRun.threadStep, hthread, Option.some.injEq] at hstep
  subst hstep
  apply (h.clear .boot).returned _ hprev
  · exact fun _ => ha
  · exact fun _ _ => h.reset prev ret hthread
  · refine quiet_clear_boot h hthread rfl fun hisr => ?_
    have hawaits := (h.wakeBoot hisr).2.1
    simp [hthread, DceThread.awaitsBoot] at hawaits

theorem tracked_bootWait (hthread : s.thread = .bootWait prev)
    (hstep : s.threadStep = some s') : DceBootTracked s' := by
  have hprev : prev ∈ bootStates := h.prevOf hthread
  simp only [DceBootRun.threadStep, hthread] at hstep
  obtain ⟨hc, rfl⟩ := Option.ite_some_none_eq_some.mp hstep
  have ha := (h.completeBoot hc).1
  apply (h.clear .boot).returned _ hprev
  · exact fun _ => ha
  · exact fun _ _ => rfl
  · refine quiet_clear_boot h hthread rfl fun hisr => ?_
    have hno := (h.wakeBoot hisr).2.2.2
    simp [hc] at hno

theorem tracked_cmdSend (hthread : s.thread = .cmdSend prev)
    (hstep : s.threadStep = some s') : DceBootTracked s' := by
  have hprev : prev ∈ bootStates := h.prevOf hthread
  obtain ⟨ha, hmb, hcommands, hisr⟩ := h.sending ⟨prev, hthread⟩
  have hquiet := h.quiet hthread rfl nofun rfl
  simp only [DceBootRun.threadStep, hthread] at hstep
  obtain ⟨r, hsend, rfl⟩ := Option.map_eq_some_iff.mp hstep
  simp only [dceMailboxSendCmd, hmb] at hsend
  split at hsend
  · simp at hsend
  cases hsend
  exact { h with
    prev := hprev
    completeBoot := fun hc => absurd hc (by simp [hquiet.completeBoot])
    completeCmd := fun hc => absurd hc (by simp [hquiet.completeCmd])
    wakeBoot := fun hisr => absurd hisr hquiet.wakeBoot
    wakeCmd := fun hisr => absurd hisr hquiet.wakeCmd
    isrBoot := by simp [DceThread.awaitsBoot]
    isrCmd := fun hcmd => absurd hcmd (by simp [hisr])
    stored := by
      intro k hk
      exact ⟨by simp [StatusOf], (h.stored k hk).2⟩
    sending := by simp
    commands := by simp [hcommands]
    status := fun _ hno => absurd hno (by simp [ha])
    unanswered := by simp
    answered := by simp [hasAnswer]
    reset := by simp
    returning := by simp }

theorem tracked_cmdWait (hthread : s.thread = .cmdWait prev)
    (hstep : s.threadStep = some s') : DceBootTracked s' := by
  have hprev : prev ∈ bootStates := h.prevOf hthread
  have hawaits : s.thread.awaitsCmd = true := by simp [hthread, DceThread.awaitsCmd]
  simp only [DceBootRun.threadStep, hthread] at hstep
  obtain ⟨hc, rfl⟩ := Option.ite_some_none_eq_some.mp hstep
  have hclear := h.clear .cmd
  have hquiet : Quiet (s.setComplete .cmd false) := by
    refine ⟨hclear.complete_boot hthread rfl nofun, by simp [DceBootRun.setComplete], ?_, ?_⟩
    · intro hisr
      have hb := (h.wakeBoot hisr).2.1
      simp [hthread, DceThread.awaitsBoot] at hb
    · intro hisr
      have hno := (h.wakeCmd hisr).2.2.2
      simp [hc] at hno
  exact hclear.goto hquiet h.initialized h.state hprev rfl (fun _ => ⟨hawaits, rfl⟩) (by simp)
    (fun _ => (h.completeCmd hc).1) (by simp) (by simp)

theorem tracked_cmdStatus
    (hthread : s.thread = .cmdStatus prev interrupted) (hstep : s.threadStep = some s') : DceBootTracked s' := by
  have hprev : prev ∈ bootStates := h.prevOf hthread
  have hawaits : s.thread.awaitsCmd = true := by simp [hthread, DceThread.awaitsCmd]
  simp only [DceBootRun.threadStep, hthread, Option.some.injEq] at hstep
  subst hstep
  apply h.returned _ hprev
  · intro hret
    obtain ⟨hvalid, hflag⟩ := (waitResult_eq_zero_iff s.mb).mp hret
    by_contra hno
    exact h.unanswered hawaits (by simpa using hno) hvalid hflag
  · intro ha _
    exact (waitResult_eq_zero_iff s.mb).mpr (h.status hawaits ha)
  · exact h.quiet hthread rfl nofun rfl

theorem tracked_returning
    (hthread : s.thread = .returning prev ret interrupted) (hstep : s.threadStep = some s') :
    DceBootTracked s' := by
  have hprev : prev ∈ bootStates := h.prevOf hthread
  obtain ⟨hzero, hanswered⟩ := h.returning prev ret interrupted hthread
  have hquiet := h.quiet hthread rfl nofun rfl
  simp only [DceBootRun.threadStep, hthread, Option.some.injEq] at hstep
  subst hstep
  have hidle : ∀ fsm, fsm = s.fsm ∨ fsm = { s.fsm with cState := prev } →
      DceBootTracked { s with fsm := fsm, thread := .idle } := by
    intro fsm hfsm
    have hkeeps : fsm.initialized = true ∧ fsm.cState ∈ bootStates := by
      rcases hfsm with rfl | rfl
      · exact ⟨h.initialized, h.state⟩
      · exact ⟨h.initialized, hprev⟩
    exact h.goto hquiet hkeeps.1 hkeeps.2 (by simp [prevState, bootStates]) rfl nofun (by simp) (by simp [hasAnswer])
      (by simp) (by simp)
  exact { hidle _ (ite_eq_or_eq _ _ _) with
    right := by
      intro r hr
      rcases List.mem_append.mp hr with hr | hr
      · exact h.right r hr
      · rw [List.mem_singleton.mp hr]
        exact ⟨hzero, hanswered⟩ }

theorem tracked_thread (hcareful : dceBootCareful s .thread)
    (hstep : dceBootStep s .thread = some s') : DceBootTracked s' := by
  simp only [dceBootStep] at hstep
  cases hthread : s.thread with
  | idle => simp [DceBootRun.threadStep, hthread] at hstep
  | bootRead prev => exact tracked_bootRead h hthread hstep
  | bootPost prev => exact tracked_bootPost h hcareful hthread hstep
  | bootWake prev => exact tracked_bootWake h hthread hstep
  | bootReset prev ret => exact tracked_bootReset h hthread hstep
  | bootWait prev => exact tracked_bootWait h hthread hstep
  | cmdSend prev => exact tracked_cmdSend h hthread hstep
  | cmdWait prev => exact tracked_cmdWait h hthread hstep
  | cmdStatus prev interrupted => exact tracked_cmdStatus h hthread hstep
  | returning prev ret interrupted => exact tracked_returning h hthread hstep

end

/-! ## Runs -/

/-- **Step.** -/
theorem dceBoot_tracked_step (s : DceBootRun) (op : DceBootOp) (s' : DceBootRun)
    (h : DceBootTracked s) (hcareful : dceBootCareful s op) (hstep : dceBootStep s op = some s') :
    DceBootTracked s' := by
  cases op with
  | request k => exact tracked_request h hcareful hstep
  | thread => exact tracked_thread h hcareful hstep
  | interrupt => exact tracked_interrupt h hcareful hstep
  | sema b =>
    cases hstep
    exact { h with }
  | take => exact tracked_take h hstep
  | answer status => exact tracked_answer h hcareful hstep
  | ready => exact tracked_ready h hcareful hstep
  | isr => exact tracked_isr h hcareful hstep

/-- **Waits.**  If requests are posted with no answer to an earlier one about, no wait is interrupted
while its answer is handled, the handler of the boot is not overtaken, and statuses have no error and
are not written over, then every request returns 0 just with its own answer, and none is posted with
a completion left. -/
theorem dce_waits_sound {requestedIpcs : U32} {sema : Bool} {ackValue : U32} {valid : Bool}
    {ops : List DceBootOp} {s : DceBootRun}
    (hcareful : AllSteps dceBootStep dceBootCareful (dceBootStart requestedIpcs sema ackValue valid) ops)
    (hrun : run dceBootStep (dceBootStart requestedIpcs sema ackValue valid) ops = some s) : s.Sound := by
  have hstart : DceBootTracked (dceBootStart requestedIpcs sema ackValue valid) := by
    constructor <;> simp [dceBootStart, bootStates, prevState, DceThread.awaitsBoot,
      DceThread.awaitsCmd, DceIsr.isOf, hasAnswer]
  have h := run_invariant_of_allSteps dceBoot_tracked_step hstart hcareful hrun
  exact ⟨h.right, h.noLeftover⟩

/-- The engine becomes ready while the driver waits, a command is answered, and the wait of another
one is interrupted before its answer comes. -/
def dceBootOps : List DceBootOp :=
  [.request .boot, .thread, .sema true, .ready, .isr, .isr, .isr, .thread, .thread,
    .request .cmd, .thread, .take, .answer 0x8000000, .isr, .isr, .isr, .isr, .thread, .thread, .thread,
    .request .cmd, .thread, .take, .interrupt, .thread, .thread, .answer 0x8000000, .isr, .isr, .isr]

theorem dce_waits_sound_boot : ∃ s, run dceBootStep (dceBootStart 0 false 0 false) dceBootOps = some s ∧
      s.returns = [⟨0, true, false⟩, ⟨0, true, false⟩, ⟨-eBADE, false, true⟩] ∧ s.Sound := by
  refine exists_of_map DceBootRun.returns [⟨0, true, false⟩, ⟨0, true, false⟩, ⟨-eBADE, false, true⟩]
    (by decide +kernel) fun s hs hreturns => ?_
  exact ⟨hreturns, dce_waits_sound (by decide +kernel) hs⟩

/-- The interrupt of readiness is handled before the handler of the boot reads the bit. -/
theorem dce_ready_overtakes : ∃ s, run dceBootStep (dceBootStart 0 true 0 false)
        [.request .boot, .ready, .isr, .isr, .isr, .thread, .thread, .thread, .thread] = some s ∧
      s.returns = [⟨-eINVAL, true, false⟩] ∧ ¬ s.Sound := by
  refine exists_of_map DceBootRun.returns [⟨-eINVAL, true, false⟩] (by decide +kernel) fun s hs hreturns => ?_
  refine ⟨hreturns, ?_⟩
  intro hsound
  have hright := hsound.returns ⟨-eINVAL, true, false⟩ (by simp [hreturns])
  exact absurd (hright.answered rfl rfl) (by simp [eINVAL])

end NvidiaOot.Analysis
