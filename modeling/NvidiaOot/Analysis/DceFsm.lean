import NvidiaOot.Library.BitTable
import NvidiaOot.Model.Dce

/-!
# The state machine under concurrent events

Each event keeps the bits in step with the requests that are outstanding.  The rest of the code is off
it: the state of an abort accepts everything, the rollback sets the state only, and sets it whatever
has happened since.
-/

namespace NvidiaOot.Analysis

open Library Program Model Function

/-! ## Bits -/

theorem waitId_lt (k : DceWait) : k.id < 32 := by
  cases k <;> simp [DceWait.id]

theorem waitId_inj {j k : DceWait} (h : j.id = k.id) : j = k := by
  cases j <;> cases k <;> simp [DceWait.id] at h ⊢

theorem and_waitBit_ne_zero_iff (w : U32) (k : DceWait) : w &&& k.bit ≠ 0 ↔ w.getLsbD k.id = true := by
  unfold DceWait.bit
  constructor
  · intro h
    by_contra hbit
    apply h
    apply BitVec.eq_of_getLsbD_eq
    intro i hi
    rw [BitVec.getLsbD_and, getLsbD_one_shiftLeft hi]
    by_cases heq : i = k.id
    · simpa [heq] using hbit
    · simp [heq]
  · intro hbit h
    have hread := congrArg (fun x => x.getLsbD k.id) h
    simp only [BitVec.getLsbD_and, getLsbD_one_shiftLeft (waitId_lt k), hbit] at hread
    simp at hread

theorem request_bit (fsm : DceFsmInfo) (state : DceFsmState) (j k : DceWait) :
    (fsm.request state j).requestedIpcs &&& k.bit ≠ 0 ↔ fsm.requestedIpcs &&& k.bit ≠ 0 ∨ k = j := by
  rw [and_waitBit_ne_zero_iff, and_waitBit_ne_zero_iff, DceFsmInfo.request, BitVec.getLsbD_or,
    DceWait.bit, getLsbD_one_shiftLeft (waitId_lt k), Bool.or_eq_true, decide_eq_true_iff]
  constructor
  · rintro (hbit | heq)
    · exact Or.inl hbit
    · exact Or.inr (waitId_inj heq)
  · rintro (hbit | rfl)
    · exact Or.inl hbit
    · exact Or.inr rfl

theorem answer_bit (fsm : DceFsmInfo) (state : DceFsmState) (j k : DceWait) :
    (fsm.answer state j).requestedIpcs &&& k.bit ≠ 0 ↔ fsm.requestedIpcs &&& k.bit ≠ 0 ∧ k ≠ j := by
  rw [and_waitBit_ne_zero_iff, and_waitBit_ne_zero_iff, DceFsmInfo.answer, BitVec.getLsbD_and,
    BitVec.getLsbD_not, DceWait.bit, getLsbD_one_shiftLeft (waitId_lt k), Bool.and_eq_true]
  have hne : (decide (k.id < 32) && !decide (k.id = j.id)) = true ↔ k ≠ j := by
    simp only [waitId_lt k, decide_true, Bool.true_and, Bool.not_eq_true', decide_eq_false_iff_not]
    exact ⟨fun h heq => h (congrArg DceWait.id heq), fun h heq => h (waitId_inj heq)⟩
  rw [hne]

/-! ## Events -/

/-- The bits are the kinds of the requests that are outstanding. -/
def BitsAgree (fsm : DceFsmInfo) (outstanding : List (ℕ × DceWait)) : Prop :=
  ∀ k : DceWait, fsm.requestedIpcs &&& k.bit ≠ 0 ↔ ∃ i, (i, k) ∈ outstanding

variable {fsm : DceFsmInfo} {outstanding : List (ℕ × DceWait)}

theorem BitsAgree.request (h : BitsAgree fsm outstanding) (state : DceFsmState) (i : ℕ) (j : DceWait) :
    BitsAgree (fsm.request state j) (outstanding ++ [(i, j)]) := by
  intro k
  rw [request_bit, h k]
  constructor
  · rintro (⟨i', hmem⟩ | rfl)
    · exact ⟨i', by simp [hmem]⟩
    · exact ⟨i, by simp⟩
  · rintro ⟨i', hmem⟩
    simp only [List.mem_append, List.mem_singleton, Prod.mk.injEq] at hmem
    rcases hmem with hmem | ⟨-, rfl⟩
    · exact Or.inl ⟨i', hmem⟩
    · exact Or.inr rfl

theorem BitsAgree.answer (h : BitsAgree fsm outstanding) (state : DceFsmState) (j : DceWait) :
    BitsAgree (fsm.answer state j) (outstanding.filter fun r => r.2 ≠ j) := by
  intro k
  rw [answer_bit, h k]
  simp

theorem bitsAgree_nil (state : DceFsmState) : BitsAgree { fsm with cState := state, requestedIpcs := 0 } [] := by
  intro k
  simp

theorem BitsAgree.setState (h : BitsAgree fsm outstanding) (i : ℕ) (event : DceFsmEvent) :
    BitsAgree (dceFsmSetState fsm event) (outstandingAfter outstanding i event) := by
  cases event with
  | fsmStart | sc7ExitReceived => apply bitsAgree_nil
  | bootCompleteRequested => apply h.request
  | bootCmdMsgRequested | adminIpcMsgRequested | sc7EnterRequested | logRequested => apply h.request
  | bootCompleteReceived => apply h.answer
  | bootCmdMsgReceived | adminIpcMsgReceived | sc7EnteredReceived | logReadyReceived => apply h.answer
  | invalid | abortReceived | crashLogReceived | logOverflowReceived | fsmStop => exact h

theorem cState_of_isAbort {event : DceFsmEvent} (h : isAbort event = true) :
    (dceFsmSetState fsm event).cState = .abort := by
  simp only [isAbort, decide_eq_true_eq] at h
  rcases h with rfl | rfl | rfl
  · rfl
  · rfl
  · rfl

theorem canFail_of_isAbort {event : DceFsmEvent} (h : isAbort event = true) : event.canFail = false := by
  simp only [isAbort, decide_eq_true_eq] at h
  rcases h with rfl | rfl | rfl
  · rfl
  · rfl
  · rfl

/-! ## Runs -/

/-- What the steps keep: besides the promise, that an abort is in effect until the machine is stopped,
and that the posts behind it are the abort's own. -/
structure DceFsmTracked (s : DceFsmRun) : Prop where
  sound : s.Sound
  aborted : s.aborted = true → s.fsm.cState = .abort
  latest : s.aborted = true → ∀ i p, s.posts i = some p → p.later = false → isAbort p.event = true
  failing : ∀ i p, s.posts i = some p → p.failed = true → p.event.canFail = true

variable {s s' : DceFsmRun}

theorem tracked_post {event : DceFsmEvent} (h : DceFsmTracked s)
    (hcareful : dceFsmCareful s (.post event)) (hstep : dceFsmStep s (.post event) = some s') :
    DceFsmTracked s' := by
  simp only [dceFsmStep] at hstep
  cases hpost : dceFsmPostLocked s.fsm event with
  | none =>
    simp only [hpost, Option.some.injEq] at hstep
    exact hstep ▸ h
  | some fsm =>
    simp only [hpost, Option.some.injEq] at hstep
    have hfsm : fsm = dceFsmSetState s.fsm event := by
      simp only [dceFsmPostLocked] at hpost
      split at hpost
      · exact (Option.some.inj hpost).symm
      · simp at hpost
    subst hstep hfsm
    have hstop : s.aborted = true → event = .fsmStop := fun ha => hcareful (h.aborted ha)
    constructor
    · constructor
      · apply BitsAgree.setState h.sound.bits
      · exact h.sound.notOverwritten
      · simp only [DceFsmRun.accept, h.sound.notAcceptedAborted, Bool.false_or]
        cases ha : s.aborted with
        | false => simp
        | true =>
          rw [hstop ha]
          simp [isRequestOrAnswer, requestKind, answerKind, isAbort]
    · intro ha
      simp only [DceFsmRun.accept] at ha ⊢
      split at ha
      · rename_i habort
        exact cState_of_isAbort habort
      · simp only [Bool.and_eq_true, decide_eq_true_eq] at ha
        exact absurd (hstop ha.1) ha.2
    · intro ha i p hp hlater
      simp only [DceFsmRun.accept] at ha hp
      split at ha
      · rename_i habort
        split at hp
        · cases hp
          exact habort
        · obtain ⟨q, -, rfl⟩ := Option.map_eq_some_iff.mp hp
          simp at hlater
      · simp only [Bool.and_eq_true, decide_eq_true_eq] at ha
        exact absurd (hstop ha.1) ha.2
    · intro i p hp hfailed
      simp only [DceFsmRun.accept] at hp
      split at hp
      · rw [← Option.some.inj hp] at hfailed
        simp at hfailed
      · obtain ⟨q, hq, rfl⟩ := Option.map_eq_some_iff.mp hp
        exact h.failing i q hq hfailed

theorem update_none {posts : ℕ → Option DcePost} {i j : ℕ} {p : DcePost}
    (h : update posts i none j = some p) : posts j = some p := by
  by_cases hij : j = i
  · simp [hij] at h
  · simpa [update_of_ne hij] using h

theorem tracked_callback {i : ℕ} {ret : ℤ} (h : DceFsmTracked s)
    (hcareful : dceFsmCareful s (.callback i ret)) (hstep : dceFsmStep s (.callback i ret) = some s') :
    DceFsmTracked s' := by
  simp only [dceFsmStep] at hstep
  cases hi : s.posts i with
  | none => simp [hi] at hstep
  | some p =>
    simp only [hi] at hstep
    split at hstep
    · simp at hstep
    split at hstep
    · cases hstep
      refine ⟨⟨h.sound.bits, h.sound.notOverwritten, h.sound.notAcceptedAborted⟩, h.aborted, ?_, ?_⟩
      · exact fun ha j q hq => h.latest ha j q (update_none hq)
      · exact fun j q hq => h.failing j q (update_none hq)
    rename_i hret
    obtain ⟨hfail, rfl⟩ := Option.ite_some_none_eq_some.mp hstep
    refine ⟨⟨?_, h.sound.notOverwritten, h.sound.notAcceptedAborted⟩, h.aborted, ?_, ?_⟩
    · -- A request of the kind is still outstanding, or it was not before.
      intro k
      rw [h.sound.bits k]
      constructor
      · rintro ⟨j, hmem⟩
        by_cases hji : j = i
        · obtain ⟨r, hr, hne, hk⟩ := hcareful hret (j, k) hmem hji
          have hrk : r = (r.1, k) := Prod.ext rfl hk
          refine ⟨r.1, ?_⟩
          rw [← hrk]
          simp [hr, hne]
        · exact ⟨j, by simp [hmem, hji]⟩
      · rintro ⟨j, hmem⟩
        exact ⟨j, (List.mem_filter.mp hmem).1⟩
    · intro ha j q hq hlater
      by_cases hji : j = i
      · subst hji
        simp only [update_self, Option.some.injEq] at hq
        subst hq
        exact h.latest ha j p hi hlater
      · simp only [update_of_ne hji] at hq
        exact h.latest ha j q hq hlater
    · intro j q hq hfailed
      by_cases hji : j = i
      · subst hji
        simp only [update_self, Option.some.injEq] at hq
        rw [← hq]
        exact hfail
      · simp only [update_of_ne hji] at hq
        exact h.failing j q hq hfailed

theorem tracked_rollback {i : ℕ} (h : DceFsmTracked s) (hcareful : dceFsmCareful s (.rollback i))
    (hstep : dceFsmStep s (.rollback i) = some s') : DceFsmTracked s' := by
  simp only [dceFsmStep] at hstep
  cases hi : s.posts i with
  | none => simp [hi] at hstep
  | some p =>
    simp only [hi] at hstep
    obtain ⟨hfailed, rfl⟩ := Option.ite_some_none_eq_some.mp hstep
    have hsame : p.later = true → p.prevState = s.fsm.cState := hcareful p (by simp [hi])
    have hstate : s.aborted = true → p.prevState = s.fsm.cState := by
      intro ha
      apply hsame
      by_contra hlater
      have habort := h.latest ha i p hi (by simpa using hlater)
      have hfail := h.failing i p hi hfailed
      rw [canFail_of_isAbort habort] at hfail
      simp at hfail
    refine ⟨⟨h.sound.bits, ?_, h.sound.notAcceptedAborted⟩, ?_, ?_, ?_⟩
    · simp only [h.sound.notOverwritten, Bool.false_or]
      cases hlater : p.later with
      | false => simp
      | true => simp [hsame hlater]
    · intro ha
      rw [← h.aborted ha]
      exact hstate ha
    · exact fun ha j q hq => h.latest ha j q (update_none hq)
    · exact fun j q hq => h.failing j q (update_none hq)

/-- **Step.** -/
theorem tracked_step (s : DceFsmRun) (op : DceFsmOp) (s' : DceFsmRun) (h : DceFsmTracked s)
    (hcareful : dceFsmCareful s op) (hstep : dceFsmStep s op = some s') : DceFsmTracked s' := by
  cases op with
  | post event => exact tracked_post h hcareful hstep
  | callback i ret => exact tracked_callback h hcareful hstep
  | rollback i => exact tracked_rollback h hcareful hstep

/-- **Events.**  If an aborted machine is only stopped, no callback fails whose request is outstanding
and no state is set back behind a later event, the bits are the requests that are outstanding, no
state of a later event is overwritten and no event is accepted after an abort. -/
theorem dce_fsm_events_sound {fsm : DceFsmInfo} {ops : List DceFsmOp} {s : DceFsmRun}
    (hcareful : AllSteps dceFsmStep dceFsmCareful (dceFsmStarted fsm) ops)
    (hrun : run dceFsmStep (dceFsmStarted fsm) ops = some s) : s.Sound := by
  have hstart : DceFsmTracked (dceFsmStarted fsm) := by
    constructor
    · exact ⟨bitsAgree_nil .fsmIdle, rfl, rfl⟩
    · simp [dceFsmStarted]
    · simp [dceFsmStarted]
    · simp [dceFsmStarted]
  exact (run_invariant_of_allSteps tracked_step hstart hcareful hrun).sound

/-- A command is requested and answered before its wait is interrupted; then the machine is aborted and
stopped. -/
def dceFsmEventOps : List DceFsmOp :=
  [.post .bootCmdMsgRequested, .post .bootCmdMsgReceived, .callback 1 0, .callback 0 (-eINTR),
    .rollback 0, .post .adminIpcMsgRequested, .post .abortReceived, .callback 3 0, .post .fsmStop]

def dceFsmIdle : DceFsmInfo := ⟨true, .invalid, 0⟩

theorem dce_fsm_events_sound_run : ∃ s, run dceFsmStep (dceFsmStarted dceFsmIdle) dceFsmEventOps = some s ∧
      s.fsm = ⟨true, .invalid, DceWait.bit .adminIpc⟩ ∧ s.Sound := by
  refine exists_of_map DceFsmRun.fsm ⟨true, .invalid, DceWait.bit .adminIpc⟩ (by decide +kernel)
    fun s hs hfsm => ?_
  exact ⟨hfsm, dce_fsm_events_sound (by decide +kernel) hs⟩

/-- A command is requested of an aborted machine, and its callback fails. -/
theorem dce_fsm_aborted_accepts : ∃ s, run dceFsmStep (dceFsmStarted dceFsmIdle)
        [.post .abortReceived, .post .bootCmdMsgRequested, .callback 1 (-eINTR), .rollback 1] = some s ∧
      s.fsm.requestedIpcs = DceWait.bit .bootCmd ∧ ¬ s.Sound := by
  refine exists_of_map (fun s => (s.fsm.requestedIpcs, s.acceptedAborted)) (DceWait.bit .bootCmd, true)
    (by decide +kernel) fun s hs heq => ?_
  simp only [Prod.mk.injEq] at heq
  refine ⟨heq.1, ?_⟩
  intro hsound
  exact absurd hsound.notAcceptedAborted (by simp [heq.2])

end NvidiaOot.Analysis
