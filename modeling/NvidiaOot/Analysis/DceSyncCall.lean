import NvidiaOot.Model.Dce

/-!
# One call at a time

As long as no message is sent before the last call has cleared the flag, the run is in one of six
shapes, and the answer in the channel is that of the call which is to read it.
-/

namespace NvidiaOot.Analysis

open Library Program Model

structure Silent (s : DceSyncRun) : Prop where
  pending : s.pending = false
  handler : s.handler = .idle
  complete : s.ch.complete = false

/-- One interrupt is on its way, or the flag is set. -/
def Signalled (s : DceSyncRun) : Prop :=
  s.pending = true ∧ s.handler = .idle ∧ s.ch.complete = false ∨
    s.pending = false ∧ s.handler ≠ .idle ∧ s.ch.complete = false ∨
    s.pending = false ∧ s.handler = .idle ∧ s.ch.complete = true

/-- The calls, the messages from the channel's answers back to what is sent, and the signals. -/
inductive SyncShape (s : DceSyncRun) : Prop where
  | quiet (calls : s.calls = []) (rx : s.ch.rx = []) (tx : s.engine ++ s.ch.tx = [])
      (silent : Silent s)
  | asked (m : ℕ) (calls : s.calls = [⟨m, .waiting⟩]) (rx : s.ch.rx = [])
      (tx : s.engine ++ s.ch.tx = [m]) (silent : Silent s)
  | answered (m : ℕ) (calls : s.calls = [⟨m, .waiting⟩]) (rx : s.ch.rx = [m])
      (tx : s.engine ++ s.ch.tx = []) (signalled : Signalled s)
  | woken (m : ℕ) (calls : s.calls = [⟨m, .woken⟩]) (rx : s.ch.rx = [m])
      (tx : s.engine ++ s.ch.tx = []) (pending : s.pending = false) (handler : s.handler = .idle)
  | cleared (m : ℕ) (calls : s.calls = [⟨m, .cleared⟩]) (rx : s.ch.rx = [m])
      (tx : s.engine ++ s.ch.tx = []) (silent : Silent s)
  | askedBehind (m m' : ℕ) (one : s.ch.nframes ≤ 1) (ne : m ≠ m')
      (calls : s.calls = [⟨m, .cleared⟩, ⟨m', .waiting⟩]) (rx : s.ch.rx = [m])
      (tx : s.engine ++ s.ch.tx = [m']) (silent : Silent s)

structure SyncTracked (s : DceSyncRun) : Prop where
  shape : SyncShape s
  own : ∀ r ∈ s.returns, r.2 = r.1
  once : (s.returns.map Prod.snd).Nodup
  fresh : ∀ c ∈ s.calls, c.message < s.next ∧ c.message ∉ s.returns.map Prod.snd
  old : ∀ a ∈ s.returns.map Prod.snd, a < s.next

variable {s s' : DceSyncRun}

/-- In every shape, an answer in the channel of a call that waits has its signal. -/
theorem SyncShape.notStuck (h : SyncShape s) : s.NotStuck := by
  intro c hc hphase hmem
  cases h with
  | quiet calls => simp [calls] at hc
  | asked m calls rx => simp [rx] at hmem
  | answered m calls rx tx signalled =>
    rcases signalled with ⟨hp, -⟩ | ⟨-, hh, -⟩ | ⟨-, -, hcomplete⟩
    · exact Or.inl hp
    · exact Or.inr (Or.inl hh)
    · exact Or.inr (Or.inr hcomplete)
  | woken m calls | cleared m calls =>
    rw [calls, List.mem_singleton] at hc
    simp [hc] at hphase
  | askedBehind m m' one ne calls rx =>
    rw [calls] at hc
    rw [rx, List.mem_singleton] at hmem
    simp only [List.mem_cons, List.not_mem_nil, or_false] at hc
    rcases hc with rfl | rfl
    · simp at hphase
    · exact absurd hmem.symm ne

/-! ## Steps of the calls -/

theorem tracked_send (h : SyncTracked s) (hcareful : dceSyncCareful s .send)
    (hstep : dceSyncStep s .send = some s') : SyncTracked s' := by
  simp only [dceSyncStep, dceSyncSendMessage] at hstep
  split at hstep
  · simp only [Option.some.injEq] at hstep
    exact hstep ▸ h
  rename_i ch heq
  split at heq
  · simp only [Option.some.injEq] at heq hstep
    subst heq hstep
    refine ⟨?_, h.own, h.once, ?_, ?_⟩
    · cases h.shape with
      | quiet calls rx tx silent =>
        refine .asked s.next (by simp [calls]) rx ?_ ⟨silent.1, silent.2, silent.3⟩
        rw [← List.append_assoc, tx, List.nil_append]
      | cleared m calls rx tx silent =>
        have hm := h.fresh ⟨m, .cleared⟩ (by simp [calls])
        have hone := hcareful ⟨m, .cleared⟩ (by simp [calls])
        refine .askedBehind m s.next hone.2 (Nat.ne_of_lt hm.1) (by simp [calls]) rx ?_
          ⟨silent.1, silent.2, silent.3⟩
        rw [← List.append_assoc, tx, List.nil_append]
      | asked m calls | answered m calls => simpa using hcareful ⟨m, .waiting⟩ (by simp [calls])
      | woken m calls => simpa using hcareful ⟨m, .woken⟩ (by simp [calls])
      | askedBehind m m' one ne calls => simpa using hcareful ⟨m', .waiting⟩ (by simp [calls])
    · intro c hc
      rcases List.mem_append.mp hc with hc | hc
      · exact ⟨(h.fresh c hc).1.trans (Nat.lt_succ_self _), (h.fresh c hc).2⟩
      rw [List.mem_singleton.mp hc]
      refine ⟨Nat.lt_succ_self _, ?_⟩
      intro hmem
      exact absurd (h.old _ hmem) (Nat.lt_irrefl _)
    · exact fun a ha => (h.old a ha).trans (Nat.lt_succ_self _)
  · simp at heq

theorem fresh_move (h : SyncTracked s) {m : ℕ} {p p' : DceCallPhase} (hmem : ⟨m, p⟩ ∈ s.calls) :
    ∀ c ∈ (s.move m p').calls, c.message < s.next ∧ c.message ∉ s.returns.map Prod.snd := by
  intro c hc
  obtain ⟨c', hc', heq⟩ := List.mem_map.mp hc
  split at heq
  · rw [← heq]
    exact h.fresh ⟨m, p⟩ hmem
  · exact heq ▸ h.fresh c' hc'

/-- The only call that can see the flag is the one whose answer is in the channel. -/
theorem tracked_wake {m : ℕ} (h : SyncTracked s) (hstep : dceSyncStep s (.wake m) = some s') : SyncTracked s' := by
  simp only [dceSyncStep] at hstep
  split at hstep
  · rename_i hguard
    obtain ⟨hmem, hends⟩ := hguard
    have hcomplete : s.ch.complete = true := hends
    cases hstep
    refine ⟨?_, h.own, h.once, fresh_move h hmem, h.old⟩
    cases h.shape with
    | quiet calls | woken m' calls | cleared m' calls => simp [calls] at hmem
    | asked m' calls rx tx silent | askedBehind m' m'' one ne calls rx tx silent => simp [silent.complete] at hcomplete
    | answered m' calls rx tx signalled =>
      rw [calls, List.mem_singleton, DceCall.mk.injEq] at hmem
      obtain ⟨rfl, -⟩ := hmem
      rcases signalled with ⟨-, -, hc⟩ | ⟨-, -, hc⟩ | ⟨hp, hh, -⟩
      · simp [hc] at hcomplete
      · simp [hc] at hcomplete
      · exact .woken m (by simp [DceSyncRun.move, calls]) rx tx hp hh
  · simp at hstep

theorem tracked_clear {m : ℕ} (h : SyncTracked s) (hstep : dceSyncStep s (.clear m) = some s') :
    SyncTracked s' := by
  obtain ⟨hmem, rfl⟩ := Option.ite_some_none_eq_some.mp hstep
  refine ⟨?_, h.own, h.once, fresh_move h hmem, h.old⟩
  cases h.shape with
  | quiet calls | asked m' calls | answered m' calls => simp [calls] at hmem
  | woken m' calls rx tx pending handler =>
    rw [calls, List.mem_singleton, DceCall.mk.injEq] at hmem
    obtain ⟨rfl, -⟩ := hmem
    exact .cleared m (by simp [DceSyncRun.move, calls]) rx tx ⟨pending, handler, rfl⟩
  | cleared m' calls | askedBehind m' m'' one ne calls => simp [calls] at hmem

theorem tracked_read {m : ℕ} (h : SyncTracked s) (hstep : dceSyncStep s (.read m) = some s') : SyncTracked s' := by
  simp only [dceSyncStep] at hstep
  split at hstep
  · rename_i hmem
    have hrx : s.ch.rx = [m] := by
      cases h.shape with
      | quiet calls | asked m' calls | answered m' calls | woken m' calls => simp [calls] at hmem
      | cleared m' calls rx =>
        rw [calls, List.mem_singleton, DceCall.mk.injEq] at hmem
        rw [rx, hmem.1]
      | askedBehind m' m'' one ne calls rx =>
        simp only [calls, List.mem_cons, DceCall.mk.injEq, List.not_mem_nil, or_false, reduceCtorEq,
          and_false, and_true] at hmem
        rw [rx, hmem]
    have hfresh := h.fresh ⟨m, .cleared⟩ hmem
    simp only [dceSyncReadMessage, hrx, Option.some.injEq] at hstep
    subst hstep
    refine ⟨?_, ?_, ?_, ?_, ?_⟩
    · cases h.shape with
      | quiet calls | asked m' calls | answered m' calls | woken m' calls => simp [calls] at hmem
      | cleared m' calls rx tx silent =>
        rw [calls, List.mem_singleton, DceCall.mk.injEq] at hmem
        obtain ⟨rfl, -⟩ := hmem
        exact .quiet (by simp [DceSyncRun.leave, calls]) rfl tx ⟨silent.1, silent.2, silent.3⟩
      | askedBehind m' m'' one ne calls rx tx silent =>
        simp only [calls, List.mem_cons, DceCall.mk.injEq, List.not_mem_nil, or_false, reduceCtorEq,
          and_false, and_true] at hmem
        subst hmem
        exact .asked m'' (by simp [DceSyncRun.leave, calls, ne.symm]) rfl tx
          ⟨silent.1, silent.2, silent.3⟩
    · intro r hr
      rcases List.mem_append.mp hr with hr | hr
      · exact h.own r hr
      · rw [List.mem_singleton.mp hr]
    · rw [List.map_append, List.map_singleton]
      exact h.once.append (List.nodup_singleton m) (by simpa using hfresh.2)
    · intro c hc
      obtain ⟨hc, hne⟩ := List.mem_filter.mp hc
      refine ⟨(h.fresh c hc).1, ?_⟩
      rw [List.map_append, List.map_singleton, List.mem_append, List.mem_singleton]
      rintro (hold | heq)
      · exact (h.fresh c hc).2 hold
      · simp [heq] at hne
    · intro a ha
      rw [List.map_append, List.map_singleton, List.mem_append, List.mem_singleton] at ha
      rcases ha with ha | rfl
      · exact h.old a ha
      · exact hfresh.1
  · simp at hstep

/-! ## Steps of the engine and of the interrupt -/

theorem SyncTracked.of_shape (h : SyncTracked s) (hshape : SyncShape s') (hcalls : s'.calls = s.calls)
    (hnext : s'.next = s.next) (hreturns : s'.returns = s.returns) : SyncTracked s' := by
  refine ⟨hshape, ?_, ?_, ?_, ?_⟩
  · rw [hreturns]
    exact h.own
  · rw [hreturns]
    exact h.once
  · rw [hcalls, hnext, hreturns]
    exact h.fresh
  · rw [hnext, hreturns]
    exact h.old

theorem tracked_take_message (h : SyncTracked s) (hstep : dceSyncStep s .take = some s') : SyncTracked s' := by
  simp only [dceSyncStep] at hstep
  cases htx : s.ch.tx with
  | nil => simp [htx] at hstep
  | cons m tx =>
    simp only [htx, Option.some.injEq] at hstep
    subst hstep
    have hsame : (s.engine ++ [m]) ++ tx = s.engine ++ s.ch.tx := by simp [htx]
    refine h.of_shape ?_ rfl rfl rfl
    cases h.shape with
    | quiet calls rx tx silent => exact .quiet calls rx (hsame.trans tx) ⟨silent.1, silent.2, silent.3⟩
    | asked m' calls rx tx silent =>
      exact .asked m' calls rx (hsame.trans tx) ⟨silent.1, silent.2, silent.3⟩
    | answered m' calls rx tx signalled => exact .answered m' calls rx (hsame.trans tx) signalled
    | woken m' calls rx tx pending handler =>
      exact .woken m' calls rx (hsame.trans tx) pending handler
    | cleared m' calls rx tx silent =>
      exact .cleared m' calls rx (hsame.trans tx) ⟨silent.1, silent.2, silent.3⟩
    | askedBehind m' m'' one ne calls rx tx silent =>
      exact .askedBehind m' m'' one ne calls rx (hsame.trans tx) ⟨silent.1, silent.2, silent.3⟩

theorem engine_eq_nil (h : s.engine ++ s.ch.tx = []) : s.engine = [] :=
  (List.append_eq_nil_iff.mp h).1

theorem tracked_answer_message (h : SyncTracked s) (hstep : dceSyncStep s .answer = some s') : SyncTracked s' := by
  simp only [dceSyncStep] at hstep
  cases hengine : s.engine with
  | nil => simp [hengine] at hstep
  | cons m engine =>
    simp only [hengine] at hstep
    obtain ⟨hroom, rfl⟩ := Option.ite_some_none_eq_some.mp hstep
    refine h.of_shape ?_ rfl rfl rfl
    cases h.shape with
    | quiet calls rx tx | answered m' calls rx tx | woken m' calls rx tx | cleared m' calls rx tx => simp [engine_eq_nil tx] at hengine
    | asked m' calls rx tx silent =>
      rw [hengine, List.cons_append, List.cons.injEq] at tx
      obtain ⟨rfl, htail⟩ := tx
      exact .answered m calls (by simp [rx]) htail
        (Or.inl ⟨rfl, silent.handler, silent.complete⟩)
    | askedBehind m' m'' one ne calls rx tx =>
      rw [rx, List.length_singleton] at hroom
      omega

theorem tracked_interrupt_taken (h : SyncTracked s) (hstep : dceSyncStep s .interrupt = some s') :
    SyncTracked s' := by
  simp only [dceSyncStep] at hstep
  split at hstep
  · rename_i hguard
    obtain ⟨hpending, hidle⟩ := hguard
    cases hstep
    refine h.of_shape ?_ rfl rfl rfl
    cases h.shape with
    | quiet calls rx tx silent | asked m calls rx tx silent | cleared m calls rx tx silent
    | askedBehind m m' one ne calls rx tx silent => simp [silent.pending] at hpending
    | answered m calls rx tx signalled =>
      rcases signalled with ⟨-, -, hc⟩ | ⟨hp, -, -⟩ | ⟨hp, -, -⟩
      · exact .answered m calls rx tx (Or.inr (Or.inl ⟨rfl, by simp, hc⟩))
      · simp [hp] at hpending
      · simp [hp] at hpending
    | woken m calls rx tx pending => simp [pending] at hpending
  · simp at hstep

theorem tracked_handle (h : SyncTracked s) (hstep : dceSyncStep s .handle = some s') : SyncTracked s' := by
  simp only [dceSyncStep] at hstep
  have hactive : s.handler ≠ .idle := by
    intro hidle
    simp [hidle] at hstep
  cases h.shape with
  | quiet calls rx tx silent | asked m calls rx tx silent | cleared m calls rx tx silent
  | askedBehind m m' one ne calls rx tx silent => exact absurd silent.handler hactive
  | woken m calls rx tx pending handler => exact absurd handler hactive
  | answered m calls rx tx signalled =>
    rcases signalled with ⟨-, hidle, -⟩ | ⟨hpending, -, hcomplete⟩ | ⟨-, hidle, -⟩
    · exact absurd hidle hactive
    · cases hhandler : s.handler with
      | idle => exact absurd hhandler hactive
      | look =>
        simp only [hhandler, dceIpcIsDataAvailable, rx, List.isEmpty_cons, Bool.not_false, if_true,
          Option.some.injEq] at hstep
        subst hstep
        refine h.of_shape ?_ rfl rfl rfl
        exact .answered m calls rx tx (Or.inr (Or.inl ⟨hpending, by simp, hcomplete⟩))
      | wake =>
        simp only [hhandler, dceSyncWakeup, Option.some.injEq] at hstep
        subst hstep
        refine h.of_shape ?_ rfl rfl rfl
        exact .answered m calls rx tx (Or.inr (Or.inr ⟨hpending, rfl, rfl⟩))
    · exact absurd hidle hactive

/-! ## Runs -/

/-- **Step.** -/
theorem sync_tracked_step (s : DceSyncRun) (op : DceSyncOp) (s' : DceSyncRun) (h : SyncTracked s)
    (hcareful : dceSyncCareful s op) (hstep : dceSyncStep s op = some s') : SyncTracked s' := by
  cases op with
  | send => exact tracked_send h hcareful hstep
  | wake m => exact tracked_wake h hstep
  | clear m => exact tracked_clear h hstep
  | read m => exact tracked_read h hstep
  | take => exact tracked_take_message h hstep
  | answer => exact tracked_answer_message h hstep
  | interrupt => exact tracked_interrupt_taken h hstep
  | handle => exact tracked_handle h hstep

/-- **Calls.**  If no message is sent before the last call has cleared the flag, nor before it has read
where there is room for two answers, each call reads its own answer, no answer is read twice and no
call is stuck. -/
theorem dce_sync_calls_sound {nframes : ℕ} {ops : List DceSyncOp} {s : DceSyncRun}
    (hcareful : AllSteps dceSyncStep dceSyncCareful (dceSyncStart nframes) ops)
    (hrun : run dceSyncStep (dceSyncStart nframes) ops = some s) : s.Sound := by
  have hstart : SyncTracked (dceSyncStart nframes) := by
    refine ⟨.quiet rfl rfl rfl ⟨rfl, rfl, rfl⟩, ?_, ?_, ?_, ?_⟩
    · simp [dceSyncStart]
    · simp [dceSyncStart]
    · simp [dceSyncStart]
    · simp [dceSyncStart]
  have h := run_invariant_of_allSteps sync_tracked_step hstart hcareful hrun
  exact ⟨h.own, h.once, h.shape.notStuck⟩

/-- Two calls over one frame, the second of which sends before the first has read. -/
def dceSyncCalls : List DceSyncOp :=
  [.send, .take, .answer, .interrupt, .handle, .handle, .wake 0, .clear 0, .send, .take, .read 0,
    .answer, .interrupt, .handle, .handle, .wake 1, .clear 1, .read 1]

theorem dce_sync_calls_sound_two : ∃ s, run dceSyncStep (dceSyncStart 1) dceSyncCalls = some s ∧
      s.returns = [(0, 0), (1, 1)] ∧ s.Sound := by
  refine exists_of_map DceSyncRun.returns [(0, 0), (1, 1)] (by decide +kernel) fun s hs hreturns => ?_
  exact ⟨hreturns, dce_sync_calls_sound (by decide +kernel) hs⟩

/-- The second call sends while the first waits, sees the flag of the first answer and reads it. -/
theorem dce_sync_calls_swapped : ∃ s, run dceSyncStep (dceSyncStart 1)
        [.send, .take, .send, .answer, .interrupt, .handle, .handle, .wake 1, .clear 1, .read 1] = some s ∧
      s.returns = [(1, 0)] ∧ ¬ s.Sound := by
  refine exists_of_map DceSyncRun.returns [(1, 0)] (by decide +kernel) fun s hs hreturns => ?_
  refine ⟨hreturns, ?_⟩
  intro hsound
  exact absurd (hsound.own (1, 0) (by simp [hreturns])) (by simp)

end NvidiaOot.Analysis
