import NvidiaOot.Library.BitFields
import NvidiaOot.Model.VblkIoctl

/-!
# The two halves of a pass-through ioctl

The trace of an ioctl is that of its preparing half, and of its completing half if the request gets that far.  Each
half has a specification (`PrepSpec`, `CompleteSpec`): what its events are in every case, and when those are right that
depend on the input.  `ioctl_sound_iff_of_spec` puts the two together.
-/

namespace NvidiaOot.Analysis

open Program Model Library

/-! ## The two halves -/

/-- An event of a loop: the buffer is neither allocated nor freed. -/
def InLoop (e : IoctlEvent) : Prop := e ≠ .alloc ∧ e ≠ .free

/-- An event of the preparing half that is right whatever the input is. -/
def PrepEvent (takes gives : ℕ → Bool) (e : IoctlEvent) : Prop :=
  InLoop e ∧ (InsideBuffer e ∧ goesOut e = false) ∧ RightWay takes gives e

theorem prepEvent_access {takes gives : ℕ → Bool} {offset len size : ℕ} (h : offset + len ≤ size) :
    PrepEvent takes gives (.access offset len size) := ⟨⟨nofun, nofun⟩, ⟨h, rfl⟩, trivial⟩

theorem prepEvent_prepared {takes gives : ℕ → Bool} {i : ℕ} {copied : Bool} (h : copied = takes i) :
    PrepEvent takes gives (.prepared i copied) := ⟨⟨nofun, nofun⟩, ⟨trivial, rfl⟩, h⟩

structure PrepSpec (ioctl : VblkIoctl) : Prop where
  inside : ∀ e ∈ ioctl.prep.1, InsideBuffer e ∧ goesOut e = false
  right : (∀ e ∈ ioctl.prep.1, RightWay (takesData ioctl) (givesData ioctl) e) ↔ PrepFits ioctl
  freed : ioctl.prep.1.count .alloc = ioctl.prep.1.count .free + if ioctl.prep.2 = 0 then 1 else 0
  accepted : ioctl.prep.2 = 0 ↔ Accepted ioctl

/-- What the completing half does with a buffer that was prepared. -/
structure CompleteSpec (ioctl : VblkIoctl) : Prop where
  failed : ∀ status, status ≠ 0 → (ioctl.complete status).1 = [.free]
  noAlloc : (ioctl.complete 0).1.count .alloc = 0
  fits : ((∀ e ∈ (ioctl.complete 0).1, InsideBuffer e ∧ RightWay (takesData ioctl) (givesData ioctl) e) ∧
    (ioctl.complete 0).1.count .free = 1) ↔ CompleteFits ioctl
  quiet : ((∀ e ∈ (ioctl.complete 0).1, InsideBuffer e ∧ RightWay (takesData ioctl) (givesData ioctl) e) ∧
    (∀ e ∈ (ioctl.complete 0).1, goesOut e = false) ∧ (ioctl.complete 0).1.count .free = 1) ↔ CompleteQuiet ioctl

def SoundTrace (ioctl : VblkIoctl) (outcome : RequestOutcome) (trace : List IoctlEvent) : Prop :=
  (∀ e ∈ trace, InsideBuffer e) ∧ (∀ e ∈ trace, RightWay (takesData ioctl) (givesData ioctl) e) ∧
    (RequestOutcome.isAnswered outcome = false → ∀ e ∈ trace, goesOut e = false) ∧
      trace.count .free = trace.count .alloc

theorem ioctlSound_iff_trace (capable reqAllocOk : Bool) (ioctl : VblkIoctl) (outcome : RequestOutcome) :
    IoctlSound capable reqAllocOk ioctl outcome ↔
      SoundTrace ioctl outcome (vblkSubmitIoctlReq capable reqAllocOk ioctl outcome).1 :=
  ⟨fun h => ⟨h.inside, h.right, h.answered, h.freed⟩, fun h => ⟨h.1, h.2.1, h.2.2.1, h.2.2.2⟩⟩

theorem soundTrace_nil (ioctl : VblkIoctl) (outcome : RequestOutcome) : SoundTrace ioctl outcome [] := by
  simp [SoundTrace]

variable {ioctl : VblkIoctl} {outcome : RequestOutcome} {trace body : List IoctlEvent}

/-! ## The shapes of a half -/

theorem count_eq_zero_of_inLoop (h : ∀ e ∈ body, InLoop e) : body.count .alloc = 0 ∧ body.count .free = 0 :=
  ⟨List.count_eq_zero.mpr fun he => (h _ he).1 rfl, List.count_eq_zero.mpr fun he => (h _ he).2 rfl⟩

theorem PrepSpec.of_nil (hprep : ioctl.prep.1 = []) (herr : ioctl.prep.2 ≠ 0) (hfits : PrepFits ioctl)
    (haccepted : ¬ Accepted ioctl) : PrepSpec ioctl where
  inside := by simp [hprep]
  right := by simp [hprep, hfits]
  freed := by simp [hprep, herr]
  accepted := ⟨fun h => absurd h herr, fun h => absurd h haccepted⟩

theorem PrepSpec.of_buffer {err : ℤ} (hprep : ioctl.prep = (.alloc :: (body ++ freeOnError err), err))
    (hloop : ∀ e ∈ body, InLoop e) (hinside : ∀ e ∈ body, InsideBuffer e ∧ goesOut e = false)
    (hright : (∀ e ∈ body, RightWay (takesData ioctl) (givesData ioctl) e) ↔ PrepFits ioctl)
    (haccepted : err = 0 ↔ Accepted ioctl) : PrepSpec ioctl := by
  have hfree : ∀ e ∈ freeOnError err, e = .free := by
    intro e he
    unfold freeOnError at he
    split at he
    · cases he
    · exact List.mem_singleton.mp he
  obtain ⟨halloc, hnoFree⟩ := count_eq_zero_of_inLoop hloop
  refine ⟨?_, ?_, ?_, ?_⟩
  · rw [hprep, List.forall_mem_cons, List.forall_mem_append]
    refine ⟨⟨trivial, rfl⟩, hinside, fun e he => ?_⟩
    rw [hfree e he]
    exact ⟨trivial, rfl⟩
  · rw [← hright, hprep, List.forall_mem_cons, List.forall_mem_append]
    constructor
    · intro h
      exact h.2.1
    · intro h
      refine ⟨trivial, h, fun e he => ?_⟩
      rw [hfree e he]
      trivial
  · rw [hprep, List.count_cons_self, List.count_cons_of_ne (by decide), List.count_append, List.count_append, halloc,
      hnoFree]
    by_cases herr : err = 0
    · simp [freeOnError, herr]
    · simp [freeOnError, herr]
  · rw [hprep]
    exact haccepted

theorem CompleteSpec.of_buffer (hfailed : ∀ status, status ≠ 0 → (ioctl.complete status).1 = [.free])
    (hcomplete : (ioctl.complete 0).1 = body ++ [.free]) (hloop : ∀ e ∈ body, InLoop e)
    (hfits : (∀ e ∈ body, InsideBuffer e ∧ RightWay (takesData ioctl) (givesData ioctl) e) ↔ CompleteFits ioctl)
    (hquiet : CompleteQuiet ioctl → body = [])
    (hloud : ¬ CompleteQuiet ioctl → ∃ e ∈ body, goesOut e = true) : CompleteSpec ioctl := by
  obtain ⟨halloc, hnoFree⟩ := count_eq_zero_of_inLoop hloop
  have hfree : (ioctl.complete 0).1.count .free = 1 := by
    rw [hcomplete, List.count_append, hnoFree]
    rfl
  have hboth : (∀ e ∈ (ioctl.complete 0).1, InsideBuffer e ∧ RightWay (takesData ioctl) (givesData ioctl) e) ↔
      CompleteFits ioctl := by
    rw [hcomplete, List.forall_mem_append, ← hfits]
    simp [InsideBuffer, RightWay]
  refine ⟨hfailed, ?_, ?_, ?_⟩
  · rw [hcomplete, List.count_append, halloc]
    rfl
  · rw [hboth, hfree]
    simp
  · constructor
    · rintro ⟨-, hno, -⟩
      by_contra hnot
      obtain ⟨e, he, hout⟩ := hloud hnot
      rw [hno e (hcomplete ▸ List.mem_append_left _ he)] at hout
      cases hout
    · intro h
      rw [hcomplete, hquiet h]
      simp [InsideBuffer, RightWay, goesOut]

/-! ## Space in the buffer -/

theorem noSpace_iff {t : U32} (len : U32) (ht : t.toNat ≤ vblkMaxIocSize) :
    t + len < len ∨ vblkMaxIocSize < (t + len).toNat ↔ vblkMaxIocSize < t.toNat + len.toNat := by
  unfold vblkMaxIocSize at *
  rw [BitVec.lt_def, BitVec.toNat_add]
  omega

theorem toNat_add_of_space (t len : U32) (h : t.toNat + len.toNat ≤ vblkMaxIocSize) :
    (t + len).toNat = t.toNat + len.toNat := by
  unfold vblkMaxIocSize at h
  rw [BitVec.toNat_add]
  omega

theorem toNat_ofNat_of_space {x : ℕ} (h : x ≤ vblkMaxIocSize) : (BitVec.ofNat 32 x).toNat = x := by
  unfold vblkMaxIocSize at h
  rw [BitVec.toNat_ofNat]
  omega

theorem mem_dataAccess {e : IoctlEvent} {copied : Bool} {offset len : U32} {size : ℕ}
    (he : e ∈ dataAccess copied offset len size) : e = .access offset.toNat len.toNat size := by
  unfold dataAccess at he
  split at he
  · exact List.mem_singleton.mp he
  · cases he

/-! ## Loops over commands -/

theorem errorOf_tracedTurns_eq_zero {σ : Type} {turn : ℕ → σ → List IoctlEvent × Except ℤ σ} {n i : ℕ} {s : σ}
    (hturn : ∀ i s c, (turn i s).2 = .error c → c ≠ 0) :
    errorOf (tracedTurns turn n i s).2 = 0 ↔ ∃ s', stateBefore turn i s n = some s' := by
  cases hend : (tracedTurns turn n i s).2 with
  | error c =>
    have hc := error_of_tracedTurns hturn hend
    constructor
    · intro h
      exact absurd h hc
    · rintro ⟨s', hstate⟩
      rw [tracedTurns_eq_ok.mpr hstate] at hend
      cases hend
  | ok s' =>
    constructor
    · intro _
      exact ⟨s', tracedTurns_eq_ok.mp hend⟩
    · intro _
      rfl

/-! ## Both halves -/

theorem PrepSpec.sound_iff (h : PrepSpec ioctl) :
    SoundTrace ioctl outcome ioctl.prep.1 ↔ PrepFits ioctl ∧ ioctl.prep.2 ≠ 0 := by
  have hfreed := h.freed
  unfold SoundTrace
  rw [h.right]
  constructor
  · rintro ⟨-, hright, -, hcount⟩
    refine ⟨hright, ?_⟩
    intro herr
    rw [if_pos herr] at hfreed
    omega
  · rintro ⟨hright, herr⟩
    rw [if_neg herr] at hfreed
    exact ⟨fun e he => (h.inside e he).1, hright, fun _ e he => (h.inside e he).2, by omega⟩

theorem PrepSpec.sound_append_iff (h : PrepSpec ioctl) (herr : ioctl.prep.2 = 0) (hnoAlloc : trace.count .alloc = 0) :
    SoundTrace ioctl outcome (ioctl.prep.1 ++ trace) ↔
      PrepFits ioctl ∧ (∀ e ∈ trace, InsideBuffer e ∧ RightWay (takesData ioctl) (givesData ioctl) e) ∧
        (RequestOutcome.isAnswered outcome = false → ∀ e ∈ trace, goesOut e = false) ∧ trace.count .free = 1 := by
  have hfreed := h.freed
  rw [if_pos herr] at hfreed
  unfold SoundTrace
  rw [List.count_append, List.count_append, hnoAlloc, ← h.right]
  simp only [List.forall_mem_append]
  constructor
  · rintro ⟨⟨-, hinside⟩, ⟨hprep, hright⟩, hanswered, hcount⟩
    refine ⟨hprep, fun e he => ⟨hinside e he, hright e he⟩, fun hno => (hanswered hno).2, ?_⟩
    omega
  · rintro ⟨hprep, hboth, hanswered, hcount⟩
    refine ⟨⟨fun e he => (h.inside e he).1, fun e he => (hboth e he).1⟩, ⟨hprep, fun e he => (hboth e he).2⟩,
      fun hno => ⟨fun e he => (h.inside e he).2, hanswered hno⟩, ?_⟩
    omega

/-- **The two halves together.** -/
theorem ioctl_sound_iff_of_spec (hprep : PrepSpec ioctl) (hcomplete : Accepted ioctl → CompleteSpec ioctl)
    (capable reqAllocOk : Bool) (outcome : RequestOutcome) :
    IoctlSound capable reqAllocOk ioctl outcome ↔ IoctlFits capable reqAllocOk ioctl outcome := by
  rw [ioctlSound_iff_trace]
  unfold IoctlFits vblkSubmitIoctlReq
  cases capable with
  | false => simp [soundTrace_nil]
  | true =>
    cases reqAllocOk with
    | false => simp [soundTrace_nil]
    | true =>
      simp only [if_true, true_implies]
      by_cases herr : ioctl.prep.2 = 0
      · have haccepted := hprep.accepted.mp herr
        have hspec := hcomplete haccepted
        rw [if_neg (not_not_intro herr)]
        simp only [haccepted, true_implies]
        cases outcome with
        | noRequest err =>
          rw [hprep.sound_iff]
          simp [herr]
        | notAnswered =>
          rw [hprep.sound_append_iff herr hspec.noAlloc, ← hspec.quiet]
          simp [RequestOutcome.isAnswered]
        | answered status =>
          dsimp only
          by_cases hstatus : status = 0
          · subst hstatus
            rw [hprep.sound_append_iff herr hspec.noAlloc, ← hspec.fits]
            simp [RequestOutcome.isAnswered]
          · rw [hspec.failed status hstatus, hprep.sound_append_iff herr (by decide)]
            simp [RequestOutcome.isAnswered, hstatus, InsideBuffer, RightWay]
      · rw [if_pos herr, hprep.sound_iff]
        have hnot : ¬ Accepted ioctl := fun haccepted => herr (hprep.accepted.mpr haccepted)
        simp [herr, hnot]

end NvidiaOot.Analysis
