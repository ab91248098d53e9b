import NvidiaOot.Model.Nvmap

/-!
# A read-only buffer stays read-only

Each call gives a client at most the access that the id or the descriptor has that it was made from,
so what it has of a buffer stays read-only.  The pages of a sub-range buffer are those of the handles
of its range.
-/

namespace NvidiaOot.Analysis

open Library Program Model

section

variable {ps : PageSize} {pages l : List ℕ} {p n : ℕ} {start last : U64}

theorem mem_of_mem_assignPagesPerHandle
    (h : nvmapAssignPagesPerHandle ps pages n start last = some l) (hp : p ∈ l) : p ∈ pages := by
  induction n generalizing start l with
  | zero => cases h
  | succ n ih =>
    unfold nvmapAssignPagesPerHandle at h
    split at h
    · obtain ⟨q, hq, h⟩ := Option.bind_eq_some_iff.mp h
      obtain ⟨rest, hrest, heq⟩ := Option.map_eq_some_iff.mp h
      rw [← heq] at hp
      rcases List.mem_cons.mp hp with hpq | hmem
      · rw [hpq]
        exact List.mem_of_getElem? hq
      · exact ih hrest hmem
    · rw [← Option.some.inj h] at hp
      exact absurd hp List.not_mem_nil

theorem mem_of_mem_assignPages {hs : List PageHandle}
    (h : nvmapAssignPages ps hs start last = some l) (hp : p ∈ l) : ∃ x ∈ hs, p ∈ x.pages := by
  induction hs generalizing start last l with
  | nil =>
    rw [← Option.some.inj h] at hp
    exact absurd hp List.not_mem_nil
  | cons x hs ih =>
    obtain ⟨l₁, h₁, h⟩ := Option.bind_eq_some_iff.mp h
    obtain ⟨l₂, h₂, heq⟩ := Option.map_eq_some_iff.mp h
    rw [← heq] at hp
    rcases List.mem_append.mp hp with hl | hr
    · exact ⟨x, List.mem_cons_self, mem_of_mem_assignPagesPerHandle h₁ hl⟩
    · obtain ⟨y, hy, hpy⟩ := ih h₂ hr
      exact ⟨y, List.mem_cons_of_mem x hy, hpy⟩

end

section

variable {sci : NvmapSciIpc ℕ} {ro : ℕ → DmabufRo} {flags : U32} {sciIpcId localuVuid : U64}
  {env : ImportEnv} {r : ImportResult ℕ} {k : ℕ}

theorem finishImport_handle {i : ℕ} {e : SciIpcEntry ℕ}
    (hk : (finishImport sci ro i e env).handle = some k) : e.handle = k := by
  unfold finishImport at hk
  split at hk
  · cases hk
  · split at hk
    · cases hk
    · exact Option.some.inj hk

theorem import_handle (h : nvmapGetHandleFromSciIpcId sci ro flags sciIpcId localuVuid env = some r)
    (hk : r.handle = some k) : ∃ i e, nvmapFindEntryForId sci.entries sciIpcId = some i ∧ sci.entries[i]? = some e ∧
      e.peerVuid = localuVuid ∧ e.flags = flags ∧ e.handle = k := by
  unfold nvmapGetHandleFromSciIpcId at h
  split at h
  · rw [← Option.some.inj h] at hk
    cases hk
  case h_2 i e hfound =>
    obtain ⟨j, hj, hpair⟩ := Option.bind_eq_some_iff.mp hfound
    obtain ⟨e', he', heq⟩ := Option.map_eq_some_iff.mp hpair
    obtain ⟨rfl, rfl⟩ := Prod.mk.inj heq
    refine ⟨j, e', hj, he', ?_⟩
    split at h
    · rw [← Option.some.inj h] at hk
      cases hk
    case isFalse hmatch =>
      obtain ⟨hpeer, hflags⟩ := not_or.mp hmatch
      refine ⟨Decidable.not_not.mp hpeer, Decidable.not_not.mp hflags, ?_⟩
      split at h
      · obtain ⟨q, _, hq⟩ := Option.map_eq_some_iff.mp h
        rw [← hq] at hk
        split at hk
        · cases hk
        · exact finishImport_handle hk
      · rw [← Option.some.inj h] at hk
        exact finishImport_handle hk

end

section

variable {P : ℕ → Prop} {s : ReadOnly} {ida : Bool} {a : DmabufAccess} {k : ℕ}

structure ReadOnlyInv (P : ℕ → Prop) (s : ReadOnly) : Prop where
  held : ∀ a ∈ s.refs ++ s.ids ++ s.fds, a.handle < s.handles.length ∧
    (Touches P s a.handle → a.isRo = true)
  exports : ∀ x ∈ s.exports, x.handle < s.handles.length ∧
    (Touches P s x.handle → x.flags = protRead)
  written : ∀ k ∈ s.written, k < s.handles.length ∧ ¬ Touches P s k
  rw : ∀ (k : ℕ) (h : PageHandle), s.handles[k]? = some h → h.isRo = true → h.rw = false

theorem readOnlyInv_new : ReadOnlyInv P newReadOnly where
  held := fun _ h => (nomatch h)
  exports := nofun
  written := nofun
  rw := nofun

theorem ReadOnlyInv.ok (hinv : ReadOnlyInv P s) : ReadOnlyOk P s where
  held := fun a ha => (hinv.held a ha).2
  unwritten := fun k hk => (hinv.written k hk).2

/-- The access of a client through an id, a descriptor or a reference that it may have. -/
def MayHave (P : ℕ → Prop) (s : ReadOnly) (a : DmabufAccess) : Prop :=
  a.handle < s.handles.length ∧ (Touches P s a.handle → a.isRo = true)

section

variable (hinv : ReadOnlyInv P s)

include hinv

theorem ReadOnlyInv.mayHave_fd {j : ℕ} (h : s.fds[j]? = some a) : MayHave P s a :=
  hinv.held a (List.mem_append_right _ (List.mem_of_getElem? h))

theorem ReadOnlyInv.mayHave_access {x : ℕ} (h : s.access ida x = some a) :
    MayHave P s a := by
  unfold ReadOnly.access at h
  split at h
  · apply hinv.held a
    apply List.mem_append_left
    apply List.mem_append_right
    exact List.mem_of_getElem? h
  · exact hinv.mayHave_fd h

theorem ReadOnlyInv.withRef (ha : MayHave P s a) : ReadOnlyInv P (s.withRef a) := by
  unfold ReadOnly.withRef
  split
  · exact hinv
  refine ⟨?_, hinv.exports, hinv.written, hinv.rw⟩
  intro b hb
  simp only [List.mem_append, List.mem_singleton] at hb
  rcases hb with ((hb | rfl) | hb) | hb
  · exact hinv.held b (by simp [hb])
  · exact ha
  · exact hinv.held b (by simp [hb])
  · exact hinv.held b (by simp [hb])

theorem ReadOnlyInv.withFd (ha : MayHave P s a) :
    ReadOnlyInv P { s with fds := s.fds ++ [a] } := by
  refine ⟨?_, hinv.exports, hinv.written, hinv.rw⟩
  intro b hb
  simp only [List.mem_append, List.mem_singleton] at hb
  rcases hb with (hb | hb) | hb | rfl
  · exact hinv.held b (by simp [hb])
  · exact hinv.held b (by simp [hb])
  · exact hinv.held b (by simp [hb])
  · exact ha

theorem ReadOnlyInv.withId (ha : MayHave P s a) : ReadOnlyInv P (s.withId ida a) := by
  unfold ReadOnly.withId
  split
  · refine ⟨?_, hinv.exports, hinv.written, hinv.rw⟩
    intro b hb
    simp only [List.mem_append, List.mem_singleton] at hb
    rcases hb with (hb | hb | rfl) | hb
    · exact hinv.held b (by simp [hb])
    · exact hinv.held b (by simp [hb])
    · exact ha
    · exact hinv.held b (by simp [hb])
  · exact hinv.withFd ha

end

theorem mayHave_withRef {b : DmabufAccess} (ha : MayHave P s a) : MayHave P (s.withRef b) a := by
  unfold ReadOnly.withRef
  split
  · exact ha
  · exact ha

theorem ReadOnlyInv.duplicate {env : DupEnv} (hinv : ReadOnlyInv P s) (ha : MayHave P s a) :
    ReadOnlyInv P (s.duplicate ida a env) := by
  unfold ReadOnly.duplicate
  split
  · split
    · exact (hinv.withRef ha).withId (mayHave_withRef ha)
    · split
      · exact hinv
      · exact hinv.withRef ha
  · exact hinv

theorem ReadOnlyInv.withSci (hinv : ReadOnlyInv P s) (sci : NvmapSciIpc ℕ) (ro : ℕ → DmabufRo) :
    ReadOnlyInv P { s with sci := sci, ro := ro } :=
  ⟨hinv.held, hinv.exports, hinv.written, hinv.rw⟩

theorem touches_concat {h : PageHandle} (hk : k < s.handles.length) :
    Touches P { s with handles := s.handles ++ [h] } k ↔ Touches P s k := by
  unfold Touches
  rw [List.getElem?_append_left hk]

theorem ReadOnlyInv.withHandle {h : PageHandle} (hinv : ReadOnlyInv P s)
    (hrw : h.isRo = true → h.rw = false) : ReadOnlyInv P { s with handles := s.handles ++ [h] } := by
  have hlen : (s.handles ++ [h]).length = s.handles.length + 1 := by simp
  refine ⟨?_, ?_, ?_, ?_⟩
  · intro a ha
    obtain ⟨hlt, hro⟩ := hinv.held a ha
    dsimp only
    rw [touches_concat hlt]
    exact ⟨by omega, hro⟩
  · intro x hx
    obtain ⟨hlt, hro⟩ := hinv.exports x hx
    dsimp only
    rw [touches_concat hlt]
    exact ⟨by omega, hro⟩
  · intro k hk
    obtain ⟨hlt, hnot⟩ := hinv.written k hk
    dsimp only
    rw [touches_concat hlt]
    exact ⟨by omega, hnot⟩
  · intro k h' hk
    rcases getElem?_concat_cases hk with ⟨_, rfl⟩ | hold
    · exact hrw
    · exact hinv.rw k h' hold

end

section

variable {P : ℕ → Prop} {s s' : ReadOnly} {ps : PageSize} {ida : Bool} {a : DmabufAccess} {x : ℕ}

theorem mayHave_dup {b : DmabufAccess} {accessFlags : U32} (ha : MayHave P s a)
    (h : dupHandleAccess a accessFlags = some b) : MayHave P s b := by
  obtain ⟨hperm, heq⟩ := Option.ite_none_left_eq_some.mp h
  cases heq
  refine ⟨ha.1, fun ht => ?_⟩
  by_contra hflags
  exact hperm ⟨ha.2 ht, fun hc => hflags (decide_eq_true hc)⟩

theorem dupHandleStep_inv {accessFlags : U32} {env : DupEnv} (hinv : ReadOnlyInv P s) :
    ReadOnlyInv P (dupHandleStep ida s x accessFlags env) := by
  unfold dupHandleStep
  split
  · exact hinv
  case h_2 b hb =>
    obtain ⟨a, ha, hdup⟩ := Option.bind_eq_some_iff.mp hb
    exact hinv.duplicate (mayHave_dup (hinv.mayHave_access ha) hdup)

theorem getFdStep_inv {installOk : Bool} (hinv : ReadOnlyInv P s) :
    ReadOnlyInv P (getFdStep ida s x installOk) := by
  unfold getFdStep
  split
  · exact hinv
  case h_2 a ha =>
    split
    · exact hinv.withFd (hinv.mayHave_access ha)
    · exact hinv

theorem fromFdStep_inv {env : DupEnv} (hinv : ReadOnlyInv P s) : ReadOnlyInv P (fromFdStep ida s x env) := by
  unfold fromFdStep
  split
  · exact hinv
  case h_2 a ha => exact hinv.duplicate (hinv.mayHave_fd ha)

/-- **A sub-range buffer** whose handle has no page of the buffer. -/
theorem withSubRange_inv {h : PageHandle} {installed : Bool} (hinv : ReadOnlyInv P s)
    (hro : h.isRo = false) (hpages : ∀ p ∈ h.pages, ¬ P p) : ReadOnlyInv P (s.withSubRange h installed) := by
  have hnew := hinv.withHandle (fun hc => absurd (hro.symm.trans hc) Bool.false_ne_true)
  unfold ReadOnly.withSubRange
  split
  · have hhave : MayHave P { s with handles := s.handles ++ [h] } ⟨s.handles.length, false⟩ := by
      constructor
      · simp
      · rintro ⟨h', hh', p, hp, hP⟩
        rw [List.getElem?_concat_length, Option.mem_some_iff] at hh'
        rw [← hh'] at hp
        exact absurd hP (hpages p hp)
    exact hnew.withFd hhave
  · exact hnew

theorem roFdFromListStep_inv {xs : List ℕ} {offs sz : U64} {env : SubRangeEnv}
    (hinv : ReadOnlyInv P s) (hcare : ReadOnlyCareful P s ida (.getFdFromList xs offs sz env))
    (hstep : roFdFromListStep ps ida s xs offs sz env = some s') : ReadOnlyInv P s' := by
  obtain ⟨ks, hks, hstep⟩ := Option.bind_eq_some_iff.mp hstep
  cases hrange : subRangeOf offs sz (s.handles.map PageHandle.sub) ks with
  | none =>
    rw [hrange] at hstep
    cases hstep
    exact hinv
  | some covered =>
    rw [hrange] at hstep
    dsimp only at hstep
    split at hstep
    · split at hstep
      · obtain ⟨pages, hpages, heq⟩ := Option.map_eq_some_iff.mp hstep
        rw [← heq]
        apply withSubRange_inv hinv rfl
        intro p hp hP
        obtain ⟨h, hh, hmem⟩ := mem_of_mem_assignPages hpages hp
        obtain ⟨k, hk, hget⟩ := List.mem_filterMap.mp hh
        exact hcare ks hks covered hrange k hk ⟨h, hget, p, hmem, hP⟩
      · cases hstep
        apply withSubRange_inv hinv rfl
        intro p hp
        exact absurd hp List.not_mem_nil
    · cases hstep
      exact hinv

theorem getSciIpcIdStep_inv {flags : U32} {peerVuid : U64} {node : Bool} (hinv : ReadOnlyInv P s) :
    ReadOnlyInv P (getSciIpcIdStep ida s x flags peerVuid node) := by
  unfold getSciIpcIdStep
  split
  · exact hinv
  case h_2 a ha =>
    split
    · exact hinv
    case isFalse hperm =>
      dsimp only
      split
      · refine ⟨hinv.held, ?_, hinv.written, hinv.rw⟩
        intro y hy
        rcases List.mem_append.mp hy with hold | hnew
        · exact hinv.exports y hold
        obtain ⟨hlt, hro⟩ := hinv.mayHave_access ha
        rw [List.mem_singleton.mp hnew]
        refine ⟨hlt, fun ht => ?_⟩
        by_contra hflags
        exact hperm ⟨hro ht, hflags⟩
      · exact hinv.withSci _ _

theorem handleFromSciIpcIdStep_inv {flags : U32} {sciIpcId localuVuid : U64} {env : ImportEnv}
    (hinv : ReadOnlyInv P s) (hcare : ReadOnlyCareful P s ida (.handleFromSciIpcId flags sciIpcId localuVuid env))
    (hstep : handleFromSciIpcIdStep ida s flags sciIpcId localuVuid env = some s') : ReadOnlyInv P s' := by
  obtain ⟨r, hr, heq⟩ := Option.map_eq_some_iff.mp hstep
  rw [← heq]
  have hsci := hinv.withSci r.sys r.ro
  cases hk : r.handle with
  | none => exact hsci
  | some k =>
    obtain ⟨i, e, hi, he, hpeer, hflags, rfl⟩ := import_handle hr hk
    obtain ⟨hlt, hro⟩ := hinv.exports _ (hcare i hi e he hpeer hflags)
    have hhave : MayHave P { s with sci := r.sys, ro := r.ro } ⟨e.handle, decide (flags = protRead)⟩ :=
      ⟨hlt, fun ht => decide_eq_true (hro ht)⟩
    exact (hsci.withRef hhave).withId (mayHave_withRef hhave)

theorem rwHandleStep_inv {isRead : Bool} (hinv : ReadOnlyInv P s) :
    ReadOnlyInv P (rwHandleStep ida s x isRead) := by
  unfold rwHandleStep
  split
  · exact hinv
  case h_2 a ha =>
    split
    · exact hinv
    split
    case isFalse => exact hinv
    case isTrue hcheck =>
      obtain ⟨hzero, hwrite⟩ := hcheck
      obtain ⟨hlt, hro⟩ := hinv.mayHave_access ha
      refine ⟨hinv.held, hinv.exports, ?_, hinv.rw⟩
      intro k hk
      rcases List.mem_append.mp hk with hold | hnew
      · exact hinv.written k hold
      rw [List.mem_singleton.mp hnew]
      refine ⟨hlt, fun ht => ?_⟩
      unfold rwHandleCheck at hzero
      rw [if_pos ⟨hwrite, hro ht⟩] at hzero
      exact absurd hzero (by decide)

theorem createFromVaStep_inv {size : U64} {flags : U32} {pages : List ℕ} {env : DupEnv}
    (hinv : ReadOnlyInv P s) (hstep : createFromVaStep ps ida s size flags pages env = some s') :
    ReadOnlyInv P s' := by
  obtain ⟨_, heq⟩ := Option.ite_none_left_eq_some.mp hstep
  cases heq
  apply (hinv.withHandle (fun _ => rfl)).duplicate
  exact ⟨by simp, fun _ => rfl⟩

theorem readOnlyStep_inv {op : ReadOnlyOp} (hinv : ReadOnlyInv P s)
    (hcare : ReadOnlyCareful P s ida op) (hstep : readOnlyStep ps ida s op = some s') : ReadOnlyInv P s' := by
  cases op with
  | otherHandle h =>
    obtain ⟨hrw, heq⟩ := Option.ite_none_left_eq_some.mp hstep
    cases heq
    apply hinv.withHandle
    intro hro
    by_contra hc
    exact hrw ⟨hro, Bool.eq_true_of_not_eq_false hc⟩
  | otherExport k flags peerVuid node =>
    cases hstep
    exact hinv.withSci _ _
  | otherImport flags sciIpcId localuVuid env =>
    obtain ⟨r, _, heq⟩ := Option.map_eq_some_iff.mp hstep
    rw [← heq]
    exact hinv.withSci _ _
  | receive a =>
    obtain ⟨h, hh, hstep⟩ := Option.bind_eq_some_iff.mp hstep
    obtain ⟨hhas, heq⟩ := Option.ite_none_right_eq_some.mp hstep
    cases heq
    apply hinv.withFd
    refine ⟨lt_of_getElem hh, fun ht => ?_⟩
    rcases hcare ht with hro | ⟨h', hh', hro⟩
    · exact hro
    -- a read-only handle has no other dma-buf
    rw [Option.mem_def, hh, Option.some.injEq] at hh'
    rw [← hh'] at hro
    have hno := hinv.rw a.handle h hh hro
    rw [hno] at hhas
    exact hhas.resolve_right Bool.false_ne_true
  | dupHandle x accessFlags env =>
    cases hstep
    exact dupHandleStep_inv hinv
  | getFd x installOk =>
    cases hstep
    exact getFdStep_inv hinv
  | fromFd j env =>
    cases hstep
    exact fromFdStep_inv hinv
  | getFdFromList xs offs sz env => exact roFdFromListStep_inv hinv hcare hstep
  | getSciIpcId x flags peerVuid node =>
    cases hstep
    exact getSciIpcIdStep_inv hinv
  | handleFromSciIpcId flags sciIpcId localuVuid env =>
    exact handleFromSciIpcIdStep_inv hinv hcare hstep
  | rwHandle x isRead =>
    cases hstep
    exact rwHandleStep_inv hinv
  | createFromVa size flags pages env => exact createFromVaStep_inv hinv hstep

end

section

variable {P : ℕ → Prop} {s : ReadOnly} {ps : PageSize} {ida : Bool} {ops : List ReadOnlyOp}

/-- Another client has a buffer of the page 7, and passes a read-only descriptor of it, for which
the client gets an id. -/
def bufferReceived : List ReadOnlyOp :=
  [.otherHandle ⟨4096, 0, true, false, false, false, true, [7]⟩, .receive ⟨0, true⟩, .fromFd 0 ⟨true, true⟩]

/-- It is duplicated, exported, imported and written to, as far as it can be. -/
def bufferTried : List ReadOnlyOp :=
  bufferReceived ++ [.dupHandle 0 0 ⟨true, true⟩, .dupHandle 0 nvmapHandleRo ⟨true, true⟩, .getFd 1 true,
    .getSciIpcId 0 3 5 true, .getSciIpcId 0 protRead 5 true,
    .handleFromSciIpcId protRead 2 5 ⟨0, true, false, 0, true, 0, true⟩, .rwHandle 2 false,
    .createFromVa 4096 nvmapHandleRo [7] ⟨true, true⟩]

end

end NvidiaOot.Analysis
