import NvidiaOot.Analysis.NvmapHeld

/-!
# The references to handles and dma-bufs of nvmap are accounted for

Between the calls no reference is held by nobody's table (`RefsInv`), whatever the clients do, as
long as no call fails once it has its reference.
-/

namespace NvidiaOot.Analysis

open Library Program Model Function

/-- What holds between the calls.  The ids of a client are not more than the duplications of its
references, so that they are ids of dma-bufs that are there. -/
structure RefsInv (ida : Bool) (s : NvmapRefs) (w : ℕ × DmabufAccess → ℤ) : Prop where
  held : Held s 0 0 w
  spare : ida = true → ∀ x, 0 ≤ w x
  settled : ∀ b, (s.dmabuf b).live = true → 0 < (s.dmabuf b).files

/-- The references of the clients and the descriptors are the same. -/
structure TablesKept (s s' : NvmapRefs) : Prop where
  refs : ∀ f, s'.refs.sum f = s.refs.sum f
  fds : ∀ f, s'.fds.sum f = s.fds.sum f

/-- What holds at the end of a call, before `fput` has done its work. -/
structure CallInv (ida : Bool) (s : NvmapRefs) (r : Bool × NvmapRefs) (u : DmabufAccess → ℤ)
    (w : ℕ × DmabufAccess → ℤ) : Prop where
  held : Held r.2 0 u w
  gone : ∀ b, u b = 0 ∨ (r.2.dmabuf b).files ≤ 0 ∧ refsOf r.2 b = 0 ∧ fdsOf r.2 b = 0
  spare : ida = true → ∀ x, 0 ≤ w x
  next : s.next ≤ r.2.next
  kept : r.1 = false → TablesKept s r.2

variable {ida free new isRo : Bool} {s s' : NvmapRefs} {t : ℕ → ℤ} {u : DmabufAccess → ℤ}
  {w w' : ℕ × DmabufAccess → ℤ} {c k n i : ℕ} {b : DmabufAccess} {r : ClientRef} {e : NamedBuf} {env : RefEnv}
  {reached : Option ℕ}

theorem TablesKept.of_eq (hrefs : s'.refs = s.refs) (hfds : s'.fds = s.fds) : TablesKept s s' := by
  constructor
  · rw [hrefs]
    exact fun f => rfl
  · rw [hfds]
    exact fun f => rfl

theorem CallInv.of_held {r : Bool × NvmapRefs} (h : Held r.2 0 0 w) (hspare : ida = true → ∀ x, 0 ≤ w x)
    (hnext : s.next ≤ r.2.next) (hkept : r.1 = false → TablesKept s r.2) : CallInv ida s r 0 w :=
  ⟨h, fun _ => Or.inl rfl, hspare, hnext, hkept⟩

def liveCount (h : CountedHandle) : ℤ :=
  ((h.dmabuf false).live.toNat : ℤ) + (h.dmabuf true).live.toNat

theorem release_of_not (h : CountedHandle)
    (hno : ¬ ((h.dmabuf isRo).live = true ∧ (h.dmabuf isRo).files ≤ 0)) : h.release isRo = h := if_neg hno

theorem release_dmabuf_of_ne {ro : Bool} (hne : ro ≠ isRo) (h : CountedHandle) :
    (h.release isRo).dmabuf ro = h.dmabuf ro := by
  unfold CountedHandle.release
  split
  · exact update_of_ne hne _ _
  · rfl

theorem release_counted {h : CountedHandle} {m : ℤ} (hm : 0 ≤ m) (href : h.ref = m + liveCount h)
    (honce : h.freed + (if 0 < h.ref then 1 else 0) = 1) (isRo : Bool) :
    (h.release isRo).ref = m + liveCount (h.release isRo) ∧
      (h.release isRo).freed + (if 0 < (h.release isRo).ref then 1 else 0) = 1 := by
  by_cases hgone : (h.dmabuf isRo).live = true ∧ (h.dmabuf isRo).files ≤ 0
  · have heq : h.release isRo = (h.setDmabuf isRo .null).put := if_pos hgone
    have hlive : liveCount (h.setDmabuf isRo .null).put = liveCount h - 1 := by
      unfold liveCount CountedHandle.put CountedHandle.setDmabuf
      have hnull : DmabufPtr.null.live = false := rfl
      cases isRo
      · simp [hgone.1, hnull]
      · simp [hgone.1, hnull]
    have hpos : 0 < h.ref := by
      have hone : 1 ≤ liveCount h := by
        unfold liveCount
        cases isRo <;> simp only [hgone.1, Bool.toNat_true] <;> omega
      omega
    rw [if_pos hpos] at honce
    rw [heq]
    constructor
    · change h.ref - 1 = _
      omega
    · have hfreed : h.freed = 0 := by omega
      exact CountedHandle.once_put hpos hfreed
  · rw [release_of_not h hgone]
    exact ⟨href, honce⟩

theorem release_files {h : CountedHandle} (isRo : Bool) :
    ((h.release isRo).dmabuf isRo).live = true → 0 < ((h.release isRo).dmabuf isRo).files := by
  intro hlive
  by_cases hgone : (h.dmabuf isRo).live = true ∧ (h.dmabuf isRo).files ≤ 0
  · have heq : h.release isRo = (h.setDmabuf isRo .null).put := if_pos hgone
    rw [heq] at hlive
    unfold CountedHandle.put CountedHandle.setDmabuf at hlive
    simp [DmabufPtr.live] at hlive
  · rw [release_of_not h hgone] at hlive ⊢
    by_contra hno
    exact hgone ⟨hlive, Int.not_lt.mp hno⟩

/-- The count of a file that nobody has any more is gone, and the others are as they were. -/
theorem release_files_eq (h : CountedHandle) (isRo : Bool) :
    ((h.release isRo).dmabuf isRo).files = max 0 ((h.dmabuf isRo).files) := by
  by_cases hgone : (h.dmabuf isRo).live = true ∧ (h.dmabuf isRo).files ≤ 0
  · have heq : h.release isRo = (h.setDmabuf isRo .null).put := if_pos hgone
    rw [heq, max_eq_left hgone.2]
    unfold CountedHandle.put CountedHandle.setDmabuf
    simp [DmabufPtr.files]
  rw [release_of_not h hgone]
  cases hp : h.dmabuf isRo with
  | null | err => rfl
  | buf m =>
    rw [hp] at hgone
    have hpos : 0 < m := by
      by_contra hno
      exact hgone ⟨rfl, Int.not_lt.mp hno⟩
    exact (max_eq_right (le_of_lt hpos)).symm

theorem settle_dmabuf (s : NvmapRefs) (b : DmabufAccess) : (s.settle.dmabuf b).files = max 0 (s.dmabuf b).files ∧
      ((s.settle.dmabuf b).live = true → 0 < (s.settle.dmabuf b).files) := by
  obtain ⟨k, isRo⟩ := b
  unfold NvmapRefs.dmabuf NvmapRefs.settle
  dsimp only
  cases isRo
  · rw [release_dmabuf_of_ne (by decide)]
    exact ⟨release_files_eq _ _, release_files _⟩
  · constructor
    · rw [release_files_eq, release_dmabuf_of_ne (by decide)]
    · exact release_files _

/-- **What `fput` put off** leaves no reference that no table has. -/
theorem CallInv.settle {r : Bool × NvmapRefs} (h : CallInv ida s r u w) : RefsInv ida r.2.settle w := by
  have hcounted : ∀ k < r.2.next,
      (r.2.settle.handles k).ref = dupesOf r.2 k + liveCount (r.2.settle.handles k) ∧
        (r.2.settle.handles k).freed + (if 0 < (r.2.settle.handles k).ref then 1 else 0) = 1 := by
    intro k hk
    have href := h.held.ref k
    rw [Pi.zero_apply, add_zero] at href
    have hfalse := release_counted (h.held.dupesOf_nonneg k) href (h.held.once k hk) false
    exact release_counted (h.held.dupesOf_nonneg k) hfalse.1 hfalse.2 true
  have hunused : ∀ k, r.2.next ≤ k → r.2.settle.handles k = .unused := by
    intro k hk
    unfold NvmapRefs.settle
    dsimp only
    rw [h.held.unused k hk]
    rfl
  refine ⟨⟨?_, ?_, h.held.spare, fun k hk => (hcounted k hk).2, hunused, h.held.dupes⟩, h.spare,
    fun b => (settle_dmabuf r.2 b).2⟩
  · intro k
    rw [Pi.zero_apply, add_zero]
    by_cases hk : k < r.2.next
    · exact (hcounted k hk).1
    have href := h.held.ref k
    rw [h.held.unused k (Nat.le_of_not_lt hk)] at href
    have hd := h.held.dupesOf_nonneg k
    have hl := liveOf_nonneg r.2 k
    have hzero : liveOf r.2.settle k = 0 := by
      unfold liveOf NvmapRefs.dmabuf
      rw [hunused k (Nat.le_of_not_lt hk)]
      rfl
    rw [hunused k (Nat.le_of_not_lt hk), hzero]
    change (0 : ℤ) = dupesOf r.2 k + 0
    change (0 : ℤ) = _ + 0 at href
    omega
  · intro b
    rw [(settle_dmabuf r.2 b).1, h.held.files b, Pi.zero_apply, add_zero]
    change _ = refsOf r.2 b + fdsOf r.2 b
    have hr := refsOf_nonneg r.2 b
    have hf := fdsOf_nonneg r.2 b
    rcases h.gone b with hzero | ⟨hfiles, hrefs, hfds⟩
    · omega
    · rw [h.held.files b] at hfiles
      omega

theorem Held.nameRef (h : Held s 0 u w) (free : Bool) (reached : Option ℕ) (hr : s.refs.get i = some ⟨c, b, r.dupes⟩)
    (hlive : (s.dmabuf b).live = true) (htold : Told ida env) :
    ∃ s' w', nameHandleRef s c i b ida free env reached = (true, s') ∧ s'.next = s.next ∧
      Held s' 0 u w' ∧ (ida = true → w' = w - Pi.single (c, b) 1) := by
  have hdupes := h.dupes i _ hr
  dsimp only at hdupes
  have hinc := h.countDupes hr (d := 1) (by dsimp only; omega)
  have hr1 : (addDupes s i 1).refs.get i = some ⟨c, b, r.dupes + 1⟩ := by
    rw [refs_addDupes hr]
    exact Slots.get_put_self hr _
  have hlive1 : ((addDupes s i 1).dmabuf b).live = true := by
    rw [dmabuf_addDupes]
    exact hlive
  unfold nameHandleRef
  cases ida with
  | true =>
    obtain ⟨hcopy, hid⟩ := htold
    obtain ⟨id, hid⟩ := Option.isSome_iff_exists.mp hid
    have hfilter : (env.id.filter fun _ => ((addDupes s i 1).dmabuf b).live) = some id := by
      rw [hid, Option.filter_some, if_pos hlive1]
    rw [if_pos rfl, hfilter]
    dsimp only
    rw [if_pos hcopy]
    have hdec := (hinc.pushId c id b).uncountDupes hr1 (by dsimp only; omega)
    exact ⟨_, _, rfl, (next_addDupes _ _ _).trans (next_addDupes _ _ _),
      hdec.congr (by abel) rfl (by abel), fun _ => rfl⟩
  | false =>
    obtain ⟨hcopy, hfd⟩ := htold
    obtain ⟨fd, hfd⟩ := Option.isSome_iff_exists.mp hfd
    have href : 0 < ((addDupes s i 1).handles b.handle).ref := by
      rw [handles_addDupes]
      exact h.ref_of_live hlive (le_refl 0)
    obtain ⟨s2, hgot, hrefs2, _, _, hnext2, hlive2, _, hheld2⟩ := hinc.getFd hlive1 href env.fd
    dsimp only
    rw [if_neg (by decide), hgot]
    unfold nvmapInstallFd
    rw [if_neg (by rw [hlive2]; decide), hfd, Option.filter_some, if_pos (by rw [hcopy]; rfl)]
    rw [hfd] at hheld2
    have hr2 : s2.refs.get i = some ⟨c, b, r.dupes + 1⟩ := by
      rw [hrefs2]
      exact hr1
    have hdec := (hheld2.pushFd c fd b).uncountDupes hr2 (by dsimp only; omega)
    refine ⟨_, w, rfl, (next_addDupes _ _ _).trans (hnext2.trans (next_addDupes _ _ _)),
      hdec.congr (by abel) ?_ (by abel), fun hno => by cases hno⟩
    rw [Option.isSome_some, if_pos rfl]
    abel

theorem addDupes_cancel (hr : s.refs.get i = some r) : addDupes (addDupes s i 1) i (-1) = s := by
  have hr1 : (addDupes s i 1).refs.get i = some { r with dupes := r.dupes + 1 } := by
    rw [refs_addDupes hr]
    exact Slots.get_put_self hr _
  rw [addDupes_eq hr1, addDupes_eq hr]
  rw [Slots.put_put, add_neg_cancel_right, Slots.put_self hr]

theorem addDupes_ids (s : NvmapRefs) (ids : Slots NamedBuf) (d : ℤ) :
    addDupes { s with ids := ids } i d = { addDupes s i d with ids := ids } := by
  unfold addDupes
  dsimp only
  split <;> rfl

theorem Held.releaseId (h : Held s t u w) (hbuf : ∀ i e, s.ids.get i = some e → e.client = c →
    e.name = n → e.buf = b) (hsome : (s.findId c n).isSome = true) :
    Held (nvmapIdArrayIdRelease s c n) t u (w + Pi.single (c, b) 1) := by
  obtain ⟨i, hi⟩ := Option.isSome_iff_exists.mp hsome
  obtain ⟨e, he, hp⟩ := Slots.find_spec hi
  obtain ⟨rfl, rfl⟩ := of_decide_eq_true hp
  have hb := hbuf i e he rfl rfl
  unfold nvmapIdArrayIdRelease
  rw [hi, ← hb]
  exact h.eraseId he

section

variable (h : RefsInv ida s w)

include h

theorem RefsInv.live_of_fd (hbuf : s.fdBuf c n = some b) : (s.dmabuf b).live = true := by
  obtain ⟨e, hget, rfl⟩ := Option.map_eq_some_iff.mp hbuf
  obtain ⟨i, _, he⟩ := Option.bind_eq_some_iff.mp hget
  apply live_of_files
  have hfiles := h.held.files e.buf
  have hone := one_le_fdsOf he
  have hrefs := refsOf_nonneg s e.buf
  rw [Pi.zero_apply] at hfiles
  omega

theorem RefsInv.live_of_id (hbuf : s.idBuf c n ida = some b) : (s.dmabuf b).live = true := by
  cases ida with
  | false => exact h.live_of_fd hbuf
  | true =>
    obtain ⟨e, hget, rfl⟩ := Option.map_eq_some_iff.mp hbuf
    obtain ⟨i, _, he⟩ := Option.bind_eq_some_iff.mp hget
    have hids := one_le_clientIds he
    have hspare := h.held.spare e.client e.buf
    have hw := h.spare rfl (e.client, e.buf)
    -- a duplication is one of a reference
    have hdupes : clientDupes s e.client e.buf ≠ 0 := by omega
    obtain ⟨j, r, hr, hne⟩ := Slots.exists_of_sum_ne hdupes
    have hr' : r.client = e.client ∧ r.buf = e.buf := by
      by_contra hno
      exact hne (if_neg hno)
    apply live_of_files
    have hfiles := h.held.files e.buf
    have hone := one_le_refsOf hr
    rw [hr'.2] at hone
    have hfds := fdsOf_nonneg s e.buf
    rw [Pi.zero_apply] at hfiles
    omega

theorem RefsInv.none_of_next (isRo : Bool) :
    refsOf s ⟨s.next, isRo⟩ = 0 ∧ fdsOf s ⟨s.next, isRo⟩ = 0 ∧ dupesOf s s.next = 0 := by
  have hunused := h.held.unused s.next (le_refl _)
  have hfiles := h.held.files ⟨s.next, isRo⟩
  have href := h.held.ref s.next
  have hr := refsOf_nonneg s ⟨s.next, isRo⟩
  have hf := fdsOf_nonneg s ⟨s.next, isRo⟩
  have hd := h.held.dupesOf_nonneg s.next
  have hl := liveOf_nonneg s s.next
  unfold NvmapRefs.dmabuf at hfiles
  rw [hunused, Pi.zero_apply] at hfiles href
  change (0 : ℤ) = _ at hfiles href
  omega

theorem RefsInv.createHandle (c : ℕ) (isRo : Bool) :
    ∃ s', nvmapCreateHandle s c isRo true = some (s.refs.list.length, s') ∧ s'.next = s.next + 1 ∧
      s'.refs = s.refs.push ⟨c, ⟨s.next, isRo⟩, 1⟩ ∧ s'.fds = s.fds ∧ s'.ids = s.ids ∧
      (s'.dmabuf ⟨s.next, isRo⟩).live = true ∧ Held s' 0 0 (w + Pi.single (c, ⟨s.next, isRo⟩) 1) := by
  obtain ⟨hrefs0, hfds0, hdupes0⟩ := h.none_of_next isRo
  have hfree : ∀ ro, refsOf s ⟨s.next, ro⟩ = 0 ∧ fdsOf s ⟨s.next, ro⟩ = 0 := fun ro =>
    ⟨(h.none_of_next ro).1, (h.none_of_next ro).2.1⟩
  -- the handle as it is when its reference is added
  let hnew : CountedHandle := ({ CountedHandle.unused with ref := 1 } : CountedHandle).get.setDmabuf isRo
    (.buf 1)
  let s1 : NvmapRefs := { s with handles := update s.handles s.next hnew, next := s.next + 1 }
  have hself : s1.handles s.next = hnew := update_self _ _ _
  have hne : ∀ k, k ≠ s.next → s1.handles k = s.handles k := fun k hk => update_of_ne hk _ _
  have hdmabuf : s1.dmabuf ⟨s.next, isRo⟩ = .buf 1 := by
    unfold NvmapRefs.dmabuf
    rw [hself]
    exact update_self _ _ _
  have hother : ∀ ro, ro ≠ isRo → s1.dmabuf ⟨s.next, ro⟩ = .null := by
    intro ro hro
    unfold NvmapRefs.dmabuf
    rw [hself]
    exact update_of_ne hro _ _
  have hlive : liveOf s1 s.next = 1 := by
    unfold liveOf
    cases isRo
    · rw [hdmabuf, hother true (by decide)]
      rfl
    · rw [hdmabuf, hother false (by decide)]
      rfl
  have hheld : Held s1 (Pi.single s.next 1) (Pi.single ⟨s.next, isRo⟩ 1) w := by
    refine ⟨?_, ?_, h.held.spare, ?_, ?_, h.held.dupes⟩
    · intro k
      by_cases hk : k = s.next
      · rw [hk, hself, hlive, Pi.single_eq_same]
        change (2 : ℤ) = dupesOf s s.next + 1 + 1
        rw [hdupes0]
        rfl
      have hl : liveOf s1 k = liveOf s k := by
        unfold liveOf NvmapRefs.dmabuf
        rw [hne k hk]
      rw [hne k hk, hl, Pi.single_eq_of_ne hk]
      exact h.held.ref k
    · intro b
      by_cases hb : b.handle = s.next
      · obtain ⟨k, ro⟩ := b
        obtain rfl : k = s.next := hb
        change _ = refsOf s _ + fdsOf s _ + _
        rw [(hfree ro).1, (hfree ro).2]
        by_cases hro : ro = isRo
        · rw [hro, hdmabuf, Pi.single_eq_same]
          rfl
        · rw [hother ro hro, Pi.single_eq_of_ne fun heq => hro (DmabufAccess.mk.inj heq).2]
          rfl
      have hd : s1.dmabuf b = s.dmabuf b := by
        unfold NvmapRefs.dmabuf
        rw [hne _ hb]
      rw [hd, Pi.single_eq_of_ne fun heq => hb (by rw [heq])]
      exact h.held.files b
    · intro k hk
      by_cases hkn : k = s.next
      · rw [hkn, hself]
        rfl
      · rw [hne k hkn]
        exact h.held.once k (by change k < s.next + 1 at hk; omega)
    · intro k hk
      change s.next + 1 ≤ k at hk
      rw [hne k (by omega)]
      exact h.held.unused k (by omega)
  have hmake : nvmapCreateHandle s c isRo true =
      some (s.refs.list.length, addHandleRef s1 c ⟨s.next, isRo⟩) := by
    unfold nvmapCreateHandle nvmapMakeDmabuf nvmapHandleGet NvmapRefs.onHandle
    simp only [if_true, update_self, update_idem]
    rw [if_neg (by decide)]
    simp only [Option.map_some, update_self, update_idem]
    rfl
  refine ⟨_, hmake, rfl, rfl, rfl, rfl, ?_, ?_⟩
  · change (s1.dmabuf ⟨s.next, isRo⟩).live = true
    rw [hdmabuf]
    rfl
  · refine (hheld.addRef c ⟨s.next, isRo⟩).congr ?_ ?_ rfl
    · abel
    · abel

end

theorem nvmapValidateLocked_fresh (hno : ∀ j r, s.refs.get j = some r → r.buf.handle ≠ b.handle)
    (hrefs : s'.refs = s.refs.push ⟨c, b, 1⟩) (reached : Option ℕ) :
    nvmapValidateLocked s' c b reached = some s.refs.list.length := by
  have hnew : s'.refs.get s.refs.list.length = some ⟨c, b, 1⟩ := by
    rw [hrefs]
    exact Slots.get_push _ _
  have honly : ∀ j r, s'.refs.get j = some r → r.buf.handle = b.handle →
      j = s.refs.list.length ∧ r = ⟨c, b, 1⟩ := by
    intro j r hr hb
    rw [hrefs] at hr
    rcases Slots.get_push_cases hr with hj | hold
    · exact hj
    · exact absurd hb (hno j r hold)
  have hsame : s'.refs.find (fun r => decide (r.client = c ∧ r.buf = b)) = some s.refs.list.length := by
    obtain ⟨j, hj⟩ := Option.isSome_iff_exists.mp (Slots.find_isSome
      (p := fun r : ClientRef => decide (r.client = c ∧ r.buf = b)) hnew (decide_eq_true ⟨rfl, rfl⟩))
    obtain ⟨r, hr, hp⟩ := Slots.find_spec hj
    have hrb := (of_decide_eq_true hp).2
    rw [hj, (honly j r hr (by rw [hrb])).1]
  cases reached with
  | some j =>
    unfold nvmapValidateLocked
    dsimp only
    split
    case isTrue hany =>
      obtain ⟨r, hr, hp⟩ := (Option.any_eq_true _ _).mp hany
      have hrb := (of_decide_eq_true hp).2
      rw [(honly j r hr (by rw [hrb])).1]
    case isFalse => exact hsame
  | none =>
    unfold nvmapValidateLocked
    dsimp only
    rw [if_neg ?_, hsame]
    intro hother
    obtain ⟨j, hj⟩ := Option.isSome_iff_exists.mp hother
    obtain ⟨r, hr, hp⟩ := Slots.find_spec hj
    obtain ⟨_, hrh, hne⟩ := of_decide_eq_true hp
    obtain ⟨_, rfl⟩ := honly j r hr hrh
    exact hne rfl

theorem nvmapFreeHandle_fresh (s' : NvmapRefs)
    (hno : ∀ j r, s.refs.get j = some r → r.buf.handle ≠ b.handle) (hrefs : s'.refs = s.refs.push ⟨c, b, 1⟩) (reached : Option ℕ) :
    (∀ f, (nvmapFreeHandle s' c b reached).refs.sum f = s.refs.sum f) ∧
      (nvmapFreeHandle s' c b reached).fds = s'.fds ∧ (nvmapFreeHandle s' c b reached).ids = s'.ids ∧
      (nvmapFreeHandle s' c b reached).next = s'.next := by
  have hget : s'.refs.get s.refs.list.length = some ⟨c, b, 1⟩ := by
    rw [hrefs]
    exact Slots.get_push _ _
  unfold nvmapFreeHandle
  rw [nvmapValidateLocked_fresh hno hrefs]
  dsimp only
  rw [hget]
  refine ⟨?_, rfl, rfl, rfl⟩
  intro f
  change (s'.refs.put s.refs.list.length none).sum f = _
  rw [Slots.sum_put f hget, hrefs, Slots.sum_push, Option.elim_none]
  omega

theorem RefsInv.no_refs (h : RefsInv ida s w) : ∀ j r, s.refs.get j = some r → r.buf.handle ≠ s.next := by
  intro j r hr heq
  have hle := h.held.dupes_le hr
  have hpos := h.held.dupes j r hr
  rw [heq, (h.none_of_next true).2.2] at hle
  omega

/-- A new handle whose reference is freed because there is no id for it, or the caller cannot be told.
The file of its dma-buf is dropped twice, but nobody has it any more. -/
theorem RefsInv.createUnnamed (h : RefsInv true s w) (free : Bool) (reached : Option ℕ) (hnames : NamesFree s c env.id env.fd)
    (hrefs : s'.refs = s.refs.push ⟨c, ⟨s.next, isRo⟩, 1⟩) (hfds : s'.fds = s.fds) (hids : s'.ids = s.ids)
    (hnext : s'.next = s.next + 1) (hlive : (s'.dmabuf ⟨s.next, isRo⟩).live = true)
    (hheld : Held s' 0 0 (w + Pi.single (c, ⟨s.next, isRo⟩) 1)) (hun : ¬ Told true env) :
    ∃ s'' u, nameHandleRef s' c s.refs.list.length ⟨s.next, isRo⟩ true free env reached = (false, s'') ∧
      CallInv true s (false, s'') u w := by
  have hr : s'.refs.get s.refs.list.length = some ⟨c, ⟨s.next, isRo⟩, 1⟩ := by
    rw [hrefs]
    exact Slots.get_push _ _
  have hlt : s.next < s'.next := by omega
  -- what is left without the reference, whatever the ids are
  have hfree : ∀ ids w', Held { s' with ids := ids } 0 0 (w' + Pi.single (c, ⟨s.next, isRo⟩) 1) →
      Held (nvmapFreeHandle (dmaBufPut { s' with ids := ids } ⟨s.next, isRo⟩) c ⟨s.next, isRo⟩ reached) 0
        (0 - Pi.single ⟨s.next, isRo⟩ 1) w' := by
    intro ids w' hw'
    have hput := hw'.putFile (b := ⟨s.next, isRo⟩) hlive hlt
    have hlive' := (live_countFile { s' with ids := ids } ⟨s.next, isRo⟩ (-1)).trans hlive
    have hnone : (-1 : ℤ) ≤ 0 := by decide
    refine (hput.freeHandle (nvmapValidateLocked_fresh h.no_refs hrefs reached) hlive' hnone
      hlt).congr rfl rfl ?_
    abel
  have hkept : ∀ ids, TablesKept s
      (nvmapFreeHandle (dmaBufPut { s' with ids := ids } ⟨s.next, isRo⟩) c ⟨s.next, isRo⟩ reached) ∧
      (nvmapFreeHandle (dmaBufPut { s' with ids := ids } ⟨s.next, isRo⟩) c ⟨s.next, isRo⟩ reached).ids =
        ids ∧ s.next ≤
      (nvmapFreeHandle (dmaBufPut { s' with ids := ids } ⟨s.next, isRo⟩) c ⟨s.next, isRo⟩ reached).next := by
    intro ids
    obtain ⟨hsum, hf, hi, hn⟩ := nvmapFreeHandle_fresh
      (dmaBufPut { s' with ids := ids } ⟨s.next, isRo⟩) h.no_refs hrefs reached
    refine ⟨⟨hsum, ?_⟩, hi, ?_⟩
    · intro f
      rw [hf, ← hfds]
      rfl
    · rw [hn]
      exact le_of_lt hlt
  -- nobody has the file
  have hcall : ∀ s'', TablesKept s s'' → s.next ≤ s''.next →
      Held s'' 0 (0 - Pi.single ⟨s.next, isRo⟩ 1) w →
      CallInv true s (false, s'') (0 - Pi.single ⟨s.next, isRo⟩ 1) w := by
    intro s'' hkeep hle hh
    refine ⟨hh, ?_, h.spare, hle, fun _ => hkeep⟩
    intro b
    by_cases hb : b = ⟨s.next, isRo⟩
    · obtain ⟨hrefs0, hfds0, _⟩ := h.none_of_next isRo
      have hr0 : refsOf s'' b = 0 := by
        rw [hb]
        exact (hkeep.refs _).trans hrefs0
      have hf0 : fdsOf s'' b = 0 := by
        rw [hb]
        exact (hkeep.fds _).trans hfds0
      refine Or.inr ⟨?_, hr0, hf0⟩
      rw [hh.files b, hr0, hf0, hb]
      simp
    · refine Or.inl ?_
      rw [Pi.sub_apply, Pi.single_eq_of_ne hb]
      rfl
  unfold nameHandleRef
  rw [if_pos rfl, dmabuf_addDupes]
  cases hid : env.id with
  | none =>
    rw [addDupes_cancel hr]
    exact ⟨_, _, rfl, hcall _ (hkept s'.ids).1 (hkept s'.ids).2.2 (hfree s'.ids w hheld)⟩
  | some id =>
    have hcopy : ¬ env.copyOk = true := fun hc => hun ⟨hc, by rw [hid]; rfl⟩
    rw [Option.filter_some, if_pos hlive]
    dsimp only
    rw [if_neg hcopy, addDupes_ids, addDupes_cancel hr]
    have hpush := hfree _ (w - Pi.single (c, ⟨s.next, isRo⟩) 1)
      ((hheld.pushId c id ⟨s.next, isRo⟩).congr rfl rfl (by abel))
    obtain ⟨hkeep, hids', hle⟩ := hkept (s'.ids.push ⟨c, id, ⟨s.next, isRo⟩⟩)
    have hadd : (addDupes s' s.refs.list.length 1).ids = s'.ids := by
      rw [addDupes_eq hr]
    rw [hadd]
    have hnone : s.findId c id = none := (hnames.1 id hid).2.2
    have hrelease := hpush.releaseId (c := c) (n := id) (b := ⟨s.next, isRo⟩) ?_ ?_
    · refine ⟨_, _, rfl, hcall _ ⟨?_, ?_⟩ ?_ (hrelease.congr rfl rfl (by abel))⟩
      · intro f
        rw [← hkeep.refs f]
        unfold nvmapIdArrayIdRelease
        split <;> rfl
      · intro f
        rw [← hkeep.fds f]
        unfold nvmapIdArrayIdRelease
        split <;> rfl
      · refine le_of_le_of_eq hle ?_
        unfold nvmapIdArrayIdRelease
        split <;> rfl
    -- the id was not in use before
    · intro j e he hc hn
      rw [hids', hids] at he
      rcases Slots.get_push_cases he with ⟨_, rfl⟩ | hold
      · rfl
      have hsome := Slots.find_isSome (p := fun e : NamedBuf => decide (e.client = c ∧ e.name = id)) hold
        (decide_eq_true ⟨hc, hn⟩)
      unfold NvmapRefs.findId at hnone
      rw [hnone] at hsome
      cases hsome
    · unfold NvmapRefs.findId
      rw [hids']
      exact Slots.find_isSome (Slots.get_push _ _) (decide_eq_true ⟨rfl, rfl⟩)

theorem RefsInv.same (h : RefsInv ida s w) (ok : Bool) : CallInv ida s (ok, s) 0 w :=
  .of_held h.held h.spare (le_refl _) fun _ => .of_eq rfl rfl

theorem spare_add_sub (h : ida = true → ∀ x, 0 ≤ w x) {w' : ℕ × DmabufAccess → ℤ}
    (hw : ida = true → w' = w + Pi.single (c, b) 1 - Pi.single (c, b) 1) : ida = true → ∀ x, 0 ≤ w' x := by
  intro hida x
  rw [hw hida, add_sub_cancel_right]
  exact h hida x

theorem RefsInv.created (h : RefsInv ida s w) (hnames : NamesFree s c env.id env.fd)
    (hcare : ida = true ∨ Told ida env)
    (hrefs : s'.refs = s.refs.push ⟨c, ⟨s.next, isRo⟩, 1⟩) (hfds : s'.fds = s.fds) (hids : s'.ids = s.ids)
    (hnext : s'.next = s.next + 1) (hlive : (s'.dmabuf ⟨s.next, isRo⟩).live = true)
    (hheld : Held s' 0 0 (w + Pi.single (c, ⟨s.next, isRo⟩) 1)) : ∃ u w', CallInv ida s
      (nameHandleRef s' c s.refs.list.length ⟨s.next, isRo⟩ ida free env reached) u w' := by
  by_cases htold : Told ida env
  · have hr : s'.refs.get s.refs.list.length = some ⟨c, ⟨s.next, isRo⟩, 1⟩ := by
      rw [hrefs]
      exact Slots.get_push _ _
    obtain ⟨s'', w', heq, hnext', hheld', hw⟩ :=
      hheld.nameRef (r := ⟨c, ⟨s.next, isRo⟩, 1⟩) free reached hr hlive htold
    rw [heq]
    refine ⟨0, w', .of_held hheld' (spare_add_sub h.spare hw) ?_ fun hno => by cases hno⟩
    dsimp only
    omega
  obtain rfl : ida = true := hcare.resolve_right htold
  obtain ⟨s'', u, heq, hcall⟩ := h.createUnnamed free reached hnames hrefs hfds
    hids hnext hlive hheld htold
  rw [heq]
  exact ⟨u, w, hcall⟩

theorem RefsInv.create (h : RefsInv ida s w) (hnames : NamesFree s c env.id env.fd)
    (hcare : ida = true ∨ env.mem = false ∨ Told ida env) :
    ∃ u w', CallInv ida s (nvmapIoctlCreate ida s c env) u w' := by
  unfold nvmapIoctlCreate
  cases hmem : env.mem with
  | false => exact ⟨0, w, h.same false⟩
  | true =>
    obtain ⟨s', heq, hnext, hrefs, hfds, hids, hlive, hheld⟩ := h.createHandle c false
    rw [heq]
    apply h.created hnames _ hrefs hfds hids hnext hlive hheld
    exact hcare.imp_right fun hor => hor.resolve_left (by rw [hmem]; decide)

theorem RefsInv.createFromVa {allocOk : Bool} (h : RefsInv ida s w) (hnames : NamesFree s c env.id env.fd)
    (hcare : ida = true ∨ env.mem = false ∨ allocOk = false ∨ Told ida env) :
    ∃ u w', CallInv ida s (nvmapIoctlCreateFromVa ida s c env isRo allocOk) u w' := by
  unfold nvmapIoctlCreateFromVa
  cases hmem : env.mem with
  | false => exact ⟨0, w, h.same false⟩
  | true =>
    obtain ⟨s', heq, hnext, hrefs, hfds, hids, hlive, hheld⟩ := h.createHandle c isRo
    rw [heq]
    dsimp only
    cases allocOk with
    | true =>
      refine h.created hnames ?_ hrefs hfds hids hnext ?_ (hheld.setAlloc (k := s.next) (by omega))
      · exact hcare.imp_right fun hor => (hor.resolve_left (by rw [hmem]; decide)).resolve_left
          (by decide)
      · rw [dmabuf_onHandle (f := .setAlloc) _ fun h => rfl]
        exact hlive
    | false =>
      rw [if_neg (by decide)]
      have hfound := nvmapValidateLocked_fresh h.no_refs hrefs env.reachedLater
      have hnone : (-1 : ℤ) ≤ 0 := by decide
      have hlt : s.next < s'.next := by omega
      obtain ⟨hsum, hf, _, hn⟩ := nvmapFreeHandle_fresh s' h.no_refs hrefs env.reachedLater
      refine ⟨0, w, .of_held ?_ h.spare ?_ fun _ => ⟨hsum, ?_⟩⟩
      · exact (hheld.freeHandle hfound hlive hnone hlt).congr rfl rfl
          (add_sub_cancel_right _ _).symm
      · dsimp only
        omega
      · intro f
        rw [hf, hfds]

theorem nvmapValidateLocked_put {r' : ClientRef} (hr : s.refs.get i = some r) (hc : r'.client = r.client)
    (hb : r'.buf = r.buf) (hrefs : s'.refs = s.refs.put i (some r')) :
    nvmapValidateLocked s' c b reached = nvmapValidateLocked s c b reached := by
  have hany : ∀ (p : ClientRef → Bool) j, p r' = p r →
      (s'.refs.get j).any p = (s.refs.get j).any p := by
    intro p j hp
    by_cases hj : j = i
    · rw [hrefs, hj, Slots.get_put_self hr, hr, Option.any_some, Option.any_some, hp]
    · rw [hrefs, Slots.get_put_of_ne hj]
  unfold nvmapValidateLocked
  cases reached with
  | some j =>
    dsimp only
    rw [hany _ j (by rw [hc, hb]), hrefs, Slots.find_put hr (by rw [hc, hb])]
  | none =>
    dsimp only
    rw [hrefs, Slots.find_put hr (by rw [hc, hb]), Slots.find_put hr (by rw [hc, hb])]

/-- A reference that the client had before, and a caller that cannot be told of the descriptor. -/
theorem Held.foundUntold (h : Held s' 0 0 w) (hnew : NewDupe s s' c b env i false r)
    (hlive : (s'.dmabuf b).live = true) (hfd : env.fd.isSome = true) (hun : ¬ Told false env) :
    ∃ s'', nameHandleRef s' c i b false true env env.reached = (false, s'') ∧ s''.next = s'.next ∧
      s''.refs = s.refs ∧ s''.fds = s'.fds ∧ Held s'' 0 0 (w - Pi.single (c, b) 1) := by
  obtain ⟨hfound, hmore, hback⟩ := hnew.found rfl
  obtain ⟨fd, hfd'⟩ := Option.isSome_iff_exists.mp hfd
  have hcopy : ¬ env.copyOk = true := fun hc => hun ⟨hc, by rw [if_neg (by decide)]; exact hfd⟩
  obtain ⟨rfl, rfl⟩ : r.client = c ∧ r.buf = b := ⟨hnew.client, hnew.buf⟩
  have hr := hnew.get
  have hinc := h.countDupes hr (d := 1) (by omega)
  have hr1 : (addDupes s' i 1).refs.get i = some { r with dupes := r.dupes + 1 } := by
    rw [refs_addDupes hr]
    exact Slots.get_put_self hr _
  have hlive1 : ((addDupes s' i 1).dmabuf r.buf).live = true := by
    rw [dmabuf_addDupes]
    exact hlive
  have href : 0 < ((addDupes s' i 1).handles r.buf.handle).ref := by
    rw [handles_addDupes]
    exact h.ref_of_live hlive (le_refl 0)
  obtain ⟨s2, hgot, hrefs2, hfds2, _, hnext2, hlive2, hrefk, hheld2⟩ := hinc.getFd hlive1 href env.fd
  have hk2 := hheld2.lt_next ((hrefk r.buf.handle).symm ▸ href)
  have hlive3 : ((dmaBufPut s2 r.buf).dmabuf r.buf).live = true :=
    (live_countFile s2 r.buf (-1)).trans hlive2
  have hr3 : (dmaBufPut s2 r.buf).refs.get i = some { r with dupes := r.dupes + 1 } := by
    change s2.refs.get i = _
    rw [hrefs2]
    exact hr1
  have hrefs3 : (dmaBufPut s2 r.buf).refs = s'.refs.put i (some { r with dupes := r.dupes + 1 }) := by
    change s2.refs = _
    rw [hrefs2, refs_addDupes hr]
  have hfound3 : nvmapValidateLocked (dmaBufPut s2 r.buf) r.client r.buf env.reached = some i := by
    rw [nvmapValidateLocked_put hr (by rfl) (by rfl) hrefs3]
    obtain ⟨r0, hr0, hc0, hb0⟩ := nvmapValidateLocked_spec hfound
    rw [← hfound]
    have hself : s'.refs = s.refs.put i (some r) := by
      rw [← hback, Slots.put_put]
      exact (Slots.put_self hr).symm
    exact nvmapValidateLocked_put hr0 hc0.symm hb0.symm hself
  have hput := hheld2.putFile (b := r.buf) hlive2 hk2
  have hfree := hput.freeHandle hfound3 hlive3 (by simp) hk2
  -- one duplication goes with the call of `nvmap_free_handle`
  have hstate : nvmapFreeHandle (dmaBufPut s2 r.buf) r.client r.buf env.reached =
      nvmapHandlePut (addDupes (dmaBufPut s2 r.buf) i (-1)) r.buf.handle := by
    unfold nvmapFreeHandle
    rw [hfound3]
    dsimp only
    rw [hr3]
    dsimp only
    rw [if_pos (by omega)]
  have hrefs4 : (nvmapFreeHandle (dmaBufPut s2 r.buf) r.client r.buf env.reached).refs = s'.refs := by
    rw [hstate]
    change (addDupes (dmaBufPut s2 r.buf) i (-1)).refs = _
    rw [refs_addDupes hr3]
    change s2.refs.put i _ = _
    rw [hrefs2, refs_addDupes hr, Slots.put_put, add_neg_cancel_right]
    exact Slots.put_self hr
  have hr4 : (nvmapFreeHandle (dmaBufPut s2 r.buf) r.client r.buf env.reached).refs.get i = some r := by
    rw [hrefs4]
    exact hr
  have hlast := hfree.uncountDupes hr4 (by omega)
  unfold nameHandleRef
  dsimp only
  rw [if_neg (by decide), hgot]
  unfold nvmapInstallFd
  rw [if_neg (by rw [hlive2]; decide), hfd', Option.filter_some, if_neg (by simp [hcopy])]
  rw [if_pos rfl]
  refine ⟨_, rfl, ?_, ?_, ?_, ?_⟩
  · rw [next_addDupes, hstate]
    change (addDupes (dmaBufPut s2 r.buf) i (-1)).next = _
    rw [next_addDupes]
    change s2.next = _
    rw [hnext2, next_addDupes]
  · rw [refs_addDupes hr4, hrefs4, ← hback]
    rfl
  · rw [addDupes_eq hr4]
    rw [hstate]
    rw [addDupes_eq hr3]
    change s2.fds = _
    rw [hfds2, addDupes_eq hr]
  · refine hlast.congr (by abel) ?_ (by abel)
    rw [hfd', Option.isSome_some, if_pos rfl]
    abel

theorem RefsInv.nameDuplicate {o : Option (ℕ × Bool)} (h : RefsInv ida s w) (hdup : Duplicated s s' c b env o 0 0 w)
    (htold : CanDuplicate s c b env → o.isSome = true → Told ida env ∨ (ida = false ∧ free = true ∧
      env.fd.isSome = true ∧ (nvmapValidateLocked s c b env.reached).isSome = true)) :
    ∃ u w', CallInv ida s (nameDuplicate ida c env b free (o, s')) u w' := by
  unfold Program.nameDuplicate
  rcases hdup.refs with ⟨rfl, hrefs, hheld⟩ | ⟨i, new, r, rfl, hnew, hheld⟩
  · exact ⟨0, w, .of_held hheld h.spare (le_of_eq hdup.next.symm) fun _ => .of_eq hrefs hdup.fds⟩
  dsimp only
  by_cases ht : Told ida env
  · have hr : s'.refs.get i = some ⟨c, b, r.dupes⟩ := by
      rw [hnew.get, ← hnew.client, ← hnew.buf]
    obtain ⟨s'', w', heq, hnext, hheld', hw⟩ := hheld.nameRef free
      (if new = true then env.reachedLater else env.reached) hr hdup.live ht
    rw [heq]
    refine ⟨0, w', .of_held hheld' (spare_add_sub h.spare hw) ?_ fun hno => by cases hno⟩
    exact le_of_eq (hnext.trans hdup.next).symm
  obtain ⟨rfl, rfl, hfd, hold⟩ := (htold hnew.can rfl).resolve_left ht
  cases new with
  | true =>
    rw [hnew.fresh rfl] at hold
    cases hold
  | false =>
    obtain ⟨s'', heq, hnext, hrefs, hfds, hheld'⟩ := hheld.foundUntold hnew hdup.live hfd ht
    rw [if_neg (by decide), heq]
    refine ⟨0, w, .of_held (hheld'.congr rfl rfl (add_sub_cancel_right _ _).symm) h.spare ?_ fun _ =>
      .of_eq hrefs (hfds.trans hdup.fds)⟩
    exact le_of_eq (hnext.trans hdup.next).symm

theorem RefsInv.duplicateHeld (h : RefsInv ida s w) (c : ℕ) (env : RefEnv) (hlive : (s.dmabuf b).live = true) :
    ∃ o s', Program.duplicateHeld s c env b = (o, s') ∧ Duplicated s s' c b env o 0 0 w := by
  have href := h.held.ref_of_live hlive (le_refl 0)
  obtain ⟨hgot, hget⟩ := h.held.get href
  have hlive1 : ((s.onHandle b.handle .get).dmabuf b).live = true := by
    rw [dmabuf_onHandle (f := .get) s fun h => rfl]
    exact hlive
  have hone : (0 : ℤ) < (0 + Pi.single b.handle 1 : ℕ → ℤ) b.handle := by simp
  have hdup := hget.duplicate hlive1 (le_of_lt hone)
    (Eq.refl (nvmapDuplicateHandle (s.onHandle b.handle .get) c b env))
  have hbefore : Duplicated s (nvmapDuplicateHandle (s.onHandle b.handle .get) c b env).2 c b env
      (nvmapDuplicateHandle (s.onHandle b.handle .get) c b env).1 (0 + Pi.single b.handle 1) 0 w := by
    refine hdup.before ?_ ?_ ?_ ?_
    · rfl
    · rfl
    · rfl
    · rw [onHandle_self]
      rfl
  unfold Program.duplicateHeld
  rw [hgot]
  refine ⟨_, _, rfl, hbefore.after rfl rfl rfl ?_ ?_⟩
  · unfold nvmapHandlePut
    rw [dmabuf_onHandle (f := .put) _ fun h => rfl]
  · exact fun w' hw' => (hw'.put (hw'.ref_of_held hone)).congr (by abel) rfl rfl

theorem RefsInv.fromFd (h : RefsInv ida s w) (hcare : RefsCareful ida s (.fromFd c n env)) :
    ∃ u w', CallInv ida s (nvmapIoctlFromFd ida s c n env) u w' := by
  unfold nvmapIoctlFromFd
  cases hbuf : s.fdBuf c n with
  | none => exact ⟨0, w, h.same false⟩
  | some b =>
    have hlive := h.live_of_fd hbuf
    obtain ⟨o, s', heq, hdup⟩ := h.duplicateHeld c env hlive
    dsimp only
    rw [heq]
    apply h.nameDuplicate hdup
    intro hcan _
    exact (hcare b hbuf hcan).imp_right fun hex => ⟨hex.1, rfl, hex.2⟩

theorem Held.duplicateHeldRo (h : Held s (Pi.single k 1) (Pi.single ⟨k, true⟩ 1) w) (c : ℕ) (env : RefEnv)
    (hlive : (s.dmabuf ⟨k, true⟩).live = true) : ∃ o s', Program.duplicateHeldRo s c env k = (o, s') ∧
      Duplicated s s' c ⟨k, true⟩ env o 0 0 w := by
  have hone : (0 : ℤ) < (Pi.single k 1 : ℕ → ℤ) k := by simp
  have hdup := h.duplicate (c := c) hlive (le_of_lt hone) (Eq.refl (nvmapDuplicateHandle s c ⟨k, true⟩ env))
  have hk := h.lt_next (h.ref_of_held hone)
  refine ⟨_, _, rfl, hdup.after rfl rfl rfl ?_ ?_⟩
  · unfold nvmapHandlePut
    rw [dmabuf_onHandle (f := .put) _ fun h => rfl]
    exact live_countFile _ ⟨k, true⟩ (-1)
  · intro w' hw'
    have hput := hw'.putFile (b := ⟨k, true⟩) hdup.live (by rw [hdup.next]; exact hk)
    exact (hput.put (hput.ref_of_held hone)).congr (by abel) (by abel) rfl

theorem Held.setDmabuf {p : DmabufPtr} (h : Held s t u w) (hk : k < s.next)
    (hold : (s.dmabuf ⟨k, isRo⟩).live = false) :
    Held (s.onHandle k (.setDmabuf isRo p)) (t - Pi.single k (p.live.toNat : ℤ))
      (u + Pi.single ⟨k, isRo⟩ p.files) w := by
  have hfiles := h.files ⟨k, isRo⟩
  rw [files_of_not_live hold] at hfiles
  apply h.onHandle hk
  · have hl : liveOf (s.onHandle k (.setDmabuf isRo p)) k = liveOf s k + p.live.toNat := by
      unfold NvmapRefs.dmabuf at hold
      unfold liveOf NvmapRefs.dmabuf
      rw [onHandle_self]
      unfold CountedHandle.setDmabuf
      dsimp only at hold ⊢
      cases isRo
      · rw [update_self, update_of_ne (by decide), hold, Bool.toNat_false]
        omega
      · rw [update_self, update_of_ne (by decide), hold, Bool.toNat_false]
        omega
    rw [hl, Pi.sub_apply, Pi.single_eq_same]
    have href := h.ref k
    change (s.handles k).ref = _
    omega
  · intro j hj
    rw [Pi.sub_apply, Pi.single_eq_of_ne hj, sub_zero]
  · intro ro
    unfold CountedHandle.setDmabuf
    dsimp only
    rw [Pi.add_apply]
    by_cases hro : ro = isRo
    · rw [hro, update_self, Pi.single_eq_same]
      omega
    · rw [update_of_ne hro, Pi.single_eq_of_ne fun heq => hro (DmabufAccess.mk.inj heq).2, add_zero]
      exact h.files ⟨k, ro⟩
  · intro b hb
    rw [Pi.add_apply, Pi.single_eq_of_ne fun heq => hb (by rw [heq]), add_zero]
  · exact h.once k hk

theorem dmabuf_setDmabuf (s : NvmapRefs) (k : ℕ) (isRo : Bool) (p : DmabufPtr) :
    (s.onHandle k (.setDmabuf isRo p)).dmabuf ⟨k, isRo⟩ = p := by
  unfold NvmapRefs.dmabuf
  rw [onHandle_self]
  exact update_self _ _ _

theorem RefsInv.dupHandleRo (h : RefsInv ida s w) (c : ℕ) (env : RefEnv) (makeOk : Bool) (href : 0 < (s.handles k).ref)
    (herr : s.dmabuf ⟨k, true⟩ ≠ .err) : ∃ o s', nvmapDupHandleRo s c env k makeOk = (o, s') ∧
      ((o = none ∧ s'.next = s.next ∧ s'.refs = s.refs ∧ s'.fds = s.fds ∧ Held s' 0 0 w) ∨
        Duplicated s s' c ⟨k, true⟩ env o 0 0 w ∧ (s.dmabuf ⟨k, true⟩ = .null → makeOk = true)) := by
  obtain ⟨hgot, hget⟩ := h.held.get href
  have hk := h.held.lt_next href
  have hget1 : Held (s.onHandle k .get) (Pi.single k 1) 0 w := hget.congr (by abel) rfl rfl
  have hone : (0 : ℤ) < (Pi.single k 1 : ℕ → ℤ) k := by simp
  have hptr : (s.onHandle k .get).dmabuf ⟨k, true⟩ = s.dmabuf ⟨k, true⟩ :=
    dmabuf_onHandle (f := .get) s fun h => rfl
  have halloc : ((s.onHandle k .get).handles k).alloc = (s.handles k).alloc := by
    rw [onHandle_self]
    rfl
  unfold nvmapDupHandleRo
  rw [hgot]
  dsimp only
  rw [hptr]
  cases hp : s.dmabuf ⟨k, true⟩ with
  | err => exact absurd hp herr
  | null =>
    have hdead : ((s.onHandle k .get).dmabuf ⟨k, true⟩).live = false := by
      rw [hptr, hp]
      rfl
    cases makeOk with
    | false =>
      refine ⟨_, _, rfl, Or.inl ⟨rfl, rfl, rfl, rfl, ?_⟩⟩
      have hset := hget1.setDmabuf (p := .err) hk hdead
      have hpos : (0 : ℤ) <
          (Pi.single k 1 - Pi.single k (DmabufPtr.err.live.toNat : ℤ) : ℕ → ℤ) k := by
        rw [Pi.sub_apply, Pi.single_eq_same, Pi.single_eq_same]
        decide
      refine (hset.put (hset.ref_of_held hpos)).congr ?_ ?_ rfl
      · have hzero : (Pi.single k (DmabufPtr.err.live.toNat : ℤ) : ℕ → ℤ) = 0 := Pi.single_zero k
        rw [hzero]
        abel
      · have hzero : (Pi.single ⟨k, true⟩ DmabufPtr.err.files : DmabufAccess → ℤ) = 0 :=
          Pi.single_zero _
        rw [hzero]
        abel
    | true =>
      obtain ⟨hgot2, hget2⟩ := hget1.get (hget1.ref_of_held hone)
      have hdead2 : (((s.onHandle k .get).onHandle k .get).dmabuf ⟨k, true⟩).live = false := by
        rw [dmabuf_onHandle (f := .get) _ fun h => rfl]
        exact hdead
      have hset := hget2.setDmabuf (p := .buf 1) hk hdead2
      have hheld : Held (((s.onHandle k .get).onHandle k .get).onHandle k (.setDmabuf true (.buf 1)))
          (Pi.single k 1) (Pi.single ⟨k, true⟩ 1) w := by
        refine hset.congr ?_ ?_ rfl
        · have hsame : (Pi.single k ((DmabufPtr.buf 1).live.toNat : ℤ) : ℕ → ℤ) = Pi.single k 1 := rfl
          rw [hsame]
          abel
        · have hsame : (Pi.single ⟨k, true⟩ (DmabufPtr.buf 1).files : DmabufAccess → ℤ) =
              Pi.single ⟨k, true⟩ 1 := rfl
          rw [hsame, zero_add]
      have hmake : nvmapMakeDmabuf (s.onHandle k .get) ⟨k, true⟩ true =
          some (((s.onHandle k .get).onHandle k .get).onHandle k (.setDmabuf true (.buf 1))) := by
        unfold nvmapMakeDmabuf
        rw [if_pos rfl, hgot2]
        rfl
      rw [hmake]
      obtain ⟨o, s', heq, hdup⟩ := hheld.duplicateHeldRo c env
        (by rw [dmabuf_setDmabuf]; rfl)
      refine ⟨o, s', heq, Or.inr ⟨hdup.before rfl rfl rfl ?_, fun _ => rfl⟩⟩
      rw [onHandle_self, onHandle_self]
      exact halloc
  | buf files =>
    have hlive : (s.dmabuf ⟨k, true⟩).live = true := by
      rw [hp]
      rfl
    have hpos := h.settled _ hlive
    rw [hp] at hpos
    change 0 < files at hpos
    have hlive1 : ((s.onHandle k .get).dmabuf ⟨k, true⟩).live = true := by
      rw [hptr]
      exact hlive
    have hfile := hget1.getFile (b := ⟨k, true⟩) hlive1 hk
    dsimp only
    rw [if_pos hpos]
    obtain ⟨o, s', heq, hdup⟩ := (hfile.congr rfl (zero_add _).symm rfl).duplicateHeldRo c
      env ((live_countFile _ ⟨k, true⟩ 1).trans hlive1)
    refine ⟨o, s', heq, Or.inr ⟨hdup.before rfl rfl rfl ?_, fun hno => by cases hno⟩⟩
    unfold getDmaBuf
    rw [onHandle_self]
    exact halloc

theorem RefsInv.dupHandle {accessFlags : U32} {makeOk : Bool} (h : RefsInv ida s w)
    (hcare : RefsCareful ida s (.dupHandle c n accessFlags makeOk env)) :
    ∃ u w', CallInv ida s (nvmapIoctlDupHandle ida s c n env accessFlags makeOk) u w' := by
  unfold nvmapIoctlDupHandle
  cases hacc : (s.idBuf c n ida).bind fun a => dupHandleAccess a accessFlags with
  | none => exact ⟨0, w, h.same false⟩
  | some b =>
    obtain ⟨a, hid, hacc⟩ := Option.bind_eq_some_iff.mp hacc
    have hlive := h.live_of_id hid
    obtain ⟨herr, hname⟩ := hcare a hid b hacc
    obtain ⟨hallowed, heq⟩ := Option.ite_none_left_eq_some.mp hacc
    have hb := (Option.some.inj heq).symm
    have hhandle : b.handle = a.handle := by rw [hb]
    dsimp only
    cases hro : b.isRo with
    | true =>
      have hb' : b = ⟨b.handle, true⟩ := by
        rw [← hro]
      have href : 0 < (s.handles b.handle).ref := by
        rw [hhandle]
        exact h.held.ref_of_live hlive (le_refl 0)
      obtain ⟨o, s', heq, hor⟩ := h.dupHandleRo c env makeOk href
        (by rw [← hb']; exact herr hro)
      rw [if_pos rfl, heq]
      rcases hor with ⟨rfl, hnext, hrefs, hfds, hheld⟩ | ⟨hdup, hmake⟩
      · exact ⟨0, w, .of_held hheld h.spare (le_of_eq hnext.symm) fun _ => .of_eq hrefs hfds⟩
      rw [← hb'] at hdup hmake
      apply h.nameDuplicate hdup
      intro hcan _
      exact Or.inl (hname hcan fun _ => hmake)
    | false =>
      have hflags : a.isRo = false := by
        by_contra hne
        rw [Bool.not_eq_false] at hne
        rw [hb] at hro
        exact hallowed ⟨hne, of_decide_eq_false hro⟩
      have hab : b = a := by
        rw [← hflags] at hro
        cases a
        cases b
        exact congrArg₂ DmabufAccess.mk hhandle hro
      obtain ⟨o, s', heq, hdup⟩ := h.duplicateHeld (b := b) c env (by rw [hab]; exact hlive)
      rw [if_neg (by decide), heq]
      apply h.nameDuplicate hdup
      intro hcan _
      refine Or.inl (hname hcan fun hno => ?_)
      rw [hro] at hno
      cases hno

theorem RefsInv.hold (h : RefsInv ida s w) (hid : s.idBuf c n ida = some b) :
    nvmapHandleGet s b.handle = some (s.onHandle b.handle .get) ∧
      Held (s.onHandle b.handle .get) (Pi.single b.handle 1) 0 w ∧
      ((s.onHandle b.handle .get).dmabuf b).live = true ∧ b.handle < s.next := by
  have hlive := h.live_of_id hid
  have href := h.held.ref_of_live hlive (le_refl 0)
  obtain ⟨hgot, hget⟩ := h.held.get href
  refine ⟨hgot, hget.congr (zero_add _).symm rfl rfl, ?_, h.held.lt_next href⟩
  rw [dmabuf_onHandle (f := .get) s fun h => rfl]
  exact hlive

theorem Held.unhold (h : Held s (Pi.single k 1) u w) : Held (nvmapHandlePut s k) 0 u w :=
  (h.put (h.ref_of_held (by simp))).congr (sub_self _).symm rfl rfl

theorem RefsInv.alloc (h : RefsInv ida s w) : ∃ u w', CallInv ida s (nvmapIoctlAlloc ida s c n env) u w' := by
  unfold nvmapIoctlAlloc
  cases hid : s.idBuf c n ida with
  | none => exact ⟨0, w, h.same false⟩
  | some b =>
    obtain ⟨hgot, hheld, _, hk⟩ := h.hold hid
    rw [Option.bind_some, hgot, Option.map_some]
    dsimp only
    refine ⟨0, w, ?_⟩
    split
    · exact .of_held (hheld.setAlloc (k := b.handle) hk).unhold h.spare (le_refl _) fun hno => by cases hno
    · exact .of_held hheld.unhold h.spare (le_refl _) fun _ => .of_eq rfl rfl

theorem RefsInv.getfd (h : RefsInv ida s w) (hcare : RefsCareful ida s (.getfd c n env)) :
    ∃ u w', CallInv ida s (nvmapIoctlGetfd ida s c n env) u w' := by
  unfold nvmapIoctlGetfd
  cases hid : s.idBuf c n ida with
  | none =>
    have hfd : s.fdBuf c n = none := by
      cases ida with
      | true => exact hcare rfl
      | false => exact hid
    unfold getfdOfFd
    rw [hfd]
    exact ⟨0, w, h.same false⟩
  | some b =>
    obtain ⟨hgot, hheld, hlive, hk⟩ := h.hold hid
    have hpos : 0 < ((s.onHandle b.handle .get).handles b.handle).ref := hheld.ref_of_held (by simp)
    rw [Option.bind_some, hgot, Option.map_some]
    dsimp only
    obtain ⟨s2, heq, hrefs, hfds, _, hnext, hlive2, _, hheld2⟩ := hheld.getFd hlive hpos env.fd
    rw [heq]
    refine ⟨0, w, ?_⟩
    cases hfd : env.fd with
    | none =>
      rw [hfd, Option.isSome_none, if_neg (by decide)] at hheld2
      exact .of_held hheld2.unhold h.spare (le_of_eq hnext.symm) fun _ => .of_eq hrefs hfds
    | some fd =>
      rw [hfd, Option.isSome_some, if_pos rfl] at hheld2
      rw [Option.isSome_some, if_pos rfl]
      unfold nvmapInstallFd
      rw [if_neg (by rw [hlive2]; decide), hfd, Option.filter_some]
      cases hcopy : env.copyOk with
      | true =>
        refine .of_held ?_ h.spare (le_of_eq hnext.symm) fun hno => by cases hno
        exact (hheld2.pushFd c fd b).unhold.congr rfl (by abel) rfl
      | false =>
        refine .of_held ?_ h.spare (le_of_eq hnext.symm) fun _ => .of_eq hrefs hfds
        exact (hheld2.putFile (b := b) hlive2 (by rw [hnext]; exact hk)).unhold.congr rfl (by abel) rfl

theorem RefsInv.passFd {c' n' : ℕ} (h : RefsInv ida s w) :
    ∃ u w', CallInv ida s (Program.passFd s c n c' n') u w' := by
  unfold Program.passFd
  cases hbuf : s.fdBuf c n with
  | none => exact ⟨0, w, h.same false⟩
  | some b =>
    have hlive := h.live_of_fd hbuf
    have hk := h.held.lt_next (h.held.ref_of_live hlive (le_refl 0))
    refine ⟨0, w, .of_held ?_ h.spare (le_refl _) fun hno => by cases hno⟩
    exact ((h.held.pushFd c' n' b).getFile (b := b) hlive hk).congr rfl (by abel) rfl

theorem Held.closeFd (h : Held s 0 0 w) (hkeep : ∀ b, s.fdBuf c n = some b → (s.dmabuf b).live = true) :
    Held (Program.closeFd s c n).2 0 0 w ∧ (Program.closeFd s c n).2.next = s.next ∧
      ((Program.closeFd s c n).1 = false → (Program.closeFd s c n).2 = s) := by
  unfold Program.closeFd
  cases hi : s.findFd c n with
  | none => exact ⟨h, rfl, fun _ => rfl⟩
  | some i =>
    dsimp only
    cases he : s.fds.get i with
    | none => exact ⟨h, rfl, fun _ => rfl⟩
    | some e =>
      have hbuf : s.fdBuf c n = some e.buf := by
        unfold NvmapRefs.fdBuf
        rw [hi, Option.bind_some, he, Option.map_some]
      have hlive := hkeep _ hbuf
      have hk := h.lt_next (h.ref_of_live hlive (le_refl 0))
      refine ⟨?_, rfl, fun hno => by cases hno⟩
      exact ((h.eraseFd he).putFile (b := e.buf) hlive hk).congr rfl (by abel) rfl

theorem RefsInv.closeFd (h : RefsInv ida s w) : ∃ u w', CallInv ida s (Program.closeFd s c n) u w' := by
  obtain ⟨hheld, hnext, hsame⟩ := h.held.closeFd (c := c) (n := n) fun b hb => h.live_of_fd hb
  refine ⟨0, w, .of_held hheld h.spare (le_of_eq hnext.symm) fun hno => ?_⟩
  rw [hsame hno]
  exact .of_eq rfl rfl

/-- `nvmap_free_handle` leaves the descriptors and whether a dma-buf is there until `fput` is done. -/
theorem nvmapFreeHandle_frame (s : NvmapRefs) (c : ℕ) (b b' : DmabufAccess) (reached : Option ℕ) :
    (nvmapFreeHandle s c b reached).fds = s.fds ∧ (nvmapFreeHandle s c b reached).next = s.next ∧
      ((nvmapFreeHandle s c b reached).dmabuf b').live = (s.dmabuf b').live := by
  unfold nvmapFreeHandle
  split
  · exact ⟨rfl, rfl, rfl⟩
  split
  · exact ⟨rfl, rfl, rfl⟩
  split
  · unfold nvmapHandlePut
    rw [dmabuf_onHandle (f := .put) _ fun h => rfl, dmabuf_addDupes]
    refine ⟨?_, next_addDupes _ _ _, rfl⟩
    unfold addDupes
    split <;> rfl
  · unfold nvmapHandlePut
    rw [dmabuf_onHandle (f := .put) _ fun h => rfl]
    exact ⟨rfl, rfl, live_countFile _ b (-1)⟩

theorem RefsInv.freeHandleFromFd (h : RefsInv ida s w) (c n : ℕ) (env : RefEnv) :
    ∃ w', Held (nvmapFreeHandleFromFd ida s c n env) 0 0 w' ∧ (ida = true → ∀ x, 0 ≤ w' x) ∧
      (nvmapFreeHandleFromFd ida s c n env).fds = s.fds ∧ (nvmapFreeHandleFromFd ida s c n env).next = s.next ∧
      (∀ b, ((nvmapFreeHandleFromFd ida s c n env).dmabuf b).live = (s.dmabuf b).live) ∧
      (s.idBuf c n ida = none → nvmapFreeHandleFromFd ida s c n env = s) := by
  unfold nvmapFreeHandleFromFd
  cases hid : s.idBuf c n ida with
  | none => exact ⟨w, h.held, h.spare, rfl, rfl, fun b => rfl, fun _ => rfl⟩
  | some b =>
    obtain ⟨hgot, hheld, hlive, hk⟩ := h.hold hid
    rw [Option.bind_some, hgot, Option.map_some]
    dsimp only
    -- the id goes first
    obtain ⟨s2, w2, hs2, hheld2, hlive2, hfds2, hnext2, hspare2⟩ : ∃ s2 w2,
        (if ida = true then nvmapIdArrayIdRelease (s.onHandle b.handle .get) c n
          else s.onHandle b.handle .get) = s2 ∧
        Held s2 (Pi.single b.handle 1) 0 w2 ∧ (∀ b', (s2.dmabuf b').live = (s.dmabuf b').live) ∧
        s2.fds = s.fds ∧ s2.next = s.next ∧
        (ida = true → w2 = w + Pi.single (c, b) 1) := by
      have hlives : ∀ b', ((s.onHandle b.handle .get).dmabuf b').live = (s.dmabuf b').live := by
        intro b'
        rw [dmabuf_onHandle (f := .get) s fun h => rfl]
      cases ida with
      | false => exact ⟨_, w, rfl, hheld, hlives, rfl, rfl, fun hno => by cases hno⟩
      | true =>
        obtain ⟨e, hget, rfl⟩ := Option.map_eq_some_iff.mp hid
        obtain ⟨i, hi, he⟩ := Option.bind_eq_some_iff.mp hget
        obtain ⟨e', he', hp⟩ := Slots.find_spec hi
        rw [he] at he'
        cases he'
        obtain ⟨rfl, rfl⟩ := of_decide_eq_true hp
        have hi' : (s.onHandle e.buf.handle .get).findId e.client e.name = some i := hi
        have hrelease : nvmapIdArrayIdRelease (s.onHandle e.buf.handle .get) e.client e.name =
            { s.onHandle e.buf.handle .get with ids := s.ids.put i none } := by
          unfold nvmapIdArrayIdRelease
          rw [hi']
          rfl
        rw [if_pos rfl, hrelease]
        exact ⟨_, _, rfl, hheld.eraseId he, hlives, rfl, rfl, fun _ => rfl⟩
    rw [hs2]
    have hframe := fun b' => nvmapFreeHandle_frame s2 c b b' env.reached
    have hput : ∀ b', ((nvmapHandlePut (nvmapFreeHandle s2 c b env.reached) b.handle).dmabuf b').live =
        (s.dmabuf b').live := by
      intro b'
      unfold nvmapHandlePut
      rw [dmabuf_onHandle (f := .put) _ fun h => rfl, (hframe b').2.2, hlive2]
    have hlive' : (s2.dmabuf b).live = true := by
      rw [hlive2]
      exact h.live_of_id hid
    have hfree : ∃ w', Held (nvmapFreeHandle s2 c b env.reached) (Pi.single b.handle 1) 0 w' ∧
        (ida = true → ∀ x, 0 ≤ w' x) := by
      cases hfound : nvmapValidateLocked s2 c b env.reached with
      | none =>
        have hsame : nvmapFreeHandle s2 c b env.reached = s2 := by
          unfold nvmapFreeHandle
          rw [hfound]
        rw [hsame]
        refine ⟨w2, hheld2, fun hida x => ?_⟩
        have hw := h.spare hida x
        rw [hspare2 hida, Pi.add_apply, Pi.single_apply]
        split <;> omega
      | some i =>
        refine ⟨_, hheld2.freeHandle hfound hlive' ?_ (by rw [hnext2]; exact hk), ?_⟩
        · simp
        · exact spare_add_sub h.spare fun hida => by rw [hspare2 hida]
    obtain ⟨w', hheld', hspare'⟩ := hfree
    exact ⟨w', hheld'.unhold, hspare', (hframe b).1.trans hfds2, (hframe b).2.1.trans hnext2, hput,
      fun hno => by cases hno⟩

theorem fdBuf_congr (h : s'.fds = s.fds) : s'.fdBuf c n = s.fdBuf c n := by
  unfold NvmapRefs.fdBuf NvmapRefs.findFd
  rw [h]

theorem RefsInv.ioctlFree (h : RefsInv ida s w) : ∃ u w', CallInv ida s (nvmapIoctlFree ida s c n env) u w' := by
  unfold nvmapIoctlFree
  split
  · exact ⟨0, w, h.same true⟩
  obtain ⟨w', hheld, hspare, hfds, hnext, hlive, hsame⟩ := h.freeHandleFromFd c n env
  dsimp only
  split
  · exact ⟨0, w', .of_held hheld hspare (le_of_eq hnext.symm) fun hno => by cases hno⟩
  case isFalse hclose =>
    obtain ⟨hheld', hnext', hno⟩ := hheld.closeFd (c := c) (n := n) fun b hb => by
      rw [fdBuf_congr hfds] at hb
      rw [hlive]
      exact h.live_of_fd hb
    refine ⟨0, w', .of_held hheld' hspare (le_of_eq (hnext'.trans hnext).symm) fun hfail => ?_⟩
    -- what is not closed was no descriptor, and no id then
    have hnone : s.fdBuf c n = none := by
      rw [← fdBuf_congr hfds]
      unfold Program.closeFd at hfail
      unfold NvmapRefs.fdBuf
      cases hi : (nvmapFreeHandleFromFd ida s c n env).findFd c n with
      | none => rfl
      | some i =>
        rw [hi] at hfail
        dsimp only at hfail
        rw [Option.bind_some]
        cases he : (nvmapFreeHandleFromFd ida s c n env).fds.get i with
        | none => rfl
        | some e =>
          rw [he] at hfail
          cases hfail
    have hida : ida = false := by
      by_contra htrue
      rw [Bool.not_eq_false] at htrue
      apply hclose
      rw [fdBuf_congr hfds, hnone, htrue]
      rfl
    rw [hno hfail, hsame (by rw [hida]; exact hnone)]
    exact .of_eq rfl rfl

theorem Held.puts (m : ℕ) (h : Held s (Pi.single k (m : ℤ)) u w) :
    Held ((fun s => nvmapHandlePut s k)^[m] s) 0 u w ∧ ((fun s => nvmapHandlePut s k)^[m] s).ids = s.ids ∧
      ((fun s => nvmapHandlePut s k)^[m] s).next = s.next := by
  induction m generalizing s with
  | zero => exact ⟨h.congr (Pi.single_zero k).symm rfl rfl, rfl, rfl⟩
  | succ m ih =>
    have hput := h.put (h.ref_of_held (by rw [Pi.single_eq_same]; omega))
    have hleft : Held (nvmapHandlePut s k) (Pi.single k (m : ℤ)) u w := by
      refine hput.congr ?_ rfl rfl
      rw [← Pi.single_sub, Nat.cast_succ, add_sub_cancel_right]
    obtain ⟨hheld, hids, hnext⟩ := ih hleft
    exact ⟨hheld, hids.trans rfl, hnext.trans rfl⟩

theorem Held.dropRef (h : Held s 0 0 w) (c i : ℕ) :
    ∃ w', Held (dropHandleRef c s i) 0 0 w' ∧ (∀ x, x.1 ≠ c → w' x = w x) ∧
      (dropHandleRef c s i).ids = s.ids ∧ (dropHandleRef c s i).next = s.next := by
  unfold dropHandleRef
  cases hr : s.refs.get i with
  | none => exact ⟨w, h, fun x _ => rfl, rfl, rfl⟩
  | some r =>
    dsimp only
    split
    case isFalse => exact ⟨w, h, fun x _ => rfl, rfl, rfl⟩
    case isTrue hc =>
      have hfiles := h.files r.buf
      have hone := one_le_refsOf hr
      have hfds := fdsOf_nonneg s r.buf
      have hdupes := h.dupes i r hr
      rw [Pi.zero_apply] at hfiles
      have hlive : (s.dmabuf r.buf).live = true := live_of_files (by omega)
      have hk := h.lt_next (h.ref_of_live hlive (le_refl 0))
      have herase := (h.putFile (b := r.buf) hlive hk).eraseRef (i := i) (r := r) hr
      have hcast : (r.dupes.toNat : ℤ) = r.dupes := Int.toNat_of_nonneg (le_of_lt hdupes)
      obtain ⟨hheld, hids, hnext⟩ := Held.puts r.dupes.toNat
        (herase.congr (by rw [hcast, zero_add]) rfl rfl)
      refine ⟨_, hheld.congr rfl (by abel) rfl, ?_, hids, hnext⟩
      intro x hx
      rw [Pi.sub_apply, Pi.single_eq_of_ne (fun heq => hx (by rw [heq]; exact hc)), sub_zero]

theorem Held.dropRefs (h : Held s 0 0 w) (c : ℕ) (l : List ℕ) :
    ∃ w', Held (l.foldl (dropHandleRef c) s) 0 0 w' ∧ (∀ x, x.1 ≠ c → w' x = w x) ∧
      (l.foldl (dropHandleRef c) s).ids = s.ids ∧ (l.foldl (dropHandleRef c) s).next = s.next := by
  induction l generalizing s w with
  | nil => exact ⟨w, h, fun x _ => rfl, rfl, rfl⟩
  | cons i l ih =>
    obtain ⟨w1, hheld, hw1, hids1, hnext1⟩ := h.dropRef c i
    obtain ⟨w2, hheld2, hw2, hids2, hnext2⟩ := ih hheld
    exact ⟨w2, hheld2, fun x hx => (hw2 x hx).trans (hw1 x hx), hids2.trans hids1, hnext2.trans hnext1⟩

theorem RefsInv.close (h : RefsInv ida s w) : ∃ u w', CallInv ida s (true, destroyClient s c) u w' := by
  have hkeep : ∀ c' b, clientIds { s with ids := s.ids.keep fun e => decide (e.client ≠ c) } c' b =
      if c' = c then 0 else clientIds s c' b := by
    intro c' b
    unfold clientIds
    rw [Slots.sum_keep]
    split
    case isTrue hc =>
      rw [← Slots.sum_keep, hc]
      by_contra hne
      rw [Slots.sum_keep] at hne
      obtain ⟨i, e, _, hne⟩ := Slots.exists_of_sum_ne hne
      by_cases he : e.client = c
      · exact hne (if_neg (by simp [he]))
      · exact hne (by simp [he])
    case isFalse hc =>
      apply Slots.sum_congr
      intro i e _
      by_cases he : e.client = c
      · simp [he, Ne.symm hc]
      · simp [he]
  have hforget : Held { s with ids := s.ids.keep fun e => decide (e.client ≠ c) } 0 0 fun x =>
      clientDupes s x.1 x.2 -
        clientIds { s with ids := s.ids.keep fun e => decide (e.client ≠ c) } x.1 x.2 := by
    apply h.held.setIds
    intro c' b
    have hspare := h.held.spare c' b
    change clientIds { s with ids := s.ids.keep fun e => decide (e.client ≠ c) } c' b + _ = _
    dsimp only
    omega
  obtain ⟨w', hheld, hw', hids, hnext⟩ := hforget.dropRefs c (List.range s.refs.list.length)
  refine ⟨0, w', .of_held hheld ?_ (le_of_eq hnext.symm) fun hno => by cases hno⟩
  rintro hida ⟨c', b⟩
  by_cases hc : c' = c
  · -- the client has no ids any more
    have hspare := hheld.spare c' b
    have hzero : clientIds (List.foldl (dropHandleRef c)
        { s with ids := s.ids.keep fun e => decide (e.client ≠ c) } (List.range s.refs.list.length)) c' b =
        0 := by
      have hcongr := hkeep c' b
      rw [if_pos hc] at hcongr
      unfold clientIds at hcongr ⊢
      rw [hids]
      exact hcongr
    have hdupes : 0 ≤ clientDupes (List.foldl (dropHandleRef c)
        { s with ids := s.ids.keep fun e => decide (e.client ≠ c) } (List.range s.refs.list.length)) c' b := by
      apply Slots.sum_nonneg
      intro i r hr
      have hd := hheld.dupes i r hr
      split <;> omega
    omega
  have hspare := h.held.spare c' b
  have hw := h.spare hida (c', b)
  rw [hw' _ hc]
  dsimp only
  rw [hkeep, if_neg hc]
  omega

/-- **Every careful call** drops the references that it takes, or gives them to a table. -/
theorem RefsInv.call {op : RefOp} (h : RefsInv ida s w)
    (hnames : NamesFree s op.names.1 op.names.2.1 op.names.2.2) (hcare : RefsCareful ida s op) :
    ∃ u w', CallInv ida s (refCall ida s op) u w' := by
  cases op with
  | create c env => exact h.create hnames hcare
  | createFromVa c isRo allocOk env => exact h.createFromVa hnames hcare
  | fromFd c n env => exact h.fromFd hcare
  | dupHandle c n accessFlags makeOk env => exact h.dupHandle hcare
  | alloc c n env => exact h.alloc
  | getfd c n env => exact h.getfd hcare
  | free c n env => exact h.ioctlFree
  | close c => exact h.close
  | passFd c n c' n' => exact h.passFd
  | closeFd c n => exact h.closeFd

section

variable {ops : List RefOp}

theorem refsInv_new (ida : Bool) : RefsInv ida newNvmapRefs 0 := by
  refine ⟨⟨fun k => rfl, fun b => rfl, fun c b => rfl, fun k hk => absurd hk (Nat.not_lt_zero k),
    fun k _ => rfl, fun i r hr => by cases hr⟩, fun _ x => le_refl 0, ?_⟩
  nofun

theorem RefsInv.ok (h : RefsInv ida s w) : RefsOk s := by
  intro k hk
  have href := h.held.ref k
  rw [Pi.zero_apply, add_zero] at href
  refine ⟨href, fun isRo => (h.held.files ⟨k, isRo⟩).trans (add_zero _), ?_⟩
  have honce := h.held.once k hk
  have hd := h.held.dupesOf_nonneg k
  have hl := liveOf_nonneg s k
  split
  case isTrue hgone =>
    rw [if_neg (by omega)] at honce
    exact honce
  case isFalse hleft =>
    rw [if_pos (by omega)] at honce
    omega

theorem RefsInv.sameCounts {w1 w2 : ℕ × DmabufAccess → ℤ} (h : RefsInv ida s w1)
    (h' : RefsInv ida s' w2) (hkept : TablesKept s s') (hk : k < s.next) (hnext : s.next ≤ s'.next) :
    SameCounts s s' k := by
  have hrefs : ∀ b, refsOf s' b = refsOf s b := fun b => hkept.refs _
  have hfds : ∀ b, fdsOf s' b = fdsOf s b := fun b => hkept.fds _
  have hdupes : dupesOf s' k = dupesOf s k := hkept.refs _
  have hfiles : ∀ b, (s'.dmabuf b).files = (s.dmabuf b).files := by
    intro b
    rw [h.held.files b, h'.held.files b, hrefs, hfds]
  -- a dma-buf is there while somebody has its file
  have hlive : ∀ b, (s'.dmabuf b).live = (s.dmabuf b).live := by
    intro b
    rw [Bool.eq_iff_iff]
    constructor
    · intro hb
      exact live_of_files ((hfiles b).symm ▸ h'.settled b hb)
    · intro hb
      exact live_of_files ((hfiles b) ▸ h.settled b hb)
  have href : (s'.handles k).ref = (s.handles k).ref := by
    have hl : liveOf s' k = liveOf s k := by
      unfold liveOf
      rw [hlive, hlive]
    rw [h.held.ref k, h'.held.ref k, hdupes, hl]
  refine ⟨href, hdupes, fun isRo => hlive _, fun isRo => hfiles _, fun isRo => hrefs _, fun isRo => hfds _, ?_⟩
  have honce := h.held.once k hk
  have honce' := h'.held.once k (by omega)
  rw [href] at honce'
  omega

theorem RefsInv.countsKept {w1 w2 : ℕ × DmabufAccess → ℤ} (h : RefsInv ida s w1)
    (h' : RefsInv ida s' w2) (hkept : TablesKept s s') (hnext : s.next ≤ s'.next) : CountsKept s s' := by
  refine ⟨fun k hk => h.sameCounts h' hkept hk hnext, fun k hk hk' => ?_⟩
  have hnone : ∀ isRo, refsOf s' ⟨k, isRo⟩ = 0 ∧ fdsOf s' ⟨k, isRo⟩ = 0 ∧ dupesOf s' k = 0 := by
    intro isRo
    have hunused := h.held.unused k hk
    have hfiles := h.held.files ⟨k, isRo⟩
    have href := h.held.ref k
    have hr := refsOf_nonneg s ⟨k, isRo⟩
    have hf := fdsOf_nonneg s ⟨k, isRo⟩
    have hd := h.held.dupesOf_nonneg k
    have hl := liveOf_nonneg s k
    have hr' : refsOf s' ⟨k, isRo⟩ = refsOf s ⟨k, isRo⟩ := hkept.refs _
    have hf' : fdsOf s' ⟨k, isRo⟩ = fdsOf s ⟨k, isRo⟩ := hkept.fds _
    have hd' : dupesOf s' k = dupesOf s k := hkept.refs _
    unfold NvmapRefs.dmabuf at hfiles
    rw [hunused, Pi.zero_apply] at hfiles href
    change (0 : ℤ) = _ at hfiles href
    omega
  have hdead : ∀ isRo, (s'.dmabuf ⟨k, isRo⟩).live = false := by
    intro isRo
    by_contra hlive
    have hpos := h'.settled _ (Bool.not_eq_false _ ▸ hlive)
    have hfiles := h'.held.files ⟨k, isRo⟩
    rw [Pi.zero_apply, (hnone isRo).1, (hnone isRo).2.1] at hfiles
    omega
  have href := h'.held.ref k
  have honce := h'.held.once k hk'
  have hzero : liveOf s' k = 0 := by
    unfold liveOf
    rw [hdead, hdead]
    rfl
  rw [(hnone true).2.2, hzero, Pi.zero_apply] at href
  rw [href, if_neg (by decide)] at honce
  exact honce

theorem RefsInv.step {op : RefOp} (h : RefsInv ida s w) (hcare : RefsCareful ida s op)
    (hstep : refStep ida s op = some s') :
    (∃ w', RefsInv ida s' w') ∧ ((refCall ida s op).1 = false → CountsKept s s') := by
  obtain ⟨hnames, heq⟩ := Option.ite_none_right_eq_some.mp hstep
  cases heq
  obtain ⟨u, w', hcall⟩ := h.call hnames hcare
  refine ⟨⟨w', hcall.settle⟩, fun hfail => ?_⟩
  have hkept := hcall.kept hfail
  exact h.countsKept hcall.settle ⟨hkept.refs, hkept.fds⟩ hcall.next

/-- **The references to handles and dma-bufs are accounted for** in every run whose calls are careful,
and a careful call that fails leaves the counts as they were. -/
theorem refs_counted (hcare : AllSteps (refStep ida) (RefsCareful ida) newNvmapRefs ops)
    (hrun : run (refStep ida) newNvmapRefs ops = some s) :
    RefsOk s ∧ ∀ op s', RefsCareful ida s op → refStep ida s op = some s' →
      (refCall ida s op).1 = false → CountsKept s s' := by
  obtain ⟨w, hinv⟩ := run_invariant_of_allSteps (I := fun s => ∃ w, RefsInv ida s w)
    (fun s i s' h hc hs => (h.elim fun w hw => (hw.step hc hs).1)) ⟨0, refsInv_new ida⟩ hcare hrun
  exact ⟨hinv.ok, fun op s' hc hs => (hinv.step hc hs).2⟩

def firstId : ℕ := 0x7fffffff

def goodRef (id fd : ℕ) : RefEnv := ⟨true, some id, some fd, true, none, none⟩

/-- The caller gave an address that cannot be written. -/
def untoldRef (id fd : ℕ) : RefEnv := { goodRef id fd with copyOk := false }

/-- A client makes a handle, a read-only id for it and a descriptor, which another client imports. -/
def handleShared : List RefOp :=
  [.create 0 (goodRef firstId 3), .alloc 0 firstId (goodRef 0 0),
    .dupHandle 0 firstId nvmapHandleRo true (goodRef (firstId + 1) 3),
    .getfd 0 (firstId + 1) (goodRef 0 5), .passFd 0 5 1 7, .fromFd 1 7 (goodRef firstId 9),
    .create 1 (untoldRef (firstId + 2) 4)]

theorem refs_counted_shared :
    ∃ s, run (refStep true) newNvmapRefs handleShared = some s ∧ RefsOk s ∧ (s.handles 0).ref = 5 ∧
      (s.handles 1).freed = 1 := by
  refine exists_of_map (fun s => ((s.handles 0).ref, (s.handles 1).freed)) (5, 1) (by decide +kernel)
    fun s hrun hget => ?_
  have hcare : AllSteps (refStep true) (RefsCareful true) newNvmapRefs handleShared := by
    decide +kernel
  obtain ⟨href, hfreed⟩ := Prod.mk.inj hget
  exact ⟨(refs_counted hcare hrun).1, href, hfreed⟩

/-- **Counts that are wrong**: a duplicate of a handle whose id the caller cannot be told drops the
file of the dma-buf once more than it was taken, so that it is released while the client has its
reference; a new handle that gets no descriptor is freed while the client has its reference; and
asking for a descriptor of a descriptor drops the file, too. -/
theorem refs_counted_fails : (∃ s, run (refStep true) newNvmapRefs
        [.create 0 (goodRef firstId 3), .alloc 0 firstId (goodRef 0 0),
          .dupHandle 0 firstId 0 true (untoldRef (firstId + 1) 3)] = some s ∧
      (s.dmabuf ⟨0, false⟩).live = false ∧ refsOf s ⟨0, false⟩ = 1 ∧ ¬ RefsOk s) ∧
    (∃ s, run (refStep false) newNvmapRefs [.create 0 { goodRef firstId 0 with fd := none }] = some s ∧
      (s.handles 0).freed = 1 ∧ refsOf s ⟨0, false⟩ = 1 ∧ ¬ RefsOk s) ∧
    ∃ s, run (refStep true) newNvmapRefs
        [.create 0 (goodRef firstId 3), .getfd 0 firstId (goodRef 0 5), .getfd 0 5 (goodRef 0 6)] = some s ∧
      refsOf s ⟨0, false⟩ = 1 ∧ fdsOf s ⟨0, false⟩ = 1 ∧ ¬ RefsOk s := by
  -- the file has fewer references than are counted
  have hlost : ∀ s : NvmapRefs, s.next = 1 →
      (s.dmabuf ⟨0, false⟩).files ≠ refsOf s ⟨0, false⟩ + fdsOf s ⟨0, false⟩ → ¬ RefsOk s := by
    intro s hnext hne hok
    exact hne ((hok 0 (by omega)).files false)
  refine ⟨?_, ?_, ?_⟩
  · refine exists_of_map (fun s => (s.next, s.dmabuf ⟨0, false⟩, refsOf s ⟨0, false⟩, fdsOf s ⟨0, false⟩))
      (1, .null, 1, 0) (by decide +kernel) fun s hrun hget => ?_
    simp only [Prod.mk.injEq] at hget
    obtain ⟨hnext, hbuf, hrefs, hfds⟩ := hget
    refine ⟨by rw [hbuf]; rfl, hrefs, hlost s hnext ?_⟩
    rw [hbuf, hrefs, hfds]
    decide
  · refine exists_of_map
      (fun s => (s.next, (s.handles 0).freed, s.dmabuf ⟨0, false⟩, refsOf s ⟨0, false⟩, fdsOf s ⟨0, false⟩))
      (1, 1, .null, 1, 0) (by decide +kernel) fun s hrun hget => ?_
    simp only [Prod.mk.injEq] at hget
    obtain ⟨hnext, hfreed, hbuf, hrefs, hfds⟩ := hget
    refine ⟨hfreed, hrefs, hlost s hnext ?_⟩
    rw [hbuf, hrefs, hfds]
    decide
  · refine exists_of_map (fun s => (s.next, s.dmabuf ⟨0, false⟩, refsOf s ⟨0, false⟩, fdsOf s ⟨0, false⟩))
      (1, .buf 1, 1, 1) (by decide +kernel) fun s hrun hget => ?_
    simp only [Prod.mk.injEq] at hget
    obtain ⟨hnext, hbuf, hrefs, hfds⟩ := hget
    refine ⟨hrefs, hfds, hlost s hnext ?_⟩
    rw [hbuf, hrefs, hfds]
    decide

end

end NvidiaOot.Analysis
