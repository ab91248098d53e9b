import NvidiaOot.Model.Nvscic2cPcie

/-!
# The balance of references of stream objects

An object is balanced against the number of times that requests cache it.  Getting and putting a
reference moves both numbers, and a release of all handles of a request is as many puts.
-/

namespace NvidiaOot.Analysis

open Library Program Model

section

structure Balanced (o : LiveObj) (c : ℕ) : Prop where
  refcount : o.ready = true → o.refcount = (!o.markedForDel).toNat + c
  fresh : o.ready = false → o.refcount = 0 ∧ o.markedForDel = false ∧ c = 0
  unmaps : o.unmaps = if o.markedForDel = true ∧ c = 0 then 1 else 0
  unlinks : o.unlinks = o.markedForDel.toNat

variable {o : LiveObj} {c : ℕ}

theorem balanced_zeroed : Balanced zeroedObj 0 where
  refcount := fun h => (nomatch h)
  fresh := fun _ => ⟨rfl, rfl, rfl⟩
  unmaps := rfl
  unlinks := rfl

theorem Balanced.init (h : Balanced o 0) (hready : o.ready = false) : Balanced o.init 0 := by
  obtain ⟨_, hmarked, _⟩ := h.fresh hready
  refine ⟨?_, nofun, h.unmaps, h.unlinks⟩
  intro _
  unfold LiveObj.init
  rw [hmarked]
  rfl

theorem Balanced.get (h : Balanced o c) (hready : o.ready = true) (hmarked : o.markedForDel = false) :
    Balanced o.get (c + 1) := by
  have href := h.refcount hready
  have hunmaps := h.unmaps
  rw [hmarked] at hunmaps
  refine ⟨?_, ?_, ?_, h.unlinks⟩
  · intro _
    unfold LiveObj.get
    dsimp only
    omega
  · intro hno
    exact absurd (hready.symm.trans hno) (by decide)
  · unfold LiveObj.get
    rw [hmarked, hunmaps]
    rfl

theorem Balanced.put (h : Balanced o (c + 1)) : Balanced o.put c := by
  have hready : o.ready = true := by
    by_contra hno
    have := (h.fresh (Bool.eq_false_iff.mpr hno)).2.2
    omega
  have href := h.refcount hready
  have hunmaps := h.unmaps
  refine ⟨?_, ?_, ?_, h.unlinks⟩
  · intro _
    unfold LiveObj.put
    dsimp only
    omega
  · intro hno
    exact absurd (hready.symm.trans hno) (by decide)
  · unfold LiveObj.put
    rw [hunmaps, href]
    cases hm : o.markedForDel with
    | true =>
      by_cases hc : c = 0
      · simp [hc]
      · simp [hc]
    | false => simp

/-- An object that is in use is deleted: it is unmapped at once when nothing caches it. -/
theorem Balanced.delete (h : Balanced o c) (hready : o.ready = true)
    (hmarked : o.markedForDel = false) : Balanced o.delete c := by
  have href := h.refcount hready
  have hunmaps := h.unmaps
  have hunlinks := h.unlinks
  rw [hmarked] at href hunmaps hunlinks
  refine ⟨?_, ?_, ?_, ?_⟩
  · intro _
    unfold LiveObj.delete LiveObj.put
    rw [href]
    simp
  · intro hno
    exact absurd (hready.symm.trans hno) (by decide)
  · unfold LiveObj.delete LiveObj.put
    rw [hunmaps, href]
    by_cases hc : c = 0
    · simp [hc]
    · simp [hc]
  · unfold LiveObj.delete LiveObj.put
    rw [hunlinks]
    rfl

end

section

variable {objs : List LiveObj} {i j : ℕ} {o : LiveObj}

def flagsOf (objs : List LiveObj) (i : ℕ) : Option (Bool × Bool) :=
  objs[i]?.map fun o => (o.markedForDel, o.ready)

theorem getElem?_modify_cases {f : LiveObj → LiveObj} (h : (objs.modify i f)[j]? = some o) :
    ∃ o', objs[j]? = some o' ∧ o = if i = j then f o' else o' := by
  rw [List.getElem?_modify] at h
  obtain ⟨o', ho', heq⟩ := Option.map_eq_some_iff.mp h
  exact ⟨o', ho', heq.symm⟩

theorem flagsOf_modify {f : LiveObj → LiveObj}
    (hf : ∀ o, ((f o).markedForDel, (f o).ready) = (o.markedForDel, o.ready)) (i j : ℕ) :
    flagsOf (objs.modify i f) j = flagsOf objs j := by
  unfold flagsOf
  rw [List.getElem?_modify]
  cases objs[j]? with
  | none => rfl
  | some o =>
    by_cases hij : i = j
    · simp [hij, hf]
    · simp [hij]

/-- **The release of handles** gives back one reference for each of them. -/
theorem releaseHandles_balanced {handles : List ℕ} : ∀ {objs : List LiveObj} {c : ℕ → ℕ},
    (∀ (i : ℕ) (o : LiveObj), objs[i]? = some o → Balanced o (c i + handles.count i)) →
    (∀ (i : ℕ) (o : LiveObj), (releaseHandles objs handles)[i]? = some o → Balanced o (c i)) ∧
      ∀ i, flagsOf (releaseHandles objs handles) i = flagsOf objs i := by
  induction handles with
  | nil => exact fun h => ⟨h, fun _ => rfl⟩
  | cons k handles ih =>
    intro objs c h
    have hnext : ∀ (i : ℕ) (o : LiveObj), (objs.modify k LiveObj.put)[i]? = some o →
        Balanced o (c i + handles.count i) := by
      intro i o ho
      obtain ⟨o', ho', heq⟩ := getElem?_modify_cases ho
      have hbal := h i o' ho'
      rw [List.count_cons, ← Nat.add_assoc] at hbal
      by_cases hki : k = i
      · rw [if_pos hki] at heq
        rw [if_pos (beq_iff_eq.mpr hki)] at hbal
        rw [heq]
        exact hbal.put
      rw [if_neg hki] at heq
      rw [if_neg (fun hbeq => hki (beq_iff_eq.mp hbeq)), Nat.add_zero] at hbal
      rw [heq]
      exact hbal
    obtain ⟨hbal, hflags⟩ := ih hnext
    refine ⟨hbal, ?_⟩
    intro i
    exact (hflags i).trans (flagsOf_modify (f := LiveObj.put) (fun _ => rfl) k i)

end

section

variable {n : ℕ} {s s' : StreamObjs} {i k : ℕ}

structure StreamObjsInv (n : ℕ) (s : StreamObjs) : Prop where
  requests : ∀ r < n, s.freeList.count r + s.inFlight.countP (fun f => decide (f.req = r)) +
    (decide (s.call.request = some r)).toNat = 1
  transfers : s.transferCount = s.inFlight.length
  objs : ∀ (i : ℕ) (o : LiveObj), s.objs[i]? = some o → Balanced o (s.cachedTimes i)
  unknown : ∀ i, s.objs.length ≤ i → s.cachedTimes i = 0
  linked : ∀ i, s.objList.count i = (decide (flagsOf s.objs i = some (false, true))).toNat
  /-- The object of a file is in use, or `allocate_handle` is at it. -/
  files : ∀ k i : ℕ, s.files[k]? = some (some i) → flagsOf s.objs i = some (false, true) ∨
    flagsOf s.objs i = some (false, false) ∧ s.call.allocates = some i
  unique : ∀ k j i : ℕ, s.files[k]? = some (some i) → s.files[j]? = some (some i) → k = j
  allocating : ∀ i, s.call.allocates = some i → flagsOf s.objs i = some (false, false)

theorem streamObjsInv_new (n d : ℕ) : StreamObjsInv n (newStreamObjs n d) where
  requests := by
    intro r hr
    have hcount : (List.range n).count r = 1 :=
      List.count_eq_one_of_mem List.nodup_range (List.mem_range.mpr hr)
    unfold newStreamObjs StreamCall.request
    rw [hcount]
    rfl
  transfers := rfl
  objs := nofun
  unknown := fun _ _ => rfl
  linked := fun _ => rfl
  files := nofun
  unique := nofun
  allocating := nofun

theorem StreamObjsInv.ok (h : StreamObjsInv n s) : StreamObjsOk n s where
  requests := h.requests
  transfers := h.transfers
  refcount := fun i o ho => (h.objs i o ho).refcount
  unmapped := fun i o ho => (h.objs i o ho).unmaps
  unlinked := by
    intro i o ho
    refine ⟨(h.objs i o ho).unlinks, ?_⟩
    rw [h.linked i]
    unfold flagsOf
    rw [ho]
    cases hm : o.markedForDel <;> cases hr : o.ready <;> simp [hm, hr]

theorem StreamObjsInv.change (h : StreamObjsInv n s) (hlist : s'.objList = s.objList)
    (hfiles : s'.files = s.files) (hflags : ∀ i, flagsOf s'.objs i = flagsOf s.objs i)
    (hcall : s'.call.allocates = s.call.allocates)
    (hrequests : ∀ r < n, s'.freeList.count r + s'.inFlight.countP (fun f => decide (f.req = r)) +
      (decide (s'.call.request = some r)).toNat = 1) (htransfers : s'.transferCount = s'.inFlight.length)
    (hobjs : ∀ (i : ℕ) (o : LiveObj), s'.objs[i]? = some o → Balanced o (s'.cachedTimes i))
    (hunknown : ∀ i, s'.objs.length ≤ i → s'.cachedTimes i = 0) : StreamObjsInv n s' where
  requests := hrequests
  transfers := htransfers
  objs := hobjs
  unknown := hunknown
  linked := by
    intro i
    rw [hlist, hflags i]
    exact h.linked i
  files := by
    intro k i hk
    rw [hfiles] at hk
    rw [hflags i, hcall]
    exact h.files k i hk
  unique := by
    rw [hfiles]
    exact h.unique
  allocating := by
    intro i hi
    rw [hcall] at hi
    rw [hflags i]
    exact h.allocating i hi

theorem StreamObjsInv.goOn {call : StreamCall} (h : StreamObjsInv n s)
    (hrequest : call.request = s.call.request) (hhandles : call.handles = s.call.handles)
    (hallocates : call.allocates = s.call.allocates) : StreamObjsInv n { s with call := call } := by
  have htimes : ∀ i, ({ s with call := call } : StreamObjs).cachedTimes i = s.cachedTimes i := by
    intro i
    unfold StreamObjs.cachedTimes
    rw [hhandles]
  refine h.change ?_ ?_ ?_ hallocates ?_ ?_ ?_ ?_
  · rfl
  · rfl
  · exact fun _ => rfl
  · intro r hr
    rw [hrequest]
    exact h.requests r hr
  · exact h.transfers
  · intro i o ho
    rw [htimes i]
    exact h.objs i o ho
  · intro i hi
    rw [htimes i]
    exact h.unknown i hi

theorem StreamObjsInv.withFds (h : StreamObjsInv n s) (fds : List FdRef) : StreamObjsInv n { s with fds := fds } :=
  ⟨h.requests, h.transfers, h.objs, h.unknown, h.linked, h.files, h.unique, h.allocating⟩

theorem of_flagsOf {objs : List LiveObj} {marked ready : Bool} (h : flagsOf objs i = some (marked, ready)) :
    ∃ o, objs[i]? = some o ∧ o.markedForDel = marked ∧ o.ready = ready := by
  obtain ⟨o, ho, heq⟩ := Option.map_eq_some_iff.mp h
  exact ⟨o, ho, (Prod.mk.inj heq).1, (Prod.mk.inj heq).2⟩

/-- **An object is deleted** by way of its file. -/
theorem deleteObj_inv (h : StreamObjsInv n s) (hk : s.files[k]? = some (some i))
    (hready : flagsOf s.objs i = some (false, true)) : StreamObjsInv n (s.deleteObj k i) := by
  obtain ⟨o, ho, hmarked, hord⟩ := of_flagsOf hready
  have hflags : ∀ j, flagsOf (s.objs.modify i LiveObj.delete) j =
      if j = i then some (true, true) else flagsOf s.objs j := by
    intro j
    unfold flagsOf
    rw [List.getElem?_modify]
    by_cases hji : j = i
    · rw [hji, ho, if_pos rfl]
      simp [LiveObj.delete, LiveObj.put, hord]
    rw [if_neg hji]
    cases s.objs[j]? with
    | none => rfl
    | some o' => simp [Ne.symm hji]
  refine ⟨h.requests, h.transfers, ?_, ?_, ?_, ?_, ?_, ?_⟩
  · intro j o' ho'
    obtain ⟨o'', ho'', heq⟩ := getElem?_modify_cases ho'
    have hbal := h.objs j o'' ho''
    by_cases hij : i = j
    · rw [if_pos hij] at heq
      rw [← hij, ho, Option.some.injEq] at ho''
      rw [heq, ← ho'']
      rw [← ho''] at hbal
      exact hbal.delete hord hmarked
    · rw [if_neg hij] at heq
      rw [heq]
      exact hbal
  · intro j hj
    unfold StreamObjs.deleteObj at hj
    rw [List.length_modify] at hj
    exact h.unknown j hj
  · intro j
    unfold StreamObjs.deleteObj
    rw [hflags j, List.count_erase, h.linked j]
    by_cases hji : j = i
    · rw [hji, hready]
      simp
    · simp [hji, Ne.symm hji]
  · intro k' j hk'
    unfold StreamObjs.deleteObj at hk' ⊢
    rcases getElem?_set_cases hk' with ⟨_, hno⟩ | ⟨hkk, hold⟩
    · cases hno
    have hji : j ≠ i := by
      intro heq
      rw [heq] at hold
      exact hkk (h.unique k' k i hold hk)
    rw [hflags j, if_neg hji]
    exact h.files k' j hold
  · intro k₁ k₂ j hk₁ hk₂
    rcases getElem?_set_cases hk₁ with ⟨_, hno⟩ | ⟨_, hold₁⟩
    · cases hno
    · rcases getElem?_set_cases hk₂ with ⟨_, hno⟩ | ⟨_, hold₂⟩
      · cases hno
      · exact h.unique k₁ k₂ j hold₁ hold₂
  · intro j hj
    have hjflags := h.allocating j hj
    unfold StreamObjs.deleteObj
    rw [hflags j, if_neg (fun heq => by rw [heq, hready] at hjflags; cases hjflags)]
    exact hjflags

end

section

variable {n : ℕ} {s s' : StreamObjs} {i k : ℕ}

theorem file_of_objOf {fd : ℕ} (h : s.objOf fd = some i) : ∃ k : ℕ, s.files[k]? = some (some i) := by
  unfold StreamObjs.objOf at h
  split at h
  case h_1 k _ => exact ⟨k, Option.join_eq_some_iff.mp h⟩
  case h_2 => cases h

theorem flagsOf_concat (objs : List LiveObj) (i : ℕ) : flagsOf (objs ++ [zeroedObj]) i =
      if i = objs.length then some (false, false) else flagsOf objs i := by
  unfold flagsOf
  by_cases hi : i = objs.length
  · rw [hi, if_pos rfl, List.getElem?_concat_length]
    rfl
  rw [if_neg hi]
  by_cases hlt : i < objs.length
  · rw [List.getElem?_append_left hlt]
  · have hlen : (objs ++ [zeroedObj]).length = objs.length + 1 := List.length_append
    rw [List.getElem?_eq_none (by omega), List.getElem?_eq_none (by omega)]

theorem length_le_of_flagsOf {objs objs' : List LiveObj} (h : flagsOf objs' i = flagsOf objs i)
    (hi : objs'.length ≤ i) : objs.length ≤ i := by
  unfold flagsOf at h
  rw [List.getElem?_eq_none hi, Option.map_none] at h
  exact List.getElem?_eq_none_iff.mp (Option.map_eq_none_iff.mp h.symm)

theorem flagsOf_length (objs : List LiveObj) : flagsOf objs objs.length = none := by
  unfold flagsOf
  rw [List.getElem?_eq_none (Nat.le_refl _)]
  rfl

theorem allocateStep_inv {fd : ℕ} (h : StreamObjsInv n s) (hstep : allocateStep s fd = some s') :
    StreamObjsInv n s' := by
  obtain ⟨⟨hidle, _⟩, heq⟩ := Option.ite_none_right_eq_some.mp hstep
  cases heq
  have hrequests := h.requests
  rw [hidle] at hrequests
  have htimes : ∀ j, (s.inFlight.map fun f => f.handles.count j).sum = s.cachedTimes j := by
    intro j
    unfold StreamObjs.cachedTimes
    rw [hidle]
    rfl
  have hnoFile : ∀ k : ℕ, s.files[k]? ≠ some (some s.objs.length) := by
    intro k hk
    rcases h.files k _ hk with hflags | ⟨hflags, _⟩
    all_goals
      rw [flagsOf_length] at hflags
      cases hflags
  refine ⟨hrequests, h.transfers, ?_, ?_, ?_, ?_, ?_, ?_⟩
  · intro j o ho
    change Balanced o (s.inFlight.map fun f => f.handles.count j).sum
    rw [htimes j]
    rcases getElem?_concat_cases ho with ⟨hj, hzero⟩ | hold
    · rw [hzero, h.unknown j (by omega)]
      exact balanced_zeroed
    · exact h.objs j o hold
  · intro j hj
    change (s.inFlight.map fun f => f.handles.count j).sum = 0
    rw [htimes j]
    apply h.unknown
    rw [List.length_append] at hj
    omega
  · intro j
    rw [h.linked j, flagsOf_concat]
    by_cases hj : j = s.objs.length
    · rw [if_pos hj, hj, flagsOf_length]
      rfl
    · rw [if_neg hj]
  · intro k j hk
    rw [flagsOf_concat]
    rcases getElem?_concat_cases hk with ⟨_, hj⟩ | hold
    · rw [Option.some.injEq] at hj
      rw [if_pos hj, hj]
      exact Or.inr ⟨rfl, rfl⟩
    have hj : j ≠ s.objs.length := fun hj => hnoFile k (by rw [← hj]; exact hold)
    rw [if_neg hj]
    rcases h.files k j hold with hready | ⟨_, hcall⟩
    · exact Or.inl hready
    · rw [hidle] at hcall
      cases hcall
  · intro k₁ k₂ j hk₁ hk₂
    rcases getElem?_concat_cases hk₁ with ⟨h₁, hj₁⟩ | hold₁
    · rcases getElem?_concat_cases hk₂ with ⟨h₂, _⟩ | hold₂
      · exact h₁.trans h₂.symm
      · exact absurd (hj₁ ▸ hold₂) (hnoFile k₂)
    · rcases getElem?_concat_cases hk₂ with ⟨_, hj₂⟩ | hold₂
      · exact absurd (hj₂ ▸ hold₁) (hnoFile k₁)
      · exact h.unique k₁ k₂ j hold₁ hold₂
  · intro j hj
    rw [← Option.some.inj hj, flagsOf_concat, if_pos rfl]

section

variable (h : StreamObjsInv n s)

include h

theorem initStep_inv (hstep : initStep s = some s') : StreamObjsInv n s' := by
  unfold initStep at hstep
  split at hstep
  case h_2 => cases hstep
  case h_1 i hcall =>
    cases hstep
    have hflagsI := h.allocating i (by rw [hcall]; rfl)
    obtain ⟨o, ho, hmarked, hready⟩ := of_flagsOf hflagsI
    have hrequests := h.requests
    rw [hcall] at hrequests
    have htimes : ∀ j, (s.inFlight.map fun f => f.handles.count j).sum = s.cachedTimes j := by
      intro j
      unfold StreamObjs.cachedTimes
      rw [hcall]
      rfl
    have hflags : ∀ j, flagsOf (s.objs.modify i LiveObj.init) j =
        if j = i then some (false, true) else flagsOf s.objs j := by
      intro j
      unfold flagsOf
      rw [List.getElem?_modify]
      by_cases hji : j = i
      · rw [hji, ho, if_pos rfl]
        simp [LiveObj.init, hmarked]
      rw [if_neg hji]
      cases s.objs[j]? with
      | none => rfl
      | some o' => simp [Ne.symm hji]
    refine ⟨hrequests, h.transfers, ?_, ?_, ?_, ?_, h.unique, nofun⟩
    · intro j o' ho'
      change Balanced o' (s.inFlight.map fun f => f.handles.count j).sum
      rw [htimes j]
      obtain ⟨o'', ho'', heq⟩ := getElem?_modify_cases ho'
      have hbal := h.objs j o'' ho''
      by_cases hij : i = j
      · rw [if_pos hij] at heq
        rw [← hij, ho, Option.some.injEq] at ho''
        rw [← ho''] at hbal
        have hzero := (hbal.fresh hready).2.2
        rw [hzero] at hbal ⊢
        rw [heq, ← ho'']
        exact hbal.init hready
      · rw [if_neg hij] at heq
        rw [heq]
        exact hbal
    · intro j hj
      change (s.inFlight.map fun f => f.handles.count j).sum = 0
      rw [List.length_modify] at hj
      rw [htimes j]
      exact h.unknown j hj
    · intro j
      rw [hflags j, List.count_append, h.linked j, List.count_singleton]
      by_cases hji : j = i
      · rw [hji, hflagsI]
        simp
      · simp [hji, Ne.symm hji]
    · intro k j hk
      rw [hflags j]
      split_ifs with hji
      · exact Or.inl rfl
      rcases h.files k j hk with hold | ⟨_, hno⟩
      · exact Or.inl hold
      · rw [hcall] at hno
        exact absurd (Option.some.inj hno).symm hji

theorem ready_of_file (hk : s.files[k]? = some (some i))
    (hcall : s.call.allocates ≠ some i) : flagsOf s.objs i = some (false, true) := by
  rcases h.files k i hk with hready | ⟨_, hno⟩
  · exact hready
  · exact absurd hno hcall

theorem detachStep_inv (hstep : detachStep s = some s') : StreamObjsInv n s' := by
  unfold detachStep at hstep
  split at hstep
  case h_2 => cases hstep
  case h_1 fd hcall =>
    split at hstep
    case h_2 =>
      cases hstep
      exact h.goOn (by rw [hcall]; rfl) (by rw [hcall]; rfl) (by rw [hcall]; rfl)
    case h_1 k _ =>
      split at hstep
      case h_2 =>
        cases hstep
        exact h.goOn (by rw [hcall]; rfl) (by rw [hcall]; rfl) (by rw [hcall]; rfl)
      case h_1 i hfile =>
        cases hstep
        have hk := Option.join_eq_some_iff.mp hfile
        have hready := ready_of_file h hk (by rw [hcall]; exact nofun)
        apply (deleteObj_inv h hk hready).goOn
        · change _ = s.call.request
          rw [hcall]
          rfl
        · change _ = s.call.handles
          rw [hcall]
          rfl
        · change _ = s.call.allocates
          rw [hcall]
          rfl

theorem closeFdStep_inv (hstep : closeFdStep s = some s') : StreamObjsInv n s' := by
  unfold closeFdStep at hstep
  split at hstep
  case h_2 => cases hstep
  case h_1 fd hcall =>
    cases hstep
    apply (h.withFds (s.fds.set fd .none)).goOn
    · exact (congrArg StreamCall.request hcall).symm
    · exact (congrArg StreamCall.handles hcall).symm
    · exact (congrArg StreamCall.allocates hcall).symm

theorem releaseStep_inv (hcare : StreamObjsCareful s (.release k))
    (hstep : releaseStep s k = some s') : StreamObjsInv n s' := by
  obtain ⟨_, heq⟩ := Option.ite_none_right_eq_some.mp hstep
  obtain ⟨file, hfile, heq⟩ := Option.map_eq_some_iff.mp heq
  rw [← heq]
  cases file with
  | none => exact h
  | some i =>
    apply deleteObj_inv h hfile
    apply ready_of_file h hfile
    intro hcall
    exact hcare i hcall hfile

end

theorem probeStep_inv {typeOk : Bool} (h : StreamObjsInv n s) (hstep : probeStep s typeOk = some s') :
    StreamObjsInv n s' := by
  unfold probeStep at hstep
  split at hstep
  case h_1 fd probes args hcall =>
    cases hstep
    apply h.goOn <;> rw [hcall] <;> split <;> rfl
  case h_2 fd probes args hcall =>
    cases hstep
    apply h.goOn <;> rw [hcall] <;> split <;> try split
    all_goals rfl
  case h_3 => cases hstep

theorem popStep_inv (h : StreamObjsInv n s) (hstep : popStep s = some s') : StreamObjsInv n s' := by
  unfold popStep at hstep
  split at hstep
  case h_2 => cases hstep
  case h_1 args hcall =>
    split at hstep
    case h_1 hnil =>
      cases hstep
      exact h.goOn (by rw [hcall]; rfl) (by rw [hcall]; rfl) (by rw [hcall]; rfl)
    case h_2 req rest hfree =>
      cases hstep
      have htimes : ∀ i, (s.inFlight.map fun f => f.handles.count i).sum + [].count i =
          s.cachedTimes i := by
        intro i
        unfold StreamObjs.cachedTimes
        rw [hcall]
        rfl
      refine h.change ?_ ?_ ?_ ?_ ?_ ?_ ?_ ?_
      · rfl
      · rfl
      · exact fun _ => rfl
      · rw [hcall]
        rfl
      · intro r hr
        have hone := h.requests r hr
        rw [hfree, hcall, List.count_cons] at hone
        change rest.count r + s.inFlight.countP (fun f => decide (f.req = r)) +
          (decide (some req = some r)).toNat = 1
        change (rest.count r + if req == r then 1 else 0) + _ + 0 = 1 at hone
        by_cases hreq : req = r
        · rw [if_pos (beq_iff_eq.mpr hreq)] at hone
          rw [hreq, decide_eq_true rfl, Bool.toNat_true]
          omega
        · rw [if_neg (fun hbeq => hreq (beq_iff_eq.mp hbeq))] at hone
          rw [decide_eq_false (fun hs => hreq (Option.some.inj hs)), Bool.toNat_false]
          omega
      · exact h.transfers
      · intro i o ho
        change Balanced o ((s.inFlight.map fun f => f.handles.count i).sum + [].count i)
        rw [htimes i]
        exact h.objs i o ho
      · intro i hi
        change (s.inFlight.map fun f => f.handles.count i).sum + [].count i = 0
        rw [htimes i]
        exact h.unknown i hi

theorem cacheStep_inv (h : StreamObjsInv n s) (hcare : StreamObjsCareful s .cache)
    (hstep : cacheStep s = some s') : StreamObjsInv n s' := by
  unfold cacheStep at hstep
  split at hstep
  case h_3 => cases hstep
  case h_2 req handles args hcall =>
    cases hstep
    exact h.goOn (by rw [hcall]; rfl) (by rw [hcall]; rfl) (by rw [hcall]; rfl)
  case h_1 req handles fd todo args hcall =>
    have hsome : s.objOf fd ≠ none := hcare fd (by rw [hcall]; rfl)
    split at hstep
    case h_2 hnone => exact absurd hnone hsome
    case h_1 i hobj =>
      cases hstep
      obtain ⟨k, hk⟩ := file_of_objOf hobj
      have hready := ready_of_file h hk (by rw [hcall]; exact nofun)
      obtain ⟨o, ho, hmarked, hord⟩ := of_flagsOf hready
      have hrequests := h.requests
      rw [hcall] at hrequests
      have htimes : ∀ j, (s.inFlight.map fun f => f.handles.count j).sum + (handles ++ [i]).count j =
          s.cachedTimes j + if i = j then 1 else 0 := by
        intro j
        unfold StreamObjs.cachedTimes
        rw [hcall, List.count_append, List.count_singleton, ← Nat.add_assoc]
        simp only [StreamCall.handles, beq_iff_eq]
      refine h.change ?_ ?_ ?_ ?_ ?_ ?_ ?_ ?_
      · rfl
      · rfl
      · exact flagsOf_modify (f := LiveObj.get) (fun _ => rfl) i
      · rw [hcall]
        rfl
      · exact hrequests
      · exact h.transfers
      · intro j o' ho'
        change Balanced o' ((s.inFlight.map fun f => f.handles.count j).sum + (handles ++ [i]).count j)
        rw [htimes j]
        obtain ⟨o'', ho'', heq⟩ := getElem?_modify_cases ho'
        have hbal := h.objs j o'' ho''
        by_cases hij : i = j
        · rw [if_pos hij] at heq ⊢
          rw [← hij, ho, Option.some.injEq] at ho''
          rw [heq, ← ho'']
          rw [← ho''] at hbal
          exact hbal.get hord hmarked
        · rw [if_neg hij] at heq ⊢
          rw [heq]
          exact hbal
      · intro j hj
        change (s.inFlight.map fun f => f.handles.count j).sum + (handles ++ [i]).count j = 0
        rw [List.length_modify] at hj
        have hlt := lt_of_getElem ho
        rw [htimes j, h.unknown j hj, if_neg (by omega)]

theorem prepareStep_inv (h : StreamObjsInv n s) (hcare : StreamObjsCareful s .prepare)
    (hstep : prepareStep s = some s') : StreamObjsInv n s' := by
  unfold prepareStep at hstep
  split at hstep
  case h_2 => cases hstep
  case h_1 req handles fd todo hcall =>
    have hsome : s.objOf fd ≠ none := hcare fd (by rw [hcall]; rfl)
    rw [← Option.some.inj hstep, if_neg hsome]
    exact h.goOn (by rw [hcall]; rfl) (by rw [hcall]; rfl) (by rw [hcall]; rfl)

/-- **The transfer is submitted**, or the request goes back with its references. -/
theorem scheduleStep_inv {ok : Bool} (h : StreamObjsInv n s) (hstep : scheduleStep s ok = some s') :
    StreamObjsInv n s' := by
  unfold scheduleStep at hstep
  split at hstep
  case h_2 => cases hstep
  case h_1 req handles hcall =>
    cases hstep
    have htimes : ∀ j, s.cachedTimes j =
        (s.inFlight.map fun f => f.handles.count j).sum + handles.count j := by
      intro j
      unfold StreamObjs.cachedTimes
      rw [hcall]
      rfl
    have hrequests := h.requests
    rw [hcall] at hrequests
    cases ok with
    | true =>
      have htimes' : ∀ j, ((s.inFlight ++ [(⟨req, handles⟩ : InFlight)]).map fun f => f.handles.count j).sum + 0 =
          s.cachedTimes j := by
        intro j
        rw [htimes j, List.map_append, List.sum_append]
        simp
      refine h.change ?_ ?_ ?_ ?_ ?_ ?_ ?_ ?_
      · rfl
      · rfl
      · exact fun _ => rfl
      · rw [hcall]
        rfl
      · intro r hr
        have hone := hrequests r hr
        rw [if_pos rfl]
        dsimp only [StreamCall.request] at hone ⊢
        rw [countP_concat]
        simp only [Option.some.injEq] at hone
        simp only [reduceCtorEq, decide_false, Bool.toNat_false]
        omega
      · rw [if_pos rfl]
        rw [h.transfers, List.length_append]
        rfl
      · intro i o ho
        change Balanced o (((s.inFlight ++ [(⟨req, handles⟩ : InFlight)]).map fun f => f.handles.count i).sum + 0)
        rw [htimes' i]
        exact h.objs i o ho
      · intro i hi
        change ((s.inFlight ++ [(⟨req, handles⟩ : InFlight)]).map fun f => f.handles.count i).sum + 0 = 0
        rw [htimes' i]
        exact h.unknown i hi
    | false =>
      obtain ⟨hbal, hflags⟩ := @releaseHandles_balanced handles s.objs
        (fun j => (s.inFlight.map fun f => f.handles.count j).sum) (fun i o ho => by
          rw [← htimes i]
          exact h.objs i o ho)
      refine h.change ?_ ?_ ?_ ?_ ?_ ?_ ?_ ?_
      · rfl
      · rfl
      · exact hflags
      · rw [hcall]
        rfl
      · intro r hr
        have hone := hrequests r hr
        rw [if_neg (by decide)]
        dsimp only [StreamCall.request] at hone ⊢
        rw [List.count_append, List.count_singleton]
        simp only [Option.some.injEq] at hone
        simp only [reduceCtorEq, decide_false, Bool.toNat_false, beq_iff_eq]
        by_cases hreq : req = r
        · rw [decide_eq_true hreq, Bool.toNat_true] at hone
          rw [if_pos hreq]
          omega
        · rw [decide_eq_false hreq, Bool.toNat_false] at hone
          rw [if_neg hreq]
          omega
      · exact h.transfers
      · exact hbal
      · intro i hi
        have hzero := h.unknown i (length_le_of_flagsOf (hflags i) hi)
        rw [htimes i] at hzero
        change (s.inFlight.map fun f => f.handles.count i).sum + 0 = 0
        omega

/-- **A transfer completes**: its request goes back with its references. -/
theorem completeXferStep_inv (h : StreamObjsInv n s) (hstep : completeXferStep s i = some s') :
    StreamObjsInv n s' := by
  obtain ⟨f, hf, heq⟩ := Option.map_eq_some_iff.mp hstep
  rw [← heq]
  have hperm := perm_of_getElem hf
  have htimes : ∀ j, s.cachedTimes j =
      ((s.inFlight.eraseIdx i).map fun f => f.handles.count j).sum + s.call.handles.count j +
        f.handles.count j := by
    intro j
    unfold StreamObjs.cachedTimes
    rw [sum_map_eraseIdx (fun f : InFlight => f.handles.count j) hf]
    omega
  obtain ⟨hbal, hflags⟩ := @releaseHandles_balanced f.handles s.objs
    (fun j => ((s.inFlight.eraseIdx i).map fun f => f.handles.count j).sum +
      s.call.handles.count j) (fun j o ho => by
        rw [← htimes j]
        exact h.objs j o ho)
  refine h.change ?_ ?_ ?_ ?_ ?_ ?_ ?_ ?_
  · rfl
  · rfl
  · exact hflags
  · rfl
  · intro r hr
    have hone := h.requests r hr
    have hcount := hperm.countP_eq fun f => decide (f.req = r)
    rw [List.countP_cons] at hcount
    dsimp only
    rw [List.count_append, List.count_singleton]
    by_cases hreq : f.req = r
    · rw [if_pos (decide_eq_true hreq)] at hcount
      rw [if_pos (beq_iff_eq.mpr hreq)]
      omega
    · rw [if_neg (by simpa using hreq)] at hcount
      rw [if_neg (fun hbeq => hreq (beq_iff_eq.mp hbeq))]
      omega
  · have hlen := hperm.length_eq
    rw [List.length_cons] at hlen
    dsimp only
    rw [h.transfers]
    omega
  · exact hbal
  · intro j hj
    have hzero := h.unknown j (length_le_of_flagsOf (hflags j) hj)
    rw [htimes j] at hzero
    change ((s.inFlight.eraseIdx i).map fun f => f.handles.count j).sum + s.call.handles.count j = 0
    omega

theorem streamObjsStep_inv {op : StreamObjsOp} (h : StreamObjsInv n s)
    (hcare : StreamObjsCareful s op) (hstep : streamObjsStep s op = some s') : StreamObjsInv n s' := by
  cases op with
  | allocate fd => exact allocateStep_inv h hstep
  | init => exact initStep_inv h hstep
  | free fd typeOk =>
    obtain ⟨hidle, heq⟩ := Option.ite_none_right_eq_some.mp hstep
    cases heq
    apply h.goOn <;> rw [hidle] <;> split <;> rfl
  | detach => exact detachStep_inv h hstep
  | closeFd =>
    exact closeFdStep_inv h hstep
  | submit args =>
    obtain ⟨hidle, heq⟩ := Option.ite_none_right_eq_some.mp hstep
    cases heq
    exact h.goOn (by rw [hidle]; rfl) (by rw [hidle]; rfl) (by rw [hidle]; rfl)
  | probe typeOk => exact probeStep_inv h hstep
  | pop => exact popStep_inv h hstep
  | cache => exact cacheStep_inv h hcare hstep
  | prepare => exact prepareStep_inv h hcare hstep
  | schedule ok => exact scheduleStep_inv h hstep
  | complete i => exact completeXferStep_inv h hstep
  | close fd | openOther fd =>
    cases hstep
    exact h.withFds _
  | dup fd newFd =>
    obtain ⟨r, _, heq⟩ := Option.map_eq_some_iff.mp hstep
    rw [← heq]
    exact h.withFds _
  | release k => exact releaseStep_inv h hcare hstep

end

section

variable {n d : ℕ} {s : StreamObjs} {ops : List StreamObjsOp}

/-- **References are balanced**, in every run whose descriptors do not change under a call. -/
theorem stream_objs_ok (hcare : AllSteps streamObjsStep StreamObjsCareful (newStreamObjs n d) ops)
    (hrun : run streamObjsStep (newStreamObjs n d) ops = some s) : StreamObjsOk n s :=
  (run_invariant_of_allSteps (fun _ _ _ h hc hs => streamObjsStep_inv h hc hs)
    (streamObjsInv_new n d) hcare hrun).ok

def fourObjects : List StreamObjsOp :=
  [.allocate 0, .init, .allocate 1, .init, .allocate 2, .init, .allocate 3, .init]

/-- A copy from the object of descriptor 2 to that of 3 with the fences 0 and 1, up to the request
that it takes. -/
def copyTaken : List StreamObjsOp :=
  [.submit ⟨[0], [1], [(2, 3)]⟩, .probe true, .probe true, .probe true, .probe true, .probe true,
    .probe true, .probe true, .probe true, .pop]

def copySubmitted : List StreamObjsOp :=
  copyTaken ++ [.cache, .cache, .cache, .cache, .cache, .prepare, .prepare, .schedule true]

/-- The source is freed while the copy is in flight: it is unmapped when the copy completes. -/
def freedInFlight : List StreamObjsOp :=
  fourObjects ++ copySubmitted ++ [.free 2 true, .detach, .closeFd, .release 2, .complete 0]

theorem stream_objs_ok_freedInFlight : ∃ s, run streamObjsStep (newStreamObjs 1 4) freedInFlight = some s ∧
      StreamObjsOk 1 s ∧ s.objs.map LiveObj.unmaps = [0, 0, 1, 0] ∧ s.freeList = [0] := by
  refine exists_of_map (fun s => (s.objs.map LiveObj.unmaps, s.freeList)) ([0, 0, 1, 0], [0]) (by decide)
    fun s hrun hs => ?_
  have hcare : AllSteps streamObjsStep StreamObjsCareful (newStreamObjs 1 4) freedInFlight := by
    decide
  rw [Prod.mk.injEq] at hs
  exact ⟨stream_objs_ok hcare hrun, hs.1, hs.2⟩

/-- **A descriptor that is closed under a call**: the request is lost when it is closed between the
validation and the caching, and an object that is released while `allocate_handle` is at it stays
marked with a reference and in the list. -/
theorem stream_objs_fail :
    (∃ s, run streamObjsStep (newStreamObjs 1 4) (fourObjects ++ copyTaken ++ [.close 0, .cache]) = some s ∧
      s.call = .crashed ∧ s.freeList = [] ∧ s.inFlight = [] ∧ ¬ StreamObjsOk 1 s) ∧
    ∃ s, run streamObjsStep (newStreamObjs 1 4) [.allocate 0, .close 0, .release 0, .init] = some s ∧
      s.objs = [⟨1, true, true, 0, 1⟩] ∧ s.objList = [0] ∧ ¬ StreamObjsOk 1 s := by
  constructor
  · refine exists_of_map (fun s => (s.call, s.freeList, s.inFlight)) (.crashed, [], []) (by decide)
      fun s hrun hs => ?_
    simp only [Prod.mk.injEq] at hs
    obtain ⟨hcall, hfree, hflight⟩ := hs
    refine ⟨hcall, hfree, hflight, ?_⟩
    intro hok
    have hone := hok.requests 0 (by decide)
    rw [hcall, hfree, hflight] at hone
    exact absurd hone (by decide)
  · refine exists_of_map (fun s => (s.objs, s.objList, s.inFlight, s.call))
      ([⟨1, true, true, 0, 1⟩], [0], [], .idle) (by decide) fun s hrun hs => ?_
    simp only [Prod.mk.injEq] at hs
    obtain ⟨hobjs, hlist, hflight, hcall⟩ := hs
    refine ⟨hobjs, hlist, ?_⟩
    intro hok
    have href := hok.refcount 0 ⟨1, true, true, 0, 1⟩ (by rw [hobjs]; rfl) rfl
    unfold StreamObjs.cachedTimes at href
    rw [hflight, hcall] at href
    exact absurd href (by decide)

end

end NvidiaOot.Analysis
