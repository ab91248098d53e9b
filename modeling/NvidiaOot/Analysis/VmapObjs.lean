import NvidiaOot.Analysis.StreamExport
import NvidiaOot.Model.VmapObjs

/-!
# Each object is mapped once

`match_dmabuf` is given the address of the variable that has the dma-buf, which no dma-buf has, so that a dma-buf that is
mapped is not found and gets a second mapping.  Everything else holds, in every run that maps no dma-buf again.
-/

namespace NvidiaOot.Analysis

open Library Program Model Function

variable {s : VmapCtx} {t : VmapTables} {k : MapKind} {i : ℕ} {m : MapRef}

/-- What holds between the calls. -/
structure VmapInv (s : VmapCtx) : Prop extends VmapSound s where
  inRange : ∀ k i m, (s.tables k).get i = some m → 0 < m.refcount ∧ m.refcount < krefSaturated

theorem setRefs_apply (s : VmapCtx) (k : MapKind) (i n : ℕ) (k' : MapKind) (i' : ℕ) :
    setRefs s k i n k' i' = if k' = k ∧ i' = i then n else s.refs k' i' := by
  unfold setRefs
  by_cases hk : k' = k
  · subst hk
    by_cases hi : i' = i <;> simp [hi]
  · rw [update_of_ne hk, if_neg fun h => hk h.1]

theorem vmapInv_new : VmapInv newVmapCtx where
  unique k i j m m' h := by simp [newVmapCtx, Slots.empty, Slots.get] at h
  counted k i m h := by simp [newVmapCtx, Slots.empty, Slots.get] at h
  pinned k i := by simp [newVmapCtx, Slots.empty, Slots.get]
  inRange k i m h := by simp [newVmapCtx, Slots.empty, Slots.get] at h

/-- One place of a table is changed: what is there counts the references, and has no object of another place. -/
theorem VmapInv.change (h : VmapInv s) {o : Option MapRef} {n : ℕ}
    (hget : ∀ k' i', (t k').get i' = if k' = k ∧ i' = i then o else (s.tables k').get i')
    (hnone : o = none → n = 0) (hsome : ∀ m, o = some m → m.refcount = n ∧ 0 < n ∧ n < krefSaturated ∧
      ∀ j m', (s.tables k).get j = some m' → m'.object = m.object → j = i) :
    VmapInv ⟨t, setRefs s k i n⟩ := by
  have hplace : ∀ k' i' m, (t k').get i' = some m →
      (k' = k ∧ i' = i ∧ o = some m) ∨ ¬ (k' = k ∧ i' = i) ∧ (s.tables k').get i' = some m := by
    intro k' i' m hm
    rw [hget] at hm
    split at hm
    case isTrue hat => exact Or.inl ⟨hat.1, hat.2, hm⟩
    case isFalse hat => exact Or.inr ⟨hat, hm⟩
  refine ⟨⟨?_, ?_, ?_⟩, ?_⟩
  · intro k' i' j m m' hm hm' hobj
    rcases hplace k' i' m hm with ⟨rfl, rfl, ho⟩ | ⟨_, hold⟩ <;> rcases hplace k' j m' hm' with ⟨hk, rfl, ho'⟩ | ⟨_, hold'⟩
    · rfl
    · exact ((hsome m ho).2.2.2 j m' hold' hobj.symm).symm
    · exact (hsome m' ho').2.2.2 i' m (hk ▸ hold) hobj
    · exact h.unique k' i' j m m' hold hold' hobj
  · intro k' i' m hm
    dsimp only
    rw [setRefs_apply]
    rcases hplace k' i' m hm with ⟨rfl, rfl, ho⟩ | ⟨hat, hold⟩
    · rw [if_pos ⟨rfl, rfl⟩, (hsome m ho).1]
    · rw [if_neg hat, h.counted k' i' m hold]
  · intro k' i'
    dsimp only
    rw [setRefs_apply, hget]
    split
    case isTrue =>
      cases o with
      | none => simp [hnone rfl]
      | some m => simp [(hsome m rfl).2.1]
    case isFalse => exact h.pinned k' i'
  · intro k' i' m hm
    rcases hplace k' i' m hm with ⟨rfl, rfl, ho⟩ | ⟨_, hold⟩
    · obtain ⟨hn, hpos, hlt, _⟩ := hsome m ho
      exact hn ▸ ⟨hpos, hlt⟩
    · exact h.inRange k' i' m hold

/-- A new mapping is of an object that has none. -/
theorem VmapInv.add (h : VmapInv s) {object : U64} {clientMngd : Bool} {env : PinEnv}
    (hadd : addMapRef s.tables k (newMapRef object clientMngd env.attrib) env = some (i, t))
    (hfree : ∀ j m, (s.tables k).get j = some m → m.object ≠ object) :
    VmapInv ⟨t, setRefs s k i (s.refs k i + 1)⟩ := by
  obtain ⟨_, hnone, hget⟩ := addMapRef_spec hadd
  have hzero : s.refs k i = 0 := by
    have hpinned := h.pinned k i
    rw [hnone] at hpinned
    simpa using hpinned
  refine h.change hget nofun fun m hm => ?_
  cases hm
  rw [hzero]
  exact ⟨rfl, Nat.one_pos, one_lt_krefSaturated, fun j m' hm' heq => absurd heq (hfree j m' hm')⟩

/-- The count of a mapping is changed. -/
theorem VmapInv.recount (h : VmapInv s) (hm : (s.tables k).get i = some m) {n : ℕ} (hlt : n < krefSaturated) :
    VmapInv ⟨setMap s.tables k i (if n = 0 then none else some { m with refcount := n }), setRefs s k i n⟩ := by
  refine h.change (get_setMap hm _) ?_ ?_
  · intro hnone
    by_contra hne
    rw [if_neg hne] at hnone
    cases hnone
  · intro m' hm'
    obtain ⟨hne, heq⟩ := Option.ite_none_left_eq_some.mp hm'
    cases heq
    exact ⟨rfl, Nat.pos_of_ne_zero hne, hlt, fun j m' hj heq => h.unique k j i m' m hj hm heq⟩

/-- A careful map finds neither the dma-buf nor the variable. -/
theorem VmapCareful.free {dmabuf data : U64} {clientMngd : Bool} {env : PinEnv} {err : ℤ}
    (hc : VmapCareful s (.memobjMap dmabuf data clientMngd env err)) (hm : (s.tables .mem).get i = some m) :
    m.object ≠ dmabuf ∧ m.object ≠ data := by
  by_contra hno
  have hsome := Slots.find_isSome (p := fun m : MapRef => decide (m.object = dmabuf ∨ m.object = data)) hm
    (decide_eq_true (or_iff_not_and_not.mpr hno))
  rw [hc] at hsome
  cases hsome

theorem VmapInv.step (h : VmapInv s) {c : VmapCall} (hc : VmapCareful s c) : VmapInv (vmapCall s c).2 := by
  unfold vmapCall
  cases c with
  | memobjMap dmabuf data clientMngd env err =>
    dsimp only
    cases hmap : memobjMap s.tables dmabuf data clientMngd env with
    | none => exact h
    | some r =>
      unfold memobjMap at hmap
      cases hfind : (s.tables .mem).find fun m => decide (m.object = data) with
      | some j =>
        obtain ⟨m, hm, hp⟩ := Slots.find_spec hfind
        exact absurd (of_decide_eq_true hp) (VmapCareful.free hc hm).2
      | none =>
        rw [hfind] at hmap
        exact h.add hmap fun j m hm => (VmapCareful.free hc hm).1
  | syncobjMap syncptId clientMngd env err =>
    dsimp only
    cases hmap : syncobjMap s.tables syncptId clientMngd env with
    | none => exact h
    | some r =>
      unfold syncobjMap at hmap
      cases hfind : (s.tables .sync).find fun m => decide (m.object = syncptId) with
      | some j =>
        rw [hfind] at hmap
        cases hmap
      | none =>
        rw [hfind] at hmap
        refine h.add hmap fun j m hm heq => ?_
        have hsome := Slots.find_isSome (p := fun m : MapRef => decide (m.object = syncptId)) hm (decide_eq_true heq)
        rw [hfind] at hsome
        cases hsome
  | getref k i =>
    dsimp only
    unfold vmapGetref
    cases hm : (s.tables k).get i with
    | none => exact h
    | some m =>
      unfold VmapCareful at hc
      dsimp only at hc
      rw [hm, Option.all_some, decide_eq_true_eq] at hc
      rw [Option.map_some, krefGet_of_lt (h.inRange k i m hm).1 hc, h.counted k i m hm]
      exact h.recount hm (h.counted k i m hm ▸ hc)
  | putref k i =>
    dsimp only
    cases hm : (s.tables k).get i with
    | none => exact h
    | some m =>
      have hlt := (h.inRange k i m hm).2
      rw [Option.isSome_some, if_pos rfl]
      unfold vmapPutref
      rw [hm]
      dsimp only
      rw [krefPut_of_lt hlt, h.counted k i m hm]
      exact h.recount hm (by have := h.counted k i m hm; omega)

/-- **Each object is mapped once**, and its mapping is there as long as a reference is held, in every run of calls that
map no dma-buf again. -/
theorem vmap_maps_once {calls : List VmapCall} (hrun : run vmapStep newVmapCtx calls = some s)
    (hcareful : AllSteps vmapStep VmapCareful newVmapCtx calls) :
    VmapSound s ∧ ∀ c, VmapCareful s c → VmapAnswers s c := by
  have hinv : VmapInv s := by
    refine run_invariant_of_allSteps (fun s c s' hs hc hstep => ?_) vmapInv_new hcareful hrun
    cases hstep
    exact hs.step hc
  refine ⟨hinv.toVmapSound, fun c hc => ?_⟩
  cases c with
  | memobjMap dmabuf data clientMngd env err => exact fun i m hm heq => absurd heq (VmapCareful.free hc hm).1
  | syncobjMap syncptId clientMngd env err =>
    intro i m hm heq
    obtain ⟨j, hj⟩ := Option.isSome_iff_exists.mp
      (Slots.find_isSome (p := fun m : MapRef => decide (m.object = syncptId)) hm (decide_eq_true heq))
    unfold vmapCall syncobjMap
    dsimp only
    rw [hj]
    rfl
  | getref k i | putref k i => trivial

def vmapTestEnv : PinEnv := ⟨true, true, true, ⟨0, 4096, 0⟩⟩

def vmapTestCalls : List VmapCall := [.memobjMap 5 9 true vmapTestEnv (-eNOMEM), .getref .mem 1, .putref .mem 1]

theorem vmap_maps_once_shared : ∃ s, run vmapStep newVmapCtx vmapTestCalls = some s ∧
    VmapSound s ∧ ∀ c, VmapCareful s c → VmapAnswers s c :=
  ⟨_, rfl, vmap_maps_once (rfl : run vmapStep newVmapCtx vmapTestCalls = _) (by decide)⟩

/-- A dma-buf that is mapped twice has two mappings. -/
theorem vmap_maps_twice : ¬ ∀ calls s, run vmapStep newVmapCtx calls = some s →
    VmapSound s ∧ ∀ c, VmapAnswers s c := by
  intro h
  have hsound := (h [.memobjMap 5 9 true vmapTestEnv (-eNOMEM), .memobjMap 5 9 true vmapTestEnv (-eNOMEM)] _ rfl).1
  exact absurd (hsound.unique .mem 1 2 _ _ rfl rfl rfl) (by decide)

end NvidiaOot.Analysis
