import NvidiaOot.Analysis.PvaElfImages
import NvidiaOot.Analysis.PvaTaskWrite
import NvidiaOot.Model.PvaQueue

/-!
# Applications live as long as their tasks

`ImagesCounted` says that `submit_refcount` counts the references that are out, and `AppsInv`
that an image without references is one that the user has registered.  Every step keeps
both, when each task takes its references; a task without symbols does not.
-/

namespace NvidiaOot.Analysis

open Library Program Model Function

section

variable {d : NvpvaElfContext} {held : List ℕ} {refs refs' : List (U16 × ℕ)} {e : U16}

/-- The counters agree with the references `refs` that are out, the flags with the
assignments `held` that the user has registered. -/
structure ImagesCounted (d : NvpvaElfContext) (held : List ℕ) (refs : List (U16 × ℕ)) : Prop where
  table : TableInv d
  registered : ∀ e : U16, InUse d e.toNat →
    ((d.image e.toNat).userRegistered = true ↔ d.stamp e.toNat ∈ held)
  heldInUse : ∀ k ∈ held, ∃ e : U16, InUse d e.toNat ∧ d.stamp e.toNat = k
  count : ∀ e : U16, InUse d e.toNat →
    (d.image e.toNat).submitRefcount = ((refs.map Prod.fst).count e : ℤ)
  refsInUse : ∀ u ∈ refs, InUse d u.1.toNat ∧ d.stamp u.1.toNat = u.2

/-- The image of `e` is registered by the user or has a reference. -/
def NeededId (d : NvpvaElfContext) (refs : List (U16 × ℕ)) (e : U16) : Prop :=
  (d.image e.toNat).userRegistered = true ∨ e ∈ refs.map Prod.fst

structure AppsInv (d : NvpvaElfContext) (held : List ℕ) (refs : List (U16 × ℕ)) : Prop
    extends ImagesCounted d held refs where
  needed : ∀ e : U16, InUse d e.toNat → NeededId d refs e

theorem AppsInv.perm (h : AppsInv d held refs) (hperm : refs.Perm refs') : AppsInv d held refs' := by
  have hids := hperm.map Prod.fst
  refine ⟨⟨h.table, h.registered, h.heldInUse, fun e he => ?_, fun u hu => ?_⟩, fun e he => ?_⟩
  · rw [← hids.count_eq]
    exact h.count e he
  · exact h.refsInUse u (hperm.mem_iff.mpr hu)
  · exact (h.needed e he).imp id fun hin => hids.mem_iff.mp hin

theorem toNat_ne_of_ne {e e' : U16} (h : e' ≠ e) : e'.toNat ≠ e.toNat := fun heq =>
  h (BitVec.eq_of_toNat_eq heq)

theorem modify_image_self (f : PvaElfImage → PvaElfImage) :
    (d.modify e f).image e.toNat = f (d.image e.toNat) := update_self _ _ _

theorem modify_image_of_ne (f : PvaElfImage → PvaElfImage) {e' : U16} (h : e' ≠ e) :
    (d.modify e f).image e'.toNat = d.image e'.toNat :=
  update_of_ne (toNat_ne_of_ne h) _ _

theorem ImagesCounted.setRefcount (h : ImagesCounted d held refs) (f : PvaElfImage → PvaElfImage)
    (hreg : ∀ image, (f image).userRegistered = image.userRegistered) (hcount : InUse d e.toNat →
      (f (d.image e.toNat)).submitRefcount = ((refs'.map Prod.fst).count e : ℤ))
    (hother : ∀ e' ≠ e, (refs'.map Prod.fst).count e' = (refs.map Prod.fst).count e')
    (hrefs : ∀ u ∈ refs', InUse d u.1.toNat ∧ d.stamp u.1.toNat = u.2) :
    ImagesCounted (d.modify e f) held refs' := by
  refine ⟨h.table.modify f, fun e' he' => ?_, h.heldInUse, fun e' he' => ?_, hrefs⟩
  · have hflag : ((d.modify e f).image e'.toNat).userRegistered =
        (d.image e'.toNat).userRegistered := by
      by_cases heq : e' = e
      · rw [heq, modify_image_self, hreg]
      · rw [modify_image_of_ne f heq]
    rw [hflag]
    exact h.registered e' he'
  · by_cases heq : e' = e
    · rw [heq] at he' ⊢
      rw [modify_image_self]
      exact hcount he'
    · rw [modify_image_of_ne f heq, hother e' heq]
      exact h.count e' he'

theorem neededId_modify (d : NvpvaElfContext) (refs : List (U16 × ℕ)) (e : U16) (f : PvaElfImage → PvaElfImage)
    (hreg : ∀ image, (f image).userRegistered = image.userRegistered) (e' : U16) :
    NeededId (d.modify e f) refs e' ↔ NeededId d refs e' := by
  unfold NeededId
  by_cases heq : e' = e
  · rw [heq, modify_image_self, hreg]
  · rw [modify_image_of_ne f heq]

theorem ImagesCounted.unload (h : ImagesCounted d held refs) (huse : InUse d e.toNat) (hfree : ¬ NeededId d refs e) :
    ImagesCounted (pvaUnloadVpuApp d e).2 held refs ∧
    ∀ e' : U16, InUse (pvaUnloadVpuApp d e).2 e'.toNat → InUse d e'.toNat ∧ e' ≠ e ∧
      (NeededId d refs e' → NeededId (pvaUnloadVpuApp d e).2 refs e') := by
  obtain ⟨htable, hu⟩ := h.table.unloadVpuApp huse
  generalize (pvaUnloadVpuApp d e).2 = d' at htable hu ⊢
  obtain ⟨hnotReg, hnoRef⟩ := not_or.mp hfree
  have hother {e' : U16} (he' : InUse d' e'.toNat) : InUse d e'.toNat ∧ e' ≠ e := by
    obtain ⟨hold, hne⟩ := (hu.use _).mp he'
    exact ⟨hold, fun heq => hne (congrArg BitVec.toNat heq)⟩
  have himage {e' : U16} (hne : e' ≠ e) : d'.image e'.toNat = d.image e'.toNat :=
    hu.image _ (toNat_ne_of_ne hne)
  refine ⟨⟨htable, fun e' he' => ?_, fun k hk => ?_, fun e' he' => ?_, fun u hin => ?_⟩, fun e' he' => ?_⟩
  · obtain ⟨hold, hne⟩ := hother he'
    rw [himage hne, hu.stamp]
    exact h.registered e' hold
  · obtain ⟨e', he', heq⟩ := h.heldInUse k hk
    refine ⟨e', (hu.use _).mpr ⟨he', toNat_ne_of_ne ?_⟩, ?_⟩
    · rintro rfl
      exact hnotReg ((h.registered e' he').mpr (heq ▸ hk))
    · rw [hu.stamp]
      exact heq
  · obtain ⟨hold, hne⟩ := hother he'
    rw [himage hne]
    exact h.count e' hold
  · obtain ⟨hold, heq⟩ := h.refsInUse u hin
    refine ⟨(hu.use _).mpr ⟨hold, toNat_ne_of_ne ?_⟩, ?_⟩
    · rintro rfl
      exact hnoRef (List.mem_map_of_mem hin)
    · rw [hu.stamp]
      exact heq
  · obtain ⟨hold, hne⟩ := hother he'
    refine ⟨hold, hne, fun hneeded => ?_⟩
    unfold NeededId
    rw [himage hne]
    exact hneeded

/-- The ids in use and their assignments are the same. -/
structure SameUse (d d' : NvpvaElfContext) : Prop where
  use : ∀ e, InUse d' e ↔ InUse d e
  stamp : d'.stamp = d.stamp
  loads : d'.loads = d.loads
  cleaned : d'.cleaned = d.cleaned

theorem NeededId.mono {d d' : NvpvaElfContext} (hsub : ∀ u ∈ refs, u ∈ refs')
    (hreg : (d'.image e.toNat).userRegistered = (d.image e.toNat).userRegistered)
    (h : NeededId d refs e) : NeededId d' refs' e := by
  rcases h with huser | href
  · exact Or.inl (hreg.trans huser)
  · obtain ⟨u, hu, rfl⟩ := List.mem_map.mp href
    exact Or.inr (List.mem_map_of_mem (hsub u hu))

/-- **A task takes a reference.** -/
theorem AppsInv.acquire (h : AppsInv d held refs) (huse : InUse d e.toNat) :
    ∃ d', pvaTaskAcquireRefVpuApp d e = (.ok (), d') ∧
      AppsInv d' held ((e, d.stamp e.toNat) :: refs) ∧ SameUse d d' := by
  refine ⟨d.modify e fun image => { image with submitRefcount := image.submitRefcount + 1 }, ?_,
    ⟨?_, ?_⟩, ⟨fun _ => Iff.rfl, rfl, rfl, rfl⟩⟩
  · unfold pvaTaskAcquireRefVpuApp
    rw [getElfImage_eq_some h.table huse]
  · refine h.toImagesCounted.setRefcount _ (fun _ => rfl) (fun _ => ?_) (fun e' hne => ?_) ?_
    · rw [h.count e huse, List.map_cons, List.count_cons_self, Nat.cast_succ]
    · rw [List.map_cons, List.count_cons_of_ne hne.symm]
    · intro u hu
      rcases List.mem_cons.mp hu with rfl | hold
      · exact ⟨huse, rfl⟩
      · exact h.refsInUse u hold
  · intro e' he'
    have hflag := neededId_modify d ((e, d.stamp e.toNat) :: refs) e
      (fun image => { image with submitRefcount := image.submitRefcount + 1 }) (fun _ => rfl) e'
    exact hflag.mpr ((h.needed e' he').mono (fun u hu => List.mem_cons_of_mem _ hu) rfl)

/-- **A task gives a reference back**; without another one and without the user the image
is unloaded. -/
theorem AppsInv.releaseRef {k : ℕ} (h : AppsInv d held ((e, k) :: refs)) :
    AppsInv (pvaTaskReleaseRefVpuApp d e).2 held refs := by
  obtain ⟨huse, -⟩ := h.refsInUse (e, k) List.mem_cons_self
  have hexe : e ≠ noopExeId := by
    rintro rfl
    exact lt_irrefl _ huse.1
  unfold pvaTaskReleaseRefVpuApp
  rw [if_neg hexe, getElfImage_eq_some h.table huse]
  dsimp only
  have hcount := h.count e huse
  rw [List.map_cons, List.count_cons_self, Nat.cast_succ] at hcount
  have hcounted : ImagesCounted
      (d.modify e fun image => { image with submitRefcount := image.submitRefcount - 1 }) held refs := by
    refine h.toImagesCounted.setRefcount _ (fun _ => rfl) (fun _ => ?_) (fun e' hne => ?_) fun u hu => ?_
    · dsimp only
      omega
    · rw [List.map_cons, List.count_cons_of_ne hne.symm]
    · exact h.refsInUse u (List.mem_cons_of_mem _ hu)
  have hneeded (e' : U16) (hne : e' ≠ e) (he' : InUse d e'.toNat) : NeededId
      (d.modify e fun image => { image with submitRefcount := image.submitRefcount - 1 }) refs e' := by
    have hflag := neededId_modify d refs e
      (fun image => { image with submitRefcount := image.submitRefcount - 1 }) (fun _ => rfl) e'
    refine hflag.mpr ?_
    rcases h.needed e' he' with huser | href
    · exact Or.inl huser
    · refine Or.inr ?_
      exact (List.mem_cons.mp href).resolve_left hne
  generalize hd1 : (d.modify e fun image =>
    { image with submitRefcount := image.submitRefcount - 1 }) = d1 at hcounted hneeded ⊢
  have huse1 (e' : ℕ) : InUse d1 e' ↔ InUse d e' := by
    rw [← hd1]
    exact Iff.rfl
  have hflag : (d1.image e.toNat).userRegistered = (d.image e.toNat).userRegistered := by
    rw [← hd1, modify_image_self]
  split
  case isTrue hlast =>
    -- the last reference to an image that the user has unregistered
    have hfree : ¬ NeededId d1 refs e := by
      rintro (huser | href)
      · rw [hflag, hlast.2] at huser
        cases huser
      · have hpos := List.count_pos_iff.mpr href
        omega
    obtain ⟨hunloaded, hrest⟩ := hcounted.unload ((huse1 _).mpr huse) hfree
    refine ⟨hunloaded, fun e' he' => ?_⟩
    obtain ⟨hold, hne, hkeep⟩ := hrest e' he'
    exact hkeep (hneeded e' hne ((huse1 _).mp hold))
  case isFalse hmore =>
    refine ⟨hcounted, fun e' he' => ?_⟩
    by_cases hne : e' = e
    · rw [hne]
      by_cases huser : (d.image e.toNat).userRegistered = true
      · exact Or.inl (hflag.trans huser)
      refine Or.inr (List.count_pos_iff.mp ?_)
      have hcond := not_and.mp hmore
      by_contra hzero
      exact hcond (by omega) (Bool.eq_false_iff.mpr huser)
    · exact hneeded e' hne ((huse1 _).mp he')

/-- **The user unregisters an executable**: the image is unloaded unless tasks use it. -/
theorem AppsInv.release (h : AppsInv d held refs) {r : Except ℤ Unit} {d' : NvpvaElfContext}
    (hrun : pvaReleaseVpuApp d e = (r, d')) :
    (r = .ok () ∧ InUse d e.toNat ∧ AppsInv d' (held.filter (· ≠ d.stamp e.toNat)) refs) ∨
    ((∃ code, r = .error code) ∧ d' = d) := by
  unfold pvaReleaseVpuApp at hrun
  by_cases huse : InUse d e.toNat
  case neg =>
    rw [getElfImage_eq_none huse] at hrun
    cases hrun
    exact Or.inr ⟨⟨_, rfl⟩, rfl⟩
  case pos =>
    rw [getElfImage_eq_some h.table huse] at hrun
    dsimp only at hrun
    split at hrun
    case isFalse =>
      cases hrun
      exact Or.inr ⟨⟨_, rfl⟩, rfl⟩
    case isTrue huser =>
      left
      have hcounted : ImagesCounted (d.modify e fun image => { image with userRegistered := false })
          (held.filter (· ≠ d.stamp e.toNat)) refs := by
        refine ⟨h.table.modify _, fun e' he' => ?_, fun k hk => ?_, fun e' he' => ?_, h.refsInUse⟩
        · rw [List.mem_filter, decide_eq_true_iff]
          by_cases heq : e' = e
          · rw [heq, modify_image_self]
            exact ⟨nofun, fun hin => absurd rfl hin.2⟩
          have hother : d.stamp e'.toNat ≠ d.stamp e.toNat := fun hstamp =>
            toNat_ne_of_ne heq (h.table.stampInj _ _ he' huse hstamp)
          rw [modify_image_of_ne _ heq, h.registered e' he']
          exact ⟨fun hin => ⟨hin, hother⟩, And.left⟩
        · exact h.heldInUse k (List.mem_filter.mp hk).1
        · have hsame : ((d.modify e fun image => { image with userRegistered := false }).image
              e'.toNat).submitRefcount = (d.image e'.toNat).submitRefcount := by
            by_cases heq : e' = e
            · rw [heq, modify_image_self]
            · rw [modify_image_of_ne _ heq]
          rw [hsame]
          exact h.count e' he'
      have hneeded (e' : U16) (hne : e' ≠ e) (he' : InUse d e'.toNat) :
          NeededId (d.modify e fun image => { image with userRegistered := false }) refs e' := by
        unfold NeededId
        rw [modify_image_of_ne _ hne]
        exact h.needed e' he'
      generalize hd1 : (d.modify e fun image => { image with userRegistered := false }) = d1
        at hcounted hneeded hrun
      have huse1 (e' : ℕ) : InUse d1 e' ↔ InUse d e' := by
        rw [← hd1]
        exact Iff.rfl
      have hflag : (d1.image e.toNat).userRegistered = false := by
        rw [← hd1, modify_image_self]
      have hcount := h.count e huse
      split at hrun
      case isTrue hnone =>
        cases hrun
        have hfree : ¬ NeededId d1 refs e := by
          rintro (huser' | href)
          · rw [hflag] at huser'
            cases huser'
          · have hpos := List.count_pos_iff.mpr href
            omega
        obtain ⟨hunloaded, hrest⟩ := hcounted.unload ((huse1 _).mpr huse) hfree
        refine ⟨rfl, huse, hunloaded, fun e' he' => ?_⟩
        obtain ⟨hold, hne, hkeep⟩ := hrest e' he'
        exact hkeep (hneeded e' hne ((huse1 _).mp hold))
      case isFalse hsome =>
        cases hrun
        refine ⟨rfl, huse, hcounted, fun e' he' => ?_⟩
        by_cases hne : e' = e
        · rw [hne]
          exact Or.inr (List.count_pos_iff.mp (by omega))
        · exact hneeded e' hne ((huse1 _).mp he')

/-- The table before a load, when the load has failed: what is in use is as it was. -/
theorem AppsInv.of_sameTable {d' : NvpvaElfContext} (h : AppsInv d held refs) (htable : TableInv d')
    (huse : ∀ e, InUse d' e ↔ InUse d e) (hstamp : ∀ e, InUse d e → d'.stamp e = d.stamp e)
    (himage : ∀ e, InUse d e → d'.image e = d.image e) : AppsInv d' held refs := by
  refine ⟨⟨htable, fun e he => ?_, fun k hk => ?_, fun e he => ?_, fun u hu => ?_⟩, fun e he => ?_⟩
  · have hold := (huse _).mp he
    rw [himage _ hold, hstamp _ hold]
    exact h.registered e hold
  · obtain ⟨e, he, heq⟩ := h.heldInUse k hk
    exact ⟨e, (huse _).mpr he, (hstamp _ he).trans heq⟩
  · have hold := (huse _).mp he
    rw [himage _ hold]
    exact h.count e hold
  · obtain ⟨hold, heq⟩ := h.refsInUse u hu
    exact ⟨(huse _).mpr hold, (hstamp _ hold).trans heq⟩
  · have hold := (huse _).mp he
    unfold NeededId
    rw [himage _ hold]
    exact h.needed e hold

/-- **The user registers an executable.** -/
theorem AppsInv.load (h : AppsInv d held refs) {file : ElfFile} {r : Except ℤ U16}
    {d' : NvpvaElfContext} (hrun : pvaLoadVpuApp d file = (r, d')) :
    (∃ exeId, r = .ok exeId ∧ AppsInv d' (d'.stamp exeId.toNat :: held) refs) ∨
    ((∃ code, r = .error code) ∧ AppsInv d' held refs) := by
  unfold pvaLoadVpuApp at hrun
  split at hrun
  case isTrue =>
    cases hrun
    exact Or.inr ⟨⟨_, rfl⟩, h⟩
  case isFalse =>
    cases hget : pvaGetVpuAppId d file.kzallocOk file.isSystemApp with
    | mk r1 d1 =>
      rw [hget] at hrun
      rcases h.table.getVpuAppId hget with ⟨code, rfl, htable, hsame⟩ | ⟨exeId, rfl, htable, ha⟩
      · cases hrun
        refine Or.inr ⟨⟨_, rfl⟩, h.of_sameTable htable hsame.use (fun e _ => ?_) hsame.image⟩
        rw [hsame.stamp]
      dsimp only at hrun
      have hstamp {e : ℕ} (he : InUse d e) : d1.stamp e = d.stamp e := by
        rw [ha.stamp, update_of_ne]
        rintro rfl
        exact ha.free he
      have hne {e : ℕ} (he : InUse d e) : e ≠ exeId.toNat := by
        rintro rfl
        exact ha.free he
      have himage (f : PvaElfImage → PvaElfImage) {e : ℕ} (he : InUse d e) :
          (d1.modify exeId f).image e = d.image e :=
        (update_of_ne (hne he) _ _).trans (ha.image e he)
      have huse1 : InUse d1 exeId.toNat := (ha.use _).mpr (Or.inr rfl)
      split at hrun
      case isTrue =>
        -- parsing failed: the id is given back
        cases hrun
        have hmodified : TableInv
            (d1.modify exeId fun image => { image with toElfContents := file.contents }) :=
          htable.modify _
        have huse2 : InUse
            (d1.modify exeId fun image => { image with toElfContents := file.contents })
            exeId.toNat := huse1
        obtain ⟨hunloaded, hu⟩ := hmodified.unloadVpuApp huse2
        refine Or.inr ⟨⟨_, rfl⟩, h.of_sameTable hunloaded (fun e => ?_) (fun e he => ?_) fun e he => ?_⟩
        · rw [hu.use]
          change InUse d1 e ∧ _ ↔ _
          rw [ha.use]
          constructor
          · rintro ⟨hold | heq, hother⟩
            · exact hold
            · exact absurd heq hother
          · intro hold
            exact ⟨Or.inl hold, hne hold⟩
        · rw [hu.stamp]
          exact hstamp he
        · rw [hu.image e (hne he)]
          exact himage _ he
      case isFalse =>
        cases hrun
        have hloaded : ((d1.modify exeId fun image =>
            { image with toElfContents := file.contents }).modify exeId fun image =>
            { image with userRegistered := true, submitRefcount := 0 }).stamp = d1.stamp := rfl
        generalize hd' : ((d1.modify exeId fun image =>
            { image with toElfContents := file.contents }).modify exeId fun image =>
            { image with userRegistered := true, submitRefcount := 0 }) = d2 at hloaded
        have hnew : (d2.image exeId.toNat).userRegistered = true ∧
            (d2.image exeId.toNat).submitRefcount = 0 := by
          rw [← hd', modify_image_self]
          exact ⟨rfl, rfl⟩
        have hold {e : ℕ} (he : InUse d e) : d2.image e = d.image e := by
          rw [← hd']
          exact (update_of_ne (hne he) _ _).trans (himage _ he)
        have huse2 (e : U16) : InUse d2 e.toNat ↔ InUse d e.toNat ∨ e = exeId := by
          rw [← hd']
          change InUse d1 e.toNat ↔ _
          rw [ha.use]
          exact or_congr_right ⟨BitVec.eq_of_toNat_eq, congrArg BitVec.toNat⟩
        have hnewStamp : d2.stamp exeId.toNat = d.loads := by
          rw [hloaded, ha.stamp, update_self]
        refine Or.inl ⟨exeId, rfl, ⟨⟨?_, fun e he => ?_, fun k hk => ?_, fun e he => ?_,
          fun u hu => ?_⟩, fun e he => ?_⟩⟩
        · rw [← hd']
          exact (htable.modify _).modify _
        · rcases (huse2 e).mp he with hin | rfl
          · have hlt := h.table.stampLt _ hin
            rw [hold hin, h.registered e hin, List.mem_cons, hnewStamp, hloaded, hstamp hin]
            exact ⟨Or.inr, fun hor => hor.resolve_left hlt.ne⟩
          · exact ⟨fun _ => List.mem_cons_self, fun _ => hnew.1⟩
        · rcases List.mem_cons.mp hk with rfl | hin
          · exact ⟨exeId, (huse2 exeId).mpr (Or.inr rfl), rfl⟩
          · obtain ⟨e, he, heq⟩ := h.heldInUse k hin
            refine ⟨e, (huse2 e).mpr (Or.inl he), ?_⟩
            rw [hloaded, hstamp he]
            exact heq
        · rcases (huse2 e).mp he with hin | rfl
          · rw [hold hin]
            exact h.count e hin
          · have hnone : e ∉ refs.map Prod.fst := by
              intro hin
              obtain ⟨u, hu, rfl⟩ := List.mem_map.mp hin
              exact ha.free (h.refsInUse u hu).1
            rw [hnew.2, List.count_eq_zero_of_not_mem hnone]
            rfl
        · obtain ⟨hin, heq⟩ := h.refsInUse u hu
          refine ⟨(huse2 u.1).mpr (Or.inl hin), ?_⟩
          rw [hloaded, hstamp hin]
          exact heq
        · rcases (huse2 e).mp he with hin | rfl
          · unfold NeededId
            rw [hold hin]
            exact h.needed e hin
          · exact Or.inl hnew.1

end

section

variable {env : TaskEnv} {syncptId : U32} {s : TaskState}

/-- **What writing a task does to the images**: nothing, and then it failed or there is
nothing to hold; or it takes the references. -/
theorem pvaTaskWrite_cases (env : TaskEnv) (syncptId : U32) (s : TaskState) :
    (SameExe s (pvaTaskWrite env syncptId s).2 ∧ ((pvaTaskWrite env syncptId s).1 = 0 →
      s.task.numSymbols = 0 ∨ s.task.exeId1 = noopExeId ∧ s.task.exeId2 = noopExeId)) ∨
    ∃ s1, SameExe s s1 ∧ exeAccepted s.elf s.task.exeId1 = true ∧ exeAccepted s.elf s.task.exeId2 = true ∧
      SameExe (acquireApps s1).2 (pvaTaskWrite env syncptId s).2 := by
  unfold pvaTaskWrite
  split
  case isTrue => exact Or.inl ⟨.refl s, nofun⟩
  case isFalse haccepted =>
    rw [Bool.or_eq_true, not_or, Bool.not_eq_true', Bool.not_eq_true', Bool.not_eq_false,
      Bool.not_eq_false] at haccepted
    obtain ⟨helf, hearly⟩ := keeps_writeActions env syncptId s
    have hexe : SameExe s (writeActions env syncptId s).2 :=
      ⟨helf, hearly.pinnedApp, hearly.exeId1, hearly.exeId2⟩
    by_cases hcode : (writeActions env syncptId s).1 = 0
    case neg =>
      rw [andThen_of_error hcode]
      exact Or.inl ⟨hexe, fun hzero => absurd hzero hcode⟩
    case pos =>
      rw [andThen_of_ok hcode]
      generalize (writeActions env syncptId s).2 = s1 at helf hearly hexe
      have hfinish (s2 : TaskState) : SameExe s2 (finishWrite env s2).2 := by
        unfold finishWrite andThen
        unfold setFlags
        dsimp only
        split <;> split <;> exact ⟨rfl, rfl, rfl, rfl⟩
      have hafter (r : ℤ × TaskState) (hr : SameExe s r.2) (hne : r.1 ≠ 0) :
          SameExe s (andThen r (finishWrite env)).2 ∧ (andThen r (finishWrite env)).1 ≠ 0 := by
        rw [andThen_of_error hne]
        exact ⟨hr, hne⟩
      unfold pvaTaskWriteVpuParameter
      split
      case isTrue hnone =>
        rw [hearly.numSymbols] at hnone
        exact Or.inl ⟨hexe.trans (hfinish s1), fun _ => Or.inl hnone⟩
      case isFalse =>
        split
        case isTrue hnoop =>
          rw [hearly.exeId1, hearly.exeId2] at hnoop
          exact Or.inl ⟨hexe.trans (hfinish s1), fun _ => Or.inr hnoop⟩
        case isFalse =>
          dsimp only
          split
          · obtain ⟨hsame, hne⟩ := hafter (-eINVAL, s1) hexe neg_eINVAL_ne_zero
            exact Or.inl ⟨hsame, fun hzero => absurd hzero hne⟩
          rename_i image _
          rcases writeParameters_cases env image s1 with ⟨hsame, hne⟩ | ⟨s2, hsame, heq⟩
          · obtain ⟨hsame', hne'⟩ := hafter _ (hexe.trans hsame.exe) hne
            exact Or.inl ⟨hsame', fun hzero => absurd hzero hne'⟩
          refine Or.inr ⟨s2, hexe.trans hsame.exe, haccepted.1, haccepted.2, ?_⟩
          rw [heq]
          by_cases hzero : (acquireApps s2).1 = 0
          · rw [andThen_of_ok hzero]
            exact hfinish _
          · rw [andThen_of_error hzero]
            exact .refl _

def refOf (d : NvpvaElfContext) (e : U16) : List (U16 × ℕ) :=
  if e = noopExeId then [] else [(e, d.stamp e.toNat)]

variable {held : List ℕ} {refs : List (U16 × ℕ)}

theorem acquireApp_spec {e : U16} (h : AppsInv s.elf held refs) (haccepted : exeAccepted s.elf e = true) :
    ∃ s1, acquireApp e s = (0, s1) ∧ s1.task = s.task ∧
      AppsInv s1.elf held (refOf s.elf e ++ refs) ∧ SameUse s.elf s1.elf := by
  unfold acquireApp refOf
  split
  case isTrue =>
    exact ⟨s, rfl, rfl, h, ⟨fun _ => Iff.rfl, rfl, rfl, rfl⟩⟩
  case isFalse hexe =>
    unfold exeAccepted at haccepted
    rw [Bool.or_eq_true, decide_eq_true_iff] at haccepted
    have huse := pvaVpuElfIsRegistered_iff.mp (haccepted.resolve_right hexe)
    obtain ⟨d', hrun, hinv, hsame⟩ := h.acquire huse
    refine ⟨{ s with elf := d' }, ?_, rfl, hinv, hsame⟩
    rw [hrun]

theorem acquireApps_spec (h : AppsInv s.elf held refs)
    (h1 : exeAccepted s.elf s.task.exeId1 = true) (h2 : exeAccepted s.elf s.task.exeId2 = true) :
    AppsInv (acquireApps s).2.elf held (refOf s.elf s.task.exeId2 ++ (refOf s.elf s.task.exeId1 ++ refs)) ∧
    (acquireApps s).2.task = { s.task with pinnedApp := true } := by
  obtain ⟨s1, hrun1, htask1, hinv1, hsame1⟩ := acquireApp_spec h h1
  have haccepted : exeAccepted s1.elf s1.task.exeId2 = true := by
    unfold exeAccepted at h2 ⊢
    rw [Bool.or_eq_true, decide_eq_true_iff] at h2 ⊢
    rw [htask1]
    refine h2.imp (fun hreg => ?_) id
    exact pvaVpuElfIsRegistered_iff.mpr ((hsame1.use _).mpr (pvaVpuElfIsRegistered_iff.mp hreg))
  obtain ⟨s2, hrun2, htask2, hinv2, -⟩ := acquireApp_spec hinv1 haccepted
  have href : refOf s1.elf s1.task.exeId2 = refOf s.elf s.task.exeId2 := by
    unfold refOf
    rw [htask1, hsame1.stamp]
  have hrun : acquireApps s = (if s2.task.exeId2 = noopExeId then 0 else 0,
      { s2 with task := { s2.task with pinnedApp := true } }) := by
    unfold acquireApps
    rw [hrun1]
    dsimp only
    rw [hrun2]
  rw [hrun]
  rw [href] at hinv2
  refine ⟨hinv2, ?_⟩
  rw [htask2, htask1]

theorem refOf_append (d : NvpvaElfContext) (t : SubmitTask) :
    refOf d t.exeId1 ++ refOf d t.exeId2 = (usedIds t).map fun e => (e, d.stamp e.toNat) := by
  unfold refOf usedIds
  by_cases h1 : t.exeId1 = noopExeId <;> by_cases h2 : t.exeId2 = noopExeId <;>
    simp [h1, h2]

theorem releaseApps_spec {d : NvpvaElfContext} {t : SubmitTask} {uses : List (U16 × ℕ)}
    (h : AppsInv d held (uses ++ refs)) (hpinned : t.pinnedApp = true)
    (hids : uses.map Prod.fst = usedIds t) : AppsInv (releaseApps t d) held refs := by
  have hone {d : NvpvaElfContext} {e : U16} {u rest : List (U16 × ℕ)}
      (h : AppsInv d held (u ++ rest)) (hu : u.map Prod.fst = [e].filter (· ≠ noopExeId)) :
      AppsInv (pvaTaskReleaseRefVpuApp d e).2 held rest := by
    by_cases hexe : e = noopExeId
    · have hnil : u = [] := by
        rw [hexe] at hu
        exact List.map_eq_nil_iff.mp hu
      unfold pvaTaskReleaseRefVpuApp
      rw [if_pos hexe]
      rw [hnil] at h
      exact h
    have hkeep : [e].filter (· ≠ noopExeId) = [e] := by
      simp [hexe]
    rw [hkeep] at hu
    obtain ⟨⟨e', k⟩, rest', rfl, rfl, hnil⟩ := List.map_eq_cons_iff.mp hu
    rw [List.map_eq_nil_iff] at hnil
    rw [hnil] at h
    exact h.releaseRef
  unfold releaseApps
  rw [if_pos hpinned]
  have hsplit : usedIds t = [t.exeId1].filter (· ≠ noopExeId) ++ [t.exeId2].filter (· ≠ noopExeId) :=
    List.filter_append (p := (· ≠ noopExeId)) [t.exeId1] [t.exeId2]
  rw [hsplit] at hids
  obtain ⟨u1, u2, rfl, hu1, hu2⟩ := List.map_eq_append_iff.mp hids
  rw [List.append_assoc] at h
  exact hone (hone h hu1) hu2

end

section

variable {s s' : Apps}

def AppTask.refs (t : AppTask) : List (U16 × ℕ) := if t.task.pinnedApp then t.uses else []

/-- The state of a client: the counters count the references of its tasks. -/
structure ClientInv (s : Apps) : Prop where
  apps : AppsInv s.elf s.held (s.tasks.flatMap AppTask.refs)
  ids : ∀ t ∈ s.tasks, t.uses.map Prod.fst = usedIds t.task
  taken : ∀ t ∈ s.tasks, t.submitted = true → t.uses = [] ∨ t.task.pinnedApp = true

theorem inUse_init (e : ℕ) : ¬ InUse pvaVpuInit e := by
  rintro ⟨-, hbit⟩
  have hzero : tableBit (fun _ => (0 : U32)) e = false := BitVec.getLsbD_zero
  exact absurd (hzero.symm.trans hbit) Bool.false_ne_true

theorem clientInv_newClient : ClientInv newPvaClient := by
  have hcard : (inUse pvaVpuInit).card = 0 := by
    rw [Finset.card_eq_zero, Finset.eq_empty_iff_forall_notMem]
    intro e he
    exact inUse_init e (mem_inUse.mp he)
  refine ⟨⟨⟨⟨rfl, fun e he => ?_, fun e he => absurd he (inUse_init e), hcard.symm,
    fun e he => absurd he (inUse_init e), fun e _ he => absurd he (inUse_init e),
    fun e he => absurd he (inUse_init e), List.nodup_nil, nofun, nofun⟩,
    fun e he => absurd he (inUse_init _), nofun, fun e he => absurd he (inUse_init _), nofun⟩,
    fun e he => absurd he (inUse_init _)⟩, nofun, nofun⟩
  exact decide_eq_true (Nat.div_eq_of_lt he)

theorem ClientInv.write (h : ClientInv s) (env : TaskEnv) (syncptId : U32) (task : SubmitTask)
    (hw : HwTask) (hsym : usedIds task ≠ [] → task.numSymbols ≠ 0) :
    ClientInv (writeTask s env syncptId task hw) := by
  unfold writeTask
  have hcases := pvaTaskWrite_cases env syncptId
    ⟨{ task with pinnedApp := false }, hw, s.elf⟩
  generalize pvaTaskWrite env syncptId ⟨{ task with pinnedApp := false }, hw, s.elf⟩ = r at hcases
  obtain ⟨err, s'⟩ := r
  dsimp only at hcases ⊢
  have hmap : ((usedIds task).map fun e => (e, s.elf.stamp e.toNat)).map Prod.fst = usedIds task := by
    rw [List.map_map]
    exact List.map_id _
  rcases hcases with ⟨hsame, hnone⟩ | ⟨s1, hsame, hacc1, hacc2, hfinal⟩
  · have hpinned : s'.task.pinnedApp = false := hsame.pinnedApp
    have helf : s'.elf = s.elf := hsame.elf
    refine ⟨?_, ?_, ?_⟩
    · rw [List.flatMap_cons, AppTask.refs, hpinned, helf]
      exact h.apps
    · refine List.forall_mem_cons.mpr ⟨?_, h.ids⟩
      rw [hmap]
      unfold usedIds
      rw [hsame.exeId1, hsame.exeId2]
    · refine List.forall_mem_cons.mpr ⟨fun hok => Or.inl ?_, h.taken⟩
      rw [List.map_eq_nil_iff]
      by_contra hused
      rcases hnone (of_decide_eq_true hok) with hzero | ⟨h1, h2⟩
      · exact hsym hused hzero
      apply hused
      have h1' : task.exeId1 = noopExeId := h1
      have h2' : task.exeId2 = noopExeId := h2
      unfold usedIds
      rw [h1', h2']
      rfl
  have helf : s1.elf = s.elf := hsame.elf
  have hexe1 : s1.task.exeId1 = task.exeId1 := hsame.exeId1
  have hexe2 : s1.task.exeId2 = task.exeId2 := hsame.exeId2
  have happs : AppsInv s1.elf s.held (s.tasks.flatMap AppTask.refs) := helf ▸ h.apps
  obtain ⟨hinv, htask⟩ := acquireApps_spec happs (by rw [helf, hexe1]; exact hacc1)
    (by rw [helf, hexe2]; exact hacc2)
  rw [helf, hexe1, hexe2] at hinv
  have hpinned : s'.task.pinnedApp = true := by
    rw [hfinal.pinnedApp, htask]
  refine ⟨?_, ?_, ?_⟩
  · rw [List.flatMap_cons, AppTask.refs, hpinned, if_pos rfl, ← refOf_append, hfinal.elf]
    refine hinv.perm ?_
    rw [← List.append_assoc]
    exact List.Perm.append_right _ List.perm_append_comm
  · refine List.forall_mem_cons.mpr ⟨?_, h.ids⟩
    rw [hmap]
    unfold usedIds
    rw [hfinal.exeId1, hfinal.exeId2, htask, ← hexe1, ← hexe2]
  · exact List.forall_mem_cons.mpr ⟨fun _ => Or.inr hpinned, h.taken⟩

theorem ClientInv.free (h : ClientInv s) {i : ℕ} {t : AppTask} (ht : s.tasks[i]? = some t) :
    ClientInv { s with elf := releaseApps t.task s.elf, tasks := s.tasks.eraseIdx i } := by
  obtain ⟨hi, hget⟩ := List.getElem?_eq_some_iff.mp ht
  have hmem : t ∈ s.tasks := List.mem_of_getElem? ht
  have hperm : s.tasks.Perm (t :: s.tasks.eraseIdx i) := by
    rw [← hget]
    exact (List.getElem_cons_eraseIdx_perm hi).symm
  have hrefs := hperm.flatMap_right AppTask.refs
  rw [List.flatMap_cons] at hrefs
  have happs := h.apps.perm hrefs
  have hsub (t' : AppTask) (ht' : t' ∈ s.tasks.eraseIdx i) : t' ∈ s.tasks :=
    List.mem_of_mem_eraseIdx ht'
  refine ⟨?_, fun t' ht' => h.ids t' (hsub t' ht'), fun t' ht' => h.taken t' (hsub t' ht')⟩
  by_cases hpinned : t.task.pinnedApp = true
  · rw [AppTask.refs, if_pos hpinned] at happs
    exact releaseApps_spec happs hpinned (h.ids t hmem)
  rw [AppTask.refs, if_neg hpinned] at happs
  unfold releaseApps
  rw [if_neg hpinned]
  exact happs

/-- Every step keeps the invariant, when tasks with an executable have a symbol. -/
theorem ClientInv.step (op : AppOp) (h : ClientInv s) (hop : HasSymbols s op)
    (hstep : appStep s op = some s') : ClientInv s' := by
  cases op with
  | load file =>
    dsimp only [appStep] at hstep
    cases hrun : pvaLoadVpuApp s.elf file with
    | mk r elf =>
      rw [hrun] at hstep
      rcases h.apps.load hrun with ⟨exeId, rfl, hinv⟩ | ⟨⟨code, rfl⟩, hinv⟩
      · cases hstep
        exact ⟨hinv, h.ids, h.taken⟩
      · cases hstep
        exact ⟨hinv, h.ids, h.taken⟩
  | release exeId =>
    dsimp only [appStep] at hstep
    cases hrun : pvaReleaseVpuApp s.elf exeId with
    | mk r elf =>
      rw [hrun] at hstep
      rcases h.apps.release hrun with ⟨rfl, -, hinv⟩ | ⟨⟨code, rfl⟩, rfl⟩
      · cases hstep
        exact ⟨hinv, h.ids, h.taken⟩
      · cases hstep
        exact h
  | write env syncptId task hw =>
    cases hstep
    exact h.write env syncptId task hw hop
  | free i =>
    obtain ⟨t, ht, rfl⟩ := Option.map_eq_some_iff.mp hstep
    exact h.free ht

theorem ClientInv.needed_iff (h : ClientInv s) (k : ℕ) :
    Needed s k ↔ ∃ e : U16, InUse s.elf e.toNat ∧ s.elf.stamp e.toNat = k := by
  constructor
  · rintro (hheld | ⟨t, ht, hholds, hk⟩)
    · exact h.apps.heldInUse k hheld
    · obtain ⟨u, hu, rfl⟩ := List.mem_map.mp hk
      have hpinned : t.task.pinnedApp = true := by
        rcases Bool.or_eq_true_iff.mp hholds with hsub | hpin
        · refine (h.taken t ht hsub).resolve_left fun hnil => ?_
          rw [hnil] at hu
          cases hu
        · exact hpin
      have href : u ∈ s.tasks.flatMap AppTask.refs := by
        refine List.mem_flatMap.mpr ⟨t, ht, ?_⟩
        rw [AppTask.refs, if_pos hpinned]
        exact hu
      exact ⟨u.1, h.apps.refsInUse u href⟩
  · rintro ⟨e, he, rfl⟩
    rcases h.apps.needed e he with huser | href
    · exact Or.inl ((h.apps.registered e he).mp huser)
    obtain ⟨u, hu, rfl⟩ := List.mem_map.mp href
    obtain ⟨t, ht, hut⟩ := List.mem_flatMap.mp hu
    unfold AppTask.refs at hut
    split at hut
    case isFalse => cases hut
    case isTrue hpinned =>
      refine Or.inr ⟨t, ht, ?_, ?_⟩
      · rw [AppTask.holds, hpinned, Bool.or_true]
      · rw [(h.apps.refsInUse u hu).2]
        exact List.mem_map_of_mem hut

theorem ClientInv.imagesLive (h : ClientInv s) : ImagesLive s := by
  have hnot (k : ℕ) (hk : Needed s k) : k ∉ s.elf.cleaned := by
    obtain ⟨e, he, rfl⟩ := (h.needed_iff k).mp hk
    exact h.apps.table.notCleaned _ he
  refine ⟨fun t ht hsub u hu => ?_, fun k hk => ?_, fun k hlt hk => ?_⟩
  · have hpinned : t.task.pinnedApp = true := by
      refine (h.taken t ht hsub).resolve_left fun hnil => ?_
      rw [hnil] at hu
      cases hu
    have href : u ∈ s.tasks.flatMap AppTask.refs := by
      refine List.mem_flatMap.mpr ⟨t, ht, ?_⟩
      rw [AppTask.refs, if_pos hpinned]
      exact hu
    obtain ⟨huse, hstamp⟩ := h.apps.refsInUse u href
    refine ⟨pvaVpuElfIsRegistered_iff.mpr huse, hstamp, ?_⟩
    rw [← hstamp]
    exact h.apps.table.notCleaned _ huse
  · exact List.count_eq_zero_of_not_mem (hnot k hk)
  · refine List.count_eq_one_of_mem h.apps.table.cleanedNodup ?_
    refine (h.apps.table.assigned k hlt).resolve_right ?_
    rintro ⟨e, he, heq⟩
    have hmax : maxNumVpuExe = 65535 := rfl
    have hlt := he.1
    have hid : (BitVec.ofNat 16 e).toNat = e := by
      rw [BitVec.toNat_ofNat]
      omega
    refine hk ((h.needed_iff k).mpr ⟨BitVec.ofNat 16 e, ?_, ?_⟩)
    · rw [hid]
      exact he
    · rw [hid]
      exact heq

/--
**Images live while they are used.**  In every run of a client in which each task that has
an executable has a symbol, the images of the submitted tasks stay loaded, and each image is
unloaded once, when the user has unregistered it and no task uses it.

SOURCE: drivers/video/tegra/host/pva/pva_vpu_exe.c:836-989, pva_queue.c:542-743, 946-974
-/
theorem images_live_while_used {ops : List AppOp} {s : Apps}
    (hsym : AllSteps appStep HasSymbols newPvaClient ops) (hrun : run appStep newPvaClient ops = some s) :
    ImagesLive s := by
  have hinv : ClientInv s :=
    run_invariant_of_allSteps (fun _ op _ h hop hstep => h.step op hop hstep) clientInv_newClient
      hsym hrun
  exact hinv.imagesLive

def plainElf : ElfFile := ⟨true, true, false, default, true⟩

/-- A task on the first VPU with the executable 0 and `numSymbols` symbols. -/
def appTask (numSymbols : U8) : SubmitTask :=
  { (default : SubmitTask) with
    exeId1 := 0
    exeId2 := noopExeId
    flags := 1
    symbolPayloadSize := 64
    numSymbols := numSymbols }

def symbolElf : ElfFile := { plainElf with contents := { (default : ElfContents) with numSymbols := 1 } }

theorem usedImage_stays : ∃ s, run appStep newPvaClient
    [.load symbolElf, .write quietEnv 0 (appTask 1) default, .release 0] = some s ∧
    s.tasks.length = 1 ∧ ImagesLive s := by
  refine exists_of_map (fun s => s.tasks.length) 1 (by decide) fun s hrun hlen => ?_
  refine ⟨hlen, images_live_while_used ?_ hrun⟩
  refine ⟨trivial, fun s1 _ => ⟨fun _ => by decide, fun s2 _ => ⟨trivial, fun s3 _ => trivial⟩⟩⟩

/-- **The counts of a client are exact**: the table counts the ids in use, which lie in its
segments, and each image counts the references that the written tasks took. -/
theorem client_counts_exact {ops : List AppOp} {s : Apps} (hsym : AllSteps appStep HasSymbols newPvaClient ops)
    (hrun : run appStep newPvaClient ops = some s) : s.elf.numAssigned = (inUse s.elf).card ∧
      ∀ e : U16, InUse s.elf e.toNat → s.elf.segment (e.toNat / alocSegmentSize) = true ∧
        ((s.elf.image e.toNat).userRegistered = true ↔ s.elf.stamp e.toNat ∈ s.held) ∧
        (s.elf.image e.toNat).submitRefcount = ((s.tasks.flatMap AppTask.refs).map Prod.fst).count e := by
  have hinv : ClientInv s :=
    run_invariant_of_allSteps (fun _ op _ h hop hstep => h.step op hop hstep) clientInv_newClient hsym hrun
  have htable := hinv.apps.table
  exact ⟨htable.count, fun e he =>
    ⟨htable.segments _ (htable.below _ he), hinv.apps.registered e he, hinv.apps.count e he⟩⟩

def usedRun : List AppOp := [.load symbolElf, .write quietEnv 0 (appTask 1) default]

theorem client_counts_exact_used : ∃ s, run appStep newPvaClient usedRun = some s ∧
    s.elf.numAssigned = (inUse s.elf).card := by
  have hrun := (Option.some_get (by decide : (run appStep newPvaClient usedRun).isSome = true)).symm
  have hsym : AllSteps appStep HasSymbols newPvaClient usedRun :=
    ⟨trivial, fun _ _ => ⟨fun _ => by decide, fun _ _ => trivial⟩⟩
  exact ⟨_, hrun, (client_counts_exact hsym hrun).1⟩

/-- A submitted task without symbols holds no reference: when the user unregisters its
executable, the image goes. -/
theorem image_goes_while_used : (run appStep newPvaClient
    [.load plainElf, .write quietEnv 0 (appTask 0) default, .release 0]).map
      (fun s => (s.tasks.map fun t => (t.submitted, t.uses), pvaVpuElfIsRegistered s.elf 0, s.elf.cleaned)) =
    some ([(true, [(0, 0)])], false, [0]) := by
  decide

end

end NvidiaOot.Analysis
