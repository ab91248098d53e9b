import NvidiaOot.Program.NvmapRefTree

/-!
# What a search of the references of a client finds

From a reference to the handle of the other kind the search goes to the left, so that it misses the reference that it
seeks exactly when that is on the right of the other one.
-/

namespace NvidiaOot.Analysis

open Library Program BinaryTree

variable {t : BinaryTree NvmapHandleRef} {h : ℕ} {isRo : Bool}

/-- The search gives the reference of the handle and the kind exactly when there is one. -/
def FindsRef (h : ℕ) (isRo : Bool) (t : BinaryTree NvmapHandleRef) : Prop :=
  ∀ ref, validateLocked h isRo t = some ref ↔ ref ∈ inorder t ∧ ref.handle = h ∧ ref.isRo = isRo

/-- The reference is below the one of the other kind, and on its right. -/
def HiddenByOther (h : ℕ) (isRo : Bool) : BinaryTree NvmapHandleRef → Prop
  | .nil => False
  | .node ref l r => ref = ⟨h, !isRo⟩ ∧ ⟨h, isRo⟩ ∈ inorder r ∨ HiddenByOther h isRo l ∨ HiddenByOther h isRo r

theorem HiddenByOther.mem (hidden : HiddenByOther h isRo t) : ⟨h, isRo⟩ ∈ inorder t := by
  induction t with
  | nil => cases hidden
  | node ref l r ihl ihr =>
    rw [inorder, List.mem_append, List.mem_cons]
    rcases hidden with ⟨_, hr⟩ | hl | hr
    · exact Or.inr (Or.inr hr)
    · exact Or.inl (ihl hl)
    · exact Or.inr (Or.inr (ihr hr))

/-- The handles are in order, and no reference is there twice. -/
structure RefsOrdered (t : BinaryTree NvmapHandleRef) : Prop where
  sorted : (inorder t).Pairwise fun a b => a.handle ≤ b.handle
  nodup : (inorder t).Nodup

theorem RefsOrdered.step {t' : BinaryTree NvmapHandleRef} {op : RefTreeOp} (ht : RefsOrdered t)
    (hstep : refTreeStep t op = some t') : RefsOrdered t' := by
  cases op with
  | add ref tree =>
    obtain ⟨⟨hnew, heq⟩, hsome⟩ := Option.ite_none_right_eq_some.mp hstep
    cases hsome
    constructor
    · rw [heq]
      refine pairwise_link (fun _ _ _ => Nat.le_trans) ht.sorted (fun b _ hgt => ?_) fun b _ hno => ?_
      · split at hgt
        case isTrue => cases hgt
        case isFalse hle => exact Nat.le_of_not_lt hle
      · split at hno
        case isTrue hlt => exact Nat.le_of_lt hlt
        case isFalse => exact absurd rfl hno
    · rw [heq, linkHandleRef, (inorder_link_perm t).nodup_iff]
      exact List.nodup_cons.mpr ⟨hnew, ht.nodup⟩
  | erase ref tree =>
    obtain ⟨⟨_, heq⟩, hsome⟩ := Option.ite_none_right_eq_some.mp hstep
    cases hsome
    exact ⟨heq ▸ ht.sorted.sublist List.erase_sublist, heq ▸ ht.nodup.erase ref⟩

/-- What is sought is found exactly when it is in the tree and not hidden. -/
theorem validateLocked_eq_some_iff (ht : RefsOrdered t) : validateLocked h isRo t = some ⟨h, isRo⟩ ↔
    ⟨h, isRo⟩ ∈ inorder t ∧ ¬ HiddenByOther h isRo t := by
  induction t with
  | nil => simp [validateLocked, search, inorder]
  | node ref l r ihl ihr =>
    obtain ⟨hsl, hsr, hlref, hrefr, _⟩ := pairwise_inorder_node.mp ht.sorted
    obtain ⟨hnl, hnr, hlne, hrne, hlr⟩ := pairwise_inorder_node.mp ht.nodup
    have hleft := ihl ⟨hsl, hnl⟩
    have hright := ihr ⟨hsr, hnr⟩
    have hmeml : HiddenByOther h isRo l → ⟨h, isRo⟩ ∈ inorder l := HiddenByOther.mem
    have hmemr : HiddenByOther h isRo r → ⟨h, isRo⟩ ∈ inorder r := HiddenByOther.mem
    have hapart : ⟨h, isRo⟩ ∈ inorder l → ⟨h, isRo⟩ ∉ inorder r := fun hl hr => hlr _ hl _ hr rfl
    unfold validateLocked at hleft hright ⊢
    unfold search
    rw [inorder, List.mem_append, List.mem_cons, HiddenByOther]
    by_cases hthis : ref = ⟨h, isRo⟩
    · subst hthis
      rw [if_pos ⟨rfl, rfl⟩]
      refine ⟨fun _ => ⟨Or.inr (Or.inl rfl), ?_⟩, fun _ => rfl⟩
      rintro (⟨hother, _⟩ | hl | hr)
      · simp at hother
      · exact hlne _ (hmeml hl) rfl
      · exact hrne _ (hmemr hr) rfl
    rw [if_neg fun hc => hthis (by cases ref; simp_all)]
    have hne : ¬ ⟨h, isRo⟩ = ref := fun heq => hthis heq.symm
    by_cases hgt : h > ref.handle
    · have hl : ⟨h, isRo⟩ ∉ inorder l := fun hl => absurd (hlref _ hl) (Nat.not_le_of_lt hgt)
      have hhidden : ¬ HiddenByOther h isRo l := fun hh => hl (hmeml hh)
      have hother : ref ≠ ⟨h, !isRo⟩ := fun heq => absurd hgt (by simp [heq])
      rw [if_pos hgt]
      simpa only [hl, hne, hhidden, hother, false_and, false_or] using hright
    rw [if_neg hgt]
    by_cases hsame : ref.handle = h
    · -- the search goes on among the references on the left
      have hother : ref = ⟨h, !isRo⟩ := by
        cases ref
        cases hsame
        cases isRo <;> simp_all
      simp only [hother, true_and]
      rw [hleft]
      constructor
      · rintro ⟨hl, hno⟩
        refine ⟨Or.inl hl, ?_⟩
        rintro (hr | hhl | hhr)
        · exact hapart hl hr
        · exact hno hhl
        · exact hapart hl (hmemr hhr)
      · rintro ⟨hl | heq | hr, hno⟩
        · exact ⟨hl, fun hhl => hno (Or.inr (Or.inl hhl))⟩
        · simp at heq
        · exact absurd (Or.inl hr) hno
    have hr : ⟨h, isRo⟩ ∉ inorder r := fun hr => by
      have := hrefr _ hr
      dsimp only at this
      omega
    have hhidden : ¬ HiddenByOther h isRo r := fun hh => hr (hmemr hh)
    simpa only [hr, hne, hhidden, and_false, or_false, false_or] using hleft

/-- **A search finds the reference exactly when it is not hidden**, in every tree that the calls can leave. -/
theorem findsRef_iff (ops : List RefTreeOp) (hrun : run refTreeStep .nil ops = some t) :
    FindsRef h isRo t ↔ ¬ HiddenByOther h isRo t := by
  have ht : RefsOrdered t :=
    run_invariant (fun _ _ _ hs hstep => RefsOrdered.step hs hstep)
      (show RefsOrdered .nil from ⟨List.Pairwise.nil, List.nodup_nil⟩) hrun
  have hfound : ∀ ref, validateLocked h isRo t = some ref → ref ∈ inorder t ∧ ref = ⟨h, isRo⟩ := by
    intro ref hsome
    obtain ⟨hmem, heq⟩ := search_some hsome
    split at heq
    case isTrue hc => exact ⟨hmem, by cases ref; simp_all⟩
    case isFalse => split at heq <;> cases heq
  constructor
  · intro hfinds hidden
    exact ((validateLocked_eq_some_iff ht).mp ((hfinds _).mpr ⟨hidden.mem, rfl, rfl⟩)).2 hidden
  · intro hno ref
    constructor
    · intro hsome
      obtain ⟨hmem, rfl⟩ := hfound ref hsome
      exact ⟨hmem, rfl, rfl⟩
    · rintro ⟨hmem, rfl, rfl⟩
      exact (validateLocked_eq_some_iff ht).mpr ⟨hmem, hno⟩

theorem findsRef_iff_single : FindsRef 8192 true (.node ⟨8192, true⟩ .nil .nil) ↔
    ¬ HiddenByOther 8192 true (.node ⟨8192, true⟩ .nil .nil) :=
  findsRef_iff [.add ⟨8192, true⟩ (.node ⟨8192, true⟩ .nil .nil)] (by decide)

/-- The third insertion turns the tree, and the first reference is on the right of the second one. -/
theorem findsRef_fails : ¬ ∀ ops t h isRo, run refTreeStep .nil ops = some t → FindsRef h isRo t := by
  intro hall
  have hfinds := hall [.add ⟨8192, false⟩ (.node ⟨8192, false⟩ .nil .nil),
    .add ⟨8192, true⟩ (.node ⟨8192, false⟩ (.node ⟨8192, true⟩ .nil .nil) .nil),
    .add ⟨4096, false⟩ (.node ⟨8192, true⟩ (.node ⟨4096, false⟩ .nil .nil) (.node ⟨8192, false⟩ .nil .nil))]
    (.node ⟨8192, true⟩ (.node ⟨4096, false⟩ .nil .nil) (.node ⟨8192, false⟩ .nil .nil)) 8192 false (by decide)
  exact absurd ((hfinds ⟨8192, false⟩).mpr (by decide)) (by decide)

end NvidiaOot.Analysis
