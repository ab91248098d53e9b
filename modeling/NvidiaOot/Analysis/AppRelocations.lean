import NvidiaOot.Analysis.AppModule
import NvidiaOot.Model.AppRelocations

/-!
# The relocations of a loaded module

The checks let through the first index behind the symbol table, and any offset into a section of less than four bytes.
Otherwise an entry that is processed has a symbol of the table and changes nothing outside its destination section.
-/

namespace NvidiaOot.Analysis

open Library Program Model

variable {info : LoadInfo} {mod mod' : AdspModule} {relindex i : ℕ} {rel : Elf32Rel}

theorem checkRel_spec (h : checkRel info relindex rel = .ok ()) : rel.sym ≤ info.nsrc ∧
      (4 ≤ (info.dstsec relindex).shSize.toNat → rel.rOffset.toNat + 4 ≤ (info.dstsec relindex).shSize.toNat) := by
  obtain ⟨hsym, h⟩ := reject_bind_eq_ok.mp h
  have hplace := reject_eq_ok.mp h
  refine ⟨by omega, fun hsize => ?_⟩
  rw [BitVec.lt_def, BitVec.toNat_sub, BitVec.toNat_setWidth, BitVec.toNat_setWidth] at hplace
  have hfour : (4 : U64).toNat = 4 := by decide
  omega

theorem relocationInside_iff (h : checkRel info relindex rel = .ok ()) :
    RelocationInside info ⟨relindex, rel.sym, rel.rOffset⟩ ↔
      rel.sym ≠ info.nsrc ∧ 4 ≤ (info.dstsec relindex).shSize.toNat := by
  obtain ⟨hsym, hplace⟩ := checkRel_spec h
  constructor
  · rintro ⟨hlt, hinside⟩
    dsimp only at hlt hinside
    exact ⟨by omega, by omega⟩
  · rintro ⟨hne, hsize⟩
    exact ⟨Nat.lt_of_le_of_ne hsym hne, hplace hsize⟩

theorem relocate_spec (h : relocate info relindex rel mod = .ok mod') : checkRel info relindex rel = .ok () ∧
      AgreeOutside mod.memory mod'.memory ((info.dstsec relindex).shAddr.toNat + rel.rOffset.toNat) 4 := by
  obtain ⟨u, hcheck, h⟩ := bind_eq_ok.mp h
  refine ⟨hcheck, ?_⟩
  dsimp only at h
  split at h
  case isTrue =>
    cases h
    exact AgreeOutside.refl _ _ _
  case isFalse =>
    obtain ⟨word, -, h⟩ := bind_eq_ok.mp h
    cases h
    exact (AgreeOutside.refl mod.memory _ 4).putWord le_rfl le_rfl word

/-- Every byte that differs belongs to an entry of the list. -/
def ChangedBy (info : LoadInfo) (l : List Relocation) (mod mod' : AdspModule) : Prop :=
  ∀ p, mod'.memory p ≠ mod.memory p → ∃ r ∈ l,
    (Range.mk ((info.dstsec r.relindex).shAddr.toNat + r.rOffset.toNat) 4).Has p

theorem ChangedBy.refl (mod : AdspModule) : ChangedBy info [] mod mod := fun _ hne => absurd rfl hne

theorem ChangedBy.trans {l l' : List Relocation} {mod'' : AdspModule} (h : ChangedBy info l mod mod')
    (h' : ChangedBy info l' mod' mod'') : ChangedBy info (l ++ l') mod mod'' := by
  intro p hne
  by_cases hsame : mod''.memory p = mod'.memory p
  · obtain ⟨r, hr, hhas⟩ := h p (hsame ▸ hne)
    exact ⟨r, List.mem_append_left l' hr, hhas⟩
  · obtain ⟨r, hr, hhas⟩ := h' p hsame
    exact ⟨r, List.mem_append_right l hr, hhas⟩

theorem applyRelocateEntry_changed (h : (applyRelocateEntry info relindex i mod).2 = .ok mod') :
    ChangedBy info (applyRelocateEntry info relindex i mod).1 mod mod' := by
  unfold applyRelocateEntry at h ⊢
  cases hentry : relocate info relindex (info.rel relindex i) mod with
  | error e =>
    rw [hentry] at h
    cases h
  | ok t =>
    rw [hentry] at h
    cases h
    obtain ⟨-, hagree⟩ := relocate_spec hentry
    intro p hne
    refine ⟨_, List.mem_singleton_self _, ?_⟩
    by_contra hout
    apply hne
    apply hagree
    unfold Range.Has Range.stop at hout
    dsimp only at hout
    omega

theorem applyRelocate_changed (h : (applyRelocate info relindex mod).2 = .ok mod') :
    ChangedBy info (applyRelocate info relindex mod).1 mod mod' :=
  rel_of_tracedTurns (R := ChangedBy info) ChangedBy.refl (fun _ _ _ _ _ h h' => h.trans h')
    (fun _ _ _ h => applyRelocateEntry_changed h) h

theorem applySection_changed (h : (applySection info i mod).2 = .ok mod') :
    ChangedBy info (applySection info i mod).1 mod mod' := by
  unfold applySection at h ⊢
  split at h
  case isTrue hinfo =>
    rw [if_pos hinfo]
    cases h
    exact ChangedBy.refl mod
  case isFalse hinfo =>
    rw [if_neg hinfo]
    split at h
    case isTrue hflags =>
      rw [if_pos hflags]
      cases h
      exact ChangedBy.refl mod
    case isFalse hflags =>
      rw [if_neg hflags]
      split at h
      case isTrue hrel =>
        rw [if_pos hrel]
        exact applyRelocate_changed h
      case isFalse hrel =>
        rw [if_neg hrel]
        split at h
        case isTrue hrela => cases h
        case isFalse hrela =>
          rw [if_neg hrela]
          cases h
          exact ChangedBy.refl mod

/-- **A relocated module** differs from the one before only at the places of the entries. -/
theorem applyRelocations_changed (h : (applyRelocations info mod).2 = .ok mod') :
    ChangedBy info (applyRelocations info mod).1 mod mod' :=
  rel_of_tracedTurns (R := ChangedBy info) ChangedBy.refl (fun _ _ _ _ _ h h' => h.trans h')
    (fun _ _ _ h => applySection_changed h) h

theorem checked_of_mem {r : Relocation} (h : r ∈ (applyRelocations info mod).1) :
    ∃ rel, r = ⟨r.relindex, rel.sym, rel.rOffset⟩ ∧ checkRel info r.relindex rel = .ok () := by
  obtain ⟨k, -, t, -, h⟩ := mem_tracedTurns.mp h
  have hentry : r ∈ (applyRelocate info (1 + k) t).1 := by
    unfold applySection at h
    split at h
    case isTrue => cases h
    case isFalse =>
      split at h
      case isTrue => cases h
      case isFalse =>
        split at h
        case isTrue => exact h
        case isFalse => split at h <;> cases h
  obtain ⟨i, -, t', -, h⟩ := mem_tracedTurns.mp hentry
  unfold applyRelocateEntry at h
  split at h
  case h_1 => cases h
  case h_2 mod' hok =>
    obtain rfl := List.mem_singleton.mp h
    exact ⟨_, rfl, (relocate_spec hok).1⟩

/--
**The relocations of a module** have symbols of the symbol table and stay in their destination sections exactly when no
entry that is processed has the first index behind the symbol table or a destination section of less than four bytes.
-/
theorem relocations_sound_iff (info : LoadInfo) (mod : AdspModule) :
    RelocationsSound info mod ↔ ∀ r ∈ (applyRelocations info mod).1,
      r.sym ≠ info.nsrc ∧ 4 ≤ (info.dstsec r.relindex).shSize.toNat := by
  have hiff : ∀ r ∈ (applyRelocations info mod).1,
      (RelocationInside info r ↔ r.sym ≠ info.nsrc ∧ 4 ≤ (info.dstsec r.relindex).shSize.toNat) := by
    intro r hr
    obtain ⟨rel, heq, hcheck⟩ := checked_of_mem hr
    have hinside := relocationInside_iff hcheck
    rw [← heq] at hinside
    rw [hinside, show r.sym = rel.sym from congrArg Relocation.sym heq]
  constructor
  · intro h r hr
    exact (hiff r hr).mp (h.inside r hr)
  · intro h
    refine ⟨fun r hr => (hiff r hr).mpr (h r hr), fun mod' hok p hne => ?_⟩
    obtain ⟨r, hr, hhas⟩ := applyRelocations_changed hok p hne
    have hplace := ((hiff r hr).mpr (h r hr)).place
    refine ⟨r, hr, ?_⟩
    unfold moduleRange Range.Has Range.stop at *
    dsimp only at *
    omega

/-- A section of four bytes, a symbol table of one symbol and a relocation for the symbol behind it. -/
def relocationFile : List U8 :=
  sampleFile [⟨0, 0, 0, 0, 0, 0, 0, 0, 0, 0⟩, ⟨0, 1, 6, 0, 252, 4, 0, 0, 4, 0⟩,
      ⟨0, shtSymtab, 0, 0, 252, 16, 4, 0, 4, 0⟩, ⟨0, shtRel, 0, 0, 268, 8, 2, 1, 4, 8⟩,
      ⟨0, 3, 0, 0, 252, 1, 0, 0, 1, 0⟩] ++
    List.replicate 15 0 ++ le32 0 ++ le32 0x100

/-- The relocation is made, and its symbol is read behind the symbol table. -/
theorem relocation_behind_symbols : ∃ mod info mod',
    loadAdspDynamicModule sampleEnv relocationFile 276 = .ok (mod, info) ∧
      (simplifySymbols none info mod).2 = .ok mod' ∧ (applyRelocations info mod').2.isOk = true ∧
      ¬ RelocationsSound info mod' := by
  have hload : (loadAdspDynamicModule sampleEnv relocationFile 276).toOption.map (fun r =>
      (simplifySymbols none r.2 r.1).2.toOption.map fun mod' =>
        (r.2.nsrc, (applyRelocations r.2 mod').2.isOk, (applyRelocations r.2 mod').1)) =
      some (some (1, true, [⟨3, 1, 0⟩])) := by
    decide +kernel
  obtain ⟨⟨mod, info⟩, hload, hrest⟩ := ok_of_toOption hload
  obtain ⟨mod', hsimplify, hrest⟩ := ok_of_toOption hrest
  obtain ⟨hnsrc, hrest⟩ := Prod.mk.inj hrest
  obtain ⟨hok, htrace⟩ := Prod.mk.inj hrest
  refine ⟨mod, info, mod', hload, hsimplify, hok, fun h => ?_⟩
  have hsym := (h.inside ⟨3, 1, 0⟩ (by rw [htrace]; exact List.mem_singleton_self _)).symbol
  rw [hnsrc] at hsym
  exact Nat.lt_irrefl 1 hsym

end NvidiaOot.Analysis
