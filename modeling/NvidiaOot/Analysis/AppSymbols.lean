import NvidiaOot.Library.Machine
import NvidiaOot.Analysis.AppModule
import NvidiaOot.Model.AppRelocations

/-!
# What the loader checks of a file

The end of a section is computed with 32 bits, so that a section is outside the file when the sum wraps, and no index of
a section is compared with the number of sections where the header is used.  `simplify_symbols` changes only the symbol
that it comes to, so that the sections it goes to are those of the symbols before it.
-/

namespace NvidiaOot.Analysis

open Library Program Model

section

variable {table : Option (ℕ → GlobalSymInfo)} {info : LoadInfo} {mod mod' : AdspModule} {i j k : ℕ}

theorem elf32SymIn_congr {m m' : ℕ → U8} {p : ℕ} (h : ∀ q, p ≤ q → q < p + 16 → m' q = m q) :
    elf32SymIn m' p = elf32SymIn m p := by
  have hword : ∀ o, o + 4 ≤ 16 → getWord m' (p + o) = getWord m (p + o) := by
    intro o ho
    unfold getWord
    rw [h _ (by omega) (by omega), h _ (by omega) (by omega), h _ (by omega) (by omega), h _ (by omega) (by omega)]
  unfold elf32SymIn
  rw [hword 4 (by omega), hword 8 (by omega), h (p + 12) (by omega) (by omega), h (p + 13) (by omega) (by omega),
    h (p + 14) (by omega) (by omega), h (p + 15) (by omega) (by omega)]
  congr 1
  exact hword 0 (by omega)

theorem simplifySymbol_agree (h : (simplifySymbol table info i mod).2 = .ok mod') :
    AgreeOutside mod.memory mod'.memory (info.symAddr i) 16 := by
  have hrefl := AgreeOutside.refl mod.memory (info.symAddr i) 16
  unfold simplifySymbol at h
  dsimp only at h
  split at h
  case isTrue => cases h
  case isFalse =>
    split at h
    case isTrue =>
      cases h
      exact hrefl
    case isFalse =>
      split at h
      case isTrue =>
        split at h
        case h_1 s _ =>
          cases h
          have hvalue := hrefl.putWord (o := info.symAddr i + 4) (by omega) (by omega) s.addr
          exact hvalue.blit (o := info.symAddr i + 12) (c := 1) (by omega) (by omega) fun _ => s.info
        case h_2 =>
          split at h
          case isTrue =>
            cases h
            exact hrefl
          case isFalse => cases h
      case isFalse =>
        cases h
        exact hrefl.putWord (Nat.le_add_right _ 4) (by omega) _

theorem symIn_simplifySymbol (h : (simplifySymbol table info i mod).2 = .ok mod') (hne : j ≠ i) :
    info.symIn mod'.memory j = info.symIn mod.memory j := by
  apply elf32SymIn_congr
  intro q hlow hhigh
  apply simplifySymbol_agree h
  unfold LoadInfo.symAddr sizeofElf32Sym at *
  omega

theorem simplifySymbol_ok_iff :
    (∃ mod', (simplifySymbol table info i mod).2 = .ok mod') ↔ ¬ StopsAt table info (info.symIn mod.memory i) := by
  unfold simplifySymbol StopsAt
  dsimp only
  generalize info.symIn mod.memory i = sym
  split
  case isTrue hcommon => simp [hcommon]
  case isFalse hcommon =>
    split
    case isTrue habs =>
      have hdef : sym.stShndx ≠ shnUndef := by
        rw [habs]
        decide
      simp [hcommon, hdef]
    case isFalse habs =>
      split
      case isTrue hundef =>
        split
        case h_1 s hfind => simp [hcommon, hfind]
        case h_2 hfind =>
          split
          case isTrue hweak => simp [hcommon, hweak]
          case isFalse hweak => simp [hundef, hfind, hweak]
      case isFalse hundef => simp [hcommon, hundef]

theorem mem_simplifySymbol {e : ℕ} : e ∈ (simplifySymbol table info i mod).1 ↔
    (info.symIn mod.memory i).stShndx ∉ [shnUndef, shnAbs, shnCommon] ∧
      e = (info.symIn mod.memory i).stShndx.toNat := by
  unfold simplifySymbol
  dsimp only
  generalize info.symIn mod.memory i = sym
  split
  case isTrue hcommon => simp [hcommon]
  case isFalse hcommon =>
    split
    case isTrue habs => simp [habs]
    case isFalse habs =>
      split
      case isTrue hundef =>
        split
        case h_1 => simp [hundef]
        case h_2 => split <;> simp [hundef]
      case isFalse hundef => simp [hcommon, habs, hundef]

/-- **The symbols from a turn on** are those of the start, and the loop has not stopped before. -/
theorem stateBefore_simplifySymbol (h : stateBefore (simplifySymbol table info) 1 mod k = some mod') :
    (∀ j, k < j → info.symIn mod'.memory j = info.symIn mod.memory j) ∧
      ∀ j, 1 ≤ j → j ≤ k → ¬ StopsAt table info (info.symIn mod.memory j) := by
  induction k generalizing mod' with
  | zero =>
    cases h
    exact ⟨fun _ _ => rfl, fun j hpos hle => absurd hpos (by omega)⟩
  | succ k ih =>
    obtain ⟨t, hbefore, hok⟩ := stateBefore_succ_eq_some.mp h
    obtain ⟨hsame, hgoes⟩ := ih hbefore
    have hturn := simplifySymbol_ok_iff.mp ⟨mod', hok⟩
    rw [hsame (1 + k) (by omega)] at hturn
    constructor
    · intro j hj
      rw [symIn_simplifySymbol hok (by omega), hsame j (by omega)]
    · intro j hpos hle
      by_cases hlast : j = 1 + k
      · rw [hlast]
        exact hturn
      · exact hgoes j hpos (by omega)

theorem exists_stateBefore (h : ∀ j, 1 ≤ j → j ≤ k → ¬ StopsAt table info (info.symIn mod.memory j)) :
    ∃ mod', stateBefore (simplifySymbol table info) 1 mod k = some mod' := by
  induction k with
  | zero => exact ⟨mod, rfl⟩
  | succ k ih =>
    obtain ⟨t, hbefore⟩ := ih fun j hpos hle => h j hpos (by omega)
    obtain ⟨hsame, -⟩ := stateBefore_simplifySymbol hbefore
    have hgoes := h (1 + k) (by omega) (by omega)
    rw [← hsame (1 + k) (by omega)] at hgoes
    obtain ⟨mod', hok⟩ := simplifySymbol_ok_iff.mpr hgoes
    exact ⟨mod', stateBefore_succ_eq_some.mpr ⟨t, hbefore, hok⟩⟩

/-- **The sections that `simplify_symbols` goes to** are in the header table just for careful symbols. -/
theorem simplifySymbols_inside_iff :
    (∀ k ∈ (simplifySymbols table info mod).1, k < info.shnum) ↔ SymbolsCareful table info mod := by
  unfold simplifySymbols SymbolsCareful
  rw [forall_mem_tracedTurns]
  constructor
  · intro h i hpos hlt hgoes
    have hcomes : ∃ t, stateBefore (simplifySymbol table info) 1 mod (i - 1) = some t :=
      exists_stateBefore fun j hj hle => hgoes j hj (by omega)
    obtain ⟨t, hbefore⟩ := hcomes
    obtain ⟨hsame, -⟩ := stateBefore_simplifySymbol hbefore
    have hturn := h (i - 1) (by omega) t hbefore
    rw [show 1 + (i - 1) = i by omega] at hturn
    by_cases hreserved : (info.symIn mod.memory i).stShndx ∈ [shnUndef, shnAbs, shnCommon]
    · exact Or.inl hreserved
    · right
      rw [← hsame i (by omega)] at hreserved ⊢
      exact hturn _ (mem_simplifySymbol.mpr ⟨hreserved, rfl⟩)
  · intro h k hk t hbefore e he
    obtain ⟨hsame, hgoes⟩ := stateBefore_simplifySymbol hbefore
    obtain ⟨hreserved, rfl⟩ := mem_simplifySymbol.mp he
    rw [hsame (1 + k) (by omega)] at hreserved ⊢
    exact (h (1 + k) (by omega) (by omega) fun j hpos hlt => hgoes j hpos (by omega)).resolve_left hreserved

end

section

variable {env : LoaderEnv} {table : Option (ℕ → GlobalSymInfo)} {memory : List U8} {len : U64}

/-- The sections of a list that are let through, whose headers are those of `s`. -/
theorem rewriteLoop_ok {s : ℕ → Elf32Shdr} {l : List ℕ} {info info' : LoadInfo} (hnodup : l.Nodup)
    (hsame : ∀ i ∈ l, info.sechdrs i = s i) (h : rewriteLoop l info = .ok info') :
    ∀ i ∈ l, (s i).shType ≠ shtNobits → ((s i).shOffset + (s i).shSize).toNat ≤ info.len.toNat := by
  induction l generalizing info with
  | nil => nofun
  | cons i l ih =>
    unfold rewriteLoop at h
    split at h
    case isTrue => cases h
    case isFalse hcheck =>
      obtain ⟨hnot, hnodup⟩ := List.nodup_cons.mp hnodup
      intro j hj htype
      rcases List.mem_cons.mp hj with rfl | hj
      · rw [hsame j List.mem_cons_self] at hcheck
        by_contra hlarge
        exact hcheck ⟨htype, by omega⟩
      refine ih hnodup (fun j' hj' => ?_) h j hj htype
      have hne : j' ≠ i := by
        rintro rfl
        exact hnot hj'
      rw [← hsame j' (List.mem_cons_of_mem i hj')]
      exact if_neg hne

/-- **What `rewrite_section_headers` has checked**: the sums with 32 bits. -/
theorem rewriteSectionHeaders_ok {info : LoadInfo} {i : ℕ}
    (h : rewriteSectionHeaders (fileInfo memory len) = .ok info)
    (hpos : 1 ≤ i) (hlt : i < fileShnum memory) (htype : (fileHeader memory i).shType ≠ shtNobits) :
    ((fileHeader memory i).shOffset + (fileHeader memory i).shSize).toNat ≤ len.toNat := by
  refine rewriteLoop_ok (List.nodup_range' 1) (fun j hj => ?_) h i ?_ htype
  · rw [List.mem_range'_1] at hj
    exact if_neg (by omega)
  · rw [List.mem_range'_1]
    exact ⟨hpos, by change i < 1 + (fileShnum memory - 1); omega⟩

theorem layoutPass_memory (init : Bool) (st : U64 × LoadInfo) : (layoutPass init st).2.memory = st.2.memory := by
  apply foldl_keeps fun st : U64 × LoadInfo => st.2.memory
  intro st mask
  apply foldl_keeps fun st : U64 × LoadInfo => st.2.memory
  intro st i
  split <;> rfl

theorem layoutSymtab_memory (info : LoadInfo) :
    (layoutSymtab env (layoutSections (0, info))).2.memory = info.memory := by
  have hclear : ((List.range info.shnum).foldl
      (fun info i => info.modify i fun s => { s with shEntsize := ~~~0 }) info).memory = info.memory :=
    foldl_keeps LoadInfo.memory (fun (info : LoadInfo) i => info.modify i fun s => { s with shEntsize := ~~~0 })
      (fun _ _ => rfl) _ _
  change (layoutSections (0, info)).2.memory = info.memory
  unfold layoutSections
  rw [layoutPass_memory, layoutPass_memory]
  exact hclear

theorem rewriteLoop_memory {l : List ℕ} {info info' : LoadInfo} (h : rewriteLoop l info = .ok info') :
    info'.memory = info.memory := by
  induction l generalizing info with
  | nil =>
    cases h
    rfl
  | cons i l ih =>
    unfold rewriteLoop at h
    split at h
    case isTrue => cases h
    case isFalse => exact (ih h).trans rfl

theorem shnum_of_load {mod : AdspModule} {info : LoadInfo}
    (h : loadAdspDynamicModule env memory len = .ok (mod, info)) : info.shnum = fileShnum memory := by
  have hmemory : info.memory = memory := by
    obtain ⟨-, -, h⟩ := bind_eq_ok.mp h
    obtain ⟨info₁, hsetup, h⟩ := bind_eq_ok.mp h
    have hfile : info₁.memory = memory := by
      obtain ⟨info₂, hrewrite, hsetup⟩ := bind_eq_ok.mp hsetup
      obtain ⟨-, -, hsetup⟩ := bind_eq_ok.mp hsetup
      split at hsetup
      case h_1 => cases hsetup
      case h_2 =>
        cases hsetup
        exact rewriteLoop_memory hrewrite
    have hlayout : (layoutSymtab env (layoutSections (0, info₁))).2.memory = info₁.memory := layoutSymtab_memory info₁
    dsimp only at h
    generalize layoutSymtab env (layoutSections (0, info₁)) = st at h hlayout
    obtain ⟨size, info₂⟩ := st
    unfold moveModule at h
    split at h
    case h_1 => cases h
    case h_2 ptr _ =>
      have hmove : ((List.range info₂.shnum).foldl moveSection (⟨size, ptr, env.dram⟩, info₂)).2.memory =
          info₂.memory := by
        apply foldl_keeps fun st : AdspModule × LoadInfo => st.2.memory
        intro st i
        unfold moveSection
        dsimp only
        split <;> rfl
      rw [Except.ok.inj h] at hmove
      exact hmove.trans (hlayout.trans hfile)
  unfold LoadInfo.shnum LoadInfo.hdr fileShnum
  rw [hmemory]

theorem exact_sum_iff {a b : U32} (h : (a + b).toNat ≤ len.toNat) :
    a.toNat + b.toNat ≤ len.toNat ↔ a.toNat + b.toNat ≤ max (2 ^ 32 - 1) len.toNat := by
  constructor
  · intro hle
    exact le_max_of_le_right hle
  · intro hle
    rcases le_max_iff.mp hle with hfits | hle
    · rw [BitVec.toNat_add_of_lt (by omega)] at h
      exact h
    · exact hle

theorem symbolReads_inside_iff : (∀ k ∈ symbolReads env table memory len, k < fileShnum memory) ↔
    ∀ mod info, loadAdspDynamicModule env memory len = .ok (mod, info) → SymbolsCareful table info mod := by
  unfold symbolReads
  cases hload : loadAdspDynamicModule env memory len with
  | error e => simp
  | ok r =>
    obtain ⟨mod, info⟩ := r
    rw [← shnum_of_load hload, simplifySymbols_inside_iff]
    constructor
    · intro h mod' info' heq
      cases heq
      exact h
    · intro h
      exact h mod info rfl

/-- A file with two sections behind the first, for symbols and for strings. -/
def symbolFile : List U8 :=
  sampleFile [⟨0, 0, 0, 0, 0, 0, 0, 0, 0, 0⟩, ⟨0, shtSymtab, 0, 0, 172, 0, 2, 0, 4, 0⟩,
    ⟨0, 3, 0, 0, 172, 1, 0, 0, 1, 0⟩]

/-- A section of 32 bytes at the offset `0xfffffff0`. -/
def wrappedFile : List U8 :=
  sampleFile [⟨0, 0, 0, 0, 0, 0, 0, 0, 0, 0⟩, ⟨0, shtSymtab, 0, 0, 212, 0, 3, 0, 4, 0⟩,
    ⟨0, 1, 0, 0, 0xfffffff0, 0x20, 0, 0, 1, 0⟩, ⟨0, 3, 0, 0, 212, 1, 0, 0, 1, 0⟩]

end

end NvidiaOot.Analysis
