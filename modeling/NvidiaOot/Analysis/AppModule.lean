import NvidiaOot.Analysis.AppLayout

/-!
# The sections of a loaded module

The sections are copied to the offsets of `place`, or to the byte before when the offset is odd.
They overlap exactly when a section of odd size at an even offset is followed by another one
without room between them.
-/

namespace NvidiaOot.Analysis

open Library Program Model Function

section

variable {l : List (Block ℕ)} {e n : ℕ} {x y : Block ℕ × ℕ}

def TwoPowers (l : List (Block ℕ)) : Prop := ∀ b ∈ l, ∃ k, b.align = 2 ^ k

theorem twoPowers_cons {b : Block ℕ} (h : TwoPowers (b :: l)) : (∃ k, b.align = 2 ^ k) ∧ TwoPowers l :=
  ⟨h b List.mem_cons_self, fun b' hb' => h b' (List.mem_cons_of_mem b hb')⟩

theorem TwoPowers.pos (h : TwoPowers l) : ∀ b ∈ l, 0 < b.align := by
  intro b hb
  obtain ⟨k, hk⟩ := h b hb
  rw [hk]
  exact Nat.two_pow_pos k

/-- A block that may be at any address is put at the next one, and any other at an even one. -/
theorem roundUp_cases {b : Block ℕ} (h : ∃ k, b.align = 2 ^ k) (e : ℕ) :
    (b.align ≤ 1 ∧ roundUp e b.align = e) ∨ (2 ≤ b.align ∧ roundUp e b.align % 2 = 0) := by
  obtain ⟨k, hk⟩ := h
  cases k with
  | zero =>
    left
    rw [hk]
    exact ⟨le_rfl, roundUp_one e⟩
  | succ k =>
    right
    have hdvd : 2 ∣ roundUp e b.align :=
      (hk ▸ Dvd.intro_left (2 ^ k) rfl : 2 ∣ b.align).trans (dvd_roundUp e b.align)
    refine ⟨?_, Nat.mod_eq_zero_of_dvd hdvd⟩
    have hpos := Nat.two_pow_pos k
    omega

/-- The two sections do not overlap where they are copied to. -/
def NoOverlap (x y : Block ℕ × ℕ) : Prop :=
  x.1.owner.isSome = true → y.1.owner.isSome = true →
    ∀ p, (Range.mk (shift x.2) x.1.size).Has p → ¬ (Range.mk (shift y.2) y.1.size).Has p

/-- **When two sections overlap** of which the first was placed before the second. -/
theorem not_noOverlap_iff (hbefore : x.2 + x.1.size ≤ y.2) : ¬ NoOverlap x y ↔
    (x.1.owner.isSome = true ∧ x.2 % 2 = 0 ∧ x.1.size % 2 = 1) ∧
      (y.1.owner.isSome = true ∧ 0 < y.1.size ∧ y.2 = x.2 + x.1.size) := by
  unfold NoOverlap shift Range.Has Range.stop
  constructor
  · intro hnot
    by_contra hother
    apply hnot
    intro hx hy p hp hp'
    apply hother
    dsimp only at hp hp'
    refine ⟨⟨hx, ?_, ?_⟩, hy, ?_, ?_⟩
    all_goals omega
  · rintro ⟨⟨hx, heven, hodd⟩, hy, hsize, hnext⟩ hclear
    refine hclear hx hy (y.2 - 1) ?_ ?_
    · dsimp only
      omega
    · dsimp only
      omega

theorem follows_iff (htwo : TwoPowers l) (hodd : e % 2 = 1) : Follows l ↔
    ∃ y ∈ place e l, y.1.owner.isSome = true ∧ 0 < y.1.size ∧ y.2 = e := by
  induction l with
  | nil =>
    refine ⟨False.elim, ?_⟩
    rintro ⟨y, hy, -⟩
    exact absurd hy List.not_mem_nil
  | cons b l ih =>
    obtain ⟨hb, htwo⟩ := twoPowers_cons htwo
    unfold Follows place
    rcases roundUp_cases hb e with ⟨hany, hsame⟩ | ⟨halign, heven⟩
    · rw [hsame]
      by_cases hsize : b.size = 0
      · rw [hsize, if_pos rfl, Nat.add_zero, ih htwo]
        constructor
        · rintro ⟨-, y, hy, hrest⟩
          exact ⟨y, List.mem_cons_of_mem _ hy, hrest⟩
        · rintro ⟨y, hy, howner, hpos, hstart⟩
          rcases List.mem_cons.mp hy with rfl | hy
          · exact absurd hsize (Nat.pos_iff_ne_zero.mp hpos)
          · exact ⟨hany, y, hy, howner, hpos, hstart⟩
      rw [if_neg hsize]
      constructor
      · rintro ⟨-, howner⟩
        exact ⟨(b, e), List.mem_cons_self, howner, Nat.pos_of_ne_zero hsize, rfl⟩
      · rintro ⟨y, hy, howner, -, hstart⟩
        rcases List.mem_cons.mp hy with rfl | hy
        · exact ⟨hany, howner⟩
        · have hlater := (place_bounds htwo.pos hy).1
          omega
    constructor
    · rintro ⟨hany, -⟩
      omega
    · rintro ⟨y, hy, -, -, hstart⟩
      have hround := le_roundUp e (a := b.align) (by omega)
      rcases List.mem_cons.mp hy with rfl | hy
      · omega
      · have hlater := (place_bounds htwo.pos hy).1
        omega

/-- **Sections overlap exactly when the layout slips.** -/
theorem slips_iff (htwo : TwoPowers l) (hparity : n % 2 = e % 2) :
    Slips n l ↔ ¬ (place e l).Pairwise NoOverlap := by
  induction l generalizing n e with
  | nil => exact ⟨False.elim, fun hnot => hnot List.Pairwise.nil⟩
  | cons b l ih =>
    obtain ⟨hb, htwo⟩ := twoPowers_cons htwo
    have hstart : (if 2 ≤ b.align then 0 else n) % 2 = roundUp e b.align % 2 := by
      rcases roundUp_cases hb e with ⟨hany, hsame⟩ | ⟨halign, heven⟩
      · rw [if_neg (by omega), hsame]
        exact hparity
      · rw [if_pos halign, heven]
    have hrest := ih (n := (if 2 ≤ b.align then 0 else n) + b.size)
      (e := roundUp e b.align + b.size) htwo (by omega)
    unfold Slips place
    rw [List.pairwise_cons, not_and_or, hrest, hstart]
    refine or_congr_left ?_
    rw [not_forall]
    constructor
    · rintro ⟨howner, heven, hodd, hfollows⟩
      obtain ⟨y, hy, hfollow⟩ := (follows_iff (e := roundUp e b.align + b.size) htwo
        (by omega)).mp hfollows
      refine ⟨y, fun hclear => ?_⟩
      exact (not_noOverlap_iff (x := (b, roundUp e b.align)) (place_bounds htwo.pos hy).1).mpr
        ⟨⟨howner, heven, hodd⟩, hfollow⟩ (hclear hy)
    · rintro ⟨y, hnot⟩
      obtain ⟨hy, hnot⟩ := Classical.not_imp.mp hnot
      obtain ⟨⟨howner, heven, hodd⟩, hfollow⟩ := (not_noOverlap_iff (x := (b, roundUp e b.align))
        (place_bounds htwo.pos hy).1).mp hnot
      dsimp only at howner heven hodd hfollow
      exact ⟨howner, heven, hodd, (follows_iff (e := roundUp e b.align + b.size) htwo
        (by omega)).mpr ⟨y, hy, hfollow⟩⟩

end

section

variable {info : LoadInfo} {mod : AdspModule} {l : List (Block ℕ)} {o : ℕ}

/-- The sections in the module are the owners of the entries and are where they were placed. -/
structure Moved (info : LoadInfo) (entries : List (Block ℕ × ℕ)) : Prop where
  alloc : ∀ x ∈ entries, ∀ i, x.1.owner = some i → IsAlloc info i
  addr : ∀ x ∈ entries, ∀ i, x.1.owner = some i → (info.sechdrs i).shAddr.toNat = shift x.2
  size : ∀ x ∈ entries, ∀ i, x.1.owner = some i → (info.sechdrs i).shSize.toNat = x.1.size
  align : ∀ x ∈ entries, ∀ i, x.1.owner = some i → alignOf (info.sechdrs i) = x.1.align
  all : ∀ i, IsAlloc info i → ∃ x ∈ entries, x.1.owner = some i
  distinct : entries.Pairwise fun x y => ∀ i, x.1.owner = some i → y.1.owner ≠ some i

instance : Std.Symm NoOverlap := ⟨fun _ _ h hy hx p hp hp' => h hx hy p hp' hp⟩

theorem dvd_shift {a : ℕ} (ha : ∃ k, a = 2 ^ k) (h : a ∣ o) : a ∣ shift o := by
  obtain ⟨k, rfl⟩ := ha
  cases k with
  | zero => exact one_dvd _
  | succ k =>
    have heven : o % 2 = 0 := Nat.mod_eq_zero_of_dvd ((Dvd.intro_left (2 ^ k) rfl).trans h)
    unfold shift
    rw [heven]
    exact h

/-- **The layout is right exactly when no two entries overlap.** -/
theorem layoutOk_iff (h : Moved info (place 0 l)) (htwo : TwoPowers l)
    (hend : placeEnd 0 l = mod.size.toNat) : LayoutOk mod info ↔ (place 0 l).Pairwise NoOverlap := by
  have hrange {x : Block ℕ × ℕ} {i : ℕ} (hx : x ∈ place 0 l) (hi : x.1.owner = some i) :
      destRange info i = ⟨shift x.2, x.1.size⟩ := by
    unfold destRange
    rw [h.addr x hx i hi, h.size x hx i hi]
  constructor
  · intro hok
    refine h.distinct.imp_of_mem fun {x y} hx hy hne hxs hys p hp hp' => ?_
    obtain ⟨i, hi⟩ := Option.isSome_iff_exists.mp hxs
    obtain ⟨j, hj⟩ := Option.isSome_iff_exists.mp hys
    have hij : i ≠ j := fun heq => hne i hi (heq ▸ hj)
    rw [← hrange hx hi] at hp
    rw [← hrange hy hj] at hp'
    exact hok.disjoint i j (h.alloc x hx i hi) (h.alloc y hy j hj) hij p hp hp'
  · intro hclear
    refine ⟨fun i j hi hj hne p hp hp' => ?_, fun i hi => ?_, fun i hi => ?_⟩
    · obtain ⟨x, hx, hxi⟩ := h.all i hi
      obtain ⟨y, hy, hyj⟩ := h.all j hj
      have hxy : x ≠ y := by
        rintro rfl
        rw [hxi] at hyj
        exact hne (Option.some.inj hyj)
      rw [hrange hx hxi] at hp
      rw [hrange hy hyj] at hp'
      exact hclear.forall hx hy hxy (by rw [hxi]; rfl) (by rw [hyj]; rfl) p hp hp'
    · obtain ⟨x, hx, hxi⟩ := h.all i hi
      rw [h.align x hx i hxi, h.addr x hx i hxi]
      exact dvd_shift (htwo x.1 (mem_of_mem_place hx)) (place_aligned hx)
    · obtain ⟨x, hx, hxi⟩ := h.all i hi
      have hbounds := (place_bounds htwo.pos hx).2
      rw [hrange hx hxi, ← hend]
      unfold shift Range.stop
      dsimp only
      omega

end

section

theorem and_shfAlloc (flags : U32) : flags &&& shfAlloc = 0 ∨ flags &&& shfAlloc = shfAlloc := by
  have hbit : shfAlloc = BitVec.twoPow 32 1 := by decide
  rw [hbit, BitVec.and_twoPow]
  cases flags.getLsbD 1 with
  | false => exact Or.inl rfl
  | true => exact Or.inr rfl

theorem exists_mask_iff (s : Elf32Shdr) :
    (∃ mask ∈ masks, hasFlags mask s = true) ↔ s.shFlags &&& shfAlloc ≠ 0 := by
  constructor
  · rintro ⟨mask, hmask, hflags⟩ hzero
    have hall : ∀ mask ∈ masks, mask.1 &&& shfAlloc ≠ 0 := by
      unfold masks
      simp only [List.forall_mem_cons]
      exact ⟨by decide, by decide, by decide, by decide, nofun⟩
    apply hall mask hmask
    have heq := (of_decide_eq_true hflags).1
    rw [← heq, BitVec.and_assoc, BitVec.and_comm mask.1, ← BitVec.and_assoc, hzero]
    exact BitVec.zero_and
  · intro hne
    refine ⟨(archShfSmall ||| shfAlloc, 0), by decide, decide_eq_true ⟨?_, ?_⟩⟩
    · exact (and_shfAlloc s.shFlags).resolve_left hne
    · exact BitVec.and_zero

theorem allocate_flags (s : Elf32Shdr) : (allocate s).shFlags &&& shfAlloc ≠ 0 := by
  have habsorb : ∀ a b : Bool, ((a || b) && b) = b := by decide
  have hself : (s.shFlags ||| shfAlloc) &&& shfAlloc = shfAlloc := by
    apply BitVec.eq_of_getLsbD_eq
    intro j hj
    rw [BitVec.getLsbD_and, BitVec.getLsbD_or, habsorb]
  change (s.shFlags ||| shfAlloc) &&& shfAlloc ≠ 0
  rw [hself]
  decide

end

section

variable {env : LoaderEnv} {info : LoadInfo} {e : ℕ → U32} {i : ℕ} {o : ℕ}

/-- The section has the offset `o`, with a mark or without. -/
def Marked (e : ℕ → U32) (i o : ℕ) : Prop :=
  ∃ offset mark : U32, (mark = 0 ∨ mark = initOffsetMask) ∧ offset.toNat = o ∧
    e i = offset ||| mark

theorem Marked.congr {e' : ℕ → U32} (h : Marked e i o) (heq : e' i = e i) : Marked e' i o := by
  obtain ⟨offset, mark, hmark, hoffset, hvalue⟩ := h
  exact ⟨offset, mark, hmark, hoffset, heq.trans hvalue⟩

theorem marked_update (e : ℕ → U32) (i : ℕ) (offset : U32) :
    Marked (update e i (offset ||| initOffsetMask)) i offset.toNat :=
  ⟨offset, initOffsetMask, Or.inr rfl, rfl, update_self _ _ _⟩

/-- **The offsets after `layout_sections`.** -/
theorem sectionOffsets_spec (halign : PowersOfTwo info) (hfits : placeEnd 0 (sectionBlocks info) < 2 ^ 31) :
    (sectionOffsets info).1.toNat = placeEnd 0 (sectionBlocks info) ∧
      List.Forall₂ (fun i x => Marked (sectionOffsets info).2 i x.2)
        (layoutOrder info false ++ layoutOrder info true) (place 0 (sectionBlocks info)) := by
  obtain ⟨hcore, hinit⟩ := sections_fit halign hfits
  obtain ⟨hend, -, hplaced⟩ := putAll_spec 0 0 (noOffsets info)
    (nodup_layoutOrder info false) (aligned_layoutOrder halign false) hcore
  rw [show (0 : U64).toNat = 0 from rfl] at hend hplaced
  rw [← hend] at hinit
  unfold sectionOffsets
  generalize putAll info 0 (layoutOrder info false) (0, noOffsets info) = st at hend hplaced hinit ⊢
  obtain ⟨n, e⟩ := st
  obtain ⟨hend', hframe, hplaced'⟩ := putAll_spec n initOffsetMask e
    (nodup_layoutOrder info true) (aligned_layoutOrder halign true) hinit
  rw [sectionBlocks_eq, placeEnd_append, place_append, ← hend]
  refine ⟨hend', List.rel_append ?_ ?_⟩
  · have hother : ∀ i ∈ layoutOrder info false, i ∉ layoutOrder info true := by
      intro i hi hi'
      have hfalse := (mem_layoutOrder.mp hi).2.1
      rw [(mem_layoutOrder.mp hi').2.1] at hfalse
      exact Bool.noConfusion hfalse
    refine ((List.forall₂_and_left _ _).mpr ⟨hother, hplaced⟩).imp fun i x hx => ?_
    obtain ⟨hnot, offset, hoffset, hvalue⟩ := hx
    exact ⟨offset, 0, Or.inl rfl, hoffset, (hframe i hnot).trans hvalue⟩
  · refine hplaced'.imp fun i x hx => ?_
    obtain ⟨offset, hoffset, hvalue⟩ := hx
    exact ⟨offset, initOffsetMask, Or.inr rfl, hoffset, hvalue⟩

theorem modify_withEntsize (info : LoadInfo) (e : ℕ → U32) (i : ℕ) :
    (withEntsize info e).modify i allocate = withEntsize (info.modify i allocate) e := by
  refine congrArg (fun sechdrs => { info with sechdrs := sechdrs }) (funext fun j => ?_)
  by_cases hj : j = i
  · subst hj
    simp [LoadInfo.modify, withEntsize, allocate]
  · simp [LoadInfo.modify, withEntsize, hj]

/-- **The symbols of the file.** -/
theorem layoutSymsect_eq (info : LoadInfo) (n : U64) (e : ℕ → U32) : layoutSymsect (layoutState info (n, e)) =
      layoutState (info.modify info.indexSym allocate)
        ((getOffset n (info.sechdrs info.indexSym)).2, update e info.indexSym
          ((getOffset n (info.sechdrs info.indexSym)).1 ||| initOffsetMask)) := by
  have hself : (info.modify info.indexSym allocate).sechdrs info.indexSym =
      allocate (info.sechdrs info.indexSym) := if_pos rfl
  have hput := layoutOne_layoutState (info.modify info.indexSym allocate) initOffsetMask (n, e)
    info.indexSym
  unfold putOne at hput
  rw [hself] at hput
  refine Eq.trans ?_ hput
  exact congrArg (fun info' => layoutOne initOffsetMask (n, info') info.indexSym)
    (modify_withEntsize info e info.indexSym)

theorem toNat_foldl_names (f : ℕ → ℕ) (l : List ℕ) (n : U32) (hfits : n.toNat + (l.map f).sum < 2 ^ 32) :
    (l.foldl (fun n i => n + BitVec.ofNat 32 (f i)) n).toNat = n.toNat + (l.map f).sum := by
  induction l generalizing n with
  | nil => rfl
  | cons i l ih =>
    rw [List.map_cons, List.sum_cons] at hfits ⊢
    have hstep : (n + BitVec.ofNat 32 (f i)).toNat = n.toNat + f i := by bv_omega
    rw [List.foldl_cons, ih _ (by omega), hstep, Nat.add_assoc]

theorem modify_allocate (info : LoadInfo) (j i : ℕ) :
    ((info.modify j allocate).sechdrs i).shSize = (info.sechdrs i).shSize ∧
      ((info.modify j allocate).sechdrs i).shAddralign = (info.sechdrs i).shAddralign := by
  by_cases hi : i = j
  · subst hi
    simp [LoadInfo.modify, allocate]
  · simp [LoadInfo.modify, hi]

theorem alignOf_congr {s s' : Elf32Shdr} (h : s'.shAddralign = s.shAddralign) : alignOf s' = alignOf s := by
  unfold alignOf
  rw [h]

def movedInfo (info : LoadInfo) (symoffs stroffs : U64) : LoadInfo :=
  { info.modify info.indexSym allocate with symoffs := symoffs, stroffs := stroffs }.modify
    info.indexStr allocate

theorem movedInfo_section (info : LoadInfo) (symoffs stroffs : U64) (i : ℕ) :
    ((movedInfo info symoffs stroffs).sechdrs i).shSize = (info.sechdrs i).shSize ∧
      ((movedInfo info symoffs stroffs).sechdrs i).shAddralign = (info.sechdrs i).shAddralign := by
  obtain ⟨hsize, halign⟩ := modify_allocate
    { info.modify info.indexSym allocate with symoffs := symoffs, stroffs := stroffs }
    info.indexStr i
  obtain ⟨hsize', halign'⟩ := modify_allocate info info.indexSym i
  exact ⟨hsize.trans hsize', halign.trans halign'⟩

/-- The size before the strings of the file are laid out. -/
def sizeOfCore (env : LoaderEnv) (info : LoadInfo) (size : U64) : U64 :=
  alignUp size (if (info.sechdrs info.indexSym).shAddralign = 0 then 1
      else (info.sechdrs info.indexSym).shAddralign.setWidth 64) +
    BitVec.ofNat 64 ((coreSymbols env info).length * sizeofElf32Sym) +
    ((coreSymbols env info).foldl (fun n i => n + BitVec.ofNat 32 (info.nameSize i)) (0 : U32)).setWidth
      64

/-- **The strings of the file.** -/
theorem layoutSymtab_eq (env : LoaderEnv) (info : LoadInfo) (st : U64 × LoadInfo) (n : U64) (e : ℕ → U32)
    (h : layoutSymsect st = layoutState (info.modify info.indexSym allocate) (n, e)) :
    ∃ symoffs stroffs, layoutSymtab env st = layoutState (movedInfo info symoffs stroffs)
      (putOne (movedInfo info symoffs stroffs) initOffsetMask
        (sizeOfCore env (layoutSymsect st).2 n, e) info.indexStr) := by
  unfold layoutSymtab
  rw [h]
  unfold layoutState
  have hstrings (symoffs stroffs : U64) := modify_withEntsize
    { info.modify info.indexSym allocate with symoffs := symoffs, stroffs := stroffs } e
    info.indexStr
  generalize hinfo : withEntsize (info.modify info.indexSym allocate) e = info'
  have hsechdrs : info' = withEntsize (info.modify info.indexSym allocate) e := hinfo.symm
  let symoffs := alignUp n (if (info'.sechdrs info'.indexSym).shAddralign = 0 then 1
    else (info'.sechdrs info'.indexSym).shAddralign.setWidth 64)
  let stroffs := symoffs + BitVec.ofNat 64 ((coreSymbols env info').length * sizeofElf32Sym)
  have hput := layoutOne_layoutState (movedInfo info symoffs stroffs) initOffsetMask
    (sizeOfCore env info' n, e) info.indexStr
  refine ⟨symoffs, stroffs, Eq.trans ?_ hput⟩
  have hmoved : { info' with symoffs := symoffs, stroffs := stroffs }.modify info'.indexStr allocate =
      withEntsize (movedInfo info symoffs stroffs) e := by
    rw [hsechdrs]
    exact hstrings symoffs stroffs
  have hstr : info'.indexStr = info.indexStr := by
    rw [hsechdrs]
    rfl
  rw [← hstr]
  exact congrArg (fun moved => layoutOne initOffsetMask (sizeOfCore env info' n, moved) info'.indexStr) hmoved

theorem toNat_sizeOfCore (env : LoaderEnv) (info : LoadInfo) (size : U64)
    (halign : ∃ k, alignOf (info.sechdrs info.indexSym) = 2 ^ k)
    (hfits : roundUp size.toNat (alignOf (info.sechdrs info.indexSym)) + coreSize env info < 2 ^ 31) :
    (sizeOfCore env info size).toNat =
      roundUp size.toNat (alignOf (info.sechdrs info.indexSym)) + coreSize env info := by
  have hround := toNat_alignUp_section size halign (by omega)
  unfold coreSize at hfits ⊢
  have hnames := toNat_foldl_names info.nameSize (coreSymbols env info) 0 (by
    change 0 + _ < _
    omega)
  unfold sizeOfCore
  generalize (coreSymbols env info).foldl (fun n i => n + BitVec.ofNat 32 (info.nameSize i))
    (0 : U32) = names at *
  generalize alignUp size _ = x at *
  generalize ((coreSymbols env info).map info.nameSize).sum = sum at *
  generalize (coreSymbols env info).length * sizeofElf32Sym = symbols at *
  generalize roundUp size.toNat (alignOf (info.sechdrs info.indexSym)) = start at *
  bv_omega

theorem owner_sectionBlock {j : ℕ} (h : (sectionBlock info j).owner = some i) :
    ¬ (i = info.indexSym ∨ i = info.indexStr) ∧ j = i := by
  unfold sectionBlock blockOf at h
  split at h
  case isTrue => cases h
  case isFalse hne =>
    cases h
    exact ⟨hne, rfl⟩

theorem blocks_eq (info : LoadInfo) (core : ℕ) : blocks info core = sectionBlocks info ++
    [blockOf info (if info.indexSym = info.indexStr then none else some info.indexSym) info.indexSym,
      ⟨none, alignOf (info.sechdrs info.indexSym), core⟩,
      blockOf info (if info.indexStr < info.shnum then some info.indexStr else none) info.indexStr] := rfl

theorem twoPowers_blocks (halign : PowersOfTwo info) (hsym : info.indexSym < info.shnum)
    (core : ℕ) : TwoPowers (blocks info core) := by
  intro b hb
  rcases List.mem_append.mp hb with hb | hb
  · obtain ⟨i, hi, rfl⟩ := List.mem_map.mp hb
    have hlt : i < info.shnum := by
      rcases List.mem_append.mp hi with hi | hi
      · exact (mem_layoutOrder.mp hi).1
      · exact (mem_layoutOrder.mp hi).1
    exact halign i (Or.inl hlt)
  simp only [List.mem_cons, List.not_mem_nil, or_false] at hb
  rcases hb with rfl | rfl | rfl
  · exact halign info.indexSym (Or.inl hsym)
  · exact halign info.indexSym (Or.inl hsym)
  · exact halign info.indexStr (Or.inr rfl)

/-- **The state of the loader before the module is moved.** -/
theorem layout_spec (halign : PowersOfTwo info) (hsym : info.indexSym < info.shnum)
    (htotal : totalSize env info < 2 ^ 31) : ∃ symoffs stroffs e size, layoutSymtab env (layoutSections (0, info)) =
        layoutState (movedInfo info symoffs stroffs) (size, e) ∧ size.toNat = totalSize env info ∧
      (layoutSymsect (layoutSections (0, info))).2.nsrc = info.nsrc ∧
      ∀ x ∈ place 0 (blocks info (coreSize env (layoutSymsect (layoutSections (0, info))).2)),
        ∀ i, x.1.owner = some i → Marked e i x.2 := by
  have hsymPos := align_pos (halign info.indexSym (Or.inl hsym))
  have hstrPos := align_pos (halign info.indexStr (Or.inr rfl))
  unfold totalSize at htotal ⊢
  generalize hcore : coreSize env (layoutSymsect (layoutSections (0, info))).2 = core at htotal ⊢
  rw [blocks_eq, placeEnd_append] at htotal ⊢
  rw [place_append]
  have hsections : placeEnd 0 (sectionBlocks info) < 2 ^ 31 := by
    refine lt_of_le_of_lt (le_placeEnd fun b hb => ?_) htotal
    exact (twoPowers_blocks halign hsym core).pos b (List.mem_append_right _ hb)
  rw [layoutSections_eq halign hsections] at hcore ⊢
  obtain ⟨hend, hplaced⟩ := sectionOffsets_spec halign hsections
  generalize sectionOffsets info = st at hend hplaced hcore ⊢
  obtain ⟨n, e⟩ := st
  rw [← hend] at htotal ⊢
  -- the symbols of the file, the room for the core symbols, and the strings of the file
  have hroom := le_roundUp (roundUp n.toNat (alignOf (info.sechdrs info.indexSym)) +
    (info.sechdrs info.indexSym).shSize.toNat) hsymPos
  have hlast := le_roundUp (roundUp (roundUp n.toNat (alignOf (info.sechdrs info.indexSym)) +
    (info.sechdrs info.indexSym).shSize.toNat) (alignOf (info.sechdrs info.indexSym)) + core)
    hstrPos
  have hfits : roundUp (roundUp (roundUp n.toNat (alignOf (info.sechdrs info.indexSym)) +
      (info.sechdrs info.indexSym).shSize.toNat) (alignOf (info.sechdrs info.indexSym)) + core)
      (alignOf (info.sechdrs info.indexStr)) + (info.sechdrs info.indexStr).shSize.toNat <
        2 ^ 31 := htotal
  obtain ⟨hsymOffset, hsymSize⟩ := getOffset_spec n (halign info.indexSym (Or.inl hsym))
    (by omega)
  have hsect := layoutSymsect_eq info n e
  obtain ⟨symoffs, stroffs, hlayout⟩ := layoutSymtab_eq env info _ _ _ hsect
  generalize getOffset n (info.sechdrs info.indexSym) = r at hsymOffset hsymSize hsect hlayout
  obtain ⟨symOffset, n2⟩ := r
  have halignSym : alignOf ((layoutSymsect (layoutState info (n, e))).2.sechdrs
      (layoutSymsect (layoutState info (n, e))).2.indexSym) =
        alignOf (info.sechdrs info.indexSym) := by
    rw [hsect]
    exact alignOf_congr (modify_allocate info info.indexSym info.indexSym).2
  have hcoreEnd := toNat_sizeOfCore env (layoutSymsect (layoutState info (n, e))).2 n2
    (by rw [halignSym]; exact halign info.indexSym (Or.inl hsym))
    (by rw [halignSym, hsymSize, hcore]; omega)
  rw [halignSym, hsymSize, hcore] at hcoreEnd
  generalize sizeOfCore env (layoutSymsect (layoutState info (n, e))).2 n2 = n3 at hcoreEnd hlayout
  obtain ⟨hstrSize, hstrAlign⟩ := movedInfo_section info symoffs stroffs info.indexStr
  have hstrAlign := alignOf_congr hstrAlign
  obtain ⟨hstrOffset, hend'⟩ := getOffset_spec n3
    (s := (movedInfo info symoffs stroffs).sechdrs info.indexStr)
    (by rw [hstrAlign]; exact halign info.indexStr (Or.inr rfl))
    (by rw [hstrAlign, hstrSize, hcoreEnd]; exact hfits)
  rw [hstrAlign, hcoreEnd] at hstrOffset
  rw [hstrAlign, hstrSize, hcoreEnd] at hend'
  unfold putOne at hlayout
  generalize getOffset n3 ((movedInfo info symoffs stroffs).sechdrs info.indexStr) = r' at *
  obtain ⟨strOffset, n4⟩ := r'
  dsimp only at hstrOffset hend' hlayout
  have hnsrc : (layoutSymsect (layoutState info (n, e))).2.nsrc = info.nsrc := by
    rw [hsect]
    exact congrArg (fun size : U32 => size.toNat / sizeofElf32Sym)
      (modify_allocate info info.indexSym info.indexSym).1
  refine ⟨symoffs, stroffs, _, n4, hlayout, hend', hnsrc, fun x hx i hi => ?_⟩
  rcases List.mem_append.mp hx with hx | hx
  · obtain ⟨k, hk, rfl⟩ := List.getElem_of_mem hx
    have hk' : k < (layoutOrder info false ++ layoutOrder info true).length :=
      hplaced.length_eq ▸ hk
    have hmarked := hplaced.get hk' hk
    have hblock := (forall₂_place (sectionBlock info) 0 _).get hk' hk
    obtain ⟨hne, hindex⟩ := owner_sectionBlock (hblock ▸ hi)
    rw [hindex] at hmarked
    obtain ⟨hsymNe, hstrNe⟩ := not_or.mp hne
    refine hmarked.congr ?_
    rw [update_of_ne hstrNe, update_of_ne hsymNe]
  simp only [place, List.mem_cons, List.not_mem_nil, or_false] at hx
  rcases hx with rfl | rfl | rfl
  · split at hi
    case isTrue => cases hi
    case isFalse hne =>
      cases hi
      have hmarked := marked_update e info.indexSym symOffset
      rw [hsymOffset] at hmarked
      exact hmarked.congr (update_of_ne hne _ _)
  · cases hi
  · split at hi
    case isTrue =>
      cases hi
      have hmarked := marked_update
        (update e info.indexSym (symOffset ||| initOffsetMask)) info.indexStr strOffset
      rw [hstrOffset] at hmarked
      exact hmarked
    case isFalse => cases hi

end

section

variable {info : LoadInfo} {i : ℕ}

/-- The section headers of the module when the sections before `k` are copied. -/
def movedTo (info : LoadInfo) (k : ℕ) : LoadInfo :=
  { info with sechdrs := fun i =>
      if i < k ∧ (info.sechdrs i).shFlags &&& shfAlloc ≠ 0 then
        { info.sechdrs i with shAddr := destOf (info.sechdrs i) }
      else info.sechdrs i }

/-- **The loop of `move_module`.** -/
theorem moveSections_eq (mod : AdspModule) (info : LoadInfo) (k : ℕ) :
    ((List.range k).foldl moveSection (mod, info)).1.size = mod.size ∧
      ((List.range k).foldl moveSection (mod, info)).2 = movedTo info k := by
  induction k with
  | zero =>
    refine ⟨rfl, ?_⟩
    refine congrArg (fun sechdrs => { info with sechdrs := sechdrs }) (funext fun i => ?_)
    exact (if_neg fun h => Nat.not_lt_zero i h.1).symm
  | succ k ih =>
    rw [List.range_succ, List.foldl_append]
    generalize (List.range k).foldl moveSection (mod, info) = st at ih ⊢
    obtain ⟨mod', info'⟩ := st
    obtain ⟨hsize, hinfo⟩ := ih
    subst hinfo
    have hself : (movedTo info k).sechdrs k = info.sechdrs k := if_neg fun h => Nat.lt_irrefl k h.1
    rw [List.foldl_cons, List.foldl_nil]
    unfold moveSection
    dsimp only
    rw [hself]
    split
    case isTrue hflags =>
      refine ⟨hsize, ?_⟩
      refine congrArg (fun sechdrs => { info with sechdrs := sechdrs }) (funext fun i => ?_)
      by_cases hi : i = k
      · subst hi
        rw [if_neg fun h => Nat.lt_irrefl i h.1, if_neg fun h => h.2 hflags]
      · have hlt : i < k + 1 ↔ i < k := by omega
        simp only [hlt]
    case isFalse hflags =>
      refine ⟨hsize, ?_⟩
      refine congrArg (fun sechdrs => { info with sechdrs := sechdrs }) (funext fun i => ?_)
      by_cases hi : i = k
      · subst hi
        rw [if_pos rfl, hself, if_pos ⟨Nat.lt_succ_self i, hflags⟩]
      have hlt : i < k + 1 ↔ i < k := by omega
      rw [if_neg hi]
      simp only [hlt]
      rfl

theorem block_of_owner {core : ℕ} {b : Block ℕ} (hsym : info.indexSym < info.shnum)
    (hb : b ∈ blocks info core) (hi : b.owner = some i) :
    b.align = alignOf (info.sechdrs i) ∧ b.size = (info.sechdrs i).shSize.toNat ∧
      i < info.shnum ∧ (i = info.indexSym ∨ i = info.indexStr ∨ (info.sechdrs i).shFlags &&& shfAlloc ≠ 0) := by
  rcases List.mem_append.mp hb with hb | hb
  · obtain ⟨j, hj, rfl⟩ := List.mem_map.mp hb
    obtain ⟨-, rfl⟩ := owner_sectionBlock hi
    have horder : j < info.shnum ∧ ∃ mask ∈ masks, hasFlags mask (info.sechdrs j) = true := by
      rcases List.mem_append.mp hj with hj | hj
      · exact ⟨(mem_layoutOrder.mp hj).1, (mem_layoutOrder.mp hj).2.2⟩
      · exact ⟨(mem_layoutOrder.mp hj).1, (mem_layoutOrder.mp hj).2.2⟩
    exact ⟨rfl, rfl, horder.1, Or.inr (Or.inr ((exists_mask_iff _).mp horder.2))⟩
  simp only [List.mem_cons, List.not_mem_nil, or_false] at hb
  rcases hb with rfl | rfl | rfl
  · split at hi
    case isTrue => cases hi
    case isFalse =>
      cases hi
      exact ⟨rfl, rfl, hsym, Or.inl rfl⟩
  · cases hi
  · split at hi
    case isTrue hstr =>
      cases hi
      exact ⟨rfl, rfl, hstr, Or.inr (Or.inl rfl)⟩
    case isFalse => cases hi

theorem exists_block (core : ℕ) (hi : i < info.shnum) (halloc : i = info.indexSym ∨
    i = info.indexStr ∨ (info.sechdrs i).shFlags &&& shfAlloc ≠ 0) : ∃ b ∈ blocks info core, b.owner = some i := by
  by_cases hstr : i = info.indexStr
  · subst hstr
    exact ⟨_, List.mem_append_right _ (List.mem_cons_of_mem _ (List.mem_cons_of_mem _
      List.mem_cons_self)), if_pos hi⟩
  by_cases hsym : i = info.indexSym
  · subst hsym
    exact ⟨_, List.mem_append_right _ List.mem_cons_self, if_neg hstr⟩
  have hflags := (halloc.resolve_left hsym).resolve_left hstr
  have hmask := (exists_mask_iff _).mpr hflags
  refine ⟨sectionBlock info i, List.mem_append_left _ (List.mem_map_of_mem ?_),
    if_neg (not_or.mpr ⟨hsym, hstr⟩)⟩
  cases hinit : info.isInit i with
  | false => exact List.mem_append_left _ (mem_layoutOrder.mpr ⟨hi, hinit, hmask⟩)
  | true => exact List.mem_append_right _ (mem_layoutOrder.mpr ⟨hi, hinit, hmask⟩)

theorem owners_distinct (info : LoadInfo) (core : ℕ) : (blocks info core).Pairwise
    fun b b' => ∀ i, b.owner = some i → b'.owner ≠ some i := by
  have horder : (layoutOrder info false ++ layoutOrder info true).Nodup := by
    refine List.nodup_append'.mpr ⟨nodup_layoutOrder info false, nodup_layoutOrder info true,
      fun i hi hi' => ?_⟩
    have hfalse := (mem_layoutOrder.mp hi).2.1
    rw [(mem_layoutOrder.mp hi').2.1] at hfalse
    exact Bool.noConfusion hfalse
  refine List.pairwise_append.mpr ⟨List.pairwise_map.mpr (horder.imp ?_), ?_, ?_⟩
  · intro j j' hne i hi hi'
    exact hne ((owner_sectionBlock hi).2.trans (owner_sectionBlock hi').2.symm)
  · simp only [List.pairwise_cons, List.mem_cons, List.not_mem_nil, or_false]
    refine ⟨?_, ?_, ?_, List.Pairwise.nil⟩
    · rintro b (rfl | rfl) i hi hi'
      · cases hi'
      · split at hi
        case isTrue => cases hi
        case isFalse hne =>
          split at hi'
          case isTrue => exact hne ((Option.some.inj hi).trans (Option.some.inj hi').symm)
          case isFalse => cases hi'
    · rintro b rfl i hi
      cases hi
    · exact fun b hb => absurd hb id
  · intro b hb b' hb' i hi hi'
    obtain ⟨j, -, rfl⟩ := List.mem_map.mp hb
    obtain ⟨hne, -⟩ := owner_sectionBlock hi
    simp only [List.mem_cons, List.not_mem_nil, or_false] at hb'
    rcases hb' with rfl | rfl | rfl
    · split at hi'
      case isTrue => cases hi'
      case isFalse => exact hne (Or.inl (Option.some.inj hi').symm)
    · cases hi'
    · split at hi'
      case isTrue => exact hne (Or.inr (Option.some.inj hi').symm)
      case isFalse => cases hi'

theorem movedInfo_alloc (info : LoadInfo) (symoffs stroffs : U64) (i : ℕ) :
    ((movedInfo info symoffs stroffs).sechdrs i).shFlags &&& shfAlloc ≠ 0 ↔
      i = info.indexSym ∨ i = info.indexStr ∨ (info.sechdrs i).shFlags &&& shfAlloc ≠ 0 := by
  by_cases hstr : i = info.indexStr
  · have hself : (movedInfo info symoffs stroffs).sechdrs i = allocate
        ((info.modify info.indexSym allocate).sechdrs info.indexStr) := if_pos hstr
    rw [hself]
    exact ⟨fun _ => Or.inr (Or.inl hstr), fun _ => allocate_flags _⟩
  have hother : (movedInfo info symoffs stroffs).sechdrs i =
      (info.modify info.indexSym allocate).sechdrs i := if_neg hstr
  rw [hother]
  by_cases hsym : i = info.indexSym
  · have hself : (info.modify info.indexSym allocate).sechdrs i =
        allocate (info.sechdrs info.indexSym) := if_pos hsym
    rw [hself]
    exact ⟨fun _ => Or.inl hsym, fun _ => allocate_flags _⟩
  · have hsame : (info.modify info.indexSym allocate).sechdrs i = info.sechdrs i := if_neg hsym
    rw [hsame]
    exact ⟨fun h => Or.inr (Or.inr h), fun h => (h.resolve_left hsym).resolve_left hstr⟩

theorem moved_spec (hsym : info.indexSym < info.shnum) (core : ℕ) (symoffs stroffs : U64) (e : ℕ → U32)
    (hmarked : ∀ x ∈ place 0 (blocks info core), ∀ i, x.1.owner = some i → Marked e i x.2) :
    Moved (movedTo (withEntsize (movedInfo info symoffs stroffs) e) info.shnum) (place 0 (blocks info core)) := by
  have halloc (i : ℕ) : IsAlloc (movedTo (withEntsize (movedInfo info symoffs stroffs) e)
      info.shnum) i ↔ i < info.shnum ∧ (i = info.indexSym ∨ i = info.indexStr ∨
        (info.sechdrs i).shFlags &&& shfAlloc ≠ 0) := by
    refine and_congr_right fun hi => ?_
    rw [← movedInfo_alloc info symoffs stroffs i]
    unfold movedTo
    dsimp only
    split
    case isTrue => exact Iff.rfl
    case isFalse => exact Iff.rfl
  have hsection (i : ℕ) (hi : IsAlloc (movedTo (withEntsize (movedInfo info symoffs stroffs) e)
      info.shnum) i) : (movedTo (withEntsize (movedInfo info symoffs stroffs) e) info.shnum).sechdrs i =
      { (withEntsize (movedInfo info symoffs stroffs) e).sechdrs i with
        shAddr := destOf ((withEntsize (movedInfo info symoffs stroffs) e).sechdrs i) } := by
    refine if_pos ⟨hi.1, ?_⟩
    exact (movedInfo_alloc info symoffs stroffs i).mpr ((halloc i).mp hi).2
  have howner (x : Block ℕ × ℕ) (hx : x ∈ place 0 (blocks info core)) (i : ℕ)
      (hi : x.1.owner = some i) := block_of_owner hsym (mem_of_mem_place hx) hi
  have hown (x : Block ℕ × ℕ) (hx : x ∈ place 0 (blocks info core)) (i : ℕ)
      (hi : x.1.owner = some i) := (halloc i).mpr (howner x hx i hi).2.2
  refine ⟨hown, fun x hx i hi => ?_, fun x hx i hi => ?_, fun x hx i hi => ?_, fun i hi => ?_, ?_⟩
  · obtain ⟨offset, mark, hmark, hoffset, hvalue⟩ := hmarked x hx i hi
    rw [hsection i (hown x hx i hi), ← hoffset]
    exact toNat_destOf hmark hvalue
  · rw [hsection i (hown x hx i hi), (howner x hx i hi).2.1]
    exact congrArg BitVec.toNat (movedInfo_section info symoffs stroffs i).1
  · rw [hsection i (hown x hx i hi), (howner x hx i hi).1]
    exact alignOf_congr (movedInfo_section info symoffs stroffs i).2
  · obtain ⟨hlt, hflags⟩ := (halloc i).mp hi
    obtain ⟨b, hb, hbi⟩ := exists_block core hlt hflags
    rw [← map_fst_place 0 (blocks info core)] at hb
    obtain ⟨x, hx, rfl⟩ := List.mem_map.mp hb
    exact ⟨x, hx, hbi⟩
  · have hdistinct := owners_distinct info core
    rw [← map_fst_place 0 (blocks info core)] at hdistinct
    exact List.pairwise_map.mp hdistinct

end

section

variable {env : LoaderEnv} {info info' : LoadInfo} {mod : AdspModule} {memory : List U8} {len : U64}

theorem slips_core {l : List (Block ℕ)} {a b : Block ℕ} {align core core' n : ℕ} (hcore : core = 0 ↔ core' = 0) :
    Slips n (l ++ [a, ⟨none, align, core⟩, b]) ↔ Slips n (l ++ [a, ⟨none, align, core'⟩, b]) := by
  have hfollows (l : List (Block ℕ)) : Follows (l ++ [a, ⟨none, align, core⟩, b]) ↔
      Follows (l ++ [a, ⟨none, align, core'⟩, b]) := by
    induction l with
    | nil => simp [Follows, hcore]
    | cons c l ih => simp only [List.cons_append, Follows, ih]
  induction l generalizing n with
  | nil => simp [Slips, Follows, hcore]
  | cons c l ih => simp only [List.cons_append, Slips, hfollows, ih]

theorem coreSize_eq_zero : coreSize env info = 0 ↔ info.nsrc = 0 := by
  constructor
  · intro hzero
    by_contra hne
    have hmem : 0 ∈ coreSymbols env info :=
      List.mem_filter.mpr ⟨List.mem_range.mpr (Nat.pos_of_ne_zero hne), rfl⟩
    have hpos := List.length_pos_of_mem hmem
    unfold coreSize sizeofElf32Sym at hzero
    omega
  · intro hzero
    unfold coreSize coreSymbols
    rw [hzero]
    rfl

theorem indexSym_lt {info₀ : LoadInfo} (h : setupLoadInfo env info₀ = .ok info) : info.indexSym < info.shnum := by
  obtain ⟨info1, -, h⟩ := bind_eq_ok.mp h
  obtain ⟨-, -, h⟩ := bind_eq_ok.mp h
  split at h
  case h_1 => cases h
  case h_2 i hfind =>
    cases h
    have hmem := List.mem_of_find?_eq_some hfind
    rw [List.mem_range'_1] at hmem
    change i < info1.shnum
    omega

def le16 (x : U16) : List U8 := [x.setWidth 8, (x >>> 8).setWidth 8]

def le32 (x : U32) : List U8 := le16 (x.setWidth 16) ++ le16 ((x >>> 16).setWidth 16)

def shdrBytes (s : Elf32Shdr) : List U8 :=
  [s.shName, s.shType, s.shFlags, s.shAddr, s.shOffset, s.shSize, s.shLink, s.shInfo,
    s.shAddralign, s.shEntsize].flatMap le32

/-- A file of section headers, of which the last is for the names, and a byte for these. -/
def sampleFile (sections : List Elf32Shdr) : List U8 :=
  elfMag ++ List.replicate 12 0 ++ [etRel, emArm].flatMap le16 ++
    [1, 0, 0, 52, 0x05000000].flatMap le32 ++
    [52, 0, 0, 40, BitVec.ofNat 16 sections.length, BitVec.ofNat 16 (sections.length - 1)].flatMap le16 ++
    sections.flatMap shdrBytes ++ [0]

/-- Two sections for data, of `n` bytes and of 4, without alignment, and no symbols. -/
def sampleSections (n : U32) : List Elf32Shdr :=
  [⟨0, 0, 0, 0, 0, 0, 0, 0, 0, 0⟩, ⟨0, shtNobits, 3, 0, 0, n, 0, 0, 1, 0⟩,
    ⟨0, shtNobits, 3, 0, 0, 4, 0, 0, 1, 0⟩, ⟨0, shtSymtab, 0, 0, 0, 0, 4, 0, 4, 0⟩,
    ⟨0, 3, 0, 0, 252, 1, 0, 0, 1, 0⟩]

def sampleEnv : LoaderEnv := ⟨hwcapThumb, false, true, fun _ => some 0x1000, fun _ => 0⟩

theorem ok_of_toOption {α β : Type} {x : Except ℤ α} {f : α → β} {b : β}
    (h : x.toOption.map f = some b) : ∃ a, x = .ok a ∧ f a = b := by
  cases x with
  | error => cases h
  | ok a => exact ⟨a, rfl, Option.some.inj h⟩

/-- What is checked of a file: the sections, where the strings are, the alignments, the size and
whether the layout slips. -/
def summary (info : LoadInfo) : ℕ × ℕ × List ℕ × ℕ × Bool :=
  (info.shnum, info.indexStr, (List.range 5).map fun i => alignOf (info.sechdrs i),
    totalSize sampleEnv info, decide (Slips 0 (blocks info info.nsrc)))

theorem powersOfTwo_of_summary {size : ℕ} {slips : Bool}
    (h : summary info = (5, 4, [1, 1, 1, 4, 1], size, slips)) : PowersOfTwo info := by
  obtain ⟨hshnum, h⟩ := Prod.mk.inj h
  obtain ⟨hstr, h⟩ := Prod.mk.inj h
  obtain ⟨haligns, -⟩ := Prod.mk.inj h
  intro i hi
  have hlt : i < 5 := by omega
  have hvalue : alignOf (info.sechdrs i) = [1, 1, 1, 4, 1].getD i 0 := by
    rw [← haligns, List.getD_eq_getElem?_getD, List.getElem?_map, List.getElem?_range hlt]
    rfl
  have hall : ∀ i < 5, [1, 1, 1, 4, 1].getD i 0 = 2 ^ (if i = 3 then 2 else 0) := by decide
  exact ⟨_, hvalue.trans (hall i hlt)⟩

end

end NvidiaOot.Analysis
