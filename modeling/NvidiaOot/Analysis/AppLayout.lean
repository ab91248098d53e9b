import NvidiaOot.Library.BitFields
import NvidiaOot.Model.AppLayout

/-!
# The layout that the loader computes

`putAll` puts the sections of a list one after another.  The double loops of `layout_sections` do
this in the order of `layoutOrder`, and while the module is smaller than `2 ^ 31` bytes the
offsets are those of `place`.
-/

namespace NvidiaOot.Analysis

open Library Program Model Function

theorem toNat_alignUp {x a : U64} {k : ℕ} (ha : a.toNat = 2 ^ k)
    (hx : x.toNat + 2 ^ k ≤ 2 ^ 64) : (alignUp x a).toNat = roundUp x.toNat (2 ^ k) := by
  have hpos : 0 < 2 ^ k := Nat.two_pow_pos k
  have hmask : (a - 1).toNat = 2 ^ k - 1 := by bv_omega
  have hsum : (x + (a - 1)).toNat = x.toNat + (2 ^ k - 1) := by bv_omega
  unfold alignUp roundUp
  rw [toNat_and_not _ hmask, hsum]

/-- The next offset with the alignment of a section, when the module stays small. -/
theorem toNat_alignUp_section (size : U64) {s : Elf32Shdr} (halign : ∃ k, alignOf s = 2 ^ k)
    (hfits : roundUp size.toNat (alignOf s) < 2 ^ 31) :
    (alignUp size (if s.shAddralign = 0 then 1 else s.shAddralign.setWidth 64)).toNat =
      roundUp size.toNat (alignOf s) := by
  obtain ⟨k, hk⟩ := halign
  have hwidth : (if s.shAddralign = 0 then 1 else s.shAddralign.setWidth 64 : U64).toNat =
      alignOf s := by
    unfold alignOf
    split
    case isTrue => rfl
    case isFalse => bv_omega
  have hbound : alignOf s < 2 ^ 32 := by
    unfold alignOf
    split
    case isTrue => decide
    case isFalse => exact s.shAddralign.isLt
  have hle := le_roundUp size.toNat (a := alignOf s) (by rw [hk]; exact Nat.two_pow_pos k)
  rw [hk] at hwidth hbound hle hfits ⊢
  exact toNat_alignUp hwidth (by omega)

/-- **The offset for a section.** -/
theorem getOffset_spec (size : U64) {s : Elf32Shdr} (halign : ∃ k, alignOf s = 2 ^ k)
    (hfits : roundUp size.toNat (alignOf s) + s.shSize.toNat < 2 ^ 31) :
    (getOffset size s).1.toNat = roundUp size.toNat (alignOf s) ∧
      (getOffset size s).2.toNat = roundUp size.toNat (alignOf s) + s.shSize.toNat := by
  have hround := toNat_alignUp_section size halign (by omega)
  unfold getOffset
  generalize alignUp size (if s.shAddralign = 0 then 1 else s.shAddralign.setWidth 64) = x at *
  generalize roundUp size.toNat (alignOf s) = offset at *
  constructor
  · bv_omega
  · bv_omega

/-- The place of a section that is at the offset `o`: the byte before when that is odd. -/
def shift (o : ℕ) : ℕ := o - o % 2

/-- **What the mark makes of an offset.** -/
theorem toNat_destOf {s : Elf32Shdr} {o mark : U32} (hmark : mark = 0 ∨ mark = initOffsetMask)
    (hs : s.shEntsize = o ||| mark) : (destOf s).toNat = shift o.toNat := by
  have hclear (x : U32) : (x &&& ~~~initOffsetMask).toNat = shift x.toNat := by
    rw [toNat_and_not (k := 1) x rfl]
    unfold shift
    omega
  have hlow (x : U32) : x &&& initOffsetMask = 0 ↔ x.toNat % 2 = 0 := by
    rw [← BitVec.toNat_inj, BitVec.toNat_and]
    change x.toNat &&& 1 = 0 ↔ _
    rw [Nat.and_one_is_mod]
  unfold destOf
  rw [hs]
  rcases hmark with rfl | rfl
  · rw [show o ||| 0 = o from BitVec.or_zero]
    split
    case isTrue => exact hclear o
    case isFalse heven =>
      have hzero := (hlow o).mp (not_not.mp heven)
      unfold shift
      omega
  have hor : (o ||| initOffsetMask).toNat / 2 = o.toNat / 2 := by
    rw [BitVec.toNat_or, Nat.or_div_two]
    exact Nat.or_zero _
  have hodd : (o ||| initOffsetMask).toNat % 2 = 1 := by
    rw [BitVec.toNat_or]
    rw [Nat.or_mod_two_eq_one]
    exact Or.inr rfl
  rw [if_pos (fun hzero => by
    have heven := (hlow _).mp hzero
    omega), hclear]
  unfold shift
  omega

section

variable {info : LoadInfo} {n : U64} {e : ℕ → U32} {mark : U32} {o : List ℕ}

/-- The section headers with other values of `sh_entsize`. -/
def withEntsize (info : LoadInfo) (e : ℕ → U32) : LoadInfo :=
  { info with sechdrs := fun i => { info.sechdrs i with shEntsize := e i } }

def putOne (info : LoadInfo) (mark : U32) (st : U64 × (ℕ → U32)) (i : ℕ) : U64 × (ℕ → U32) :=
  ((getOffset st.1 (info.sechdrs i)).2,
    update st.2 i ((getOffset st.1 (info.sechdrs i)).1 ||| mark))

/-- The sections of a list are given the next offsets. -/
def putAll (info : LoadInfo) (mark : U32) (o : List ℕ) (st : U64 × (ℕ → U32)) :
    U64 × (ℕ → U32) := o.foldl (putOne info mark) st

/-- The state of the loader, from what is left to say about it. -/
def layoutState (info : LoadInfo) (st : U64 × (ℕ → U32)) : U64 × LoadInfo :=
  (st.1, withEntsize info st.2)

theorem layoutOne_layoutState (info : LoadInfo) (mark : U32) (st : U64 × (ℕ → U32)) (i : ℕ) :
    layoutOne mark (layoutState info st) i = layoutState info (putOne info mark st i) := by
  refine Prod.ext rfl ?_
  refine congrArg (fun sechdrs => { info with sechdrs := sechdrs }) (funext fun j => ?_)
  by_cases hj : j = i
  · subst hj
    have hput : (putOne info mark st j).2 j = (getOffset st.1 (info.sechdrs j)).1 ||| mark :=
      update_self _ _ _
    rw [if_pos rfl, hput]
    rfl
  · simp [layoutState, withEntsize, putOne, hj]

/-- A loop that changes only what it takes up takes up what it would at the start. -/
theorem foldl_ite_frame {σ α : Type} {c : σ → α → Prop} [∀ s a, Decidable (c s a)] {p : α → Bool}
    {f : σ → α → σ} (hframe : ∀ s a b, b ≠ a → (c (f s a) b ↔ c s b)) {l : List α}
    (hnodup : l.Nodup) {s : σ} (hp : ∀ a ∈ l, c s a ↔ p a = true) :
    l.foldl (fun s a => if c s a then f s a else s) s = (l.filter p).foldl f s := by
  induction l generalizing s with
  | nil => rfl
  | cons a l ih =>
    obtain ⟨ha, hnodup⟩ := List.nodup_cons.mp hnodup
    have hfirst := hp a List.mem_cons_self
    rw [List.foldl_cons]
    split_ifs with hc
    · rw [List.filter_cons_of_pos (hfirst.mp hc), List.foldl_cons]
      apply ih hnodup
      intro b hb
      have hne : b ≠ a := fun heq => ha (heq ▸ hb)
      exact (hframe s a b hne).trans (hp b (List.mem_cons_of_mem a hb))
    · rw [List.filter_cons_of_neg fun htrue => hc (hfirst.mpr htrue)]
      exact ih hnodup fun b hb => hp b (List.mem_cons_of_mem a hb)

def Aligned (info : LoadInfo) (o : List ℕ) : Prop := ∀ i ∈ o, ∃ k, alignOf (info.sechdrs i) = 2 ^ k

theorem align_pos {i : ℕ} (h : ∃ k, alignOf (info.sechdrs i) = 2 ^ k) : 0 < alignOf (info.sechdrs i) := by
  obtain ⟨k, hk⟩ := h
  rw [hk]
  exact Nat.two_pow_pos k

theorem aligned_blocks (h : Aligned info o) : ∀ b ∈ o.map (sectionBlock info), 0 < b.align := by
  intro b hb
  obtain ⟨i, hi, rfl⟩ := List.mem_map.mp hb
  exact align_pos (h i hi)

/--
**The sections of a list are put where `place` says.**  The other sections keep what they have.
-/
theorem putAll_spec (n : U64) (mark : U32) (e : ℕ → U32) (hnodup : o.Nodup) (halign : Aligned info o)
    (hfits : placeEnd n.toNat (o.map (sectionBlock info)) < 2 ^ 31) :
    (putAll info mark o (n, e)).1.toNat = placeEnd n.toNat (o.map (sectionBlock info)) ∧
      (∀ i ∉ o, (putAll info mark o (n, e)).2 i = e i) ∧
      List.Forall₂ (fun i x => ∃ offset : U32, offset.toNat = x.2 ∧
          (putAll info mark o (n, e)).2 i = offset ||| mark) o (place n.toNat (o.map (sectionBlock info))) := by
  induction o generalizing n e with
  | nil => exact ⟨rfl, fun _ _ => rfl, .nil⟩
  | cons i o ih =>
    obtain ⟨hi, hnodup⟩ := List.nodup_cons.mp hnodup
    have halign' : Aligned info o := fun j hj => halign j (List.mem_cons_of_mem i hj)
    have hrest : roundUp n.toNat (alignOf (info.sechdrs i)) + (info.sechdrs i).shSize.toNat <
        2 ^ 31 := lt_of_le_of_lt (le_placeEnd (aligned_blocks halign')) hfits
    obtain ⟨hoffset, hsize⟩ := getOffset_spec n (halign i List.mem_cons_self) hrest
    have hfits' : placeEnd (getOffset n (info.sechdrs i)).2.toNat (o.map (sectionBlock info)) <
        2 ^ 31 := by
      rw [hsize]
      exact hfits
    obtain ⟨hend, hframe, hplaced⟩ := ih (getOffset n (info.sechdrs i)).2 (update e i
      ((getOffset n (info.sechdrs i)).1 ||| mark)) hnodup halign' hfits'
    rw [hsize] at hend hplaced
    refine ⟨hend, fun j hj => ?_, .cons ⟨(getOffset n (info.sechdrs i)).1, hoffset, ?_⟩ hplaced⟩
    · obtain ⟨hne, hj⟩ := not_or.mp (List.mem_cons.not.mp hj)
      exact (hframe j hj).trans (update_of_ne hne _ _)
    · exact (hframe i hi).trans (update_self _ _ _)

theorem small_offset {x : Block ℕ × ℕ} (halign : Aligned info o)
    (hfits : placeEnd n.toNat (o.map (sectionBlock info)) < 2 ^ 31)
    (hx : x ∈ place n.toNat (o.map (sectionBlock info))) : x.2 < 2 ^ 31 := by
  have hbounds := (place_bounds (aligned_blocks halign) hx).2
  omega

theorem putAll_ne (hmark : mark = 0 ∨ mark = initOffsetMask) (hnodup : o.Nodup)
    (halign : Aligned info o) (hfits : placeEnd n.toNat (o.map (sectionBlock info)) < 2 ^ 31)
    {i : ℕ} (hi : i ∈ o) : (putAll info mark o (n, e)).2 i ≠ ~~~0 := by
  obtain ⟨-, -, hplaced⟩ := putAll_spec n mark e hnodup halign hfits
  obtain ⟨k, hk, rfl⟩ := List.getElem_of_mem hi
  have hk' : k < (place n.toNat (o.map (sectionBlock info))).length := hplaced.length_eq ▸ hk
  obtain ⟨offset, hoffset, heq⟩ := hplaced.get hk hk'
  have hsmall := small_offset halign hfits (List.getElem_mem hk')
  intro hnone
  change (putAll info mark o (n, e)).2 o[k] = offset ||| mark at heq
  rw [hnone] at heq
  -- the highest bit is clear
  have hhigh : (offset ||| mark).getLsbD 31 = false := by
    rw [BitVec.getLsbD_or, Bool.or_eq_false_iff]
    refine ⟨Nat.testBit_lt_two_pow (hoffset ▸ hsmall), ?_⟩
    rcases hmark with rfl | rfl
    · rfl
    · rfl
  rw [← heq] at hhigh
  exact Bool.noConfusion hhigh

def markOf (init : Bool) : U32 := if init then initOffsetMask else 0

theorem markOf_cases (init : Bool) : markOf init = 0 ∨ markOf init = initOffsetMask := by
  cases init with
  | false => exact Or.inl rfl
  | true => exact Or.inr rfl

def maskLoop (info : LoadInfo) (init : Bool) (mask : U32 × U32) (st : U64 × (ℕ → U32)) :
    U64 × (ℕ → U32) :=
  (List.range info.shnum).foldl (fun st i =>
    if hasFlags mask (info.sechdrs i) ∧ st.2 i = ~~~0 ∧ info.isInit i = init then
      putOne info (markOf init) st i
    else st) st

theorem layoutPass_layoutState (info : LoadInfo) (init : Bool) (st : U64 × (ℕ → U32)) :
    layoutPass init (layoutState info st) =
      layoutState info (masks.foldl (fun st mask => maskLoop info init mask st) st) := by
  refine List.foldl_hom (layoutState info) fun st mask => ?_
  refine List.foldl_hom (layoutState info) fun st i => ?_
  rw [apply_ite (layoutState info), ← layoutOne_layoutState]
  rfl

def leftOver (info : LoadInfo) (init : Bool) (e : ℕ → U32) : List ℕ :=
  (List.range info.shnum).filter fun i => info.isInit i = init ∧ e i = ~~~0

theorem nodup_leftOver (info : LoadInfo) (init : Bool) (e : ℕ → U32) :
    (leftOver info init e).Nodup := List.nodup_range.filter _

theorem mem_leftOver {init : Bool} {i : ℕ} :
    i ∈ leftOver info init e ↔ i < info.shnum ∧ info.isInit i = init ∧ e i = ~~~0 := by
  unfold leftOver
  rw [List.mem_filter, List.mem_range, decide_eq_true_iff]

theorem maskLoop_eq (info : LoadInfo) (init : Bool) (mask : U32 × U32) (st : U64 × (ℕ → U32)) :
    maskLoop info init mask st = putAll info (markOf init)
      ((leftOver info init st.2).filter fun i => hasFlags mask (info.sechdrs i)) st := by
  unfold maskLoop putAll leftOver
  rw [List.filter_filter]
  refine foldl_ite_frame (fun st a b hne => ?_) List.nodup_range fun i _ => ?_
  · rw [show (putOne info (markOf init) st a).2 b = st.2 b from update_of_ne hne _ _]
  · rw [Bool.and_eq_true, decide_eq_true_iff]
    exact and_congr_right fun _ => and_comm

theorem leftOver_maskLoop {init : Bool} (mask : U32 × U32) (halign : Aligned info (List.range info.shnum))
    (hfits : placeEnd n.toNat (((leftOver info init e).filter
      fun i => hasFlags mask (info.sechdrs i)).map (sectionBlock info)) < 2 ^ 31) :
    leftOver info init (maskLoop info init mask (n, e)).2 =
      (leftOver info init e).filter fun i => !hasFlags mask (info.sechdrs i) := by
  have hnodup := (nodup_leftOver info init e).filter fun i => hasFlags mask (info.sechdrs i)
  have haligned : Aligned info ((leftOver info init e).filter
      fun i => hasFlags mask (info.sechdrs i)) := fun i hi =>
    halign i (List.mem_range.mpr (mem_leftOver.mp (List.mem_of_mem_filter hi)).1)
  obtain ⟨-, hframe, -⟩ := putAll_spec _ (markOf init) e hnodup haligned hfits
  rw [maskLoop_eq]
  have hmem (i : ℕ) : i ∈ (leftOver info init e).filter (fun i => hasFlags mask (info.sechdrs i)) ↔
      i ∈ leftOver info init e ∧ hasFlags mask (info.sechdrs i) = true := List.mem_filter
  have hne := fun i hi => putAll_ne (e := e) (i := i) (markOf_cases init) hnodup haligned hfits hi
  generalize (leftOver info init e).filter (fun i => hasFlags mask (info.sechdrs i)) = taken at *
  unfold leftOver at hmem ⊢
  rw [List.filter_filter]
  apply List.filter_congr
  intro i hi
  rw [Bool.eq_iff_iff, Bool.and_eq_true, decide_eq_true_iff, decide_eq_true_iff, Bool.not_eq_true']
  have hmem := hmem i
  rw [List.mem_filter, decide_eq_true_iff] at hmem
  by_cases hput : i ∈ taken
  · constructor
    · intro hleft
      exact absurd hleft.2 (hne i hput)
    · intro hleft
      rw [(hmem.mp hput).2] at hleft
      exact Bool.noConfusion hleft.1
  rw [hframe i hput]
  constructor
  · intro hleft
    refine ⟨?_, hleft⟩
    apply Bool.eq_false_of_not_eq_true
    intro hflags
    exact hput (hmem.mpr ⟨⟨hi, hleft⟩, hflags⟩)
  · exact fun hleft => hleft.2

theorem mem_byMask {ms : List (U32 × U32)} {l : List ℕ} {i : ℕ} :
    i ∈ byMask info ms l ↔ i ∈ l ∧ ∃ mask ∈ ms, hasFlags mask (info.sechdrs i) = true := by
  induction ms generalizing l with
  | nil => simp [byMask]
  | cons mask ms ih =>
    unfold byMask
    rw [List.mem_append, ih, List.mem_filter, List.mem_filter]
    cases hflags : hasFlags mask (info.sechdrs i) with
    | false | true => simp [hflags]

theorem nodup_byMask {ms : List (U32 × U32)} {l : List ℕ} (h : l.Nodup) : (byMask info ms l).Nodup := by
  induction ms generalizing l with
  | nil => exact List.nodup_nil
  | cons mask ms ih =>
    refine List.nodup_append'.mpr ⟨h.filter _, ih (h.filter _), fun i hi hrest => ?_⟩
    have hflags := (List.mem_filter.mp hi).2
    have hnot := (List.mem_filter.mp (mem_byMask.mp hrest).1).2
    rw [hflags] at hnot
    exact Bool.noConfusion hnot

theorem putAll_append (o o' : List ℕ) (st : U64 × (ℕ → U32)) :
    putAll info mark (o ++ o') st = putAll info mark o' (putAll info mark o st) :=
  List.foldl_append

/-- **A double loop** puts the sections in the order of the masks. -/
theorem masksLoop_eq {init : Bool} (halign : Aligned info (List.range info.shnum))
    (ms : List (U32 × U32)) (st : U64 × (ℕ → U32)) (hfits : placeEnd st.1.toNat
      ((byMask info ms (leftOver info init st.2)).map (sectionBlock info)) < 2 ^ 31) :
    ms.foldl (fun st mask => maskLoop info init mask st) st =
      putAll info (markOf init) (byMask info ms (leftOver info init st.2)) st := by
  induction ms generalizing st with
  | nil => rfl
  | cons mask ms ih =>
    obtain ⟨n, e⟩ := st
    have haligned (l : List ℕ) (hl : l ⊆ leftOver info init e) : Aligned info l := fun i hi =>
      halign i (List.mem_range.mpr (mem_leftOver.mp (hl hi)).1)
    rw [byMask, List.map_append, placeEnd_append] at hfits
    have hfirst : Aligned info ((leftOver info init e).filter
        fun i => hasFlags mask (info.sechdrs i)) := haligned _ (List.filter_subset_self _)
    have hrest : Aligned info (byMask info ms ((leftOver info init e).filter
        fun i => !hasFlags mask (info.sechdrs i))) :=
      haligned _ fun i hi => List.mem_of_mem_filter (mem_byMask.mp hi).1
    have hfits' := lt_of_le_of_lt (le_placeEnd (aligned_blocks hrest)) hfits
    have hleft := leftOver_maskLoop mask halign hfits'
    have hend := (putAll_spec _ (markOf init) e ((nodup_leftOver info init e).filter _) hfirst hfits').1
    rw [List.foldl_cons, ih]
    · rw [hleft, maskLoop_eq]
      exact (putAll_append _ _ _).symm
    · rw [hleft, maskLoop_eq, hend]
      exact hfits

theorem mem_layoutOrder {init : Bool} {i : ℕ} : i ∈ layoutOrder info init ↔
    i < info.shnum ∧ info.isInit i = init ∧ ∃ mask ∈ masks, hasFlags mask (info.sechdrs i) = true := by
  unfold layoutOrder
  rw [mem_byMask, List.mem_filter, List.mem_range, decide_eq_true_iff, and_assoc]

theorem nodup_layoutOrder (info : LoadInfo) (init : Bool) : (layoutOrder info init).Nodup :=
  nodup_byMask (List.nodup_range.filter _)

theorem aligned_layoutOrder (halign : PowersOfTwo info) (init : Bool) : Aligned info (layoutOrder info init) :=
  fun i hi => halign i (Or.inl (mem_layoutOrder.mp hi).1)

def noOffsets (info : LoadInfo) : ℕ → U32 :=
  fun i => if i < info.shnum then ~~~0 else (info.sechdrs i).shEntsize

theorem clear_eq (info : LoadInfo) : (List.range info.shnum).foldl
    (fun info i => info.modify i fun s => { s with shEntsize := ~~~0 }) info =
      withEntsize info (noOffsets info) := by
  have hprefix (k : ℕ) : (List.range k).foldl
      (fun info i => info.modify i fun s => { s with shEntsize := ~~~0 }) info =
        withEntsize info fun i => if i < k then ~~~0 else (info.sechdrs i).shEntsize := by
    induction k with
    | zero => rfl
    | succ k ih =>
      rw [List.range_succ, List.foldl_append, ih]
      refine congrArg (fun sechdrs => { info with sechdrs := sechdrs }) (funext fun i => ?_)
      by_cases hi : i = k
      · subst hi
        simp [withEntsize]
      · have hlt : i < k + 1 ↔ i < k := by omega
        simp [withEntsize, hi, hlt]
  exact hprefix info.shnum

/-- The offsets of the sections that are laid out by `layout_sections`. -/
def sectionOffsets (info : LoadInfo) : U64 × (ℕ → U32) :=
  putAll info initOffsetMask (layoutOrder info true)
    (putAll info 0 (layoutOrder info false) (0, noOffsets info))

def sectionBlocks (info : LoadInfo) : List (Block ℕ) :=
  (layoutOrder info false ++ layoutOrder info true).map (sectionBlock info)

theorem sectionBlocks_eq (info : LoadInfo) : sectionBlocks info =
    (layoutOrder info false).map (sectionBlock info) ++
      (layoutOrder info true).map (sectionBlock info) := List.map_append

theorem sections_fit (halign : PowersOfTwo info) (hfits : placeEnd 0 (sectionBlocks info) < 2 ^ 31) :
    placeEnd 0 ((layoutOrder info false).map (sectionBlock info)) < 2 ^ 31 ∧
      placeEnd (placeEnd 0 ((layoutOrder info false).map (sectionBlock info)))
        ((layoutOrder info true).map (sectionBlock info)) < 2 ^ 31 := by
  rw [sectionBlocks_eq, placeEnd_append] at hfits
  exact ⟨lt_of_le_of_lt (le_placeEnd (aligned_blocks (aligned_layoutOrder halign true))) hfits, hfits⟩

/-- **`layout_sections`** puts the sections in their order. -/
theorem layoutSections_eq (halign : PowersOfTwo info) (hfits : placeEnd 0 (sectionBlocks info) < 2 ^ 31) :
    layoutSections (0, info) = layoutState info (sectionOffsets info) := by
  obtain ⟨hcore, hinit⟩ := sections_fit halign hfits
  have hrange : Aligned info (List.range info.shnum) :=
    fun i hi => halign i (Or.inl (List.mem_range.mp hi))
  have hleft : byMask info masks (leftOver info false (noOffsets info)) =
      layoutOrder info false := by
    refine congrArg (byMask info masks) (List.filter_congr fun i hi => ?_)
    have hnone : noOffsets info i = ~~~0 := if_pos (List.mem_range.mp hi)
    simp [hnone]
  obtain ⟨hend, hframe, -⟩ := putAll_spec 0 (markOf false) (noOffsets info)
    (nodup_layoutOrder info false) (aligned_layoutOrder halign false) hcore
  have hleft' : byMask info masks (leftOver info true
      (putAll info 0 (layoutOrder info false) (0, noOffsets info)).2) = layoutOrder info true := by
    refine congrArg (byMask info masks) (List.filter_congr fun i hi => ?_)
    cases hname : info.isInit i with
    | false => simp
    | true =>
      have hnot : i ∉ layoutOrder info false := by
        intro hmem
        have hfalse := (mem_layoutOrder.mp hmem).2.1
        rw [hname] at hfalse
        exact Bool.noConfusion hfalse
      have hnone : noOffsets info i = ~~~0 := if_pos (List.mem_range.mp hi)
      have heq := (hframe i hnot).trans hnone
      exact decide_eq_decide.mpr ⟨fun _ => rfl, fun _ => ⟨rfl, heq⟩⟩
  unfold layoutSections
  rw [clear_eq]
  change layoutPass true (layoutPass false (layoutState info (0, noOffsets info))) = _
  rw [layoutPass_layoutState, layoutPass_layoutState, masksLoop_eq hrange, masksLoop_eq hrange, hleft]
  · change layoutState info (putAll info _ (byMask info masks (leftOver info true
      (putAll info 0 (layoutOrder info false) (0, noOffsets info)).2)) _) = _
    rw [hleft']
    rfl
  · rw [hleft]
    exact hcore
  · rw [masksLoop_eq hrange, hleft]
    · change placeEnd (putAll info (markOf false) (layoutOrder info false)
        (0, noOffsets info)).1.toNat ((byMask info masks (leftOver info true
          (putAll info 0 (layoutOrder info false) (0, noOffsets info)).2)).map _) < 2 ^ 31
      rw [hleft', hend]
      exact hinit
    · rw [hleft]
      exact hcore

end

end NvidiaOot.Analysis
