import NvidiaOot.Analysis.PvaVpuSegments

/-!
# How a VPU executable is assembled

What the buffers have is read off the pieces that they hold.  A section of code comes to its byte address if the
address fits 32 bits, and its bytes are those of the file if no section before it has swapped them.
-/

namespace NvidiaOot.Analysis

open Library Program Model

variable {elf : ℕ → U8} {l sections front back : List ElfSection} {sec : ElfSection} {hwGen : ℤ} {s : ElfSegments}
  {copies : List BufferCopy} {p k : ℕ}

theorem texts_append (l m : List ElfSection) : texts (l ++ m) = texts l ++ texts m := List.filter_append l m

theorem mem_texts : sec ∈ texts l ↔ sec ∈ l ∧ kindOf sec = .vpuCode := by
  unfold texts
  rw [List.mem_filter, decide_eq_true_iff]

theorem mem_textPieces {x : Piece U8} (h : x ∈ textPieces elf l) :
    ∃ t ∈ texts l, x.start = (t.addr * 4).toNat ∧ x.size = t.size.toNat := by
  induction l generalizing elf with
  | nil => cases h
  | cons t l ih =>
    rw [textPieces, List.mem_append] at h
    rcases h with h | h
    · by_cases hkind : kindOf t = .vpuCode
      · rw [if_pos hkind, List.mem_singleton] at h
        exact ⟨t, mem_texts.mpr ⟨List.mem_cons_self, hkind⟩, h ▸ rfl, h ▸ rfl⟩
      · rw [if_neg hkind] at h
        cases h
    · obtain ⟨t', ht', hx⟩ := ih h
      obtain ⟨hmem, hkind⟩ := mem_texts.mp ht'
      exact ⟨t', mem_texts.mpr ⟨List.mem_cons_of_mem t hmem, hkind⟩, hx⟩

theorem toNat_addrBytes {t : ElfSection} (h : t.addr.toNat < 2 ^ 30) : (t.addr * 4).toNat = 4 * t.addr.toNat := by
  have hfour : (4 : U32).toNat = 4 := by decide
  rw [BitVec.toNat_mul, hfour, Nat.mod_eq_of_lt (by omega), Nat.mul_comm]

theorem not_covers_of_not_loads (haddrs : ∀ t ∈ texts l, t.size ≠ 0 → t.addr.toNat < 2 ^ 30)
    (h : ∀ t ∈ texts l, ¬ Loads t p) : ∀ x ∈ textPieces elf l, ¬ x.Covers p := by
  intro x hx hcovers
  obtain ⟨t, ht, hstart, hsize⟩ := mem_textPieces hx
  unfold Piece.Covers at hcovers
  rw [hstart, hsize] at hcovers
  have hne : t.size ≠ 0 := by
    rintro hzero
    rw [hzero] at hcovers
    exact Nat.not_le_of_lt hcovers.2 hcovers.1
  rw [toNat_addrBytes (haddrs t ht hne)] at hcovers
  exact h t ht hcovers

/-- **A byte of code** is the one of the last section that has it, from the file as it is then. -/
theorem SegmentsInv.code_byte (h : SegmentsInv elf hwGen (front ++ sec :: back) s)
    (haddrs : ∀ t ∈ texts (front ++ sec :: back), t.size ≠ 0 → t.addr.toNat < 2 ^ 30) (hkind : kindOf sec = .vpuCode)
    (hk : k < sec.size.toNat) (hlast : ∀ t ∈ texts back, ¬ Loads t (4 * sec.addr.toNat + k)) :
    bufferBytes s.code (4 * sec.addr.toNat + k) = swappedByte (elfAfter elf front) sec k := by
  have hne : sec.size ≠ 0 := by
    rintro hzero
    rw [hzero] at hk
    exact Nat.not_lt_zero k hk
  have haddr := toNat_addrBytes (haddrs sec (mem_texts.mpr ⟨List.mem_append_cons_self, hkind⟩) hne)
  have hback : ∀ t ∈ texts back, t.size ≠ 0 → t.addr.toNat < 2 ^ 30 := by
    intro t ht
    rw [List.append_cons, texts_append] at haddrs
    exact haddrs t (List.mem_append_right _ ht)
  rw [h.code.bytes, textPieces_append, textPieces, if_pos hkind, List.singleton_append, haddr,
    overlay_of_covers ⟨Nat.le_add_right _ k, Nat.add_lt_add_left hk _⟩ (not_covers_of_not_loads hback hlast),
    Nat.add_sub_cancel_left]

theorem SegmentsInv.code_room (h : SegmentsInv elf hwGen (front ++ sec :: back) s) (hkind : kindOf sec = .vpuCode)
    (haddr : sec.addr.toNat < 2 ^ 30) : 4 * sec.addr.toNat + sec.size.toNat ≤ s.code.localsize.toNat := by
  have hinside := h.code.inside ⟨(sec.addr * 4).toNat, sec.size.toNat, swappedByte (elfAfter elf front) sec⟩ (by
    rw [textPieces_append, textPieces, if_pos hkind]
    exact List.mem_append_cons_self)
  rw [← toNat_addrBytes haddr]
  exact hinside

theorem SegmentsInv.code_blank (h : SegmentsInv elf hwGen sections s)
    (haddrs : ∀ t ∈ texts sections, t.size ≠ 0 → t.addr.toNat < 2 ^ 30) (hnone : ∀ t ∈ texts sections, ¬ Loads t p) :
    bufferBytes s.code p = 0 := by
  rw [h.code.bytes, overlay_of_not_covers (not_covers_of_not_loads haddrs hnone)]

theorem datas_cons (hkind : kindOf sec = .vpuData) (l : List ElfSection) : datas (sec :: l) = sec :: datas l :=
  List.filter_cons_of_pos (by simp [hkind])

theorem dataOffset_cons (hkind : kindOf sec = .vpuData) (l : List ElfSection) :
    dataOffset (sec :: l) = alignedSize sec.size.toNat + dataOffset l := by
  unfold dataOffset
  rw [datas_cons hkind, List.map_cons, List.sum_cons]

theorem dataOffset_mod (l : List ElfSection) : dataOffset l % dataSectionAlignment = 0 := by
  unfold dataOffset
  induction datas l with
  | nil => rfl
  | cons t l ih =>
    rw [List.map_cons, List.sum_cons, Nat.add_mod, ih, alignedSize_mod]
    rfl

theorem dataSectionAt_bytes (e : PvaVpuDataSection) : dataSectionAt e.bytes 0 = e := by
  have hword : ∀ (m : ℕ → U8) (o o' : ℕ) (w : U32), (o + 4 ≤ o' ∨ o' + 4 ≤ o) →
      getWord (putWord m o w) o' = getWord m o' := by
    intro m o o' w ho
    apply getWord_congr
    intro j hj
    exact if_neg (by omega)
  unfold dataSectionAt PvaVpuDataSection.bytes
  rw [hword _ 8 0 _ (by decide), hword _ 4 0 _ (by decide), getWord_putWord, hword _ 8 4 _ (by decide), getWord_putWord,
    getWord_putWord]

section

variable (h : SegmentsInv elf hwGen (front ++ sec :: back) s)

include h

section

variable (hkind : kindOf sec = .vpuData)

include hkind

/-- **The entry of a data section** has its place, its address and its size. -/
theorem SegmentsInv.table_entry :
    tableEntry s (datas front).length =
      ⟨BitVec.ofNat 32 (dataOffset front), sec.addr, BitVec.ofNat 32 (alignedSize sec.size.toNat)⟩ := by
  have hentries : entriesFrom 0 (datas (front ++ sec :: back)) = entriesFrom 0 (datas front) ++
      ⟨BitVec.ofNat 32 (dataOffset front), sec.addr, BitVec.ofNat 32 (alignedSize sec.size.toNat)⟩ ::
        entriesFrom (dataOffset front + alignedSize sec.size.toNat) (datas back) := by
    rw [datas_append, datas_cons hkind, entriesFrom_append, Nat.zero_add]
    rfl
  generalize hentry : (⟨BitVec.ofNat 32 (dataOffset front), sec.addr, BitVec.ofNat 32 (alignedSize sec.size.toNat)⟩ :
    PvaVpuDataSection) = entry at hentries ⊢
  have hbyte : ∀ j < sizeofPvaVpuDataSection,
      bufferBytes s.dataSegmentInfo (sizeofPvaVpuDataSection * (datas front).length + j) = entry.bytes j := by
    intro j hj
    rw [h.table.bytes, hentries, List.map_append, List.map_cons, ← length_entriesFrom 0, ← roomOf_entryParts]
    exact overlay_stack (y := entryPart entry) le_rfl hj
  have htwelve : sizeofPvaVpuDataSection = 12 := rfl
  rw [← dataSectionAt_bytes entry]
  unfold tableEntry dataSectionAt
  congr 1
  · exact getWord_congr fun j hj => by rw [hbyte j (by omega), Nat.zero_add]
  · exact getWord_congr fun j hj => by rw [Nat.add_assoc, hbyte (4 + j) (by omega), Nat.zero_add]
  · exact getWord_congr fun j hj => by rw [Nat.add_assoc, hbyte (8 + j) (by omega), Nat.zero_add]

theorem SegmentsInv.data_room :
    dataOffset front + alignedSize sec.size.toNat ≤ s.data.localsize.toNat := by
  rw [h.dataSize, dataOffset_append, dataOffset_cons hkind]
  omega

/-- **The bytes of a data section** are those of the file as it is then. -/
theorem SegmentsInv.data_byte
    (hk : k < sec.size.toNat) :
    bufferBytes s.data (dataOffset front + k) = elfAfter elf front (sec.offset.toNat + k) := by
  rw [h.data.bytes, dataParts_append, dataParts, if_pos hkind, List.singleton_append, ← roomOf_dataParts elf front]
  exact overlay_stack (y := ⟨_, _, fun k => elfAfter elf front (sec.offset.toNat + k)⟩) (le_alignedSize _) hk

end

end

/--
**Segments of a VPU executable**: The sections that are loaded are assembled as they are in the file just if no code has
a byte address that wraps, and no section is copied from bytes that the copy of a code section before it has swapped.
-/
theorem segments_assembled_iff {kzalloc : ℕ → ℕ → Bool} (hmax : ∀ i n, kzalloc i n = true → n ≤ 2 ^ 30)
    (hok : populateSegments hwGen (newElfSegments elf) kzalloc sections = (copies, .ok s)) :
    Assembled elf sections copies s ↔ SectionsCareful elf sections := by
  obtain ⟨hinv, hcopies⟩ := segmentsInv_run hmax hok
  constructor
  · intro h
    have haddrs : ∀ t ∈ texts sections, t.size ≠ 0 → t.addr.toNat < 2 ^ 30 := by
      intro t ht hsize
      obtain ⟨hmem, hkind⟩ := mem_texts.mp ht
      obtain ⟨front, back, hsplit⟩ := List.append_of_mem hmem
      have hlimit := hinv.code.limit
      have hpos := Nat.pos_of_ne_zero fun hzero => hsize (BitVec.eq_of_toNat_eq hzero)
      have hroom := (h.code front t back hsplit hkind 0 hpos).1
      omega
    refine ⟨haddrs, ?_, ?_⟩
    · intro front sec back hsplit hkind k hk hlast
      subst hsplit
      rw [← hinv.code_byte haddrs hkind hk hlast]
      exact (h.code front sec back rfl hkind k hk).2 hlast
    · intro front sec back hsplit hkind k hk
      subst hsplit
      rw [← hinv.data_byte hkind hk]
      exact h.data front sec back rfl hkind k hk
  · intro h
    refine ⟨hcopies, ?_, fun p => hinv.code_blank h.addrs, hinv.count, ?_, ?_⟩
    · intro front sec back hsplit hkind k hk
      subst hsplit
      have hne : sec.size ≠ 0 := by
        rintro hzero
        rw [hzero] at hk
        exact Nat.not_lt_zero k hk
      have hroom := hinv.code_room hkind (h.addrs sec (mem_texts.mpr ⟨List.mem_append_cons_self, hkind⟩) hne)
      refine ⟨by omega, fun hlast => ?_⟩
      rw [hinv.code_byte h.addrs hkind hk hlast]
      exact h.code front sec back rfl hkind k hk hlast
    · intro front sec back hsplit hkind
      subst hsplit
      exact ⟨hinv.table_entry hkind, dataOffset_mod front, hinv.data_room hkind⟩
    · intro front sec back hsplit hkind k hk
      subst hsplit
      rw [hinv.data_byte hkind hk]
      exact h.data front sec back rfl hkind k hk

def oneWord (addr offset : U32) : ElfSection := ⟨some [0x2e, 0x74, 0x65, 0x78, 0x74], shtProgbits, addr, offset, 4⟩

def numberedFile (k : ℕ) : U8 := BitVec.ofNat 8 k

def smallKzalloc (_ n : ℕ) : Bool := n ≤ 2 ^ 22

theorem smallKzalloc_max : ∀ i n, smallKzalloc i n = true → n ≤ 2 ^ 30 :=
  fun _ _ h => (of_decide_eq_true h).trans (by decide)

theorem split_singleton {t : ElfSection} (h : [t] = front ++ sec :: back) : front = [] ∧ sec = t := by
  cases front with
  | nil => exact ⟨rfl, (List.cons.inj h).1.symm⟩
  | cons t' front =>
    have hlength := congrArg List.length h
    rw [List.length_singleton, List.length_append, List.length_cons, List.length_cons] at hlength
    omega

/-- A section of code. -/
theorem one_section_assembled : ∃ copies s,
    populateSegments 2 (newElfSegments numberedFile) smallKzalloc [oneWord 0 0] = (copies, .ok s) ∧
      Assembled numberedFile [oneWord 0 0] copies s := by
  have hrun : (populateSegments 2 (newElfSegments numberedFile) smallKzalloc [oneWord 0 0]).2.toBool = true := by
    decide +kernel
  cases hresult : (populateSegments 2 (newElfSegments numberedFile) smallKzalloc [oneWord 0 0]).2 with
  | error e =>
    rw [hresult] at hrun
    cases hrun
  | ok s =>
    refine ⟨_, s, Prod.ext rfl hresult,
      (segments_assembled_iff smallKzalloc_max (Prod.ext rfl hresult)).mpr ⟨?_, ?_, ?_⟩⟩
    · intro t ht _
      obtain rfl := List.mem_singleton.mp (mem_texts.mp ht).1
      decide
    · intro front sec back hsplit _ k _ _
      rw [(split_singleton hsplit).1]
      rfl
    · intro front sec back hsplit hkind
      rw [(split_singleton hsplit).2] at hkind
      cases hkind

/-- A section of code that wraps is put over the one at the start. -/
theorem wrapped_section_overwrites : ∃ copies s,
    populateSegments 2 (newElfSegments numberedFile) smallKzalloc [oneWord 0 0, oneWord 0x40000000 4] =
        (copies, .ok s) ∧ bufferBytes s.code 0 = numberedFile 7 ∧
      ¬ Assembled numberedFile [oneWord 0 0, oneWord 0x40000000 4] copies s := by
  have hrun : ((populateSegments 2 (newElfSegments numberedFile) smallKzalloc
      [oneWord 0 0, oneWord 0x40000000 4]).2.toOption.map fun s => bufferBytes s.code 0) = some (numberedFile 7) := by
    decide +kernel
  cases hresult : (populateSegments 2 (newElfSegments numberedFile) smallKzalloc
      [oneWord 0 0, oneWord 0x40000000 4]).2 with
  | error e =>
    rw [hresult] at hrun
    cases hrun
  | ok s =>
    rw [hresult] at hrun
    refine ⟨_, s, Prod.ext rfl hresult, Option.some.inj hrun, fun h => ?_⟩
    have hinside := (h.code [oneWord 0 0] (oneWord 0x40000000 4) [] rfl (by decide) 0 (by decide)).1
    have haddr : (oneWord 0x40000000 4).addr.toNat = 2 ^ 30 := by decide
    have hlimit := s.code.localsize.isLt
    omega

end NvidiaOot.Analysis
