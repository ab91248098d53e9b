import NvidiaOot.Analysis.PvaVmem
import NvidiaOot.Library.Overlay

/-!
# The segments of a VPU executable

Each buffer holds an overlay of pieces, and its size is the one that was allocated for it.  A larger buffer keeps what
was there because the pieces end in the old one.
-/

namespace NvidiaOot.Analysis

open Library Program Model

section

variable {kzalloc : ℕ → Bool} {b b' : ElfBuffer} {old : KernelBuffer} {pieces : List (Piece U8)} {src : ℕ → U8}
  {n : ℕ} {addr : U32} {copies : List BufferCopy}

theorem le_alignedSize (n : ℕ) : n ≤ alignedSize n := by
  unfold alignedSize
  split
  · exact Nat.le_add_right n _
  · exact le_rfl

theorem alignedSize_mod (n : ℕ) : alignedSize n % dataSectionAlignment = 0 := by
  unfold alignedSize dataSectionAlignment
  split <;> omega

def CopiesInside (copies : List BufferCopy) : Prop := ∀ c ∈ copies, c.start + c.len ≤ c.cap

theorem copiesInside_nil : CopiesInside [] := List.forall_mem_nil _

theorem CopiesInside.append {copies' : List BufferCopy} (h : CopiesInside copies) (h' : CopiesInside copies') :
    CopiesInside (copies ++ copies') :=
  List.forall_mem_append.mpr ⟨h, h'⟩

def bufferCap (b : ElfBuffer) : ℕ := (b.localbuffer.map KernelBuffer.cap).getD 0

structure Holds (b : ElfBuffer) (pieces : List (Piece U8)) : Prop where
  cap : bufferCap b = b.localsize.toNat
  limit : b.localsize.toNat ≤ 2 ^ 30
  bytes : bufferBytes b = overlay 0 pieces
  inside : ∀ x ∈ pieces, x.start + x.size ≤ b.localsize.toNat

theorem holds_new : Holds ⟨none, 0, 0⟩ [] :=
  ⟨rfl, Nat.zero_le _, rfl, List.forall_mem_nil _⟩

theorem Holds.of_segments (h : Holds b pieces) (n : U32) : Holds { b with numSegments := n } pieces :=
  ⟨h.cap, h.limit, h.bytes, h.inside⟩

theorem Holds.put (h : Holds b pieces) (buf : KernelBuffer) (src : ℕ → U8) (start n : ℕ) (size : U32)
    (hbytes : buf.bytes = overlay 0 pieces) (hcap : buf.cap = size.toNat) (hlimit : buf.cap ≤ 2 ^ 30)
    (hgrow : b.localsize.toNat ≤ buf.cap) (hinside : start + n ≤ buf.cap) :
    Holds (b.put src n start size buf).2 (pieces ++ [⟨start, n, src⟩]) ∧
      CopiesInside (b.put src n start size buf).1 := by
  refine ⟨⟨hcap, hcap ▸ hlimit, ?_, ?_⟩, List.forall_mem_singleton.mpr hinside⟩
  · change blit buf.bytes start n src = overlay 0 (pieces ++ [⟨start, n, src⟩])
    rw [overlay_concat, hbytes]
  · change ∀ x ∈ pieces ++ [⟨start, n, src⟩], x.start + x.size ≤ size.toNat
    rw [List.forall_mem_append, List.forall_mem_singleton, ← hcap]
    exact ⟨fun x hx => (h.inside x hx).trans hgrow, hinside⟩

theorem growBuffer_spec (alloc : ℕ) (hbytes : old.bytes = overlay 0 pieces)
    (hpieces : ∀ x ∈ pieces, x.start + x.size ≤ n) (hold : n ≤ old.cap) (halloc : n ≤ alloc) :
    (growBuffer old n alloc).2.bytes = overlay 0 pieces ∧ (growBuffer old n alloc).2.cap = alloc ∧
      CopiesInside (growBuffer old n alloc).1 := by
  refine ⟨?_, rfl, ?_⟩
  · change blit (fun _ => 0) 0 n old.bytes = overlay 0 pieces
    rw [hbytes, blit_overlay hpieces]
  · unfold growBuffer CopiesInside
    rw [List.forall_mem_cons, List.forall_mem_singleton]
    exact ⟨(Nat.zero_add n).trans_le hold, (Nat.zero_add n).trans_le halloc⟩

theorem Holds.of_some (h : Holds b pieces) (hold : b.localbuffer = some old) :
    old.bytes = overlay 0 pieces ∧ old.cap = b.localsize.toNat := by
  have hbytes := h.bytes
  have hcap := h.cap
  unfold bufferBytes at hbytes
  unfold bufferCap at hcap
  rw [hold] at hbytes hcap
  exact ⟨hbytes, hcap⟩

theorem Holds.of_none (h : Holds b pieces) (hnone : b.localbuffer = none) :
    b.localsize.toNat = 0 ∧ (fun _ => 0) = overlay 0 pieces := by
  have hbytes := h.bytes
  have hcap := h.cap
  unfold bufferBytes at hbytes
  unfold bufferCap at hcap
  rw [hnone] at hbytes hcap
  exact ⟨hcap.symm, hbytes⟩

section

variable (hmax : ∀ n, kzalloc n = true → n ≤ 2 ^ 30)

include hmax

/-- **The code of a section** is copied to its address. -/
theorem copyToElfBufferCode_spec (h : Holds b pieces)
    (hok : copyToElfBufferCode kzalloc b src n addr = (copies, .ok b')) :
    Holds b' (pieces ++ [⟨(addr * 4).toNat, n, src⟩]) ∧ CopiesInside copies := by
  unfold copyToElfBufferCode at hok
  dsimp only at hok
  have haligned := le_alignedSize ((addr * 4).toNat + n)
  split at hok
  case h_1 hnone =>
    obtain ⟨hzero, hblank⟩ := h.of_none hnone
    split at hok
    case isTrue hsmall =>
      split at hok
      case isTrue => cases (Prod.mk.inj hok).2
      case isFalse haddr =>
        split at hok
        case isTrue hkzalloc =>
          have hlimit := hmax _ hkzalloc
          obtain ⟨rfl, hb⟩ := Prod.mk.inj hok
          cases hb
          refine h.put _ src _ n _ hblank ?_ hlimit (hzero.trans_le (Nat.zero_le _)) haligned
          exact (Nat.mod_eq_of_lt (hlimit.trans_lt (by decide))).symm
        case isFalse => cases (Prod.mk.inj hok).2
    case isFalse hlarge =>
      obtain ⟨rfl, hb⟩ := Prod.mk.inj hok
      cases hb
      have hempty : (addr * 4).toNat = 0 ∧ n = 0 := by omega
      rw [hempty.1, hempty.2]
      refine ⟨⟨h.cap, h.limit, ?_, ?_⟩, List.forall_mem_singleton.mpr le_rfl⟩
      · rw [overlay_concat, blit_zero, h.bytes]
      · rw [List.forall_mem_append, List.forall_mem_singleton]
        exact ⟨h.inside, Nat.zero_le _⟩
  case h_2 old hold =>
    obtain ⟨hbytes, hcap⟩ := h.of_some hold
    split at hok
    case isTrue hsmall =>
      split at hok
      case isTrue hkzalloc =>
        have hlimit := hmax _ hkzalloc
        obtain ⟨hnew, hnewCap, hcopies⟩ := growBuffer_spec (alignedSize ((addr * 4).toNat + n)) hbytes h.inside hcap.ge
          (by omega)
        obtain ⟨rfl, hb⟩ := Prod.mk.inj hok
        cases hb
        have hput := h.put _ src (addr * 4).toNat n (BitVec.ofNat 32 (alignedSize ((addr * 4).toNat + n))) hnew ?_
          (hnewCap.trans_le hlimit) (by rw [hnewCap]; omega) (haligned.trans hnewCap.ge)
        · exact ⟨hput.1, hcopies.append hput.2⟩
        · exact (Nat.mod_eq_of_lt (hlimit.trans_lt (by decide))).symm
      case isFalse => cases (Prod.mk.inj hok).2
    case isFalse hlarge =>
      obtain ⟨rfl, hb⟩ := Prod.mk.inj hok
      cases hb
      exact h.put _ src _ n _ hbytes hcap (hcap.trans_le h.limit) hcap.ge (by omega)

/-- **The bytes of a data section** are copied behind what is there. -/
theorem copyToElfBuffer_spec (h : Holds b pieces)
    (hok : copyToElfBuffer kzalloc b src n = (copies, .ok b')) :
    Holds b' (pieces ++ [⟨b.localsize.toNat, n, src⟩]) ∧
      b'.localsize.toNat = b.localsize.toNat + alignedSize n ∧ CopiesInside copies := by
  have haligned := le_alignedSize n
  have hsum (hlimit : b.localsize.toNat + alignedSize n ≤ 2 ^ 30) :
      (b.localsize + BitVec.ofNat 32 (alignedSize n)).toNat = b.localsize.toNat + alignedSize n := by
    rw [BitVec.toNat_add, BitVec.toNat_ofNat]
    omega
  unfold copyToElfBuffer at hok
  dsimp only at hok
  split at hok
  case h_1 hnone =>
    obtain ⟨hzero, hblank⟩ := h.of_none hnone
    split at hok
    case isTrue hkzalloc =>
      have hlimit := hmax _ hkzalloc
      have hnew := hsum (by omega)
      obtain ⟨rfl, hb⟩ := Prod.mk.inj hok
      cases hb
      have hcap : (zeroBuffer (alignedSize n)).cap = alignedSize n := rfl
      have hput := h.put (zeroBuffer (alignedSize n)) src b.localsize.toNat n
        (b.localsize + BitVec.ofNat 32 (alignedSize n)) hblank (by omega) hlimit (by omega) (by omega)
      exact ⟨hput.1, hnew, hput.2⟩
    case isFalse => cases (Prod.mk.inj hok).2
  case h_2 old hold =>
    obtain ⟨hbytes, hcap⟩ := h.of_some hold
    split at hok
    case isTrue => cases (Prod.mk.inj hok).2
    case isFalse =>
      split at hok
      case isTrue => cases (Prod.mk.inj hok).2
      case isFalse hkzalloc =>
        have hlimit := hmax _ (Bool.not_eq_false _ ▸ hkzalloc)
        have hnew := hsum hlimit
        obtain ⟨hresize, hresizeCap, hcopies⟩ := growBuffer_spec b.localsize.toNat hbytes h.inside hcap.ge le_rfl
        obtain ⟨hgrown, hgrownCap, hcopies'⟩ := growBuffer_spec (b.localsize.toNat + alignedSize n) hresize h.inside
          hresizeCap.ge (Nat.le_add_right _ _)
        obtain ⟨rfl, hb⟩ := Prod.mk.inj hok
        cases hb
        have hput := h.put _ src b.localsize.toNat n (b.localsize + BitVec.ofNat 32 (alignedSize n)) hgrown
          (hgrownCap.trans hnew.symm) (hgrownCap.trans_le hlimit) (by rw [hgrownCap]; omega) (by rw [hgrownCap]; omega)
        exact ⟨hput.1, hnew, (hcopies.append hcopies').append hput.2⟩

theorem copyToElfDataSecBuffer_spec (h : Holds b pieces)
    (hok : copyToElfDataSecBuffer kzalloc b src sizeofPvaVpuDataSection = (copies, .ok b')) :
    Holds b' (pieces ++ [⟨b.localsize.toNat, sizeofPvaVpuDataSection, src⟩]) ∧
      b'.localsize.toNat = b.localsize.toNat + sizeofPvaVpuDataSection ∧ b'.numSegments = b.numSegments ∧
      CopiesInside copies := by
  have hlimit := h.limit
  have hsize : (BitVec.ofNat 32 sizeofPvaVpuDataSection).toNat = sizeofPvaVpuDataSection := by decide
  have htwelve : sizeofPvaVpuDataSection = 12 := rfl
  have hnew : (b.localsize + BitVec.ofNat 32 sizeofPvaVpuDataSection).toNat =
      b.localsize.toNat + sizeofPvaVpuDataSection := by
    rw [BitVec.toNat_add, hsize]
    omega
  unfold copyToElfDataSecBuffer at hok
  dsimp only at hok
  split at hok
  case h_1 hnone =>
    obtain ⟨hzero, hblank⟩ := h.of_none hnone
    have hcap : (zeroBuffer sizeofPvaVpuDataSection).cap = sizeofPvaVpuDataSection := rfl
    split at hok
    case isTrue hkzalloc =>
      split at hok
      case isTrue => cases (Prod.mk.inj hok).2
      case isFalse =>
        obtain ⟨rfl, hb⟩ := Prod.mk.inj hok
        cases hb
        have hput := h.put (zeroBuffer sizeofPvaVpuDataSection) src b.localsize.toNat sizeofPvaVpuDataSection
          (b.localsize + BitVec.ofNat 32 sizeofPvaVpuDataSection) hblank (by omega) (by omega) (by omega) (by omega)
        exact ⟨hput.1, hnew, rfl, hput.2⟩
    case isFalse => cases (Prod.mk.inj hok).2
  case h_2 old hold =>
    obtain ⟨hbytes, hcap⟩ := h.of_some hold
    split at hok
    case isTrue hkzalloc =>
      split at hok
      case isTrue => cases (Prod.mk.inj hok).2
      case isFalse =>
        have hroom := hmax _ hkzalloc
        obtain ⟨hgrown, hgrownCap, hcopies⟩ := growBuffer_spec
          (b.localsize + BitVec.ofNat 32 sizeofPvaVpuDataSection).toNat hbytes h.inside hcap.ge (by omega)
        obtain ⟨rfl, hb⟩ := Prod.mk.inj hok
        cases hb
        have hput := h.put _ src b.localsize.toNat sizeofPvaVpuDataSection
          (b.localsize + BitVec.ofNat 32 sizeofPvaVpuDataSection) hgrown hgrownCap (hgrownCap.trans_le hroom)
          (by rw [hgrownCap]; omega) (by rw [hgrownCap]; omega)
        exact ⟨hput.1, hnew, rfl, hcopies.append hput.2⟩
    case isFalse => cases (Prod.mk.inj hok).2

end

end

section

variable {elf : ℕ → U8} {l m : List ElfSection} {sec : ElfSection} {o : ℕ}

def textPieces (elf : ℕ → U8) : List ElfSection → List (Piece U8)
  | [] => []
  | sec :: rest =>
    (if kindOf sec = .vpuCode then [⟨(sec.addr * 4).toNat, sec.size.toNat, swappedByte elf sec⟩] else []) ++
      textPieces (swapSection elf sec) rest

def dataParts (elf : ℕ → U8) : List ElfSection → List (Library.Part U8)
  | [] => []
  | sec :: rest =>
    (if kindOf sec = .vpuData then
      [⟨alignedSize sec.size.toNat, sec.size.toNat, fun k => elf (sec.offset.toNat + k)⟩] else []) ++
      dataParts (swapSection elf sec) rest

/-- The entries for the data sections from an offset on. -/
def entriesFrom : ℕ → List ElfSection → List PvaVpuDataSection
  | _, [] => []
  | o, sec :: rest =>
    ⟨BitVec.ofNat 32 o, sec.addr, BitVec.ofNat 32 (alignedSize sec.size.toNat)⟩ ::
      entriesFrom (o + alignedSize sec.size.toNat) rest

def entryPart (e : PvaVpuDataSection) : Library.Part U8 := ⟨sizeofPvaVpuDataSection, sizeofPvaVpuDataSection, e.bytes⟩

theorem elfAfter_cons : elfAfter elf (sec :: l) = elfAfter (swapSection elf sec) l := rfl

theorem elfAfter_concat : elfAfter elf (l ++ [sec]) = swapSection (elfAfter elf l) sec := by
  unfold elfAfter
  rw [List.foldl_append]
  rfl

theorem textPieces_append : textPieces elf (l ++ m) = textPieces elf l ++ textPieces (elfAfter elf l) m := by
  induction l generalizing elf with
  | nil => rfl
  | cons sec l ih => rw [List.cons_append, textPieces, ih, textPieces, List.append_assoc, elfAfter_cons]

theorem dataParts_append : dataParts elf (l ++ m) = dataParts elf l ++ dataParts (elfAfter elf l) m := by
  induction l generalizing elf with
  | nil => rfl
  | cons sec l ih => rw [List.cons_append, dataParts, ih, dataParts, List.append_assoc, elfAfter_cons]

theorem datas_append : datas (l ++ m) = datas l ++ datas m := List.filter_append l m

theorem dataOffset_append : dataOffset (l ++ m) = dataOffset l + dataOffset m := by
  unfold dataOffset
  rw [datas_append, List.map_append, List.sum_append]

theorem roomOf_dataParts (elf : ℕ → U8) (l : List ElfSection) : roomOf (dataParts elf l) = dataOffset l := by
  induction l generalizing elf with
  | nil => rfl
  | cons sec l ih =>
    have hcons : dataOffset (sec :: l) = dataOffset [sec] + dataOffset l := dataOffset_append (l := [sec])
    rw [dataParts, roomOf_append, ih, hcons]
    congr 1
    unfold dataOffset datas
    split_ifs with hkind
    · rw [List.filter_cons_of_pos (by simp [hkind])]
      rfl
    · rw [List.filter_cons_of_neg (by simp [hkind])]
      rfl

theorem entriesFrom_append :
    entriesFrom o (l ++ m) = entriesFrom o l ++ entriesFrom (o + (l.map fun sec => alignedSize sec.size.toNat).sum) m := by
  induction l generalizing o with
  | nil => rfl
  | cons sec l ih =>
    rw [List.cons_append, entriesFrom, ih, entriesFrom, List.map_cons, List.sum_cons, Nat.add_assoc, List.cons_append]

theorem length_entriesFrom (o : ℕ) (l : List ElfSection) : (entriesFrom o l).length = l.length := by
  induction l generalizing o with
  | nil => rfl
  | cons sec l ih => rw [entriesFrom, List.length_cons, ih, List.length_cons]

theorem roomOf_entryParts (l : List PvaVpuDataSection) :
    roomOf (l.map entryPart) = sizeofPvaVpuDataSection * l.length := by
  induction l with
  | nil => rfl
  | cons e l ih =>
    have hcons : roomOf ((e :: l).map entryPart) = sizeofPvaVpuDataSection + roomOf (l.map entryPart) := rfl
    rw [hcons, ih, List.length_cons, Nat.mul_add, Nat.add_comm, Nat.mul_one]

theorem datas_singleton (sec : ElfSection) : datas [sec] = if kindOf sec = .vpuData then [sec] else [] := by
  unfold datas
  split_ifs with hkind
  · rw [List.filter_cons_of_pos (by simp [hkind]), List.filter_nil]
  · rw [List.filter_cons_of_neg (by simp [hkind]), List.filter_nil]

theorem textPieces_singleton (elf : ℕ → U8) (sec : ElfSection) : textPieces elf [sec] =
    if kindOf sec = .vpuCode then [⟨(sec.addr * 4).toNat, sec.size.toNat, swappedByte elf sec⟩] else [] :=
  List.append_nil _

theorem dataParts_singleton (elf : ℕ → U8) (sec : ElfSection) : dataParts elf [sec] = if kindOf sec = .vpuData then
      [⟨alignedSize sec.size.toNat, sec.size.toNat, fun k => elf (sec.offset.toNat + k)⟩] else [] :=
  List.append_nil _

theorem entriesFrom_concat_datas (hkind : kindOf sec = .vpuData) :
    entriesFrom 0 (datas (l ++ [sec])) = entriesFrom 0 (datas l) ++
      [⟨BitVec.ofNat 32 (dataOffset l), sec.addr, BitVec.ofNat 32 (alignedSize sec.size.toNat)⟩] := by
  rw [datas_append, datas_singleton, if_pos hkind, entriesFrom_append, Nat.zero_add]
  rfl

end

section

variable {kzalloc : ℕ → Bool} {hwGen : ℤ} {elf : ℕ → U8} {done : List ElfSection} {sec : ElfSection}
  {s s' : ElfSegments} {copies : List BufferCopy}

/-- The state when some sections have been copied. -/
structure SegmentsInv (elf : ℕ → U8) (hwGen : ℤ) (done : List ElfSection) (s : ElfSegments) : Prop where
  file : s.elf = elfAfter elf done
  code : Holds s.code (textPieces elf done)
  data : Holds s.data (stack 0 (dataParts elf done))
  dataSize : s.data.localsize.toNat = dataOffset done
  table : Holds s.dataSegmentInfo (stack 0 ((entriesFrom 0 (datas done)).map entryPart))
  tableSize : s.dataSegmentInfo.localsize.toNat = sizeofPvaVpuDataSection * (datas done).length
  count : s.dataSegmentInfo.numSegments.toNat = (datas done).length
  checked : ∀ e ∈ entriesFrom 0 (datas done), nvpvaValidateVmemOffset e.addr e.size hwGen = 0

theorem segmentsInv_new (elf : ℕ → U8) (hwGen : ℤ) : SegmentsInv elf hwGen [] (newElfSegments elf) :=
  ⟨rfl, holds_new, holds_new, rfl, holds_new, rfl, rfl, List.forall_mem_nil _⟩

theorem SegmentsInv.skip (h : SegmentsInv elf hwGen done s) (hcode : kindOf sec ≠ .vpuCode)
    (hdata : kindOf sec ≠ .vpuData) : SegmentsInv elf hwGen (done ++ [sec]) s := by
  have hdatas : datas (done ++ [sec]) = datas done := by
    rw [datas_append, datas_singleton, if_neg hdata, List.append_nil]
  have hoffset : dataOffset (done ++ [sec]) = dataOffset done := by
    unfold dataOffset
    rw [hdatas]
  refine ⟨?_, ?_, ?_, hoffset ▸ h.dataSize, hdatas ▸ h.table, hdatas ▸ h.tableSize, hdatas ▸ h.count,
    hdatas ▸ h.checked⟩
  · rw [elfAfter_concat, swapSection, if_neg hcode]
    exact h.file
  · rw [textPieces_append, textPieces_singleton, if_neg hcode, List.append_nil]
    exact h.code
  · rw [dataParts_append, dataParts_singleton, if_neg hdata, List.append_nil]
    exact h.data

/-- **A code section.** -/
theorem SegmentsInv.copyCode (hmax : ∀ n, kzalloc n = true → n ≤ 2 ^ 30) (h : SegmentsInv elf hwGen done s)
    (hkind : kindOf sec = .vpuCode) (hok : copyCodeSegment kzalloc sec s = (copies, .ok s')) :
    SegmentsInv elf hwGen (done ++ [sec]) s' ∧ CopiesInside copies := by
  have hdata : kindOf sec ≠ .vpuData := by
    rw [hkind]
    decide
  have hdatas : datas (done ++ [sec]) = datas done := by
    rw [datas_append, datas_singleton, if_neg hdata, List.append_nil]
  have hoffset : dataOffset (done ++ [sec]) = dataOffset done := by
    unfold dataOffset
    rw [hdatas]
  unfold copyCodeSegment at hok
  dsimp only at hok
  split at hok
  case h_1 => cases (Prod.mk.inj hok).2
  case h_2 copies' b hcopy =>
    obtain ⟨rfl, hs⟩ := Prod.mk.inj hok
    cases hs
    obtain ⟨hholds, hinside⟩ := copyToElfBufferCode_spec hmax h.code hcopy
    rw [h.file] at hholds
    refine ⟨⟨?_, ?_, ?_, hoffset ▸ h.dataSize, hdatas ▸ h.table, hdatas ▸ h.tableSize, hdatas ▸ h.count,
      hdatas ▸ h.checked⟩, hinside⟩
    · rw [elfAfter_concat, swapSection, if_pos hkind, ← h.file]
    · rw [textPieces_append, textPieces_singleton, if_pos hkind]
      exact hholds.of_segments _
    · rw [dataParts_append, dataParts_singleton, if_neg hdata, List.append_nil]
      exact h.data

/-- **A data section.** -/
theorem SegmentsInv.copyData (hmax : ∀ n, kzalloc n = true → n ≤ 2 ^ 30) (h : SegmentsInv elf hwGen done s)
    (hkind : kindOf sec = .vpuData) (hok : copyDataSegment kzalloc hwGen sec s = (copies, .ok s')) :
    SegmentsInv elf hwGen (done ++ [sec]) s' ∧ CopiesInside copies := by
  have hcode : kindOf sec ≠ .vpuCode := by
    rw [hkind]
    decide
  have hentries := entriesFrom_concat_datas (l := done) hkind
  unfold copyDataSegment at hok
  split at hok
  case h_1 => cases (Prod.mk.inj hok).2
  case h_2 copies1 b hcopy =>
    obtain ⟨hholds, hsize, hinside⟩ := copyToElfBuffer_spec hmax h.data hcopy
    rw [h.file] at hholds
    split at hok
    case isTrue => cases (Prod.mk.inj hok).2
    case isFalse =>
      dsimp only at hok
      split at hok
      case isTrue => cases (Prod.mk.inj hok).2
      case isFalse hcheck =>
        split at hok
        case h_1 => cases (Prod.mk.inj hok).2
        case h_2 copies2 table htable =>
          obtain ⟨htableHolds, htableSize, hcount, hinside'⟩ := copyToElfDataSecBuffer_spec hmax h.table htable
          split at hok
          case isTrue => cases (Prod.mk.inj hok).2
          case isFalse hroom =>
            obtain ⟨rfl, hs⟩ := Prod.mk.inj hok
            cases hs
            have hstart : s.data.localsize = BitVec.ofNat 32 (dataOffset done) := by
              rw [← h.dataSize, BitVec.ofNat_toNat, BitVec.setWidth_eq]
            have hlength : b.localsize - s.data.localsize = BitVec.ofNat 32 (alignedSize sec.size.toNat) := by
              apply BitVec.eq_of_toNat_eq
              rw [BitVec.toNat_sub, BitVec.toNat_ofNat]
              omega
            rw [hlength] at hcheck htableHolds
            have hentry : (⟨s.data.localsize, sec.addr, BitVec.ofNat 32 (alignedSize sec.size.toNat)⟩ :
                PvaVpuDataSection) =
                ⟨BitVec.ofNat 32 (dataOffset done), sec.addr, BitVec.ofNat 32 (alignedSize sec.size.toNat)⟩ :=
              congrArg (PvaVpuDataSection.mk · _ _) hstart
            rw [hentry] at htableHolds
            have hnumber : datas (done ++ [sec]) = datas done ++ [sec] := by
              rw [datas_append, datas_singleton, if_pos hkind]
            have hoffset : dataOffset (done ++ [sec]) = dataOffset done + alignedSize sec.size.toNat := by
              unfold dataOffset
              rw [hnumber, List.map_append, List.sum_append]
              rfl
            refine ⟨⟨?_, ?_, ?_, ?_, ?_, ?_, ?_, ?_⟩, hinside.append hinside'⟩
            · rw [elfAfter_concat, swapSection, if_neg hcode]
              exact h.file
            · rw [textPieces_append, textPieces_singleton, if_neg hcode, List.append_nil]
              exact h.code
            · rw [dataParts_append, dataParts_singleton, if_pos hkind, stack_append, Nat.zero_add, roomOf_dataParts,
                ← h.dataSize]
              exact hholds.of_segments _
            · rw [hoffset, ← h.dataSize]
              exact hsize
            · rw [hentries, List.map_append, stack_append, Nat.zero_add, roomOf_entryParts, length_entriesFrom,
                ← h.tableSize]
              exact htableHolds.of_segments _
            · rw [hnumber, List.length_append, Nat.mul_add, ← h.tableSize]
              exact htableSize
            · have hmaximum : (uintMax - 1).toNat = 2 ^ 32 - 2 := by decide
              rw [BitVec.not_le, BitVec.lt_def, hmaximum, hcount] at hroom
              rw [hnumber, List.length_append, ← h.count, hcount, BitVec.toNat_add]
              change (s.dataSegmentInfo.numSegments.toNat + 1) % 2 ^ 32 = s.dataSegmentInfo.numSegments.toNat + 1
              omega
            · rw [hentries, List.forall_mem_append, List.forall_mem_singleton]
              exact ⟨h.checked, not_not.mp hcheck⟩

/-- **A turn of the loop** copies a section by its kind. -/
theorem SegmentsInv.populate {kzalloc : ℕ → ℕ → Bool} {sections : List ElfSection} {i : ℕ}
    (hmax : ∀ n, kzalloc i n = true → n ≤ 2 ^ 30) (h : SegmentsInv elf hwGen done s) (hsec : sections[i]? = some sec)
    (hok : (populateSegment hwGen kzalloc sections i s).2 = .ok s') :
    SegmentsInv elf hwGen (done ++ [sec]) s' ∧ CopiesInside (populateSegment hwGen kzalloc sections i s).1 := by
  unfold populateSegment at hok ⊢
  rw [hsec] at hok ⊢
  dsimp only at hok ⊢
  split at hok
  case isFalse htype =>
    rw [if_neg htype]
    cases hok
    have hkind : kindOf sec = .vpuMaxType := if_neg htype
    refine ⟨h.skip ?_ ?_, copiesInside_nil⟩
    · rw [hkind]
      decide
    · rw [hkind]
      decide
  case isTrue htype =>
    rw [if_pos htype]
    unfold copySegments at hok ⊢
    cases hname : sec.name with
    | none =>
      rw [hname] at hok
      cases hok
    | some name =>
      rw [hname] at hok
      have hkind : kindOf sec = findPvaUcodeSegmentType name sec.addr := by
        unfold kindOf
        rw [if_pos htype, hname]
        rfl
      dsimp only at hok ⊢
      rw [← hkind] at hok ⊢
      cases hcase : kindOf sec with
      | vpuCode =>
        rw [hcase] at hok
        exact h.copyCode hmax hcase (Prod.ext rfl hok)
      | vpuData =>
        rw [hcase] at hok
        exact h.copyData hmax hcase (Prod.ext rfl hok)
      | vpuInParams | vpuMaxType =>
        rw [hcase] at hok
        cases hok
        refine ⟨h.skip ?_ ?_, copiesInside_nil⟩
        · rw [hcase]
          decide
        · rw [hcase]
          decide

/-- **The loop** keeps the invariant, and its copies are inside their buffers. -/
theorem segmentsInv_run {kzalloc : ℕ → ℕ → Bool} {sections : List ElfSection}
    (hmax : ∀ i n, kzalloc i n = true → n ≤ 2 ^ 30)
    (hok : populateSegments hwGen (newElfSegments elf) kzalloc sections = (copies, .ok s)) :
    SegmentsInv elf hwGen sections s ∧ CopiesInside copies := by
  unfold populateSegments at hok
  have hbefore : ∀ k s', stateBefore (populateSegment hwGen kzalloc sections) 0 (newElfSegments elf) k = some s' →
      k ≤ sections.length → SegmentsInv elf hwGen (sections.take k) s' := by
    intro k
    induction k with
    | zero =>
      intro s' hs' _
      cases hs'
      exact segmentsInv_new elf hwGen
    | succ k ih =>
      intro s' hs' hk
      obtain ⟨t, ht, hturn⟩ := stateBefore_succ_eq_some.mp hs'
      rw [Nat.zero_add] at hturn
      have hsec := List.getElem?_eq_getElem hk
      rw [List.take_succ_eq_append_getElem hk]
      exact ((ih t ht (Nat.le_of_succ_le hk)).populate (hmax k) hsec hturn).1
  have hend := tracedTurns_eq_ok.mp (congrArg Prod.snd hok)
  constructor
  · rw [← List.take_length (l := sections)]
    exact hbefore sections.length s hend le_rfl
  · have htrace := congrArg Prod.fst hok
    dsimp only at htrace
    unfold CopiesInside
    rw [← htrace, forall_mem_tracedTurns]
    intro k hk t ht
    obtain ⟨t', ht'⟩ := stateBefore_of_le (Nat.succ_le_of_lt hk) hend
    obtain ⟨t1, ht1, hturn⟩ := stateBefore_succ_eq_some.mp ht'
    obtain rfl := Option.some.inj (ht.symm.trans ht1)
    rw [Nat.zero_add] at hturn ⊢
    exact ((hbefore k t ht hk.le).populate (hmax k) (List.getElem?_eq_getElem hk) hturn).2

end

end NvidiaOot.Analysis
