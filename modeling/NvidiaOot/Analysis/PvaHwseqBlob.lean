import NvidiaOot.Model.PvaHwseqBlob

/-!
# The walk over a blob

The words of a column or row are behind its header, one a turn, and the running start is the place of the header.  The
loops keep this, so each read is placed by the number of its turn.
-/

namespace NvidiaOot.Analysis

open Library Program Model

variable {blob : ℕ → U8} {userCh : DmaChannel} {hdr : HwseqFrameHeader} {fid : U16} {s : HwseqParse}
  {dec p stop j n : ℕ} {a : HwseqAccess}

theorem mem_hwseqDescriptor {did dr : U8} {k : ℕ} (h : a ∈ (hwseqDescriptor userCh hdr fid did dr k s).1) :
    isDescMode fid = false ∧ a = .entry k := by
  unfold hwseqDescriptor at h
  split at h
  case h_1 => cases h
  case h_2 =>
    split at h
    case isTrue => cases h
    case isFalse hmode => exact ⟨Bool.not_eq_true _ ▸ hmode, List.mem_singleton.mp h⟩

/-- The loop over the words before turn `j`, for a header whose first word is at `p`.  It is left early only where there
is one word. -/
structure WordsInv (n p j : ℕ) (w : HwseqWords) : Prop where
  walking : w.left = false → w.k = j ∧ w.blobDesc = p + 4 * j
  left : w.left = true → n = 1 ∧ 0 < j ∧ w.blobDesc = p + 4

theorem wordsInv_start (n p : ℕ) (s : HwseqParse) : WordsInv n p 0 ⟨s, 0, p, false⟩ :=
  ⟨fun _ => ⟨rfl, rfl⟩, fun h => by cases h⟩

theorem WordsInv.not_left {w : HwseqWords} (h : WordsInv n p j w) (hj : j < n) : w.left = false := by
  by_contra hleft
  obtain ⟨hone, hpos, -⟩ := h.left (Bool.not_eq_false _ ▸ hleft)
  omega

/-- **A word's turn** reads its word, may write the next two entries, and goes on to the next word. -/
theorem WordsInv.turn {w : HwseqWords} (h : WordsInv n p j w) (hn : n = (dec + 2) / 2) (hj : j < n) :
    (∀ a ∈ (hwseqWord blob userCh hdr fid (dec + 1) w).1, a = .read (p + 4 * j) 4 ∨
        isDescMode fid = false ∧ (a = .entry j ∨ a = .entry (j + 1))) ∧
      HwseqAccess.read (p + 4 * j) 4 ∈ (hwseqWord blob userCh hdr fid (dec + 1) w).1 ∧
      ∀ w', (hwseqWord blob userCh hdr fid (dec + 1) w).2 = .ok w' → WordsInv n p (j + 1) w' := by
  have hleft := h.not_left hj
  obtain ⟨hk, hdesc⟩ := h.walking hleft
  have hword : sizeofDescHeader = 4 := rfl
  unfold hwseqWord
  rw [hleft, if_neg (by decide)]
  rw [hk, hdesc, hword]
  rcases hfirst : hwseqDescriptor userCh hdr fid (blob (p + 4 * j)) (blob (p + 4 * j + 1)) j w.parse with ⟨trace, r⟩
  have htrace : ∀ a ∈ trace, a = .read (p + 4 * j) 4 ∨ isDescMode fid = false ∧ (a = .entry j ∨ a = .entry (j + 1)) := by
    intro a ha
    obtain ⟨hmode, hentry⟩ := mem_hwseqDescriptor (a := a) (by rw [hfirst]; exact ha)
    exact Or.inr ⟨hmode, Or.inl hentry⟩
  cases r with
  | error e => exact ⟨List.forall_mem_cons.mpr ⟨Or.inl rfl, htrace⟩, List.mem_cons_self, fun w' h => by cases h⟩
  | ok s =>
    dsimp only
    split
    case isTrue hlast =>
      refine ⟨List.forall_mem_cons.mpr ⟨Or.inl rfl, htrace⟩, List.mem_cons_self, fun w' hw' => ?_⟩
      cases hw'
      exact ⟨fun h => (by cases h), fun _ => ⟨by omega, Nat.succ_pos j, by dsimp only; omega⟩⟩
    case isFalse hmore =>
      rcases hsecond : hwseqDescriptor userCh hdr fid (blob (p + 4 * j + 2)) (blob (p + 4 * j + 3)) (j + 1) s with
        ⟨trace', r'⟩
      have htrace' : ∀ a ∈ trace ++ trace',
          a = .read (p + 4 * j) 4 ∨ isDescMode fid = false ∧ (a = .entry j ∨ a = .entry (j + 1)) := by
        refine List.forall_mem_append.mpr ⟨htrace, fun a ha => ?_⟩
        obtain ⟨hmode, hentry⟩ := mem_hwseqDescriptor (a := a) (by rw [hsecond]; exact ha)
        exact Or.inr ⟨hmode, Or.inr hentry⟩
      cases r' with
      | error e => exact ⟨List.forall_mem_cons.mpr ⟨Or.inl rfl, htrace'⟩, List.mem_cons_self, fun w' h => by cases h⟩
      | ok s' =>
        refine ⟨List.forall_mem_cons.mpr ⟨Or.inl rfl, htrace'⟩, List.mem_cons_self, fun w' hw' => ?_⟩
        cases hw'
        exact ⟨fun _ => ⟨rfl, by dsimp only; omega⟩, fun h => by cases h⟩

/-- **The loop over the words** before a turn. -/
theorem wordsInv_before (hn : n = (dec + 2) / 2) :
    ∀ j ≤ n, ∀ w, stateBefore (fun _ => hwseqWord blob userCh hdr fid (dec + 1)) 0 ⟨s, 0, p, false⟩ j = some w →
      WordsInv n p j w := by
  intro j
  induction j with
  | zero =>
    intro _ w hw
    cases hw
    exact wordsInv_start n p s
  | succ j ih =>
    intro hj w hw
    obtain ⟨w', hbefore, hturn⟩ := stateBefore_succ_eq_some.mp hw
    exact ((ih (Nat.le_of_succ_le hj) w' hbefore).turn hn hj).2.2 w hturn

theorem mem_hwseqWords (hn : n = (dec + 2) / 2)
    (h : a ∈ (tracedTurns (fun _ => hwseqWord blob userCh hdr fid (dec + 1)) n 0 ⟨s, 0, p, false⟩).1) :
    ∃ j < n, a = .read (p + 4 * j) 4 ∨ isDescMode fid = false ∧ (a = .entry j ∨ a = .entry (j + 1)) := by
  obtain ⟨j, hj, w, hw, ha⟩ := mem_tracedTurns.mp h
  exact ⟨j, hj, ((wordsInv_before hn j hj.le w hw).turn hn hj).1 a ha⟩

theorem blobDesc_hwseqWords (hn : n = (dec + 2) / 2) {w : HwseqWords}
    (h : (tracedTurns (fun _ => hwseqWord blob userCh hdr fid (dec + 1)) n 0 ⟨s, 0, p, false⟩).2 = .ok w) :
    w.blobDesc = p + 4 * n := by
  have hinv := wordsInv_before hn n le_rfl w (tracedTurns_eq_ok.mp h)
  cases hleft : w.left with
  | false => exact (hinv.walking hleft).2
  | true =>
    obtain ⟨hone, -, hdesc⟩ := hinv.left hleft
    rw [hdesc, hone]

/-- The loop over the columns or rows before a turn, for a blob whose first header is at `first`. -/
structure WalkInv (first stop i : ℕ) (v : HwseqWalk) : Prop where
  start : v.start = v.crHeader
  blobDesc : v.blobDesc = v.crHeader + 4
  inside : v.crHeader ≤ stop
  first : i = 0 → v.crHeader = first

/-- What a column or row may read and write, for a header at `p`. -/
def ColRowAccess (fid : U16) (p stop : ℕ) (a : HwseqAccess) : Prop :=
  a = .read p 4 ∨
    (∃ q, a = .read q 4 ∧ p + 4 ≤ q ∧ q + 4 ≤ stop ∧ q + 4 ≤ p + 4 + 4 * 128 ∧
      (isFrameMode fid = true → q = p + 4)) ∨
    ∃ k < pvaHwseqDescLimit, a = .entry k

/-- **A column or row** has its header and its words, which end in the blob. -/
theorem WalkInv.turn {first i : ℕ} {v : HwseqWalk} (h : WalkInv first stop i v)
    (hmode : isDescMode fid = false → isFrameMode fid = true) :
    (∀ a ∈ (hwseqColRow blob userCh hdr fid stop v).1, ColRowAccess fid v.crHeader stop a) ∧
      ∀ v', (hwseqColRow blob userCh hdr fid stop v).2 = .ok v' → WalkInv first stop (i + 1) v' := by
  have hheader : ∀ a ∈ [HwseqAccess.read v.crHeader 4], ColRowAccess fid v.crHeader stop a :=
    List.forall_mem_singleton.mpr (Or.inl rfl)
  have hdec : hwseqDec blob v.crHeader < 256 := (blob v.crHeader).isLt
  have hsizes : sizeofDescHeader = 4 ∧ sizeofCrHeader = 4 := ⟨rfl, rfl⟩
  unfold hwseqColRow
  dsimp only
  rw [h.start, h.blobDesc, hsizes.1, hsizes.2]
  generalize hwseqDec blob v.crHeader = dec at hdec ⊢
  split
  case isTrue => exact ⟨hheader, fun v' h => by cases h⟩
  case isFalse hlimit =>
    split
    case isTrue => exact ⟨hheader, fun v' h => by cases h⟩
    case isFalse hroom =>
      have hframe : isFrameMode fid = true → dec ≤ 1 := by
        intro hframe
        have hlimit' := not_and.mp hlimit hframe
        unfold pvaHwseqDescLimit at hlimit'
        omega
      generalize hresult : tracedTurns _ _ _ _ = result
      have hwords : ∀ a ∈ result.1, ColRowAccess fid v.crHeader stop a := by
        intro a ha
        obtain ⟨j, hj, hread | ⟨hdesc, hentry⟩⟩ := mem_hwseqWords rfl (by rw [hresult]; exact ha)
        · refine Or.inr (Or.inl ⟨_, hread, Nat.le_add_right _ _, by omega, by omega, fun hf => ?_⟩)
          have hone := hframe hf
          omega
        · have hone := hframe (hmode hdesc)
          have hj' : j = 0 := by omega
          rw [hj'] at hentry
          exact Or.inr (Or.inr (hentry.elim (fun h => ⟨0, by decide, h⟩) fun h => ⟨1, by decide, h⟩))
      have hall := List.forall_mem_cons.mpr ⟨hheader _ List.mem_cons_self, hwords⟩
      rcases result with ⟨trace, e | w⟩
      · exact ⟨hall, fun v' h => by cases h⟩
      dsimp only
      split
      case isTrue => exact ⟨hall, fun v' h => by cases h⟩
      case isFalse hinside =>
        refine ⟨hall, fun v' hv' => ?_⟩
        cases hv'
        have hdesc := blobDesc_hwseqWords rfl (congrArg Prod.snd hresult)
        exact ⟨by dsimp only; omega, rfl, not_lt.mp hinside, fun h => by cases h⟩

/-- **The loop over the columns or rows** before a turn. -/
theorem walkInv_before (hmode : isDescMode fid = false → isFrameMode fid = true) (hp : p ≤ stop) :
    ∀ i v, stateBefore (fun _ => hwseqColRow blob userCh hdr fid stop) 0 ⟨s, p, p, p + sizeofCrHeader⟩ i = some v →
      WalkInv p stop i v := by
  intro i
  induction i with
  | zero =>
    intro v hv
    cases hv
    exact ⟨rfl, rfl, hp, fun _ => rfl⟩
  | succ i ih =>
    intro v hv
    obtain ⟨v', hbefore, hturn⟩ := stateBefore_succ_eq_some.mp hv
    exact ((ih v' hbefore).turn hmode).2 v hturn

/-- **What a walk reads and writes**: the frame header, and the headers and words of the columns or rows that it comes
to.  There is one of these on hardware before the third generation. -/
theorem mem_verifyHwseqBlob (h : a ∈ (verifyHwseqBlob blob userCh s).1) :
    BlobAccepted userCh s.task ∧ (a = .read (blobStart userCh) 12 ∨
      ∃ p fid, ColRowAccess fid p (blobStop userCh + 4) a ∧ p ≤ blobStop userCh + 4 ∧
        (s.task.version ≤ pvaHwGen2 → p = blobStart userCh + 12) ∧
        (s.task.hwseqTrigMode = nvpvaHwseqtmDmatrig → isFrameMode fid = true)) := by
  unfold verifyHwseqBlob at h
  dsimp only at h
  change a ∈ (if blobStop userCh ≤ blobStart userCh ∨ blobStop userCh - blobStart userCh + 4 < 20 then _
    else if s.task.hwseqBufSize.toNat < blobStop userCh then _ else _ : _ × _).1 at h
  split at h
  case isTrue => cases h
  case isFalse hroom =>
    split at h
    case isTrue => cases h
    case isFalse hsize =>
      refine ⟨⟨by omega, not_lt.mp hsize⟩, ?_⟩
      have hfirst : userCh.hwseqStart.toNat * 4 + sizeofFrameHeader ≤ userCh.hwseqEnd.toNat * 4 + 4 := by
        have hframe : sizeofFrameHeader = 12 := rfl
        unfold blobStop blobStart at hroom
        omega
      split at h
      case isTrue => exact Or.inl (List.mem_singleton.mp h)
      case isFalse htrig =>
        split at h
        case isTrue => exact Or.inl (List.mem_singleton.mp h)
        case isFalse hmodes =>
          split at h
          case isTrue => exact Or.inl (List.mem_singleton.mp h)
          case isFalse hcount =>
            have hmode : isDescMode (hwseqFid blob (userCh.hwseqStart.toNat * 4)) = false →
                isFrameMode (hwseqFid blob (userCh.hwseqStart.toNat * 4)) = true := by
              intro hdesc
              exact Bool.not_eq_false _ ▸ not_and.mp hmodes hdesc
            rcases List.mem_cons.mp h with hframe | h
            · exact Or.inl hframe
            obtain ⟨i, hi, v, hv, ha⟩ := mem_tracedTurns.mp h
            have hinv := walkInv_before hmode hfirst i v hv
            refine Or.inr ⟨v.crHeader, _, (hinv.turn hmode).1 a ha, hinv.inside, fun hgen => ?_, fun hdma => ?_⟩
            · apply hinv.first
              unfold pvaHwseqColRowLimit at hcount
              omega
            · apply hmode
              exact Bool.eq_false_iff.mpr fun hdesc => htrig ⟨hdesc, hdma⟩

theorem hwseqDescriptor_first (userCh : DmaChannel) (hdr : HwseqFrameHeader) (hmode : isDescMode fid = true)
    (hversion : s.task.version ≠ 0) (dr : U8) (k : ℕ) :
    ∃ s', hwseqDescriptor userCh hdr fid 1 dr k s = ([], .ok s') ∧ s'.task.version = s.task.version := by
  have hone : (1 : U8).toNat = 1 := by decide
  have hid : ¬ (1 = 0 ∨ maxDescId s.task.version ≤ 1 ∨ (nvpvaReservedDescriptorsStartIdx ≤ 1 - 1 ∧
      1 - 1 ≤ nvpvaReservedDescriptorsStartIdx + nvpvaNumReservedDescriptors - 1)) := by
    unfold maxDescId nvpvaReservedDescriptorsStartIdx
    rw [if_neg hversion]
    omega
  unfold hwseqDescriptor verifyDmaDescHwseq reject
  rw [hone, if_neg hid]
  rw [hmode, if_pos rfl]
  exact ⟨_, rfl, rfl⟩

/-- **All words are reached** in descriptor mode when they have the first descriptor. -/
theorem words_reached (hmode : isDescMode fid = true) (hversion : s.task.version ≠ 0) (hn : n = (dec + 2) / 2)
    (hblob : ∀ q, p ≤ q → blob q = 1) :
    ∀ j ≤ n, ∃ w, stateBefore (fun _ => hwseqWord blob userCh hdr fid (dec + 1)) 0 ⟨s, 0, p, false⟩ j = some w ∧
      w.parse.task.version ≠ 0 := by
  intro j
  induction j with
  | zero => exact fun _ => ⟨_, rfl, hversion⟩
  | succ j ih =>
    intro hj
    obtain ⟨w, hw, hw'⟩ := ih (Nat.le_of_succ_le hj)
    have hinv := wordsInv_before hn j (Nat.le_of_succ_le hj) w hw
    have hleft := hinv.not_left hj
    have hdesc := (hinv.walking hleft).2
    have hbyte : ∀ i, blob (w.blobDesc + i) = 1 := fun i => hblob _ (by omega)
    obtain ⟨s1, hfirst, hversion1⟩ := hwseqDescriptor_first userCh hdr hmode hw'
      (blob (w.blobDesc + 1)) w.k
    obtain ⟨s2, hsecond, hversion2⟩ := hwseqDescriptor_first userCh hdr hmode (hversion1 ▸ hw')
      (blob (w.blobDesc + 3)) (w.k + 1)
    have hturn : ∃ w', (hwseqWord blob userCh hdr fid (dec + 1) w).2 = .ok w' ∧ w'.parse.task.version ≠ 0 := by
      have hzero : blob w.blobDesc = 1 := hbyte 0
      unfold hwseqWord
      rw [hleft, if_neg (by decide)]
      dsimp only
      rw [hzero, hfirst, hbyte 2]
      dsimp only
      split
      case isTrue => exact ⟨_, rfl, hversion1 ▸ hw'⟩
      case isFalse =>
        rw [hsecond]
        exact ⟨_, rfl, (hversion2.trans hversion1) ▸ hw'⟩
    obtain ⟨w', hok, hversion'⟩ := hturn
    exact ⟨w', stateBefore_succ_eq_some.mpr ⟨w, hw, hok⟩, hversion'⟩

/-- A blob of one column or row with `n` words of the first descriptor. -/
def farBlob (start n : ℕ) (fid : U16) (p : ℕ) : U8 :=
  if p = start then fid.extractLsb' 0 8
  else if p = start + 1 then fid.extractLsb' 8 8
  else if p = start + 3 then 0
  else if p = start + 12 then BitVec.ofNat 8 (2 * n - 2)
  else 1

theorem farBlob_fid {start : ℕ} (hfid : fid = pvaHwseqFrameAddr ∨ fid = pvaHwseqDescAddr) :
    hwseqFid (farBlob start n fid) start = fid := by
  have hlow : farBlob start n fid start = fid.extractLsb' 0 8 := if_pos rfl
  have hhigh : farBlob start n fid (start + 1) = fid.extractLsb' 8 8 := (if_neg (by omega)).trans (if_pos rfl)
  unfold hwseqFid
  rw [hlow, hhigh]
  rcases hfid with rfl | rfl
  · decide
  · decide

/-- **The last word** of such a blob is read. -/
theorem farBlob_reads (hblob : BlobAccepted userCh s.task) (hversion : s.task.version ≠ 0) (hpos : 0 < n) (hn : n ≤ 128)
    (hroom : blobStart userCh + 12 + 4 * n ≤ blobStop userCh)
    (hfid : fid = pvaHwseqDescAddr ∧ s.task.hwseqTrigMode ≠ nvpvaHwseqtmDmatrig ∨ fid = pvaHwseqFrameAddr ∧ n = 1) :
    HwseqAccess.read (blobStart userCh + 16 + 4 * (n - 1)) 4 ∈
      (verifyHwseqBlob (farBlob (blobStart userCh) n fid) userCh s).1 := by
  have hstart : userCh.hwseqStart.toNat * 4 = blobStart userCh := rfl
  have hstop : userCh.hwseqEnd.toNat * 4 = blobStop userCh := rfl
  have hsizes : sizeofHwSweqBlob = 20 ∧ sizeofFrameHeader = 12 ∧ sizeofCrHeader = 4 ∧ sizeofDescHeader = 4 :=
    ⟨rfl, rfl, rfl, rfl⟩
  have hcount : hwseqNoCr (farBlob (blobStart userCh) n fid) (blobStart userCh) = 0 := by
    unfold hwseqNoCr farBlob
    rw [if_neg (by omega), if_neg (by omega), if_pos rfl]
    rfl
  have hdec : hwseqDec (farBlob (blobStart userCh) n fid) (blobStart userCh + 12) = 2 * n - 2 := by
    unfold hwseqDec farBlob
    rw [if_neg (by omega), if_neg (by omega), if_neg (by omega), if_pos rfl, BitVec.toNat_ofNat]
    omega
  have hwords : ∀ q, blobStart userCh + 12 + 4 ≤ q → farBlob (blobStart userCh) n fid q = 1 := by
    intro q hq
    unfold farBlob
    rw [if_neg (by omega), if_neg (by omega), if_neg (by omega), if_neg (by omega)]
  unfold verifyHwseqBlob
  rw [hstart, hstop, hsizes.1, if_neg (by omega), if_neg (not_lt.mpr hblob.size),
    farBlob_fid (hfid.symm.imp And.left And.left), hcount]
  rw [if_neg, if_neg, if_neg]
  · refine List.mem_cons_of_mem _ (mem_tracedTurns.mpr ⟨0, Nat.one_pos, _, rfl, ?_⟩)
    generalize hwseqFrameHeader _ _ = hdr
    unfold hwseqColRow
    dsimp only
    rw [hsizes.2.1, hsizes.2.2.1, hsizes.2.2.2, hdec, if_neg, if_neg (by omega)]
    · have hmem : HwseqAccess.read (blobStart userCh + 16 + 4 * (n - 1)) 4 ∈
          (tracedTurns (fun _ => hwseqWord (farBlob (blobStart userCh) n fid) userCh hdr fid (2 * n - 2 + 1))
            ((2 * n - 2 + 2) / 2) 0 ⟨s, 0, blobStart userCh + 12 + 4, false⟩).1 := by
        have hcases : n = (2 * n - 2 + 2) / 2 := by omega
        have hreached : ∃ w, stateBefore (fun _ => hwseqWord (farBlob (blobStart userCh) n fid) userCh hdr fid
            (2 * n - 2 + 1)) 0 ⟨s, 0, blobStart userCh + 12 + 4, false⟩ (n - 1) = some w := by
          rcases hfid with ⟨rfl, -⟩ | ⟨-, rfl⟩
          · have hmode : isDescMode pvaHwseqDescAddr = true := by decide
            obtain ⟨w, hw, -⟩ := words_reached hmode hversion hcases hwords (n - 1) (Nat.sub_le n 1)
            exact ⟨w, hw⟩
          · exact ⟨_, rfl⟩
        obtain ⟨w, hw⟩ := hreached
        have hlt : n - 1 < n := Nat.sub_lt hpos Nat.one_pos
        rw [← hcases]
        exact mem_tracedTurns.mpr ⟨n - 1, hlt, w, hw,
          ((wordsInv_before hcases (n - 1) hlt.le w hw).turn hcases hlt).2.1⟩
      split
      case h_1 htrace => exact List.mem_cons_of_mem _ (by rw [htrace] at hmem; exact hmem)
      case h_2 htrace =>
        rw [htrace] at hmem
        split
        · exact List.mem_cons_of_mem _ hmem
        · exact List.mem_cons_of_mem _ hmem
    · rintro ⟨hframe, hlimit⟩
      rcases hfid with ⟨rfl, -⟩ | ⟨-, rfl⟩
      · exact absurd hframe (by decide)
      · exact absurd hlimit (by decide)
  · exact fun h => absurd h.1 (by decide)
  · rintro ⟨hdesc, hframe⟩
    rcases hfid with ⟨rfl, -⟩ | ⟨rfl, -⟩
    · exact absurd hdesc (by decide)
    · exact absurd hframe (by decide)
  · rintro ⟨hdesc, htrig⟩
    rcases hfid with ⟨rfl, hother⟩ | ⟨rfl, -⟩
    · exact hother htrig
    · exact absurd hdesc (by decide)

/-- **Exactly when a walk stays inside the blob**, whatever the blob has: every walk's reads are in the buffer and in the
pinned memory, and its writes are entries of the channel, just when the buffer and the memory have all that a walk can
come to.  The check of the blob's end takes the last word's place for the end, so it admits a buffer that lacks this
word; and the buffer's offset and size are not checked against the pinned memory.
SOURCE: drivers/video/tegra/host/pva/pva_dma.c:1817-2023, 2207-2247 -/
theorem blob_walk_inside_iff (hgen : s.task.version = 1 ∨ s.task.version = 2) (offset memSize : ℕ) :
    (∀ blob, ∀ a ∈ (verifyHwseqBlob blob userCh s).1,
        HwseqAccess.Inside s.task.hwseqBufSize.toNat offset memSize a) ↔ WalkFits userCh s.task offset memSize := by
  have hversion : s.task.version ≠ 0 := by omega
  have hgen2 : s.task.version ≤ pvaHwGen2 := by
    unfold pvaHwGen2
    omega
  constructor
  · intro h hblob
    have hroom := hblob.room
    unfold walkLimit
    split
    case isTrue htrig =>
      exact h _ _ (farBlob_reads (n := 1) hblob hversion Nat.one_pos (by decide) hroom (Or.inr ⟨rfl, rfl⟩))
    case isFalse htrig =>
      -- the blob has as many words as it can
      obtain ⟨n, hn⟩ : ∃ n, n = min 128 ((blobStop userCh - blobStart userCh - 12) / 4) := ⟨_, rfl⟩
      have hwords : 4 ∣ blobStop userCh ∧ 4 ∣ blobStart userCh := ⟨Dvd.intro_left _ rfl, Dvd.intro_left _ rfl⟩
      have hread := h _ _ (farBlob_reads (n := n) hblob hversion (by omega) (by omega) (by omega)
        (Or.inl ⟨rfl, htrig⟩))
      have hlimit : blobStart userCh + 16 + 4 * (n - 1) + 4 =
          min (blobStop userCh + 4) (blobStart userCh + 16 + 4 * 128) := by omega
      rw [← hlimit]
      exact hread
  · intro hfits blob a ha
    obtain ⟨hblob, hcases⟩ := mem_verifyHwseqBlob ha
    obtain ⟨hsize, hmem⟩ := hfits hblob
    have hroom := hblob.room
    -- every read ends where the limit is, or before
    have hinside : ∀ q len, q + len ≤ walkLimit userCh s.task →
        HwseqAccess.Inside s.task.hwseqBufSize.toNat offset memSize (.read q len) :=
      fun q len hq => ⟨hq.trans hsize, (Nat.add_le_add_left hq offset).trans hmem⟩
    have hleast : blobStart userCh + 20 ≤ walkLimit userCh s.task := by
      unfold walkLimit
      split <;> omega
    rcases hcases with rfl | ⟨p, fid, haccess, -, hfirst, hframe⟩
    · exact hinside _ _ (by omega)
    rcases haccess with rfl | ⟨q, rfl, hq, hstop, hfar, hone⟩ | ⟨k, hk, rfl⟩
    · exact hinside _ _ (by omega)
    · apply hinside
      unfold walkLimit
      split
      case isTrue htrig =>
        have hword := hone (hframe htrig)
        omega
      case isFalse => omega
    · exact hk

/-- A channel of the second generation whose blob has words 0 to 4, in a buffer of the given size. -/
def fiveWords : DmaChannel := { (default : DmaChannel) with hwseqEnd := 4 }
def blobBuffer (size : U32) : HwseqParse :=
  ⟨{ (default : DmaTask) with version := 2, hwseqBufSize := size }, false, fun _ => default, 0⟩

/-- Five words in twenty bytes. -/
theorem five_words_inside :
    ¬ ∃ blob, ∃ a ∈ (verifyHwseqBlob blob fiveWords (blobBuffer 20)).1, ¬ HwseqAccess.Inside 20 0 4096 a := by
  rintro ⟨blob, a, ha, hno⟩
  refine hno ((blob_walk_inside_iff (s := blobBuffer 20) (Or.inr rfl) 0 4096).mpr (fun _ => ?_) blob a ha)
  decide

/-- A buffer that ends before the last word is accepted, and the word is read. -/
theorem last_word_behind_buffer :
    ¬ ∀ blob, ∀ a ∈ (verifyHwseqBlob blob fiveWords (blobBuffer 16)).1, HwseqAccess.Inside 16 0 4096 a := by
  intro h
  have hread := h (farBlob 0 1 pvaHwseqDescAddr) (.read 16 4) (by decide +kernel)
  exact absurd hread.1 (by decide)

end NvidiaOot.Analysis
