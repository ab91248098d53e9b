import NvidiaOot.Model.RtcpuTrace

/-!
# Lengths are passed on as they come, the log clamps them

The log never writes behind its buffer, for events of any contents.  What other consumers get is the
length of the event, and a line with a NUL is cut there: a run is sound if and only if the lengths
fit wherever they are used and the texts that are printed have no NUL.
-/

namespace NvidiaOot.Analysis

open Library Program Model

variable {e : CamrtcEvent} {s : DecodeRun} {text : List U8}

/-! ## Lengths -/

theorem payloadLen_le_iff (e : CamrtcEvent) {limit : ℕ} (hlimit : limit < 2 ^ 31) :
    e.payloadLen.toNat ≤ limit ↔ LengthWithin e limit := by
  unfold LengthWithin CamrtcEvent.payloadLen CAMRTC_TRACE_EVENT_HEADER_SIZE
  bv_omega

theorem payloadLen_words_le_iff (e : CamrtcEvent) : e.payloadLen.toNat / 4 * 4 ≤ CAMRTC_TRACE_EVENT_PAYLOAD_SIZE ↔
      LengthWithin e (CAMRTC_TRACE_EVENT_PAYLOAD_SIZE + 3) := by
  rw [← payloadLen_le_iff e (by decide)]
  unfold CAMRTC_TRACE_EVENT_PAYLOAD_SIZE
  omega

theorem length_cString_le (text : List U8) : (cString text).length ≤ text.length :=
  (List.takeWhile_prefix _).length_le

theorem cString_eq_self_iff (text : List U8) : cString text = text ↔ 0 ∉ text := by
  unfold cString
  rw [List.takeWhile_eq_self_iff]
  constructor
  · intro h hmem
    have hzero := h 0 hmem
    simp at hzero
  · intro h x hx
    have hne : x ≠ 0 := fun heq => h (heq ▸ hx)
    simpa using hne

theorem length_cString_lt_iff (text : List U8) : (cString text).length < text.length ↔ 0 ∈ text := by
  have hprefix : cString text <+: text := List.takeWhile_prefix _
  rw [← not_iff_not, ← cString_eq_self_iff, not_lt]
  constructor
  · exact hprefix.eq_of_length_le
  · intro heq
    rw [heq]

theorem seqPutsLen_le_iff (e : CamrtcEvent) :
    seqPutsLen e.data8 ≤ CAMRTC_TRACE_EVENT_PAYLOAD_SIZE ↔ 0 ∈ e.data8 := by
  rw [← length_cString_lt_iff, e.size]
  exact Nat.succ_le_iff

/-! ## Which events pass their length on -/

def knownTable : List (ℕ × List U32) :=
  [(CAMRTC_EVENT_MODULE_BASE, camrtcTraceBaseIds), (CAMRTC_EVENT_MODULE_RTOS, camrtcTraceRtosIds),
    (CAMRTC_EVENT_MODULE_DBG, camrtcTraceDbgIds), (CAMRTC_EVENT_MODULE_VINOTIFY, camrtcTraceVinotifyIds),
    (CAMRTC_EVENT_MODULE_VI, camrtcTraceViIds), (CAMRTC_EVENT_MODULE_ISP, camrtcTraceIspIds),
    (CAMRTC_EVENT_MODULE_NVCSI, camrtcTraceNvcsiIds), (CAMRTC_EVENT_MODULE_CAPTURE, camrtcTraceCaptureIds),
    (CAMRTC_EVENT_MODULE_PERF, camrtcTracePerfIds)]

theorem knownTable_module : ∀ row ∈ knownTable, ∀ id ∈ row.2, camrtcEventModuleFromId id = row.1 := by
  have hall : knownTable.all fun row => row.2.all fun id =>
      decide (camrtcEventModuleFromId id = row.1) := by
    decide +kernel
  simpa only [List.all_eq_true, decide_eq_true_eq] using hall

theorem mem_knownIds {id : U32} : id ∈ knownIds ↔ ∃ row ∈ knownTable, id ∈ row.2 := by
  simp [knownIds, knownTable]

theorem mem_knownIds_of_module {id : U32} {row : ℕ × List U32} (hrow : row ∈ knownTable)
    (hmodule : camrtcEventModuleFromId id = row.1) : id ∈ knownIds ↔ id ∈ row.2 := by
  have hunique : ∀ row ∈ knownTable, ∀ row' ∈ knownTable, row.1 = row'.1 → row = row' := by
    decide +kernel
  rw [mem_knownIds]
  constructor
  · rintro ⟨row', hrow', hid⟩
    have heq := hunique row hrow row' hrow' (hmodule.symm.trans (knownTable_module row' hrow' id hid))
    rw [heq]
    exact hid
  · exact fun hid => ⟨row, hrow, hid⟩

def AllWithin (lengths : List ℕ) : Prop := ∀ len ∈ lengths, len ≤ CAMRTC_TRACE_EVENT_PAYLOAD_SIZE

theorem allWithin_dump (e : CamrtcEvent) :
    AllWithin (traceRtcpuDump e) ↔ LengthWithin e CAMRTC_TRACE_EVENT_PAYLOAD_SIZE := by
  rw [← payloadLen_le_iff e (by decide)]
  simp [AllWithin, traceRtcpuDump]

theorem allWithin_decodeOrDump {row : ℕ × List U32} (hrow : row ∈ knownTable)
    (hmodule : camrtcEventModuleFromId e.id = row.1) : AllWithin (decodeOrDump row.2 e) ↔
      (e.id ∉ knownIds → LengthWithin e CAMRTC_TRACE_EVENT_PAYLOAD_SIZE) := by
  rw [mem_knownIds_of_module hrow hmodule]
  unfold decodeOrDump
  split
  next hmem => simp [AllWithin, hmem]
  next hnot => simp [allWithin_dump, hnot]

/-- **Events of the modules** pass their length on when they are not known. -/
theorem allWithin_arrayEvent (e : CamrtcEvent) : AllWithin (rtcpuTraceArrayEvent e) ↔
      (¬ (camrtcEventModuleFromId e.id = CAMRTC_EVENT_MODULE_I2C ∨ e.id ∈ knownIds) →
        LengthWithin e CAMRTC_TRACE_EVENT_PAYLOAD_SIZE) := by
  have hrow : ∀ row ∈ knownTable, camrtcEventModuleFromId e.id = row.1 →
      (AllWithin (decodeOrDump row.2 e) ↔
        (¬ (camrtcEventModuleFromId e.id = CAMRTC_EVENT_MODULE_I2C ∨ e.id ∈ knownIds) →
          LengthWithin e CAMRTC_TRACE_EVENT_PAYLOAD_SIZE)) := by
    intro row hrow hmodule
    have hi2c : ∀ row ∈ knownTable, row.1 ≠ CAMRTC_EVENT_MODULE_I2C := by decide +kernel
    rw [allWithin_decodeOrDump hrow hmodule, hmodule]
    simp [hi2c row hrow]
  unfold rtcpuTraceArrayEvent
  dsimp only
  split_ifs with h1 h2 h3 h4 h5 h6 h7 h8 h9 h10
  · exact hrow (CAMRTC_EVENT_MODULE_BASE, camrtcTraceBaseIds) (by simp [knownTable]) h1
  · exact hrow (CAMRTC_EVENT_MODULE_RTOS, camrtcTraceRtosIds) (by simp [knownTable]) h2
  · exact hrow (CAMRTC_EVENT_MODULE_DBG, camrtcTraceDbgIds) (by simp [knownTable]) h3
  · exact hrow (CAMRTC_EVENT_MODULE_VINOTIFY, camrtcTraceVinotifyIds) (by simp [knownTable]) h4
  · simp [AllWithin, h5]
  · exact hrow (CAMRTC_EVENT_MODULE_VI, camrtcTraceViIds) (by simp [knownTable]) h6
  · exact hrow (CAMRTC_EVENT_MODULE_ISP, camrtcTraceIspIds) (by simp [knownTable]) h7
  · exact hrow (CAMRTC_EVENT_MODULE_NVCSI, camrtcTraceNvcsiIds) (by simp [knownTable]) h8
  · exact hrow (CAMRTC_EVENT_MODULE_CAPTURE, camrtcTraceCaptureIds) (by simp [knownTable]) h9
  · exact hrow (CAMRTC_EVENT_MODULE_PERF, camrtcTracePerfIds) (by simp [knownTable]) h10
  · have hunknown : e.id ∉ knownIds := by
      intro hmem
      obtain ⟨row, hmemrow, hid⟩ := mem_knownIds.mp hmem
      have hmodule := knownTable_module row hmemrow e.id hid
      simp [knownTable] at hmemrow
      grind
    rw [allWithin_dump]
    simp [h5, hunknown]

/-- **An event** passes its length on when its type does not ignore it. -/
theorem allWithin_event (e : CamrtcEvent) : AllWithin (rtcpuTraceEvent e) ↔
      (¬ IgnoresLength e.id → LengthWithin e CAMRTC_TRACE_EVENT_PAYLOAD_SIZE) := by
  have hdump := allWithin_dump e
  have harray := allWithin_arrayEvent e
  have hnil : AllWithin [] := by simp [AllWithin]
  have hstring : traceRtcpuString e = traceRtcpuDump e := rfl
  unfold rtcpuTraceEvent IgnoresLength
  unfold CAMRTC_EVENT_TYPE_ARRAY CAMRTC_EVENT_TYPE_ARMV7_EXCEPTION CAMRTC_EVENT_TYPE_PAD
    CAMRTC_EVENT_TYPE_START CAMRTC_EVENT_TYPE_STRING CAMRTC_EVENT_TYPE_BULK
  dsimp only
  split_ifs with h0 h1 h2 h3 h4 h5
  · simp [h0, harray]
  · simp [h1, hnil]
  · simp [h2, hnil]
  · simp [h3, hnil]
  · simp [h0, h1, h2, h3, hstring, hdump]
  · simp [h0, h1, h2, h3, hdump]
  · simp [h0, h1, h2, h3, hdump]

/-- **The reader of the saved event** runs over its length. -/
theorem allWithin_lastEvent (nEvents : ℕ) (e : CamrtcEvent) :
    AllWithin (rtcpuTraceDebugfsLastEventRead nEvents e) ↔ (nEvents ≠ 0 → SavedWithin e) := by
  have hwords := payloadLen_words_le_iff e
  have hbytes := @payloadLen_le_iff e CAMRTC_TRACE_EVENT_PAYLOAD_SIZE (by decide)
  have htext := seqPutsLen_le_iff e
  unfold rtcpuTraceDebugfsLastEventRead SavedWithin
  unfold CAMRTC_EVENT_TYPE_ARRAY CAMRTC_EVENT_TYPE_STRING CAMRTC_EVENT_TYPE_BULK
  dsimp only
  split_ifs with hn h0 h4 h5
  · simp [AllWithin, hn]
  · simp [AllWithin, hn, h0, hwords]
  · simp [AllWithin, hn, h4, htext]
  · simp [AllWithin, hn, h5, hbytes]
  · simp [AllWithin, h0, h4, h5]

/-! ## The log -/

theorem logLen_le (e : CamrtcEvent) : e.logLen ≤ CAMRTC_TRACE_EVENT_PAYLOAD_SIZE := by
  have htext := length_cString_le e.data8
  rw [e.size] at htext
  unfold CamrtcEvent.logLen
  dsimp only
  split_ifs
  · exact htext
  · exact le_rfl
  · exact htext
  · omega

theorem length_piece (e : CamrtcEvent) : (CamrtcEvent.piece e).length = e.logLen := by
  unfold CamrtcEvent.piece
  rw [List.length_take, e.size]
  exact min_eq_left (logLen_le e)

/-- **The loop** drops the ends of lines at the end of a text. -/
theorem take_dropLineEnds (printk : List U8) {n : ℕ} (hn : n ≤ printk.length)
    (hend : (printk.take n).getLast?.any isLineEnd = true) :
    printk.take (dropLineEnds printk n) = withoutLineEnds (printk.take n) := by
  unfold withoutLineEnds
  induction n with
  | zero => simp at hend
  | succ n ih =>
    have hsplit : printk.take (n + 1) = printk.take n ++ [printk[n]] :=
      (List.take_append_getElem (by omega)).symm
    rw [hsplit, List.getLast?_append] at hend
    simp only [List.getLast?_singleton, Option.some_or, Option.any_some] at hend
    rw [hsplit, List.rdropWhile_concat_pos _ _ _ hend]
    unfold dropLineEnds
    by_cases hzero : n = 0
    · subst hzero
      simp
    rw [if_neg hzero]
    have hlast : printk[n - 1]? = (printk.take n).getLast? := by
      rw [List.getLast?_eq_getElem?, List.length_take, min_eq_left (by omega), List.getElem?_take,
        if_pos (by omega)]
    rw [hlast]
    split
    next hmore => exact ih (by omega) hmore
    next hstop =>
      symm
      rw [List.rdropWhile_eq_self_iff]
      intro hne
      rw [List.getLast?_eq_some_getLast hne, Option.any_some] at hstop
      exact hstop

theorem withoutLineEnds_eq_self (h : ¬ text.getLast?.any isLineEnd = true) : withoutLineEnds text = text := by
  unfold withoutLineEnds
  rw [List.rdropWhile_eq_self_iff]
  intro hne
  rw [List.getLast?_eq_some_getLast hne, Option.any_some] at h
  exact h

theorem zero_mem_withoutLineEnds (text : List U8) : 0 ∈ withoutLineEnds text ↔ 0 ∈ text := by
  induction text using List.reverseRecOn with
  | nil => simp [withoutLineEnds]
  | append_singleton text c ih =>
    unfold withoutLineEnds at ih ⊢
    by_cases hend : isLineEnd c = true
    · have hne : c ≠ 0 := by
        rintro rfl
        exact absurd hend (by decide)
      rw [List.rdropWhile_concat_pos _ _ _ hend, ih, List.mem_append, List.mem_singleton]
      exact ⟨Or.inl, fun h => h.resolve_right hne.symm⟩
    · rw [List.rdropWhile_concat_neg _ _ _ hend]

/-- What is printed of a text is the text without the ends of lines, if it has no NUL. -/
theorem cString_withoutLineEnds_iff (text : List U8) :
    cString (withoutLineEnds text) = withoutLineEnds text ↔ 0 ∉ text := by
  rw [cString_eq_self_iff, zero_mem_withoutLineEnds]

/-! ## Runs -/

structure DecodeInv (s : DecodeRun) : Prop where
  pending : s.pending.flatten = s.printk
  open_ : ¬ s.printk.getLast?.any isLineEnd = true
  inside : s.LogInside
  complete : s.LinesComplete

theorem decodeInv_start (enablePrintk : Bool) : DecodeInv (decodeStart enablePrintk) := by
  refine ⟨rfl, by simp [decodeStart], ⟨by simp [decodeStart], ?_⟩, rfl⟩
  nofun

/-- A step adds lines that are exact just when `P` holds. -/
def AddsLines (s s' : DecodeRun) (P : Prop) : Prop :=
  ∃ new, s'.lines = s.lines ++ new ∧ ((∀ line ∈ new, LineExact line) ↔ P)

theorem line_of_end (hend : text.getLast?.any isLineEnd = true) :
    cString (text.take (dropLineEnds text text.length)) = cString (withoutLineEnds text) := by
  rw [take_dropLineEnds text le_rfl, List.take_length]
  rwa [List.take_length]

theorem lineExact_of_flatten {parts : List (List U8)} (h : parts.flatten = text) :
    LineExact (cString (withoutLineEnds text), parts) ↔ 0 ∉ text := by
  subst h
  exact cString_withoutLineEnds_iff _

def EndsLine (text : List U8) : Prop := text.getLast?.any isLineEnd = true

instance EndsLine.decidable (text : List U8) : Decidable (EndsLine text) :=
  inferInstanceAs (Decidable (_ = _))

def Overflows (printk : List U8) (e : CamrtcEvent) : Prop := printk.length + e.logLen > printkSize

instance Overflows.decidable (printk : List U8) (e : CamrtcEvent) : Decidable (Overflows printk e) :=
  inferInstanceAs (Decidable (_ > _))

/-- The text after the piece, and the pieces that it is made of. -/
def textAfter (printk : List U8) (e : CamrtcEvent) : List U8 :=
  (if Overflows printk e then [] else printk) ++ CamrtcEvent.piece e

def partsAfter (s : DecodeRun) (e : CamrtcEvent) : List (List U8) :=
  (if Overflows s.printk e then [] else s.pending) ++ [CamrtcEvent.piece e]

def linesBefore (s : DecodeRun) (e : CamrtcEvent) : List (List U8 × List (List U8)) :=
  if Overflows s.printk e then [(cString s.printk, s.pending)] else []

def linesAfter (s : DecodeRun) (e : CamrtcEvent) : List (List U8 × List (List U8)) :=
  if EndsLine (textAfter s.printk e) then
    [(cString (withoutLineEnds (textAfter s.printk e)), partsAfter s e)]
  else []

theorem traceRtcpuLog_eq (printk : List U8) (hid : e.id = camrtcTraceTypeString) : traceRtcpuLog printk e =
      { tooLong := if Overflows printk e then some (cString printk) else none
        write := some ((if Overflows printk e then [] else printk).length, e.logLen)
        line := if EndsLine (textAfter printk e) then
            some (cString (withoutLineEnds (textAfter printk e)))
          else none
        printk := if EndsLine (textAfter printk e) then [] else textAfter printk e } := by
  unfold traceRtcpuLog
  rw [if_neg (not_not.mpr hid)]
  change (if EndsLine (textAfter printk e) then _ else _) = _
  by_cases hend : EndsLine (textAfter printk e)
  · rw [if_pos hend, if_pos hend, if_pos hend, ← line_of_end hend]
    rfl
  · rw [if_neg hend, if_neg hend, if_neg hend]
    rfl

theorem log_eq (s : DecodeRun) (hid : e.id = camrtcTraceTypeString) : s.log e = { s with
      printk := if EndsLine (textAfter s.printk e) then [] else textAfter s.printk e
      writes := s.writes ++ [((if Overflows s.printk e then [] else s.printk).length, e.logLen)]
      lines := s.lines ++ (linesBefore s e ++ linesAfter s e)
      pending := if EndsLine (textAfter s.printk e) then [] else partsAfter s e
      received := s.received ++ [CamrtcEvent.piece e] } := by
  unfold DecodeRun.log linesBefore linesAfter partsAfter
  rw [traceRtcpuLog_eq s.printk hid]
  rw [if_neg (not_not.mpr hid)]
  by_cases hfull : Overflows s.printk e
  · by_cases hend : EndsLine (textAfter s.printk e)
    · simp [if_pos hfull, if_pos hend]
    · simp [if_pos hfull, if_neg hend]
  · by_cases hend : EndsLine (textAfter s.printk e)
    · simp [if_neg hfull, if_pos hend]
    · simp [if_neg hfull, if_neg hend]

section

variable (h : DecodeInv s)

include h

theorem DecodeInv.flatten_partsAfter (e : CamrtcEvent) :
    (partsAfter s e).flatten = textAfter s.printk e := by
  unfold partsAfter textAfter
  split
  · simp
  · simp [h.pending]

theorem DecodeInv.complete_log (e : CamrtcEvent) :
    ((s.lines ++ (linesBefore s e ++ linesAfter s e)).map Prod.snd).flatten ++
      (if EndsLine (textAfter s.printk e) then [] else partsAfter s e) = s.received ++ [CamrtcEvent.piece e] := by
  have hcomplete : (s.lines.map Prod.snd).flatten ++ s.pending = s.received := h.complete
  rw [← hcomplete]
  unfold linesBefore linesAfter partsAfter
  split
  · split
    · simp
    · simp
  · split
    · simp
    · simp

theorem DecodeInv.lines_exact (e : CamrtcEvent) :
    (∀ line ∈ linesBefore s e ++ linesAfter s e, LineExact line) ↔ PrintsText s.printk (CamrtcEvent.piece e) := by
  have hbefore : LineExact (cString s.printk, s.pending) ↔ 0 ∉ s.printk := by
    have hexact := lineExact_of_flatten h.pending
    rwa [withoutLineEnds_eq_self h.open_] at hexact
  have hafter := lineExact_of_flatten (h.flatten_partsAfter e)
  unfold PrintsText
  rw [length_piece, List.forall_mem_append]
  unfold linesBefore linesAfter
  by_cases hfull : Overflows s.printk e
  · have htext : textAfter s.printk e = CamrtcEvent.piece e := by simp [textAfter, hfull]
    have hlt : printkSize < s.printk.length + e.logLen := hfull
    rw [htext] at hafter ⊢
    rw [if_pos hfull, if_pos hlt]
    by_cases hend : EndsLine (CamrtcEvent.piece e)
    · have hlast : (CamrtcEvent.piece e).getLast?.any isLineEnd = true := hend
      simp [if_pos hend, hbefore, hafter, hlast]
    · have hlast : ¬ (CamrtcEvent.piece e).getLast?.any isLineEnd = true := hend
      simp [if_neg hend, hbefore, hlast]
  have htext : textAfter s.printk e = s.printk ++ CamrtcEvent.piece e := by simp [textAfter, hfull]
  have hge : ¬ printkSize < s.printk.length + e.logLen := hfull
  rw [htext] at hafter ⊢
  rw [if_neg hfull, if_neg hge]
  by_cases hend : EndsLine (s.printk ++ CamrtcEvent.piece e)
  · have hlast : (s.printk ++ CamrtcEvent.piece e).getLast?.any isLineEnd = true := hend
    rw [if_pos hend]
    simp only [List.not_mem_nil, false_implies, implies_true, true_and, List.mem_singleton,
      forall_eq, hafter, hlast, true_implies]
  · have hlast : ¬ (s.printk ++ CamrtcEvent.piece e).getLast?.any isLineEnd = true := hend
    rw [if_neg hend]
    simp only [List.not_mem_nil, false_implies, implies_true, true_and, hlast, Bool.false_eq_true]

/-- **A piece of a text** that goes to the log. -/
theorem DecodeInv.log (hid : e.id = camrtcTraceTypeString) :
    DecodeInv (s.log e) ∧ AddsLines s (s.log e) (PrintsText s.printk (CamrtcEvent.piece e)) := by
  have hlen := length_piece e
  have hsmall := logLen_le e
  have hfits : (if Overflows s.printk e then [] else s.printk).length + e.logLen ≤ printkSize := by
    split
    next =>
      unfold CAMRTC_TRACE_EVENT_PAYLOAD_SIZE at hsmall
      unfold printkSize
      rw [List.length_nil]
      omega
    next hfull => exact not_lt.mp hfull
  rw [log_eq s hid]
  refine ⟨⟨?_, ?_, ⟨?_, ?_⟩, h.complete_log e⟩, _, rfl, h.lines_exact e⟩
  · split
    · rfl
    · exact h.flatten_partsAfter e
  · split
    next => simp
    next hend => exact hend
  · split
    · exact Nat.zero_le _
    · unfold textAfter
      rw [List.length_append, hlen]
      exact hfits
  · intro range hrange
    obtain hold | hnew := List.mem_append.mp hrange
    · exact h.inside.writes range hold
    · obtain rfl := List.mem_singleton.mp hnew
      exact hfits

end

theorem log_of_ne (s : DecodeRun) (hid : e.id ≠ camrtcTraceTypeString) : s.log e = s := by
  unfold DecodeRun.log traceRtcpuLog
  simp [hid]

/-- **A step** keeps the invariant, and what it passes on and prints is as promised just when it is
careful. -/
theorem DecodeInv.step {s' : DecodeRun} (h : DecodeInv s) {op : DecodeOp} (hstep : decodeStep s op = some s') :
    DecodeInv s' ∧ ∃ lengths new, s'.passed = s.passed ++ lengths ∧ s'.lines = s.lines ++ new ∧
      (AllWithin lengths ∧ (∀ line ∈ new, LineExact line) ↔ s.Careful op) := by
  cases op with
  | endFlush =>
    cases hstep
    exact ⟨⟨h.pending, h.open_, ⟨h.inside.used, h.inside.writes⟩, h.complete⟩, [], [], by simp, by simp,
      by simp [AllWithin, DecodeRun.Careful]⟩
  | readLast =>
    cases hstep
    refine ⟨⟨h.pending, h.open_, ⟨h.inside.used, h.inside.writes⟩, h.complete⟩, _, [], rfl, by simp, ?_⟩
    rw [allWithin_lastEvent]
    simp [DecodeRun.Careful]
  | event e =>
    have hs' := Option.some.inj hstep
    unfold DecodeRun.Careful
    dsimp only
    rw [← allWithin_event]
    -- The state in which the log is called.
    generalize hs₁ : ({ s with
      passed := s.passed ++ rtcpuTraceEvent e, nEvents := s.nEvents + 1, lastEvent := e } :
        DecodeRun) = s₁ at hs'
    have h₁ : DecodeInv s₁ := by
      subst hs₁
      exact ⟨h.pending, h.open_, ⟨h.inside.used, h.inside.writes⟩, h.complete⟩
    have hpassed : s₁.passed = s.passed ++ rtcpuTraceEvent e := by rw [← hs₁]
    have hlines : s₁.lines = s.lines := by rw [← hs₁]
    have hprintk : s₁.printk = s.printk := by rw [← hs₁]
    have henable : s₁.enablePrintk = s.enablePrintk := by rw [← hs₁]
    by_cases hlogs : s.enablePrintk = true ∧ e.id = camrtcTraceTypeString
    · have htype : rtcpuTraceEventLogs s₁.enablePrintk e = true := by
        unfold rtcpuTraceEventLogs
        rw [henable, hlogs.1, hlogs.2]
        decide +kernel
      rw [if_pos htype] at hs'
      subst hs'
      obtain ⟨hinv, new, hnew, hexact⟩ := h₁.log hlogs.2
      have hkeep : (s₁.log e).passed = s₁.passed := by rw [log_eq s₁ hlogs.2]
      refine ⟨hinv, _, new, hkeep.trans hpassed, ?_, ?_⟩
      · rw [hnew, hlines]
      · rw [hexact, hprintk]
        simp [hlogs]
    have hsame : s' = s₁ := by
      rw [← hs']
      split
      next htype =>
        apply log_of_ne
        intro hid
        apply hlogs
        unfold rtcpuTraceEventLogs at htype
        rw [henable] at htype
        simp at htype
        exact ⟨htype.2, hid⟩
      next => rfl
    subst hsame
    refine ⟨h₁, _, [], hpassed, by simp [hlines], ?_⟩
    have hvacuous : s.enablePrintk = true → e.id = camrtcTraceTypeString →
        PrintsText s.printk (CamrtcEvent.piece e) := fun hen hid => absurd ⟨hen, hid⟩ hlogs
    constructor
    · exact fun hwithin => ⟨hwithin.1, hvacuous⟩
    · exact fun hcareful => ⟨hcareful.1, by simp⟩

/-- **Decoding a run of events.**  The log never leaves its buffer and loses no piece; the run is
sound if and only if each step is careful. -/
theorem decode_sound_iff (enablePrintk : Bool) (ops : List DecodeOp) (t : DecodeRun)
    (hrun : run decodeStep (decodeStart enablePrintk) ops = some t) : (t.LogInside ∧ t.LinesComplete) ∧
      (t.Sound ↔ AllSteps decodeStep DecodeRun.Careful (decodeStart enablePrintk) ops) := by
  have hgrow : ∀ (s : DecodeRun) (ops : List DecodeOp), DecodeInv s → run decodeStep s ops = some t →
      DecodeInv t ∧ ∃ lengths new, t.passed = s.passed ++ lengths ∧ t.lines = s.lines ++ new ∧
        (AllWithin lengths ∧ (∀ line ∈ new, LineExact line) ↔ AllSteps decodeStep DecodeRun.Careful s ops) := by
    intro s ops
    induction ops generalizing s with
    | nil =>
      intro h hrun
      cases hrun
      exact ⟨h, [], [], by simp, by simp, by simp [AllWithin, AllSteps]⟩
    | cons op ops ih =>
      intro h hrun
      obtain ⟨s', hstep, hrest⟩ := run_cons_eq_some.mp hrun
      obtain ⟨h', lengths, new, hpassed, hlines, hiff⟩ := h.step hstep
      obtain ⟨ht, lengths', new', hpassed', hlines', hiff'⟩ := ih s' h' hrest
      refine ⟨ht, lengths ++ lengths', new ++ new', ?_, ?_, ?_⟩
      · rw [hpassed', hpassed, List.append_assoc]
      · rw [hlines', hlines, List.append_assoc]
      · have hsteps : AllSteps decodeStep DecodeRun.Careful s (op :: ops) ↔
            s.Careful op ∧ AllSteps decodeStep DecodeRun.Careful s' ops := by
          simp [AllSteps, hstep]
        rw [hsteps, ← hiff, ← hiff']
        unfold AllWithin
        rw [List.forall_mem_append, List.forall_mem_append]
        exact and_and_and_comm
  obtain ⟨hinv, lengths, new, hpassed, hlines, hiff⟩ :=
    hgrow _ ops (decodeInv_start enablePrintk) hrun
  refine ⟨⟨hinv.inside, hinv.complete⟩, ?_⟩
  have hp : t.passed = lengths := hpassed
  have hl : t.lines = new := hlines
  rw [← hiff]
  constructor
  · intro hsound
    exact ⟨hp ▸ hsound.passed, hl ▸ hsound.exact⟩
  · rintro ⟨hwithin, hexact⟩
    exact ⟨hp ▸ hwithin, hinv.inside, hl ▸ hexact, hinv.complete⟩

/-- An event of this length and type, with a payload that starts with these bytes. -/
def eventWith (len id : U32) (text : List U8) : CamrtcEvent where
  len := len
  id := id
  data8 := (text ++ List.replicate CAMRTC_TRACE_EVENT_PAYLOAD_SIZE 0).take CAMRTC_TRACE_EVENT_PAYLOAD_SIZE
  size := by
    rw [List.length_take, List.length_append, List.length_replicate]
    omega

/-- Two pieces of a line, an event of the firmware's base module, and the saved event is read. -/
def decodeOps : List DecodeOp :=
  [.event (eventWith 18 camrtcTraceTypeString [72, 105]), .event (eventWith 19 camrtcTraceTypeString [33, 13, 10]),
    .event (eventWith 0 (camrtcEventMakeId 0 1 1) []), .event (eventWith 64 (camrtcEventMakeId 5 1 1) []),
    .endFlush, .readLast]

theorem decode_sound_decodeOps : ∃ t, run decodeStep (decodeStart true) decodeOps = some t ∧
      t.lines = [([72, 105, 33], [[72, 105], [33, 13, 10]])] ∧ t.Sound := by
  refine exists_of_map DecodeRun.lines [([72, 105, 33], [[72, 105], [33, 13, 10]])] (by decide +kernel)
    fun t ht hl => ?_
  have hcareful : AllSteps decodeStep DecodeRun.Careful (decodeStart true) decodeOps := by
    decide +kernel
  exact ⟨hl, (decode_sound_iff true decodeOps t ht).2.mpr hcareful⟩

/-- **A length of 0** wraps, and the tracepoint copies 4 GiB less 16 bytes from the payload. -/
theorem decode_length_wraps :
    ∃ t, run decodeStep (decodeStart false) [.event (eventWith 0 (camrtcEventMakeId 5 1 0) [])] = some t ∧
      ¬ t.Sound := by
  refine ⟨_, rfl, ?_⟩
  intro hsound
  have hlen := hsound.passed 4294967280 (by decide +kernel)
  exact absurd hlen (by decide)

end NvidiaOot.Analysis
