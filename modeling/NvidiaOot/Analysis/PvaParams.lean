import NvidiaOot.Analysis.PvaTaskWrite
import NvidiaOot.Analysis.PvaVmem
import NvidiaOot.Model.PvaParams

/-!
# The parameters of a task

Before each turn the writer's pointers and indices are the sums and counts over the symbols before it, so what a turn
does, and whether it succeeds, is known from the symbols' sizes.
-/

namespace NvidiaOot.Analysis

open Library Program Model Function

variable {image : PvaElfImage} {task : SubmitTask} {i j n : ℕ}

theorem heads_add_tails (p : ℕ → Prop) [DecidablePred p] (n : ℕ) :
    Nat.count p n + Nat.count (fun j => ¬ p j) n = n := by
  induction n with
  | zero => rfl
  | succ n ih =>
    rw [Nat.count_succ, Nat.count_succ]
    split <;> omega

theorem headSlot_lt {p : ℕ → Prop} [DecidablePred p] (hi : p i) (hin : i < n) (hj : j < n) (h : ¬ p j ∨ i < j) :
    Nat.count p i < if p j then Nat.count p j else n - 1 - Nat.count (fun j => ¬ p j) j := by
  split
  case isTrue hpj => exact Nat.count_strict_mono hi (h.resolve_left (not_not.mpr hpj))
  case isFalse hpj =>
    have hheads := Nat.count_strict_mono hi hin
    have htails := Nat.count_strict_mono (p := fun j => ¬ p j) hpj hj
    have hsum := heads_add_tails p n
    omega

theorem slot_lt {p : ℕ → Prop} [DecidablePred p] (hi : i < n) :
    (if p i then Nat.count p i else n - 1 - Nat.count (fun j => ¬ p j) i) < n := by
  split
  case isTrue => exact (Nat.count_le (p := p)).trans_lt hi
  case isFalse => omega

theorem slot_injOn {p : ℕ → Prop} [DecidablePred p] (hi : i < n) (hj : j < n)
    (h : (if p i then Nat.count p i else n - 1 - Nat.count (fun j => ¬ p j) i) =
      if p j then Nat.count p j else n - 1 - Nat.count (fun j => ¬ p j) j) : i = j := by
  by_cases hpi : p i
  · rw [if_pos hpi] at h
    by_cases hpj : p j
    · rw [if_pos hpj] at h
      exact Nat.count_injective hpi hpj h
    · exact absurd h (headSlot_lt hpi hi hj (Or.inl hpj)).ne
  by_cases hpj : p j
  · rw [if_pos hpj] at h
    exact absurd h.symm (headSlot_lt hpj hj hi (Or.inl hpi)).ne
  rw [if_neg hpi, if_neg hpj] at h
  have hilt := Nat.count_strict_mono (p := fun j => ¬ p j) hpi hi
  have hjlt := Nat.count_strict_mono (p := fun j => ¬ p j) hpj hj
  have hle := Nat.count_le (p := fun j => ¬ p j) (n := n)
  exact Nat.count_injective (p := fun j => ¬ p j) hpi hpj (by omega)

theorem paramSlot_lt (hi : i < task.numSymbols.toNat) : paramSlot image task i < task.numSymbols.toNat := slot_lt hi

theorem paramSlot_injOn (hi : i < task.numSymbols.toNat) (hj : j < task.numSymbols.toNat)
    (h : paramSlot image task i = paramSlot image task j) : i = j := slot_injOn hi hj h

/-- **Each symbol has its own entry**, and there is one for each entry. -/
theorem bijOn_paramSlot (image : PvaElfImage) (task : SubmitTask) :
    Set.BijOn (paramSlot image task) (Set.Iio task.numSymbols.toNat) (Set.Iio task.numSymbols.toNat) := by
  have hmaps : Set.MapsTo (paramSlot image task) (Set.Iio task.numSymbols.toNat) (Set.Iio task.numSymbols.toNat) :=
    fun i hi => paramSlot_lt hi
  have hinj : Set.InjOn (paramSlot image task) (Set.Iio task.numSymbols.toNat) :=
    fun i hi j hj h => paramSlot_injOn hi hj h
  refine ⟨hmaps, hinj, ?_⟩
  rw [← Finset.coe_range] at hmaps hinj ⊢
  exact Finset.surjOn_of_injOn_of_card_le _ hmaps hinj le_rfl

section

variable {env : TaskEnv} {s : TaskState} {p : ParamState}

/-- Before turn `i`: the pointers and indices, the pinned memory, and the entries of the symbols before. -/
structure ParamsInv (image : PvaElfImage) (s : TaskState) (i : ℕ) (p : ParamState) : Prop where
  task : p.task = { s.task with numPinned := s.task.numPinned + BitVec.ofNat 32 (Nat.count (IsPointer s.task) i) }
  headPtr : p.cursor.headPtr = headBytes image s.task i
  tailPtr : p.cursor.tailPtr = s.task.symbolPayloadSize.toNat - tailBytes image s.task i
  room : headBytes image s.task i + tailBytes image s.task i ≤ s.task.symbolPayloadSize.toNat
  headIndex : p.cursor.headIndex = BitVec.ofNat 32 (Nat.count (AtHead image s.task) i)
  tailIndex : p.cursor.tailIndex =
    s.task.numSymbols.setWidth 32 - 1 - BitVec.ofNat 32 (Nat.count (fun j => ¬ AtHead image s.task j) i)
  entries : ∀ j < i, p.hw.paramList (paramSlot image s.task j) = paramEntry image s.task j
  number : p.hw.numParameters = s.hw.numParameters

theorem paramsInv_start (image : PvaElfImage) (s : TaskState) :
    ParamsInv image s 0 { toTaskState := s, cursor := .init s.task } where
  task := by rw [Nat.count_zero]; exact (congrArg (fun n => { s.task with numPinned := n }) (BitVec.add_zero _)).symm
  headPtr := rfl
  tailPtr := rfl
  room := Nat.zero_le _
  headIndex := by rw [Nat.count_zero]; rfl
  tailIndex := by rw [Nat.count_zero]; exact (BitVec.sub_zero _).symm
  entries j hj := absurd hj (Nat.not_lt_zero j)
  number := rfl

section

variable (h : ParamsInv image s i p)

include h

theorem ParamsInv.headIndex_toNat (hi : i < s.task.numSymbols.toNat)
    (hhead : AtHead image s.task i) : p.cursor.headIndex.toNat = paramSlot image s.task i := by
  have hle := Nat.count_le (p := AtHead image s.task) (n := i)
  unfold paramSlot
  rw [h.headIndex, BitVec.toNat_ofNat, if_pos hhead, Nat.mod_eq_of_lt (by omega)]

theorem ParamsInv.tailIndex_toNat (hi : i < s.task.numSymbols.toNat)
    (htail : ¬ AtHead image s.task i) : p.cursor.tailIndex.toNat = paramSlot image s.task i := by
  have hle := Nat.count_le (p := fun j => ¬ AtHead image s.task j) (n := i)
  have hone : (1 : U32).toNat = 1 := rfl
  unfold paramSlot
  rw [h.tailIndex, BitVec.toNat_sub, BitVec.toNat_sub, BitVec.toNat_setWidth, BitVec.toNat_ofNat, hone, if_neg htail]
  omega

theorem ParamsInv.entries_update (hi : i < s.task.numSymbols.toNat) {index : ℕ}
    {param : VpuParameter} (hindex : index = paramSlot image s.task i) (hparam : param = paramEntry image s.task i) :
    ∀ j < i + 1, update p.hw.paramList index param (paramSlot image s.task j) = paramEntry image s.task j := by
  intro j hj
  rw [hindex, hparam]
  rcases Nat.lt_succ_iff_lt_or_eq.mp hj with hlt | rfl
  · have hne : paramSlot image s.task j ≠ paramSlot image s.task i := fun heq =>
      hlt.ne (paramSlot_injOn (hlt.trans hi) hi heq)
    exact (update_of_ne hne _ _).trans (h.entries j hlt)
  · exact update_self _ _ _

end

theorem ParamsInv.pinned_iff (env : TaskEnv) (h : ParamsInv image s i p) :
    PointerPinned env s.task i ↔
      ∃ mem, p.task.pinMem env (pinIdAt p.task (p.task.symbols i).offset.toNat) = .ok (mem,
        { s.task with numPinned := s.task.numPinned + BitVec.ofNat 32 (Nat.count (IsPointer s.task) i) + 1 }) := by
  rw [h.task]
  constructor
  · rintro ⟨⟨mem, task⟩, hpin⟩
    exact ⟨mem, hpin.trans (congrArg (fun t => Except.ok (mem, t)) (pinMem_task hpin))⟩
  · rintro ⟨mem, hpin⟩
    exact ⟨_, hpin⟩

theorem headBytes_succ (image : PvaElfImage) (task : SubmitTask) (i : ℕ) :
    headBytes image task (i + 1) =
      headBytes image task i + if AtHead image task i then (paramSize image task i).toNat else 0 :=
  Finset.sum_range_succ _ i

theorem tailBytes_succ (image : PvaElfImage) (task : SubmitTask) (i : ℕ) :
    tailBytes image task (i + 1) =
      tailBytes image task i + if AtHead image task i then 0 else (paramSize image task i).toNat :=
  Finset.sum_range_succ _ i

theorem placeHead_code (addr size : U32) (p : ParamState) :
    (placeHead addr size p).1 = 0 ↔ p.cursor.headPtr + size.toNat ≤ p.cursor.tailPtr := by
  unfold placeHead
  dsimp only
  split
  case isTrue h => exact iff_of_false neg_eINVAL_ne_zero (not_le.mpr h)
  case isFalse h => exact iff_of_true rfl (not_lt.mp h)

theorem placeTail_code (offset addr size : U32) (p : ParamState) :
    (placeTail offset addr size p).1 = 0 ↔ p.cursor.headPtr + size.toNat ≤ p.cursor.tailPtr := by
  unfold placeTail
  split
  case isTrue h => exact iff_of_false neg_eINVAL_ne_zero (not_le.mpr h)
  case isFalse h => exact iff_of_true rfl (not_lt.mp h)

/-- **A parameter at the head**, after its bytes have been copied and its memory may have been pinned. -/
theorem ParamsInv.head (h : ParamsInv image s i p) (hi : i < s.task.numSymbols.toNat) (hhead : AtHead image s.task i)
    (hroom : headBytes image s.task i + (paramSize image s.task i).toNat + tailBytes image s.task i ≤
      s.task.symbolPayloadSize.toNat) (dst src len : ℕ) {task : SubmitTask}
    (htask : task = { s.task with
      numPinned := s.task.numPinned + BitVec.ofNat 32 (Nat.count (IsPointer s.task) (i + 1)) }) :
    ParamsInv image s (i + 1) (placeHead (paramSymbol image s.task i).addr (paramSize image s.task i)
      { p.copyPayload dst src len with task := task }).2 := by
  have hslot := h.headIndex_toNat hi hhead
  have hptr : p.cursor.headPtr = paramOffset image s.task i := h.headPtr.trans (if_pos hhead).symm
  have hfits : ¬ p.cursor.tailPtr < p.cursor.headPtr + (paramSize image s.task i).toNat := by
    rw [h.tailPtr, h.headPtr]
    omega
  have haddr : task.auxDmaAddr = s.task.auxDmaAddr := by rw [htask]
  unfold placeHead
  dsimp only [ParamState.setParam, ParamState.copyPayload]
  rw [if_neg hfits, update_idem]
  refine ⟨htask, ?_, ?_, ?_, ?_, ?_, ?_, h.number⟩
  · rw [headBytes_succ, if_pos hhead, ← h.headPtr]
  · rw [tailBytes_succ, if_pos hhead]
    exact h.tailPtr
  · rw [headBytes_succ, tailBytes_succ, if_pos hhead, if_pos hhead]
    exact hroom
  · rw [Nat.count_succ, if_pos hhead, BitVec.ofNat_add]
    exact congrArg (· + 1) h.headIndex
  · rw [Nat.count_succ, if_neg (not_not.mpr hhead)]
    exact h.tailIndex
  · refine h.entries_update hi hslot ?_
    unfold paramEntry
    rw [haddr, hptr]

/-- **A large parameter**, at the tail. -/
theorem ParamsInv.tail (h : ParamsInv image s i p) (hi : i < s.task.numSymbols.toNat)
    (htail : ¬ AtHead image s.task i)
    (hroom : headBytes image s.task i + (paramSize image s.task i).toNat + tailBytes image s.task i ≤
      s.task.symbolPayloadSize.toNat) (offset : U32) :
    ParamsInv image s (i + 1)
      (placeTail offset (paramSymbol image s.task i).addr (paramSize image s.task i) p).2 := by
  have hslot := h.tailIndex_toNat hi htail
  have hptr : p.cursor.tailPtr - (paramSize image s.task i).toNat = paramOffset image s.task i := by
    rw [h.tailPtr]
    exact (if_neg htail).symm
  have hfits : ¬ p.cursor.tailPtr < p.cursor.headPtr + (paramSize image s.task i).toNat := by
    rw [h.tailPtr, h.headPtr]
    omega
  have haddr : p.task.auxDmaAddr = s.task.auxDmaAddr := by rw [h.task]
  unfold placeTail
  rw [if_neg hfits]
  refine ⟨?_, ?_, ?_, ?_, ?_, ?_, ?_, h.number⟩
  · rw [Nat.count_succ, if_neg fun hpointer => htail (Or.inl hpointer)]
    exact h.task
  · rw [headBytes_succ, if_neg htail]
    exact h.headPtr
  · rw [tailBytes_succ, if_neg htail]
    dsimp only
    rw [h.tailPtr]
    omega
  · rw [headBytes_succ, tailBytes_succ, if_neg htail, if_neg htail]
    omega
  · rw [Nat.count_succ, if_neg htail]
    exact h.headIndex
  · rw [Nat.count_succ, if_pos htail, BitVec.ofNat_add, ← BitVec.sub_sub, ← h.tailIndex]
    rfl
  · refine h.entries_update hi hslot ?_
    unfold paramEntry
    rw [haddr, hptr]

theorem paramSize_of_not_pointer (h : ¬ IsPointer task i) :
    paramSize image task i = (paramSymbol image task i).size := by
  obtain ⟨hptr, hptrEx⟩ := not_or.mp h
  unfold paramSize
  rw [if_neg hptr, if_neg hptrEx]

theorem ite_pointer {β : Type} (image : PvaElfImage) (f : U32 → β) (b : β) :
    (if (task.symbols i).config = nvpvaSymbolPointer then f pointerSymbolSize
      else if (task.symbols i).config = nvpvaSymbolPointerEx then f pointerSymbolExSize else b) =
      if IsPointer task i then f (paramSize image task i) else b := by
  by_cases hptr : (task.symbols i).config = nvpvaSymbolPointer
  · have hsize : paramSize image task i = pointerSymbolSize := if_pos hptr
    rw [if_pos hptr, if_pos (Or.inl hptr), hsize]
  by_cases hptrEx : (task.symbols i).config = nvpvaSymbolPointerEx
  · have hsize : paramSize image task i = pointerSymbolExSize := (if_neg hptr).trans (if_pos hptrEx)
    rw [if_neg hptr, if_pos hptrEx, if_pos (Or.inr hptrEx), hsize]
  · rw [if_neg hptr, if_neg hptrEx, if_neg (not_or.mpr ⟨hptr, hptrEx⟩)]

theorem writeSymbol_eq (env : TaskEnv) (image : PvaElfImage) (i : ℕ) (p : ParamState)
    (hsymbol : p.task.symbols i = task.symbols i) :
    writeSymbol env image i p =
      if (task.symbols i).symbolSize ≠ (paramSymbol image task i).size then (-eINVAL, p)
      else if IsPointer task i then
        placePointer env (task.symbols i).offset (paramSymbol image task i).addr (paramSize image task i) p
      else if (paramSymbol image task i).size < pvaDmaVmemCopyThreshold then
        placeHead (paramSymbol image task i).addr (paramSize image task i)
          (p.copyPayload p.cursor.headPtr (task.symbols i).offset.toNat (paramSymbol image task i).size.toNat)
      else placeTail (task.symbols i).offset (paramSymbol image task i).addr (paramSize image task i) p := by
  unfold writeSymbol
  rw [hsymbol]
  refine ite_congr rfl (fun _ => rfl) fun _ => ?_
  refine (ite_pointer image (fun size => placePointer env _ _ size p) _).trans ?_
  refine ite_congr rfl (fun _ => rfl) fun hptr => ?_
  rw [paramSize_of_not_pointer hptr]
  rfl

theorem symbolAccesses_eq (env : TaskEnv) (image : PvaElfImage) (i : ℕ) (p : ParamState)
    (hsymbol : p.task.symbols i = task.symbols i) :
    symbolAccesses env image i p = .symbol (task.symbols i).symbolId.toNat ::
      if (task.symbols i).symbolSize ≠ (paramSymbol image task i).size then []
      else if IsPointer task i then
        .payload p.cursor.headPtr (paramSize image task i).toNat ::
          match p.task.pinMem env (pinIdAt p.task (task.symbols i).offset.toNat) with
          | .error _ => []
          | .ok _ => [.param p.cursor.headIndex.toNat]
      else if (paramSymbol image task i).size < pvaDmaVmemCopyThreshold then
        [.payload p.cursor.headPtr (paramSize image task i).toNat, .param p.cursor.headIndex.toNat]
      else if p.cursor.tailPtr < p.cursor.headPtr + (paramSize image task i).toNat then []
      else
        [.payload (p.cursor.tailPtr - (paramSize image task i).toNat) (paramSize image task i).toNat,
          .param p.cursor.tailIndex.toNat] := by
  unfold symbolAccesses
  rw [hsymbol]
  refine congrArg (ParamAccess.symbol _ :: ·) (ite_congr rfl (fun _ => rfl) fun _ => ?_)
  refine (ite_pointer image (fun size => ParamAccess.payload p.cursor.headPtr size.toNat :: _) _).trans ?_
  refine ite_congr rfl (fun _ => rfl) fun hptr => ?_
  rw [paramSize_of_not_pointer hptr]
  rfl

/-- **A symbol's turn** succeeds when the symbol is accepted, and leaves the writer before the next symbol. -/
theorem knownTurns_writeSymbol (env : TaskEnv) (image : PvaElfImage) (s : TaskState) :
    KnownTurns (writeSymbol env image) (ParamsInv image s) (SymbolAccepted env image s.task)
      s.task.numSymbols.toNat := by
  have hturn : ∀ i < s.task.numSymbols.toNat, ∀ p, ParamsInv image s i p →
      ((writeSymbol env image i p).1 = 0 ↔ SymbolAccepted env image s.task i) ∧
        (SymbolAccepted env image s.task i → ParamsInv image s (i + 1) (writeSymbol env image i p).2) := by
    intro i hi p h
    have hsymbols : p.task.symbols = s.task.symbols := by rw [h.task]
    have hroom : p.cursor.headPtr + (paramSize image s.task i).toNat ≤ p.cursor.tailPtr ↔
        headBytes image s.task i + (paramSize image s.task i).toNat + tailBytes image s.task i ≤
          s.task.symbolPayloadSize.toNat := by
      have hbefore := h.room
      rw [h.headPtr, h.tailPtr]
      omega
    -- a pointer's turn, for each of the two kinds
    have hpointer : ∀ offset, offset = (s.task.symbols i).offset → IsPointer s.task i →
        (s.task.symbols i).symbolSize = (paramSymbol image s.task i).size →
        ((placePointer env offset (paramSymbol image s.task i).addr (paramSize image s.task i) p).1 = 0 ↔
          SymbolAccepted env image s.task i) ∧
        (SymbolAccepted env image s.task i → ParamsInv image s (i + 1)
          (placePointer env offset (paramSymbol image s.task i).addr (paramSize image s.task i) p).2) := by
      rintro offset rfl hptr hsize
      have hpinned := h.pinned_iff env
      rw [hsymbols] at hpinned
      have hcount : Nat.count (IsPointer s.task) (i + 1) = Nat.count (IsPointer s.task) i + 1 :=
        Nat.count_succ_eq_succ_count_iff.mpr hptr
      unfold placePointer
      dsimp only [ParamState.copyPayload]
      split
      case h_1 hpin =>
        refine ⟨iff_of_false neg_eINVAL_ne_zero fun hacc => ?_, fun hacc => ?_⟩
        all_goals
          obtain ⟨mem, hok⟩ := hpinned.mp (hacc.pinned hptr)
          rw [hok] at hpin
          cases hpin
      case h_2 mem task hpin =>
        have htask : task = { s.task with
            numPinned := s.task.numPinned + BitVec.ofNat 32 (Nat.count (IsPointer s.task) (i + 1)) } := by
          rw [pinMem_task hpin, h.task, hcount, BitVec.ofNat_add, ← BitVec.add_assoc]
          rfl
        have hmem : PointerPinned env s.task i := by
          refine hpinned.mpr ⟨mem, hpin.trans ?_⟩
          rw [htask, hcount, BitVec.ofNat_add, ← BitVec.add_assoc]
          rfl
        refine ⟨?_, fun hacc => h.head hi (Or.inl hptr) hacc.room _ _ _ htask⟩
        rw [placeHead_code]
        exact hroom.trans ⟨fun hfits => ⟨hsize, fun _ => hmem, hfits⟩, SymbolAccepted.room⟩
    rw [writeSymbol_eq env image i p (congrFun hsymbols i)]
    split
    case isTrue hsize =>
      exact ⟨iff_of_false neg_eINVAL_ne_zero fun hacc => hsize hacc.size, fun hacc => absurd hacc.size hsize⟩
    case isFalse hsize =>
      have hsize := not_not.mp hsize
      split
      case isTrue hptr => exact hpointer _ rfl hptr hsize
      case isFalse hptr =>
        have hcount : Nat.count (IsPointer s.task) (i + 1) = Nat.count (IsPointer s.task) i :=
          Nat.count_succ_eq_count_iff.mpr hptr
        have haccepted : SymbolAccepted env image s.task i ↔
            headBytes image s.task i + (paramSize image s.task i).toNat + tailBytes image s.task i ≤
              s.task.symbolPayloadSize.toNat :=
          ⟨SymbolAccepted.room, fun hfits => ⟨hsize, fun h => absurd h hptr, hfits⟩⟩
        split
        case isTrue hsmall =>
          refine ⟨(placeHead_code _ _ _).trans (hroom.trans haccepted.symm), fun hacc => ?_⟩
          exact h.head hi (Or.inr hsmall) hacc.room _ _ _ (h.task.trans (by rw [hcount]))
        case isFalse hlarge =>
          exact ⟨(placeTail_code _ _ _ _).trans (hroom.trans haccepted.symm),
            fun hacc => h.tail hi (not_or.mpr ⟨hptr, hlarge⟩) hacc.room _⟩
  exact ⟨fun i hi p h => (hturn i hi p h).1, fun i hi p h => (hturn i hi p h).2⟩

/-- **What a turn accesses** is inside when its symbol fits. -/
theorem ParamsInv.accesses (h : ParamsInv image s i p) (hi : i < s.task.numSymbols.toNat)
    (hmax : s.task.numSymbols.toNat ≤ nvpvaTaskMaxSymbols) (hfits : SymbolFits image s.task i) :
    ∀ a ∈ symbolAccesses env image i p, ParamAccess.Inside image s.task a := by
  have hslot : paramSlot image s.task i < nvpvaTaskMaxSymbols := (paramSlot_lt hi).trans_le hmax
  have hhead : AtHead image s.task i → p.cursor.headIndex.toNat < nvpvaTaskMaxSymbols := by
    intro hhead
    rwa [h.headIndex_toNat hi hhead]
  have hsymbols : p.task.symbols = s.task.symbols := by rw [h.task]
  rw [symbolAccesses_eq env image i p (congrFun hsymbols i)]
  refine List.forall_mem_cons.mpr ⟨hfits.known, ?_⟩
  split
  case isTrue => exact fun a ha => absurd ha List.not_mem_nil
  case isFalse hsize =>
    have hinside : AtHead image s.task i →
        p.cursor.headPtr + (paramSize image s.task i).toNat ≤ s.task.symbolPayloadSize.toNat := by
      rw [h.headPtr]
      exact hfits.inside (not_not.mp hsize)
    split
    case isTrue hptr =>
      refine List.forall_mem_cons.mpr ⟨hinside (Or.inl hptr), ?_⟩
      split
      · exact fun a ha => absurd ha List.not_mem_nil
      · exact List.forall_mem_singleton.mpr (hhead (Or.inl hptr))
    case isFalse hptr =>
      split
      case isTrue hsmall =>
        exact List.forall_mem_cons.mpr
          ⟨hinside (Or.inr hsmall), List.forall_mem_singleton.mpr (hhead (Or.inr hsmall))⟩
      case isFalse hlarge =>
        split
        case isTrue => exact fun a ha => absurd ha List.not_mem_nil
        case isFalse hroom =>
          have htail := h.tailPtr
          refine List.forall_mem_cons.mpr ⟨?_, List.forall_mem_singleton.mpr ?_⟩
          · unfold ParamAccess.Inside
            omega
          · rwa [h.tailIndex_toNat hi (not_or.mpr ⟨hptr, hlarge⟩)]

theorem ParamsInv.fits (env : TaskEnv) (h : ParamsInv image s i p)
    (hinside : ∀ a ∈ symbolAccesses env image i p, ParamAccess.Inside image s.task a) : SymbolFits image s.task i := by
  have hsymbols : p.task.symbols = s.task.symbols := by rw [h.task]
  rw [symbolAccesses_eq env image i p (congrFun hsymbols i)] at hinside
  obtain ⟨hknown, hrest⟩ := List.forall_mem_cons.mp hinside
  refine ⟨hknown, fun hsize hhead => ?_⟩
  rw [if_neg (not_not.mpr hsize)] at hrest
  rw [← h.headPtr]
  split at hrest
  case isTrue => exact (List.forall_mem_cons.mp hrest).1
  case isFalse hptr =>
    rw [if_pos (hhead.resolve_left hptr)] at hrest
    exact (List.forall_mem_cons.mp hrest).1

end

section

variable {p q : ParamState}

/-- Before symbol `i` of the image: the number of the task's symbols, and the entries while they are in the list. -/
structure SysInv (image : PvaElfImage) (q : ParamState) (i : ℕ) (p : ParamState) : Prop where
  task : p.task = { q.task with numSymbols := q.task.numSymbols + BitVec.ofNat 8 (sysCount image i) }
  list : q.task.numSymbols.toNat + sysCount image i ≤ nvpvaTaskMaxSymbols →
    ∀ k < q.task.numSymbols.toNat, p.hw.paramList k = q.hw.paramList k
  system : q.task.numSymbols.toNat + sysCount image i ≤ nvpvaTaskMaxSymbols → ∀ j < i, (image.sym j).isSys = true →
    p.hw.paramList (q.task.numSymbols.toNat + sysCount image j) =
      ⟨pvaSysInstanceDataV1Iova, (image.sym j).addr, (image.sym j).size⟩

theorem sysInv_start (image : PvaElfImage) (q : ParamState) : SysInv image q 0 q where
  task := (congrArg (fun n => { q.task with numSymbols := n }) (BitVec.add_zero _)).symm
  list _ _ _ := rfl
  system _ j hj := absurd hj (Nat.not_lt_zero j)

theorem SysInv.toNat (h : SysInv image q i p) (hmax : q.task.numSymbols.toNat + sysCount image i ≤ nvpvaTaskMaxSymbols) :
    p.task.numSymbols.toNat = q.task.numSymbols.toNat + sysCount image i := by
  unfold nvpvaTaskMaxSymbols at hmax
  rw [h.task]
  rw [BitVec.toNat_add, BitVec.toNat_ofNat]
  omega

theorem sysCount_lt {j : ℕ} (hj : (image.sym j).isSys = true) (hji : j < i) : sysCount image j < sysCount image i :=
  Nat.count_strict_mono (p := fun j => (image.sym j).isSys = true) hj hji

theorem sysCount_succ (image : PvaElfImage) (i : ℕ) :
    sysCount image (i + 1) = sysCount image i + if (image.sym i).isSys = true then 1 else 0 := Nat.count_succ _ i

/-- **A symbol of the image** that is a system symbol is the next entry. -/
theorem SysInv.turn (h : SysInv image q i p) : SysInv image q (i + 1) (writeSysSymbol image i p) := by
  have hsucc := sysCount_succ image i
  unfold writeSysSymbol
  split
  case isTrue hsys =>
    rw [if_pos hsys] at hsucc
    have hindex : q.task.numSymbols.toNat + sysCount image (i + 1) ≤ nvpvaTaskMaxSymbols →
        p.task.numSymbols.toNat = q.task.numSymbols.toNat + sysCount image i := fun hmax => h.toNat (by omega)
    refine ⟨?_, fun hmax k hk => ?_, fun hmax j hj hjsys => ?_⟩
    · dsimp only [ParamState.setParam]
      rw [h.task, hsucc, BitVec.ofNat_add, ← BitVec.add_assoc]
      rfl
    · have hne : k ≠ p.task.numSymbols.toNat := by
        omega
      exact (update_of_ne hne _ _).trans (h.list (by omega) k hk)
    · rw [hindex hmax]
      rcases Nat.lt_succ_iff_lt_or_eq.mp hj with hlt | rfl
      · have hcount := sysCount_lt hjsys hlt
        exact (update_of_ne (by omega) _ _).trans (h.system (by omega) j hlt hjsys)
      · exact update_self _ _ _
  case isFalse hsys =>
    have hsame : sysCount image (i + 1) = sysCount image i := hsucc.trans (congrArg (sysCount image i + ·) (if_neg hsys))
    refine ⟨hsame ▸ h.task, hsame ▸ h.list, fun hmax j hj hjsys => ?_⟩
    rcases Nat.lt_succ_iff_lt_or_eq.mp hj with hlt | rfl
    · exact h.system (hsame ▸ hmax) j hlt hjsys
    · exact absurd hjsys hsys

theorem knownTurns_writeSysSymbol (image : PvaElfImage) (q : ParamState) (n : ℕ) :
    KnownTurns (fun i p => (0, writeSysSymbol image i p)) (SysInv image q) (fun _ => True) n :=
  ⟨fun _ _ _ _ => iff_of_true rfl trivial, fun _ _ _ h _ => h.turn⟩

/-- **The entries of the system symbols** are in the list just when there is room for all of them. -/
theorem sysSymbols_inside_iff {payload : SubmitTask} (hmax : q.task.numSymbols.toNat ≤ nvpvaTaskMaxSymbols) :
    (∀ a ∈ forEachTrace (sysSymbolAccesses image) (fun i p => (0, writeSysSymbol image i p))
        (List.range image.numSymbols) q, ParamAccess.Inside image payload a) ↔
      q.task.numSymbols.toNat + sysCount image image.numSymbols ≤ nvpvaTaskMaxSymbols := by
  have hknown := knownTurns_writeSysSymbol image q image.numSymbols
  have hbefore : ∀ i ≤ image.numSymbols, SysInv image q i
      (forEach (fun i p => (0, writeSysSymbol image i p)) (List.range i) q).2 :=
    fun i hi => hknown.before (sysInv_start image q) hi fun _ _ => trivial
  constructor
  · intro hinside
    -- the number of entries does not pass the end of the list at any symbol
    have hroom : ∀ i ≤ image.numSymbols, q.task.numSymbols.toNat + sysCount image i ≤ nvpvaTaskMaxSymbols := by
      intro i
      induction i with
      | zero => exact fun _ => hmax
      | succ i ih =>
        intro hi
        have hi' := ih (Nat.le_of_succ_le hi)
        have hsucc := sysCount_succ image i
        split at hsucc
        case isTrue hsys =>
          have hmem : ParamAccess.param
              (forEach (fun i p => (0, writeSysSymbol image i p)) (List.range i) q).2.task.numSymbols.toNat ∈
              sysSymbolAccesses image i (forEach (fun i p => (0, writeSysSymbol image i p)) (List.range i) q).2 := by
            unfold sysSymbolAccesses
            rw [if_pos hsys]
            exact List.mem_cons_of_mem _ List.mem_cons_self
          have hlt := hinside _ ((hknown.mem_trace (sysInv_start image q)).mpr ⟨i, hi, fun _ _ => trivial, hmem⟩)
          unfold ParamAccess.Inside at hlt
          rw [(hbefore i (Nat.le_of_succ_le hi)).toNat hi'] at hlt
          omega
        case isFalse => omega
    exact hroom _ le_rfl
  · intro hroom a ha
    obtain ⟨i, hi, -, ha⟩ := (hknown.mem_trace (sysInv_start image q)).mp ha
    rcases List.mem_cons.mp ha with rfl | ha
    · exact hi
    split at ha
    case isTrue hsys =>
      obtain rfl := List.mem_singleton.mp ha
      have hcount := sysCount_lt hsys hi
      unfold ParamAccess.Inside
      rw [(hbefore i hi.le).toNat (by omega)]
      omega
    case isFalse => cases ha

end

section

variable {env : TaskEnv} {s : TaskState}

theorem loadedSymbols_le (h : LoadedSymbols image) : image.numSymbols ≤ nvpvaTaskMaxSymbols := by
  obtain ⟨elf, hwGen, symbols, syms, hload, hnum, -⟩ := h
  exact hnum ▸ (populateSymtab_ok hload).1

theorem acquireApp_hw (e : U16) (s : TaskState) : (acquireApp e s).2.hw = s.hw := by
  unfold acquireApp
  split
  · rfl
  · split <;> rfl

theorem acquireApps_hw (s : TaskState) : (acquireApps s).2.hw = s.hw :=
  (acquireApp_hw _ _).trans (acquireApp_hw _ _)

/-- A writer that succeeds has written all symbols and then the image's. -/
theorem writeParameters_ok (h : (writeParameters env image s).1 = 0) :
    s.task.numSymbols.toNat ≤ image.numSymbols ∧ s.task.symbolPayloadSize ≠ 0 ∧
      ∃ q, forEach (writeSymbol env image) (List.range s.task.numSymbols.toNat)
          { toTaskState := s, cursor := .init s.task } = (0, q) ∧
        (writeParameters env image s).2.hw =
          (writeParamInfo ((List.range image.numSymbols).foldl (fun p i => writeSysSymbol image i p) q)).hw := by
  unfold writeParameters at h ⊢
  split at h
  case isTrue => exact absurd h neg_eINVAL_ne_zero
  case isFalse hnum =>
    rw [if_neg hnum]
    split at h
    case isTrue => exact absurd h neg_eINVAL_ne_zero
    case isFalse hsize =>
      rw [if_neg hsize]
      refine ⟨not_lt.mp hnum, hsize, ?_⟩
      dsimp only at h ⊢
      split at h
      case h_1 q hrun =>
        rw [hrun]
        exact ⟨q, rfl, acquireApps_hw _⟩
      case h_2 hne _ => exact absurd h hne

/-- **The parameters are packed** when the writer succeeds and the system symbols have room. -/
theorem writeParameters_packed (h : (writeParameters env image s).1 = 0)
    (hroom : s.task.numSymbols.toNat + sysCount image image.numSymbols ≤ nvpvaTaskMaxSymbols) :
    ParamsPacked image s.task (writeParameters env image s).2.hw := by
  obtain ⟨-, -, q, hrun, hhw⟩ := writeParameters_ok h
  have hknown := knownTurns_writeSymbol env image s
  have hstart := paramsInv_start image s
  have hdone : ParamsInv image s s.task.numSymbols.toNat q := by
    have hall := (hknown.run hstart).1.mp (congrArg Prod.fst hrun)
    have hinv := (hknown.run hstart).2 hall
    rwa [hrun] at hinv
  have hsys : SysInv image q image.numSymbols
      ((List.range image.numSymbols).foldl (fun p i => writeSysSymbol image i p) q) := by
    have hinv := ((knownTurns_writeSysSymbol image q image.numSymbols).run (sysInv_start image q)).2 fun _ _ => trivial
    rwa [forEach_of_total] at hinv
  have hnum : q.task.numSymbols = s.task.numSymbols := by rw [hdone.task]
  have hroomq : q.task.numSymbols.toNat + sysCount image image.numSymbols ≤ nvpvaTaskMaxSymbols := hnum ▸ hroom
  rw [hhw]
  refine ⟨hdone.room, bijOn_paramSlot image s.task, ?_, ?_, ?_, ?_⟩
  · intro i hi hhead j hj hlater
    have hlt := headSlot_lt hhead hi hj hlater
    unfold paramSlot
    rwa [if_pos hhead]
  · intro i hi
    exact (hsys.list hroomq _ (hnum ▸ paramSlot_lt hi)).trans (hdone.entries i hi)
  · intro i hi hsysi
    rw [← hnum]
    exact hsys.system hroomq i hi hsysi
  · rw [← hnum]
    exact hsys.toNat hroomq

/-- What the writer accesses is inside just if each symbol fits that is reached, and each system symbol has an entry. -/
theorem parameterAccesses_inside_iff (env : TaskEnv) (s : TaskState) (hloaded : LoadedSymbols image) :
    (∀ a ∈ parameterAccesses env image s, ParamAccess.Inside image s.task a) ↔
      (s.task.numSymbols.toNat ≤ image.numSymbols → s.task.symbolPayloadSize ≠ 0 →
        (∀ i < s.task.numSymbols.toNat, (∀ j < i, SymbolAccepted env image s.task j) → SymbolFits image s.task i) ∧
        ((∀ i < s.task.numSymbols.toNat, SymbolAccepted env image s.task i) →
          s.task.numSymbols.toNat + sysCount image image.numSymbols ≤ nvpvaTaskMaxSymbols)) := by
  have hknown := knownTurns_writeSymbol env image s
  have hstart := paramsInv_start image s
  unfold parameterAccesses
  split
  case isTrue hnum => exact iff_of_true (List.forall_mem_nil _) fun hle => absurd hle (not_le.mpr hnum)
  case isFalse hnum =>
    split
    case isTrue hsize => exact iff_of_true (List.forall_mem_nil _) fun _ hne => absurd hsize hne
    case isFalse hsize =>
      have hmax : s.task.numSymbols.toNat ≤ nvpvaTaskMaxSymbols := (not_lt.mp hnum).trans (loadedSymbols_le hloaded)
      rw [forall_prop_of_true (not_lt.mp hnum), forall_prop_of_true hsize, List.forall_mem_append]
      refine and_congr ⟨fun h i hi hbefore => ?_, fun h a ha => ?_⟩ ?_
      · refine (hknown.before hstart hi.le hbefore).fits env fun a ha => h a ?_
        exact (hknown.mem_trace hstart).mpr ⟨i, hi, hbefore, ha⟩
      · obtain ⟨i, hi, hbefore, ha⟩ := (hknown.mem_trace hstart).mp ha
        exact (hknown.before hstart hi.le hbefore).accesses hi hmax (h i hi hbefore) a ha
      · obtain ⟨hcode, hdone⟩ := hknown.run hstart
        rw [← hcode] at hdone ⊢
        generalize forEach (writeSymbol env image) _ _ = r at hdone ⊢
        split
        case isTrue hok =>
          have hsame : r.2.task.numSymbols = s.task.numSymbols := by rw [(hdone hok).task]
          rw [forall_prop_of_true hok, sysSymbols_inside_iff (by rw [hsame]; exact hmax), hsame]
        case isFalse hfail => exact iff_of_true (List.forall_mem_nil _) fun h => absurd h hfail

/-- **Exactly when the parameters are written where they belong**: each parameter that is reached and goes to the head
ends in the payload buffer, each symbol that is reached is one of the image, and there are entries and symbols of the
task for the system symbols.  The bytes at the head are copied before their size is checked, no symbol's id is checked,
and neither is the number of entries.
SOURCE: drivers/video/tegra/host/pva/pva_queue.c:542-743 -/
theorem parameters_packed_iff (env : TaskEnv) (himage : parameterImage s = some image) (hloaded : LoadedSymbols image)
    (hfresh : s.hw.numParameters = 0) : ParamsWritten image env s ↔ ParamsFit env image s.task := by
  have hwriter : s.task.numSymbols ≠ 0 → vpuParameterAccesses env s = parameterAccesses env image s ∧
      pvaTaskWriteVpuParameter env s = writeParameters env image s := by
    intro hne
    have hexe : ¬ (s.task.exeId1 = noopExeId ∧ s.task.exeId2 = noopExeId) := fun hnoop => by
      rw [parameterImage, if_pos hnoop] at himage
      cases himage
    unfold vpuParameterAccesses pvaTaskWriteVpuParameter
    rw [if_neg hne, if_neg hne, if_neg hexe, himage]
    rw [parameterImage, if_neg hexe] at himage
    dsimp only
    rw [himage]
    exact ⟨rfl, rfl⟩
  by_cases hzero : s.task.numSymbols = 0
  · have hnone : s.task.numSymbols.toNat = 0 := by rw [hzero]; rfl
    have hrun : pvaTaskWriteVpuParameter env s = (0, s) := if_pos hzero
    have hnumber : s.hw.numParameters.toNat = 0 := by rw [hfresh]; rfl
    constructor
    · intro h
      have hcount := (h.packed (congrArg Prod.fst hrun)).number
      rw [hrun] at hcount
      dsimp only at hcount
      have hsys : sysCount image image.numSymbols = 0 := by omega
      refine ⟨fun _ _ i hi => by omega, fun _ _ _ => ?_, fun _ => hsys⟩
      rw [hnone, hsys]
      exact Nat.zero_le _
    · intro h
      have hsys := h.empty hzero
      have hnosys : ∀ i < image.numSymbols, (image.sym i).isSys ≠ true := Nat.count_iff_forall_not.mp hsys
      refine ⟨?_, fun _ => ⟨?_, bijOn_paramSlot image s.task, ?_, ?_, ?_, ?_⟩⟩
      · rw [vpuParameterAccesses, if_pos hzero]
        exact List.forall_mem_nil _
      · rw [hnone]
        exact Nat.zero_le _
      · exact fun i hi => by omega
      · exact fun i hi => by omega
      · exact fun i hi hsysi => absurd hsysi (hnosys i hi)
      · rw [hrun, hnone, hsys]
        exact hnumber
  obtain ⟨haccesses, hrun⟩ := hwriter hzero
  have hinside := parameterAccesses_inside_iff env s hloaded
  constructor
  · intro h
    have hfits := hinside.mp (haccesses ▸ h.inside)
    exact ⟨fun hnum hsize => (hfits hnum hsize).1, fun hnum hsize => (hfits hnum hsize).2,
      fun heq => absurd heq hzero⟩
  · intro h
    refine ⟨?_, fun hok => ?_⟩
    · rw [haccesses]
      exact hinside.mpr fun hnum hsize => ⟨h.symbols hnum hsize, h.system hnum hsize⟩
    · rw [hrun] at hok ⊢
      obtain ⟨hnum, hsize, q, hq, -⟩ := writeParameters_ok hok
      have hall := ((knownTurns_writeSymbol env image s).run (paramsInv_start image s)).1.mp (congrArg Prod.fst hq)
      exact writeParameters_packed hok (h.system hnum hsize hall)

/-- An executable with one exported symbol of 16 bytes, and a task that sets it. -/
def exportsElf (p : ℕ) : U8 := if p = 0 then 1 else if p = 4 then 0x40 else if p = 8 then 16 else 0

def exportsSymbol : ElfSymbol where
  isGlobal := true
  isFunc := false
  name := some [0x78]
  value := 0
  size := 12
  sec := some ⟨some ([0x2e, 0x64, 0x61, 0x74, 0x61] ++ elfExportsSection), shtProgbits, 0, 0, 12⟩

def exportsImage : PvaElfImage := { (default : PvaElfImage) with numSymbols := 1, sym := fun _ => ⟨16, 0x40, false⟩ }

def oneSymbol (symbolPayloadSize : U32) : TaskState where
  task := { (default : SubmitTask) with
    exeId2 := noopExeId
    numSymbols := 1
    symbols := fun _ => ⟨0, 0, 0, 16⟩
    symbolPayloadSize := symbolPayloadSize }
  hw := default
  elf := ⟨fun _ => true, fun _ => exportsImage, fun _ => 1, 32, 1, 1, fun _ => 0, []⟩

theorem loadedSymbols_exportsImage : LoadedSymbols exportsImage := by
  refine ⟨exportsElf, 2, [(some exportsSymbol, true)], [⟨16, 0x40, false⟩], by decide +kernel, rfl, fun i hi => ?_⟩
  obtain rfl := Nat.lt_one_iff.mp hi
  rfl

/-- A payload buffer of 16 bytes has room for the symbol. -/
theorem one_symbol_written : ParamsWritten exportsImage quietEnv (oneSymbol 16) := by
  refine (parameters_packed_iff quietEnv rfl loadedSymbols_exportsImage rfl).mpr ⟨fun _ _ i hi _ => ?_, ?_, ?_⟩
  · obtain rfl := Nat.lt_one_iff.mp hi
    exact ⟨by decide, fun _ _ => by decide⟩
  · exact fun _ _ _ => by decide
  · exact fun h => absurd h (by decide)

/-- In a buffer of 8 bytes, the 16 bytes of the symbol are written. -/
theorem symbol_behind_payload : ¬ ParamsWritten exportsImage quietEnv (oneSymbol 8) := by
  intro h
  have hpayload := h.inside (.payload 0 16) (by decide +kernel)
  exact absurd (show 0 + 16 ≤ 8 from hpayload) (by decide)

end

end NvidiaOot.Analysis
