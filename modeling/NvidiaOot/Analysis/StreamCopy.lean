import NvidiaOot.Model.Nvscic2cPcie

/-!
# Copy requests stay inside their objects and arrays

The sizes of the arrays are those computed from the limits, so a request is within them when its
counts are within the limits and nothing was cut to 64 bits.  The counts of a request that gets to
the eDMA have 32 bits, because the loops of the validation end.
-/

namespace NvidiaOot.Analysis

open Library Program Model

theorem firstError_zero {f : ℕ → ℤ} {n : ℕ} : ∀ {i : ℕ}, firstError f i n = 0 → ∀ j < n, f (i + j) = 0 := by
  induction n with
  | zero => exact fun _ j hj => absurd hj (Nat.not_lt_zero j)
  | succ n ih =>
    intro i h j hj
    unfold firstError at h
    split at h
    case isTrue hne => exact absurd h hne
    case isFalse hzero =>
      cases j with
      | zero => exact not_not.mp hzero
      | succ j =>
        have := ih h j (by omega)
        rw [Nat.add_right_comm i 1 j] at this
        exact this

/-- A loop that ends without an error made all its iterations, and fewer than `2 ^ 32`. -/
theorem u32Loop_zero {n : U64} {f : ℕ → ℤ} (h : u32Loop n f = some 0) :
    n.toNat < 2 ^ 32 ∧ ∀ j < n.toNat, f j = 0 := by
  obtain ⟨hor, heq⟩ := Option.ite_none_right_eq_some.mp h
  have hzero := Option.some.inj heq
  rw [hzero] at hor
  have hlt := hor.resolve_left (fun hne => hne rfl)
  rw [Nat.min_eq_left (Nat.le_of_lt hlt)] at hzero
  refine ⟨hlt, ?_⟩
  intro j hj
  have := firstError_zero hzero j hj
  rw [Nat.zero_add] at this
  exact this

section

variable {cfg : StreamConfig} {files : U32 → FdFile}

theorem object_of_not_endsBehind {range : FlushRange} {handle : U32}
    (h : ¬ endsBehind files range handle = true) : ∃ obj : StreamObj,
    (files handle).privateData = some obj ∧ range.offset + range.size ≤ obj.size := by
  unfold endsBehind at h
  cases hobj : (files handle).privateData with
  | none =>
    rw [hobj] at h
    exact absurd rfl h
  | some obj =>
    rw [hobj] at h
    refine ⟨obj, rfl, ?_⟩
    have hle : ¬ range.offset + range.size > obj.size := fun hgt => h (decide_eq_true hgt)
    exact BitVec.not_lt.mp hle

theorem validateFlushRange_zero {range : FlushRange} (h : validateFlushRange cfg files range = 0) :
    ∃ src dst : StreamObj, (files range.srcHandle).privateData = some src ∧
      (files range.dstHandle).privateData = some dst ∧
      range.offset + range.size ≤ src.size ∧ range.offset + range.size ≤ dst.size := by
  have heinval : (-eINVAL : ℤ) ≠ 0 := by decide
  unfold validateFlushRange at h
  split at h
  · exact absurd h heinval
  split at h
  · exact absurd h heinval
  split at h
  · exact absurd h heinval
  split at h
  · exact absurd h heinval
  split at h
  case isTrue hne => exact absurd h hne
  split at h
  case isTrue hne => exact absurd h hne
  split at h
  · exact absurd h heinval
  case isFalse hsrc =>
    split at h
    · exact absurd h heinval
    case isFalse hdst =>
      obtain ⟨src, hs, hsle⟩ := object_of_not_endsBehind hsrc
      obtain ⟨dst, hd, hdle⟩ := object_of_not_endsBehind hdst
      exact ⟨src, dst, hs, hd, hsle, hdle⟩

/-- A validated request has small counts and ranges that end in their objects, as the code computes
the end. -/
theorem validateCopyReqParams_zero {p : CopyReqParams} (h : validateCopyReqParams cfg files p = some 0) :
    p.numLocalPostFences.toNat < 2 ^ 32 ∧ p.numRemotePostFences.toNat < 2 ^ 32 ∧
      ∀ i < p.numFlushRanges.toNat, validateFlushRange cfg files (p.rangeAt i) = 0 := by
  obtain ⟨r, hlocal, h⟩ := Option.bind_eq_some_iff.mp h
  split at h
  case isTrue hne => exact absurd (Option.some.inj h) hne
  case isFalse hr =>
    rw [not_not] at hr
    rw [hr] at hlocal
    obtain ⟨r', hremote, h⟩ := Option.bind_eq_some_iff.mp h
    split at h
    case isTrue hne => exact absurd (Option.some.inj h) hne
    case isFalse hr' =>
      rw [not_not] at hr'
      rw [hr'] at hremote
      exact ⟨(u32Loop_zero hlocal).1, (u32Loop_zero hremote).1, (u32Loop_zero h).2⟩

end

section

variable {limits : CopyReqLimits} {args : SubmitCopyArgs} {p p' : CopyReqParams}

def paramsSizes (p : CopyReqParams) : Option U64 × Option U64 × Option U64 × Option U64 :=
  (p.localPostFences.map KArray.size, p.remotePostFences.map KArray.size,
    p.remotePostFenceValues.map KArray.size, p.flushRanges.map KArray.size)

theorem copyPart_eq {a : Option KArray} {u : UserCopy} {n : U64} {r : KArray × Bool} (h : copyPart a u n = some r) :
    a.map KArray.size = some r.1.size ∧ ∃ a', a = some a' ∧ r.1 = a'.copyFromUser u n := by
  obtain ⟨a', ha, heq⟩ := Option.map_eq_some_iff.mp h
  rw [← heq, ha]
  exact ⟨rfl, a', rfl, rfl⟩

/-- **The arguments are copied** without a change of the sizes of the arrays; what is copied
without an error has counts that are within the limits, as the code computes their sum. -/
theorem copyArgsFromUser_eq {ret : ℤ} (h : copyArgsFromUser limits args p = some (ret, p')) :
    paramsSizes p' = paramsSizes p ∧ (ret = 0 →
      args.numLocalPostFences + args.numRemotePostFences ≤ limits.maxPostFences ∧
      args.numFlushRanges ≤ limits.maxFlushRanges ∧ p'.numLocalPostFences = args.numLocalPostFences ∧
      p'.numRemotePostFences = args.numRemotePostFences ∧ p'.numFlushRanges = args.numFlushRanges ∧
      p'.localPostFences ≠ none ∧ p'.remotePostFences ≠ none ∧ p'.remotePostFenceValues ≠ none ∧
      ∃ a, p'.flushRanges =
        some (KArray.copyFromUser a args.flushRanges (args.numFlushRanges * sizeofFlushRange))) := by
  have heinval : (-eINVAL : ℤ) ≠ 0 := by decide
  have hefault : (-eFAULT : ℤ) ≠ 0 := by decide
  rcases ite_eq_iff.mp h with ⟨_, h⟩ | ⟨_, h⟩
  · cases h
    exact ⟨rfl, fun hret => absurd hret heinval⟩
  rcases ite_eq_iff.mp h with ⟨_, h⟩ | ⟨hfences, h⟩
  · cases h
    exact ⟨rfl, fun hret => absurd hret heinval⟩
  rcases ite_eq_iff.mp h with ⟨_, h⟩ | ⟨hranges, h⟩
  · cases h
    exact ⟨rfl, fun hret => absurd hret heinval⟩
  obtain ⟨r₁, h₁, h⟩ := Option.bind_eq_some_iff.mp h
  obtain ⟨hsize₁, -⟩ := copyPart_eq h₁
  rcases ite_eq_iff.mp h with ⟨_, h⟩ | ⟨_, h⟩
  · cases h
    refine ⟨?_, fun hret => absurd hret hefault⟩
    simp only [paramsSizes, hsize₁, Option.map_some]
  obtain ⟨r₂, h₂, h⟩ := Option.bind_eq_some_iff.mp h
  obtain ⟨hsize₂, -⟩ := copyPart_eq h₂
  rcases ite_eq_iff.mp h with ⟨_, h⟩ | ⟨_, h⟩
  · cases h
    refine ⟨?_, fun hret => absurd hret hefault⟩
    simp only [paramsSizes, hsize₁, hsize₂, Option.map_some]
  obtain ⟨r₃, h₃, h⟩ := Option.bind_eq_some_iff.mp h
  obtain ⟨hsize₃, -⟩ := copyPart_eq h₃
  rcases ite_eq_iff.mp h with ⟨_, h⟩ | ⟨_, h⟩
  · cases h
    refine ⟨?_, fun hret => absurd hret hefault⟩
    simp only [paramsSizes, hsize₁, hsize₂, hsize₃, Option.map_some]
  obtain ⟨r₄, h₄, h⟩ := Option.bind_eq_some_iff.mp h
  obtain ⟨hsize₄, a, _, hcopy⟩ := copyPart_eq h₄
  cases h
  refine ⟨?_, fun _ => ⟨BitVec.not_lt.mp hfences, BitVec.not_lt.mp hranges, rfl, rfl, rfl, ?_, ?_, ?_, a, ?_⟩⟩
  · simp only [paramsSizes, hsize₁, hsize₂, hsize₃, hsize₄, Option.map_some]
  · exact nofun
  · exact nofun
  · exact nofun
  · exact congrArg some hcopy

end

section

variable {limits : CopyReqLimits}

theorem flushRangeAt_congr {m m' : ℕ → U8} {i n : ℕ} (hi : i < n)
    (h : ∀ j < 24 * n, m j = m' j) : flushRangeAt m i = flushRangeAt m' i := by
  unfold flushRangeAt leU64 leU32
  simp (disch := omega) only [h]

theorem copyFromUser_bytes {a : KArray} {u : UserCopy} {n : U64} (hleft : u.left = 0) :
    ∀ j < n.toNat, (a.copyFromUser u n).bytes j = u.data j := by
  intro j hj
  have hzero : u.left.toNat = 0 := by
    rw [hleft]
    rfl
  unfold KArray.copyFromUser blit
  dsimp only
  rw [if_pos (by omega), Nat.sub_zero]

/-- **The sizes of the arrays** are not cut. -/
structure SizesFit (limits : CopyReqLimits) : Prop where
  handles : (sizeofPointer * (2 * limits.maxFlushRanges + limits.maxPostFences)).toNat =
    8 * (2 * limits.maxFlushRanges.toNat + limits.maxPostFences.toNat)
  edmaDesc : (sizeofEdmaDesc * limits.maxFlushRanges).toNat = 24 * limits.maxFlushRanges.toNat
  ranges : (sizeofFlushRange * limits.maxFlushRanges).toNat = 24 * limits.maxFlushRanges.toNat
  bufObjs : (sizeofPointer * limits.maxFlushRanges).toNat = 8 * limits.maxFlushRanges.toNat
  fences : (sizeofPointer * limits.maxPostFences).toNat = 8 * limits.maxPostFences.toNat
  values : (sizeofU64 * limits.maxPostFences).toNat = 8 * limits.maxPostFences.toNat
  syncs : (sizeofS32 * limits.maxPostFences).toNat = 4 * limits.maxPostFences.toNat

theorem sizesFit (hfit : LimitsFit limits) : SizesFit limits := by
  obtain ⟨hhandles, hranges⟩ := hfit
  have hmul : ∀ (c x : U64), c.toNat * x.toNat < 2 ^ 64 → (c * x).toNat = c.toNat * x.toNat :=
    fun c x h => BitVec.toNat_mul_of_lt h
  have htwo : (2 * limits.maxFlushRanges).toNat = 2 * limits.maxFlushRanges.toNat :=
    hmul 2 _ (by rw [show (2 : U64).toNat = 2 from rfl]; omega)
  have hsum : (2 * limits.maxFlushRanges + limits.maxPostFences).toNat =
      2 * limits.maxFlushRanges.toNat + limits.maxPostFences.toNat := by
    rw [BitVec.toNat_add_of_lt (by omega), htwo]
  have hpointer : sizeofPointer.toNat = 8 := rfl
  have hrange : sizeofFlushRange.toNat = 24 := rfl
  have hdesc : sizeofEdmaDesc.toNat = 24 := rfl
  have hvalue : sizeofU64.toNat = 8 := rfl
  have hsync : sizeofS32.toNat = 4 := rfl
  refine ⟨?_, ?_, ?_, ?_, ?_, ?_, ?_⟩
  · rw [hmul _ _ (by rw [hpointer, hsum]; exact hhandles), hsum, hpointer]
  · rw [hmul _ _ (by rw [hdesc]; exact hranges), hdesc]
  · rw [hmul _ _ (by rw [hrange]; exact hranges), hrange]
  · rw [hmul _ _ (by rw [hpointer]; omega), hpointer]
  · rw [hmul _ _ (by rw [hpointer]; omega), hpointer]
  · rw [hmul _ _ (by rw [hvalue]; omega), hvalue]
  · rw [hmul _ _ (by rw [hsync]; omega), hsync]

theorem holdsElements_of_le {bytes bytes' : U64} {n m size : ℕ} (heq : bytes = bytes')
    (hsize : bytes'.toNat = size * m) (hle : n ≤ m) : holdsElements bytes n size := by
  unfold holdsElements
  rw [heq, hsize]
  exact Nat.mul_le_mul_left size hle

theorem copiesElements_of_left {n c : U64} {u : UserCopy} {size : ℕ} (hleft : u.left = 0)
    (hsize : c.toNat = size) (hlt : n.toNat * size < 2 ^ 64) : copiesElements (n * c) u n.toNat size := by
  unfold copiesElements
  rw [hleft, BitVec.toNat_mul_of_lt (by rw [hsize]; exact hlt), hsize,
    show (0 : U64).toNat = 0 from rfl, Nat.sub_zero, Nat.mul_comm]

end

section

variable {cfg : StreamConfig} {limits : CopyReqLimits} {files : U32 → FdFile}
  {p p' : CopyReqParams} {cr cr' : CopyRequest} {args : SubmitCopyArgs}

def requestSizes (cr : CopyRequest) : U64 × U64 × U64 × U64 × U64 × U64 :=
  (cr.handlesSize, cr.edmaDescSize, cr.localPostFencesSize, cr.remotePostFencesSize,
    cr.remoteBufObjsSize, cr.remotePostFenceValuesSize)

theorem cacheCopyRequestHandles_sizes (h : cacheCopyRequestHandles files p cr = some cr') :
    requestSizes cr' = requestSizes cr := by
  obtain ⟨_, _, h⟩ := Option.bind_eq_some_iff.mp h
  obtain ⟨_, _, h⟩ := Option.bind_eq_some_iff.mp h
  obtain ⟨_, _, h⟩ := Option.bind_eq_some_iff.mp h
  obtain ⟨_, _, h⟩ := Option.map_eq_some_iff.mp h
  rw [← h]
  rfl

/-- **A request that was validated** is inside its objects and arrays, when everything was copied
and nothing is cut. -/
theorem edmaXferOk_of_validated (hfit : LimitsFit limits)
    (hsizes : paramsSizes p = paramsSizes (allocateCopyReqParams limits p))
    (hcr : requestSizes cr = requestSizes (allocateCopyRequest limits))
    (hcopy : copyArgsFromUser limits args p = some (0, p')) (hvalid : validateCopyReqParams cfg files p' = some 0)
    (hlocals : args.localPostFences.left = 0) (hremotes : args.remotePostFences.left = 0)
    (hvalues : args.remotePostFenceValues.left = 0) (hranges : args.flushRanges.left = 0)
    (hends : ∀ i < args.numFlushRanges.toNat, (flushRangeAt args.flushRanges.data i).offset.toNat +
        (flushRangeAt args.flushRanges.data i).size.toNat < 2 ^ 64) : EdmaXferOk ⟨p', cr, args, files⟩ := by
  obtain ⟨hsame, hok⟩ := copyArgsFromUser_eq hcopy
  obtain ⟨hfences, hflush, hnl, hnr, hnf, hl, hr, hv, a, hbuf⟩ := hok rfl
  obtain ⟨hnl32, hnr32, hrange⟩ := validateCopyReqParams_zero hvalid
  have hfitSizes := sizesFit hfit
  have hmax := hfit.2
  -- the counts are within the limits as numbers
  have hsum : p'.numLocalPostFences.toNat + p'.numRemotePostFences.toNat ≤
      limits.maxPostFences.toNat := by
    have hle : (args.numLocalPostFences + args.numRemotePostFences).toNat ≤
      limits.maxPostFences.toNat := hfences
    rw [← hnl, ← hnr, BitVec.toNat_add_of_lt (by omega)] at hle
    exact hle
  have hnlle := Nat.le_trans (Nat.le_add_right _ _) hsum
  have hnrle := Nat.le_trans (Nat.le_add_left _ _) hsum
  have hnfle : p'.numFlushRanges.toNat ≤ limits.maxFlushRanges.toNat := by
    rw [hnf]
    exact hflush
  have hsizes' := hsame.trans hsizes
  unfold paramsSizes allocateCopyReqParams at hsizes'
  simp only [Option.map_some, kzalloc, Prod.mk.injEq, Option.map_eq_some_iff] at hsizes'
  obtain ⟨⟨al, hal, hals⟩, ⟨ar, har, hars⟩, ⟨av, hav, havs⟩, ⟨af, haf, hafs⟩⟩ := hsizes'
  unfold requestSizes allocateCopyRequest at hcr
  simp only [Prod.mk.injEq] at hcr
  obtain ⟨hhandles, hdesc, hlfences, hrfences, hbufs, hvals⟩ := hcr
  refine ⟨?_, ⟨al, ar, av, af, hal, har, hav, haf, ?_, ?_, ?_, ?_⟩, ?_, ?_, ?_, ?_, ?_, ?_, ?_, ?_, ?_, ?_⟩
  · intro i hi
    dsimp only at hi ⊢
    obtain ⟨src, dst, hsrc, hdst, hsle, hdle⟩ := validateFlushRange_zero (hrange i hi)
    refine ⟨src, dst, hsrc, hdst, ?_⟩
    -- the range is the one of the user
    have hdata : p'.rangeAt i = flushRangeAt args.flushRanges.data i := by
      unfold CopyReqParams.rangeAt
      rw [hbuf]
      apply flushRangeAt_congr (Nat.lt_succ_self i)
      intro j hj
      apply copyFromUser_bytes hranges
      rw [BitVec.toNat_mul_of_lt]
      all_goals
        rw [← hnf, show sizeofFlushRange.toNat = 24 from rfl]
        omega
    have hend := hends i (by rw [← hnf]; exact hi)
    rw [← hdata] at hend
    have hsle' : ((p'.rangeAt i).offset + (p'.rangeAt i).size).toNat ≤ src.size.toNat := hsle
    have hdle' : ((p'.rangeAt i).offset + (p'.rangeAt i).size).toNat ≤ dst.size.toNat := hdle
    rw [BitVec.toNat_add_of_lt hend] at hsle' hdle'
    exact ⟨hsle', hdle'⟩
  · exact holdsElements_of_le hals hfitSizes.syncs hnlle
  · exact holdsElements_of_le hars hfitSizes.syncs hnrle
  · exact holdsElements_of_le havs hfitSizes.values hnrle
  · exact holdsElements_of_le hafs hfitSizes.ranges hnfle
  · exact holdsElements_of_le hhandles hfitSizes.handles (by dsimp only; omega)
  · exact holdsElements_of_le hdesc hfitSizes.edmaDesc hnfle
  · exact holdsElements_of_le hlfences hfitSizes.fences hnlle
  · exact holdsElements_of_le hrfences hfitSizes.fences hnrle
  · exact holdsElements_of_le hbufs hfitSizes.bufObjs hnfle
  · exact holdsElements_of_le hvals hfitSizes.values hnrle
  · exact copiesElements_of_left hlocals rfl (by dsimp only; omega)
  · exact copiesElements_of_left hremotes rfl (by dsimp only; omega)
  · exact copiesElements_of_left hvalues rfl (by dsimp only; omega)
  · exact copiesElements_of_left hranges rfl (by dsimp only; omega)

end

section

variable {cfg : StreamConfig} {s s' : StreamCopy} {op : StreamCopyOp}

/-- The arrays have the sizes for the limits, and there are none before limits are set. -/
structure StreamCopyInv (s : StreamCopy) : Prop where
  unset : s.limits = ⟨0, 0, 0⟩ →
    paramsSizes s.params = (none, none, none, none) ∧ s.freeList = [] ∧ s.inFlight = []
  params : paramsSizes s.params = (none, none, none, none) ∨
    paramsSizes s.params = paramsSizes (allocateCopyReqParams s.limits s.params)
  requests : ∀ cr ∈ s.freeList ++ s.inFlight,
    requestSizes cr = requestSizes (allocateCopyRequest s.limits)
  scheduled : ∀ x ∈ s.scheduled, EdmaXferOk x

theorem streamCopyInv_new : StreamCopyInv newStreamCopy where
  unset := fun _ => ⟨rfl, rfl, rfl⟩
  params := Or.inl rfl
  requests := nofun
  scheduled := nofun

theorem setMaxStep_inv {limits : CopyReqLimits} {paramsOk requestsOk : Bool} (hinv : StreamCopyInv s)
    (hstep : setMaxStep s limits paramsOk requestsOk = some s') : StreamCopyInv s' := by
  rcases ite_eq_iff.mp hstep with ⟨_, h⟩ | ⟨hne, h⟩
  · cases h
    exact hinv
  rcases ite_eq_iff.mp h with ⟨_, h⟩ | ⟨hset, h⟩
  · cases h
    exact hinv
  have hunset : s.limits = ⟨0, 0, 0⟩ := by
    rw [not_or, not_or, not_not, not_not, not_not] at hset
    obtain ⟨hr, hf, hp⟩ := hset
    cases hlim : s.limits with
    | mk r f p =>
      rw [hlim] at hr hf hp
      rw [show r = 0 from hr, show f = 0 from hf, show p = 0 from hp]
  have hlimits : limits ≠ ⟨0, 0, 0⟩ := by
    intro hzero
    rw [hzero] at hne
    exact hne (Or.inl rfl)
  obtain ⟨_, hfree, hflight⟩ := hinv.unset hunset
  rcases ite_eq_iff.mp h with ⟨_, h⟩ | ⟨_, h⟩
  · cases h
    refine ⟨fun hzero => absurd hzero hlimits, Or.inl rfl, ?_, hinv.scheduled⟩
    intro cr hcr
    rw [List.nil_append, hflight] at hcr
    cases hcr
  rcases ite_eq_iff.mp h with ⟨_, h⟩ | ⟨_, h⟩
  · cases h
    refine ⟨fun hzero => absurd hzero hlimits, Or.inr rfl, ?_, hinv.scheduled⟩
    intro cr hcr
    rw [hfree, hflight, List.append_nil, List.append_nil] at hcr
    rw [List.eq_of_mem_replicate hcr]
  · cases h

theorem copied_inv {args : SubmitCopyArgs} {ret : ℤ} {p : CopyReqParams} (hinv : StreamCopyInv s)
    (hcopy : copyArgsFromUser s.limits args s.params = some (ret, p)) : StreamCopyInv { s with params := p } := by
  have hsame := (copyArgsFromUser_eq hcopy).1
  refine ⟨?_, ?_, hinv.requests, hinv.scheduled⟩
  · intro hzero
    obtain ⟨hparams, hlists⟩ := hinv.unset hzero
    exact ⟨hsame.trans hparams, hlists⟩
  · rcases hinv.params with hnone | hsizes
    · exact Or.inl (hsame.trans hnone)
    · exact Or.inr (hsame.trans hsizes)

/-- **A submission** that is within the arrays and the objects. -/
theorem submitStep_inv {args : SubmitCopyArgs} {env : StreamSubmitEnv} (hinv : StreamCopyInv s)
    (hcare : StreamCopyCareful s (.submit args env))
    (hstep : submitStep cfg s args env = some s') : StreamCopyInv s' := by
  rcases ite_eq_iff.mp hstep with ⟨_, h⟩ | ⟨_, h⟩
  · cases h
    exact hinv
  obtain ⟨⟨ret, p⟩, hcopy, h⟩ := Option.bind_eq_some_iff.mp h
  have hcopied := copied_inv hinv hcopy
  rcases ite_eq_iff.mp h with ⟨_, h⟩ | ⟨hret, h⟩
  · cases h
    exact hcopied
  rw [not_not] at hret
  dsimp only at hret
  rw [hret] at hcopy
  obtain ⟨ret', hvalid, h⟩ := Option.bind_eq_some_iff.mp h
  rcases ite_eq_iff.mp h with ⟨_, h⟩ | ⟨hret', h⟩
  · cases h
    exact hcopied
  rw [not_not] at hret'
  rw [hret'] at hvalid
  cases hfree : s.freeList with
  | nil =>
    rw [hfree] at h
    rw [← Option.some.inj h, ← hfree]
    exact hcopied
  | cons cr rest =>
    rw [hfree] at h
    obtain ⟨cr', hcache, h⟩ := Option.bind_eq_some_iff.mp h
    obtain ⟨desc, _, h⟩ := Option.map_eq_some_iff.mp h
    have hmem : ∀ x, x ∈ rest ++ s.inFlight → x ∈ s.freeList ++ s.inFlight := by
      intro x hx
      rw [hfree]
      exact List.mem_cons_of_mem cr hx
    have hcr' : requestSizes cr' = requestSizes (allocateCopyRequest s.limits) := by
      rw [cacheCopyRequestHandles_sizes hcache]
      exact hinv.requests cr (by rw [hfree]; exact List.mem_cons_self)
    -- there is a request, so the arrays were allocated
    have hsizes : paramsSizes s.params = paramsSizes (allocateCopyReqParams s.limits s.params) := by
      rcases hinv.params with hnone | hsizes
      · obtain ⟨hsame, hok⟩ := copyArgsFromUser_eq hcopy
        obtain ⟨_, _, _, _, _, hlocal, _⟩ := hok rfl
        rw [hnone] at hsame
        have := congrArg Prod.fst hsame
        exact absurd (Option.map_eq_none_iff.mp this) hlocal
      · exact hsizes
    obtain ⟨hfit, hl, hr, hv, hf, hends⟩ := hcare
    have hxfer : EdmaXferOk ⟨p, { cr' with edmaDesc := desc }, args, env.files⟩ :=
      edmaXferOk_of_validated hfit hsizes hcr' hcopy hvalid hl hr hv hf hends
    rw [← h]
    refine ⟨?_, hcopied.params, ?_, ?_⟩
    · intro hzero
      obtain ⟨_, hnil, _⟩ := hinv.unset hzero
      rw [hfree] at hnil
      cases hnil
    · intro x hx
      have hcases : x ∈ rest ++ s.inFlight ∨ x = { cr' with edmaDesc := desc } := by
        cases hxfer : env.xferOk <;> rw [hxfer] at hx
        · simp only [Bool.false_eq_true, if_false, List.mem_append, List.mem_singleton] at hx ⊢
          tauto
        · simp only [if_true, List.mem_append, List.mem_singleton] at hx ⊢
          tauto
      rcases hcases with hold | rfl
      · exact hinv.requests x (hmem x hold)
      · exact hcr'
    · intro x hx
      rcases List.mem_append.mp hx with hold | hnew
      · exact hinv.scheduled x hold
      · rw [List.mem_singleton.mp hnew]
        exact hxfer

theorem completeStep_inv {i : ℕ} (hinv : StreamCopyInv s) (hstep : completeStep s i = some s') :
    StreamCopyInv s' := by
  obtain ⟨cr, hcr, heq⟩ := Option.map_eq_some_iff.mp hstep
  rw [← heq]
  refine ⟨?_, hinv.params, ?_, hinv.scheduled⟩
  · intro hzero
    obtain ⟨_, _, hnil⟩ := hinv.unset hzero
    rw [hnil] at hcr
    cases hcr
  · intro x hx
    apply hinv.requests
    rw [List.append_assoc] at hx
    rcases List.mem_append.mp hx with hfree | hx
    · exact List.mem_append_left _ hfree
    apply List.mem_append_right
    rcases List.mem_append.mp hx with hself | hrest
    · rw [List.mem_singleton.mp hself]
      exact List.mem_of_getElem? hcr
    · exact List.mem_of_mem_eraseIdx hrest

theorem streamCopyStep_inv (hinv : StreamCopyInv s) (hcare : StreamCopyCareful s op)
    (hstep : streamCopyStep cfg s op = some s') : StreamCopyInv s' := by
  cases op with
  | setMax limits paramsOk requestsOk => exact setMaxStep_inv hinv hstep
  | submit args env => exact submitStep_inv hinv hcare hstep
  | complete i => exact completeStep_inv hinv hstep

end

section

variable {cfg : StreamConfig} {s : StreamCopy} {ops : List StreamCopyOp}

/-- **Requests stay inside their objects and arrays**, in every run whose submissions copy
everything, with limits and ranges that are not cut. -/
theorem stream_copies_ok (hcare : AllSteps (streamCopyStep cfg) StreamCopyCareful newStreamCopy ops)
    (hrun : run (streamCopyStep cfg) newStreamCopy ops = some s) : ∀ x ∈ s.scheduled, EdmaXferOk x :=
  (run_invariant_of_allSteps (fun _ _ _ hinv hc hs => streamCopyStep_inv hinv hc hs)
    streamCopyInv_new hcare hrun).scheduled

/-- The bytes of a list, at a pointer of the user that is copied as a whole or but for its last
bytes. -/
def userBytes (bytes : List U8) (left : U64) : UserCopy := ⟨fun i => bytes.getD i 0, left⟩

/-- A fence, a value for it and a range at an offset, in an object of 64 bytes. -/
def oneCopy (offset : List U8) (valuesLeft : U64) : SubmitCopyArgs where
  numLocalPostFences := 1
  localPostFences := userBytes [7, 0, 0, 0] 0
  numRemotePostFences := 1
  remotePostFences := userBytes [8, 0, 0, 0] 0
  numFlushRanges := 1
  flushRanges := userBytes ([5, 0, 0, 0, 6, 0, 0, 0] ++ offset ++ [4, 0, 0, 0, 0, 0, 0, 0]) 0
  remotePostFenceValues := userBytes [1, 0, 0, 0, 0, 0, 0, 0] valuesLeft

/-- The descriptors of a source, an imported object, a local fence and an imported one. -/
def fourFiles (handle : U32) : FdFile :=
  if handle = 5 then .stream (some ⟨.sourceMem, 0, 0, 0, false, 0x10000, 64, 0, 0⟩)
  else if handle = 6 then .stream (some ⟨.import, 0, 0, 0, false, 0x20000, 64, 0, 0x30000⟩)
  else if handle = 7 then .stream (some ⟨.localSync, 0, 0, 0, false, 0, 64, 0, 0⟩)
  else if handle = 8 then .stream (some ⟨.import, 0, 0, 0, false, 0, 64, 1, 0x40000⟩)
  else .none

def fourFilesConfig : StreamConfig := ⟨true, 0, 0, 0⟩

def limitsThenCopy (limits : CopyReqLimits) (args : SubmitCopyArgs) : List StreamCopyOp :=
  [.setMax limits true true, .submit args ⟨true, fourFiles, true⟩]

theorem stream_copies_ok_one : ∃ s, run (streamCopyStep fourFilesConfig) newStreamCopy
        (limitsThenCopy ⟨1, 1, 2⟩ (oneCopy [8, 0, 0, 0, 0, 0, 0, 0] 0)) = some s ∧
      s.scheduled.map (fun x => x.request.edmaDesc) = [[⟨0x10008, 0x30008, 4⟩]] ∧
      ∀ x ∈ s.scheduled, EdmaXferOk x := by
  refine exists_of_map (fun s => s.scheduled.map fun x => x.request.edmaDesc) [[⟨0x10008, 0x30008, 4⟩]]
    (by decide) fun s hrun hdesc => ?_
  have hcare : AllSteps (streamCopyStep fourFilesConfig) StreamCopyCareful newStreamCopy
      (limitsThenCopy ⟨1, 1, 2⟩ (oneCopy [8, 0, 0, 0, 0, 0, 0, 0] 0)) := by decide
  exact ⟨hdesc, stream_copies_ok hcare hrun⟩

/-- **An end that is cut, a copy that is short, and a size that is cut**: the source of the transfer
is before its object, the value of the fence was not copied, and four handles are stored to an array
for three. -/
theorem stream_copies_fail : (∃ s x, run (streamCopyStep fourFilesConfig) newStreamCopy
        (limitsThenCopy ⟨1, 1, 2⟩ (oneCopy [0xfc, 0xff, 0xff, 0xff, 0xff, 0xff, 0xff, 0xff] 0)) = some s ∧
      x ∈ s.scheduled ∧ x.request.edmaDesc = [⟨0xfffc, 0x2fffc, 4⟩] ∧ ¬ EdmaXferOk x) ∧
    (∃ s x, run (streamCopyStep fourFilesConfig) newStreamCopy
        (limitsThenCopy ⟨1, 1, 2⟩ (oneCopy [8, 0, 0, 0, 0, 0, 0, 0] 8)) = some s ∧
      x ∈ s.scheduled ∧ x.request.remotePostFenceValues = [0] ∧ ¬ EdmaXferOk x) ∧
    ∃ s x, run (streamCopyStep fourFilesConfig) newStreamCopy
        (limitsThenCopy ⟨1, 1, 0x4000000000000001⟩ (oneCopy [8, 0, 0, 0, 0, 0, 0, 0] 0)) = some s ∧
      x ∈ s.scheduled ∧ x.request.handlesSize = 24 ∧ x.request.handles.length = 4 ∧ ¬ EdmaXferOk x := by
  refine ⟨?_, ?_, ?_⟩
  · have hsome : (run (streamCopyStep fourFilesConfig) newStreamCopy
        (limitsThenCopy ⟨1, 1, 2⟩ (oneCopy [0xfc, 0xff, 0xff, 0xff, 0xff, 0xff, 0xff, 0xff] 0))).bind
          (fun s => s.scheduled.head?.map fun x => (x.request.edmaDesc, x.params.numFlushRanges,
            (x.files (x.params.rangeAt 0).srcHandle).privateData.map StreamObj.size,
            (x.params.rangeAt 0).offset, (x.params.rangeAt 0).size)) =
        some ([⟨0xfffc, 0x2fffc, 4⟩], 1, some 64, 0xfffffffffffffffc, 4) := by decide
    obtain ⟨s, hrun, h⟩ := Option.bind_eq_some_iff.mp hsome
    obtain ⟨x, hx, h⟩ := Option.map_eq_some_iff.mp h
    simp only [Prod.mk.injEq] at h
    obtain ⟨hdesc, hnum, hsize, hoffset, hlen⟩ := h
    refine ⟨s, x, hrun, List.mem_of_head? hx, hdesc, ?_⟩
    intro hok
    obtain ⟨src, _, hsrc, _, hle, _⟩ := hok.ranges 0 (by rw [hnum]; decide)
    rw [hsrc, Option.map_some, Option.some.injEq] at hsize
    rw [hoffset, hlen, hsize] at hle
    exact absurd hle (by decide)
  · have hsome : (run (streamCopyStep fourFilesConfig) newStreamCopy
        (limitsThenCopy ⟨1, 1, 2⟩ (oneCopy [8, 0, 0, 0, 0, 0, 0, 0] 8))).bind
          (fun s => s.scheduled.head?.map fun x => (x.request.remotePostFenceValues,
            x.params.numRemotePostFences, x.args.remotePostFenceValues.left)) =
        some ([0], 1, 8) := by decide
    obtain ⟨s, hrun, h⟩ := Option.bind_eq_some_iff.mp hsome
    obtain ⟨x, hx, h⟩ := Option.map_eq_some_iff.mp h
    simp only [Prod.mk.injEq] at h
    obtain ⟨hvalues, hnum, hleft⟩ := h
    refine ⟨s, x, hrun, List.mem_of_head? hx, hvalues, ?_⟩
    intro hok
    have hcopied := hok.copiedValues
    unfold copiesElements at hcopied
    rw [hnum, hleft] at hcopied
    exact absurd hcopied (by decide)
  · have hsome : (run (streamCopyStep fourFilesConfig) newStreamCopy
        (limitsThenCopy ⟨1, 1, 0x4000000000000001⟩ (oneCopy [8, 0, 0, 0, 0, 0, 0, 0] 0))).bind
          (fun s => s.scheduled.head?.map fun x => (x.request.handlesSize, x.request.handles.length,
            x.params.numLocalPostFences, x.params.numRemotePostFences, x.params.numFlushRanges)) =
        some (24, 4, 1, 1, 1) := by decide
    obtain ⟨s, hrun, h⟩ := Option.bind_eq_some_iff.mp hsome
    obtain ⟨x, hx, h⟩ := Option.map_eq_some_iff.mp h
    simp only [Prod.mk.injEq] at h
    obtain ⟨hsize, hlength, hlocal, hremote, hflush⟩ := h
    refine ⟨s, x, hrun, List.mem_of_head? hx, hsize, hlength, ?_⟩
    intro hok
    have hhandles := hok.handles
    unfold holdsElements at hhandles
    rw [hsize, hlocal, hremote, hflush] at hhandles
    exact absurd hhandles (by decide)

end

end NvidiaOot.Analysis
