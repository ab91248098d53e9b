import NvidiaOot.Analysis.VblkIoctlSpec

/-!
# UFS queries in an ioctl

The two loops carry the direction flag from query to query: behind `k` queries it is set iff one of them is a write
(`ufsFlagBefore`).  A query with data is copied in by the flag and not by its own opcode, so the preparing half is right
iff the two agree (`forall_mem_ufsPrepCmd`), and so is the completing half (`forall_mem_ufsCompleteCmd`).
-/

namespace NvidiaOot.Analysis

open Program Model Library

variable {ic : UfsIocQueryReq} {t : U32} {flag : Bool} {len : ℕ}

variable {u user user' : UfsView} {bufferOffset : ℕ → U32} {allocOk : Bool} {n k : ℕ}

/-! ## Valid queries -/

/-- **The check of a query** sets the flag for a write and never clears it. -/
theorem vblkValidateSingleQueryIo_eq (ic : UfsIocQueryReq) (wFlag : Bool) : vblkValidateSingleQueryIo ic wFlag =
      match ufsDataLen ic with | none => .error (-eINVAL) | some n => .ok (n, wFlag || ufsWrites ic) := by
  unfold ufsDataLen ufsWrites vblkValidateSingleQueryIo
  generalize ic.opcode.toNat = op
  split
  case h_9 => simp_all
  all_goals split_ifs
  all_goals simp

theorem ufsDataLen_le (h : ufsDataLen ic = some len) : len ≤ 255 := by
  unfold ufsDataLen vblkValidateSingleQueryIo at h
  generalize ic.opcode.toNat = op at h
  split at h
  · cases h
  rename_i heq
  cases h
  split at heq
  case h_9 => cases heq
  all_goals split_ifs at heq
  all_goals cases heq
  all_goals omega

theorem toNat_ufsDataLen (h : ufsDataLen ic = some len) : (BitVec.ofNat 32 len).toNat = len := by
  have hle := ufsDataLen_le h
  rw [BitVec.toNat_ofNat]
  omega

def ufsFlagBefore (u : UfsView) (k : ℕ) : Bool := (List.range k).any fun j => (u.cmds j).any ufsWrites

theorem ufsWriteUpTo_eq (hcmd : u.cmds k = some ic) : ufsWriteUpTo u k = (ufsFlagBefore u k || ufsWrites ic) := by
  unfold ufsWriteUpTo ufsFlagBefore
  rw [List.range_succ, List.any_append, List.any_cons, List.any_nil, Bool.or_false, hcmd, Option.any_some]

theorem ufsNumCmd_le (h : ufsNumCmd u = .ok n) : n ≤ maxQueryCmdPerCombo := by
  unfold ufsNumCmd at h
  split at h
  · cases h
  split at h
  · cases h
  · cases h
    omega

theorem ufsNumCmd_error {err : ℤ} (h : ufsNumCmd u = .error err) : err ≠ 0 := by
  unfold ufsNumCmd at h
  split at h
  · cases h
    decide
  split at h
  · cases h
    decide
  · cases h

section

variable (hn : n ≤ maxQueryCmdPerCombo)

include hn

theorem toNat_ufsHeaderSize :
    (ufsHeaderSize n).toNat = ufsComboInfoSize + ufsQueryReqSize * n := by
  unfold maxQueryCmdPerCombo at hn
  exact Nat.mod_eq_of_lt (show 9 + 18 * n < 2 ^ 32 by omega)

theorem ufsHeaderSize_bounds :
    ufsComboInfoSize ≤ (ufsHeaderSize n).toNat ∧ (ufsHeaderSize n).toNat ≤ vblkMaxIocSize := by
  rw [toNat_ufsHeaderSize hn]
  unfold maxQueryCmdPerCombo at hn
  unfold ufsComboInfoSize ufsQueryReqSize vblkMaxIocSize
  omega

theorem insideBuffer_ufsQuery (hk : k < n) :
    ufsComboInfoSize + ufsQueryReqSize * k + ufsQueryReqSize ≤ vblkMaxIocSize := by
  unfold maxQueryCmdPerCombo at hn
  unfold ufsComboInfoSize ufsQueryReqSize vblkMaxIocSize
  omega

end

/-! ## The preparing half -/

theorem ufsOffset_succ (hcmd : u.cmds k = some ic) (hlen : ufsDataLen ic = some len) :
    ufsOffset u n (k + 1) = ufsOffset u n k + len := by
  unfold ufsOffset
  rw [List.range_succ, List.map_append, List.sum_append, List.map_singleton, List.sum_singleton, hcmd, Option.bind_some,
    hlen, Nat.add_assoc]
  rfl

theorem ufsOffset_le (hn : n ≤ maxQueryCmdPerCombo) (htakes : ∀ j < k, ufsTakes u n j = true) :
    ufsOffset u n k ≤ vblkMaxIocSize := by
  cases k with
  | zero => exact (ufsHeaderSize_bounds hn).2
  | succ k =>
    have hlast := htakes k (Nat.lt_succ_self k)
    unfold ufsTakes ufsHasSpace at hlast
    rw [Bool.and_eq_true, Bool.and_eq_true] at hlast
    exact of_decide_eq_true hlast.1.2

theorem ufsPrepCmd_of_valid (hcmd : u.cmds k = some ic)
    (hlen : ufsDataLen ic = some len) (hle : t.toNat ≤ vblkMaxIocSize) : ufsPrepCmd u k (t, ufsFlagBefore u k) =
      if vblkMaxIocSize < t.toNat + len then
        ([.access (ufsComboInfoSize + ufsQueryReqSize * k) ufsQueryReqSize vblkMaxIocSize], .error (-eFAULT)) else
        ([.access (ufsComboInfoSize + ufsQueryReqSize * k) ufsQueryReqSize vblkMaxIocSize] ++
            .prepared k (ufsWriteUpTo u k && len != 0) ::
              dataAccess (ufsWriteUpTo u k && len != 0) t (BitVec.ofNat 32 len) vblkMaxIocSize,
          if ufsWriteUpTo u k && len != 0 && u.dataFault k then .error (-eFAULT)
          else .ok (t + BitVec.ofNat 32 len, ufsWriteUpTo u k)) := by
  have hcheck : (t + BitVec.ofNat 32 len).toNat < len ∨ vblkMaxIocSize < (t + BitVec.ofNat 32 len).toNat ↔
      vblkMaxIocSize < t.toNat + len := by
    have hspace := noSpace_iff (BitVec.ofNat 32 len) hle
    rwa [BitVec.lt_def, toNat_ufsDataLen hlen] at hspace
  unfold ufsPrepCmd
  rw [hcmd]
  dsimp only
  rw [vblkValidateSingleQueryIo_eq, hlen, ← ufsWriteUpTo_eq hcmd]
  dsimp only
  by_cases hspace : vblkMaxIocSize < t.toNat + len
  · rw [if_pos hspace, if_pos (hcheck.mpr hspace)]
  · rw [if_neg hspace, if_neg (fun h => hspace (hcheck.mp h))]

theorem ufsPrepCmd_of_invalid (hcmd : (u.cmds k).bind ufsDataLen = none) :
    ufsPrepCmd u k (t, flag) = ([], .error (-eFAULT)) := by
  unfold ufsPrepCmd
  cases hic : u.cmds k with
  | none => rfl
  | some ic =>
    rw [hic, Option.bind_some] at hcmd
    dsimp only
    rw [vblkValidateSingleQueryIo_eq, hcmd]

theorem ufsPrepCmd_eq_ok {state : U32 × Bool} (ht : t.toNat = ufsOffset u n k)
    (hle : ufsOffset u n k ≤ vblkMaxIocSize) : (ufsPrepCmd u k (t, ufsFlagBefore u k)).2 = .ok state ↔
      ufsTakes u n k = true ∧ state.1.toNat = ufsOffset u n (k + 1) ∧ state.2 = ufsFlagBefore u (k + 1) := by
  cases hvalid : (u.cmds k).bind ufsDataLen with
  | none =>
    rw [ufsPrepCmd_of_invalid hvalid]
    simp [ufsTakes, ufsHasSpace, hvalid]
  | some len =>
    obtain ⟨ic, hcmd, hlen⟩ := Option.bind_eq_some_iff.mp hvalid
    rw [← ht] at hle
    rw [ufsPrepCmd_of_valid hcmd hlen hle]
    unfold ufsTakes ufsHasSpace
    rw [hvalid, ufsOffset_succ hcmd hlen, ← ht]
    change _ ↔ _ ∧ _ ∧ state.2 = ufsWriteUpTo u k
    by_cases hspace : vblkMaxIocSize < t.toNat + len
    · rw [if_pos hspace]
      simp
      omega
    rw [if_neg hspace]
    have hsum : (t + BitVec.ofNat 32 len).toNat = t.toNat + len := by
      have hadd := toNat_add_of_space t (BitVec.ofNat 32 len)
      rw [toNat_ufsDataLen hlen] at hadd
      exact hadd (Nat.le_of_not_lt hspace)
    simp only [Option.isSome_some, Nat.le_of_not_lt hspace, decide_true, Bool.and_self, Bool.true_and,
      Option.any_some]
    cases ufsWriteUpTo u k && len != 0 && u.dataFault k with
    | true => simp
    | false =>
      rw [← hsum, BitVec.toNat_inj]
      simp only [Bool.false_eq_true, if_false, Except.ok.injEq, Bool.not_false, true_and]
      rw [eq_comm, Prod.ext_iff]

/-- **The state before a query.** -/
theorem stateBefore_ufsPrepCmd (hn : n ≤ maxQueryCmdPerCombo) (state : U32 × Bool) :
    stateBefore (ufsPrepCmd u) 0 (ufsHeaderSize n, false) k = some state ↔
      (∀ j < k, ufsTakes u n j = true) ∧ state.1.toNat = ufsOffset u n k ∧ state.2 = ufsFlagBefore u k := by
  refine stateBefore_eq_some_iff (R := fun k (state : U32 × Bool) =>
      state.1.toNat = ufsOffset u n k ∧ state.2 = ufsFlagBefore u k) (fun t => ?_)
    (fun k htakes => ⟨(_, _), toNat_ofNat_of_space (ufsOffset_le hn htakes), rfl⟩)
    fun k t t' htakes ht => ?_
  · unfold ufsOffset ufsFlagBefore
    rw [List.range_zero, List.map_nil, List.sum_nil, Nat.add_zero, BitVec.toNat_inj, List.any_nil]
    rw [eq_comm, Prod.ext_iff]
  · obtain ⟨t, flag⟩ := t
    obtain ⟨ht, rfl⟩ := ht
    rw [Nat.zero_add]
    exact ufsPrepCmd_eq_ok ht (ufsOffset_le hn htakes)

theorem mem_ufsPrepCmd {e : IoctlEvent} (hn : n ≤ maxQueryCmdPerCombo) (hk : k < n)
    (ht : t.toNat ≤ vblkMaxIocSize) (he : e ∈ (ufsPrepCmd u k (t, ufsFlagBefore u k)).1) :
    InLoop e ∧ InsideBuffer e ∧ goesOut e = false := by
  have hheader := insideBuffer_ufsQuery hn hk
  cases hvalid : (u.cmds k).bind ufsDataLen with
  | none =>
    rw [ufsPrepCmd_of_invalid hvalid] at he
    cases he
  | some len =>
    obtain ⟨ic, hcmd, hlen⟩ := Option.bind_eq_some_iff.mp hvalid
    rw [ufsPrepCmd_of_valid hcmd hlen ht] at he
    split at he
    · rw [List.mem_singleton] at he
      subst he
      exact ⟨⟨nofun, nofun⟩, hheader, rfl⟩
    rename_i hspace
    rw [List.mem_append, List.mem_singleton, List.mem_cons] at he
    rcases he with rfl | rfl | he
    · exact ⟨⟨nofun, nofun⟩, hheader, rfl⟩
    · exact ⟨⟨nofun, nofun⟩, trivial, rfl⟩
    · rw [mem_dataAccess he, toNat_ufsDataLen hlen]
      exact ⟨⟨nofun, nofun⟩, Nat.le_of_not_lt hspace, rfl⟩

/-- **One query** is copied in as it wants iff the flag is that of its own opcode, or there is nothing to copy. -/
theorem forall_mem_ufsPrepCmd (ht : t.toNat = ufsOffset user n k) (hle : ufsOffset user n k ≤ vblkMaxIocSize)
    (gives : ℕ → Bool) : (∀ e ∈ (ufsPrepCmd user k (t, ufsFlagBefore user k)).1,
        RightWay (takesData (.ufs allocOk user user' bufferOffset)) gives e) ↔
      (ufsHasSpace user n k = true → ((user.cmds k).bind ufsDataLen).any (· != 0) = true →
        (user.cmds k).any ufsWrites = ufsWriteUpTo user k) := by
  cases hvalid : (user.cmds k).bind ufsDataLen with
  | none =>
    rw [ufsPrepCmd_of_invalid hvalid]
    simp
  | some len =>
    obtain ⟨ic, hcmd, hlen⟩ := Option.bind_eq_some_iff.mp hvalid
    rw [← ht] at hle
    rw [ufsPrepCmd_of_valid hcmd hlen hle]
    unfold ufsHasSpace
    rw [hvalid, ufsOffset_succ hcmd hlen, ← ht, hcmd, Option.any_some, Option.any_some]
    by_cases hspace : vblkMaxIocSize < t.toNat + len
    · rw [if_pos hspace]
      simp [RightWay, Nat.not_le_of_lt hspace]
    rw [if_neg hspace]
    have hcopied : (∀ e ∈ dataAccess (ufsWriteUpTo user k && len != 0) t (BitVec.ofNat 32 len) vblkMaxIocSize,
        RightWay (takesData (.ufs allocOk user user' bufferOffset)) gives e) := by
      intro e he
      rw [mem_dataAccess he]
      trivial
    rw [List.cons_append, List.nil_append, List.forall_mem_cons, List.forall_mem_cons, and_iff_left hcopied]
    simp only [RightWay, takesData, hcmd, hlen, Option.any_some, true_and, Option.isSome_some,
      Nat.le_of_not_lt hspace, decide_true, Bool.and_self, true_implies]
    cases len != 0 with
    | true => simp [eq_comm]
    | false => simp

theorem ufsPrepCmd_error (i : ℕ) (state : U32 × Bool) (err : ℤ) (h : (ufsPrepCmd u i state).2 = .error err) :
    err ≠ 0 := by
  unfold ufsPrepCmd at h
  split at h
  · cases h
    decide
  split at h
  · cases h
    decide
  dsimp only at h
  split at h
  · cases h
    decide
  split at h
  · cases h
    decide
  · cases h

/-- **The preparing half.** -/
theorem prepSpec_ufs (allocOk : Bool) (user user' : UfsView) (bufferOffset : ℕ → U32) :
    PrepSpec (.ufs allocOk user user' bufferOffset) := by
  cases allocOk with
  | false => exact PrepSpec.of_nil rfl (show -eNOMEM ≠ 0 by decide) Bool.noConfusion (fun h => Bool.noConfusion h.1)
  | true =>
    cases hcount : ufsNumCmd user with
    | error err =>
      have herr := ufsNumCmd_error hcount
      have hprep : VblkIoctl.prep (.ufs true user user' bufferOffset) = (.alloc :: ([] ++ freeOnError err), err) := by
        simp [VblkIoctl.prep, vblkPrepUfsComboIoc, hcount, freeOnError, herr]
      refine PrepSpec.of_buffer hprep (by simp) (by simp) ⟨fun _ _ => ?_, by simp⟩ ⟨fun h => absurd h herr, ?_⟩
      · intro n hn
        rw [hcount] at hn
        cases hn
      · rintro ⟨-, n, hn, -⟩
        rw [hcount] at hn
        cases hn
    | ok n =>
      have hn := ufsNumCmd_le hcount
      obtain ⟨hlow, hhigh⟩ := ufsHeaderSize_bounds hn
      have hnotLow : ¬ ufsHeaderSize n < BitVec.ofNat 32 ufsComboInfoSize := by
        exact Nat.not_lt_of_le hlow
      have hprep : VblkIoctl.prep (.ufs true user user' bufferOffset) =
          (.alloc :: ((.access 0 ufsComboInfoSize vblkMaxIocSize ::
                (tracedTurns (ufsPrepCmd user) n 0 (ufsHeaderSize n, false)).1) ++
              freeOnError (errorOf (tracedTurns (ufsPrepCmd user) n 0 (ufsHeaderSize n, false)).2)),
            errorOf (tracedTurns (ufsPrepCmd user) n 0 (ufsHeaderSize n, false)).2) := by
        change vblkPrepUfsComboIoc true user = _
        unfold vblkPrepUfsComboIoc
        rw [if_pos rfl, hcount]
        dsimp only
        rw [if_neg hnotLow, if_neg (Nat.not_lt_of_le hhigh)]
        rfl
      have hturns : ∀ e ∈ (tracedTurns (ufsPrepCmd user) n 0 (ufsHeaderSize n, false)).1,
          InLoop e ∧ InsideBuffer e ∧ goesOut e = false := by
        rw [forall_mem_tracedTurns]
        rintro k hk ⟨t, flag⟩ hstate e he
        obtain ⟨htakes, ht, hflag⟩ := (stateBefore_ufsPrepCmd hn _).mp hstate
        dsimp only at ht hflag
        rw [Nat.zero_add, hflag] at he
        exact mem_ufsPrepCmd hn hk (ht ▸ ufsOffset_le hn htakes) he
      refine PrepSpec.of_buffer hprep ?_ ?_ ?_ ?_
      · rw [List.forall_mem_cons]
        exact ⟨⟨by simp, by simp⟩, fun e he => (hturns e he).1⟩
      · rw [List.forall_mem_cons]
        exact ⟨⟨show 0 + ufsComboInfoSize ≤ vblkMaxIocSize by decide, rfl⟩, fun e he => (hturns e he).2⟩
      · rw [List.forall_mem_cons, forall_mem_tracedTurns]
        constructor
        · rintro ⟨-, h⟩ - n' hcount' k hk htakes
          rw [hcount] at hcount'
          cases hcount'
          have hle := ufsOffset_le hn htakes
          have ht := toNat_ofNat_of_space hle
          have hstate := (stateBefore_ufsPrepCmd hn (BitVec.ofNat 32 (ufsOffset user n k), ufsFlagBefore user k)).mpr
            ⟨htakes, ht, rfl⟩
          refine (forall_mem_ufsPrepCmd ht hle _).mp fun e he => h k hk _ hstate e ?_
          rwa [Nat.zero_add]
        · intro h
          refine ⟨trivial, ?_⟩
          rintro k hk ⟨t, flag⟩ hstate e he
          obtain ⟨htakes, ht, hflag⟩ := (stateBefore_ufsPrepCmd hn _).mp hstate
          dsimp only at ht hflag
          rw [Nat.zero_add, hflag] at he
          exact (forall_mem_ufsPrepCmd ht (ufsOffset_le hn htakes) _).mpr (h rfl n hcount k hk htakes) e he
      · rw [errorOf_tracedTurns_eq_zero ufsPrepCmd_error]
        constructor
        · rintro ⟨state, hstate⟩
          exact ⟨rfl, n, hcount, ((stateBefore_ufsPrepCmd hn state).mp hstate).1⟩
        · rintro ⟨-, n', hcount', htakes⟩
          rw [hcount] at hcount'
          cases hcount'
          exact ⟨(BitVec.ofNat 32 (ufsOffset user n n), ufsFlagBefore user n),
            (stateBefore_ufsPrepCmd hn _).mpr ⟨htakes, toNat_ofNat_of_space (ufsOffset_le hn htakes), rfl⟩⟩

/-! ## The completing half -/

theorem ufsCompleteCmd_of_valid (hcmd : u.cmds k = some ic) (hlen : ufsDataLen ic = some len) :
    ufsCompleteCmd u bufferOffset k (ufsFlagBefore u k) = if u.bufSizeFault k || u.errorStatusFault k then
        ([.access (ufsComboInfoSize + ufsQueryReqSize * k) ufsQueryReqSize vblkMaxIocSize, .statusOut k],
          .error (-eFAULT)) else
        ([.access (ufsComboInfoSize + ufsQueryReqSize * k) ufsQueryReqSize vblkMaxIocSize, .statusOut k] ++
            .completed k (ufsGoesOut u k) ::
              dataAccess (ufsGoesOut u k) (bufferOffset k) (BitVec.ofNat 32 len) vblkMaxIocSize,
          if ufsGoesOut u k && u.dataFault k then .error (-eFAULT) else .ok (ufsWriteUpTo u k)) := by
  have hout : ufsGoesOut u k = (!ufsWriteUpTo u k && len != 0) := by
    unfold ufsGoesOut
    rw [hcmd, Option.bind_some, hlen, Option.any_some]
  unfold ufsCompleteCmd
  rw [hcmd]
  dsimp only
  rw [vblkValidateSingleQueryIo_eq, hlen, ← ufsWriteUpTo_eq hcmd, hout]

theorem ufsCompleteCmd_of_invalid (hcmd : (u.cmds k).bind ufsDataLen = none) :
    ufsCompleteCmd u bufferOffset k flag = ([], .error (-eFAULT)) := by
  unfold ufsCompleteCmd
  cases hic : u.cmds k with
  | none => rfl
  | some ic =>
    rw [hic, Option.bind_some] at hcmd
    dsimp only
    rw [vblkValidateSingleQueryIo_eq, hcmd]

theorem ufsCompleteCmd_eq_ok : (ufsCompleteCmd u bufferOffset k (ufsFlagBefore u k)).2 = .ok flag ↔
      ufsPasses u k = true ∧ flag = ufsFlagBefore u (k + 1) := by
  unfold ufsPasses ufsReaches
  cases hvalid : (u.cmds k).bind ufsDataLen with
  | none =>
    rw [ufsCompleteCmd_of_invalid hvalid]
    simp
  | some len =>
    obtain ⟨ic, hcmd, hlen⟩ := Option.bind_eq_some_iff.mp hvalid
    rw [ufsCompleteCmd_of_valid hcmd hlen]
    cases u.bufSizeFault k || u.errorStatusFault k with
    | true => simp
    | false =>
      cases ufsGoesOut u k && u.dataFault k with
      | true => simp
      | false =>
        simp only [Bool.false_eq_true, if_false, Except.ok.injEq, Option.isSome_some, Bool.not_false, Bool.and_self,
          true_and]
        exact eq_comm

theorem stateBefore_ufsCompleteCmd (flag : Bool) :
    stateBefore (ufsCompleteCmd u bufferOffset) 0 false k = some flag ↔
      (∀ j < k, ufsPasses u j = true) ∧ flag = ufsFlagBefore u k := by
  refine stateBefore_eq_some_iff (R := fun k flag => flag = ufsFlagBefore u k) (fun t => eq_comm)
    (fun k _ => ⟨_, rfl⟩) fun k t t' _ ht => ?_
  rw [Nat.zero_add, ht]
  exact ufsCompleteCmd_eq_ok

/-- **One query** is right iff what it copies out is. -/
theorem forall_mem_ufsCompleteCmd (takes gives : ℕ → Bool) (hn : n ≤ maxQueryCmdPerCombo) (hk : k < n) :
    (∀ e ∈ (ufsCompleteCmd u bufferOffset k (ufsFlagBefore u k)).1, InsideBuffer e ∧ RightWay takes gives e) ↔
      (ufsReaches u k = true → ufsGoesOut u k = gives k ∧ (ufsGoesOut u k = true →
        (bufferOffset k).toNat + ((u.cmds k).bind ufsDataLen).getD 0 ≤ vblkMaxIocSize)) := by
  have hheader := insideBuffer_ufsQuery hn hk
  unfold ufsReaches
  cases hvalid : (u.cmds k).bind ufsDataLen with
  | none =>
    rw [ufsCompleteCmd_of_invalid hvalid]
    simp
  | some len =>
    obtain ⟨ic, hcmd, hlen⟩ := Option.bind_eq_some_iff.mp hvalid
    rw [ufsCompleteCmd_of_valid hcmd hlen]
    cases u.bufSizeFault k || u.errorStatusFault k with
    | true => simp [InsideBuffer, RightWay, hheader]
    | false =>
      have hto := toNat_ufsDataLen hlen
      cases ufsGoesOut u k with
      | true =>
        simp only [dataAccess, if_true]
        rw [hto]
        simp [InsideBuffer, RightWay, hheader]
      | false => simp [dataAccess, InsideBuffer, RightWay, hheader]

theorem inLoop_ufsCompleteCmd (flag : Bool) (e : IoctlEvent) (he : e ∈ (ufsCompleteCmd u bufferOffset k flag).1) :
    InLoop e := by
  unfold ufsCompleteCmd at he
  split at he
  · cases he
  split at he
  · cases he
  split at he
  · rw [List.mem_pair] at he
    rcases he with rfl | rfl
    · exact ⟨nofun, nofun⟩
    · exact ⟨nofun, nofun⟩
  rw [List.mem_append, List.mem_pair, List.mem_cons] at he
  rcases he with (rfl | rfl) | rfl | he
  · exact ⟨nofun, nofun⟩
  · exact ⟨nofun, nofun⟩
  · exact ⟨nofun, nofun⟩
  · rw [mem_dataAccess he]
    exact ⟨nofun, nofun⟩

theorem statusOut_mem_ufsCompleteCmd (hvalid : (u.cmds k).bind ufsDataLen ≠ none) :
    .statusOut k ∈ (ufsCompleteCmd u bufferOffset k (ufsFlagBefore u k)).1 := by
  obtain ⟨len, hlen⟩ := Option.ne_none_iff_exists'.mp hvalid
  obtain ⟨ic, hcmd, hic⟩ := Option.bind_eq_some_iff.mp hlen
  rw [ufsCompleteCmd_of_valid hcmd hic]
  split
  · simp
  · simp

/-- **The completing half.** -/
theorem completeSpec_ufs (allocOk : Bool) (user user' : UfsView) (bufferOffset : ℕ → U32) :
    CompleteSpec (.ufs allocOk user user' bufferOffset) := by
  have hfailed : ∀ status, status ≠ 0 →
      (VblkIoctl.complete status (.ufs allocOk user user' bufferOffset)).1 = [.free] := by
    intro status hstatus
    simp [VblkIoctl.complete, vblkCompleteUfsComboIoc, hstatus]
  cases hcount : ufsNumCmd user' with
  | error err =>
    have hcomplete : (VblkIoctl.complete 0 (.ufs allocOk user user' bufferOffset)).1 = [] ++ [.free] := by
      simp [VblkIoctl.complete, vblkCompleteUfsComboIoc, hcount]
    refine CompleteSpec.of_buffer hfailed hcomplete nofun ⟨fun _ => ?_, nofun⟩ (fun _ => rfl) (fun hnot => ?_)
    · intro n hn
      rw [hcount] at hn
      cases hn
    · refine absurd ?_ hnot
      intro n hn
      rw [hcount] at hn
      cases hn
  | ok n =>
    have hn := ufsNumCmd_le hcount
    have hcomplete : (VblkIoctl.complete 0 (.ufs allocOk user user' bufferOffset)).1 =
        (tracedTurns (ufsCompleteCmd user' bufferOffset) n 0 false).1 ++ [.free] := by
      simp [VblkIoctl.complete, vblkCompleteUfsComboIoc, hcount]
    refine CompleteSpec.of_buffer hfailed hcomplete ?_ ?_ ?_ ?_
    · rw [forall_mem_tracedTurns]
      intro k _ flag _ e he
      exact inLoop_ufsCompleteCmd flag e he
    · rw [forall_mem_tracedTurns]
      constructor
      · intro h n' hcount' k hk hpasses
        rw [hcount] at hcount'
        cases hcount'
        refine (forall_mem_ufsCompleteCmd (takesData (.ufs allocOk user user' bufferOffset)) _ hn hk).mp fun e he => ?_
        exact h k hk _ ((stateBefore_ufsCompleteCmd _).mpr ⟨hpasses, rfl⟩) e (by rwa [Nat.zero_add])
      · intro h k hk flag hstate e he
        obtain ⟨hpasses, hflag⟩ := (stateBefore_ufsCompleteCmd flag).mp hstate
        rw [Nat.zero_add, hflag] at he
        exact (forall_mem_ufsCompleteCmd _ _ hn hk).mpr (h n hcount k hk hpasses) e he
    · intro hquiet
      cases n with
      | zero => rfl
      | succ n =>
        have hcmd := (hquiet (n + 1) hcount).resolve_left (Nat.succ_ne_zero n)
        unfold tracedTurns
        rw [ufsCompleteCmd_of_invalid hcmd]
    · intro hloud
      have hsome : n ≠ 0 ∧ (user'.cmds 0).bind ufsDataLen ≠ none := by
        by_contra hnot
        refine hloud ?_
        intro n' hcount'
        rw [hcount] at hcount'
        cases hcount'
        by_contra hboth
        exact hnot (not_or.mp hboth)
      exact ⟨.statusOut 0, mem_tracedTurns.mpr ⟨0, Nat.pos_of_ne_zero hsome.1, false, rfl,
        statusOut_mem_ufsCompleteCmd hsome.2⟩, rfl⟩

end NvidiaOot.Analysis
