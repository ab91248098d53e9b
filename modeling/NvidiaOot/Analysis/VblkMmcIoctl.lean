import NvidiaOot.Analysis.VblkIoctlSpec

/-!
# MMC commands in an ioctl

The data of the commands lie one behind the other from the end of the headers on: as far as the preparing half gets,
the state before command `k` is `mmcOffset` (`stateBefore_mmcPrepCmd`).  The completing half has no state, and its
commands are right one by one (`forall_mem_mmcCompleteCmd`).
-/

namespace NvidiaOot.Analysis

open Program Model Library

variable {u user user' : MmcView} {content : ℕ → ComboCmd} {allocOk multi : Bool} {n k : ℕ}

theorem mmcNumCmd_le (h : mmcNumCmd multi u = .ok n) : n ≤ mmcIocMaxCmds := by
  unfold mmcNumCmd at h
  split at h
  · split at h
    · cases h
    · split at h
      · cases h
      · cases h
        omega
  · cases h
    decide

theorem mmcHeaderSize_bounds (hn : n ≤ mmcIocMaxCmds) :
    comboInfoSize ≤ (mmcHeaderSize n).toNat ∧ (mmcHeaderSize n).toNat ≤ vblkMaxIocSize := by
  have hmask : (512 - 1 : U32).toNat = 2 ^ 9 - 1 := rfl
  unfold mmcIocMaxCmds at hn
  have hsum : (BitVec.ofNat 32 (comboInfoSize + comboCmdSizeof * n) + (512 - 1)).toNat = 8 + 40 * n + 511 := by
    have hlt : 8 + 40 * n < 2 ^ 32 := by omega
    rw [BitVec.toNat_add, BitVec.toNat_ofNat, hmask]
    unfold comboInfoSize comboCmdSizeof
    rw [Nat.mod_eq_of_lt hlt]
    exact Nat.mod_eq_of_lt (show 8 + 40 * n + 511 < 2 ^ 32 by omega)
  unfold mmcHeaderSize
  rw [toNat_and_not _ hmask, hsum]
  unfold comboInfoSize vblkMaxIocSize
  omega

theorem insideBuffer_comboCmd (hn : n ≤ mmcIocMaxCmds) (hk : k < n) :
    comboInfoSize + comboCmdSizeof * k + comboCmdSizeof ≤ vblkMaxIocSize := by
  unfold mmcIocMaxCmds at hn
  unfold comboInfoSize comboCmdSizeof vblkMaxIocSize
  omega

/-! ## The preparing half -/

theorem mmcOffset_succ {ic : MmcIocCmd} (hcmd : u.cmds k = some ic) :
    mmcOffset u n (k + 1) = mmcOffset u n k + ic.dataLen.toNat := by
  unfold mmcOffset
  rw [List.range_succ, List.map_append, List.sum_append, List.map_singleton, List.sum_singleton, hcmd, Nat.add_assoc]
  rfl

theorem mmcOffset_le (hn : n ≤ mmcIocMaxCmds) (htakes : ∀ j < k, mmcTakes u n j = true) :
    mmcOffset u n k ≤ vblkMaxIocSize := by
  cases k with
  | zero => exact (mmcHeaderSize_bounds hn).2
  | succ k =>
    have hlast := htakes k (Nat.lt_succ_self k)
    unfold mmcTakes at hlast
    rw [Option.any_eq_true_iff_get] at hlast
    obtain ⟨hsome, hspace⟩ := hlast
    rw [Bool.and_eq_true] at hspace
    exact of_decide_eq_true hspace.1

theorem mmcPrepCmd_eq_ok {t size : U32} (ht : t.toNat = mmcOffset u n k) (hle : mmcOffset u n k ≤ vblkMaxIocSize) :
    (mmcPrepCmd u k t).2 = .ok size ↔ mmcTakes u n k = true ∧ size.toNat = mmcOffset u n (k + 1) := by
  unfold mmcPrepCmd mmcTakes
  cases hcmd : u.cmds k with
  | none => simp
  | some ic =>
    rw [mmcOffset_succ hcmd, Option.any_some, ← ht]
    rw [← ht] at hle
    dsimp only
    by_cases hspace : vblkMaxIocSize < t.toNat + ic.dataLen.toNat
    · rw [if_pos ((noSpace_iff _ hle).mpr hspace)]
      simp
      omega
    rw [if_neg (fun h => hspace ((noSpace_iff _ hle).mp h)), ← toNat_add_of_space _ _ (Nat.le_of_not_lt hspace)]
    have hfits : (t + ic.dataLen).toNat ≤ vblkMaxIocSize := by
      rw [toNat_add_of_space _ _ (Nat.le_of_not_lt hspace)]
      exact Nat.le_of_not_lt hspace
    by_cases hfault : (ic.writeFlag != 0 && ic.dataLen != 0 && u.dataFault k) = true
    · simp only [hfault, if_true, Bool.not_true, Bool.and_false, Bool.false_eq_true, false_and, reduceCtorEq]
    · simp only [hfault, Bool.false_eq_true, if_false, hfits, decide_true, Bool.not_false, Bool.and_self, true_and,
        Except.ok.injEq, BitVec.toNat_inj]
      exact eq_comm

/-- **The state before a command.** -/
theorem stateBefore_mmcPrepCmd (hn : n ≤ mmcIocMaxCmds) (size : U32) :
    stateBefore (mmcPrepCmd u) 0 (mmcHeaderSize n) k = some size ↔
      (∀ j < k, mmcTakes u n j = true) ∧ size.toNat = mmcOffset u n k := by
  refine stateBefore_eq_some_iff (R := fun k (t : U32) => t.toNat = mmcOffset u n k) (fun t => ?_)
    (fun k htakes => ⟨_, toNat_ofNat_of_space (mmcOffset_le hn htakes)⟩) fun k t t' htakes ht => ?_
  · unfold mmcOffset
    rw [List.range_zero, List.map_nil, List.sum_nil, Nat.add_zero, BitVec.toNat_inj]
    exact eq_comm
  · rw [Nat.zero_add]
    exact mmcPrepCmd_eq_ok ht (mmcOffset_le hn htakes)

theorem mem_mmcPrepCmd {t : U32} {e : IoctlEvent} (hn : n ≤ mmcIocMaxCmds) (hk : k < n)
    (ht : t.toNat ≤ vblkMaxIocSize) (he : e ∈ (mmcPrepCmd user k t).1) :
    PrepEvent (takesData (.mmc allocOk multi user user' content)) (givesData (.mmc allocOk multi user user' content))
      e := by
  have hheader := insideBuffer_comboCmd hn hk
  unfold mmcPrepCmd at he
  cases hcmd : user.cmds k with
  | none =>
    rw [hcmd] at he
    cases he
  | some ic =>
    rw [hcmd] at he
    dsimp only at he
    split at he
    · rw [List.mem_singleton] at he
      subst he
      exact prepEvent_access hheader
    rename_i hspace
    rw [noSpace_iff _ ht] at hspace
    rw [List.mem_append, List.mem_singleton, List.mem_cons] at he
    rcases he with rfl | rfl | he
    · exact prepEvent_access hheader
    · apply prepEvent_prepared
      simp [takesData, hcmd]
    · rw [mem_dataAccess he]
      exact prepEvent_access (Nat.le_of_not_lt hspace)

theorem mmcNumCmd_error {err : ℤ} (h : mmcNumCmd multi u = .error err) : err ≠ 0 := by
  unfold mmcNumCmd at h
  split at h
  · split at h
    · cases h
      decide
    · split at h
      · cases h
        decide
      · cases h
  · cases h

theorem mmcPrepCmd_error (i : ℕ) (t : U32) (err : ℤ) (h : (mmcPrepCmd u i t).2 = .error err) : err ≠ 0 := by
  unfold mmcPrepCmd at h
  split at h
  · cases h
    decide
  dsimp only at h
  split at h
  · cases h
    decide
  split at h
  · cases h
    decide
  · cases h

/-- **The preparing half.** -/
theorem prepSpec_mmc (allocOk multi : Bool) (user user' : MmcView) (content : ℕ → ComboCmd) :
    PrepSpec (.mmc allocOk multi user user' content) := by
  cases allocOk with
  | false => exact PrepSpec.of_nil rfl (show -eNOMEM ≠ 0 by decide) trivial (fun h => Bool.noConfusion h.1)
  | true =>
    cases hcount : mmcNumCmd multi user with
    | error err =>
      have herr := mmcNumCmd_error hcount
      have hprep : VblkIoctl.prep (.mmc true multi user user' content) = (.alloc :: ([] ++ freeOnError err), err) := by
        simp [VblkIoctl.prep, vblkPrepMmcMultiIoc, hcount, freeOnError, herr]
      refine PrepSpec.of_buffer hprep (by simp) (by simp) ⟨fun _ => trivial, by simp⟩ ⟨fun h => absurd h herr, ?_⟩
      rintro ⟨-, n, hn, -⟩
      rw [hcount] at hn
      cases hn
    | ok n =>
      have hn := mmcNumCmd_le hcount
      obtain ⟨hlow, hhigh⟩ := mmcHeaderSize_bounds hn
      have hnotLow : ¬ mmcHeaderSize n < BitVec.ofNat 32 comboInfoSize := by
        exact Nat.not_lt_of_le hlow
      have hprep : VblkIoctl.prep (.mmc true multi user user' content) =
          (.alloc :: ((.access 0 4 vblkMaxIocSize :: (tracedTurns (mmcPrepCmd user) n 0 (mmcHeaderSize n)).1) ++
              freeOnError (errorOf (tracedTurns (mmcPrepCmd user) n 0 (mmcHeaderSize n)).2)),
            errorOf (tracedTurns (mmcPrepCmd user) n 0 (mmcHeaderSize n)).2) := by
        change vblkPrepMmcMultiIoc true multi user = _
        unfold vblkPrepMmcMultiIoc
        rw [if_pos rfl, hcount]
        dsimp only
        rw [if_neg hnotLow, if_neg (Nat.not_lt_of_le hhigh)]
        rfl
      have hturns : ∀ e ∈ (tracedTurns (mmcPrepCmd user) n 0 (mmcHeaderSize n)).1,
          PrepEvent (takesData (.mmc true multi user user' content)) (givesData (.mmc true multi user user' content))
            e := by
        rw [forall_mem_tracedTurns]
        intro k hk t hstate e he
        obtain ⟨htakes, ht⟩ := (stateBefore_mmcPrepCmd hn t).mp hstate
        rw [Nat.zero_add] at he
        exact mem_mmcPrepCmd hn hk (ht ▸ mmcOffset_le hn htakes) he
      refine PrepSpec.of_buffer hprep ?_ ?_ ⟨fun _ => trivial, fun _ => ?_⟩ ?_
      · rw [List.forall_mem_cons]
        exact ⟨⟨by simp, by simp⟩, fun e he => (hturns e he).1⟩
      · rw [List.forall_mem_cons]
        exact ⟨⟨show 0 + 4 ≤ vblkMaxIocSize by decide, rfl⟩, fun e he => (hturns e he).2.1⟩
      · rw [List.forall_mem_cons]
        exact ⟨trivial, fun e he => (hturns e he).2.2⟩
      · rw [errorOf_tracedTurns_eq_zero mmcPrepCmd_error]
        constructor
        · rintro ⟨size, hstate⟩
          exact ⟨rfl, n, hcount, ((stateBefore_mmcPrepCmd hn size).mp hstate).1⟩
        · rintro ⟨-, n', hcount', htakes⟩
          rw [hcount] at hcount'
          cases hcount'
          refine ⟨BitVec.ofNat 32 (mmcOffset user n n), (stateBefore_mmcPrepCmd hn _).mpr ⟨htakes, ?_⟩⟩
          exact toNat_ofNat_of_space (mmcOffset_le hn htakes)

/-! ## The completing half -/

theorem mmcCompleteCmd_eq_ok : (mmcCompleteCmd u content k ()).2 = .ok () ↔ mmcPasses u content k = true := by
  unfold mmcCompleteCmd mmcPasses mmcReaches mmcGoesOut
  cases hcmd : u.cmds k with
  | none => simp
  | some ic =>
    cases hresponse : u.responseFault k with
    | true => simp
    | false =>
      simp only [Bool.false_eq_true, if_false, Option.isSome_some, Option.any_some, Bool.not_false, Bool.and_self,
        Bool.true_and]
      cases (ic.writeFlag == 0 && (content k).dataLen != 0) && u.dataFault k with
      | true | false => simp

theorem stateBefore_mmcCompleteCmd :
    stateBefore (mmcCompleteCmd u content) 0 () k = some () ↔ ∀ j < k, mmcPasses u content j = true := by
  induction k with
  | zero => simp [stateBefore]
  | succ k ih =>
    rw [stateBefore_succ_eq_some, Nat.zero_add, Nat.forall_lt_succ_right, ← ih, ← mmcCompleteCmd_eq_ok]
    constructor
    · rintro ⟨⟨⟩, hstate, hok⟩
      exact ⟨hstate, hok⟩
    · rintro ⟨hstate, hok⟩
      exact ⟨(), hstate, hok⟩

/-- **One command** is right iff what it copies out is. -/
theorem forall_mem_mmcCompleteCmd (takes gives : ℕ → Bool) (hn : n ≤ mmcIocMaxCmds) (hk : k < n) :
    (∀ e ∈ (mmcCompleteCmd u content k ()).1, InsideBuffer e ∧ RightWay takes gives e) ↔
      (mmcReaches u k = true → mmcGoesOut u content k = gives k ∧
        (mmcGoesOut u content k = true → (content k).bufOffset.toNat + (content k).dataLen.toNat ≤ vblkMaxIocSize)) := by
  have hheader := insideBuffer_comboCmd hn hk
  unfold mmcCompleteCmd mmcReaches mmcGoesOut
  cases hcmd : u.cmds k with
  | none => simp
  | some ic =>
    dsimp only
    cases hresponse : u.responseFault k with
    | true => simp [InsideBuffer, RightWay, hheader]
    | false =>
      rw [if_neg Bool.false_ne_true, Option.any_some]
      cases ic.writeFlag == 0 && (content k).dataLen != 0 with
      | true | false => simp [dataAccess, InsideBuffer, RightWay, hheader]

theorem inLoop_mmcCompleteCmd (e : IoctlEvent) (he : e ∈ (mmcCompleteCmd u content k ()).1) : InLoop e := by
  unfold mmcCompleteCmd at he
  cases hcmd : u.cmds k with
  | none =>
    rw [hcmd] at he
    cases he
  | some ic =>
    rw [hcmd] at he
    dsimp only at he
    split at he
    · rw [List.mem_pair] at he
      rcases he with rfl | rfl
      · exact ⟨nofun, nofun⟩
      · exact ⟨nofun, nofun⟩
    rw [List.mem_append, List.mem_pair, List.mem_cons] at he
    rcases he with (rfl | rfl) | rfl | he
    · exact ⟨nofun, nofun⟩
    · exact ⟨nofun, nofun⟩
    · exact ⟨nofun, nofun⟩
    · rw [mem_dataAccess he]
      exact ⟨nofun, nofun⟩

theorem mmcCompleteCmd_none (hcmd : u.cmds k = none) : mmcCompleteCmd u content k () = ([], .error (-eFAULT)) := by
  unfold mmcCompleteCmd
  rw [hcmd]

theorem statusOut_mem_mmcCompleteCmd (hcmd : u.cmds k ≠ none) : .statusOut k ∈ (mmcCompleteCmd u content k ()).1 := by
  unfold mmcCompleteCmd
  cases hic : u.cmds k with
  | none => exact absurd hic hcmd
  | some ic =>
    dsimp only
    split
    · simp
    · simp

/-- **The completing half.** -/
theorem completeSpec_mmc (allocOk multi : Bool) (user user' : MmcView) (content : ℕ → ComboCmd) :
    CompleteSpec (.mmc allocOk multi user user' content) := by
  have hfailed : ∀ status, status ≠ 0 →
      (VblkIoctl.complete status (.mmc allocOk multi user user' content)).1 = [.free] := by
    intro status hstatus
    simp [VblkIoctl.complete, vblkCompleteMmcMultiIoc, hstatus]
  cases hcount : mmcNumCmd multi user' with
  | error err =>
    have hcomplete : (VblkIoctl.complete 0 (.mmc allocOk multi user user' content)).1 = [] ++ [.free] := by
      simp [VblkIoctl.complete, vblkCompleteMmcMultiIoc, hcount]
    refine CompleteSpec.of_buffer hfailed hcomplete nofun ⟨fun _ => ?_, nofun⟩ (fun _ => rfl) (fun hnot => ?_)
    · intro n hn
      rw [hcount] at hn
      cases hn
    · refine absurd ?_ hnot
      intro n hn
      rw [hcount] at hn
      cases hn
  | ok n =>
    have hn := mmcNumCmd_le hcount
    have hcomplete : (VblkIoctl.complete 0 (.mmc allocOk multi user user' content)).1 =
        (tracedTurns (mmcCompleteCmd user' content) n 0 ()).1 ++ [.free] := by
      simp [VblkIoctl.complete, vblkCompleteMmcMultiIoc, hcount]
    refine CompleteSpec.of_buffer hfailed hcomplete ?_ ?_ ?_ ?_
    · rw [forall_mem_tracedTurns]
      intro k _ _ _ e he
      exact inLoop_mmcCompleteCmd e he
    · rw [forall_mem_tracedTurns]
      constructor
      · intro h n' hcount' k hk hpasses
        rw [hcount] at hcount'
        cases hcount'
        refine (forall_mem_mmcCompleteCmd (takesData (.mmc allocOk multi user user' content)) _ hn hk).mp fun e he => ?_
        exact h k hk () (stateBefore_mmcCompleteCmd.mpr hpasses) e (by rwa [Nat.zero_add])
      · intro h k hk t hstate e he
        rw [Nat.zero_add] at he
        exact (forall_mem_mmcCompleteCmd _ _ hn hk).mpr (h n hcount k hk (stateBefore_mmcCompleteCmd.mp hstate)) e he
    · intro hquiet
      cases n with
      | zero => rfl
      | succ n =>
        have hcmd := (hquiet (n + 1) hcount).resolve_left (Nat.succ_ne_zero n)
        unfold tracedTurns
        rw [mmcCompleteCmd_none hcmd]
    · intro hloud
      have hsome : n ≠ 0 ∧ user'.cmds 0 ≠ none := by
        by_contra hnot
        refine hloud ?_
        intro n' hcount'
        rw [hcount] at hcount'
        cases hcount'
        by_contra hboth
        exact hnot (not_or.mp hboth)
      exact ⟨.statusOut 0, mem_tracedTurns.mpr ⟨0, Nat.pos_of_ne_zero hsome.1, (), rfl,
        statusOut_mem_mmcCompleteCmd hsome.2⟩, rfl⟩

end NvidiaOot.Analysis
