import NvidiaOot.Analysis.VblkIoctlSpec

/-!
# A SCSI command in an ioctl

The layout of the buffer is checked for wrap-around sum by sum, so the command and the data that the preparing half
copies in are inside it (`sgLayout_inside`).  The completing half takes the offsets of the sense data and of the data
from the buffer, and without memory for a header it leaves the buffer allocated.
-/

namespace NvidiaOot.Analysis

open Program Model Library

variable {user user' : SgView} {content : VblkSgIoHdr} {hp : SgIoHdr} {hardblkSize : U32}

/-! ## The preparing half -/

/-- **The layout**: the header with the command, and the data, are inside the buffer. -/
theorem sgLayout_inside {sbpOffset dataOffset ioctlLen : U32}
    (h : sgLayout hardblkSize hp = some (sbpOffset, dataOffset, ioctlLen)) :
    vblkSgHeaderLen.toNat + hp.cmdLen.toNat ≤ ioctlLen.toNat ∧
      dataOffset.toNat + hp.dxferLen.toNat ≤ ioctlLen.toNat := by
  unfold sgLayout at h
  dsimp only at h
  generalize (if hp.mxSbLen = 0 then ufsRequestSensDataLen else hp.mxSbLen.setWidth 32) = maxSbLen at h
  generalize alignU32 hp.dxferLen hardblkSize = dataSize at h
  generalize alignU32 (vblkSgHeaderLen + hp.cmdLen.setWidth 32 + maxSbLen) hardblkSize = offset at h
  have hcmd : (vblkSgHeaderLen + hp.cmdLen.setWidth 32 : U32).toNat = vblkSgHeaderLen.toNat + hp.cmdLen.toNat := by
    exact Nat.mod_eq_of_lt (show 31 + hp.cmdLen.toNat < 2 ^ 32 by omega)
  rw [← hcmd]
  generalize (vblkSgHeaderLen + hp.cmdLen.setWidth 32 : U32) = sbp at h
  split at h
  · cases h
  rename_i hchecks
  cases h
  simp only [not_or, BitVec.not_lt] at hchecks
  obtain ⟨-, hsense, halign, hdata, hsum⟩ := hchecks
  have hlen : (dataOffset + dataSize).toNat = dataOffset.toNat + dataSize.toNat := by
    rw [BitVec.le_def, BitVec.toNat_add] at hsum
    rw [BitVec.toNat_add]
    omega
  rw [BitVec.le_def] at hsense halign hdata
  omega

theorem scsiDataDirection_out {dir : ℤ} {direction : U32} (h : scsiDataDirection dir = some direction) :
    (direction == 1 || direction == 0) = decide (dir = -2 ∨ dir = -4) := by
  unfold scsiDataDirection at h
  split at h
  case h_5 => cases h
  all_goals cases h
  all_goals decide

theorem mem_sgFill {takes : ℕ → Bool} (gives : ℕ → Bool) {sbpOffset dataOffset ioctlLen : U32} {e : IoctlEvent}
    (hlayout : sgLayout hardblkSize hp = some (sbpOffset, dataOffset, ioctlLen))
    (htakes : takes 0 = decide (hp.dxferDirection = -2 ∨ hp.dxferDirection = -4))
    (he : e ∈ (sgFill user hp dataOffset ioctlLen).1) : PrepEvent takes gives e := by
  obtain ⟨hcmd, hdata⟩ := sgLayout_inside hlayout
  have hheader : 0 + vblkSgHeaderLen.toNat ≤ ioctlLen.toNat := by omega
  have hfour : 0 + 4 ≤ ioctlLen.toNat := le_trans (by decide) hheader
  unfold sgFill at he
  split at he
  · rw [List.mem_singleton] at he
    subst he
    exact prepEvent_access hcmd
  cases hdir : scsiDataDirection hp.dxferDirection with
  | none =>
    rw [hdir, List.mem_singleton] at he
    subst he
    exact prepEvent_access hcmd
  | some direction =>
    have hcopied := (scsiDataDirection_out hdir).trans htakes.symm
    rw [hdir] at he
    dsimp only at he
    generalize (direction == 1 || direction == 0) = copied at hcopied he
    have hcopies : ∀ e ∈ [.access vblkSgHeaderLen.toNat hp.cmdLen.toNat ioctlLen.toNat] ++
        .access 0 4 ioctlLen.toNat :: .prepared 0 copied ::
          dataAccess copied dataOffset hp.dxferLen ioctlLen.toNat, PrepEvent takes gives e := by
      rw [List.forall_mem_append, List.forall_mem_singleton, List.forall_mem_cons, List.forall_mem_cons]
      refine ⟨prepEvent_access hcmd, prepEvent_access hfour, prepEvent_prepared hcopied, ?_⟩
      intro e he
      rw [mem_dataAccess he]
      exact prepEvent_access hdata
    split at he
    · exact hcopies e he
    rw [List.mem_append, List.mem_singleton] at he
    rcases he with he | rfl
    · exact hcopies e he
    · exact prepEvent_access hheader

theorem sgFill_eq_zero {dataOffset ioctlLen : U32} : (sgFill user hp dataOffset ioctlLen).2 = 0 ↔
      user.cmdFault = false ∧ (scsiDataDirection hp.dxferDirection).isSome ∧
        ¬ ((hp.dxferDirection = -2 ∨ hp.dxferDirection = -4) ∧ user.dataFault = true) := by
  unfold sgFill
  cases user.cmdFault with
  | true => simp [eFAULT]
  | false =>
    cases hdir : scsiDataDirection hp.dxferDirection with
    | none => simp [eBADMSG]
    | some direction =>
      dsimp only
      rw [scsiDataDirection_out hdir]
      by_cases hfault : (hp.dxferDirection = -2 ∨ hp.dxferDirection = -4) ∧ user.dataFault = true
      · simp [hfault, eFAULT]
      · simp [hfault]

/-- **The preparing half.** -/
theorem prepSpec_sg (hpAllocOk allocOk hpAllocOk' : Bool) (hardblkSize : U32) (user user' : SgView)
    (content : VblkSgIoHdr) : PrepSpec (.sg hpAllocOk allocOk hpAllocOk' hardblkSize user user' content) := by
  cases hpAllocOk with
  | false => exact PrepSpec.of_nil rfl (show -eNOMEM ≠ 0 by decide) trivial (fun h => Bool.noConfusion h.1)
  | true =>
    cases hhdr : user.hdr with
    | none =>
      have hprep : VblkIoctl.prep (.sg true allocOk hpAllocOk' hardblkSize user user' content) = ([], -eFAULT) := by
        simp [VblkIoctl.prep, vblkPrepSgIo, hhdr]
      refine PrepSpec.of_nil (by rw [hprep]) (by rw [hprep]; decide) trivial ?_
      rintro ⟨-, -, hp, hhdr', -⟩
      rw [hhdr] at hhdr'
      cases hhdr'
    | some hp =>
      by_cases hcommand : hp.cmdpNull ∨ hp.cmdLen.toNat < 6 ∨ vblkSgMaxCmdLen < hp.cmdLen.toNat
      · have hprep : VblkIoctl.prep (.sg true allocOk hpAllocOk' hardblkSize user user' content) =
            ([], -eMSGSIZE) := by
          simp [VblkIoctl.prep, vblkPrepSgIo, hhdr, hcommand]
        refine PrepSpec.of_nil (by rw [hprep]) (by rw [hprep]; decide) trivial ?_
        rintro ⟨-, -, hp', hhdr', hnull, hlow, hhigh, -⟩
        rw [hhdr] at hhdr'
        cases hhdr'
        rcases hcommand with h | h | h
        · rw [hnull] at h
          cases h
        · omega
        · omega
      cases hlayout : sgLayout hardblkSize hp with
      | none =>
        have hprep : VblkIoctl.prep (.sg true allocOk hpAllocOk' hardblkSize user user' content) =
            ([], -eMSGSIZE) := by
          simp [VblkIoctl.prep, vblkPrepSgIo, hhdr, hcommand, hlayout]
        refine PrepSpec.of_nil (by rw [hprep]) (by rw [hprep]; decide) trivial ?_
        rintro ⟨-, -, hp', hhdr', -, -, -, hsome, -⟩
        rw [hhdr] at hhdr'
        cases hhdr'
        rw [hlayout] at hsome
        cases hsome
      | some layout =>
        obtain ⟨sbpOffset, dataOffset, ioctlLen⟩ := layout
        cases allocOk with
        | false =>
          have hprep : VblkIoctl.prep (.sg true false hpAllocOk' hardblkSize user user' content) =
              ([], -eNOMEM) := by
            simp [VblkIoctl.prep, vblkPrepSgIo, hhdr, hcommand, hlayout]
          exact PrepSpec.of_nil (by rw [hprep]) (by rw [hprep]; decide) trivial (fun h => Bool.noConfusion h.2.1)
        | true =>
          have hprep : VblkIoctl.prep (.sg true true hpAllocOk' hardblkSize user user' content) =
              (.alloc :: ((sgFill user hp dataOffset ioctlLen).1 ++
                freeOnError (sgFill user hp dataOffset ioctlLen).2), (sgFill user hp dataOffset ioctlLen).2) := by
            simp [VblkIoctl.prep, vblkPrepSgIo, hhdr, hcommand, hlayout]
          have htakes : takesData (.sg true true hpAllocOk' hardblkSize user user' content) 0 =
              decide (hp.dxferDirection = -2 ∨ hp.dxferDirection = -4) := by
            change user.hdr.any _ = _
            rw [hhdr, Option.any_some]
          have hevents (e : IoctlEvent) (he : e ∈ (sgFill user hp dataOffset ioctlLen).1) :=
            mem_sgFill (givesData (.sg true true hpAllocOk' hardblkSize user user' content)) hlayout htakes he
          refine PrepSpec.of_buffer hprep (fun e he => (hevents e he).1) (fun e he => (hevents e he).2.1)
            ⟨fun _ => trivial, fun _ e he => (hevents e he).2.2⟩ ?_
          rw [sgFill_eq_zero]
          simp only [not_or, Bool.not_eq_true, Nat.not_lt] at hcommand
          obtain ⟨hnull, hlow, hhigh⟩ := hcommand
          constructor
          · rintro ⟨hcmd, hdir, hdata⟩
            exact ⟨rfl, rfl, hp, hhdr, hnull, hlow, hhigh, by rw [hlayout]; rfl, hcmd, hdir, hdata⟩
          · rintro ⟨-, -, hp', hhdr', -, -, -, -, hcmd, hdir, hdata⟩
            rw [hhdr] at hhdr'
            cases hhdr'
            exact ⟨hcmd, hdir, hdata⟩

/-! ## The completing half -/

theorem header_le_sgIoctlLen {hpAllocOk allocOk hpAllocOk' : Bool}
    (h : Accepted (.sg hpAllocOk allocOk hpAllocOk' hardblkSize user user' content)) :
    vblkSgHeaderLen.toNat ≤ sgIoctlLen hardblkSize user := by
  obtain ⟨-, -, hp, hhdr, -, -, -, hsome, -⟩ := h
  obtain ⟨⟨sbpOffset, dataOffset, ioctlLen⟩, hlayout⟩ := Option.isSome_iff_exists.mp hsome
  obtain ⟨hcmd, -⟩ := sgLayout_inside hlayout
  unfold sgIoctlLen
  rw [hhdr, Option.bind_some, hlayout]
  exact le_trans (Nat.le_add_right _ _) hcmd

theorem sgCopyOut_eq (u : SgView) (hp : SgIoHdr) (content : VblkSgIoHdr) (size : ℕ) :
    (sgCopyOut u hp content size).1 = .access 0 vblkSgHeaderLen.toNat size :: ((if sgSense hp content then
            [.access content.sbpArgOffset.toNat content.sbLenWr.toNat size, .statusOut 0] else []) ++
          if sgSense hp content && u.sbFault then [] else .completed 0 (sgGoesOut content) ::
              (dataAccess (sgGoesOut content) content.xferArgOffset content.dxferLen size ++
                if sgGoesOut content && u.dataFault then [] else [.statusOut 0])) := by
  have hsense : ((if hp.mxSbLen ≠ 0 then content.sbLenWr else 0) != 0 && !hp.sbpNull) = sgSense hp content := by
    unfold sgSense
    by_cases hmax : hp.mxSbLen = 0
    · rw [hmax]
      rfl
    · rw [if_pos hmax, bne_iff_ne.mpr hmax, Bool.true_and]
  have hlen (h : sgSense hp content = true) : (if hp.mxSbLen ≠ 0 then content.sbLenWr else 0) = content.sbLenWr := by
    unfold sgSense at h
    rw [Bool.and_eq_true, Bool.and_eq_true, bne_iff_ne] at h
    exact if_pos h.1.1
  have hgoes : (content.dataDirection == 2 || content.dataDirection == 0) = sgGoesOut content := rfl
  unfold sgCopyOut
  dsimp only
  rw [hsense, hgoes]
  cases hs : sgSense hp content with
  | true =>
    rw [hlen hs]
    cases u.sbFault with
    | true => rfl
    | false => cases sgGoesOut content <;> cases u.dataFault <;> simp
  | false => cases sgGoesOut content <;> cases u.dataFault <;> simp

theorem inLoop_sgCopyOut {size : ℕ} (e : IoctlEvent) (he : e ∈ (sgCopyOut user' hp content size).1) : InLoop e := by
  rw [sgCopyOut_eq] at he
  simp only [List.mem_cons, List.mem_append] at he
  rcases he with rfl | he | he
  · exact ⟨nofun, nofun⟩
  · split at he
    · rw [List.mem_pair] at he
      rcases he with rfl | rfl
      · exact ⟨nofun, nofun⟩
      · exact ⟨nofun, nofun⟩
    · cases he
  · split at he
    · cases he
    · rw [List.mem_cons, List.mem_append] at he
      rcases he with rfl | he | he
      · exact ⟨nofun, nofun⟩
      · rw [mem_dataAccess he]
        exact ⟨nofun, nofun⟩
      · split at he
        · cases he
        · rw [List.mem_singleton] at he
          subst he
          exact ⟨nofun, nofun⟩

/-- **What is copied out** is right iff the direction is, and the places are inside the buffer. -/
theorem forall_mem_sgCopyOut (takes gives : ℕ → Bool) {size : ℕ} (hheader : vblkSgHeaderLen.toNat ≤ size) :
    (∀ e ∈ (sgCopyOut user' hp content size).1, InsideBuffer e ∧ RightWay takes gives e) ↔
      (sgSense hp content = true → content.sbpArgOffset.toNat + content.sbLenWr.toNat ≤ size) ∧
        (¬ (sgSense hp content = true ∧ user'.sbFault = true) → sgGoesOut content = gives 0 ∧
            (sgGoesOut content = true → content.xferArgOffset.toNat + content.dxferLen.toNat ≤ size)) := by
  have hinside : 0 + vblkSgHeaderLen.toNat ≤ size := by omega
  rw [sgCopyOut_eq, List.forall_mem_cons, List.forall_mem_append, and_iff_right ⟨hinside, trivial⟩]
  apply and_congr
  · cases sgSense hp content with
    | true => simp [InsideBuffer, RightWay]
    | false => simp
  · rw [← Bool.and_eq_true]
    cases sgSense hp content && user'.sbFault with
    | true => simp
    | false =>
      cases sgGoesOut content with
      | true =>
        cases user'.dataFault with
        | true | false => simp [dataAccess, InsideBuffer, RightWay]
      | false => simp [dataAccess, InsideBuffer, RightWay]

theorem goesOut_mem_sgCopyOut (size : ℕ) : ∃ e ∈ (sgCopyOut user' hp content size).1, goesOut e = true := by
  rw [sgCopyOut_eq]
  cases sgSense hp content with
  | true => exact ⟨.statusOut 0, by simp, rfl⟩
  | false =>
    cases sgGoesOut content with
    | true => exact ⟨.completed 0 true, by simp, rfl⟩
    | false => exact ⟨.statusOut 0, by simp, rfl⟩

/-- **The completing half.** -/
theorem completeSpec_sg (hpAllocOk allocOk hpAllocOk' : Bool) (hardblkSize : U32) (user user' : SgView)
    (content : VblkSgIoHdr) (h : Accepted (.sg hpAllocOk allocOk hpAllocOk' hardblkSize user user' content)) :
    CompleteSpec (.sg hpAllocOk allocOk hpAllocOk' hardblkSize user user' content) := by
  have hheader := header_le_sgIoctlLen h
  have hfailed : ∀ status, status ≠ 0 →
      (VblkIoctl.complete status (.sg hpAllocOk allocOk hpAllocOk' hardblkSize user user' content)).1 = [.free] := by
    intro status hstatus
    simp [VblkIoctl.complete, vblkCompleteSgIo, hstatus]
  cases hpAllocOk' with
  | false =>
    -- the buffer stays allocated
    have hcomplete : (VblkIoctl.complete 0 (.sg hpAllocOk allocOk false hardblkSize user user' content)).1 = [] := rfl
    refine ⟨hfailed, by rw [hcomplete]; rfl, ⟨?_, nofun⟩, ⟨?_, nofun⟩⟩
    · rintro ⟨-, hfree⟩
      cases hfree
    · rintro ⟨-, -, hfree⟩
      cases hfree
  | true =>
    cases hhdr : user'.hdr with
    | none =>
      have hcomplete : (VblkIoctl.complete 0 (.sg hpAllocOk allocOk true hardblkSize user user' content)).1 =
          [] ++ [.free] := by
        simp [VblkIoctl.complete, vblkCompleteSgIo, hhdr]
      refine CompleteSpec.of_buffer hfailed hcomplete nofun ⟨fun _ => ⟨rfl, fun hp hhdr' => ?_⟩, nofun⟩
        (fun _ => rfl) (fun hnot => absurd ⟨rfl, hhdr⟩ hnot)
      rw [hhdr] at hhdr'
      cases hhdr'
    | some hp =>
      have hcomplete : (VblkIoctl.complete 0 (.sg hpAllocOk allocOk true hardblkSize user user' content)).1 =
          (sgCopyOut user' hp content (sgIoctlLen hardblkSize user)).1 ++ [.free] := by
        simp [VblkIoctl.complete, vblkCompleteSgIo, hhdr]
      refine CompleteSpec.of_buffer hfailed hcomplete inLoop_sgCopyOut ?_ ?_ (fun _ => goesOut_mem_sgCopyOut _)
      · rw [forall_mem_sgCopyOut _ _ hheader]
        constructor
        · intro hfits
          refine ⟨rfl, fun hp' hhdr' => ?_⟩
          rw [hhdr] at hhdr'
          cases hhdr'
          exact hfits
        · rintro ⟨-, hfits⟩
          exact hfits hp hhdr
      · rintro ⟨-, hnone⟩
        rw [hhdr] at hnone
        cases hnone

end NvidiaOot.Analysis
