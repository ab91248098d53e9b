import NvidiaOot.Analysis.PvaDescriptorWords

/-!
# One call of the descriptor mapping

Mapping a descriptor changes only what address patching writes: `plan` is the rest of the
task.  The loop visits growing indices, so a descriptor that a call maps stays as it was
written, and the words of every mapped descriptor can be compared with the user's.
-/

namespace NvidiaOot.Analysis

open Library Program Model Function

section

/-- The part of a task that address patching leaves alone. -/
def plan (t : DmaTask) : DmaTask :=
  { t with
    numPinned := 0
    specialAccess := 0
    srcSurfBaseAddr := 0
    dstSurfBaseAddr := 0
    taskBuffInfo := fun _ => default }

variable {env : DmaEnv} {t t' : DmaTask} {desc : DmaDescriptor} {n : ℕ}

theorem plan_pinMem {id : U32} {b : Buffer} (h : pvaTaskPinMem env t id = .ok (b, t')) :
    plan t' = plan t := by
  obtain ⟨-, h⟩ := reject_bind_eq_ok.mp h
  obtain ⟨-, h⟩ := reject_bind_eq_ok.mp h
  obtain ⟨mem, -, h⟩ := bind_eq_ok.mp h
  obtain ⟨-, rfl⟩ := Prod.mk.inj (pure_eq_ok.mp h)
  rfl

theorem plan_l2Buffer {ptr : U32} {b : Buffer} (h : l2Buffer env t ptr = .ok (b, t')) :
    plan t' = plan t := by
  unfold l2Buffer at h
  split at h
  · exact plan_pinMem h
  · obtain ⟨-, rfl⟩ := Prod.mk.inj (Except.ok.inj h)
    rfl

theorem plan_srcBuffer {b : Buffer} (h : srcBuffer env t desc = .ok (b, t')) :
    plan t' = plan t := by
  unfold srcBuffer at h
  split at h
  · exact plan_l2Buffer h
  split at h
  · obtain ⟨-, h⟩ := reject_bind_eq_ok.mp h
    obtain ⟨b, -, h⟩ := bind_eq_ok.mp h
    obtain ⟨-, rfl⟩ := Prod.mk.inj (pure_eq_ok.mp h)
    rfl
  split at h
  · obtain ⟨-, h⟩ := reject_bind_eq_ok.mp h
    obtain ⟨b, -, h⟩ := bind_eq_ok.mp h
    obtain ⟨-, rfl⟩ := Prod.mk.inj (pure_eq_ok.mp h)
    rfl
  split at h
  · obtain ⟨⟨b, t1⟩, hpin, h⟩ := bind_eq_ok.mp h
    obtain ⟨-, rfl⟩ := Prod.mk.inj (pure_eq_ok.mp h)
    have hplan := plan_pinMem hpin
    exact hplan
  · split at h
    · obtain ⟨-, h⟩ := reject_bind_eq_ok.mp h
      obtain ⟨-, rfl⟩ := Prod.mk.inj (pure_eq_ok.mp h)
      rfl
    · split at h <;> cases h

theorem plan_dstBuffer {b : Buffer} (h : dstBuffer env t desc = .ok (b, t')) :
    plan t' = plan t := by
  unfold dstBuffer at h
  split at h
  · exact plan_l2Buffer h
  split at h
  · obtain ⟨-, h⟩ := reject_bind_eq_ok.mp h
    obtain ⟨b, -, h⟩ := bind_eq_ok.mp h
    obtain ⟨-, rfl⟩ := Prod.mk.inj (pure_eq_ok.mp h)
    rfl
  split at h
  · obtain ⟨⟨b, t1⟩, hpin, h⟩ := bind_eq_ok.mp h
    obtain ⟨-, rfl⟩ := Prod.mk.inj (pure_eq_ok.mp h)
    have hplan := plan_pinMem hpin
    exact hplan
  split at h
  · obtain ⟨-, h⟩ := reject_bind_eq_ok.mp h
    obtain ⟨-, rfl⟩ := Prod.mk.inj (pure_eq_ok.mp h)
    rfl
  · split at h <;> cases h

theorem plan_srcAddrBase {hwgen : ℕ} {bh : U8} {base : U64}
    (h : srcAddrBase env hwgen t desc n bh = .ok (base, t')) : plan t' = plan t := by
  obtain ⟨⟨b, t1⟩, hbuffer, h⟩ := bind_eq_ok.mp h
  obtain ⟨-, -, h⟩ := bind_eq_ok.mp h
  obtain ⟨-, rfl⟩ := Prod.mk.inj (pure_eq_ok.mp h)
  have hplan := plan_srcBuffer hbuffer
  exact hplan

theorem plan_dstAddrBase {hwgen : ℕ} {misr : Bool} {bh : U8} {base : U64}
    (h : dstAddrBase env hwgen t desc n misr bh = .ok (base, t')) : plan t' = plan t := by
  unfold dstAddrBase at h
  split at h
  · obtain ⟨-, h⟩ := reject_bind_eq_ok.mp h
    obtain ⟨-, rfl⟩ := Prod.mk.inj (pure_eq_ok.mp h)
    rfl
  obtain ⟨⟨b, t1⟩, hbuffer, h⟩ := bind_eq_ok.mp h
  obtain ⟨info, -, h⟩ := bind_eq_ok.mp h
  obtain ⟨-, rfl⟩ := Prod.mk.inj (pure_eq_ok.mp h)
  have hplan := plan_dstBuffer hbuffer
  exact hplan

theorem plan_patch {misr : Bool} {bh : U8} {dtd dtd' : PvaDtd}
    (h : patchDmaDescAddress env t desc dtd n misr bh = .ok (t', dtd')) : plan t' = plan t := by
  obtain ⟨⟨base, t1⟩, hsrc, h⟩ := bind_eq_ok.mp h
  dsimp only at h
  split at h
  · obtain ⟨rfl, -⟩ := Prod.mk.inj (pure_eq_ok.mp h)
    exact plan_srcAddrBase hsrc
  · obtain ⟨⟨base, t2⟩, hdst, h⟩ := bind_eq_ok.mp h
    obtain ⟨rfl, -⟩ := Prod.mk.inj (pure_eq_ok.mp h)
    exact (plan_dstAddrBase hdst).trans (plan_srcAddrBase hsrc)

theorem plan_addSurface : plan (addSurface t desc).1 = plan t := by
  unfold addSurface
  split
  · rfl
  · split <;> rfl

theorem plan_mapDescriptor {dtd dtd' : PvaDtd} {bl : Bool}
    (h : mapDescriptor env t dtd n = .ok (t', dtd', bl)) : plan t' = plan t := by
  obtain ⟨t1, patched, frda, hpatch, -, rfl, rfl⟩ := mapDescriptor_ok h
  exact plan_addSurface.trans (plan_patch hpatch)

theorem plan_congr (h : plan t = plan t') :
    t.descProcessed = t'.descProcessed ∧ t.numDmaDescProcessed = t'.numDmaDescProcessed ∧
    t.descBlockHeightLog2 = t'.descBlockHeightLog2 ∧
    t.numDmaDescriptors = t'.numDmaDescriptors := by
  have hprocessed := congrArg DmaTask.descProcessed h
  have hcount := congrArg DmaTask.numDmaDescProcessed h
  have hheights := congrArg DmaTask.descBlockHeightLog2 h
  have hnum := congrArg DmaTask.numDmaDescriptors h
  exact ⟨hprocessed, hcount, hheights, hnum⟩

end

section

variable {env : DmaEnv}

/-- What the user submitted: the plan without the marks of the walk. -/
def submitted (t : DmaTask) : DmaTask :=
  { plan t with
    descHwseqFrm := fun _ => false
    descHwseqT26x := fun _ => false
    descProcessed := fun _ => false
    numDmaDescProcessed := 0
    descBlockHeightLog2 := fun _ => 0 }

theorem submitted_of_plan {t t' : DmaTask} (h : plan t' = plan t) : submitted t' = submitted t := by
  unfold submitted
  rw [h]

/-- Tasks that the user submitted alike agree in the fields that the mapping only reads. -/
theorem submitted_congr {t t' : DmaTask} (h : submitted t = submitted t') :
    t.version = t'.version ∧ t.dmaDescriptors = t'.dmaDescriptors ∧
    t.numDmaDescriptors = t'.numDmaDescriptors ∧ t.numDmaChannels = t'.numDmaChannels ∧
    t.dmaChannels = t'.dmaChannels ∧ ∀ n, isMisr t n = isMisr t' n := by
  have hversion := congrArg DmaTask.version h
  have hdescs := congrArg DmaTask.dmaDescriptors h
  have hnum := congrArg DmaTask.numDmaDescriptors h
  have hchannels := congrArg DmaTask.dmaChannels h
  have hnumCh := congrArg DmaTask.numDmaChannels h
  have henable := congrArg DmaTask.misrEnable h
  have hmask := congrArg DmaTask.misrDescriptorMask h
  refine ⟨hversion, hdescs, hnum, hnumCh, hchannels, fun n => ?_⟩
  change t.misrEnable = t'.misrEnable at henable
  change t.misrDescriptorMask = t'.misrDescriptorMask at hmask
  rw [isMisr, isMisr, henable, hmask]

theorem submitted_markProcessed (w : DmaWalk) (d : ℕ) :
    submitted (w.markProcessed d).task = submitted w.task := rfl

theorem liftErr_eq_ok {α : Type} {x : Except ℤ α} {a : α} : liftErr x = .ok a ↔ x = .ok a := by
  cases x with
  | ok b | error e => simp [liftErr]

/-- A descriptor that is mapped is one of the task's, and its words replace the old ones. -/
theorem mapOne_ok {w w' : DmaWalk} {d : ℕ} (h : mapOne env w d = .ok w') :
    d < w.task.numDmaDescriptors.toNat ∧ ∃ t dtd bl,
      mapDescriptor env w.task (w.dmaDesc d) d = .ok (t, dtd, bl) ∧
      w' = { w with
        task := t
        dmaDesc := update w.dmaDesc d dtd
        did := (w.task.dmaDescriptors d).linkDescId
        blXfersInUse := w.blXfersInUse || bl
        mapped := (d, w.task.descBlockHeightLog2 d) :: w.mapped } := by
  obtain ⟨hindex, h⟩ := reject_bind_eq_ok.mp h
  obtain ⟨⟨t, dtd, bl⟩, hmap, h⟩ := bind_eq_ok.mp h
  exact ⟨not_le.mp hindex, t, dtd, bl, liftErr_eq_ok.mp hmap, (pure_eq_ok.mp h).symm⟩

/-- The words of descriptor `d` in `w'` were written by mapping it, for a task that the user
submitted like `w`'s. -/
def Programmed (env : DmaEnv) (w w' : DmaWalk) (d : ℕ) : Prop :=
  ∃ t dtd t' bl, submitted t = submitted w.task ∧
    mapDescriptor env t dtd d = .ok (t', w'.dmaDesc d, bl)

/-- The loop from index `d` on leaves the descriptors before `d`, and programs those that it
adds to the list. -/
theorem descLoop_programs {numDescs fuel i d : ℕ} {w w' : DmaWalk}
    (h : descLoop env numDescs fuel i d w = .ok w') :
    submitted w'.task = submitted w.task ∧ (∀ k < d, w'.dmaDesc k = w.dmaDesc k) ∧
    ∃ new, w'.mapped = new ++ w.mapped ∧ ∀ e ∈ new, d ≤ e.1 ∧ Programmed env w w' e.1 := by
  induction fuel generalizing i d w with
  | zero =>
    cases h
    exact ⟨rfl, fun _ _ => rfl, [], rfl, nofun⟩
  | succ fuel ih =>
    unfold descLoop at h
    split at h
    case isFalse =>
      cases h
      exact ⟨rfl, fun _ _ => rfl, [], rfl, nofun⟩
    case isTrue =>
      split at h
      case isTrue =>
        obtain ⟨hsub, hkeep, new, hnew, hprog⟩ := ih h
        refine ⟨hsub, fun k hk => hkeep k (hk.trans d.lt_succ_self), new, hnew, fun e he => ?_⟩
        exact ⟨(Nat.le_succ d).trans (hprog e he).1, (hprog e he).2⟩
      case isFalse =>
        split at h
        case isTrue hreserved =>
          obtain ⟨hsub, hkeep, new, hnew, hprog⟩ := ih h
          have hle : d ≤ nvpvaReservedDescriptorsStartIdx + nvpvaNumReservedDescriptors := by
            rw [hreserved]
            exact Nat.le_add_right _ _
          refine ⟨hsub, fun k hk => hkeep k (hk.trans_le hle), new, hnew, fun e he => ?_⟩
          exact ⟨hle.trans (hprog e he).1, (hprog e he).2⟩
        case isFalse =>
          obtain ⟨w1, hone, hrest⟩ := bind_eq_ok.mp h
          obtain ⟨-, t, dtd, bl, hmap, rfl⟩ := mapOne_ok hone
          obtain ⟨hsub, hkeep, new, hnew, hprog⟩ := ih hrest
          have hplan := (submitted_of_plan (plan_mapDescriptor hmap)).trans
            (submitted_markProcessed w d)
          refine ⟨hsub.trans hplan, fun k hk => ?_, new ++ [(d, w.task.descBlockHeightLog2 d)], ?_, ?_⟩
          · rw [hkeep k (hk.trans d.lt_succ_self)]
            exact update_of_ne hk.ne _ _
          · rw [hnew, List.append_assoc]
            rfl
          · intro e he
            rcases List.mem_append.mp he with hin | hhead
            · obtain ⟨hle, t1, dtd1, t2, bl1, hsub1, hmap1⟩ := hprog e hin
              exact ⟨(Nat.le_succ d).trans hle, t1, dtd1, t2, bl1, hsub1.trans hplan, hmap1⟩
            obtain rfl := List.mem_singleton.mp hhead
            have hword : w'.dmaDesc d = dtd := by
              rw [hkeep d d.lt_succ_self]
              exact update_self _ _ _
            refine ⟨le_rfl, (w.markProcessed d).task, w.dmaDesc d, t, bl, submitted_markProcessed w d, ?_⟩
            rw [hword]
            exact hmap

/--
**What is programmed reads as what was validated exactly when it fits.**  Each descriptor
that a call of the mapping accepts was mapped for a task as the user submitted it; its
words give back the user's values, at the addresses that its pointers name, if and only if
these are in the ranges of their fields.

SOURCE: drivers/video/tegra/host/pva/pva_dma.c:815-1021
-/
theorem desc_mapping_reads_back_iff {numDescs : ℕ} {w w' : DmaWalk}
    (h : nvpvaTaskDmaDescMapping env numDescs w = .ok w') :
    ∃ new, w'.mapped = new ++ w.mapped ∧ ∀ e ∈ new, ∃ t dtd t' bl src dst,
      submitted t = submitted w.task ∧
      mapDescriptor env t dtd e.1 = .ok (t', w'.dmaDesc e.1, bl) ∧
      namedAddresses env t e.1 = .ok (src, dst) ∧
      (readFields (w'.dmaDesc e.1) dst.isSome =
          userFields w.task.version (w.task.dmaDescriptors e.1)
            (surfaceValue t' (w.task.dmaDescriptors e.1)) (isMisr w.task e.1) src dst ↔
        Fits w.task.version (w.task.dmaDescriptors e.1) (isMisr w.task e.1) src dst) := by
  obtain ⟨-, -, new, hnew, hprog⟩ := descLoop_programs h
  refine ⟨new, hnew, fun e he => ?_⟩
  obtain ⟨-, t, dtd, t', bl, hsub, hmap⟩ := hprog e he
  obtain ⟨hversion, hdescs, -, -, -, hmisr⟩ := submitted_congr hsub
  obtain ⟨src, dst, hnamed, hiff⟩ := mapDescriptor_reads_back_iff w.task.version hversion hmap
  rw [hdescs, hmisr e.1] at hiff
  exact ⟨t, dtd, t', bl, src, dst, hsub, hmap, hnamed, hiff⟩

end

/-- Every handle names a buffer of 32 MiB, every symbol 64 KiB of vector memory. -/
def roomyEnv : DmaEnv where
  submitPinId _ _ := .ok ⟨0x10000000, 0x2000000⟩
  getSymOffset _ _ := .ok (0x4000, 0x10000)

/-- A task of the second generation with one descriptor, about to be mapped. -/
def singleWalk (desc : DmaDescriptor) : DmaWalk where
  task := { (default : DmaTask) with
    version := pvaHwGen2
    numDmaDescriptors := 1
    numDmaChannels := 1
    dmaDescriptors := fun _ => desc }
  dmaDesc _ := default
  channels _ := default
  dmaTriggers _ := 0
  verifyBounds _ := false
  did := 0
  blXfersInUse := false
  mapped := []

/-- A line of 64 bytes from memory, read four times at 64 bytes distance, into the vector
memory. -/
def copyDescriptor : DmaDescriptor :=
  { (default : DmaDescriptor) with
    srcPtr := 1
    dst2Ptr := nvpvaInvalidSymbolId
    tx := 64
    ty := 1
    srcAdv1 := 64
    srcRpt1 := 3
    srcTransferMode := xferMc
    dstTransferMode := xferVmem }

theorem copy_reads_back : ∃ w',
    nvpvaTaskDmaDescMapping roomyEnv 1 (singleWalk copyDescriptor) = .ok w' ∧
    ∃ new, w'.mapped = new ++ [] ∧ ∀ e ∈ new, ∃ t dtd t' bl src dst,
      submitted t = submitted (singleWalk copyDescriptor).task ∧
      mapDescriptor roomyEnv t dtd e.1 = .ok (t', w'.dmaDesc e.1, bl) ∧
      namedAddresses roomyEnv t e.1 = .ok (src, dst) ∧
      (readFields (w'.dmaDesc e.1) dst.isSome =
          userFields pvaHwGen2 copyDescriptor (surfaceValue t' copyDescriptor)
            (isMisr (singleWalk copyDescriptor).task e.1) src dst ↔
        Fits pvaHwGen2 copyDescriptor (isMisr (singleWalk copyDescriptor).task e.1) src dst) := by
  have hok : (nvpvaTaskDmaDescMapping roomyEnv 1 (singleWalk copyDescriptor)).isOk = true := by
    decide
  cases hrun : nvpvaTaskDmaDescMapping roomyEnv 1 (singleWalk copyDescriptor) with
  | error e =>
    rw [hrun] at hok
    cases hok
  | ok w' => exact ⟨w', rfl, desc_mapping_reads_back_iff hrun⟩

def farDescriptor : DmaDescriptor := { copyDescriptor with srcAdv1 := 0x1000000, srcRpt1 := 1 }

/-- The check sees a second line 16 MiB further on, the hardware gets an advance of 0. -/
theorem far_advance_is_cut :
    (nvpvaTaskDmaDescMapping roomyEnv 1 (singleWalk farDescriptor)).toOption.map
        (fun w' => (w'.mapped, readRepeat (w'.dmaDesc 0).srcpt1Cntl)) = some ([(0, 0)], (1, 0)) ∧
    (farDescriptor.srcRpt1.toNat, farDescriptor.srcAdv1.toInt) = (1, 16777216) := by
  decide

end NvidiaOot.Analysis
