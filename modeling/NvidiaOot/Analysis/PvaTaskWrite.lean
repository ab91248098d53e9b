import NvidiaOot.Program.PvaTask

/-!
# What writing a task leaves alone

The pins, the fence actions and the DMA information of a task do not touch its executables
and symbols; the parameters do not touch its fence actions.  Both leave the images alone
until the references are taken at the end.
-/

namespace NvidiaOot.Analysis

open Library Program

section

variable {env : TaskEnv} {syncptId : U32} {s s' : TaskState}

/-- The task without its pins and the values of its fences. -/
def outsideFences (t : SubmitTask) : SubmitTask :=
  { t with
    numPinned := 0
    specialAccess := 0
    pvaFenceActions := fun _ _ => default
    fenceNum := 0
    syncptThresh := 0
    semNum := 0
    semThresh := 0 }

/-- The task without its pins and what the parameters change. -/
def outsideParams (t : SubmitTask) : SubmitTask :=
  { t with numPinned := 0, specialAccess := 0, pinnedApp := false, numSymbols := 0 }

/-- The task is the same, but for its pins and fences. -/
def SameTask (t t' : SubmitTask) : Prop := outsideFences t' = outsideFences t

section

variable {t t' t'' : SubmitTask}

theorem SameTask.refl (t : SubmitTask) : SameTask t t := rfl

theorem SameTask.trans (h : SameTask t t') (h' : SameTask t' t'') : SameTask t t'' := Eq.trans h' h

theorem SameTask.field {α : Type} (f : SubmitTask → α) (hf : ∀ t, f (outsideFences t) = f t)
    (h : SameTask t t') : f t' = f t := by
  rw [← hf t', ← hf t, h]

section

variable (h : SameTask t t')

include h

theorem SameTask.pinnedApp : t'.pinnedApp = t.pinnedApp :=
  h.field SubmitTask.pinnedApp fun _ => rfl

theorem SameTask.exeId1 : t'.exeId1 = t.exeId1 :=
  h.field SubmitTask.exeId1 fun _ => rfl

theorem SameTask.exeId2 : t'.exeId2 = t.exeId2 :=
  h.field SubmitTask.exeId2 fun _ => rfl

theorem SameTask.numSymbols : t'.numSymbols = t.numSymbols :=
  h.field SubmitTask.numSymbols fun _ => rfl

end

end

/-- The images are the same, and so is the task as far as they go. -/
def SameApps (s s' : TaskState) : Prop := s'.elf = s.elf ∧ SameTask s.task s'.task

instance : IsPreorder TaskState SameApps where
  refl _ := ⟨rfl, .refl _⟩
  trans _ _ _ h h' := ⟨h'.1.trans h.1, h.2.trans h'.2⟩

theorem pinMem_task {t t' : SubmitTask} {id : U32} {mem : PinnedMem}
    (h : t.pinMem env id = .ok (mem, t')) : t' = { t with numPinned := t.numPinned + 1 } := by
  unfold SubmitTask.pinMem at h
  split at h
  · cases h
  split at h
  · cases h
  dsimp only at h
  split at h
  · cases h
  · obtain ⟨-, rfl⟩ := Prod.mk.inj (Except.ok.inj h)
    rfl

theorem sameTask_fenceValue {t t' : SubmitTask} {type i : ℕ} {addr : U64} {value : U32}
    (h : fenceValue env syncptId type i t = .ok (addr, value, t')) : SameTask t t' := by
  unfold fenceValue at h
  dsimp only at h
  split at h
  · unfold syncptFence at h
    dsimp only at h
    split at h
    · cases h
    · obtain ⟨-, h⟩ := Prod.mk.inj (Except.ok.inj h)
      obtain ⟨-, rfl⟩ := Prod.mk.inj h
      exact rfl
  split at h
  · unfold semFence at h
    dsimp only at h
    split at h
    · cases h
    rename_i mem t1 hpin
    obtain ⟨-, h⟩ := Prod.mk.inj (Except.ok.inj h)
    obtain ⟨-, rfl⟩ := Prod.mk.inj h
    rw [pinMem_task hpin]
    rfl
  · cases h

theorem sameTask_timestampAddr {t t' : SubmitTask} {action : FenceAction} {addr : U64}
    (h : timestampAddr env action t = .ok (addr, t')) : SameTask t t' := by
  unfold timestampAddr at h
  split at h
  · obtain ⟨-, rfl⟩ := Prod.mk.inj (Except.ok.inj h)
    exact .refl t
  split at h
  · cases h
  rename_i mem t1 hpin
  obtain ⟨-, rfl⟩ := Prod.mk.inj (Except.ok.inj h)
  rw [pinMem_task hpin]
  rfl

theorem keeps_processFenceAction (type i : ℕ) : Keeps SameApps (processFenceAction env syncptId type i) := by
  intro s
  unfold processFenceAction
  dsimp only
  split
  · exact ⟨rfl, .refl _⟩
  rename_i hvalue
  have hsame := sameTask_fenceValue hvalue
  split
  · exact ⟨rfl, hsame⟩
  · rename_i htime
    exact ⟨rfl, hsame.trans (sameTask_timestampAddr htime)⟩

/-- **The steps before the parameters leave the images alone.** -/
theorem keeps_writeActions (env : TaskEnv) (syncptId : U32) : Keeps SameApps (writeActions env syncptId) := by
  have haction (step : SubmitTask → TaskActions → ℤ × U32 × TaskActions) :
      Keeps SameApps (actionStep step) := fun s => ⟨rfl, rfl⟩
  have hfences : Keeps SameApps (pvaTaskProcessFenceActions env syncptId) := by
    refine keeps_forEach (fun type => ?_) _
    intro s
    exact keeps_forEach (keeps_processFenceAction type) _ s
  have hdma : Keeps SameApps (dmaInfoStep env) := fun s => ⟨rfl, rfl⟩
  have hmisr : Keeps SameApps fun s => (env.writeDmaMisrInfo s.task, s) := fun s => ⟨rfl, .refl _⟩
  exact keeps_andThen (haction _) <| keeps_andThen (haction _) <| keeps_andThen (haction _) <|
    keeps_andThen hfences <| keeps_andThen hdma hmisr

/-- The same images, and the same references to them. -/
structure SameExe (s s' : TaskState) : Prop where
  elf : s'.elf = s.elf
  pinnedApp : s'.task.pinnedApp = s.task.pinnedApp
  exeId1 : s'.task.exeId1 = s.task.exeId1
  exeId2 : s'.task.exeId2 = s.task.exeId2

theorem SameExe.refl (s : TaskState) : SameExe s s := ⟨rfl, rfl, rfl, rfl⟩

theorem SameExe.trans {s'' : TaskState} (h : SameExe s s') (h' : SameExe s' s'') : SameExe s s'' :=
  ⟨h'.elf.trans h.elf, h'.pinnedApp.trans h.pinnedApp, h'.exeId1.trans h.exeId1, h'.exeId2.trans h.exeId2⟩

/-- The same images and task, but for the task's pins and number of symbols. -/
structure SameBut (s s' : TaskState) : Prop where
  elf : s'.elf = s.elf
  pinnedApp : s'.task.pinnedApp = s.task.pinnedApp
  outside : outsideParams s'.task = outsideParams s.task

theorem SameBut.field {α : Type} (f : SubmitTask → α) (hf : ∀ t, f (outsideParams t) = f t)
    (h : SameBut s s') : f s'.task = f s.task := by
  rw [← hf s'.task, ← hf s.task, h.outside]

theorem SameBut.exe (h : SameBut s s') : SameExe s s' :=
  ⟨h.elf, h.pinnedApp, h.field SubmitTask.exeId1 fun _ => rfl, h.field SubmitTask.exeId2 fun _ => rfl⟩

theorem SameBut.refl (s : TaskState) : SameBut s s := ⟨rfl, rfl, rfl⟩

theorem SameBut.trans {s'' : TaskState} (h : SameBut s s') (h' : SameBut s' s'') : SameBut s s'' :=
  ⟨h'.elf.trans h.elf, h'.pinnedApp.trans h.pinnedApp, h'.outside.trans h.outside⟩

/-- The writer of the symbols works on a state with a cursor. -/
def SameParams (p p' : ParamState) : Prop := SameBut p.toTaskState p'.toTaskState

instance : IsPreorder ParamState SameParams where
  refl p := .refl p.toTaskState
  trans _ _ _ h h' := h.trans h'

theorem keeps_placeHead (addr size : U32) : Keeps SameParams (placeHead addr size) := by
  intro p
  unfold placeHead
  dsimp only
  split <;> exact ⟨rfl, rfl, rfl⟩

theorem keeps_placeTail (offset addr size : U32) : Keeps SameParams (placeTail offset addr size) := by
  intro p
  unfold placeTail
  split <;> exact ⟨rfl, rfl, rfl⟩

theorem keeps_placePointer (offset addr size : U32) : Keeps SameParams (placePointer env offset addr size) := by
  intro p
  unfold placePointer
  dsimp only
  split
  · exact ⟨rfl, rfl, rfl⟩
  rename_i mem task hpin
  have hpinned : SameParams p { p.copyPayload p.cursor.headPtr offset.toNat size.toNat with
      task := task } := by
    rw [pinMem_task hpin]
    exact ⟨rfl, rfl, rfl⟩
  exact hpinned.trans (keeps_placeHead addr size _)

theorem keeps_writeSymbol (image : PvaElfImage) (i : ℕ) : Keeps SameParams (writeSymbol env image i) := by
  intro p
  unfold writeSymbol
  dsimp only
  split
  · exact .refl _
  split
  · exact keeps_placePointer _ _ _ p
  split
  · exact keeps_placePointer _ _ _ p
  · split
    · exact keeps_placeHead _ _ (p.copyPayload _ _ _)
    · exact keeps_placeTail _ _ _ p

theorem sameParams_sysSymbols (image : PvaElfImage) (l : List ℕ) (p : ParamState) :
    SameParams p (l.foldl (fun p i => writeSysSymbol image i p) p) := by
  induction l generalizing p with
  | nil => exact .refl _
  | cons i l ih =>
    have hstep : SameParams p (writeSysSymbol image i p) := by
      unfold writeSysSymbol
      split <;> exact ⟨rfl, rfl, rfl⟩
    exact hstep.trans (ih _)

theorem sameParams_writeParamInfo (p : ParamState) : SameParams p (writeParamInfo p) :=
  ⟨rfl, rfl, rfl⟩

theorem neg_eINVAL_ne_zero : -eINVAL ≠ 0 := by decide

/-- The writer of the parameters fails with the images as they were, or it takes the
references. -/
theorem writeParameters_cases (env : TaskEnv) (image : PvaElfImage) (s : TaskState) :
    (SameBut s (writeParameters env image s).2 ∧ (writeParameters env image s).1 ≠ 0) ∨
    ∃ s1, SameBut s s1 ∧ writeParameters env image s = acquireApps s1 := by
  unfold writeParameters
  split
  · exact Or.inl ⟨.refl s, neg_eINVAL_ne_zero⟩
  split
  · exact Or.inl ⟨.refl s, neg_eINVAL_ne_zero⟩
  dsimp only
  have hkeeps : SameParams { toTaskState := s, cursor := .init s.task }
      (forEach (writeSymbol env image) (List.range s.task.numSymbols.toNat)
        { toTaskState := s, cursor := .init s.task }).2 :=
    keeps_forEach (keeps_writeSymbol image) _ _
  generalize forEach (writeSymbol env image) (List.range s.task.numSymbols.toNat)
    { toTaskState := s, cursor := .init s.task } = r at hkeeps
  obtain ⟨err, p⟩ := r
  have hsymbols : SameBut s p.toTaskState := hkeeps
  split
  · rename_i p' hrun
    cases hrun
    have hsys := sameParams_sysSymbols image (List.range image.numSymbols) p
    generalize (List.range image.numSymbols).foldl (fun p i => writeSysSymbol image i p) p = q
      at hsys
    have hinfo : SameBut s (writeParamInfo q).toTaskState :=
      (hsymbols.trans hsys).trans (sameParams_writeParamInfo q)
    exact Or.inr ⟨_, hinfo, rfl⟩
  · rename_i err' p' hne hrun
    cases hrun
    exact Or.inl ⟨hsymbols, hne⟩

theorem acquireApp_task (e : U16) (s : TaskState) : (acquireApp e s).2.task = s.task := by
  unfold acquireApp
  split
  · rfl
  · split <;> rfl

theorem outsideParams_acquireApps (s : TaskState) :
    outsideParams (acquireApps s).2.task = outsideParams s.task := by
  change outsideParams { (acquireApp _ (acquireApp _ s).2).2.task with pinnedApp := true } = _
  rw [acquireApp_task, acquireApp_task]
  rfl

theorem outsideParams_finishWrite (env : TaskEnv) (s : TaskState) :
    outsideParams (finishWrite env s).2.task = outsideParams s.task := by
  unfold finishWrite andThen setFlags
  dsimp only
  split <;> split <;> rfl

theorem outsideParams_vpuParameter (h : pvaTaskWriteVpuParameter env s = (0, s')) :
    outsideParams s'.task = outsideParams s.task := by
  unfold pvaTaskWriteVpuParameter at h
  dsimp only at h
  split at h
  · rw [← (Prod.mk.inj h).2]
  split at h
  · rw [← (Prod.mk.inj h).2]
  split at h
  · exact absurd (congrArg Prod.fst h) neg_eINVAL_ne_zero
  rename_i image _
  rcases writeParameters_cases env image s with ⟨-, hne⟩ | ⟨s1, hsame, heq⟩
  · exact absurd (congrArg Prod.fst h) hne
  · have hs' : (acquireApps s1).2 = s' := by rw [← heq, h]
    rw [← hs', outsideParams_acquireApps, hsame.outside]

/-- **A task that was written** has been changed by its fence actions, and else only by its pins
and parameters. -/
theorem pvaTaskWrite_fences (h : pvaTaskWrite env syncptId s = (0, s')) :
    ∃ s1 s2, outsideParams s1.task = outsideParams s.task ∧ pvaTaskProcessFenceActions env syncptId s1 = (0, s2) ∧
      outsideParams s'.task = outsideParams s2.task := by
  unfold pvaTaskWrite at h
  split at h
  · exact absurd (congrArg Prod.fst h) neg_eINVAL_ne_zero
  obtain ⟨s5, hactions, h⟩ := andThen_eq_ok.mp h
  obtain ⟨s6, hparams, hfinish⟩ := andThen_eq_ok.mp h
  obtain ⟨a1, h1, hactions⟩ := andThen_eq_ok.mp hactions
  obtain ⟨a2, h2, hactions⟩ := andThen_eq_ok.mp hactions
  obtain ⟨a3, h3, hactions⟩ := andThen_eq_ok.mp hactions
  obtain ⟨a4, h4, hactions⟩ := andThen_eq_ok.mp hactions
  obtain ⟨a5, h5, h6⟩ := andThen_eq_ok.mp hactions
  have haction (step : SubmitTask → TaskActions → ℤ × U32 × TaskActions) (b b' : TaskState)
      (hb : actionStep step b = (0, b')) : outsideParams b'.task = outsideParams b.task := by
    rw [← (Prod.mk.inj hb).2]
    rfl
  have hdma : outsideParams a5.task = outsideParams a4.task := by
    rw [← (Prod.mk.inj h5).2]
    rfl
  have hmisr : outsideParams s5.task = outsideParams a5.task := by
    rw [(Prod.mk.inj h6).2]
  have hend : outsideParams s'.task = outsideParams s6.task := by
    rw [← outsideParams_finishWrite env s6, hfinish]
  refine ⟨a3, a4, ?_, h4, ?_⟩
  · rw [haction _ _ _ h3, haction _ _ _ h2, haction _ _ _ h1]
  · rw [hend, outsideParams_vpuParameter hparams, hmisr, hdma]

end

def quietEnv : TaskEnv where
  processPrefences t a := (0, t.numPinned, a)
  processInputStatus t a := (0, t.numPinned, a)
  processOutputStatus t a := (0, t.numPinned, a)
  writeDmaInfo t := (0, t.numPinned, t.specialAccess)
  writeDmaMisrInfo _ := 0
  submitPinId _ _ := (-eINVAL, default)
  syncptAddress _ := 0x1000
  vpuDebugEnabled := false

end NvidiaOot.Analysis
