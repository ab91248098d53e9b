import NvidiaOot.Program.PvaElfImages
import NvidiaOot.Library.ErrorCode

/-!
# Writing a PVA task

`pva_task_write` turns a task of the user into the task that the firmware reads: its
fence actions with the values they will write, and the parameters of its executable.  The
functions return an error code and leave behind what they wrote before the error.

`SubmitTask` and `HwTask` have the fields that these functions and the queue use.  The
prefences, the task status, the DMA information and the MISR settings are parameters of the
model: they pin buffers and write the task's actions or its DMA words, and may fail.  Not
modelled: the addresses of parts of the hardware task, the contents of the symbol payload,
and the standard output buffer.

Sources are in `drivers/video/tegra/host/pva/`.
-/

namespace NvidiaOot.Program

open Library

/-- `enum nvpva_fence_obj_type` -/
def nvpvaFenceObjSyncpt : U32 := 0
def nvpvaFenceObjSem : U32 := 1

/-- `enum nvpva_fence_action_type` -/
def nvpvaFencePre : ℕ := 1
def nvpvaFenceSotR5 : ℕ := 2
def nvpvaFenceSotVpu : ℕ := 3
def nvpvaFenceEotVpu : ℕ := 4
def nvpvaFenceEotR5 : ℕ := 5
def nvpvaFencePost : ℕ := 6
def nvpvaMaxFenceTypes : ℕ := 7

/-- `NVPVA_TASK_MAX_FENCEACTIONS` -/
def nvpvaTaskMaxFenceActions : ℕ := 4

/-- A fence; the object's type says whether the syncpoint or the semaphore counts. -/
structure SubmitFence where
  type : U32
  syncptId : U32
  syncptValue : U32
  semPinId : U32
  semOffset : U32
  semValue : U32
deriving Inhabited, DecidableEq, Repr

/-- A fence that the task signals.
SOURCE: include/uapi/linux/nvpva_ioctl.h:291-298 -/
structure FenceAction where
  type : U32
  fence : SubmitFence
  timestampPinId : U32
  timestampOffset : U32
deriving Inhabited, DecidableEq, Repr

/-- `enum nvpva_symbol_config` -/
def nvpvaSymbolPointer : U32 := 1
def nvpvaSymbolPointerEx : U32 := 2

/-- A symbol that the task sets. -/
structure SymbolParam where
  config : U32
  offset : U32
  symbolId : U16
  symbolSize : U32
deriving Inhabited, DecidableEq, Repr

/-- A task of the user; its executables have 16-bit ids, as in the ioctl.
SOURCE: pva_queue.h:112-196 -/
structure SubmitTask where
  dmaAddr : U64
  auxDmaAddr : U64
  poolIndex : ℕ
  pinnedApp : Bool
  exeId1 : U16
  exeId2 : U16
  l2AllocSize : U32
  flags : U32
  specialAccess : U8
  numSymbols : U8
  symbols : ℕ → SymbolParam
  symbolPayloadSize : U32
  symbolPayload : ℕ → U8
  numPinned : U32
  numUserFenceActions : ℕ
  userFenceActions : ℕ → FenceAction
  numPvaFenceActions : ℕ → U8
  pvaFenceActions : ℕ → ℕ → FenceAction
  syncptThresh : U32
  fenceNum : U32
  semThresh : U32
  semNum : U32
  localSyncCounter : U32
  id : U32
deriving Inhabited

/-- An action of the firmware: a code, an address, the value to write there and the
address of a timestamp. -/
structure TaskAction where
  action : U8
  p : U64
  v : U32
  t : U64
deriving Inhabited, DecidableEq, Repr

/-- The actions of a hardware task. -/
structure TaskActions where
  preactions : ℕ → TaskAction
  numPreactions : U8
  postactions : ℕ → TaskAction
  numPostactions : U8
  flags : U32
deriving Inhabited

/-- A parameter of the executable. -/
structure VpuParameter where
  paramBase : U64
  addr : U32
  size : U32
deriving Inhabited, DecidableEq, Repr

/-- The task that the firmware reads.
SOURCE: fw_include/pva-task.h, pva_queue.h:300-310 -/
structure HwTask where
  next : U64
  actions : TaskActions
  paramList : ℕ → VpuParameter
  smallVpuParamDataIova : U64
  smallVpuParameterDataSize : U32
  largeVpuParameterListStartIndex : U32
  vpuInstanceParameterListStartIndex : U32
  numParameters : U8
  binInfo : U64
  binInfo2 : U64
  queuedTime : U64
  taskId : ℕ
  statusInterface : U8
  batchId : U64
  timerRefCnt : ℕ
  timeout : U64
  l2sramRefCnt : ℕ
  l2sramSize : U32
deriving Inhabited

/-- What is written together: the task, its hardware task and the client's images. -/
structure TaskState where
  task : SubmitTask
  hw : HwTask
  elf : NvpvaElfContext

/-- Pinned memory. -/
structure PinnedMem where
  addr : U64
  size : U64
deriving Inhabited, DecidableEq, Repr

/-- The parts of the writer that are not modelled.  The first five and `submitPinId` return an
error code; all of them may pin buffers. -/
structure TaskEnv where
  processPrefences : SubmitTask → TaskActions → ℤ × U32 × TaskActions
  processInputStatus : SubmitTask → TaskActions → ℤ × U32 × TaskActions
  processOutputStatus : SubmitTask → TaskActions → ℤ × U32 × TaskActions
  writeDmaInfo : SubmitTask → ℤ × U32 × U8
  writeDmaMisrInfo : SubmitTask → ℤ
  submitPinId : U32 → U32 → ℤ × PinnedMem
  syncptAddress : U32 → U64
  vpuDebugEnabled : Bool

section

variable (env : TaskEnv)

/-- `ARRAY_SIZE(task->pinned_memory)` -/
def pinnedMemorySize : U32 := 256

/-- Pin a buffer for the task.
SOURCE: pva_queue.c:150-183 -/
def SubmitTask.pinMem (task : SubmitTask) (id : U32) : Except ℤ (PinnedMem × SubmitTask) :=
  if pinnedMemorySize ≤ task.numPinned then .error (-eNOMEM)
  else if id = 0 then .error (-eFAULT)
  else
    let (err, mem) := env.submitPinId task.numPinned id
    if err ≠ 0 then .error err else .ok (mem, { task with numPinned := task.numPinned + 1 })

/-- A step that is a parameter: it writes actions. -/
def actionStep (step : SubmitTask → TaskActions → ℤ × U32 × TaskActions) (s : TaskState) :
    ℤ × TaskState :=
  let (err, numPinned, actions) := step s.task s.hw.actions
  (err, { s with
    task := { s.task with numPinned := numPinned }
    hw := { s.hw with actions := actions } })

end

section

variable (env : TaskEnv)

/-- The firmware's code of a kind of fence action, the flag of its timestamp, and whether it
is done before the task. -/
structure FenceKind where
  before : Bool
  actionCode : U8
  tsFlag : U32

/-- The kinds by type.
SOURCE: pva_queue.c:308-344 -/
def fenceKind (type : ℕ) : FenceKind :=
  if type = nvpvaFenceSotR5 then ⟨true, 5, 1 <<< 19⟩
  else if type = nvpvaFenceSotVpu then ⟨true, 4, 1 <<< 20⟩
  else if type = nvpvaFenceEotR5 then ⟨false, 7, 1 <<< 22⟩
  else if type = nvpvaFenceEotVpu then ⟨false, 6, 1 <<< 21⟩
  else ⟨false, 8, 0⟩

/-- `pva_task_write_fence_action_op` and the increment of its counter -/
def TaskActions.add (actions : TaskActions) (before : Bool) (op : TaskAction) : TaskActions :=
  if before then
    { actions with
      preactions := Function.update actions.preactions actions.numPreactions.toNat op
      numPreactions := actions.numPreactions + 1 }
  else
    { actions with
      postactions := Function.update actions.postactions actions.numPostactions.toNat op
      numPostactions := actions.numPostactions + 1 }

/-- `task->pva_fence_actions[fence_type][i] = action` -/
def SubmitTask.setFenceAction (task : SubmitTask) (type i : ℕ) (action : FenceAction) : SubmitTask :=
  { task with
    pvaFenceActions := Function.update task.pvaFenceActions type
      (Function.update (task.pvaFenceActions type) i action) }

/-- The value of a syncpoint action: one more than the last one. -/
def syncptFence (syncptId : U32) (type i : ℕ) (task : SubmitTask) :
    Except ℤ (U64 × U32 × SubmitTask) :=
  let action := task.pvaFenceActions type i
  let addr := env.syncptAddress syncptId
  if addr = 0 then .error (-eFAULT)
  else
    let fence :=
      { action.fence with syncptId := syncptId, syncptValue := task.syncptThresh + 1 }
    .ok (addr, 1,
      { task.setFenceAction type i { action with fence := fence } with
        fenceNum := task.fenceNum + 1
        syncptThresh := task.syncptThresh + 1 })

/-- The value of a semaphore action, likewise. -/
def semFence (type i : ℕ) (task : SubmitTask) : Except ℤ (U64 × U32 × SubmitTask) :=
  let action := task.pvaFenceActions type i
  match task.pinMem env action.fence.semPinId with
  | .error e => .error e
  | .ok (mem, task) =>
    let fence := { action.fence with semValue := task.semThresh + 1 }
    .ok (mem.addr + action.fence.semOffset.setWidth 64, task.semThresh + 1,
      { task.setFenceAction type i { action with fence := fence } with
        semNum := task.semNum + 1
        semThresh := task.semThresh + 1 })

/-- By the object's type. -/
def fenceValue (syncptId : U32) (type i : ℕ) (task : SubmitTask) :
    Except ℤ (U64 × U32 × SubmitTask) :=
  let action := task.pvaFenceActions type i
  if action.fence.type = nvpvaFenceObjSyncpt then syncptFence env syncptId type i task
  else if action.fence.type = nvpvaFenceObjSem then semFence env type i task
  else .error (-eINVAL)

/-- The buffer of the action's timestamp, when it has one. -/
def timestampAddr (action : FenceAction) (task : SubmitTask) : Except ℤ (U64 × SubmitTask) :=
  if action.timestampPinId = 0 then .ok (0, task)
  else
    match task.pinMem env action.timestampPinId with
    | .error e => .error e
    | .ok (mem, task) => .ok (mem.addr + action.timestampOffset.setWidth 64, task)

/-- One fence action.  The values are assigned before the timestamp can fail. -/
def processFenceAction (syncptId : U32) (type i : ℕ) (s : TaskState) : ℤ × TaskState :=
  let kind := fenceKind type
  let action := s.task.pvaFenceActions type i
  match fenceValue env syncptId type i s.task with
  | .error e => (e, s)
  | .ok (addr, value, task) =>
    match timestampAddr env action task with
    | .error e => (e, { s with task := task })
    | .ok (tsAddr, task) =>
      let actions := s.hw.actions
      let actions :=
        if action.timestampPinId = 0 then actions
        else { actions with flags := actions.flags ||| kind.tsFlag }
      (0, { s with
        task := task
        hw := { s.hw with actions := actions.add kind.before ⟨kind.actionCode, addr, value, tsAddr⟩ } })

/-- The fence types in processing order. -/
def fenceTypes : List ℕ :=
  [nvpvaFenceSotR5, nvpvaFenceSotVpu, nvpvaFenceEotVpu, nvpvaFenceEotR5, nvpvaFencePost]

/-- The fence actions of one type, in index order. -/
def processFenceType (syncptId : U32) (type : ℕ) (s : TaskState) : ℤ × TaskState :=
  forEach (processFenceAction env syncptId type)
    (List.range (s.task.numPvaFenceActions type).toNat) s

/--
Write the fence actions of a task and assign their values.

SOURCE: pva_queue.c:294-429
-/
def pvaTaskProcessFenceActions (syncptId : U32) (s : TaskState) : ℤ × TaskState :=
  forEach (processFenceType env syncptId) fenceTypes s

end

section

variable (env : TaskEnv)

/-- `sizeof(struct nvpva_pointer_symbol)`, `sizeof(struct nvpva_pointer_symbol_ex)`,
`PVA_DMA_VMEM_COPY_THRESHOLD`, `PVA_SYS_INSTANCE_DATA_V1_IOVA` -/
def pointerSymbolSize : U32 := 16
def pointerSymbolExSize : U32 := 24
def pvaDmaVmemCopyThreshold : U32 := 256
def pvaSysInstanceDataV1Iova : U64 := 0xDA7A000100000001

/-- The writer's position: offsets in the task's payload buffer, the next entry of the
list from either end, and what it copied (to, from, length). -/
structure ParamCursor where
  headPtr : ℕ
  tailPtr : ℕ
  headIndex : U32
  tailIndex : U32
  headSize : U32
  headCount : U32
  tailCount : U32
  copies : List (ℕ × ℕ × ℕ)

/-- The state of the loop over the symbols. -/
structure ParamState extends TaskState where
  cursor : ParamCursor

/-- `hw_task_param_list[index] = …` -/
def ParamState.setParam (s : ParamState) (index : ℕ) (param : VpuParameter) : ParamState :=
  { s with hw := { s.hw with paramList := Function.update s.hw.paramList index param } }

/-- `memcpy` from the user's payload -/
def ParamState.copyPayload (s : ParamState) (dst src len : ℕ) : ParamState :=
  { s with cursor := { s.cursor with copies := (dst, src, len) :: s.cursor.copies } }

/-- The four bytes of the payload that hold a pin id. -/
def pinIdAt (task : SubmitTask) (offset : ℕ) : U32 :=
  (task.symbolPayload (offset + 3) ++ task.symbolPayload (offset + 2) ++
    task.symbolPayload (offset + 1) ++ task.symbolPayload offset)

/-- A parameter at the head of the buffer, already copied there. -/
def placeHead (addr size : U32) (s : ParamState) : ℤ × ParamState :=
  let index := s.cursor.headIndex.toNat
  let base := s.task.auxDmaAddr + BitVec.ofNat 64 s.cursor.headPtr
  let s := s.setParam index { s.hw.paramList index with paramBase := base }
  if s.cursor.tailPtr < s.cursor.headPtr + size.toNat then (-eINVAL, s)
  else
    let s := s.setParam index ⟨base, addr, size⟩
    (0, { s with cursor := { s.cursor with
      headPtr := s.cursor.headPtr + size.toNat
      headIndex := s.cursor.headIndex + 1
      headSize := s.cursor.headSize + size
      headCount := s.cursor.headCount + 1 } })

/-- A large parameter at the tail. -/
def placeTail (offset addr size : U32) (s : ParamState) : ℤ × ParamState :=
  if s.cursor.tailPtr < s.cursor.headPtr + size.toNat then (-eINVAL, s)
  else
    let tailPtr := s.cursor.tailPtr - size.toNat
    let base := s.task.auxDmaAddr + BitVec.ofNat 64 tailPtr
    let s := (s.copyPayload tailPtr offset.toNat size.toNat).setParam
      s.cursor.tailIndex.toNat ⟨base, addr, size⟩
    (0, { s with cursor := { s.cursor with
      tailPtr := tailPtr
      tailIndex := s.cursor.tailIndex - 1
      tailCount := s.cursor.tailCount + 1 } })

/-- A pointer: its memory is pinned. -/
def placePointer (offset addr structSize : U32) (s : ParamState) : ℤ × ParamState :=
  let s := s.copyPayload s.cursor.headPtr offset.toNat structSize.toNat
  match s.task.pinMem env (pinIdAt s.task offset.toNat) with
  | .error _ => (-eINVAL, s)
  | .ok (_, task) => placeHead addr structSize { s with task := task }

/-- The symbol `i` of the task. -/
def writeSymbol (image : PvaElfImage) (i : ℕ) (s : ParamState) : ℤ × ParamState :=
  let param := s.task.symbols i
  let symbol := image.sym param.symbolId.toNat
  if param.symbolSize ≠ symbol.size then (-eINVAL, s)
  else if param.config = nvpvaSymbolPointer then
    placePointer env param.offset symbol.addr pointerSymbolSize s
  else if param.config = nvpvaSymbolPointerEx then
    placePointer env param.offset symbol.addr pointerSymbolExSize s
  else if symbol.size < pvaDmaVmemCopyThreshold then
    placeHead symbol.addr symbol.size
      (s.copyPayload s.cursor.headPtr param.offset.toNat symbol.size.toNat)
  else placeTail param.offset symbol.addr symbol.size s

/-- The system symbols of the executable come after the task's. -/
def writeSysSymbol (image : PvaElfImage) (i : ℕ) (s : ParamState) : ParamState :=
  if (image.sym i).isSys then
    let s := s.setParam s.task.numSymbols.toNat
      ⟨pvaSysInstanceDataV1Iova, (image.sym i).addr, (image.sym i).size⟩
    { s with task := { s.task with numSymbols := s.task.numSymbols + 1 } }
  else s

/-- What the hardware task says about the parameters. -/
def writeParamInfo (s : ParamState) : ParamState :=
  { s with hw := { s.hw with
    smallVpuParamDataIova := if s.cursor.headSize ≠ 0 then s.task.auxDmaAddr else 0
    smallVpuParameterDataSize := s.cursor.headSize
    largeVpuParameterListStartIndex := s.cursor.headCount
    vpuInstanceParameterListStartIndex := s.cursor.headCount + s.cursor.tailCount
    numParameters := s.task.numSymbols } }

/-- A reference to the image of an executable, when there is one. -/
def acquireApp (exeId : U16) (s : TaskState) : ℤ × TaskState :=
  if exeId = noopExeId then (0, s)
  else
    match pvaTaskAcquireRefVpuApp s.elf exeId with
    | (.ok (), elf) => (0, { s with elf := elf })
    | (.error e, elf) => (e, { s with elf := elf })

/-- The references of both executables.  The second one's code, where it has an executable,
replaces the first one's. -/
def acquireApps (s : TaskState) : ℤ × TaskState :=
  let (err1, s) := acquireApp s.task.exeId1 s
  let (err2, s) := acquireApp s.task.exeId2 s
  (if s.task.exeId2 = noopExeId then err1 else err2,
    { s with task := { s.task with pinnedApp := true } })

/-- The references that a task gives back when it is freed.
SOURCE: pva_queue.c:960-967 -/
def releaseApps (task : SubmitTask) (d : NvpvaElfContext) : NvpvaElfContext :=
  if task.pinnedApp then
    (pvaTaskReleaseRefVpuApp (pvaTaskReleaseRefVpuApp d task.exeId1).2 task.exeId2).2
  else d

/-- Where the writer starts. -/
def ParamCursor.init (task : SubmitTask) : ParamCursor where
  headPtr := 0
  tailPtr := task.symbolPayloadSize.toNat
  headIndex := 0
  tailIndex := task.numSymbols.setWidth 32 - 1
  headSize := 0
  headCount := 0
  tailCount := 0
  copies := []

/-- The writer with the image it takes the symbols from. -/
def writeParameters (image : PvaElfImage) (s : TaskState) : ℤ × TaskState :=
  if image.numSymbols < s.task.numSymbols.toNat then (-eINVAL, s)
  else if s.task.symbolPayloadSize = 0 then (-eINVAL, s)
  else
    let start : ParamState := { toTaskState := s, cursor := .init s.task }
    match forEach (writeSymbol env image) (List.range s.task.numSymbols.toNat) start with
    | (0, p) =>
      acquireApps (writeParamInfo
        ((List.range image.numSymbols).foldl (fun p i => writeSysSymbol image i p) p)).toTaskState
    | (err, p) => (err, p.toTaskState)

/--
Write the parameters of the task's executable and take references to its images.  A task
without symbols or without executables has nothing to write.

SOURCE: pva_queue.c:542-743
-/
def pvaTaskWriteVpuParameter (s : TaskState) : ℤ × TaskState :=
  if s.task.numSymbols = 0 then (0, s)
  else if s.task.exeId1 = noopExeId ∧ s.task.exeId2 = noopExeId then (0, s)
  else
    let exeId := if s.task.exeId1 ≠ noopExeId then s.task.exeId1 else s.task.exeId2
    match getElfImage s.elf exeId with
    -- the caller has checked the ids, so there is an image
    | none => (-eINVAL, s)
    | some image => writeParameters env image s

end

section

variable (env : TaskEnv)

/-- A flag of the task for a flag of the user. -/
def passFlag (user mask flag : U32) : U32 := if user &&& mask ≠ 0 then flag else 0

/--
The flags of the task; without a VPU to run on it is refused.

SOURCE: pva_queue.c:745-779
-/
def setFlags (s : TaskState) : ℤ × TaskState :=
  let user := s.task.flags
  let flags := s.hw.actions.flags ||| passFlag user (1 <<< 2) (1 <<< 11) |||
    passFlag user (1 <<< 6) (1 <<< 23) ||| passFlag user 1 1 ||| passFlag user 2 2
  if user &&& 3 = 0 then
    (-eINVAL, { s with hw := { s.hw with actions := { s.hw.actions with flags := flags } } })
  else
    let flags := flags ||| (if env.vpuDebugEnabled then 1 <<< 2 else 0) |||
      (if s.task.specialAccess ≠ 0 then 1 <<< 15 else 0) ||| passFlag user (1 <<< 3) (1 <<< 3) |||
      passFlag user (1 <<< 4) (1 <<< 4) ||| passFlag user (1 <<< 5) (1 <<< 5)
    (0, { s with hw := { s.hw with actions := { s.hw.actions with flags := flags } } })

/-- The address of an image's information, 0 without one.
SOURCE: pva_vpu_exe.c:118-126 -/
def physGetBinInfo (d : NvpvaElfContext) (exeId : U16) : U64 :=
  match getElfImage d exeId with
  | some image => image.vpuBinBuffer.pa
  | none => 0

/-- The DMA information. -/
def dmaInfoStep (s : TaskState) : ℤ × TaskState :=
  let (err, numPinned, specialAccess) := env.writeDmaInfo s.task
  (err, { s with task := { s.task with numPinned := numPinned, specialAccess := specialAccess } })

/-- The link to the next task is cleared, the flags and images are noted. -/
def finishWrite (s : TaskState) : ℤ × TaskState :=
  andThen (setFlags env { s with hw := { s.hw with next := 0 } }) fun s =>
    (0, { s with hw := { s.hw with
      binInfo := physGetBinInfo s.elf s.task.exeId1
      binInfo2 := physGetBinInfo s.elf s.task.exeId2 } })

/-- An id is that of an image, or of no executable. -/
def exeAccepted (d : NvpvaElfContext) (exeId : U16) : Bool :=
  pvaVpuElfIsRegistered d exeId || exeId = noopExeId

/-- The steps of the writer before the parameters. -/
def writeActions (syncptId : U32) (s : TaskState) : ℤ × TaskState :=
  andThen (actionStep env.processPrefences s) fun s =>
  andThen (actionStep env.processInputStatus s) fun s =>
  andThen (actionStep env.processOutputStatus s) fun s =>
  andThen (pvaTaskProcessFenceActions env syncptId s) fun s =>
  andThen (dmaInfoStep env s) fun s => (env.writeDmaMisrInfo s.task, s)

/--
Write a task.

SOURCE: pva_queue.c:781-862
-/
def pvaTaskWrite (syncptId : U32) (s : TaskState) : ℤ × TaskState :=
  if !exeAccepted s.elf s.task.exeId1 || !exeAccepted s.elf s.task.exeId2 then (-eINVAL, s)
  else
    andThen (writeActions env syncptId s) fun s =>
    andThen (pvaTaskWriteVpuParameter env s) (finishWrite env)

end

end NvidiaOot.Program
