import NvidiaOot.Program.PvaTask

/-!
# What writing the parameters reads and writes

The writer of a task's parameters looks up symbols by their ids, copies to a payload buffer from both ends, and fills the
entries of a list.  These are the accesses of its steps, turn by turn.
-/

namespace NvidiaOot.Program

open Library

/-- A symbol is looked up, bytes of the payload buffer are written, an entry of the list is written. -/
inductive ParamAccess
  | symbol (id : ℕ)
  | payload (start len : ℕ)
  | param (index : ℕ)
deriving DecidableEq, Repr

variable (env : TaskEnv) (image : PvaElfImage)

/-- The accesses of a turn for a symbol of the task.  What is at the head is copied before its size is checked.
SOURCE: drivers/video/tegra/host/pva/pva_queue.c:597-683 -/
def symbolAccesses (i : ℕ) (s : ParamState) : List ParamAccess :=
  let param := s.task.symbols i
  let symbol := image.sym param.symbolId.toNat
  let pointerAccesses (structSize : U32) : List ParamAccess :=
    .payload s.cursor.headPtr structSize.toNat ::
      match s.task.pinMem env (pinIdAt s.task param.offset.toNat) with
      | .error _ => []
      | .ok _ => [.param s.cursor.headIndex.toNat]
  .symbol param.symbolId.toNat ::
    if param.symbolSize ≠ symbol.size then []
    else if param.config = nvpvaSymbolPointer then pointerAccesses pointerSymbolSize
    else if param.config = nvpvaSymbolPointerEx then pointerAccesses pointerSymbolExSize
    else if symbol.size < pvaDmaVmemCopyThreshold then
      [.payload s.cursor.headPtr symbol.size.toNat, .param s.cursor.headIndex.toNat]
    else if s.cursor.tailPtr < s.cursor.headPtr + symbol.size.toNat then []
    else [.payload (s.cursor.tailPtr - symbol.size.toNat) symbol.size.toNat, .param s.cursor.tailIndex.toNat]

/-- SOURCE: drivers/video/tegra/host/pva/pva_queue.c:685-698 -/
def sysSymbolAccesses (i : ℕ) (s : ParamState) : List ParamAccess :=
  .symbol i :: if (image.sym i).isSys then [.param s.task.numSymbols.toNat] else []

/-- The accesses of `writeParameters`. -/
def parameterAccesses (s : TaskState) : List ParamAccess :=
  if image.numSymbols < s.task.numSymbols.toNat then []
  else if s.task.symbolPayloadSize = 0 then []
  else
    let start : ParamState := { toTaskState := s, cursor := .init s.task }
    let symbols := List.range s.task.numSymbols.toNat
    let written := forEach (writeSymbol env image) symbols start
    forEachTrace (symbolAccesses env image) (writeSymbol env image) symbols start ++
      if written.1 = 0 then
        forEachTrace (sysSymbolAccesses image) (fun i p => (0, writeSysSymbol image i p)) (List.range image.numSymbols)
          written.2
      else []

/-- The image that a task's symbols are those of; there is none for a task without executables. -/
def parameterImage (s : TaskState) : Option PvaElfImage :=
  if s.task.exeId1 = noopExeId ∧ s.task.exeId2 = noopExeId then none
  else getElfImage s.elf (if s.task.exeId1 ≠ noopExeId then s.task.exeId1 else s.task.exeId2)

/-- The accesses of `pvaTaskWriteVpuParameter`. -/
def vpuParameterAccesses (s : TaskState) : List ParamAccess :=
  if s.task.numSymbols = 0 then []
  else
    match parameterImage s with
    | none => []
    | some image => parameterAccesses env image s

end NvidiaOot.Program
