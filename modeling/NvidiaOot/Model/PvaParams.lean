import Mathlib.Algebra.BigOperators.Group.Finset.Basic
import Mathlib.Data.Nat.Count
import NvidiaOot.Program.PvaParams
import NvidiaOot.Program.PvaVpuSegments

/-!
# A task's parameters in their buffer

What the symbols take of the payload buffer and of the list, from the sizes of the symbols alone.  Small parameters and
pointers are at the head, in order; large ones at the tail, the last first.  `ParamsPacked` is what the writer is to
leave behind, `ParamsInside` that it goes nowhere else, and `ParamsFit` the condition for both.
-/

namespace NvidiaOot.Model

open Program

/-- An image that has the symbols of a loaded file. -/
def LoadedSymbols (image : PvaElfImage) : Prop :=
  ∃ elf hwGen symbols syms, populateSymtab elf hwGen symbols = .ok syms ∧ image.numSymbols = syms.length ∧
    ∀ i, ∀ h : i < syms.length, image.sym i = syms.get ⟨i, h⟩

/-- The symbol is one of the image, the bytes are in the payload buffer, and the entry is in the list. -/
def ParamAccess.Inside (image : PvaElfImage) (task : SubmitTask) : ParamAccess → Prop
  | .symbol id => id < image.numSymbols
  | .payload start len => start + len ≤ task.symbolPayloadSize.toNat
  | .param index => index < nvpvaTaskMaxSymbols

section

variable (image : PvaElfImage) (task : SubmitTask) (i : ℕ)

/-- The symbol of the image that symbol `i` of the task names. -/
def paramSymbol : PvaElfSymbol := image.sym (task.symbols i).symbolId.toNat

abbrev IsPointer : Prop :=
  (task.symbols i).config = nvpvaSymbolPointer ∨ (task.symbols i).config = nvpvaSymbolPointerEx

def paramSize : U32 :=
  if (task.symbols i).config = nvpvaSymbolPointer then pointerSymbolSize
  else if (task.symbols i).config = nvpvaSymbolPointerEx then pointerSymbolExSize
  else (paramSymbol image task i).size

abbrev AtHead : Prop := IsPointer task i ∨ (paramSymbol image task i).size < pvaDmaVmemCopyThreshold

/-- The bytes at the head and at the tail that the symbols before `i` take. -/
def headBytes : ℕ := ∑ j ∈ Finset.range i, if AtHead image task j then (paramSize image task j).toNat else 0
def tailBytes : ℕ := ∑ j ∈ Finset.range i, if AtHead image task j then 0 else (paramSize image task j).toNat

def paramSlot : ℕ :=
  if AtHead image task i then Nat.count (AtHead image task) i
  else task.numSymbols.toNat - 1 - Nat.count (fun j => ¬ AtHead image task j) i

def paramOffset : ℕ :=
  if AtHead image task i then headBytes image task i
  else task.symbolPayloadSize.toNat - tailBytes image task i - (paramSize image task i).toNat

def paramEntry : VpuParameter :=
  ⟨task.auxDmaAddr + BitVec.ofNat 64 (paramOffset image task i), (paramSymbol image task i).addr, paramSize image task i⟩

/-- The system symbols before `i`. -/
def sysCount : ℕ := Nat.count (fun j => (image.sym j).isSys = true) i

end

section

variable (env : TaskEnv) (image : PvaElfImage) (task : SubmitTask)

/-- The memory of a pointer can be pinned, with that of the pointers before it. -/
def PointerPinned (i : ℕ) : Prop :=
  ∃ r, ({ task with numPinned := task.numPinned + BitVec.ofNat 32 (Nat.count (IsPointer task) i) } : SubmitTask).pinMem
    env (pinIdAt task (task.symbols i).offset.toNat) = .ok r

/-- The symbol has the size of the image's, and its parameter has room between those before it. -/
structure SymbolAccepted (i : ℕ) : Prop where
  size : (task.symbols i).symbolSize = (paramSymbol image task i).size
  pinned : IsPointer task i → PointerPinned env task i
  room : headBytes image task i + (paramSize image task i).toNat + tailBytes image task i ≤ task.symbolPayloadSize.toNat

/-- Symbol `i` names a symbol of the image, and when it has its size and is for the head, its parameter ends in the
buffer. -/
structure SymbolFits (i : ℕ) : Prop where
  known : (task.symbols i).symbolId.toNat < image.numSymbols
  inside : (task.symbols i).symbolSize = (paramSymbol image task i).size → AtHead image task i →
    headBytes image task i + (paramSize image task i).toNat ≤ task.symbolPayloadSize.toNat

/-- Each symbol fits when those before it are accepted, there is an entry for each system symbol, and a task without
symbols is for an image without system symbols. -/
structure ParamsFit : Prop where
  symbols : task.numSymbols.toNat ≤ image.numSymbols → task.symbolPayloadSize ≠ 0 → ∀ i < task.numSymbols.toNat,
    (∀ j < i, SymbolAccepted env image task j) → SymbolFits image task i
  system : task.numSymbols.toNat ≤ image.numSymbols → task.symbolPayloadSize ≠ 0 →
    (∀ i < task.numSymbols.toNat, SymbolAccepted env image task i) →
      task.numSymbols.toNat + sysCount image image.numSymbols ≤ nvpvaTaskMaxSymbols
  empty : task.numSymbols = 0 → sysCount image image.numSymbols = 0

end

section

variable (image : PvaElfImage) (task : SubmitTask) (hw : HwTask)

/-- The list has one entry for each symbol of the task, those at the head first and in order, and then one for each
system symbol; the areas at the head and at the tail are disjoint. -/
structure ParamsPacked : Prop where
  areas : headBytes image task task.numSymbols.toNat + tailBytes image task task.numSymbols.toNat ≤
    task.symbolPayloadSize.toNat
  slots : Set.BijOn (paramSlot image task) (Set.Iio task.numSymbols.toNat) (Set.Iio task.numSymbols.toNat)
  ordered : ∀ i < task.numSymbols.toNat, AtHead image task i → ∀ j < task.numSymbols.toNat,
    (¬ AtHead image task j ∨ i < j) → paramSlot image task i < paramSlot image task j
  entries : ∀ i < task.numSymbols.toNat, hw.paramList (paramSlot image task i) = paramEntry image task i
  system : ∀ i < image.numSymbols, (image.sym i).isSys = true →
    hw.paramList (task.numSymbols.toNat + sysCount image i) =
      ⟨pvaSysInstanceDataV1Iova, (image.sym i).addr, (image.sym i).size⟩
  number : hw.numParameters.toNat = task.numSymbols.toNat + sysCount image image.numSymbols

/-- What the writer does stays inside, and when it succeeds the parameters are packed. -/
structure ParamsWritten (env : TaskEnv) (s : TaskState) : Prop where
  inside : ∀ a ∈ vpuParameterAccesses env s, ParamAccess.Inside image s.task a
  packed : (pvaTaskWriteVpuParameter env s).1 = 0 →
    ParamsPacked image s.task (pvaTaskWriteVpuParameter env s).2.hw

end

end NvidiaOot.Model
