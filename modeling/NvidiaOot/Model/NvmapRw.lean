import NvidiaOot.Program.NvmapRw

/-!
# What a strided copy promises
-/

namespace NvidiaOot.Model

open Program

variable (env : RwEnv) (a : RwArgs)

/-- The copy `i` of a loop, at the offset and the address of its element. -/
def rwAccess (i : ℕ) : RwAccess :=
  ⟨a.hOffs + BitVec.ofNat 64 i * a.hStride, a.sysAddr + BitVec.ofNat 64 i * a.sysStride, a.elemSize, env.left i⟩

/-- The access lies in the mapping of the handle. -/
def RwAccess.Inside (x : RwAccess) : Prop := x.hOffs.toNat + x.size.toNat ≤ env.size.toNat

/-- All elements are copied, in order and each of them whole: an access is one element, or several that are side by
side. -/
def CopiedExactly (accesses : List RwAccess) : Prop :=
  ∃ m, (m = 1 ∨ a.elemSize = a.hStride ∧ a.elemSize = a.sysStride) ∧ accesses.length * m = a.count.toNat ∧
    ∀ (t : ℕ) (x : RwAccess), accesses[t]? = some x → x.size.toNat = m * a.elemSize.toNat ∧ x.left = 0 ∧
      x.hOffs = a.hOffs + BitVec.ofNat 64 (t * m) * a.hStride ∧ x.sysAddr = a.sysAddr + BitVec.ofNat 64 (t * m) * a.sysStride

/-- What a call promises. -/
structure RwSound : Prop where
  inside : ∀ x ∈ (rwHandle env a).2, RwAccess.Inside env x
  exact : 0 ≤ (rwHandle env a).1 → CopiedExactly a (rwHandle env a).2

/-- Is the call let through to the loop? -/
def RwAccepted : Prop :=
  env.cpuAccess = true ∧ ¬ (a.elemSize = 0 ∨ a.count = 0) ∧ env.alloc = true ∧ ¬ rwRefused env a.merge ∧
    ¬ (env.mapOk = false ∨ env.viaTmp = true ∧ env.tmpOk = false)

/-- The check that the loop makes of the copy `i`. -/
def RwFits (i : ℕ) : Prop := ¬ env.size < (rwAccess env a i).hOffs + a.elemSize

/-- The copy `i` comes to the mapping, if the loop comes to it. -/
def RwMade (i : ℕ) : Prop := RwFits env a i ∧ (env.viaTmp = true → toInt32 (env.left i) = 0)

/-- The loop comes to the copy `i`. -/
def RwReached (i : ℕ) : Prop := ∀ j < i, RwFits env a j ∧ toInt32 (env.left j) = 0

/-- A call for which the checks are enough: the end of no element that is copied is beyond 64 bits, no copy that leaves
bytes behind looks like success, and elements that are copied as one have a size of 64 bits. -/
structure RwCareful : Prop where
  element : ∀ i < a.merge.count.toNat, RwReached env a.merge i → RwMade env a.merge i →
    (rwAccess env a.merge i).hOffs.toNat + a.merge.elemSize.toNat < 2 ^ 64
  short : ∀ i < a.merge.count.toNat, RwReached env a.merge i → RwFits env a.merge i → toInt32 (env.left i) ≤ 0
  whole : RwReached env a.merge a.merge.count.toNat → 0 ≤ (a.merge.count * a.merge.elemSize).toInt →
    (∀ i < a.merge.count.toNat, env.left i = 0) ∧ (a.merge ≠ a → a.count.toNat * a.elemSize.toNat < 2 ^ 64)

end NvidiaOot.Model
