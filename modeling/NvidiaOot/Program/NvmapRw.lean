import NvidiaOot.Program.Types

/-!
# Strided copies between a handle and the user

An access is recorded with the bytes that the copy left behind.  Not modelled: the cache maintenance around a copy.

Sources are in `drivers/video/tegra/nvmap/`.
-/

namespace NvidiaOot.Program

/-- What `rw_handle` is called with. -/
structure RwArgs where
  hOffs : U64
  sysAddr : U64
  hStride : U64
  sysStride : U64
  elemSize : U64
  count : U64
deriving DecidableEq, Repr

/-- The handle, whether the copy goes through a buffer (a write to the VPR carveout does), whether what is allocated is
there, and what the copy with a number leaves behind. -/
structure RwEnv where
  cpuAccess : Bool
  alloc : Bool
  size : U64
  mapOk : Bool
  viaTmp : Bool
  tmpOk : Bool
  left : ℕ → U64

structure RwAccess where
  hOffs : U64
  sysAddr : U64
  size : U64
  left : U64
deriving DecidableEq, Repr

/-- Elements that are side by side are copied as one. -/
def RwArgs.merge (a : RwArgs) : RwArgs :=
  if a.elemSize = a.hStride ∧ a.elemSize = a.sysStride ∧ a.hOffs % 8 = 0 then
    { a with elemSize := a.elemSize * a.count, hStride := a.elemSize * a.count, sysStride := a.elemSize * a.count, count := 1 }
  else a

/-- The check of the bounds. -/
def rwRefused (env : RwEnv) (a : RwArgs) : Prop :=
  env.size < a.elemSize ∨ env.size ≤ a.hOffs ∨ a.sysStride < a.elemSize ∨ a.hStride < a.elemSize ∨
    (env.size - a.hOffs) / a.count < a.sysStride ∨ env.size < a.hOffs + a.hStride * (a.count - 1) + a.elemSize

instance (env : RwEnv) (a : RwArgs) : Decidable (rwRefused env a) := inferInstanceAs (Decidable (_ ∨ _))

/-- The loop, from the copy `i` on: its `ret`, the bytes that it has copied, and the accesses. -/
def rwLoop (env : RwEnv) (a : RwArgs) : ℕ → ℕ → U64 → U64 → U64 → ℤ × U64 × List RwAccess
  | 0, _, _, _, copied => (0, copied, [])
  | n + 1, i, hOffs, sysAddr, copied =>
    if env.size < hOffs + a.elemSize then (-eFAULT, copied, [])
    else
      let access : RwAccess := ⟨hOffs, sysAddr, a.elemSize, env.left i⟩
      if toInt32 (env.left i) ≠ 0 then
        -- the bytes that came in are in the buffer still
        (toInt32 (env.left i), copied, if env.viaTmp then [] else [access])
      else
        let (ret, copied, rest) := rwLoop env a n (i + 1) (hOffs + a.hStride) (sysAddr + a.sysStride) (copied + a.elemSize)
        (ret, copied, access :: rest)

/-- What the call returns, and the accesses that it makes.
SOURCE: nvmap_ioctl.c:649-742 -/
def rwHandle (env : RwEnv) (args : RwArgs) : ℤ × List RwAccess :=
  if env.cpuAccess = false then (-ePERM, [])
  else if args.elemSize = 0 ∨ args.count = 0 then (-eINVAL, [])
  else if env.alloc = false then (-eFAULT, [])
  else
    let a := args.merge
    if rwRefused env a then (-eINVAL, [])
    else if env.mapOk = false ∨ env.viaTmp = true ∧ env.tmpOk = false then (-eNOMEM, [])
    else
      let (ret, copied, accesses) := rwLoop env a a.count.toNat 0 a.hOffs a.sysAddr 0
      (if ret ≠ 0 then ret else copied.toInt, accesses)

end NvidiaOot.Program
