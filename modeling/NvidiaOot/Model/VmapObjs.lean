import NvidiaOot.Library.Machine
import NvidiaOot.Program.Nvscic2cPcie

/-!
# The mappings of one context, and who holds them

The calls of `vmap.c` on the two tables of a context, beside the references that their callers hold.
-/

namespace NvidiaOot.Model

open Library Program Function

/-- `data` is what `match_dmabuf` compares the dma-bufs with, and `err` the error of memory, of the table or of the
pinning. -/
inductive VmapCall
  | memobjMap (dmabuf data : U64) (clientMngd : Bool) (env : PinEnv) (err : ℤ)
  | syncobjMap (syncptId : U64) (clientMngd : Bool) (env : PinEnv) (err : ℤ)
  | getref (k : MapKind) (i : ℕ)
  | putref (k : MapKind) (i : ℕ)

/-- The tables, and the references that the callers hold by number. -/
structure VmapCtx where
  tables : VmapTables
  refs : MapKind → ℕ → ℕ

def newVmapCtx : VmapCtx := ⟨fun _ => .empty, fun _ _ => 0⟩

def setRefs (s : VmapCtx) (k : MapKind) (i n : ℕ) : MapKind → ℕ → ℕ := update s.refs k (update (s.refs k) i n)

/-- What a call returns, and what it leaves: a map fails for what it finds, or with the error of its environment. -/
def vmapCall (s : VmapCtx) : VmapCall → Except ℤ ℕ × VmapCtx
  | .memobjMap dmabuf data clientMngd env err =>
    match memobjMap s.tables dmabuf data clientMngd env with
    | some (i, t) => (.ok i, ⟨t, setRefs s .mem i (s.refs .mem i + 1)⟩)
    | none => (.error (if ((s.tables .mem).find fun m => decide (m.object = data)).isSome then -eINVAL else err), s)
  | .syncobjMap syncptId clientMngd env err =>
    match syncobjMap s.tables syncptId clientMngd env with
    | some (i, t) => (.ok i, ⟨t, setRefs s .sync i (s.refs .sync i + 1)⟩)
    | none => (.error (if ((s.tables .sync).find fun m => decide (m.object = syncptId)).isSome then -ePERM else err), s)
  | .getref k i =>
    match vmapGetref s.tables k i with
    | some t => (.ok i, ⟨t, setRefs s k i (s.refs k i + 1)⟩)
    | none => (.error (-eBADF), s)
  | .putref k i =>
    if ((s.tables k).get i).isSome then (.ok 0, ⟨vmapPutref id s.tables k i, setRefs s k i (s.refs k i - 1)⟩)
    else (.error (-eBADF), s)

def vmapStep (s : VmapCtx) (c : VmapCall) : Option VmapCtx := some (vmapCall s c).2

/-- An object has one mapping, which is there, and pinned, as long as somebody holds a reference, and counts them. -/
structure VmapSound (s : VmapCtx) : Prop where
  unique : ∀ k i j m m', (s.tables k).get i = some m → (s.tables k).get j = some m' → m.object = m'.object → i = j
  counted : ∀ k i m, (s.tables k).get i = some m → m.refcount = s.refs k i
  pinned : ∀ k i, ((s.tables k).get i).isSome = true ↔ 0 < s.refs k i

/-- A dma-buf that is mapped gets its number and one more reference, if it is mapped in the same way; a syncpoint that
is mapped is refused. -/
def VmapAnswers (s : VmapCtx) : VmapCall → Prop
  | .memobjMap dmabuf data clientMngd env err => ∀ i m, (s.tables .mem).get i = some m → m.object = dmabuf →
      vmapCall s (.memobjMap dmabuf data clientMngd env err) =
        if clientMngd = m.clientMngd then
          (.ok i, ⟨setMap s.tables .mem i (some { m with refcount := m.refcount + 1 }),
            setRefs s .mem i (s.refs .mem i + 1)⟩)
        else (.error (-eINVAL), s)
  | .syncobjMap syncptId clientMngd env err => ∀ i m, (s.tables .sync).get i = some m → m.object = syncptId →
      vmapCall s (.syncobjMap syncptId clientMngd env err) = (.error (-ePERM), s)
  | _ => True

/-- No dma-buf is mapped that has a mapping, and no count overflows.  `data` is the address of a variable, so that it is
no dma-buf. -/
def VmapCareful (s : VmapCtx) : VmapCall → Prop
  | .memobjMap dmabuf data _ _ _ => (s.tables .mem).find (fun m => decide (m.object = dmabuf ∨ m.object = data)) = none
  | .getref k i => ((s.tables k).get i).all fun m => decide (m.refcount + 1 < krefSaturated)
  | _ => True

instance (s : VmapCtx) : DecidablePred (VmapCareful s)
  | .memobjMap .. => inferInstanceAs (Decidable (_ = _))
  | .syncobjMap .. => inferInstanceAs (Decidable True)
  | .getref .. => inferInstanceAs (Decidable (_ = true))
  | .putref .. => inferInstanceAs (Decidable True)

end NvidiaOot.Model
