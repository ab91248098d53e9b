import NvidiaOot.Library.Machine
import NvidiaOot.Library.SearchTree

/-!
# The tree of the references of an nvmap client

The tree is in the order of the addresses of the handles; a client may have two references to a handle, and nothing puts
these in an order.  What `rb_insert_color` and `rb_erase` make of a tree is given with the call: any tree with the same
nodes in the same order.

Sources are in `drivers/video/tegra/nvmap/`.
-/

namespace NvidiaOot.Program

open Library

/-- `struct nvmap_handle_ref`, the fields that it is found by. -/
structure NvmapHandleRef where
  handle : ℕ
  isRo : Bool
deriving DecidableEq, Repr

/-- `__nvmap_validate_locked`
SOURCE: nvmap_handle.c:42-61 -/
def validateLocked (h : ℕ) (isRo : Bool) : BinaryTree NvmapHandleRef → Option NvmapHandleRef :=
  search fun ref => if ref.handle = h ∧ ref.isRo = isRo then .eq else if h > ref.handle then .lt else .gt

/-- `add_handle_ref` as far as `rb_link_node`
SOURCE: nvmap_handle.c:141-157 -/
def linkHandleRef (ref : NvmapHandleRef) : BinaryTree NvmapHandleRef → BinaryTree NvmapHandleRef :=
  link (fun node => if ref.handle > node.handle then .lt else .gt) ref

/-- A reference is added or erased, and the tree is the one that is given. -/
inductive RefTreeOp
  | add (ref : NvmapHandleRef) (tree : BinaryTree NvmapHandleRef)
  | erase (ref : NvmapHandleRef) (tree : BinaryTree NvmapHandleRef)

def refTreeStep (t : BinaryTree NvmapHandleRef) : RefTreeOp → Option (BinaryTree NvmapHandleRef)
  | .add ref tree => if ref ∉ inorder t ∧ inorder tree = inorder (linkHandleRef ref t) then some tree else none
  | .erase ref tree => if ref ∈ inorder t ∧ inorder tree = (inorder t).erase ref then some tree else none

end NvidiaOot.Program
