import Mathlib.Data.List.Basic

/-!
# Byte areas

A byte area is a function from byte offsets to bytes.  `slice m off len` reads a range
of it and `blit m off len src` copies `len` bytes of a buffer into it.  The lemmas say
that a copy is seen where it was made and nowhere else.
-/

namespace NvidiaOot.Library

variable {β : Type}

/-- The bytes of the range `[off, off + len)`. -/
def slice (m : ℕ → β) (off len : ℕ) : List β := (List.range len).map fun j => m (off + j)

/-- Copy the first `len` bytes of `src` to the range `[off, off + len)`. -/
def blit (m : ℕ → β) (off len : ℕ) (src : ℕ → β) : ℕ → β :=
  fun i => if off ≤ i ∧ i < off + len then src (i - off) else m i

@[simp] theorem length_slice (m : ℕ → β) (off len : ℕ) : (slice m off len).length = len := by
  simp [slice]

theorem blit_zero (m : ℕ → β) (off : ℕ) (src : ℕ → β) : blit m off 0 src = m := by
  funext i
  exact if_neg (by omega)

/-- Two areas that agree on a range have the same slice there. -/
theorem slice_congr {m m' : ℕ → β} {off len : ℕ}
    (h : ∀ i, off ≤ i → i < off + len → m i = m' i) : slice m off len = slice m' off len := by
  refine List.map_congr_left fun j hj => h _ (by omega) ?_
  have := List.mem_range.mp hj
  omega

theorem slice_drop_take (m : ℕ → β) {off len o c : ℕ} (h : o + c ≤ len) :
    slice m (off + o) c = ((slice m off len).drop o).take c := by
  apply List.ext_getElem
  · simp only [length_slice, List.length_take, List.length_drop]
    omega
  · intro i _ _
    simp [slice, Nat.add_assoc]

/-- Two areas agree outside a range. -/
def AgreeOutside (m m' : ℕ → β) (off len : ℕ) : Prop :=
  ∀ i, i < off ∨ off + len ≤ i → m' i = m i

/-- An area agrees with itself outside every range. -/
theorem AgreeOutside.refl (m : ℕ → β) (off len : ℕ) : AgreeOutside m m off len :=
  fun _ _ => rfl

/-- A copy into a part of a range changes nothing outside the range. -/
theorem AgreeOutside.blit {m m' : ℕ → β} {off len : ℕ} (h : AgreeOutside m m' off len)
    {o c : ℕ} (ho : off ≤ o) (hc : o + c ≤ off + len) (src : ℕ → β) :
    AgreeOutside m (Library.blit m' o c src) off len := by
  intro i hi
  have hout : ¬ (o ≤ i ∧ i < o + c) := by omega
  rw [Library.blit, if_neg hout, h i hi]

/-- A slice disjoint from the range outside of which two areas agree is the same. -/
theorem AgreeOutside.slice_eq {m m' : ℕ → β} {off len : ℕ} (h : AgreeOutside m m' off len)
    {o c : ℕ} (hd : o + c ≤ off ∨ off + len ≤ o) : slice m' o c = slice m o c :=
  slice_congr fun i _ _ => h i (by omega)

end NvidiaOot.Library
