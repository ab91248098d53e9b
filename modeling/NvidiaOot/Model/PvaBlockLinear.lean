import NvidiaOot.Library.Tiling
import NvidiaOot.Model.PvaDma

/-!
# Block-linear surfaces

A block-linear surface is tiled: the units are GOBs of 8 lines of 64 bytes, whose bytes have an order of their own, and a
block has `2 ^ blockHtLog2` GOBs.
-/

namespace NvidiaOot.Model

open Library Program

/-- The column and the line of a byte of a GOB. -/
def gobX (n : ℕ) : ℕ := n % 16 + n / 32 % 2 * 16 + n / 256 % 2 * 32
def gobY (n : ℕ) : ℕ := n / 16 % 2 + n / 64 % 2 * 2 + n / 128 % 2 * 4

def blockBytes (blockHtLog2 : ℕ) : ℕ := 512 * 2 ^ blockHtLog2

def blockLine (blockHtLog2 n : ℕ) : ℕ := gobY (n % 512) + n % blockBytes blockHtLog2 / 512 * 8

/-- A surface whose lines have the bytes of some GOBs. -/
def gobTiling (gobs blockHtLog2 : ℕ) (h : 0 < gobs) : Tiling where
  width := 64
  height := 8
  units := 2 ^ blockHtLog2
  blocks := gobs
  x := gobX
  y := gobY
  width_pos := by decide
  height_pos := by decide
  units_pos := Nat.two_pow_pos blockHtLog2
  blocks_pos := h
  x_lt n := by unfold gobX; omega
  y_lt n := by unfold gobY; omega
  inj m n hm hn hx hy := by
    -- the nine bits of the byte are those of its column and its line
    unfold gobX at hx
    unfold gobY at hy
    omega

/-- A block-linear surface of whole rows of blocks. -/
structure BlSurface where
  linePitchBytes : U32
  blockHtLog2 : U8
  surfBlOffset : U64
  rows : ℕ
  pitch_pos : 0 < linePitchBytes.toNat
  pitch_dvd : 64 ∣ linePitchBytes.toNat
  blockHt_le : blockHtLog2.toNat ≤ 5
  size_lt : linePitchBytes.toNat * (rows * (8 * 2 ^ blockHtLog2.toNat)) < 2 ^ 31

namespace BlSurface

variable (S : BlSurface)

def height : ℕ := S.rows * (8 * 2 ^ S.blockHtLog2.toNat)

/-- The offsets of the bytes of the surface. -/
def offsets : Set U64 := {offset | (offset - S.surfBlOffset).toNat < S.linePitchBytes.toNat * S.height}

/-- The pitch-linear offset of a block-linear one. -/
def linear (offset : U64) : U64 := blockLinearOffset offset S.surfBlOffset S.linePitchBytes S.blockHtLog2

end BlSurface

/-- A descriptor with another offset on the side that is converted. -/
def withOffset (desc : DmaDescriptor) (isDst isDst2 : Bool) (offset : U64) : DmaDescriptor :=
  if isDst then { desc with dstOffset := offset }
  else if isDst2 then { desc with dst2Offset := offset }
  else { desc with srcOffset := offset }

/-- The line pitch and the offset that are converted. -/
def convertedLinePitch (desc : DmaDescriptor) (isDst isDst2 : Bool) : U16 :=
  if isDst || isDst2 then desc.dstLinePitch else desc.srcLinePitch
def convertedOffset (desc : DmaDescriptor) (isDst isDst2 : Bool) : U64 :=
  if isDst then desc.dstOffset else if isDst2 then desc.dst2Offset else desc.srcOffset

/-- `line_pitch << bpp_log2`, with the 32 bits of the machine. -/
def convertedPitch (desc : DmaDescriptor) (bppLog2 : U8) (isDst isDst2 : Bool) : U32 :=
  (convertedLinePitch desc isDst isDst2).setWidth 32 <<< (bppLog2.setWidth 32 &&& 31#32)

/-- A side of a descriptor accesses the surface. -/
structure BlSurface.IsOf (S : BlSurface) (desc : DmaDescriptor) (bppLog2 : U8) (isDst isDst2 : Bool) : Prop where
  format : sideFormat desc (isDst || isDst2) ≠ 0
  cbEnable : sideCbEnable desc (isDst || isDst2) = 0
  linePitch : convertedPitch desc bppLog2 isDst isDst2 = S.linePitchBytes

section

variable (linePitchBytes : U32) (blockHtLog2 : U8)

def ropBytes : ℕ := linePitchBytes.toNat / 64 * blockBytes blockHtLog2.toNat

/-- `rop_size`, which has 32 bits. -/
def ropSize : ℕ := ropBytes linePitchBytes blockHtLog2 % 2 ^ 32

/-- The place in the surface of the byte that has `n` bytes before it in the block-linear order. -/
def blImage (n : ℕ) : ℕ :=
  n / ropBytes linePitchBytes blockHtLog2 * ropBytes linePitchBytes blockHtLog2 +
    blockLine blockHtLog2.toNat n * linePitchBytes.toNat +
    (gobX (n % 512) + n % ropBytes linePitchBytes blockHtLog2 / blockBytes blockHtLog2.toNat * 64)

/-- The byte and its row of blocks are not changed when they are computed with 32 bits. -/
structure OffsetFits (n : ℕ) : Prop where
  divisor : ropSize linePitchBytes blockHtLog2 ≠ 0
  offset : n < 2 ^ 32
  rop : n / ropSize linePitchBytes blockHtLog2 = n / ropBytes linePitchBytes blockHtLog2
  line : blockLine blockHtLog2.toNat n * linePitchBytes.toNat < 2 ^ 32

variable (desc : DmaDescriptor) (surfBlOffset : U64) (bppLog2 : U8) (isDst isDst2 : Bool)

/-- The checks of a block-linear access. -/
structure BlAccess : Prop where
  format : sideFormat desc (isDst || isDst2) ≠ 0
  blockHt : blockHtLog2.toNat ≤ 5
  cbEnable : sideCbEnable desc (isDst || isDst2) = 0
  linePitch : (convertedPitch desc bppLog2 isDst isDst2).toNat % 64 = 0
  offset : convertedOffset desc isDst isDst2 % 64 = 0

/-- What is returned for a block-linear access is the place of the descriptor's offset, found without a division by
zero. -/
def ImageExact : Prop :=
  sideFormat desc (isDst || isDst2) ≠ 0 → ∀ r,
    pitchLinearEqOffset desc surfBlOffset blockHtLog2 bppLog2 isDst isDst2 = .ok r →
      ropSize (convertedPitch desc bppLog2 isDst isDst2) blockHtLog2 ≠ 0 ∧
        (r - surfBlOffset).toNat = blImage (convertedPitch desc bppLog2 isDst isDst2) blockHtLog2
          (convertedOffset desc isDst isDst2 - surfBlOffset).toNat

end

end NvidiaOot.Model
