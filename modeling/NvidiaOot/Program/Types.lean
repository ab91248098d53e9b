import Mathlib.Data.BitVec

/-!
# Machine integers and error codes

The fixed-width C types of the sources are bit vectors: arithmetic wraps, `<` and `≤`
are the unsigned comparisons.  Return codes are integers, with the errno values of the
kernel headers.
-/

namespace NvidiaOot.Program

/-- `uint8_t` -/
abbrev U8 := BitVec 8
/-- `uint16_t` -/
abbrev U16 := BitVec 16
/-- `uint32_t` -/
abbrev U32 := BitVec 32
/-- `uint64_t`, `size_t`, `uintptr_t`, `dma_addr_t` -/
abbrev U64 := BitVec 64

instance U32.lawfulBEq : LawfulBEq U32 := inferInstance
instance neZeroTwo : NeZero 2 := inferInstance

/-! ## errno values (asm-generic/errno-base.h, asm-generic/errno.h) -/

def ePERM : ℤ := 1
def eINTR : ℤ := 4
def eIO : ℤ := 5
def e2BIG : ℤ := 7
def eNOEXEC : ℤ := 8
def eBADF : ℤ := 9
def eAGAIN : ℤ := 11
def eNOMEM : ℤ := 12
def eFAULT : ℤ := 14
def eBUSY : ℤ := 16
def eINVAL : ℤ := 22
def eNOSPC : ℤ := 28
def eNOMSG : ℤ := 42
def eNODATA : ℤ := 61
def eNOLINK : ℤ := 67
def eOVERFLOW : ℤ := 75
def eOPNOTSUPP : ℤ := 95
def eCONNRESET : ℤ := 104
def eTIMEDOUT : ℤ := 110
def eRESTARTSYS : ℤ := 512

/-- The value of an unsigned 64-bit quantity after the cast `(int)`. -/
def toInt32 (x : U64) : ℤ := (x.setWidth 32).toInt

/-- The conversion to `int32_t`. -/
def toI32 (x : ℤ) : ℤ := x.bmod (2 ^ 32)

/-- An index that is out of bounds is 0, also in speculation. -/
def arrayIndexNospec (index size : ℕ) : ℕ := if index < size then index else 0

end NvidiaOot.Program
