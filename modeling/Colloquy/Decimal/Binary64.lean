/-!
# Double-precision numbers

A double is kept as its 64 bits, so that two of them are equal exactly when their bits are and a negative zero stays
one. The decoded parts say which real number the bits stand for: `mantissa * 2 ^ exponent`, with the sign apart.
-/

namespace Colloquy

/-- A double-precision number, by its bits. -/
structure Binary64 where
  bits : UInt64
  deriving DecidableEq, Inhabited, Repr

namespace Binary64

/-- The bits of a machine number. -/
def ofFloat (x : Float) : Binary64 :=
  ⟨x.toBits⟩

/-- The machine number of the bits. -/
def toFloat (x : Binary64) : Float :=
  Float.ofBits x.bits

/-- Positive zero. -/
def zero : Binary64 :=
  ⟨0⟩

/-- The double nearest to a whole number of at most 64 bits. -/
def ofUInt64 (n : UInt64) : Binary64 :=
  ofFloat n.toFloat

/-- Whether the sign bit is set. -/
def isNegative (x : Binary64) : Bool :=
  x.bits >>> 63 == 1

/-- The eleven bits of the exponent. -/
def exponentField (x : Binary64) : Nat :=
  (x.bits >>> 52).toNat % 2048

/-- The fifty-two bits of the fraction. -/
def fraction (x : Binary64) : Nat :=
  x.bits.toNat % 0x10000000000000

/-- Whether the bits stand for an infinity. -/
def isInfinite (x : Binary64) : Bool :=
  x.exponentField == 2047 && x.fraction == 0

/-- Whether the bits stand for no number. -/
def isNaN (x : Binary64) : Bool :=
  x.exponentField == 2047 && x.fraction != 0

/-- Whether the number is zero, of either sign. -/
def isZero (x : Binary64) : Bool :=
  x.exponentField == 0 && x.fraction == 0

/-- The significand as a whole number. -/
def mantissa (x : Binary64) : Nat :=
  if x.exponentField = 0 then x.fraction else x.fraction + 0x10000000000000

/-- The power of two that scales the significand. -/
def exponent (x : Binary64) : Int :=
  if x.exponentField = 0 then -1074 else (x.exponentField : Int) - 1075

/-- Positive infinity. -/
def infinity : Binary64 :=
  ⟨0x7FF0000000000000⟩

/-- The bits that stand for no number. -/
def nan : Binary64 :=
  ⟨0x7FF8000000000000⟩

/-- The number with the other sign. -/
def neg (x : Binary64) : Binary64 :=
  ⟨x.bits ^^^ 0x8000000000000000⟩

/-- The rounded product. -/
def mul (x y : Binary64) : Binary64 :=
  ofFloat (x.toFloat * y.toFloat)

/-- The rounded quotient. -/
def div (x y : Binary64) : Binary64 :=
  ofFloat (x.toFloat / y.toFloat)

/-- The double nearest to a power of ten. -/
def powerOfTen (n : Nat) : Binary64 :=
  ofFloat (Float.ofScientific 1 false n)

end Binary64

end Colloquy
