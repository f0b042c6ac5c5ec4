import LearnExport.Number.BinaryFormat

/-!
# Doubles

A double is its 64 bits. Two doubles are the same value of this type only if
all bits agree, so both zeros and all the bit patterns that are no number are
told apart here; where a text shows less, that text says so.
-/

namespace LearnExport.Number

/-- A floating-point number of 64 bits. -/
structure Binary64 where
  bits : UInt64
deriving DecidableEq, Repr, Inhabited

namespace Binary64

/-- Whether the sign bit is set. -/
def isNegative (number : Binary64) : Bool :=
  0x8000000000000000 ≤ number.bits

/-- The pattern of the magnitude: all bits but the sign. -/
def magnitude (number : Binary64) : Nat :=
  number.bits.toNat % 0x8000000000000000

/-- Whether the pattern denotes a real number. -/
def isFinite (number : Binary64) : Bool :=
  number.magnitude < binary64.infinity

def isInfinite (number : Binary64) : Bool :=
  number.magnitude == binary64.infinity

/-- The double with the given sign and pattern of a magnitude. -/
def ofMagnitude (negative : Bool) (magnitude : Nat) : Binary64 :=
  ⟨UInt64.ofNat (magnitude + if negative then 0x8000000000000000 else 0)⟩

/-- The double nearest to an integer. -/
def ofInt (number : Int) : Binary64 :=
  ofMagnitude (number < 0) (binary64.ofQuotient number.natAbs 1)

end Binary64

end LearnExport.Number
