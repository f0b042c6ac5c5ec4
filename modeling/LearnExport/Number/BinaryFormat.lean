/-!
# Binary floating-point formats

A format of a given precision has as its magnitudes the multiples of a least
unit by numbers of that many bits, up to infinity. A magnitude is kept as its
bit pattern without the sign, so that the order of magnitudes is the order of
their patterns. Every positive rational number has a nearest magnitude; halfway
between two, the even pattern is taken.
-/

namespace LearnExport.Number

/-- A binary format: the number of bits of a significand, and the exponent of
the least unit, which is the least positive magnitude. -/
structure BinaryFormat where
  precision : Nat
  leastExponent : Int
  /-- The bit pattern of infinity. -/
  infinity : Nat

/-- The format of 32 bits, in which the weights of media ranges are compared. -/
def binary32 : BinaryFormat where
  precision := 24
  leastExponent := -149
  infinity := 0x7F800000

/-- The format of 64 bits, in which measured values are kept. -/
def binary64 : BinaryFormat where
  precision := 53
  leastExponent := -1074
  infinity := 0x7FF0000000000000

/-- The natural number nearest to a quotient; of two equally near ones the even
one. -/
def nearestQuotient (numerator denominator : Nat) : Nat :=
  let quotient := numerator / denominator
  let remainder := numerator % denominator
  if 2 * remainder < denominator then quotient
  else if denominator < 2 * remainder then quotient + 1
  else quotient + quotient % 2

namespace BinaryFormat

/-- The first bit of a full significand, which bit patterns leave out. -/
def leadingBit (format : BinaryFormat) : Nat :=
  Nat.pow 2 (format.precision - 1)

/-- The unit exponent at which a quotient has a significand of full precision.
The bit lengths of the two numbers determine it up to one. -/
def fullExponent (format : BinaryFormat) (numerator denominator : Nat) : Int :=
  let guess : Int := (numerator.log2 : Int) - denominator.log2 - format.precision
  let truncated :=
    numerator * Nat.pow 2 (-guess).toNat / (denominator * Nat.pow 2 guess.toNat)
  if Nat.pow 2 format.precision ≤ truncated then guess + 1 else guess

/-- The pattern of the magnitude nearest to a quotient of natural numbers, with
a positive denominator. A significand rounded up to the next power of two
carries into the exponent field, which is what the pattern of that power is. -/
def ofQuotient (format : BinaryFormat) (numerator denominator : Nat) : Nat :=
  if numerator = 0 then 0
  else
    let exponent := max (format.fullExponent numerator denominator) format.leastExponent
    let significand :=
      nearestQuotient (numerator * Nat.pow 2 (-exponent).toNat)
        (denominator * Nat.pow 2 exponent.toNat)
    let steps := (exponent - format.leastExponent).toNat
    min format.infinity (steps * format.leadingBit + significand)

/-- The pattern of the magnitude nearest to `digits * 10 ^ exponent`. Beyond
four hundred places on either side every format has only infinity and zero. -/
def ofDecimal (format : BinaryFormat) (digits : Nat) (exponent : Int) : Nat :=
  if digits = 0 then 0
  else if 400 < exponent then format.infinity
  else if exponent + digits.log2 < -400 then 0
  else format.ofQuotient (digits * Nat.pow 10 exponent.toNat) (Nat.pow 10 (-exponent).toNat)

def significand (format : BinaryFormat) (magnitude : Nat) : Nat :=
  if magnitude < format.leadingBit then magnitude
  else magnitude % format.leadingBit + format.leadingBit

/-- The exponent of the unit that the significand of a finite magnitude
counts. -/
def unitExponent (format : BinaryFormat) (magnitude : Nat) : Int :=
  if magnitude < format.leadingBit then format.leastExponent
  else format.leastExponent + (magnitude / format.leadingBit - 1 : Nat)

/-- The numerator of a finite magnitude as a quotient of natural numbers. -/
def numerator (format : BinaryFormat) (magnitude : Nat) : Nat :=
  format.significand magnitude * Nat.pow 2 (format.unitExponent magnitude).toNat

/-- The denominator of a finite magnitude as a quotient of natural numbers. -/
def denominator (format : BinaryFormat) (magnitude : Nat) : Nat :=
  Nat.pow 2 (-format.unitExponent magnitude).toNat

/-- The magnitude nearest to the product of two finite ones. -/
def product (format : BinaryFormat) (first second : Nat) : Nat :=
  format.ofQuotient (format.numerator first * format.numerator second)
    (format.denominator first * format.denominator second)

/-- The magnitude nearest to the quotient of two finite ones, the second not
zero. -/
def quotient (format : BinaryFormat) (first second : Nat) : Nat :=
  format.ofQuotient (format.numerator first * format.denominator second)
    (format.denominator first * format.numerator second)

end BinaryFormat

end LearnExport.Number
