import LearnExport.Number.Literal

/-!
# Weights of media ranges

A weight is a decimal literal rounded to a float of 32 bits, and weights are
compared after rounding. Zero, negative weights and those that are no number
are not positive: they refuse instead of asking.
-/

namespace LearnExport

/-- A weight: its sign and the bit pattern of its magnitude. -/
structure Weight where
  negative : Bool
  magnitude : Nat
deriving DecidableEq, Repr

namespace Weight

/-- The weight of a media range that names none. -/
def one : Weight where
  negative := false
  magnitude := Number.binary32.ofQuotient 1 1

/-- The weight that a text without white space around it denotes. -/
def parse? (text : List Char) : Option Weight :=
  (Number.Literal.parse? text).map fun literal =>
    { negative := literal.isNegative
      magnitude := literal.magnitude Number.binary32 }

/-- Whether a weight asks for its range: it is greater than zero. -/
def isPositive (weight : Weight) : Bool :=
  !weight.negative && 0 < weight.magnitude && weight.magnitude ≤ Number.binary32.infinity

/-- The order of positive weights, which is that of their patterns. -/
def atLeast (first second : Weight) : Bool :=
  second.magnitude ≤ first.magnitude

end Weight

end LearnExport
