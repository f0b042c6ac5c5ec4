import LearnExport.Number.Binary64
import LearnExport.Text.Ascii

/-!
# The shortest decimal of a double

Every real number close enough to a finite double is read back as that double;
those numbers form an interval around it. The shortest decimal of the double is
the number of that interval with the fewest significant digits, and among those
the one nearest to the double. A number of that many digits lies in the interval
only if one of the two neighbours of the double on the decimal grid does, so only
these are tried, on finer and finer grids. Seventeen digits always suffice.
-/

namespace LearnExport.Number

/-- A decimal number: `digits * 10 ^ exponent`. -/
structure Decimal where
  digits : Nat
  exponent : Int
deriving DecidableEq, Repr

/-- Which of two equally near decimals is taken. -/
inductive Tie where
  /-- The one whose last digit is even. -/
  | toEven
  /-- The greater one. -/
  | up
deriving DecidableEq, Repr

/-- A positive real `significand * 2 ^ exponent` with the bounds of the reals
that are rounded to it. Distances are counted in quarters of the unit
`2 ^ exponent`; the bounds themselves belong to the interval if the significand
is even. -/
structure Rounded where
  significand : Nat
  exponent : Int
  /-- Quarters of a unit down to the lower bound: two, or one where the next
  smaller magnitude is only half a unit away. -/
  below : Nat
deriving DecidableEq, Repr

namespace Rounded

/-- A positive finite magnitude of 64 bits. -/
def ofMagnitude (magnitude : Nat) : Rounded where
  significand := binary64.significand magnitude
  exponent := binary64.unitExponent magnitude
  below :=
    if binary64.significand magnitude = binary64.leadingBit ∧
        binary64.leastExponent < binary64.unitExponent magnitude then 1 else 2

/-- The factor of a numerator over `denominator` at which the number, divided by
`10 ^ scale`, becomes a quotient of natural numbers. -/
def factor (number : Rounded) (scale : Int) : Nat :=
  Nat.pow 2 number.exponent.toNat * Nat.pow 10 (-scale).toNat

/-- The denominator of the number divided by `10 ^ scale`. -/
def denominator (number : Rounded) (scale : Int) : Nat :=
  Nat.pow 2 (-number.exponent).toNat * Nat.pow 10 scale.toNat

/-- Whether `digits * 10 ^ scale` is rounded to the number. -/
def isReadBack (number : Rounded) (scale : Int) (digits : Nat) : Bool :=
  let quarters := 4 * digits * number.denominator scale
  let lower := (4 * number.significand - number.below) * number.factor scale
  let upper := (4 * number.significand + 2) * number.factor scale
  if number.significand % 2 = 0 then lower ≤ quarters && quarters ≤ upper
  else lower < quarters && quarters < upper

/-- The two neighbours on the grid of multiples of `10 ^ scale`, the better one
first: the nearer, and at equal distance as the tie rule says. -/
def neighbours (tie : Tie) (number : Rounded) (scale : Int) : Nat × Nat :=
  let numerator := number.significand * number.factor scale
  let denominator := number.denominator scale
  let lower := numerator / denominator
  let remainder := numerator % denominator
  let lowerFirst :=
    2 * remainder < denominator ||
      (2 * remainder == denominator && tie == .toEven && lower % 2 == 0)
  if lowerFirst then (lower, lower + 1) else (lower + 1, lower)

/-- The best neighbour on a grid that is read back, if one is. -/
def onGrid (tie : Tie) (number : Rounded) (scale : Int) : Option Decimal :=
  let candidates := number.neighbours tie scale
  if number.isReadBack scale candidates.1 then some ⟨candidates.1, scale⟩
  else if number.isReadBack scale candidates.2 then some ⟨candidates.2, scale⟩
  else none

/-- The exponent of the first significant digit. Below one the number is moved
four hundred places up first, so that its whole part has that digit. -/
def leadingExponent (number : Rounded) : Int :=
  let places : Nat := if number.exponent < 0 then 400 else 0
  let whole :=
    number.significand * Nat.pow 2 number.exponent.toNat * Nat.pow 10 places /
      Nat.pow 2 (-number.exponent).toNat
  ((Text.decimal whole).length : Int) - 1 - places

/-- The first of the grids with `count`, `count + 1`, ... significant digits that
has a decimal to read back; after `attempts` grids the better neighbour on the
last one. -/
def search (tie : Tie) (number : Rounded) (leading : Int) : Nat → Int → Decimal
  | 0, count => ⟨(number.neighbours tie (leading - count + 1)).1, leading - count + 1⟩
  | attempts + 1, count =>
      match number.onGrid tie (leading - count + 1) with
      | some decimal => decimal
      | none => search tie number leading attempts (count + 1)

/-- The shortest decimal that is read back as the number. -/
def shortest (tie : Tie) (number : Rounded) : Decimal :=
  search tie number number.leadingExponent 16 1

end Rounded

end LearnExport.Number
