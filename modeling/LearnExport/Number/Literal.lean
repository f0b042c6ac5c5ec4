import LearnExport.Number.BinaryFormat
import LearnExport.Text.Ascii

/-!
# Decimal literals

The literals in which a weight may be written: an optional sign and then `inf`,
`infinity` or `nan` in any case, or digits with an optional point and an optional
exponent. At least one digit stands before or after the point, and at least one
in an exponent.
-/

namespace LearnExport.Number

/-- What a literal denotes. -/
inductive Literal where
  | decimal (negative : Bool) (digits : Nat) (exponent : Int)
  | infinite (negative : Bool)
  | notANumber
deriving DecidableEq, Repr

namespace Literal

/-- Splits off an optional sign; the first component says whether it is a minus
sign. -/
def splitSign : List Char → Bool × List Char
  | '-' :: rest => (true, rest)
  | '+' :: rest => (false, rest)
  | text => (false, text)

def splitDigits (text : List Char) : List Char × List Char :=
  (text.takeWhile fun character => (Text.digit? character).isSome,
    text.dropWhile fun character => (Text.digit? character).isSome)

/-- The number of a run of digits, zero for an empty one. -/
def digitsValue (digits : List Char) : Nat :=
  (Text.numeral? digits).getD 0

/-- The exponent that ends a literal: nothing, or `e` with a signed number. -/
def exponent? : List Char → Option Int
  | [] => some 0
  | marker :: rest =>
      if marker = 'e' ∨ marker = 'E' then
        let signed := splitSign rest
        (Text.numeral? signed.2).map fun number => if signed.1 then -number else number
      else none

/-- A literal of digits without its sign. -/
def number? (negative : Bool) (text : List Char) : Option Literal :=
  let whole := splitDigits text
  let fraction := match whole.2 with
    | '.' :: rest => splitDigits rest
    | rest => ([], rest)
  if whole.1.isEmpty && fraction.1.isEmpty then none
  else (exponent? fraction.2).map fun exponent =>
    .decimal negative (digitsValue (whole.1 ++ fraction.1)) (exponent - fraction.1.length)

/-- Reads a literal; nothing if the text is none. -/
def parse? (text : List Char) : Option Literal :=
  let signed := splitSign text
  let word := Text.lowerCase signed.2
  if word = ['i', 'n', 'f'] ∨ word = ['i', 'n', 'f', 'i', 'n', 'i', 't', 'y'] then
    some (.infinite signed.1)
  else if word = ['n', 'a', 'n'] then some .notANumber
  else number? signed.1 signed.2

/-- Whether the literal has a minus sign. -/
def isNegative : Literal → Bool
  | .decimal negative _ _ => negative
  | .infinite negative => negative
  | .notANumber => false

/-- The pattern of the nearest magnitude of a format; one beyond infinity for
what is no number. -/
def magnitude (format : BinaryFormat) : Literal → Nat
  | .decimal _ digits exponent => format.ofDecimal digits exponent
  | .infinite _ => format.infinity
  | .notANumber => format.infinity + 1

end Literal

end LearnExport.Number
