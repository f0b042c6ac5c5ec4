import LearnExport.Number.Shortest

/-!
# How a double is written

Two texts show doubles by their shortest decimals. A row writes very large and
very small numbers with an exponent and keeps a point in whole numbers, so that
they are read as doubles again. A spreadsheet cell and a stored record write
all digits out and leave the point of a whole number away.
-/

namespace LearnExport.Number

/-- The decisions of a text that shows doubles. -/
structure Layout where
  /-- Which of two equally near shortest decimals is shown. -/
  tie : Tie
  /-- The least and the greatest exponent of the first digit at which a number
  is written without an exponent; all numbers are if there is no such range. -/
  plainRange : Option (Int × Int)
  /-- Whether a whole number written without an exponent ends in `.0`. -/
  keepsPoint : Bool

/-- Doubles in a row: `0.00001` and `1000000000000000.0` are the extremes
without an exponent. -/
def Layout.row : Layout where
  tie := .toEven
  plainRange := some (-5, 15)
  keepsPoint := true

/-- Doubles in a spreadsheet cell or a stored record: `1` and `-0.25`, and all
digits however many. -/
def Layout.plain : Layout where
  tie := .up
  plainRange := none
  keepsPoint := false

namespace Layout

/-- The digits of a number with the point after the first `whole` of them;
zeros fill the places where there is no digit. -/
def positional (layout : Layout) (digits : List Char) (whole : Int) : List Char :=
  if (digits.length : Int) ≤ whole then
    digits ++ List.replicate (whole - digits.length).toNat '0' ++
      if layout.keepsPoint then ['.', '0'] else []
  else if 0 < whole then
    digits.take whole.toNat ++ '.' :: digits.drop whole.toNat
  else ['0', '.'] ++ List.replicate (-whole).toNat '0' ++ digits

/-- The digits of a number with the point after the first one and the exponent
of that digit, with its sign, behind. -/
def scientific (digits : List Char) (leading : Int) : List Char :=
  digits.take 1 ++
    (if digits.length ≤ 1 then [] else '.' :: digits.drop 1) ++
    ['e', if leading < 0 then '-' else '+'] ++ Text.decimal leading.natAbs

def decimal (layout : Layout) (number : Decimal) : List Char :=
  let written := Text.decimal number.digits
  let digits := (written.reverse.dropWhile (· == '0')).reverse
  let whole := number.exponent + written.length
  match layout.plainRange with
  | none => layout.positional digits whole
  | some (least, greatest) =>
      if least ≤ whole - 1 ∧ whole - 1 ≤ greatest then layout.positional digits whole
      else scientific digits (whole - 1)

def magnitude (layout : Layout) (pattern : Nat) : List Char :=
  if pattern = 0 then layout.positional ['0'] 1
  else layout.decimal ((Rounded.ofMagnitude pattern).shortest layout.tie)

/-- The text of a double: `NaN`, `inf` and `-inf` for those that are no real
number. -/
def double (layout : Layout) (number : Binary64) : List Char :=
  let sign := if number.isNegative then ['-'] else []
  if number.isFinite then sign ++ layout.magnitude number.magnitude
  else if number.isInfinite then sign ++ ['i', 'n', 'f']
  else ['N', 'a', 'N']

end Layout

end LearnExport.Number
