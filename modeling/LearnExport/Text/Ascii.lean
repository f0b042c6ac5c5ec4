/-!
# Letters and numerals of the ASCII alphabet

Media types, format names and authorization schemes are compared without
regard to the case of the twenty-six letters, and to nothing else: `İ` and `ı`
are never taken for an `i`. Digits are the ten ASCII ones.
-/

namespace LearnExport.Text

/-- The text with the letters `A` to `Z` in lower case and all else kept. -/
def lowerCase (text : List Char) : List Char :=
  text.map Char.toLower

def sameIgnoringCase (first second : List Char) : Bool :=
  lowerCase first == lowerCase second

def digit? (character : Char) : Option Nat :=
  if '0' ≤ character ∧ character ≤ '9' then some (character.toNat - '0'.toNat) else none

/-- The value of a hexadecimal digit of either case. -/
def hexDigit? (character : Char) : Option Nat :=
  if '0' ≤ character ∧ character ≤ '9' then some (character.toNat - '0'.toNat)
  else if 'a' ≤ character ∧ character ≤ 'f' then some (character.toNat - 'a'.toNat + 10)
  else if 'A' ≤ character ∧ character ≤ 'F' then some (character.toNat - 'A'.toNat + 10)
  else none

/-- The number that a run of digits denotes in the given base, read after a
number `value`; nothing if some character is no digit. -/
def numeralFrom (digitValue : Char → Option Nat) (base : Nat) :
    Nat → List Char → Option Nat
  | value, [] => some value
  | value, character :: rest =>
      match digitValue character with
      | some digit => numeralFrom digitValue base (base * value + digit) rest
      | none => none

/-- The number that one or more decimal digits denote. Leading zeros count for
nothing, signs and separators are not digits. -/
def numeral? : List Char → Option Nat
  | [] => none
  | digits => numeralFrom digit? 10 0 digits

/-- The decimal digits of a natural number, without leading zeros. -/
def decimal (number : Nat) : List Char :=
  Nat.toDigits 10 number

/-- The decimal digits of a natural number, filled up with leading zeros to the
given width. -/
def paddedDecimal (width number : Nat) : List Char :=
  let digits := decimal number
  List.replicate (width - digits.length) '0' ++ digits

/-- An integer in decimal, with a minus sign if it is negative. -/
def integer : Int → List Char
  | .ofNat number => decimal number
  | .negSucc number => '-' :: decimal (number + 1)

/-- The lower-case hexadecimal digits of a natural number, without leading
zeros. -/
def hexadecimal (number : Nat) : List Char :=
  Nat.toDigits 16 number

end LearnExport.Text
