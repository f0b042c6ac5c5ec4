import LearnExport.Json.Basic
import LearnExport.Text.Ascii

/-!
# Reading JSON

Whole numbers that fit 64 bits, with a sign or without one, are read as
integers, all other numbers as doubles. A double is read from the leading digits
that fit 64 bits, scaled by one power of ten: exact for the few digits that
people write, and off by at most a unit or two in the last place otherwise. Of
several members of an object with one key the last value counts, in the place
of the first.
-/

namespace LearnExport.Json

/-- The greatest significand of a number that is being read. -/
def greatestSignificand : Nat := 0xFFFFFFFFFFFFFFFF

/-- Reads digits into a significand as long as it fits 64 bits, and counts the
digits taken. -/
def absorbDigits : Nat → Nat → List Char → Nat × Nat
  | significand, taken, [] => (significand, taken)
  | significand, taken, character :: rest =>
      let next := 10 * significand + (Text.digit? character).getD 0
      if next ≤ greatestSignificand then absorbDigits next (taken + 1) rest
      else (significand, taken)

/-- Divides a magnitude by a power of ten, by at most `10 ^ 308` at a time. -/
def scaleDown (magnitude places : Nat) : Nat :=
  if magnitude = 0 then 0
  else if places ≤ 308 then
    Number.binary64.quotient magnitude (Number.binary64.ofDecimal 1 places)
  else
    scaleDown (Number.binary64.quotient magnitude (Number.binary64.ofDecimal 1 308)) (places - 308)
termination_by places

/-- The magnitude of a significand scaled by a power of ten, if it is finite. -/
def scaledMagnitude? (significand : Nat) (exponent : Int) : Option Nat :=
  let magnitude := Number.binary64.ofQuotient significand 1
  if exponent < 0 then some (scaleDown magnitude exponent.natAbs)
  else if significand = 0 then some 0
  else if 308 < exponent then none
  else
    let scaled :=
      Number.binary64.product magnitude (Number.binary64.ofDecimal 1 exponent.natAbs)
    if scaled < Number.binary64.infinity then some scaled else none

/-- The number of a literal with the given parts; `fraction` and `exponent` are
missing if the literal has none. -/
def numberOfParts? (negative : Bool) (whole : List Char) (fraction : Option (List Char))
    (exponent : Option Int) : Option Json :=
  let absorbed := absorbDigits 0 0 whole
  let dropped : Int := whole.length - absorbed.2
  if fraction.isNone ∧ exponent.isNone ∧ dropped = 0 ∧
      ¬(negative ∧ (absorbed.1 = 0 ∨ 0x8000000000000000 < absorbed.1)) then
    some (.integer (if negative then -absorbed.1 else absorbed.1))
  else
    let complete := absorbDigits absorbed.1 0 (fraction.getD [])
    (scaledMagnitude? complete.1 (dropped - complete.2 + exponent.getD 0)).map fun magnitude =>
      .double (.ofMagnitude negative magnitude)

/-- Splits off the digits at the start of a text. -/
def takeDigits (text : List Char) : List Char × List Char :=
  (text.takeWhile fun character => (Text.digit? character).isSome,
    text.dropWhile fun character => (Text.digit? character).isSome)

/-- The exponent at the start of a text, if there is a well-formed one. -/
def exponentPart? : List Char → Option (Option Int × List Char)
  | [] => some (none, [])
  | marker :: rest =>
      if marker = 'e' ∨ marker = 'E' then
        let signed : Bool × List Char := match rest with
          | '-' :: digits => (true, digits)
          | '+' :: digits => (false, digits)
          | digits => (false, digits)
        let parts := takeDigits signed.2
        (Text.numeral? parts.1).map fun number =>
          (some (if signed.1 then -number else number), parts.2)
      else some (none, marker :: rest)

/-- The fraction at the start of a text, if there is a well-formed one. -/
def fractionPart? : List Char → Option (Option (List Char) × List Char)
  | '.' :: rest =>
      let parts := takeDigits rest
      if parts.1.isEmpty then none else some (some parts.1, parts.2)
  | text => some (none, text)

def unsignedNumber? (negative : Bool) (text : List Char) : Option (Json × List Char) := do
  let (whole, afterWhole) := takeDigits text
  guard (!whole.isEmpty && (whole.length == 1 || whole.head? != some '0'))
  let (fraction, afterFraction) ← fractionPart? afterWhole
  let (exponent, rest) ← exponentPart? afterFraction
  let number ← numberOfParts? negative whole fraction exponent
  return (number, rest)

def number? : List Char → Option (Json × List Char)
  | '-' :: rest => unsignedNumber? true rest
  | text => unsignedNumber? false text

/-- The character that a backslash and a letter stand for. -/
def simpleEscape? : Char → Option Char
  | '"' => some '"'
  | '\\' => some '\\'
  | '/' => some '/'
  | 'b' => some '\x08'
  | 'f' => some '\x0c'
  | 'n' => some '\n'
  | 'r' => some '\r'
  | 't' => some '\t'
  | _ => none

/-- The number of four hexadecimal digits. -/
def hexUnit? (first second third fourth : Char) : Option Nat :=
  Text.numeralFrom Text.hexDigit? 16 0 [first, second, third, fourth]

/-- Reads the rest of a string after its opening quote. A surrogate counts only
in a pair. -/
def stringRest? : List Char → Option (List Char × List Char)
  | [] => none
  | '"' :: rest => some ([], rest)
  | '\\' :: 'u' :: first :: second :: third :: fourth :: rest =>
      match hexUnit? first second third fourth with
      | none => none
      | some unit =>
          if unit < 0xD800 ∨ 0xDFFF < unit then
            (stringRest? rest).map fun parts => (Char.ofNat unit :: parts.1, parts.2)
          else match rest with
            | '\\' :: 'u' :: fifth :: sixth :: seventh :: eighth :: afterPair =>
                match hexUnit? fifth sixth seventh eighth with
                | none => none
                | some low =>
                    if unit ≤ 0xDBFF ∧ 0xDC00 ≤ low ∧ low ≤ 0xDFFF then
                      let number := 0x10000 + (unit - 0xD800) * 0x400 + (low - 0xDC00)
                      (stringRest? afterPair).map fun parts =>
                        (Char.ofNat number :: parts.1, parts.2)
                    else none
            | _ => none
  | '\\' :: letter :: rest =>
      match simpleEscape? letter with
      | some character =>
          (stringRest? rest).map fun parts => (character :: parts.1, parts.2)
      | none => none
  | character :: rest =>
      if character.toNat < 0x20 then none
      else (stringRest? rest).map fun parts => (character :: parts.1, parts.2)

/-- The text without the white space that may stand between the parts of a
value. -/
def skipSpace (text : List Char) : List Char :=
  text.dropWhile fun character =>
    character == ' ' || character == '\n' || character == '\r' || character == '\t'

def afterWord? (word text : List Char) : Option (List Char) :=
  if text.take word.length = word then some (text.drop word.length) else none

/-- The members with one more at the end; an earlier member with its key takes
the value instead. -/
def setMember (key : String) (value : Json) : List (String × Json) → List (String × Json)
  | [] => [(key, value)]
  | (name, held) :: others =>
      if name = key then (name, value) :: others else (name, held) :: setMember key value others

mutual

/-- Reads a value. The first argument bounds the number of nested steps. -/
def value? : Nat → List Char → Option (Json × List Char)
  | 0, _ => none
  | steps + 1, text =>
      match skipSpace text with
      | [] => none
      | '"' :: rest =>
          (stringRest? rest).map fun parts => (.string (String.ofList parts.1), parts.2)
      | '[' :: rest =>
          match skipSpace rest with
          | ']' :: others => some (.array [], others)
          | others => (elements? steps others).map fun parts => (.array parts.1, parts.2)
      | '{' :: rest =>
          match skipSpace rest with
          | '}' :: others => some (.object [], others)
          | others => (members? steps [] others).map fun parts => (.object parts.1, parts.2)
      | character :: rest =>
          match afterWord? ['n', 'u', 'l', 'l'] (character :: rest) with
          | some others => some (.null, others)
          | none =>
              match afterWord? ['t', 'r', 'u', 'e'] (character :: rest) with
              | some others => some (.bool true, others)
              | none =>
                  match afterWord? ['f', 'a', 'l', 's', 'e'] (character :: rest) with
                  | some others => some (.bool false, others)
                  | none => number? (character :: rest)

/-- Reads the elements of an array up to its closing bracket. -/
def elements? : Nat → List Char → Option (List Json × List Char)
  | 0, _ => none
  | steps + 1, text =>
      match value? steps text with
      | none => none
      | some (element, rest) =>
          match skipSpace rest with
          | ']' :: others => some ([element], others)
          | ',' :: others =>
              (elements? steps others).map fun parts => (element :: parts.1, parts.2)
          | _ => none

/-- Reads the members of an object up to its closing brace, after those already
read. -/
def members? :
    Nat → List (String × Json) → List Char → Option (List (String × Json) × List Char)
  | 0, _, _ => none
  | steps + 1, earlier, text =>
      match skipSpace text with
      | '"' :: rest =>
          match stringRest? rest with
          | none => none
          | some (key, afterKey) =>
              match skipSpace afterKey with
              | ':' :: afterColon =>
                  match value? steps afterColon with
                  | none => none
                  | some (value, afterValue) =>
                      let members := setMember (String.ofList key) value earlier
                      match skipSpace afterValue with
                      | '}' :: others => some (members, others)
                      | ',' :: others => members? steps members others
                      | _ => none
              | _ => none
      | _ => none

end

def parse? (text : String) : Option Json :=
  let characters := text.toList
  match value? (characters.length + 1) characters with
  | some (value, rest) => if skipSpace rest = [] then some value else none
  | none => none

end LearnExport.Json
