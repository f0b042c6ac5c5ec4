import LearnExport.Text.Ascii
import LearnExport.Text.Pieces
import LearnExport.Text.Utf8

/-!
# Percent-encoded text and form queries

In a path segment `%` and two hexadecimal digits stand for one byte; a `%` that
is not followed by two such digits stands for itself. In a query, read as form
data, `+` also stands for a space, `&` separates the pairs and the first `=` of
a pair separates its key from its value.
-/

namespace LearnExport.Text

/-- The value of a byte read as a hexadecimal digit. -/
def hexByte? (byte : UInt8) : Option Nat :=
  hexDigit? (Char.ofNat byte.toNat)

/-- The bytes that percent-encoded bytes stand for. -/
def percentDecode : List UInt8 → List UInt8
  | [] => []
  | byte :: rest =>
      if byte = 0x25 then
        match rest with
        | high :: low :: others =>
            match hexByte? high, hexByte? low with
            | some highDigit, some lowDigit =>
                UInt8.ofNat (16 * highDigit + lowDigit) :: percentDecode others
            | _, _ => byte :: percentDecode (high :: low :: others)
        | [only] => byte :: percentDecode [only]
        | [] => [byte]
      else byte :: percentDecode rest

/-- The text of a percent-encoded path segment, if its bytes are well-formed
UTF-8. -/
def decodeSegment? (segment : List Char) : Option (List Char) :=
  utf8? (percentDecode (utf8Bytes segment))

/-- A key or a value of form data: plus signs are spaces, and malformed bytes
are shown by the replacement character. -/
def decodeFormText (text : List Char) : List Char :=
  let spaced := text.map fun character => if character = '+' then ' ' else character
  utf8Lenient (percentDecode (utf8Bytes spaced))

/-- One pair of form data. A pair without `=` is a key with an empty value. -/
def formPair (piece : List Char) : List Char × List Char :=
  match splitAtFirst '=' piece with
  | some (key, value) => (decodeFormText key, decodeFormText value)
  | none => (decodeFormText piece, [])

/-- The pairs of a query read as form data, in order; empty pieces between `&`
are skipped. -/
def formPairs (query : List Char) : List (List Char × List Char) :=
  ((pieces '&' query).filter fun piece => !piece.isEmpty).map formPair

end LearnExport.Text
