import LearnExport.Text.Ascii
import LearnExport.Text.Pieces

/-!
# Ranges of bytes

A request may ask for parts of a file: `bytes=` and a list of ranges, each given
by its first and its last byte, by its first byte alone or by the number of
bytes at the end. A last byte beyond the end of the file means the end; all
other ranges that leave the file, and ranges that share a byte, are refused.
-/

namespace LearnExport.Media

/-- A part of a file: its first and its last byte. -/
structure ByteRange where
  first : Nat
  last : Nat
deriving DecidableEq, Repr

namespace ByteRange

/-- Reads the number of a byte: decimal digits of a number of 64 bits without
needless zeros. -/
def position? (text : List Char) : Option Nat :=
  (Text.numeral? text).filter fun number =>
    number ≤ 0xFFFFFFFFFFFFFFFF && text == Text.decimal number

/-- Reads a range of a file of a given size. -/
def ofText? (size : Nat) (text : List Char) : Option ByteRange :=
  match Text.splitAtFirst '-' text with
  | none => none
  | some ([], count) => (position? count).map fun count => ⟨size - count, size - 1⟩
  | some (first, []) => (position? first).map fun first => ⟨first, size - 1⟩
  | some (first, last) => do
      let first ← position? first
      let last ← position? last
      return ⟨first, min last (size - 1)⟩

def isOrdered (range : ByteRange) : Bool :=
  range.first ≤ range.last

def overlaps (one other : ByteRange) : Bool :=
  one.first ≤ other.last && other.first ≤ one.last

def areDisjoint : List ByteRange → Bool
  | [] => true
  | range :: others => others.all (!range.overlaps ·) && areDisjoint others

/-- The items of a list of ranges; an item after the first may follow a space. -/
def items (text : List Char) : List (List Char) :=
  match Text.pieces ',' text with
  | [] => []
  | first :: others =>
      first :: others.map fun item => if item.head? = some ' ' then item.tail else item

/-- Reads the ranges that a request asks for of a file of a given size. -/
def list? (size : Nat) (header : List Char) : Option (List ByteRange) :=
  match header with
  | 'b' :: 'y' :: 't' :: 'e' :: 's' :: '=' :: text =>
      ((items text).mapM (ofText? size)).filter fun ranges =>
        ranges.all isOrdered && areDisjoint ranges
  | _ => none

/-- The bytes of a file that lie in a range. -/
def select (range : ByteRange) (contents : List UInt8) : List UInt8 :=
  (contents.take (range.last + 1)).drop range.first

end ByteRange

end LearnExport.Media
