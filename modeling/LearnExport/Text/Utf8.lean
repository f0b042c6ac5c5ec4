/-!
# Reading bytes as UTF-8

Bytes from a request need not be UTF-8. Reading them yields the characters they
encode and, for every longest run of bytes that starts a character but does not
complete it, and for every other stray byte, one mark of malformed input. A
strict reader refuses on the first mark, a lenient one shows the replacement
character for each.
-/

namespace LearnExport.Text

/-- What the first byte of a character of several bytes promises: the bounds of
the second byte, how many bytes follow the second, and the bits the first byte
contributes. -/
structure LeadByte where
  leastSecond : UInt8
  greatestSecond : UInt8
  further : Nat
  bits : Nat

/-- The promise of a first byte outside ASCII, if it can start a character. The
bounds of the second byte leave out overlong forms, surrogates and numbers
beyond the last character. -/
def leadByte? (byte : UInt8) : Option LeadByte :=
  if 0xC2 ≤ byte ∧ byte ≤ 0xDF then some ⟨0x80, 0xBF, 0, byte.toNat - 0xC0⟩
  else if byte = 0xE0 then some ⟨0xA0, 0xBF, 1, 0⟩
  else if byte = 0xED then some ⟨0x80, 0x9F, 1, 0x0D⟩
  else if 0xE1 ≤ byte ∧ byte ≤ 0xEF then some ⟨0x80, 0xBF, 1, byte.toNat - 0xE0⟩
  else if byte = 0xF0 then some ⟨0x90, 0xBF, 2, 0⟩
  else if 0xF1 ≤ byte ∧ byte ≤ 0xF3 then some ⟨0x80, 0xBF, 2, byte.toNat - 0xF0⟩
  else if byte = 0xF4 then some ⟨0x80, 0x8F, 2, 4⟩
  else none

/-- The character number after one more continuation byte. -/
def continued (bits : Nat) (byte : UInt8) : Nat :=
  bits * 64 + (byte.toNat - 0x80)

def isContinuation (byte : UInt8) : Bool :=
  0x80 ≤ byte && byte ≤ 0xBF

/-- The characters that some bytes encode, with `none` for each malformed
stretch. -/
def decodeUtf8 : List UInt8 → List (Option Char)
  | [] => []
  | first :: rest =>
      if first < 0x80 then some (Char.ofNat first.toNat) :: decodeUtf8 rest
      else match leadByte? first with
        | none => none :: decodeUtf8 rest
        | some lead =>
            match rest with
            | [] => [none]
            | second :: afterSecond =>
                if lead.leastSecond ≤ second ∧ second ≤ lead.greatestSecond then
                  let bits := continued lead.bits second
                  if lead.further = 0 then some (Char.ofNat bits) :: decodeUtf8 afterSecond
                  else match afterSecond with
                    | [] => [none]
                    | third :: afterThird =>
                        if isContinuation third then
                          let bits := continued bits third
                          if lead.further = 1 then some (Char.ofNat bits) :: decodeUtf8 afterThird
                          else match afterThird with
                            | [] => [none]
                            | fourth :: afterFourth =>
                                if isContinuation fourth then
                                  some (Char.ofNat (continued bits fourth)) ::
                                    decodeUtf8 afterFourth
                                else none :: decodeUtf8 (fourth :: afterFourth)
                        else none :: decodeUtf8 (third :: afterThird)
                else none :: decodeUtf8 (second :: afterSecond)

/-- The text that some bytes encode, with a replacement character for each
malformed stretch. -/
def utf8Lenient (bytes : List UInt8) : List Char :=
  (decodeUtf8 bytes).map fun character? => character?.getD '\uFFFD'

/-- The text that some bytes encode, if all of them are well formed. -/
def utf8? (bytes : List UInt8) : Option (List Char) :=
  (decodeUtf8 bytes).mapM id

def utf8Bytes (text : List Char) : List UInt8 :=
  text.flatMap String.utf8EncodeChar

end LearnExport.Text
