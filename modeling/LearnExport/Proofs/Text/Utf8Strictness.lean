import LearnExport.Proofs.Text.Utf8RoundTrip
import Mathlib.Tactic.SplitIfs

/-!
# Only UTF-8 is read strictly

Whatever bytes are taken for a character are the bytes that this character is written
as: the bounds that the first byte sets for the second leave out overlong forms,
surrogates and numbers beyond the last character. So the strict reader accepts
nothing but the bytes of a text, and it reads this text.
-/

namespace LearnExport.Text

/-- That a byte adds six bits to the number of a character. -/
def Adds (byte : UInt8) (bits : Nat) : Prop :=
  byte.toNat = bits + 128 ∧ bits < 64

theorem Adds.continued_eq {byte : UInt8} {bits : Nat} (adds : Adds byte bits) (before : Nat) :
    continued before byte = before * 64 + bits :=
  congrArg (before * 64 + ·) (Nat.sub_eq_of_eq_add adds.1)

theorem exists_adds {byte : UInt8} (continues : isContinuation byte = true) :
    ∃ bits, Adds byte bits := by
  simp only [isContinuation, UInt8.le_iff_toNat_le, UInt8.reduceToNat, Bool.and_eq_true,
    decide_eq_true_eq] at continues
  exact ⟨byte.toNat - 128, by omega, by omega⟩

/-- What the first byte says about the number of the character, together with a second within
its bounds. -/
theorem exists_adds_of_leadByte? {first second least greatest : UInt8} {further bits : Nat}
    (isLead : leadByte? first = some ⟨least, greatest, further, bits⟩)
    (inRange : least ≤ second ∧ second ≤ greatest) :
    ∃ added, Adds second added ∧
      (further = 0 ∧ first.toNat = bits + 192 ∧ 2 ≤ bits ∧ bits < 32 ∨
        further = 1 ∧ first.toNat = bits + 224 ∧ bits < 16 ∧ 32 ≤ bits * 64 + added ∧
          (bits * 64 + added < 864 ∨ 896 ≤ bits * 64 + added) ∨
        further = 2 ∧ first.toNat = bits + 240 ∧ 16 ≤ bits * 64 + added ∧
          bits * 64 + added < 272) := by
  simp only [leadByte?, UInt8.le_iff_toNat_le, ← UInt8.toNat_inj, UInt8.reduceToNat] at isLead
  simp only [UInt8.le_iff_toNat_le] at inRange
  unfold Adds
  split_ifs at isLead
  all_goals
    obtain ⟨rfl, rfl, rfl, rfl⟩ := LeadByte.mk.inj (Option.some.inj isLead)
    simp only [UInt8.reduceToNat] at inRange
    refine ⟨second.toNat - 128, ?_⟩
    omega

section Encoding

variable {first second third fourth : UInt8} {bits added more last : Nat}

theorem val_ofNat {number : Nat} (isCharacter : number.isValidChar) :
    (Char.ofNat number).val.toNat = number := by
  rw [Char.ofNat, dif_pos isCharacter]
  rfl

theorem eq_byte {byte : UInt8} {number : Nat} (isNumber : byte.toNat = number) :
    UInt8.ofNat number = byte := by
  rw [← isNumber, UInt8.ofNat_toNat]

theorem utf8EncodeChar_two (isFirst : first.toNat = bits + 192) (notShort : 2 ≤ bits)
    (small : bits < 32) (isSecond : Adds second added) :
    String.utf8EncodeChar (Char.ofNat (bits * 64 + added)) = [first, second] := by
  obtain ⟨isSecond, fits⟩ := isSecond
  have isCharacter : (bits * 64 + added).isValidChar := .inl (by omega)
  have high : (bits * 64 + added) / 64 % 32 + 192 = bits + 192 := by omega
  have low : (bits * 64 + added) % 64 + 128 = added + 128 := by omega
  simp only [String.utf8EncodeChar, val_ofNat isCharacter]
  rw [if_neg (by omega), if_pos (by omega), high, low, eq_byte isFirst, eq_byte isSecond]

theorem utf8EncodeChar_three (isFirst : first.toNat = bits + 224) (small : bits < 16)
    (notShort : 32 ≤ bits * 64 + added)
    (noSurrogate : bits * 64 + added < 864 ∨ 896 ≤ bits * 64 + added)
    (isSecond : Adds second added) (isThird : Adds third more) :
    String.utf8EncodeChar (Char.ofNat ((bits * 64 + added) * 64 + more)) =
      [first, second, third] := by
  obtain ⟨isSecond, fits⟩ := isSecond
  obtain ⟨isThird, alsoFits⟩ := isThird
  have isCharacter : ((bits * 64 + added) * 64 + more).isValidChar := by
    unfold Nat.isValidChar
    omega
  have high : ((bits * 64 + added) * 64 + more) / 4096 % 16 + 224 = bits + 224 := by omega
  have middle : ((bits * 64 + added) * 64 + more) / 64 % 64 + 128 = added + 128 := by omega
  have low : ((bits * 64 + added) * 64 + more) % 64 + 128 = more + 128 := by omega
  simp only [String.utf8EncodeChar, val_ofNat isCharacter]
  rw [if_neg (by omega), if_neg (by omega), if_pos (by omega), high, middle, low,
    eq_byte isFirst, eq_byte isSecond, eq_byte isThird]

theorem utf8EncodeChar_four (isFirst : first.toNat = bits + 240)
    (notShort : 16 ≤ bits * 64 + added) (isLimited : bits * 64 + added < 272)
    (isSecond : Adds second added) (isThird : Adds third more) (isFourth : Adds fourth last) :
    String.utf8EncodeChar (Char.ofNat (((bits * 64 + added) * 64 + more) * 64 + last)) =
      [first, second, third, fourth] := by
  obtain ⟨isSecond, fits⟩ := isSecond
  obtain ⟨isThird, alsoFits⟩ := isThird
  obtain ⟨isFourth, fitsToo⟩ := isFourth
  generalize isNumber : ((bits * 64 + added) * 64 + more) * 64 + last = number
  have isCharacter : number.isValidChar := by
    unfold Nat.isValidChar
    omega
  have high : number / 262144 % 8 + 240 = bits + 240 := by omega
  have middle : number / 4096 % 64 + 128 = added + 128 := by omega
  have lower : number / 64 % 64 + 128 = more + 128 := by omega
  have low : number % 64 + 128 = last + 128 := by omega
  simp only [String.utf8EncodeChar, val_ofNat isCharacter]
  rw [if_neg (by omega), if_neg (by omega), if_neg (by omega), high, middle, lower, low,
    eq_byte isFirst, eq_byte isSecond, eq_byte isThird, eq_byte isFourth]

end Encoding

section Characters

variable {first : UInt8} {rest : List UInt8} {character : Char} {others : List (Option Char)}

theorem exists_append_of_ascii (isAscii : first < 0x80)
    (decoded : decodeUtf8 (first :: rest) = some character :: others) :
    ∃ following, first :: rest = String.utf8EncodeChar character ++ following ∧
      decodeUtf8 following = others := by
  rw [decodeUtf8, if_pos isAscii] at decoded
  obtain ⟨isCharacter, isRest⟩ := List.cons.inj decoded
  have small : first.toNat < 0x80 := UInt8.lt_iff_toNat_lt.mp isAscii
  have number : (Char.ofNat first.toNat).toNat = first.toNat := val_ofNat (.inl (by omega))
  refine ⟨rest, ?_, isRest⟩
  rw [← Option.some.inj isCharacter, utf8EncodeChar_of_lt (number.trans_lt small), number,
    UInt8.ofNat_toNat, List.singleton_append]

theorem exists_append_of_leadByte? {least greatest : UInt8} {further bits : Nat}
    (notAscii : ¬ first < 0x80)
    (isLead : leadByte? first = some ⟨least, greatest, further, bits⟩)
    (decoded : decodeUtf8 (first :: rest) = some character :: others) :
    ∃ following, first :: rest = String.utf8EncodeChar character ++ following ∧
      decodeUtf8 following = others := by
  rw [decodeUtf8, if_neg notAscii] at decoded
  simp only [isLead] at decoded
  cases rest with
  | nil => simp at decoded
  | cons second afterSecond =>
  by_cases inRange : least ≤ second ∧ second ≤ greatest
  case neg => simp [inRange] at decoded
  obtain ⟨added, isSecond, two | three | four⟩ := exists_adds_of_leadByte? isLead inRange
  · obtain ⟨rfl, isFirst, notShort, small⟩ := two
    simp only [if_pos inRange, if_true, isSecond.continued_eq] at decoded
    obtain ⟨isCharacter, isRest⟩ := List.cons.inj decoded
    refine ⟨afterSecond, ?_, isRest⟩
    rw [← Option.some.inj isCharacter, utf8EncodeChar_two isFirst notShort small isSecond]
    rfl
  · obtain ⟨rfl, isFirst, small, notShort, noSurrogate⟩ := three
    cases afterSecond with
    | nil => simp [inRange] at decoded
    | cons third afterThird =>
    by_cases continues : isContinuation third = true
    case neg => simp [inRange, continues] at decoded
    obtain ⟨more, isThird⟩ := exists_adds continues
    simp only [if_pos inRange, if_pos continues, one_ne_zero, if_true, if_false,
      isSecond.continued_eq, isThird.continued_eq] at decoded
    obtain ⟨isCharacter, isRest⟩ := List.cons.inj decoded
    refine ⟨afterThird, ?_, isRest⟩
    rw [← Option.some.inj isCharacter,
      utf8EncodeChar_three isFirst small notShort noSurrogate isSecond isThird]
    rfl
  · obtain ⟨rfl, isFirst, notShort, isLimited⟩ := four
    cases afterSecond with
    | nil => simp [inRange] at decoded
    | cons third afterThird =>
    by_cases continues : isContinuation third = true
    case neg => simp [inRange, continues] at decoded
    obtain ⟨more, isThird⟩ := exists_adds continues
    cases afterThird with
    | nil => simp [inRange, continues] at decoded
    | cons fourth afterFourth =>
    by_cases ends : isContinuation fourth = true
    case neg => simp [inRange, continues, ends] at decoded
    obtain ⟨last, isFourth⟩ := exists_adds ends
    simp only [if_pos inRange, if_pos continues, if_pos ends, OfNat.ofNat_ne_zero,
      OfNat.ofNat_ne_one, if_false, isSecond.continued_eq, isThird.continued_eq,
      isFourth.continued_eq] at decoded
    obtain ⟨isCharacter, isRest⟩ := List.cons.inj decoded
    refine ⟨afterFourth, ?_, isRest⟩
    rw [← Option.some.inj isCharacter,
      utf8EncodeChar_four isFirst notShort isLimited isSecond isThird isFourth]
    rfl

end Characters

/-- What is read as a character begins with the bytes of this character. -/
theorem exists_append_of_decodeUtf8 {bytes : List UInt8} {character : Char}
    {others : List (Option Char)} (decoded : decodeUtf8 bytes = some character :: others) :
    ∃ rest, bytes = String.utf8EncodeChar character ++ rest ∧ decodeUtf8 rest = others := by
  cases bytes with
  | nil => simp [decodeUtf8] at decoded
  | cons first rest =>
      by_cases isAscii : first < 0x80
      · exact exists_append_of_ascii isAscii decoded
      cases isLead : leadByte? first with
      | none => simp [decodeUtf8, isAscii, isLead] at decoded
      | some lead => exact exists_append_of_leadByte? isAscii isLead decoded

theorem decodeUtf8_ne_nil (first : UInt8) (rest : List UInt8) :
    decodeUtf8 (first :: rest) ≠ [] := by
  rw [decodeUtf8]
  grind

theorem eq_utf8Bytes_of_decodeUtf8 {bytes : List UInt8} {text : List Char}
    (decoded : decodeUtf8 bytes = text.map some) : bytes = utf8Bytes text := by
  induction text generalizing bytes with
  | nil =>
      cases bytes with
      | nil => rfl
      | cons first rest => exact absurd decoded (decodeUtf8_ne_nil first rest)
  | cons character others ih =>
      obtain ⟨rest, joined, isRest⟩ := exists_append_of_decodeUtf8 decoded
      rw [joined, ih isRest, utf8Bytes, utf8Bytes, List.flatMap_cons]

theorem eq_map_some_of_mapM {α : Type} {marked : List (Option α)} {values : List α}
    (unmarked : marked.mapM id = some values) : marked = values.map some := by
  induction marked generalizing values with
  | nil =>
      rw [← Option.some.inj unmarked]
      rfl
  | cons mark others ih =>
      simp only [List.mapM_cons, id_eq] at unmarked
      obtain ⟨value, isValue, rest⟩ := Option.bind_eq_some_iff.mp unmarked
      obtain ⟨more, areMore, joined⟩ := Option.bind_eq_some_iff.mp rest
      rw [← Option.some.inj joined, List.map_cons, isValue, ih areMore]

/-- The strict reader accepts the bytes of a text and nothing else. -/
theorem utf8?_eq_some_iff {bytes : List UInt8} {text : List Char} :
    utf8? bytes = some text ↔ bytes = utf8Bytes text := by
  refine ⟨fun isText => ?_, fun same => same ▸ utf8?_utf8Bytes text⟩
  exact eq_utf8Bytes_of_decodeUtf8 (eq_map_some_of_mapM isText)

end LearnExport.Text
