import LearnExport.Config.Basic
import LearnExport.Proofs.Text.SignedNumerals
import LearnExport.Proofs.Text.Spelling

/-!
# What the texts of variables denote

A count is a numeral that may have a plus sign, of any length, as long as the
number it denotes is within the limit; white space around it is not allowed. A
switch is one of eight words in any case, and white space around it counts for
nothing. The location of the archive is a text that can be a header.
-/

namespace LearnExport

section Counts

variable {limit value number : Nat} {text : List Char}

theorem le_of_numeralFrom (read : Text.numeralFrom Text.digit? 10 value text = some number) :
    value ≤ number := by
  induction text generalizing value with
  | nil => exact (Option.some.inj read).le
  | cons character others ih =>
      cases isDigit : Text.digit? character with
      | none => simp [Text.numeralFrom, isDigit] at read
      | some digit =>
          simp only [Text.numeralFrom, isDigit] at read
          have grown := ih read
          omega

/-- The limit is checked at every digit, which comes to the same as checking the number:
further digits never make it smaller. -/
theorem countFrom_eq_ok_iff (within : value ≤ limit) :
    countFrom limit value text = .ok number ↔
      Text.numeralFrom Text.digit? 10 value text = some number ∧ number ≤ limit := by
  induction text generalizing value with
  | nil =>
      simp only [countFrom, Text.numeralFrom, Except.ok.injEq, Option.some.injEq]
      exact ⟨fun same => ⟨same, same ▸ within⟩, And.left⟩
  | cons character others ih =>
      cases isDigit : Text.digit? character with
      | none => simp [countFrom, Text.numeralFrom, isDigit]
      | some digit =>
          simp only [countFrom, Text.numeralFrom, isDigit]
          by_cases tooLarge : limit < 10 * value + digit
          · rw [if_pos tooLarge]
            refine ⟨fun fails => absurd fails (by simp), ?_⟩
            rintro ⟨read, within⟩
            have grown := le_of_numeralFrom read
            omega
          · rw [if_neg tooLarge]
            exact ih (Nat.le_of_not_lt tooLarge)

theorem countFrom_zero_eq_ok_iff {character : Char} :
    countFrom limit 0 (character :: text) = .ok number ↔
      Text.IsNumeral (character :: text) number ∧ number ≤ limit := by
  rw [countFrom_eq_ok_iff (Nat.zero_le limit), ← Text.numeral?_eq_some_iff]
  rfl

theorem readCount_eq_ok_iff :
    readCount limit text = .ok number ↔ number ≤ limit ∧ Text.IsCount text number := by
  constructor
  · intro read
    unfold readCount at read
    split at read
    · exact absurd read (by simp)
    · obtain ⟨isNumeral, within⟩ := countFrom_zero_eq_ok_iff.mp read
      exact ⟨within, .plus isNumeral⟩
    · rename_i notEmpty _
      obtain ⟨first, others, rfl⟩ := List.exists_cons_of_ne_nil notEmpty
      obtain ⟨isNumeral, within⟩ := countFrom_zero_eq_ok_iff.mp read
      exact ⟨within, .unsigned isNumeral⟩
  · rintro ⟨within, isCount⟩
    cases isCount with
    | plus isNumeral =>
        obtain ⟨first, others, rfl, _⟩ := isNumeral.exists_cons
        exact countFrom_zero_eq_ok_iff.mpr ⟨isNumeral, within⟩
    | unsigned isNumeral =>
        obtain ⟨first, others, rfl, _⟩ := isNumeral.exists_cons
        unfold readCount
        split
        · rename_i isEmpty
          exact absurd isEmpty (by simp)
        · rename_i isPlus
          obtain ⟨rfl, rfl⟩ := List.cons.inj isPlus
          exact absurd isNumeral (Text.IsNumeral.ne_cons (by decide))
        · exact countFrom_zero_eq_ok_iff.mpr ⟨isNumeral, within⟩

end Counts

section Switches

/-- The words that turn a switch on or off. -/
def switchWords : Bool → List String
  | true => ["1", "true", "yes", "on"]
  | false => ["0", "false", "no", "off"]

/-- That a text turns a switch on or off: a word in letters of any case, with white space
around. -/
def IsSwitch (text : List Char) (isOn : Bool) : Prop :=
  ∃ start word stop, text = start ++ word ++ stop ∧
    (∀ character ∈ start, Text.isBlank character = true) ∧
    (∀ character ∈ stop, Text.isBlank character = true) ∧
    String.ofList (Text.lowerCase word) ∈ switchWords isOn

variable {text : List Char} {isOn : Bool}

theorem trim_of_mem_switchWords {word : List Char}
    (isWord : String.ofList word ∈ switchWords isOn) : Text.trim word = word := by
  have trimmed : ∀ isOn, ∀ other ∈ switchWords isOn, Text.trim other.toList = other.toList := by
    decide
  simpa using trimmed isOn (String.ofList word) isWord

theorem readSwitch?_eq_some_iff_mem :
    readSwitch? text = some isOn ↔
      String.ofList (Text.lowerCase (Text.trim text)) ∈ switchWords isOn := by
  have disjoint : ∀ word ∈ switchWords true, word ∉ switchWords false := by decide
  have isTrue (word : String) : ["1", "true", "yes", "on"].contains word = true ↔
      word ∈ switchWords true := List.contains_iff_mem
  have isFalse (word : String) : ["0", "false", "no", "off"].contains word = true ↔
      word ∈ switchWords false := List.contains_iff_mem
  unfold readSwitch?
  simp only [isTrue, isFalse]
  split_ifs with turnsOn turnsOff
  · cases isOn with
    | true => simpa using turnsOn
    | false => simpa using disjoint _ turnsOn
  · cases isOn with
    | true => simpa using turnsOn
    | false => simpa using turnsOff
  · cases isOn with
    | true => simpa using turnsOn
    | false => simpa using turnsOff

theorem readSwitch?_eq_some_iff : readSwitch? text = some isOn ↔ IsSwitch text isOn := by
  rw [readSwitch?_eq_some_iff_mem]
  constructor
  · intro isWord
    obtain ⟨start, stop, whole, startBlank, stopBlank⟩ := Text.exists_eq_append_trim text
    exact ⟨start, Text.trim text, stop, whole, startBlank, stopBlank, isWord⟩
  · rintro ⟨start, word, stop, rfl, startBlank, stopBlank, isWord⟩
    rw [Text.trim_append startBlank stopBlank, ← Text.trim_lowerCase,
      trim_of_mem_switchWords isWord]
    exact isWord

end Switches

/-- That a character can stand in a header: a tab, a space, a visible character of ASCII or
any character beyond ASCII. -/
def Text.IsHeaderCharacter (character : Char) : Prop :=
  character = '\t' ∨ (0x20 ≤ character.toNat ∧ character.toNat ≤ 0x7E) ∨ 0x80 ≤ character.toNat

/-- That a text can be the location of the archive. -/
def IsLocation (text : String) : Prop :=
  text ≠ "" ∧ ∀ character ∈ text.toList, Text.IsHeaderCharacter character

theorem Text.isHeaderValue_iff {text : String} :
    isHeaderValue text = true ↔ ∀ character ∈ text.toList, IsHeaderCharacter character := by
  rw [isHeaderValue, List.all_eq_true]
  refine forall_congr' fun character => imp_congr_right fun _ => ?_
  have space : ' ' ≤ character ↔ 0x20 ≤ character.toNat := Iff.rfl
  have delete : character = '\x7f' ↔ character.toNat = 0x7F := Char.toNat_inj.symm
  simp only [IsHeaderCharacter, Bool.or_eq_true, Bool.and_eq_true, decide_eq_true_eq, beq_iff_eq,
    bne_iff_ne, ne_eq, space, delete]
  exact or_congr_right (by omega)

theorem isUsableLocation_iff {text : String} :
    Config.isUsableLocation text = true ↔ IsLocation text := by
  rw [Config.isUsableLocation, Bool.and_eq_true, Text.isHeaderValue_iff, IsLocation]
  simp

end LearnExport
