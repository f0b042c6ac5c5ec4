import LearnExport.Number.Layout

/-!
# The characters of numbers

The text of a real number has digits, signs, a point and the mark of an exponent,
and nothing else; in a row it always has a point or an exponent.
-/

namespace LearnExport

def Text.isNumeric (character : Char) : Bool :=
  character.isDigit || ['.', '-', '+', 'e'].contains character

namespace Number

/-- Every character is one of a number's text. -/
def IsNumeric (text : List Char) : Prop :=
  ∀ character ∈ text, Text.isNumeric character = true

instance (text : List Char) : Decidable (IsNumeric text) :=
  List.decidableBAll (fun character => Text.isNumeric character = true) text

theorem isNumeric_append {first second : List Char} :
    IsNumeric (first ++ second) ↔ IsNumeric first ∧ IsNumeric second :=
  List.forall_mem_append

theorem isNumeric_cons {character : Char} {others : List Char} :
    IsNumeric (character :: others) ↔ Text.isNumeric character = true ∧ IsNumeric others :=
  List.forall_mem_cons

theorem IsNumeric.of_sublist {text part : List Char} (numeric : IsNumeric text)
    (sublist : part.Sublist text) : IsNumeric part :=
  fun character member => numeric character (sublist.mem member)

theorem isNumeric_decimal (number : Nat) : IsNumeric (Text.decimal number) := by
  intro character member
  have isDigit := Nat.isDigit_of_mem_toDigits (by decide) (by decide) member
  simp [Text.isNumeric, isDigit]

theorem isNumeric_integer (number : Int) : IsNumeric (Text.integer number) := by
  cases number with
  | ofNat number => exact isNumeric_decimal number
  | negSucc number => exact isNumeric_cons.mpr ⟨by decide, isNumeric_decimal (number + 1)⟩

theorem isNumeric_zeros (count : Nat) : IsNumeric (List.replicate count '0') := by
  intro character member
  rw [List.eq_of_mem_replicate member]
  decide

namespace Layout

variable {layout : Layout} {digits : List Char}

theorem isNumeric_positional (numeric : IsNumeric digits) (whole : Int) :
    IsNumeric (layout.positional digits whole) := by
  unfold positional
  split
  · refine isNumeric_append.mpr
      ⟨isNumeric_append.mpr ⟨numeric, isNumeric_zeros _⟩, ?_⟩
    split <;> decide
  · split
    · exact isNumeric_append.mpr ⟨numeric.of_sublist (List.take_sublist _ _),
        isNumeric_cons.mpr ⟨by decide, numeric.of_sublist (List.drop_sublist _ _)⟩⟩
    · exact isNumeric_append.mpr
        ⟨isNumeric_append.mpr ⟨by decide, isNumeric_zeros _⟩, numeric⟩

theorem isNumeric_scientific (numeric : IsNumeric digits) (leading : Int) :
    IsNumeric (scientific digits leading) := by
  unfold scientific
  refine isNumeric_append.mpr ⟨isNumeric_append.mpr ⟨isNumeric_append.mpr ⟨?_, ?_⟩, ?_⟩, ?_⟩
  · exact numeric.of_sublist (List.take_sublist _ _)
  · split
    · decide
    · exact isNumeric_cons.mpr ⟨by decide, numeric.of_sublist (List.drop_sublist _ _)⟩
  · split <;> decide
  · exact Number.isNumeric_decimal leading.natAbs

theorem isNumeric_decimal (layout : Layout) (number : Decimal) :
    IsNumeric (layout.decimal number) := by
  have numeric : IsNumeric
      (((Text.decimal number.digits).reverse.dropWhile (· == '0')).reverse) := by
    refine (Number.isNumeric_decimal number.digits).of_sublist ?_
    rw [← List.reverse_sublist, List.reverse_reverse]
    exact List.dropWhile_sublist _
  unfold decimal
  dsimp only
  split
  · exact isNumeric_positional numeric _
  · split
    · exact isNumeric_positional numeric _
    · exact isNumeric_scientific numeric _

theorem isNumeric_magnitude (layout : Layout) (pattern : Nat) :
    IsNumeric (layout.magnitude pattern) := by
  unfold magnitude
  split
  · exact isNumeric_positional (by decide) 1
  · exact layout.isNumeric_decimal _

/-- A real number is written with the characters of numbers alone. -/
theorem isNumeric_double (layout : Layout) {number : Binary64} (isReal : number.isFinite = true) :
    IsNumeric (layout.double number) := by
  unfold double
  dsimp only
  rw [if_pos isReal]
  refine isNumeric_append.mpr ⟨?_, layout.isNumeric_magnitude _⟩
  split <;> decide

theorem row_decimal_ne_nil (number : Decimal) : row.decimal number ≠ [] := by
  unfold decimal
  dsimp only [row]
  split
  · unfold positional
    split
    · simp
    · split <;> simp
  · simp [scientific]

theorem row_double_ne_nil (number : Binary64) : row.double number ≠ [] := by
  have magnitude_ne_nil (pattern : Nat) : row.magnitude pattern ≠ [] := by
    unfold magnitude
    split
    · decide
    · exact row_decimal_ne_nil _
  unfold double
  dsimp only
  split
  · simp [magnitude_ne_nil]
  · split <;> simp

end Layout

end Number

end LearnExport
