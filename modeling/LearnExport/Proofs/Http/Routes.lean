import LearnExport.Http.Answer
import LearnExport.Http.Route
import LearnExport.Proofs.Number.NumberText
import LearnExport.Proofs.Text.Numerals
import LearnExport.Proofs.Text.PercentDecoding
import LearnExport.Proofs.Text.Spelling

/-!
# The paths of an entity

Each entity has two kinds of paths, that of its listing and those of its records,
and every such path leads to the entity itself. The id of a record, in decimal, is
a segment that stands for this id.
-/

namespace LearnExport

namespace Http

/-- The path of the records of an entity with the id that a segment stands
for. -/
def retrievalPath (entity : Entity) (segment : List Char) : List Char :=
  (listingPath entity).toList ++ segment ++ ['/']

namespace Route

theorem pieces_listingPath (entity : Entity) (rest : List Char) :
    Text.pieces '/' ((listingPath entity).toList ++ rest) =
      [] :: entity.path.toList :: Text.pieces '/' rest := by
  have path : (listingPath entity).toList ++ rest =
      [] ++ '/' :: (entity.path.toList ++ '/' :: rest) := by
    simp [listingPath]
  have whole : '/' ∉ entity.path.toList := by
    cases entity <;> decide
  rw [path, Text.pieces_append _ List.not_mem_nil, Text.pieces_append _ whole]

theorem ofPath?_listingPath (entity : Entity) :
    ofPath? (listingPath entity).toList = some (listing entity) := by
  have split := pieces_listingPath entity []
  rw [List.append_nil] at split
  rw [ofPath?, split]
  cases entity <;> decide

theorem ofPath?_retrievalPath (entity : Entity) {segment : List Char} (whole : '/' ∉ segment) :
    ofPath? (retrievalPath entity segment) = some (retrieval entity segment) := by
  have split : Text.pieces '/' (retrievalPath entity segment) =
      [[], entity.path.toList, segment, []] := by
    rw [retrievalPath, List.append_assoc, pieces_listingPath, Text.pieces_append _ whole]
    rfl
  rw [ofPath?, split]
  cases entity <;> simp [Entity.path] <;> rfl

end Route

/-- The digits of a number are read as this number, as it has no sign. -/
private theorem readId?_decimal {number : Nat} (inRange : number ≤ Int64.maxValue.toInt) :
    readId? (Text.decimal number) = some (.ofInt number) := by
  have isNumeral := Text.numeral?_decimal number
  cases digits : Text.decimal number with
  | nil => exact absurd digits (Text.decimal_ne_nil number)
  | cons first others =>
      have isDigit : first.isDigit = true :=
        Text.isDigit_of_mem_decimal (digits ▸ List.mem_cons_self)
      have notMinus : first ≠ '-' := by
        rintro rfl
        exact absurd isDigit (by decide)
      have notPlus : first ≠ '+' := by
        rintro rfl
        exact absurd isDigit (by decide)
      rw [digits] at isNumeral
      simp [readId?, notMinus, notPlus, isNumeral, inRange]

theorem readId?_integer (id : Int64) : readId? (Text.integer id.toInt) = some id := by
  cases number : id.toInt with
  | ofNat magnitude =>
      have atMost := id.toInt_le
      rw [number] at atMost
      rw [Text.integer, readId?_decimal atMost, ← Int.ofNat_eq_natCast, ← number,
        Int64.ofInt_toInt]
  | negSucc magnitude =>
      have negated : -((magnitude + 1 : Nat) : Int) = id.toInt := number.symm
      have isNumeral := Text.numeral?_decimal (magnitude + 1)
      unfold Text.integer readId?
      simp only [isNumeral, Option.bind_eq_bind, Option.pure_def, Option.bind_some,
        Option.map_some, negated]
      rw [if_pos ⟨id.minValue_le_toInt, id.toInt_le⟩, Int64.ofInt_toInt]

/-- Every id can be asked for by its decimal text. -/
theorem segmentId?_integer (id : Int64) : segmentId? (Text.integer id.toInt) = some id := by
  have noPercent : '%' ∉ Text.integer id.toInt := fun member =>
    absurd (Number.isNumeric_integer _ '%' member) (by decide)
  rw [segmentId?, Text.decodeSegment?_of_not_mem noPercent, Option.bind_some, readId?_integer]

end Http

end LearnExport
