import LearnExport.Format.Accept
import LearnExport.Proofs.Text.Spelling

/-!
# The ranges of a format

A media range covers a format just if, in lower case, it is one of three texts:
the format's media type, its type with any subtype, or any type. The first of
these describes the format most closely and the last one least.
-/

namespace LearnExport

namespace Format

/-- The type of a format's media type: what stands before the slash. -/
def kind (format : Format) : List Char :=
  format.mediaType.toList.takeWhile (· ≠ '/')

/-- The ranges that cover a format, the closest one first. -/
def ranges (format : Format) : List (List Char) :=
  [format.mediaType.toList, format.kind ++ ['/', '*'], ['*', '/', '*']]

theorem lowerCase_mediaType (format : Format) :
    Text.lowerCase format.mediaType.toList = format.mediaType.toList := by
  cases format <;> decide

theorem star_not_mem_mediaType (format : Format) : '*' ∉ format.mediaType.toList := by
  cases format <;> decide

theorem exists_splitAtFirst_mediaType (format : Format) :
    ∃ subtype, Text.splitAtFirst '/' format.mediaType.toList = some (format.kind, subtype) := by
  have found : (Text.splitAtFirst '/' format.mediaType.toList).map (·.1) = some format.kind := by
    cases format <;> decide
  obtain ⟨⟨own, subtype⟩, cut, rfl⟩ := Option.map_eq_some_iff.mp found
  exact ⟨subtype, cut⟩

theorem slash_not_mem_kind (format : Format) : '/' ∉ format.kind := by
  obtain ⟨subtype, cut⟩ := format.exists_splitAtFirst_mediaType
  exact (Text.splitAtFirst_eq_some_iff.mp cut).1

theorem lowerCase_kind (format : Format) : Text.lowerCase format.kind = format.kind := by
  obtain ⟨subtype, cut⟩ := format.exists_splitAtFirst_mediaType
  have lowered : Text.splitAtFirst '/' (Text.lowerCase format.mediaType.toList) = _ :=
    Text.splitAtFirst_lowerCase (by decide) _
  rw [format.lowerCase_mediaType, cut] at lowered
  exact (congrArg Prod.fst (Option.some.inj lowered)).symm

end Format

namespace Accept

def CoversFormat (range : List Char) (format : Format) : Prop :=
  Text.lowerCase range ∈ format.ranges

instance (range : List Char) (format : Format) : Decidable (CoversFormat range format) :=
  inferInstanceAs (Decidable (_ ∈ _))

private theorem covers_wildcard {kind : List Char} (whole : '/' ∉ kind) (format : Format) :
    covers (kind ++ ['/', '*']) format = true ↔ CoversFormat (kind ++ ['/', '*']) format := by
  obtain ⟨subtype, cut⟩ := format.exists_splitAtFirst_mediaType
  have notExact : Text.lowerCase kind ++ ['/', '*'] ≠ format.mediaType.toList := by
    intro same
    exact format.star_not_mem_mediaType (same ▸ by simp)
  have anyKind : Text.lowerCase kind = ['*'] ↔ kind = ['*'] := by
    simp [Text.lowerCase, List.map_eq_singleton_iff, Text.toLower_eq_iff]
  have lowered : Text.lowerCase (kind ++ ['/', '*']) = Text.lowerCase kind ++ ['/', '*'] := by
    simp [Text.lowerCase]
  have ownKind : Text.lowerCase kind ++ ['/', '*'] = format.kind ++ ['/', '*'] ↔
      Text.lowerCase kind = format.kind := List.append_left_inj _
  have everyKind : Text.lowerCase kind ++ ['/', '*'] = ['*', '/', '*'] ↔ kind = ['*'] := by
    rw [← anyKind]
    exact (List.append_left_inj ['/', '*'] : _ = ['*'] ++ ['/', '*'] ↔ _)
  simp only [covers, Text.splitAtFirst_append whole, cut, Bool.or_eq_true, beq_iff_eq,
    Text.sameIgnoringCase_iff, format.lowerCase_kind, CoversFormat, Format.ranges, lowered,
    List.mem_cons, List.not_mem_nil, or_false, notExact, false_or, ownKind, everyKind]
  rw [eq_comm (a := format.kind), or_comm]

private theorem covers_exact {range : List Char}
    (notWildcard : ∀ kind, Text.splitAtFirst '/' range ≠ some (kind, ['*'])) (format : Format) :
    covers range format = true ↔ CoversFormat range format := by
  have cut : covers range format = Text.sameIgnoringCase format.mediaType.toList range := by
    unfold covers
    split
    · rename_i kind found
      exact absurd found (notWildcard kind)
    · rfl
  -- Lower case keeps slashes and stars, so such a range would be one of any subtype.
  have notAny (kind : List Char) (whole : '/' ∉ kind) :
      Text.lowerCase range ≠ kind ++ ['/', '*'] := by
    intro same
    have cutLowered : Text.splitAtFirst '/' (Text.lowerCase range) = _ :=
      Text.splitAtFirst_lowerCase (by decide) range
    rw [same, Text.splitAtFirst_append whole, eq_comm, Option.map_eq_some_iff] at cutLowered
    obtain ⟨⟨own, rest⟩, found, samePair⟩ := cutLowered
    have restLowered : Text.lowerCase rest = ['*'] := congrArg Prod.snd samePair
    have isStar : rest = ['*'] := by
      simpa [Text.lowerCase, List.map_eq_singleton_iff, Text.toLower_eq_iff] using restLowered
    exact notWildcard own (isStar ▸ found)
  have notOwn := notAny format.kind format.slash_not_mem_kind
  have notEvery : Text.lowerCase range ≠ ['*', '/', '*'] := notAny ['*'] (by decide)
  rw [cut, Text.sameIgnoringCase_iff, format.lowerCase_mediaType, eq_comm]
  simp [CoversFormat, Format.ranges, notOwn, notEvery]

/-- A range covers a format if it is, in any case, one of the ranges of the
format. -/
theorem covers_iff (range : List Char) (format : Format) :
    covers range format = true ↔ CoversFormat range format := by
  by_cases wildcard : ∃ kind, Text.splitAtFirst '/' range = some (kind, ['*'])
  · obtain ⟨kind, cut⟩ := wildcard
    obtain ⟨whole, rfl⟩ := Text.splitAtFirst_eq_some_iff.mp cut
    exact covers_wildcard whole format
  · exact covers_exact (not_exists.mp wildcard) format

end Accept

end LearnExport
