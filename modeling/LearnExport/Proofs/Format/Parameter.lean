import LearnExport.Http.Service
import LearnExport.Proofs.Text.FormEncoding
import Mathlib.Data.List.DropRight

/-!
# The format parameter decides alone

A request names its format in the pairs of its query. How the pairs are encoded
makes no difference, and neither do the other pairs; the key is compared after it
has been decoded. A request with one such pair never depends on its `Accept`
headers, and a request with none depends on the first of them alone.
-/

namespace LearnExport

namespace Text

theorem trim_eq_nil_iff {text : List Char} :
    trim text = [] ↔ ∀ character ∈ text, isBlank character = true := by
  rw [trim, trimEnd, List.reverse_eq_nil_iff, List.dropWhile_eq_nil_iff]
  simp only [List.mem_reverse]
  refine ⟨fun blank => List.dropWhile_eq_nil_iff.mp ?_, fun blank character member => ?_⟩
  · rw [← List.dropWhile_idempotent, List.dropWhile_eq_nil_iff]
    exact blank
  · exact blank character (List.dropWhile_subset isBlank member)

end Text

namespace Format

theorem ofName?_eq_some_iff {name : List Char} {format : Format} :
    ofName? name = some format ↔ Text.lowerCase name = format.name.toList := by
  have lower (format : Format) : Text.lowerCase format.name.toList = format.name.toList := by
    cases format <;> rfl
  constructor
  · intro found
    have same := List.find?_some found
    rw [Text.sameIgnoringCase_iff, lower] at same
    exact same.symm
  · intro isName
    simp only [ofName?, Text.sameIgnoringCase, isName]
    cases format <;> rfl

theorem ofParameter_of_blank {value : List Char}
    (blank : ∀ character ∈ value, Text.isBlank character = true) :
    ofParameter value = .error (.badRequest .emptyFormat) := by
  simp [ofParameter, Text.trim_eq_nil_iff.mpr blank]

theorem ofParameter_of_name {value : List Char} {format : Format}
    (isName : Text.lowerCase (Text.trim value) = format.name.toList) :
    ofParameter value = .ok format := by
  have notEmpty : Text.trim value ≠ [] := by
    intro empty
    rw [empty] at isName
    cases format <;> contradiction
  simp [ofParameter, notEmpty, ofName?_eq_some_iff.mpr isName]

theorem ofParameter_of_unknown {value : List Char}
    (notBlank : ∃ character ∈ value, Text.isBlank character = false)
    (unknown : ∀ format : Format, Text.lowerCase (Text.trim value) ≠ format.name.toList) :
    ofParameter value = .error (.notAcceptable (String.ofList value)) := by
  have notEmpty : Text.trim value ≠ [] := by
    intro empty
    obtain ⟨character, member, isText⟩ := notBlank
    simpa [isText] using Text.trim_eq_nil_iff.mp empty character member
  have notFound : ofName? (Text.trim value) = none :=
    Option.eq_none_iff_forall_ne_some.mpr fun format found =>
      unknown format (ofName?_eq_some_iff.mp found)
  simp [ofParameter, notEmpty, notFound]

end Format

/-- The values of the parameter `format`. -/
def formatValues (pairs : List (List Char × List Char)) : List (List Char) :=
  (pairs.filter fun pair => pair.1 == "format".toList).map (·.2)

theorem formatParameter_of_encodes {pairs : List (List Char × List Char)} {query : List Char}
    (encodes : Text.EncodesForm pairs query) :
    formatParameter query = match formatValues pairs with
      | [] => .ok none
      | [value] => .ok (some value)
      | _ => .error .repeatedFormat := by
  rw [formatParameter, encodes.formPairs_eq, formatValues]
  generalize pairs.filter _ = found
  match found with
  | [] => rfl
  | [pair] => rfl
  | first :: second :: others => rfl

namespace Http.Service

/-- What the pairs of a query and the first `Accept` header say about the format. -/
structure ChoosesFormat (pairs : List (List Char × List Char)) (accept : Option String)
    (outcome : Except ApiError Format) : Prop where
  blank : ∀ value, formatValues pairs = [value] →
    (∀ character ∈ value, Text.isBlank character = true) →
    outcome = .error (.badRequest .emptyFormat)
  named : ∀ value (format : Format), formatValues pairs = [value] →
    Text.lowerCase (Text.trim value) = format.name.toList → outcome = .ok format
  unknown : ∀ value, formatValues pairs = [value] →
    (∃ character ∈ value, Text.isBlank character = false) →
    (∀ format : Format, Text.lowerCase (Text.trim value) ≠ format.name.toList) →
    outcome = .error (.notAcceptable (String.ofList value))
  repeated : 2 ≤ (formatValues pairs).length → outcome = .error (.badRequest .repeatedFormat)
  noHeader : formatValues pairs = [] → accept = none → outcome = .ok .csv
  header : ∀ header, formatValues pairs = [] → accept = some header →
    Text.isHeaderText header = true → outcome = Accept.negotiate header.toList
  notText : ∀ header, formatValues pairs = [] → accept = some header →
    Text.isHeaderText header = false → outcome = .error (.badRequest .acceptNotText)

/-- The format of a request is chosen by the pairs that its query encodes, however it does, and
by its first `Accept` header only if none of the keys is `format`. -/
theorem format_parameter_decides {request : Request} {pairs : List (List Char × List Char)}
    (encodes : Text.EncodesForm pairs (request.target.query.getD [])) :
    ChoosesFormat pairs (request.header? "accept") (formatOf request) := by
  have parameter := formatParameter_of_encodes encodes
  have one {value : List Char} (isOne : formatValues pairs = [value]) :
      formatOf request = Format.ofParameter value := by
    rw [formatOf, Format.negotiate, parameter, isOne]
  have none (isNone : formatValues pairs = []) :
      formatOf request = Format.ofAccept (request.header? "accept") := by
    rw [formatOf, Format.negotiate, parameter, isNone]
  exact
    { blank := fun value isOne blank => (one isOne).trans (Format.ofParameter_of_blank blank)
      named := fun value format isOne isName =>
        (one isOne).trans (Format.ofParameter_of_name isName)
      unknown := fun value isOne notBlank unknown =>
        (one isOne).trans (Format.ofParameter_of_unknown notBlank unknown)
      repeated := fun several => by
        match values : formatValues pairs, several with
        | first :: second :: others, _ => rw [formatOf, Format.negotiate, parameter, values]
      noHeader := fun isNone noHeader => by
        rw [none isNone, noHeader, Format.ofAccept]
      header := fun header isNone isHeader isText => by
        rw [none isNone, isHeader, Format.ofAccept, if_pos isText]
      notText := fun header isNone isHeader notText => by
        rw [none isNone, isHeader, Format.ofAccept, if_neg (Bool.eq_false_iff.mp notText)] }

/-- A request for JSON whose query has an empty piece and escapes in the key and in the values. -/
def escapedRequest : Request where
  method := .get
  target :=
    { path := "/blocks/".toList, query := some "a=%26&&f%6Frmat=+J%73on%20".toList }
  headers := [("Accept", "text/csv;q=high"), ("accept", "*/*")]

theorem format_parameter_decides_escapedRequest :
    ChoosesFormat [(['a'], ['&']), ("format".toList, " Json ".toList)] (some "text/csv;q=high")
        (formatOf escapedRequest) ∧
      formatOf escapedRequest = .ok .json := by
  have ampersand : Text.SpellsCharacter Text.reservedInValue '&' ['%', '2', '6'] :=
    .escaped (.cons (.inl rfl) (.inl rfl) .nil)
  have letterO : Text.SpellsCharacter Text.reservedInKey 'o' ['%', '6', 'F'] :=
    .escaped (.cons (.inl rfl) (.inr rfl) .nil)
  have letterS : Text.SpellsCharacter Text.reservedInValue 's' ['%', '7', '3'] :=
    .escaped (.cons (.inl rfl) (.inl rfl) .nil)
  have space : Text.SpellsCharacter Text.reservedInValue ' ' ['%', '2', '0'] :=
    .escaped (.cons (.inl rfl) (.inl rfl) .nil)
  have key : Text.Spells Text.reservedInKey "format".toList "f%6Frmat".toList :=
    .cons (.plain (by decide)) (.cons letterO (.cons (.plain (by decide))
      (.cons (.plain (by decide)) (.cons (.plain (by decide)) (.cons (.plain (by decide)) .nil)))))
  have value : Text.Spells Text.reservedInValue " Json ".toList "+J%73on%20".toList :=
    .cons .plus (.cons (.plain (by decide)) (.cons letterS
      (.cons (.plain (by decide)) (.cons (.plain (by decide)) (.cons space .nil)))))
  have encodes : Text.EncodesForm [(['a'], ['&']), ("format".toList, " Json ".toList)]
      "a=%26&&f%6Frmat=+J%73on%20".toList :=
    ⟨["a=%26".toList, [], "f%6Frmat=+J%73on%20".toList],
      .cons (.keyed (.cons (.plain (by decide)) .nil) (.cons ampersand .nil))
        (.skip (.cons (.keyed key value) .nil)), rfl⟩
  have chooses := @format_parameter_decides escapedRequest _ encodes
  exact ⟨chooses, chooses.named " Json ".toList .json rfl rfl⟩

end Http.Service

end LearnExport
