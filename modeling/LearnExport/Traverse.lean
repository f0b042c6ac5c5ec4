/-!
# Operations that may fail, on lists

An operation that may fail is done on the elements of a list one after the
other. The first failure is the failure of the whole; without one there are as
many results as elements.
-/

namespace LearnExport

theorem map_eq_ok_iff {ε α β : Type} {result : Except ε α} {turn : α → β} {value : β} :
    result.map turn = .ok value ↔ ∃ found, result = .ok found ∧ turn found = value := by
  cases result <;> simp [Except.map]

theorem map_eq_error_iff {ε α β : Type} {result : Except ε α} {turn : α → β} {error : ε} :
    result.map turn = .error error ↔ result = .error error := by
  cases result <;> simp [Except.map]

theorem bind_eq_ok_iff {ε α β : Type} {result : Except ε α} {next : α → Except ε β} {value : β} :
    result >>= next = .ok value ↔ ∃ found, result = .ok found ∧ next found = .ok value := by
  cases result <;> simp [bind, Except.bind]

/-- The results of an operation on the elements of a list in order, up to the
first that fails. -/
def traverse {α β ε : Type} (operation : α → Except ε β) : List α → Except ε (List β)
  | [] => .ok []
  | element :: others =>
      match operation element with
      | .error error => .error error
      | .ok result => (traverse operation others).map (result :: ·)

/-- The results of a list are those of its elements. -/
theorem traverse_eq_ok_iff {α β ε : Type} {operation : α → Except ε β} {elements : List α}
    {results : List β} :
    traverse operation elements = .ok results ↔
      elements.map operation = results.map Except.ok := by
  induction elements generalizing results with
  | nil => cases results <;> simp [traverse]
  | cons element others ih =>
      cases first : operation element with
      | error error => cases results <;> simp [traverse, first]
      | ok result =>
          cases rest : traverse operation others with
          | error error =>
              have fails (found : List β) : others.map operation ≠ found.map Except.ok := by
                intro same
                have succeeds := ih.mpr same
                simp [rest] at succeeds
              cases results <;> simp [traverse, first, rest, Except.map, fails]
          | ok found =>
              have same := ih.mp rest
              cases results with
              | nil => simp [traverse, first, rest, Except.map]
              | cons other more =>
                  have injective : found = more ↔
                      found.map (Except.ok (ε := ε)) = more.map Except.ok :=
                    ⟨congrArg _, fun equal =>
                      (List.map_inj_right fun _ _ => Except.ok.inj).mp equal⟩
                  simp [traverse, first, rest, Except.map, same, injective]

/-- The failure of a list is that of its first element that fails. -/
theorem traverse_eq_error_iff {α β ε : Type} {operation : α → Except ε β} {elements : List α}
    {error : ε} :
    traverse operation elements = .error error ↔
      ∃ before element after, elements = before ++ element :: after ∧
        operation element = .error error ∧
        ∀ earlier ∈ before, ∃ result, operation earlier = .ok result := by
  constructor
  · intro fails
    induction elements with
    | nil => simp [traverse] at fails
    | cons element others ih =>
        cases first : operation element with
        | error other =>
            simp only [traverse, first, Except.error.injEq] at fails
            exact ⟨[], element, others, rfl, first.trans (congrArg _ fails), by simp⟩
        | ok result =>
            simp only [traverse, first] at fails
            obtain ⟨before, failing, after, rfl, fault, succeed⟩ := ih (map_eq_error_iff.mp fails)
            refine ⟨element :: before, failing, after, rfl, fault, ?_⟩
            exact List.forall_mem_cons.mpr ⟨⟨result, first⟩, succeed⟩
  · rintro ⟨before, element, after, rfl, fails, succeed⟩
    induction before with
    | nil => simp [traverse, fails]
    | cons earlier others ih =>
        obtain ⟨⟨result, first⟩, succeedOthers⟩ := List.forall_mem_cons.mp succeed
        simp [traverse, first, ih succeedOthers, Except.map]

theorem exists_traverse_eq_error_iff {α β ε : Type} {operation : α → Except ε β}
    {elements : List α} :
    (∃ error, traverse operation elements = .error error) ↔
      ∃ element ∈ elements, ∃ error, operation element = .error error := by
  induction elements with
  | nil => simp [traverse]
  | cons element others ih =>
      cases first : operation element with
      | error error => simp [traverse, first]
      | ok result => simp [traverse, first, map_eq_error_iff, ih]

/-- An operation with a single failure fails on a list with this failure, wherever it is. -/
theorem traverse_eq_error_iff_of_only {α β ε : Type} {operation : α → Except ε β}
    {Fails : α → Prop} {only : ε}
    (fails : ∀ element error, operation element = .error error ↔ Fails element ∧ error = only)
    {elements : List α} {error : ε} :
    traverse operation elements = .error error ↔
      (∃ element ∈ elements, Fails element) ∧ error = only := by
  induction elements with
  | nil => simp [traverse]
  | cons element others ih =>
      cases first : operation element with
      | error other =>
          obtain ⟨failing, rfl⟩ := (fails element other).mp first
          simp [traverse, first, failing, eq_comm]
      | ok result =>
          have succeeds : ¬ Fails element := by
            intro failing
            have failed := (fails element only).mpr ⟨failing, rfl⟩
            simp [first] at failed
          simp [traverse, first, map_eq_error_iff, ih, succeeds]

theorem traverse_congr {α β ε : Type} {operation other : α → Except ε β} {elements : List α}
    (agree : ∀ element ∈ elements, operation element = other element) :
    traverse operation elements = traverse other elements := by
  induction elements with
  | nil => rfl
  | cons element others ih =>
      obtain ⟨first, rest⟩ := List.forall_mem_cons.mp agree
      rw [traverse, traverse, first, ih rest]

theorem traverse_map {α β γ ε : Type} (operation : β → Except ε γ) (turn : α → β)
    (elements : List α) :
    traverse operation (elements.map turn) = traverse (fun element => operation (turn element))
      elements := by
  induction elements with
  | nil => rfl
  | cons element others ih => rw [List.map_cons, traverse, traverse, ih]

/-- The results of a list stand where its elements do. -/
theorem getElem?_of_traverse {α β ε : Type} {operation : α → Except ε β} {elements : List α}
    {results : List β} (succeeds : traverse operation elements = .ok results) {index : Nat}
    {element : α} (found : elements[index]? = some element) :
    ∃ result, results[index]? = some result ∧ operation element = .ok result := by
  have same : (elements.map operation)[index]? = (results.map Except.ok)[index]? := by
    rw [traverse_eq_ok_iff.mp succeeds]
  rw [List.getElem?_map, List.getElem?_map, found] at same
  obtain ⟨result, isResult, succeeded⟩ := Option.map_eq_some_iff.mp same.symm
  exact ⟨result, isResult, succeeded.symm⟩

theorem length_of_traverse {α β ε : Type} {operation : α → Except ε β} {elements : List α}
    {results : List β} (succeeds : traverse operation elements = .ok results) :
    results.length = elements.length := by
  simpa using (congrArg List.length (traverse_eq_ok_iff.mp succeeds)).symm

end LearnExport
