/-!
# Sets of permissions

The permissions of a caller are a set of codenames, kept as the ascending list
of its members. A set therefore has one form only: two sets with the same
members are equal, in whatever order and however often the members were added.
-/

namespace LearnExport

/-- Puts a text into an ascending list unless it is there. -/
def insertAscending (text : String) : List String → List String
  | [] => [text]
  | first :: others =>
      if text < first then text :: first :: others
      else if text = first then first :: others
      else first :: insertAscending text others

theorem mem_insertAscending {text member : String} {texts : List String} :
    member ∈ insertAscending text texts ↔ member = text ∨ member ∈ texts := by
  induction texts with
  | nil => simp [insertAscending]
  | cons first others ih =>
      unfold insertAscending
      split
      · simp
      · split
        · rename_i equal
          subst equal
          simp
        · simp only [List.mem_cons, ih]
          constructor
          · rintro (isFirst | isText | isOther)
            · exact .inr (.inl isFirst)
            · exact .inl isText
            · exact .inr (.inr isOther)
          · rintro (isText | isFirst | isOther)
            · exact .inr (.inl isText)
            · exact .inl isFirst
            · exact .inr (.inr isOther)

theorem pairwise_insertAscending (text : String) {texts : List String}
    (ascending : texts.Pairwise (· < ·)) : (insertAscending text texts).Pairwise (· < ·) := by
  induction texts with
  | nil => simp [insertAscending]
  | cons first others ih =>
      have ⟨firstLess, rest⟩ := List.pairwise_cons.mp ascending
      unfold insertAscending
      split
      · rename_i less
        refine List.pairwise_cons.mpr ⟨fun member isMember => ?_, ascending⟩
        rcases List.mem_cons.mp isMember with isFirst | isOther
        · exact isFirst ▸ less
        · exact String.lt_trans less (firstLess member isOther)
      · split
        · exact ascending
        · rename_i notLess notEqual
          refine List.pairwise_cons.mpr ⟨fun member isMember => ?_, ih rest⟩
          rcases mem_insertAscending.mp isMember with isText | isOther
          · exact isText ▸ Std.lt_of_le_of_ne (String.not_lt.mp notLess) (Ne.symm notEqual)
          · exact firstLess member isOther

/-- A set of permission codenames. -/
structure Permissions where
  /-- The members in ascending order. -/
  toList : List String
  ascending : toList.Pairwise (· < ·)
deriving DecidableEq

namespace Permissions

/-- The set without members. -/
def empty : Permissions where
  toList := []
  ascending := .nil

/-- The set with one more member. -/
def insert (permissions : Permissions) (codename : String) : Permissions where
  toList := insertAscending codename permissions.toList
  ascending := pairwise_insertAscending codename permissions.ascending

/-- The set of the members of a list. -/
def ofList (codenames : List String) : Permissions :=
  codenames.foldl insert empty

private theorem mem_foldl_insert {codenames : List String} {permissions : Permissions}
    {codename : String} :
    codename ∈ (codenames.foldl insert permissions).toList ↔
      codename ∈ permissions.toList ∨ codename ∈ codenames := by
  induction codenames generalizing permissions with
  | nil => simp
  | cons first others ih =>
      rw [List.foldl_cons, ih, insert, mem_insertAscending, List.mem_cons, or_assoc, or_left_comm]

/-- The members of the set are those of the list. -/
theorem mem_ofList {codenames : List String} {codename : String} :
    codename ∈ (ofList codenames).toList ↔ codename ∈ codenames := by
  rw [ofList, mem_foldl_insert]
  simp [empty]

def contains (permissions : Permissions) (codename : String) : Bool :=
  permissions.toList.contains codename

end Permissions

end LearnExport
