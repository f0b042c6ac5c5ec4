import LearnExport.Schema.Reference

/-!
# Why a row is refused

The rules that a row must keep, and the code and the name under which the
database reports that one is broken. A reference is reported in the same way
whether a row refers to nothing or a row still referred to is to be deleted.
-/

namespace LearnExport.Schema

/-- A rule about the values of one snapshot. -/
inductive Check where
  /-- Only executions are judged. -/
  | judgement
  /-- The granularity has one of the known names. -/
  | granularity
deriving DecidableEq, Repr

namespace Check

def name : Check → String
  | judgement => "program_snapshots_check"
  | granularity => "program_snapshots_granularity_check"

/-- Whether a snapshot keeps a rule. -/
def holds : Check → SnapshotRow → Bool
  | judgement, row => row.granularity == "execution" || row.correct.isNone
  | granularity, row => row.granularity == "execution" || row.granularity == "edit"

end Check

/-- Why a row is not inserted, or not deleted. -/
inductive Refusal where
  /-- A text holds a character that no text of the database may hold. -/
  | unstorableText
  /-- A text is too long for its column. -/
  | textTooLong
  /-- A column that must have a value is null. -/
  | missingValue
  | brokenCheck (check : Check)
  | repeatedKey (table : Table)
  | repeatedName (table : Table)
  | brokenReference (reference : Reference)
deriving DecidableEq, Repr

namespace Refusal

def code : Refusal → String
  | unstorableText => "22021"
  | textTooLong => "22001"
  | missingValue => "23502"
  | brokenCheck _ => "23514"
  | repeatedKey _ | repeatedName _ => "23505"
  | brokenReference _ => "23503"

def constraint? : Refusal → Option String
  | unstorableText | textTooLong | missingValue => none
  | brokenCheck check => some check.name
  | repeatedKey table => some (table.name ++ "_pkey")
  | repeatedName table => some (table.name ++ "_name_key")
  | brokenReference reference =>
      some (reference.source.name ++ "_" ++ reference.column ++ "_fkey")

end Refusal

end LearnExport.Schema
