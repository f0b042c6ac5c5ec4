import LearnExport.Store.Query
import LearnExport.Text.Ascii
import LearnExport.Text.Blank
import LearnExport.Text.HeaderValue
import LearnExport.Text.Quoted

/-!
# Configuration

The service is configured by variables, each a text that may be missing. Only
the database has no default. The first variable with an unusable value, in the
order in which they are read here, is reported.
-/

namespace LearnExport

/-- Why a text is not a count. -/
inductive CountFault where
  | empty
  | invalidDigit
  | tooLarge
deriving DecidableEq, Repr

def CountFault.message : CountFault → String
  | empty => "cannot parse integer from empty string"
  | invalidDigit => "invalid digit found in string"
  | tooLarge => "number too large to fit in target type"

/-- Reads digits after a number, up to the first character that is no digit or
makes the number exceed a limit. -/
def countFrom (limit : Nat) : Nat → List Char → Except CountFault Nat
  | value, [] => .ok value
  | value, character :: rest =>
      match Text.digit? character with
      | none => .error .invalidDigit
      | some digit =>
          if limit < 10 * value + digit then .error .tooLarge
          else countFrom limit (10 * value + digit) rest

/-- Reads a count up to a limit: digits that may follow a plus sign. -/
def readCount (limit : Nat) : List Char → Except CountFault Nat
  | [] => .error .empty
  | '+' :: first :: rest => countFrom limit 0 (first :: rest)
  | text => countFrom limit 0 text

/-- Reads a switch: one of eight words, in any case and with white space
around. -/
def readSwitch? (text : List Char) : Option Bool :=
  let word := String.ofList (Text.lowerCase (Text.trim text))
  if ["1", "true", "yes", "on"].contains word then some true
  else if ["0", "false", "no", "off"].contains word then some false
  else none

/-- Why a configuration is unusable. -/
inductive ConfigError where
  | missingDatabaseUrl
  | badPort (value : String) (fault : CountFault)
  | badMaxConnections (value : String) (fault : CountFault)
  | badBundleUrl (value : String)
  | badSwitch (name : String) (value : String)
deriving DecidableEq, Repr

/-- What is reported of an unusable configuration, followed by its cause if it
has one. -/
def ConfigError.chain : ConfigError → List String
  | missingDatabaseUrl => ["DATABASE_URL not set"]
  | badPort value fault => ["PORT is not a port number: " ++ value, fault.message]
  | badMaxConnections value fault =>
      ["DB_MAX_CONNECTIONS is not a count: " ++ value, fault.message]
  | badBundleUrl value => ["LATEST_BUNDLE_URL is not a usable Location: " ++ Text.quoted value]
  | badSwitch name value => [name ++ " must be a boolean, got " ++ Text.quoted value]

/-- The configuration of the service. -/
structure Config where
  databaseUrl : String
  port : UInt16
  maxConnections : UInt32
  mediaDirectory : String
  latestBundleUrl : String
  runMigrations : Bool
  prefetchRelations : Bool
deriving DecidableEq, Repr

namespace Config

/-- Where the archive with all data is found unless configured otherwise. -/
def defaultBundleUrl : String := "/media/exports/robomission-latest.zip"

/-- Whether a text can be the location of the archive. -/
def isUsableLocation (url : String) : Bool :=
  !url.isEmpty && Text.isHeaderValue url

/-- Reads a switch that is on by default. -/
def switch (lookup : String → Option String) (name : String) : Except ConfigError Bool :=
  match lookup name with
  | none => .ok true
  | some value =>
      match readSwitch? value.toList with
      | some isOn => .ok isOn
      | none => .error (.badSwitch name value)

/-- Reads a count that has a limit and a default. -/
def count (lookup : String → Option String) (name : String) (limit default : Nat)
    (error : String → CountFault → ConfigError) : Except ConfigError Nat :=
  match lookup name with
  | none => .ok default
  | some value => (readCount limit value.toList).mapError (error value)

/-- Reads the configuration from the variables. -/
def ofLookup (lookup : String → Option String) : Except ConfigError Config := do
  let some databaseUrl := lookup "DATABASE_URL" | .error .missingDatabaseUrl
  let port ← count lookup "PORT" 65535 8000 .badPort
  let maxConnections ← count lookup "DB_MAX_CONNECTIONS" 4294967295 5 .badMaxConnections
  let latestBundleUrl := (lookup "LATEST_BUNDLE_URL").getD defaultBundleUrl
  unless isUsableLocation latestBundleUrl do throw (.badBundleUrl latestBundleUrl)
  let mediaDirectory := (lookup "MEDIA_DIR").getD "./media"
  let runMigrations ← switch lookup "RUN_MIGRATIONS"
  let prefetchRelations ← switch lookup "PREFETCH_RELATIONS"
  return {
    databaseUrl, mediaDirectory, latestBundleUrl, runMigrations, prefetchRelations
    port := .ofNat port
    maxConnections := .ofNat maxConnections }

/-- How the service reads relations. -/
def relationLoading (config : Config) : RelationLoading :=
  if config.prefetchRelations then .batched else .perRecord

end Config

end LearnExport
