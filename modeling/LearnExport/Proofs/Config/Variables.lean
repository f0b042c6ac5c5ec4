import LearnExport.Proofs.Config.Readings
import LearnExport.Traverse

/-!
# Which configurations are usable

Six variables may make a configuration unusable. Each is checked on its own, in
one order, and the first that is not accepted is reported, whatever the later
ones hold. A usable configuration holds what the variables denote.
-/

namespace LearnExport

namespace Config

/-- The variables that may make a configuration unusable. -/
inductive Variable where
  | databaseUrl
  | port
  | maxConnections
  | latestBundleUrl
  | runMigrations
  | prefetchRelations

namespace Variable

def name : Variable → String
  | databaseUrl => "DATABASE_URL"
  | port => "PORT"
  | maxConnections => "DB_MAX_CONNECTIONS"
  | latestBundleUrl => "LATEST_BUNDLE_URL"
  | runMigrations => "RUN_MIGRATIONS"
  | prefetchRelations => "PREFETCH_RELATIONS"

/-- The order in which the variables are checked. -/
def inOrder : List Variable :=
  [databaseUrl, port, maxConnections, latestBundleUrl, runMigrations, prefetchRelations]

/-- That a variable may hold a text, or may be missing. -/
def Accepts : Variable → Option String → Prop
  | databaseUrl, text? => text? ≠ none
  | port, text? => ∀ text ∈ text?, ∃ number ≤ 65535, Text.IsCount text.toList number
  | maxConnections, text? => ∀ text ∈ text?, ∃ number ≤ 2 ^ 32 - 1, Text.IsCount text.toList number
  | latestBundleUrl, text? => ∀ text ∈ text?, IsLocation text
  | runMigrations, text? | prefetchRelations, text? =>
      ∀ text ∈ text?, ∃ isOn, IsSwitch text.toList isOn

/-- The check of one variable. -/
def check (lookup : String → Option String) : Variable → Except ConfigError Unit
  | databaseUrl =>
      match lookup "DATABASE_URL" with
      | some _ => .ok ()
      | none => .error .missingDatabaseUrl
  | port => (count lookup "PORT" 65535 8000 .badPort).map fun _ => ()
  | maxConnections =>
      (count lookup "DB_MAX_CONNECTIONS" 4294967295 5 .badMaxConnections).map fun _ => ()
  | latestBundleUrl =>
      let url := (lookup "LATEST_BUNDLE_URL").getD defaultBundleUrl
      if isUsableLocation url then .ok () else .error (.badBundleUrl url)
  | runMigrations => (switch lookup "RUN_MIGRATIONS").map fun _ => ()
  | prefetchRelations => (switch lookup "PREFETCH_RELATIONS").map fun _ => ()

theorem mem_inOrder (key : Variable) : key ∈ inOrder := by
  cases key <;> simp [inOrder]

end Variable

/-- That a variable denotes a value by its text, or is missing and has its default. -/
def IsSetting {α : Type} (Denotes : String → α → Prop) (default : α) : Option String → α → Prop
  | none, value => value = default
  | some text, value => Denotes text value

/-- That a configuration holds what the variables denote. -/
structure Holds (config : Config) (lookup : String → Option String) : Prop where
  databaseUrl : lookup "DATABASE_URL" = some config.databaseUrl
  port : IsSetting (fun text => Text.IsCount text.toList) 8000 (lookup "PORT") config.port.toNat
  maxConnections : IsSetting (fun text => Text.IsCount text.toList) 5 (lookup "DB_MAX_CONNECTIONS")
    config.maxConnections.toNat
  mediaDirectory : config.mediaDirectory = (lookup "MEDIA_DIR").getD "./media"
  latestBundleUrl : config.latestBundleUrl =
    (lookup "LATEST_BUNDLE_URL").getD "/media/exports/robomission-latest.zip"
  runMigrations : IsSetting (fun text => IsSwitch text.toList) true (lookup "RUN_MIGRATIONS")
    config.runMigrations
  prefetchRelations : IsSetting (fun text => IsSwitch text.toList) true
    (lookup "PREFETCH_RELATIONS") config.prefetchRelations

variable {lookup : String → Option String} {name : String}

section Readers

theorem exists_isSetting_iff {α : Type} {Denotes : String → α → Prop} {default : α}
    {text? : Option String} :
    (∃ value, IsSetting Denotes default text? value) ↔
      ∀ text ∈ text?, ∃ value, Denotes text value := by
  cases text? <;> simp [IsSetting]

theorem count_eq_ok_iff {limit default number : Nat} {error : String → CountFault → ConfigError} :
    count lookup name limit default error = .ok number ↔
      IsSetting (fun text number => number ≤ limit ∧ Text.IsCount text.toList number) default
        (lookup name) number := by
  unfold count
  cases lookup name with
  | none => simp [IsSetting, eq_comm]
  | some text =>
      rw [IsSetting, ← readCount_eq_ok_iff]
      cases read : readCount limit text.toList <;> simp [read, Except.mapError]

/-- A default within the limit keeps the count within it. -/
theorem isSetting_of_count {limit default number : Nat} {error : String → CountFault → ConfigError}
    (isDefault : default ≤ limit) (read : count lookup name limit default error = .ok number) :
    number ≤ limit ∧
      IsSetting (fun text => Text.IsCount text.toList) default (lookup name) number := by
  have setting := count_eq_ok_iff.mp read
  cases isText : lookup name with
  | none =>
      rw [isText] at setting
      obtain rfl : number = default := setting
      exact ⟨isDefault, rfl⟩
  | some text =>
      rw [isText] at setting
      exact setting

theorem exists_fault_of_count {limit default : Nat} {error : String → CountFault → ConfigError}
    {failure : ConfigError} (fails : count lookup name limit default error = .error failure) :
    ∃ text fault, failure = error text fault := by
  unfold count at fails
  cases isText : lookup name with
  | none => simp [isText] at fails
  | some text =>
      cases read : readCount limit text.toList with
      | ok number => simp [isText, read, Except.mapError] at fails
      | error fault =>
          simp only [isText, read, Except.mapError, Except.error.injEq] at fails
          exact ⟨text, fault, fails.symm⟩

theorem switch_eq_ok_iff {isOn : Bool} :
    switch lookup name = .ok isOn ↔
      IsSetting (fun text => IsSwitch text.toList) true (lookup name) isOn := by
  unfold switch
  cases lookup name with
  | none => simp [IsSetting, eq_comm]
  | some text =>
      rw [IsSetting, ← readSwitch?_eq_some_iff]
      cases read : readSwitch? text.toList <;> simp [read]

theorem exists_message_of_switch {failure : ConfigError}
    (fails : switch lookup name = .error failure) :
    ∃ details, failure.chain.head? = some (name ++ " " ++ details) := by
  unfold switch at fails
  cases isText : lookup name with
  | none => simp [isText] at fails
  | some text =>
      cases read : readSwitch? text.toList with
      | some isOn => simp [isText, read] at fails
      | none =>
          simp only [isText, read, Except.error.injEq] at fails
          have spaced : " must be a boolean, got " = " " ++ "must be a boolean, got " := rfl
          refine ⟨"must be a boolean, got " ++ Text.quoted text, ?_⟩
          simp only [← fails, ConfigError.chain, List.head?_cons, spaced, String.append_assoc]

end Readers

namespace Variable

variable {key : Variable} {error : ConfigError}

theorem check_eq_ok_iff :
    key.check lookup = .ok () ↔ key.Accepts (lookup key.name) := by
  have done {α : Type} (result : Except ConfigError α) :
      result.map (fun _ => ()) = .ok () ↔ ∃ value, result = .ok value := by
    simp [map_eq_ok_iff]
  have counted {name : String} {limit default : Nat} {error : String → CountFault → ConfigError} :
      (count lookup name limit default error).map (fun _ => ()) = .ok () ↔
        ∀ text ∈ lookup name, ∃ number ≤ limit, Text.IsCount text.toList number := by
    simp only [done, count_eq_ok_iff, exists_isSetting_iff]
  have switched {name : String} :
      (switch lookup name).map (fun _ => ()) = .ok () ↔
        ∀ text ∈ lookup name, ∃ isOn, IsSwitch text.toList isOn := by
    simp only [done, switch_eq_ok_iff, exists_isSetting_iff]
  cases key with
  | databaseUrl => cases isText : lookup "DATABASE_URL" <;> simp [check, Accepts, name, isText]
  | port => exact counted
  | maxConnections => exact counted
  | latestBundleUrl =>
      have usable : isUsableLocation defaultBundleUrl = true := by decide
      cases isText : lookup "LATEST_BUNDLE_URL" <;>
        simp [check, Accepts, name, isText, usable, ← isUsableLocation_iff]
  | runMigrations => exact switched
  | prefetchRelations => exact switched

theorem exists_check_eq_error_iff :
    (∃ error, key.check lookup = .error error) ↔ ¬ key.Accepts (lookup key.name) := by
  rw [← check_eq_ok_iff]
  cases key.check lookup <;> simp

/-- What is reported of a variable begins with its name. -/
theorem exists_message_of_check (fails : key.check lookup = .error error) :
    ∃ details, error.chain.head? = some (key.name ++ " " ++ details) := by
  cases key with
  | databaseUrl =>
      cases isText : lookup "DATABASE_URL" with
      | some url => simp [check, isText] at fails
      | none =>
          simp only [check, isText, Except.error.injEq] at fails
          exact ⟨"not set", fails ▸ rfl⟩
  | port =>
      obtain ⟨text, fault, rfl⟩ := exists_fault_of_count (map_eq_error_iff.mp fails)
      refine ⟨"is not a port number: " ++ text, ?_⟩
      rw [← String.append_assoc]
      rfl
  | maxConnections =>
      obtain ⟨text, fault, rfl⟩ := exists_fault_of_count (map_eq_error_iff.mp fails)
      refine ⟨"is not a count: " ++ text, ?_⟩
      rw [← String.append_assoc]
      rfl
  | latestBundleUrl =>
      simp only [check] at fails
      split at fails
      · exact absurd fails (by simp)
      · obtain rfl := Except.error.inj fails
        refine ⟨"is not a usable Location: " ++
          Text.quoted ((lookup "LATEST_BUNDLE_URL").getD defaultBundleUrl), ?_⟩
        rw [← String.append_assoc]
        rfl
  | runMigrations => exact exists_message_of_switch (map_eq_error_iff.mp fails)
  | prefetchRelations => exact exists_message_of_switch (map_eq_error_iff.mp fails)

theorem check_congr {other : String → Option String}
    (same : other key.name = lookup key.name) :
    key.check other = key.check lookup := by
  cases key <;> simp only [name] at same <;> simp only [check, count, switch, same]

end Variable

/-- Checking the variables one after the other comes to the same as reading the configuration. -/
theorem map_ofLookup (lookup : String → Option String) :
    (ofLookup lookup).map (fun _ => ()) =
      (traverse (Variable.check lookup) Variable.inOrder).map fun _ => () := by
  simp only [ofLookup, Variable.inOrder, traverse, Variable.check]
  cases lookup "DATABASE_URL" with
  | none => rfl
  | some databaseUrl =>
      cases count lookup "PORT" 65535 8000 .badPort with
      | error error => rfl
      | ok port =>
          cases count lookup "DB_MAX_CONNECTIONS" 4294967295 5 .badMaxConnections with
          | error error => rfl
          | ok maxConnections =>
              cases isUsableLocation ((lookup "LATEST_BUNDLE_URL").getD defaultBundleUrl) with
              | false => rfl
              | true =>
                  cases switch lookup "RUN_MIGRATIONS" with
                  | error error => rfl
                  | ok runMigrations => cases switch lookup "PREFETCH_RELATIONS" <;> rfl

theorem ofLookup_eq_error_iff {error : ConfigError} :
    ofLookup lookup = .error error ↔
      traverse (Variable.check lookup) Variable.inOrder = .error error := by
  calc
    ofLookup lookup = .error error ↔ (ofLookup lookup).map (fun _ => ()) = .error error :=
      map_eq_error_iff.symm
    _ ↔ (traverse (Variable.check lookup) Variable.inOrder).map (fun _ => ()) = .error error := by
      rw [map_ofLookup]
    _ ↔ traverse (Variable.check lookup) Variable.inOrder = .error error := map_eq_error_iff

theorem exists_ofLookup_iff :
    (∃ config, ofLookup lookup = .ok config) ↔
      ∀ key : Variable, key.Accepts (lookup key.name) := by
  have noError : (∃ config, ofLookup lookup = .ok config) ↔
      ¬ ∃ error, ofLookup lookup = .error error := by
    cases ofLookup lookup <;> simp
  rw [noError]
  simp only [ofLookup_eq_error_iff, exists_traverse_eq_error_iff,
    Variable.exists_check_eq_error_iff, Variable.mem_inOrder, true_and, not_exists, not_not]

theorem holds_of_ofLookup {config : Config} (accepted : ofLookup lookup = .ok config) :
    config.Holds lookup := by
  unfold ofLookup at accepted
  split at accepted
  · rename_i url isUrl
    obtain ⟨port, isPort, accepted⟩ := bind_eq_ok_iff.mp accepted
    obtain ⟨maxConnections, isCount, accepted⟩ := bind_eq_ok_iff.mp accepted
    dsimp only at accepted
    split at accepted
    · obtain ⟨runMigrations, migrates, accepted⟩ := bind_eq_ok_iff.mp accepted
      obtain ⟨prefetchRelations, prefetches, accepted⟩ := bind_eq_ok_iff.mp accepted
      obtain rfl := Except.ok.inj accepted
      obtain ⟨portFits, isPort⟩ := isSetting_of_count (by decide) isPort
      obtain ⟨countFits, isCount⟩ := isSetting_of_count (by decide) isCount
      have samePort : (UInt16.ofNat port).toNat = port :=
        Nat.mod_eq_of_lt (Nat.lt_succ_of_le portFits)
      have sameCount : (UInt32.ofNat maxConnections).toNat = maxConnections :=
        Nat.mod_eq_of_lt (Nat.lt_succ_of_le countFits)
      exact {
        databaseUrl := isUrl
        port := samePort.symm ▸ isPort
        maxConnections := sameCount.symm ▸ isCount
        mediaDirectory := rfl
        latestBundleUrl := rfl
        runMigrations := switch_eq_ok_iff.mp migrates
        prefetchRelations := switch_eq_ok_iff.mp prefetches }
    · obtain ⟨_, fails, _⟩ := bind_eq_ok_iff.mp accepted
      exact absurd fails (by simp [throw, throwThe, MonadExceptOf.throw])
  · exact absurd accepted (by simp)

theorem ofLookup_congr {other : String → Option String}
    (same : ∀ key : Variable, other key.name = lookup key.name)
    (sameDirectory : other "MEDIA_DIR" = lookup "MEDIA_DIR") :
    ofLookup other = ofLookup lookup := by
  have database := same .databaseUrl
  have port := same .port
  have maxConnections := same .maxConnections
  have bundle := same .latestBundleUrl
  have migrations := same .runMigrations
  have prefetching := same .prefetchRelations
  simp only [Variable.name] at database port maxConnections bundle migrations prefetching
  simp only [ofLookup, count, switch, database, port, maxConnections, bundle, migrations,
    prefetching, sameDirectory]

/-- A configuration is read exactly if every variable is accepted, and holds what they denote.
Otherwise the report begins with the name of the first variable that is not accepted, and
does not depend on any later one. -/
theorem ofLookup_decided_by_variables (lookup : String → Option String) :
    ((∃ config, ofLookup lookup = .ok config) ↔
      ∀ key : Variable, key.Accepts (lookup key.name)) ∧
    (∀ config, ofLookup lookup = .ok config → config.Holds lookup) ∧
    (∀ error, ofLookup lookup = .error error →
      ∃ before key after details, Variable.inOrder = before ++ key :: after ∧
        (∀ earlier ∈ before, earlier.Accepts (lookup earlier.name)) ∧
        ¬ key.Accepts (lookup key.name) ∧
        error.chain.head? = some (key.name ++ " " ++ details) ∧
        ∀ other : String → Option String,
          (∀ read ∈ before ++ [key], other read.name = lookup read.name) →
            ofLookup other = .error error) ∧
    ∀ other : String → Option String, (∀ key : Variable, other key.name = lookup key.name) →
      other "MEDIA_DIR" = lookup "MEDIA_DIR" → ofLookup other = ofLookup lookup := by
  refine ⟨exists_ofLookup_iff, fun config => holds_of_ofLookup, fun error fails => ?_,
    fun other => ofLookup_congr⟩
  obtain ⟨before, key, after, order, refuses, passes⟩ :=
    traverse_eq_error_iff.mp (ofLookup_eq_error_iff.mp fails)
  obtain ⟨details, isMessage⟩ := Variable.exists_message_of_check refuses
  refine ⟨before, key, after, details, order, fun earlier member => ?_,
    Variable.exists_check_eq_error_iff.mp ⟨error, refuses⟩, isMessage, fun other same => ?_⟩
  · obtain ⟨_, passed⟩ := passes earlier member
    exact Variable.check_eq_ok_iff.mp passed
  · obtain ⟨samePrefix, sameKey⟩ := List.forall_mem_append.mp same
    apply ofLookup_eq_error_iff.mpr
    refine traverse_eq_error_iff.mpr ⟨before, key, after, order, ?_, fun earlier member => ?_⟩
    · rw [Variable.check_congr (sameKey key List.mem_cons_self), refuses]
    · rw [Variable.check_congr (samePrefix earlier member)]
      exact passes earlier member

/-- The variables that are listed, each with its text. -/
def lookupOf (entries : List (String × String)) (name : String) : Option String :=
  entries.lookup name

/-- A port with leading zeros and a switch with white space around it are read, and a port that
is too large is reported whatever a switch holds. -/
theorem ofLookup_decided_by_variables_of_port :
    (∃ config, ofLookup (lookupOf [("DATABASE_URL", "learn"), ("PORT", "+0080"),
        ("PREFETCH_RELATIONS", " oFF\t")]) = .ok config ∧
      config.Holds (lookupOf [("DATABASE_URL", "learn"), ("PORT", "+0080"),
        ("PREFETCH_RELATIONS", " oFF\t")])) ∧
    ∀ text, ofLookup (lookupOf [("DATABASE_URL", "learn"), ("PORT", "65536"),
        ("PREFETCH_RELATIONS", text)]) = .error (.badPort "65536" .tooLarge) := by
  constructor
  · obtain ⟨readable, holds, _⟩ := ofLookup_decided_by_variables
      (lookupOf [("DATABASE_URL", "learn"), ("PORT", "+0080"), ("PREFETCH_RELATIONS", " oFF\t")])
    have accepted := readable.mpr fun key => Variable.check_eq_ok_iff.mp (by cases key <;> decide)
    obtain ⟨config, isConfig⟩ := accepted
    exact ⟨config, isConfig, holds config isConfig⟩
  · intro text
    obtain ⟨_, _, reports, _⟩ := ofLookup_decided_by_variables
      (lookupOf [("DATABASE_URL", "learn"), ("PORT", "65536"), ("PREFETCH_RELATIONS", "maybe")])
    obtain ⟨before, key, after, details, order, accepted, _, isMessage, alike⟩ :=
      reports (.badPort "65536" .tooLarge) (by decide)
    have unread : Variable.prefetchRelations ∉ before ++ [key] := by
      intro member
      rcases List.mem_append.mp member with isEarlier | isKey
      · have passed := Variable.check_eq_ok_iff.mpr (accepted _ isEarlier)
        exact absurd passed (by decide)
      · obtain rfl := List.mem_singleton.mp isKey
        have characters := congrArg String.toList (Option.some.inj isMessage)
        rw [String.toList_append, String.toList_append] at characters
        exact absurd characters (by simp [Variable.name])
    apply alike
    intro read member
    cases read with
    | prefetchRelations => exact absurd member unread
    | _ => rfl

end Config

end LearnExport
