import BoundSql.Failure
/-!
Settings: what a connection is made with. They are given by name, and what is not given comes from
the environment, whose variables are named alike. Names are compared without regard to case.
-/

namespace BoundSql

structure Settings where
  dialect : String := "postgres"
  dsn : Option String := none
  sqlitePath : String := ":memory:"
  poolMinSize : Nat := 1
  poolMaxSize : Nat := 10
  maxIdentifierLength : Nat := 128
  logParameters : Bool := false
  deriving DecidableEq, Repr

abbrev Environment := List (String × String)

namespace Environment

def remove (env : Environment) (name : String) : Environment :=
  env.filter fun v => v.1 != name

def misuse? (name text : String) : Option Misuse :=
  if (name ++ text).contains '\x00' || name.contains '=' then some .illegalVariable
  else if name.isEmpty then some .namelessVariable
  else none

/-- Sets a variable, or removes it. One that cannot be set is removed as well. -/
def set (env : Environment) (name : String) : Option String → Environment × Outcome Unit
  | none => (env.remove name, .ok ())
  | some text =>
    match misuse? name text with
    | some m => (env.remove name, .error (.misuse m))
    | none => (env.remove name ++ [(name, text)], .ok ())

end Environment

namespace Settings

def variableStem : String := "fluentsql_"

def ofVariables (env : Environment) : Fields :=
  env.filterMap fun v =>
    let name := v.1.toLower.toList
    let stem := variableStem.toList
    if stem.isPrefixOf name then some (String.ofList (name.drop stem.length), .text v.2) else none

/-- All fields, of which those that were given by name come last and decide. Of several variables
for one field the last one counts, and of several given names the first. -/
def gather (env : Environment) (given : Fields) : Fields :=
  ofVariables env ++ (given.map fun f => (f.1.toLower, f.2)).reverse

def readFields (fields : Fields) : Reading Settings := do
  let base : Settings := {}
  let (dialect, dsn, sqlitePath, poolMinSize, poolMaxSize, maxIdentifierLength, logParameters) ←
    Reading.both (fields.read "dialect" base.dialect readText)
      (Reading.both (fields.read "dsn" base.dsn (readOptional readText))
        (Reading.both (fields.read "sqlite_path" base.sqlitePath readText)
          (Reading.both (fields.read "pool_min_size" base.poolMinSize (readWholeFrom 0))
            (Reading.both (fields.read "pool_max_size" base.poolMaxSize (readWholeFrom 1))
              (Reading.both
                (fields.read "max_identifier_length" base.maxIdentifierLength (readWholeFrom 1))
                (fields.read "log_parameters" base.logParameters readTruth))))))
  return { dialect, dsn, sqlitePath, poolMinSize, poolMaxSize, maxIdentifierLength, logParameters }

/-- A pool cannot be larger at least than it is at most. -/
def checkPool (s : Settings) : Reading Settings :=
  if s.poolMaxSize < s.poolMinSize then
    .defect (.refused "pool_min_size must not exceed pool_max_size")
  else .ok s

def load (env : Environment) (given : Fields) : Outcome Settings :=
  ((readFields (gather env given)).bind checkPool).mapError .settings

end Settings

/-- An environment, and the settings that were once made from it alone. -/
structure SettingsStore where
  environment : Environment := []
  cached : Option Settings := none

namespace SettingsStore

def setVariable (s : SettingsStore) (name : String) (text : Option String) :
    SettingsStore × Outcome Unit :=
  let (environment, outcome) := s.environment.set name text
  ({ s with environment }, outcome)

/-- The cached settings, which are made when there are none; a failure is not cached. -/
def get (s : SettingsStore) : SettingsStore × Outcome Settings :=
  match s.cached with
  | some settings => (s, .ok settings)
  | none =>
    match Settings.load s.environment [] with
    | .ok settings => ({ s with cached := some settings }, .ok settings)
    | .error e => (s, .error e)

def clear (s : SettingsStore) : SettingsStore :=
  { s with cached := none }

end SettingsStore

end BoundSql
