import BoundSql.Dialect
import BoundSql.Settings
/-!
Registries: dialects and drivers by name. A name that was registered before is given to the new
entry.
-/

namespace BoundSql

/-- Entries by name, each name once. -/
abbrev Registry (α : Type) := List (String × α)

namespace Registry

variable {α : Type}

def register (r : Registry α) (name : String) (entry : α) : Registry α :=
  (name, entry) :: r.filter fun e => e.1 != name

def get? (r : Registry α) (name : String) : Option α :=
  (r.find? fun e => e.1 == name).map Prod.snd

def names (r : Registry α) : List String :=
  Rejection.ascending (r.map Prod.fst)

end Registry

inductive DriverSpec where
  | postgres (dsn : Option String) (minSize maxSize : Nat)
  | sqlite (path : String)
  deriving DecidableEq, Repr

inductive DriverKind where
  | postgres
  | sqlite
  deriving DecidableEq, Repr

def DriverKind.configure (s : Settings) : DriverKind → DriverSpec
  | postgres => .postgres s.dsn s.poolMinSize s.poolMaxSize
  | sqlite => .sqlite s.sqlitePath

structure Registries where
  dialects : Registry Dialect := [("postgres", .postgres), ("sqlite", .sqlite)]
  drivers : Registry DriverKind := [("postgres", .postgres), ("sqlite", .sqlite)]

namespace Registries

def dialect (r : Registries) (name : String) : Outcome Dialect :=
  match r.dialects.get? name with
  | some d => .ok d
  | none => .error (.compilation (.unsupportedDialect name r.dialects.names))

def driverKind (r : Registries) (name : String) : Outcome DriverKind :=
  match r.drivers.get? name with
  | some k => .ok k
  | none => .error (.configuration (.driverUnregistered name r.drivers.names))

def driver (r : Registries) (name : String) (s : Settings) : Outcome DriverSpec :=
  (r.driverKind name).map fun k => k.configure s

def registerDialect (r : Registries) (name base : String) : Outcome Registries :=
  (r.dialect base).map fun d => { r with dialects := r.dialects.register name d }

def registerDriver (r : Registries) (name base : String) : Outcome Registries :=
  (r.driverKind base).map fun k => { r with drivers := r.drivers.register name k }

end Registries

end BoundSql
