import BoundSql.Registry
import BoundSql.Session.Backend
/-!
Sessions and the actions on them. An action that fails keeps all that it did to the session before.
-/

namespace BoundSql

inductive Driver where
  | direct
  | pooled (dsn : Option String) (minSize maxSize : Nat) (isOpen : Bool)
  /-- A file with one connection, which is locked while a transaction has it. -/
  | file (path : String) (isOpen isLocked : Bool)
  deriving DecidableEq, Repr

def DriverSpec.driver : DriverSpec → Driver
  | .postgres dsn minSize maxSize => .pooled dsn minSize maxSize false
  | .sqlite path => .file path false false

inductive Lease where
  | connection (number : Nat)
  | file
  deriving DecidableEq, Repr

structure Transaction where
  lease : Lease
  phase : Phase := .active
  deriving DecidableEq, Repr

/-- Transactions are numbered from zero in the order in which they were opened. -/
structure Session where
  context : Context
  driver : Driver
  backend : Backend
  logParameters : Bool := false
  connections : Nat := 0
  transactions : List Transaction := []
  log : List Event := []

abbrev ActionT (m : Type → Type) := ExceptT Failure (StateT Session m)

abbrev Action := ActionT Id

namespace Action

variable {m : Type → Type} [Monad m] {α : Type}

def lift (x : Action α) : ActionT m α :=
  ExceptT.mk fun s => pure (x.run s)

def attempt (x : ActionT m α) : ActionT m (Outcome α) :=
  ExceptT.lift x.run

def conclude (outcome : Outcome α) : ActionT m α :=
  ExceptT.mk (pure outcome)

/-- Cleans up after an action however it went; when both fail, the failure of the cleanup counts. -/
def cleanedUp (x : Action α) (cleanup : Action Unit) : Action α := do
  let outcome ← attempt x
  cleanup
  conclude outcome

def note (n : Notice) : ActionT m Unit :=
  modify fun s => { s with log := s.log ++ [.noted n] }

/-- Asks the database; what was asked is remembered even if the answer is a failure. -/
def request (r : Request) : Action Answer :=
  ExceptT.mk fun s =>
    (s.backend.answer s.log r, { s with log := s.log ++ [.asked r] })

def demand (r : Request) : Action Unit := do
  let _ ← request r

end Action

def Session.ofSettings (r : Registries) (s : Settings) (b : Backend) : Outcome Session := do
  let dialect ← r.dialect s.dialect
  let spec ← r.driver s.dialect s
  return {
    context := { dialect, limit := s.maxIdentifierLength }
    driver := spec.driver
    backend := b
    logParameters := s.logParameters }

end BoundSql
