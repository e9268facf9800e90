import BoundSql.Session.Execution
/-!
Transactions. A transaction is used on the connection that was set aside for it until it is committed
or rolled back; its connection is given back at that moment, and it cannot be used again.
-/

namespace BoundSql

namespace Failure

/-- Whether a failure is an exception that tells of the end of an iteration, given which kinds do. -/
def endsIteration (ends : String → Bool) : Failure → Bool
  | foreign kind _ => ends kind
  | _ => false

/-- What a failure has become when it leaves a coroutine, where the end of an iteration means nothing. -/
def outOfCoroutine (ends : String → Bool) (e : Failure) : Failure :=
  if e.endsIteration ends then .foreign "RuntimeError" "coroutine raised StopIteration" else e

end Failure

namespace Action

variable {m : Type → Type} [Monad m] {α : Type}

def transaction (t : Nat) : Action Transaction := do
  match (← get).transactions[t]? with
  | some x => return x
  | none => throw (.configuration .executorMissing)

def ensureActive (operation : String) (x : Transaction) : Action Unit :=
  match x.phase with
  | .active => return
  | phase => throw (.finished operation phase)

def executeIn (t : Nat) (sql : Text) (params : List Value) : Action (List Record) := do
  let x ← transaction t
  ensureActive "execute" x
  executeOn x.lease sql params

def control (t : Nat) (sql : Dialect → Text) : Action Unit := do
  let c ← plain (sql (← get).context.dialect)
  let _ ← runThrough (executeIn t) c

def noteStarted : Action Unit := do
  note (.started (← get).context.dialect)

def start (t : Nat) : Action Unit := do
  ensureActive "start" (← transaction t)
  control t Dialect.beginSql
  noteStarted

def setPhase (t : Nat) (phase : Phase) : Action Unit :=
  modify fun s => { s with transactions := s.transactions.modify t fun x => { x with phase } }

def finish (t : Nat) (phase : Phase) : Action Unit := do
  let x ← transaction t
  setPhase t phase
  release x.lease
  note (.finished phase)

def rollback (t : Nat) : Action Unit := do
  ensureActive "rollback" (← transaction t)
  cleanedUp (control t Dialect.rollbackSql) (finish t .rolledBack)

/-- Rolls back after another failure, which is the one to be reported. -/
def abort (t : Nat) : Action Unit :=
  cleanedUp (do
      match ← attempt (control t Dialect.rollbackSql) with
      | .ok () => return
      | .error e => if e.isOrdinary then note (.rollbackFailed e) else throw e)
    (finish t .rolledBack)

def commit (t : Nat) : Action Unit := do
  ensureActive "commit" (← transaction t)
  match ← attempt (control t Dialect.commitSql) with
  | .ok () => finish t .committed
  | .error e =>
    abort t
    throw e

def enroll (lease : Lease) : Action Nat :=
  modifyGet fun s => (s.transactions.length, { s with transactions := s.transactions ++ [{ lease }] })

def startOn (lease : Lease) : Action Unit := do
  let c ← plain (← get).context.dialect.beginSql
  let _ ← runThrough (executeOn lease) c
  noteStarted

def begin : Action Nat := do
  let lease ← reserve
  match ← attempt (startOn lease) with
  | .ok () => enroll lease
  | .error e =>
    release lease
    throw e

/-- Rolls a transaction back because of a failure elsewhere; if it cannot be, this is only noted. -/
def rollbackQuietly (t : Nat) : Action Unit := do
  match ← attempt (rollback t) with
  | .ok () => return
  | .error e => if e.isOwn then note (.rollbackFailed e) else throw e

def phase (t : Nat) : Action Phase := do
  return (← transaction t).phase

/-- What the end of a scope does to a transaction that is still active: it is committed if the scope
ended, and rolled back if it failed. -/
def settle (t : Nat) (outcome : Outcome α) : Action Unit := do
  if (← phase t) = .active then
    match outcome with
    | .ok _ => commit t
    | .error _ => rollbackQuietly t

/-- Runs a body in a transaction of its own, which ends with it. -/
def inTransaction (body : Nat → ActionT m α) : ActionT m α := do
  let t ← lift begin
  let outcome ← attempt (body t)
  lift (settle t outcome)
  conclude outcome

/-- Runs a body in a transaction of its own, and all of it in a coroutine. -/
def withTransaction (ends : String → Bool) (body : Nat → ActionT m α) : ActionT m α := do
  let outcome ← attempt (inTransaction body)
  conclude (outcome.mapError (Failure.outOfCoroutine ends))

end Action

end BoundSql
