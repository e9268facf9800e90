import BoundSql.Statement.Compile
/-!
What happens in a session, in order: what is asked of the database, and what is noted about it.
-/

namespace BoundSql

abbrev Record := List (Value × Value)

inductive Endpoint where
  | driver
  | file
  | connection (number : Nat)
  deriving DecidableEq, Repr

inductive Request where
  | connect
  | disconnect
  | reserve (connection : Nat)
  | createPool (dsn : String) (minSize maxSize : Nat)
  | closePool
  | acquire (connection : Nat)
  | openFile (path : String)
  | closeFile
  | execute (endpoint : Endpoint) (sql : Text) (params : List Value)
  | fetchRows
  | closeCursor
  | release (connection : Nat)

/-- What every note about a running statement says of it; values only where they may be shown. -/
structure StatementMark where
  dialect : Dialect
  sql : Text
  params : Option (List Value)

inductive Notice where
  | compiled (kind : StatementKind) (dialect : Dialect) (paramCount : Nat)
  | executing (mark : StatementMark) (paramCount : Nat)
  | failed (mark : StatementMark) (cause : Failure)
  | executed (mark : StatementMark) (rowCount : Nat)
  | started (dialect : Dialect)
  | finished (phase : Phase)
  | rollbackFailed (cause : Failure)
  | poolConnected (maxSize : Nat)
  | fileConnected (path : String)
  | closed (dialect : Dialect)

namespace Notice

def name : Notice → String
  | compiled .. => "statement.compiled"
  | executing .. => "statement.executing"
  | failed .. => "statement.failed"
  | executed .. => "statement.executed"
  | started _ => "transaction.started"
  | finished _ => "transaction.finished"
  | rollbackFailed _ => "transaction.rollback_failed"
  | poolConnected _ => "driver.connected"
  | fileConnected _ => "driver.connected"
  | closed _ => "driver.closed"

def level : Notice → String
  | compiled .. | executing .. | executed .. | started _ | finished _ => "debug"
  | poolConnected _ | fileConnected _ | closed _ => "info"
  | failed .. => "warning"
  | rollbackFailed _ => "error"

end Notice

inductive Event where
  | asked (request : Request)
  | noted (notice : Notice)

end BoundSql
