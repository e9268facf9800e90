import BoundSql.Session.Driver
/-!
Running a statement: it is noted before and after, and a failure of the database is told together with
the statement that it came from.
-/

namespace BoundSql

namespace Action

def mark (c : Compiled) : Action StatementMark := do
  return {
    dialect := c.dialect
    sql := c.sql
    params := if (← get).logParameters then some c.params else none }

/-- Runs a statement and notes how that went. A failure that the library knows, or an interruption,
passes as it is; any other is reported as a failure of the statement. -/
def runThrough (send : Text → List Value → Action (List Record)) (c : Compiled) :
    Action (List Record) := do
  let mark ← mark c
  note (.executing mark c.params.length)
  match ← attempt (send c.sql c.params) with
  | .ok rows =>
    note (.executed mark rows.length)
    return rows
  | .error e =>
    if e.isOwn || !e.isOrdinary then throw e
    else
      note (.failed mark e)
      throw (.execution c.sql c.params e)

def plain (sql : Text) : Action Compiled := do
  let dialect := (← get).context.dialect
  return { sql := dialect.render sql, params := [], dialect }

end Action

end BoundSql
