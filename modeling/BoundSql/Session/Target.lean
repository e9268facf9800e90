import BoundSql.Session.Transaction
/-!
What statements are run on: the database as such, on any connection, or one transaction.
-/

namespace BoundSql

inductive Target where
  | database
  | transaction (number : Nat)
  deriving DecidableEq, Repr

namespace Target

def send (target : Target) (sql : Text) (params : List Value) : Action (List Record) :=
  match target with
  | database => Action.executeAnywhere sql params
  | transaction t => Action.executeIn t sql params

def run (target : Target) (c : Compiled) : Action (List Record) :=
  Action.runThrough target.send c

/-- The values of a statement that a caller wrote; nothing and the empty stand for none. -/
def valuesOf (params : Value) : Outcome (List Value) :=
  if !params.truthy then .ok []
  else
    match params.elements? with
    | some vs => .ok vs
    | none => .error (.misuse (.notIterable params.typeName))

/-- A statement that a caller wrote. Where placeholders are numbered, a text without markers is left
as it is, as it may have numbers of its own. -/
def written (d : Dialect) (sql : Value) (values : List Value) : Outcome Compiled :=
  match sql with
  | .text s =>
    let t := s.toList
    if d.isNumbered && Placeholder.markerCount t = 0 then
      .ok { sql := t, params := values, dialect := d }
    else
      (Placeholder.renumber t 0 values.length).map fun u =>
        { sql := d.render u, params := values, dialect := d }
  | v => .error (.misuse (.notText v.typeName))

def raw (target : Target) (sql params : Value) : Action (List Record) := do
  let ctx := (← get).context
  let values ← Action.conclude (valuesOf params)
  target.run (← Action.conclude (written ctx.dialect sql values))

def hasTable (target : Target) (table schema : Value) : Action Bool := do
  let ctx := (← get).context
  let _ ← Action.conclude (Identifier.quoteValue ctx.limit table)
  let (sql, params) := ctx.dialect.tableProbe table schema
  let rows ← target.run { sql := ctx.dialect.render sql, params, dialect := ctx.dialect }
  return !rows.isEmpty

def dropTable (target : Target) (table cascade : Value) : Action Unit := do
  let ctx := (← get).context
  let quoted ← Action.conclude (Identifier.quoteValue ctx.limit table)
  let _ ← target.run (← Action.plain (ctx.dialect.dropTable quoted cascade.truthy))

def truncate (target : Target) (table cascade : Value) : Action Unit := do
  let ctx := (← get).context
  let quoted ← Action.conclude (Identifier.quoteValue ctx.limit table)
  let _ ← target.run (← Action.plain (ctx.dialect.truncate quoted cascade.truthy))

end Target

end BoundSql
