import BoundSql.Builder.Call
import BoundSql.Builder.Clause
import BoundSql.Statement.Compile
/-!
Builders: a statement that is being put together, and what may no longer be changed once it was
handed over to be run.
-/

namespace BoundSql

structure Builder where
  context : Context
  statement : Statement
  isSealed : Bool := false

namespace Builder

def start (context : Context) (kind : StatementKind) : Builder where
  context := context
  statement := { kind }

def kind (b : Builder) : StatementKind :=
  b.statement.kind

def limit (b : Builder) : Int :=
  b.context.limit

def alreadyExecuted (b : Builder) : Failure :=
  .configuration (.alreadyExecuted b.kind)

/-- A condition is made first, and refused only when there is one to be added. -/
def applyFilter (b : Builder) (f : Filter) : Change :=
  match f.node b.limit with
  | .error e => (b.statement, .error e)
  | .ok none => (b.statement, .ok ())
  | .ok (some n) =>
    if b.isSealed then (b.statement, .error b.alreadyExecuted)
    else (b.statement.addCondition n, .ok ())

def applyOpen (b : Builder) (c : Call) : Change :=
  let s := b.statement
  match c with
  | .filter f => b.applyFilter f
  | .source _ table label => .whole s (s.setSource b.limit table label)
  | .select items => s.select b.limit items
  | .selectRaw expression label => .whole s (s.selectRaw b.limit expression label)
  | .distinct enabled => .whole s (s.setDistinct enabled)
  | .join table on label kind => .whole s (s.addJoin b.limit table on label kind)
  | .groupBy columns => .whole s (s.addGrouping b.limit columns)
  | .having f => .whole s (s.addHaving b.limit f)
  | .havingRaw fragment params => .whole s (s.addHavingRaw fragment params)
  | .orderBy column direction => .whole s (s.addOrdering b.limit column direction)
  | .limit count => .whole s (s.setLimit count)
  | .offset count => .whole s (s.setOffset count)
  | .values rows =>
    if b.kind = .insert then s.appendRows b.limit rows
    else .whole s (s.replaceRow b.limit rows)
  | .set data => .whole s (s.mergeAssignments b.limit data)
  | .onConflict columns => .whole s (s.setConflictColumns b.limit columns)
  | .merge columns => .whole s (s.setMergeColumns b.limit columns)
  | .doNothing => (s.setDoNothing, .ok ())
  | .returning columns => .whole s (s.setReturning b.limit columns)
  | .unknown => (s, .error (.misuse .noMethod))

def change (b : Builder) (c : Call) : Change :=
  if !c.offeredBy b.kind then (b.statement, .error (.misuse .noMethod))
  else
    match c with
    | .filter f => b.applyFilter f
    | c => if b.isSealed then (b.statement, .error b.alreadyExecuted) else b.applyOpen c

def apply (b : Builder) (c : Call) : Builder × Outcome Unit :=
  let (statement, outcome) := b.change c
  ({ b with statement }, outcome)

def applyAll (b : Builder) : List Call → Builder × Outcome Unit
  | [] => (b, .ok ())
  | c :: cs =>
    match b.apply c with
    | (b, .ok ()) => b.applyAll cs
    | (b, .error e) => (b, .error e)

def compile (b : Builder) : Outcome Compiled :=
  b.statement.compile b.context

def compileCount (b : Builder) (column : Value) : Outcome Compiled :=
  b.statement.compileCount b.context column

def inline (b : Builder) : Outcome Text :=
  b.statement.inline b.context

end Builder

end BoundSql
