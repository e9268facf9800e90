import BoundSql.Predicate.Compile
import BoundSql.Statement.Basic
/-!
The text of statements. Every kind is assembled with numbered placeholders, whose numbers run from
one upwards in the order of the values; the dialect gives them its own form at the end.
-/

namespace BoundSql

structure Compiled where
  sql : Text
  params : List Value
  dialect : Dialect

namespace Statement

def requireTable (s : Statement) (method : String) : Outcome String :=
  match s.table with
  | some t => if t.isEmpty then .error (.configuration (.tableMissing method)) else .ok t
  | none => .error (.configuration (.tableMissing method))

def withAlias (ctx : Context) (sql : Text) (label : Option String) : Outcome Text :=
  match label with
  | none => .ok sql
  | some a =>
    if a.isEmpty then .ok sql
    else (ctx.quote a).map fun q => sql ++ " AS ".toList ++ q

def itemText (ctx : Context) (item : SelectItem) : Outcome Text := do
  let sql ← if item.raw || item.expr = "*" then .ok item.expr.toList else ctx.quote item.expr
  withAlias ctx sql item.alias

def selectText (ctx : Context) (s : Statement) : Outcome Text := do
  let head := (if s.distinct then "SELECT DISTINCT " else "SELECT ").toList
  let items ← s.items.mapM (itemText ctx)
  return head ++ (if items.isEmpty then ['*'] else joinWith [',', ' '] items)

def sourceText (ctx : Context) (table : String) (label : Option String) : Outcome Text := do
  withAlias ctx (← ctx.quote table) label

def joinText (ctx : Context) (j : Join) : Outcome Text := do
  let source ← sourceText ctx j.table j.alias
  return j.kind.name.toList ++ " JOIN ".toList ++ source ++ " ON ".toList ++ j.on.toList

def orderingText (ctx : Context) (o : Ordering) : Outcome Text := do
  return (← ctx.quote o.column) ++ ' ' :: o.direction.name.toList

def clauseText (word : String) (body : Text) : List Text :=
  if body.isEmpty then [] else [word.toList ++ ' ' :: body]

def clauseAfter (word : String) (body : Text) : Text :=
  (clauseText word body).flatMap (' ' :: ·)

def groupingText (ctx : Context) (s : Statement) : Outcome (List Text) :=
  if s.grouping.isEmpty then .ok []
  else (ctx.quoteAll s.grouping).map fun t => ["GROUP BY ".toList ++ t]

def orderingClause (ctx : Context) (s : Statement) : Outcome (List Text) :=
  if s.ordering.isEmpty then .ok []
  else (s.ordering.mapM (orderingText ctx)).map fun ts =>
    ["ORDER BY ".toList ++ joinWith [',', ' '] ts]

def countClause (word : String) : Option Nat → List Text
  | none => []
  | some n => [word.toList ++ ' ' :: natText n]

def withReturning (ctx : Context) (s : Statement) (sql : Text) : Outcome Text :=
  if s.returning.isEmpty then .ok sql
  else if s.returning.contains "*" then .ok (sql ++ " RETURNING *".toList)
  else (ctx.quoteAll s.returning).map fun t => sql ++ " RETURNING ".toList ++ t

def assignmentText (ctx : Context) (columns : List String) : Outcome Text := do
  let names ← columns.mapM ctx.quote
  let parts := (names.zip (slotTexts 0 names.length)).map fun p => p.1 ++ " = ".toList ++ p.2
  return joinWith [',', ' '] parts

def compileSelect (ctx : Context) (s : Statement) : Outcome BoundText := do
  let table ← s.requireTable "from_"
  let head ← selectText ctx s
  let source ← sourceText ctx table s.alias
  let joins ← s.joins.mapM (joinText ctx)
  let filter ← s.filter.compile ctx 0
  let grouping ← groupingText ctx s
  let having ← s.having.compile ctx filter.params.length
  let ordering ← orderingClause ctx s
  let parts := [head, "FROM ".toList ++ source] ++ joins ++ clauseText "WHERE" filter.sql ++
    grouping ++ clauseText "HAVING" having.sql ++ ordering ++ countClause "LIMIT" s.limit ++
    countClause "OFFSET" s.offset
  return { sql := joinWith [' '] parts, params := filter.params ++ having.params }

def rowTexts (columns : Nat) (offset : Int) : Nat → List Text
  | 0 => []
  | n + 1 => ('(' :: joinWith [',', ' '] (slotTexts offset columns) ++ [')']) ::
      rowTexts columns (offset + columns) n

def insertHead (ctx : Context) (table : String) (columns : List String) : Outcome Text := do
  let target ← ctx.quote table
  let names ← ctx.quoteAll columns
  return "INSERT INTO ".toList ++ target ++ " (".toList ++ names ++ ") VALUES ".toList

/-- The columns are those of the first row, and every row gives its values in their order. -/
def compileInsert (ctx : Context) (s : Statement) : Outcome BoundText := do
  let table ← s.requireTable "into"
  match s.rows with
  | [] => .error (.configuration (.rowsMissing .insert))
  | row :: rest =>
    let columns := row.columns
    let params ← (row :: rest).mapM fun r => r.values columns
    let head ← insertHead ctx table columns
    let groups := rowTexts columns.length 0 (rest.length + 1)
    let sql ← withReturning ctx s (head ++ joinWith [',', ' '] groups)
    return { sql, params := params.flatten }

/-- The conditions are numbered from one and then moved behind the assignments. -/
def compileUpdate (ctx : Context) (s : Statement) : Outcome BoundText := do
  let table ← s.requireTable "table"
  if s.assignments.isEmpty then .error (.configuration .assignmentsMissing)
  else
    let set ← assignmentText ctx s.assignments.columns
    let values ← s.assignments.values s.assignments.columns
    let target ← ctx.quote table
    let filter ← s.filter.compile ctx 0
    let params := values ++ filter.params
    let moved ←
      (Placeholder.shiftWithin (Placeholder.maxDigits params.length) values.length
        filter.sql).mapError .misuse
    let sql := "UPDATE ".toList ++ target ++ " SET ".toList ++ set ++ clauseAfter "WHERE" moved
    return { sql := ← withReturning ctx s sql, params }

def compileDelete (ctx : Context) (s : Statement) : Outcome BoundText := do
  let table ← s.requireTable "from_"
  let target ← ctx.quote table
  let filter ← s.filter.compile ctx 0
  let sql := "DELETE FROM ".toList ++ target ++ clauseAfter "WHERE" filter.sql
  return { sql := ← withReturning ctx s sql, params := filter.params }

/-- The columns that are overwritten must be columns of the row, and at least one. -/
def mergeTargets (s : Statement) (row : Row) : Outcome (List String) :=
  let targets := s.mergeColumns.getD row.columns
  let unknown := targets.filter fun c => !row.columns.contains c
  if !unknown.isEmpty || targets.isEmpty then reject (.mergeColumns unknown row.columns)
  else .ok targets

def compileUpsert (ctx : Context) (s : Statement) : Outcome BoundText := do
  let table ← s.requireTable "into"
  match s.rows with
  | [] => .error (.configuration (.rowsMissing .upsert))
  | row :: _ =>
    if s.conflictColumns.isEmpty then .error (.configuration .conflictMissing)
    else
      let columns := row.columns
      let values := row.map Prod.snd
      let conflict ← ctx.quoteAll s.conflictColumns
      let head ← insertHead ctx table columns
      let sql := head ++ '(' :: joinWith [',', ' '] (slotTexts 0 values.length) ++
        ") ON CONFLICT (".toList ++ conflict ++ [')']
      match s.conflictAction with
      | .nothing =>
        return { sql := ← withReturning ctx s (sql ++ " DO NOTHING".toList), params := values }
      | .update =>
        let targets ← mergeTargets s row
        let set ← assignmentText ctx targets
        let merged ← row.values targets
        let sql := sql ++ " DO UPDATE SET ".toList ++ Placeholder.shift values.length set
        return { sql := ← withReturning ctx s sql, params := values ++ merged }

def compileNumbered (ctx : Context) (s : Statement) : Outcome BoundText :=
  match s.kind with
  | .select => s.compileSelect ctx
  | .insert => s.compileInsert ctx
  | .update => s.compileUpdate ctx
  | .delete => s.compileDelete ctx
  | .upsert => s.compileUpsert ctx

def render (ctx : Context) (b : BoundText) : Compiled where
  sql := ctx.dialect.render b.sql
  params := b.params
  dialect := ctx.dialect

def compile (ctx : Context) (s : Statement) : Outcome Compiled :=
  (s.compileNumbered ctx).map (render ctx)

/-- Whether the number of rows can only be had by counting the rows of the whole statement. -/
def countsAsWhole (s : Statement) : Bool :=
  s.distinct || !s.grouping.isEmpty

def countTarget (ctx : Context) (column : Value) : Outcome Text :=
  match column with
  | .text s => if s = "*" then .ok ['*'] else ctx.quote s
  | v => reject (.identifier v .notText)

def counted (s : Statement) (target : Text) : Statement :=
  { s with
    items := [{ expr := String.ofList ("COUNT(".toList ++ target ++ [')']), «alias» := some "count",
                raw := true }]
    ordering := []
    limit := none
    offset := none }

def countOf (target : Text) (b : BoundText) : BoundText :=
  { b with sql := "SELECT COUNT(".toList ++ target ++ ") AS \"count\" FROM (".toList ++ b.sql ++
      ") AS \"sub\"".toList }

def countNumbered (ctx : Context) (s : Statement) (column : Value) : Outcome BoundText := do
  let target ← countTarget ctx column
  if s.countsAsWhole then (s.compileNumbered ctx).map (countOf target)
  else (s.counted target).compileNumbered ctx

def compileCount (ctx : Context) (s : Statement) (column : Value) : Outcome Compiled :=
  (s.countNumbered ctx column).map (render ctx)

def limitedToOne (s : Statement) : Statement :=
  { s with limit := some 1 }

def inline (ctx : Context) (s : Statement) : Outcome Text := do
  let b ← s.compileNumbered ctx
  ctx.dialect.inline b.sql b.params

end Statement

end BoundSql
