import BoundSql.Builder.Clause
/-!
Statements and their parts from named fields. All fields are read, and the faults of all of them are
told together.
-/

namespace BoundSql

namespace SelectItem

def ofFields (expr label raw : Value) : Outcome SelectItem :=
  let fields : Fields := [("expr", expr), ("alias", label), ("raw", raw)]
  Statement.partOf "SelectColumn" do
    let (e, a, r) ← Reading.both (fields.read "expr" "" readText)
      (Reading.both (fields.read "alias" none (readOptional readText))
        (fields.read "raw" false readTruth))
    return { expr := e, «alias» := a, raw := r }

end SelectItem

namespace Join

def ofFields (kind table label on : Value) : Outcome Join :=
  let fields : Fields := [("kind", kind), ("table", table), ("alias", label), ("on", on)]
  Statement.partOf "JoinSpec" do
    let (k, t, a, o) ← Reading.both (fields.read "kind" .inner (readChoice JoinKind.name JoinKind.all))
      (Reading.both (fields.read "table" "" readText)
        (Reading.both (fields.read "alias" none (readOptional readText))
          (fields.read "on" "" readText)))
    return { kind := k, table := t, «alias» := a, on := o }

end Join

namespace Ordering

def ofFields (column direction : Value) : Outcome Ordering :=
  let fields : Fields := [("column", column), ("direction", direction)]
  Statement.partOf "OrderSpec" do
    let (c, d) ← Reading.both (fields.read "column" "" readText)
      (fields.read "direction" .ascending Statement.readDirection)
    return { column := c, direction := d }

end Ordering

/-- A row from a mapping. Keys that are the same text are one column, where the first stood and with
the value of the last. -/
def Row.read (v : Value) : Reading Row :=
  (readMapping v).map (Row.merge [])

namespace Statement

/-- The parts of a statement that are not read from single values. -/
structure Parts where
  items : List SelectItem := []
  filter : Group := {}
  having : Group := {}
  joins : List Join := []
  ordering : List Ordering := []

def fieldNames : List String :=
  ["kind", "table", "alias", "distinct", "rows", "set_values", "conflict_columns",
    "merge_columns", "conflict_action", "group_by", "limit", "offset", "returning"]

def readHead (fields : Fields) : Reading Statement := do
  let (kind, table, label, distinct) ←
    Reading.both (fields.read "kind" .select (readKind StatementKind.name StatementKind.all))
      (Reading.both (fields.read "table" none (readOptional readText))
        (Reading.both (fields.read "alias" none (readOptional readText))
          (fields.read "distinct" false readTruth)))
  return { kind, table, «alias» := label, distinct }

def readData (fields : Fields) : Reading Statement := do
  let (rows, assignments, conflictColumns, mergeColumns, conflictAction) ←
    Reading.both (fields.read "rows" [] (readList Row.read))
      (Reading.both (fields.read "set_values" [] Row.read)
        (Reading.both (fields.read "conflict_columns" [] (readList readText))
          (Reading.both (fields.read "merge_columns" none (readOptional (readList readText)))
            (fields.read "conflict_action" .update
              (readChoice ConflictAction.name ConflictAction.all)))))
  return { rows, assignments, conflictColumns, mergeColumns, conflictAction }

def readTail (fields : Fields) : Reading Statement := do
  let (grouping, limit, offset, returning) ←
    Reading.both (fields.read "group_by" [] (readList readText))
      (Reading.both (fields.read "limit" none (readOptional (readCount 0)))
        (Reading.both (fields.read "offset" none (readOptional (readCount 0)))
          (fields.read "returning" [] (readList readText))))
  return { grouping, limit, offset, returning }

def ofFields (parts : Parts) (fields : Fields) : Outcome Statement :=
  let extra := fields.unexpected fieldNames
  let known := Reading.both (readHead fields) (Reading.both (readData fields) (readTail fields))
  let unknown : Reading Unit := if extra.isEmpty then .ok () else .error extra
  partOf "Statement" do
    let ((head, data, tail), _) ← Reading.both known unknown
    return { head with
      items := parts.items
      rows := data.rows
      assignments := data.assignments
      conflictColumns := data.conflictColumns
      mergeColumns := data.mergeColumns
      conflictAction := data.conflictAction
      filter := parts.filter
      having := parts.having
      joins := parts.joins
      grouping := tail.grouping
      ordering := parts.ordering
      limit := tail.limit
      offset := tail.offset
      returning := tail.returning }

end Statement

end BoundSql
