import BoundSql.Predicate.Filter
import BoundSql.Statement.Basic
/-!
What single calls do to a statement. Each one either gives the changed statement or fails; two of
them work item by item and keep what they have done when a later item is refused.
-/

namespace BoundSql

/-- A change that may stop half way: the statement as it is then, and how the call ended. -/
abbrev Change := Statement × Outcome Unit

namespace Change

/-- A change that is made as a whole or not at all. -/
def whole (before : Statement) : Outcome Statement → Change
  | .ok after => (after, .ok ())
  | .error e => (before, .error e)

end Change

mutual

/-- Items with those of inner lists in the place of the lists. -/
def flattenItem : Value → List Value
  | .list vs => flattenItems vs
  | .tuple vs => flattenItems vs
  | v => [v]

def flattenItems : List Value → List Value
  | [] => []
  | v :: vs => flattenItem v ++ flattenItems vs

end

namespace Statement

def optionalName (limit : Int) : Value → Outcome (Option String)
  | .null => .ok none
  | v => (Identifier.nameOf limit v).map some

def namesOf (limit : Int) (columns : List Value) : Outcome (List String) :=
  columns.mapM (Identifier.nameOf limit)

def setSource (limit : Int) (table label : Value) (s : Statement) : Outcome Statement := do
  let name ← Identifier.nameOf limit table
  let other ← optionalName limit label
  return { s with table := some name, «alias» := other }

/-- The entries that an item of a select call asks for: an expression and another name for it. -/
def selectRequests : Value → List (Outcome (Value × Value))
  | .text name => [.ok (.text name, .null)]
  | .mapping es => es.map fun e => .ok (e.2, e.1)
  | v => [reject (.selectItem v)]

def selectItem (limit : Int) (expr label : Value) : Outcome SelectItem := do
  let name ←
    match expr with
    | .text "*" => .ok "*"
    | v => Identifier.nameOf limit v
  return { expr := name, «alias» := ← optionalName limit label }

def addItems (limit : Int) (s : Statement) : List (Outcome (Value × Value)) → Change
  | [] => (s, .ok ())
  | request :: requests =>
    match request.bind fun r => selectItem limit r.1 r.2 with
    | .error e => (s, .error e)
    | .ok item => addItems limit { s with items := s.items ++ [item] } requests

def select (limit : Int) (items : List Value) (s : Statement) : Change :=
  addItems limit s ((flattenItems items).flatMap selectRequests)

def selectRaw (limit : Int) (expression label : Value) (s : Statement) : Outcome Statement := do
  let expr ← SqlFragment.check "SELECT" expression
  let other ← optionalName limit label
  return { s with items := s.items ++ [{ expr, «alias» := other, raw := true }] }

def assigned {α : Type} (field : String) (read : Value → Reading α) (v : Value) : Outcome α :=
  match read v with
  | .ok a => .ok a
  | .error (f :: _) => reject (.fieldValue field v f.defect)
  | .error [] => reject (.invalidPart field [])

def setDistinct (enabled : Value) (s : Statement) : Outcome Statement :=
  (assigned "distinct" readTruth enabled).map fun b => { s with distinct := b }

def setLimit (count : Value) (s : Statement) : Outcome Statement :=
  (assigned "limit" (readOptional (readCount 0)) count).map fun n => { s with limit := n }

def setOffset (count : Value) (s : Statement) : Outcome Statement :=
  (assigned "offset" (readOptional (readCount 0)) count).map fun n => { s with offset := n }

def partOf {α : Type} (part : String) (r : Reading α) : Outcome α :=
  r.mapError fun faults => .rejected (.invalidPart part faults)

def capitalWord : Value → Outcome Value
  | .text s => .ok (.text (String.ofList (upper s.toList)))
  | .bytes bs => .ok (.bytes bs)
  | v => .error (.misuse (.noCapitals v.typeName))

def addJoin (limit : Int) (table on label kind : Value) (s : Statement) : Outcome Statement := do
  let name ← Identifier.nameOf limit table
  let other ← optionalName limit label
  let condition ← SqlFragment.check "JOIN" on
  let word ← capitalWord kind
  let joinKind ← partOf "JoinSpec"
    ((readChoice JoinKind.name JoinKind.all word).mapError (FieldFault.within (.name "kind")))
  let join := { kind := joinKind, table := name, «alias» := other, on := condition }
  return { s with joins := s.joins ++ [join] }

def addGrouping (limit : Int) (columns : List Value) (s : Statement) : Outcome Statement :=
  (namesOf limit (flattenItems columns)).map fun names =>
    { s with grouping := s.grouping ++ names }

def readDirection (v : Value) : Reading Direction :=
  let word :=
    match v with
    | .text s => .text (String.ofList (upper s.toList))
    | v => v
  readChoice Direction.name Direction.all word

def addOrdering (limit : Int) (column direction : Value) (s : Statement) : Outcome Statement := do
  let name ← Identifier.nameOf limit column
  let d ← partOf "OrderSpec"
    ((readDirection direction).mapError (FieldFault.within (.name "direction")))
  return { s with ordering := s.ordering ++ [{ column := name, direction := d }] }

def addCondition (n : Node) (s : Statement) : Statement :=
  { s with filter := s.filter.push n }

def addHaving (limit : Int) (f : Filter) (s : Statement) : Outcome Statement :=
  (s.having.add limit f).map fun g => { s with having := g }

def addHavingRaw (fragment params : Value) (s : Statement) : Outcome Statement :=
  (Condition.makeRaw .and "HAVING" fragment params).map fun c =>
    { s with having := s.having.push (.leaf c) }

/-- Appends rows. They are stored before the names of their columns are looked at. -/
def appendRows (limit : Int) (rows : Value) (s : Statement) : Change :=
  match (Row.listOfValue rows).bind fun added => Row.uniform (s.rows ++ added) with
  | .error e => (s, .error e)
  | .ok all =>
    let columns := ((all.head?).map Row.columns).getD []
    ({ s with rows := all }, (columns.mapM (Identifier.quoteName limit)).map fun _ => ())

def writableRow (limit : Int) (data : Value) : Outcome Row := do
  let row ← Row.ofValue data
  let _ ← row.columns.mapM (Identifier.quoteName limit)
  return row

def replaceRow (limit : Int) (data : Value) (s : Statement) : Outcome Statement :=
  (writableRow limit data).map fun row => { s with rows := [row] }

/-- Merges assignments; a later one of a column replaces the earlier one and keeps its place. -/
def mergeAssignments (limit : Int) (data : Value) (s : Statement) : Outcome Statement :=
  (writableRow limit data).map fun row => { s with assignments := s.assignments.merge row }

def setConflictColumns (limit : Int) (columns : List Value) (s : Statement) : Outcome Statement :=
  (namesOf limit (flattenItems columns)).map fun names => { s with conflictColumns := names }

def setMergeColumns (limit : Int) (columns : List Value) (s : Statement) : Outcome Statement :=
  (namesOf limit (flattenItems columns)).map fun names =>
    { s with
      mergeColumns := if names.isEmpty then none else some names
      conflictAction := .update }

def setDoNothing (s : Statement) : Statement :=
  { s with conflictAction := .nothing }

def returnedName (limit : Int) : Value → Outcome String
  | .text "*" => .ok "*"
  | v => Identifier.nameOf limit v

def setReturning (limit : Int) (columns : List Value) (s : Statement) : Outcome Statement :=
  if columns.isEmpty then .ok { s with returning := ["*"] }
  else (columns.mapM (returnedName limit)).map fun names => { s with returning := names }

end Statement

end BoundSql
