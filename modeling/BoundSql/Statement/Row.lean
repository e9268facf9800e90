import BoundSql.Failure
/-!
Rows of data: columns in order, each once, and the values that are written into them.
-/

namespace BoundSql

abbrev Row := List (String × Value)

namespace Row

def columns (r : Row) : List String :=
  r.map Prod.fst

def get? (r : Row) (column : String) : Option Value :=
  (r.find? fun e => e.1 == column).map Prod.snd

def values (r : Row) (columns : List String) : Outcome (List Value) :=
  columns.mapM fun c =>
    match r.get? c with
    | some v => .ok v
    | none => .error (.misuse (.missingKey c))

def put (r : Row) (column : String) (value : Value) : Row :=
  if r.any fun e => e.1 == column then
    r.map fun e => if e.1 == column then (column, value) else e
  else r ++ [(column, value)]

def merge (r s : Row) : Row :=
  s.foldl (fun acc e => acc.put e.1 e.2) r

def toValue (r : Row) : Value :=
  .mapping (r.map fun e => (.text e.1, e.2))

/-- The columns of a mapping; the first that is no name or has no value to write is refused. -/
def ofEntries : List (Value × Value) → Outcome Row
  | [] => .ok []
  | (k, v) :: es =>
    match k with
    | .text column =>
      if v.bindable then (ofEntries es).map fun r => (column, v) :: r
      else reject (.rowValue column v.typeName)
    | other => reject (.columnNotText other)

def ofValue : Value → Outcome Row
  | .mapping es => if es.isEmpty then reject .emptyRow else ofEntries es
  | v => reject (.rowNotMapping v.typeName)

def sameColumns (r s : Row) : Bool :=
  r.columns.all s.columns.contains && s.columns.all r.columns.contains

/-- Refuses the first row with other columns than the expected ones; rows count from `index`. -/
def checkColumns (expected : Row) (index : Nat) : List Row → Outcome Unit
  | [] => .ok ()
  | r :: rs =>
    if r.sameColumns expected then checkColumns expected (index + 1) rs
    else reject (.mismatchedRow index r.columns expected.columns)

def uniform (rows : List Row) : Outcome (List Row) :=
  match rows with
  | [] => .ok []
  | r :: rs => (checkColumns r 1 rs).map fun _ => rows

def listOfValue : Value → Outcome (List Row)
  | .mapping es => (ofValue (.mapping es)).bind fun r => uniform [r]
  | .list vs => (vs.mapM ofValue).bind uniform
  | .tuple vs => (vs.mapM ofValue).bind uniform
  | v => reject (.rowsNotRows v.typeName)

end Row

end BoundSql
