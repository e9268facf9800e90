import BoundSql.Number.Binary64
import BoundSql.Number.Decimal
import BoundSql.Calendar
import BoundSql.Uuid
/-!
Values that a caller hands over: those that can be bound to a statement, and those that are only
recognised in order to be refused.
-/

namespace BoundSql

inductive Value where
  | null
  | bool (b : Bool)
  | int (n : Int)
  | float (x : Binary64)
  | decimal (d : Decimal)
  | text (s : String)
  | bytes (bs : List UInt8)
  | uuid (u : Uuid)
  | date (d : Date)
  | time (t : TimeOfDay)
  | moment (m : Moment)
  | list (items : List Value)
  | tuple (items : List Value)
  | set (items : List Value)
  | fixedSet (items : List Value)
  | mapping (entries : List (Value × Value))
  | object
  | callback

instance : Inhabited Value := ⟨.null⟩

namespace Value

def typeName : Value → String
  | null => "NoneType"
  | bool _ => "bool"
  | int _ => "int"
  | float _ => "float"
  | decimal _ => "Decimal"
  | text _ => "str"
  | bytes _ => "bytes"
  | uuid _ => "UUID"
  | date _ => "date"
  | time _ => "time"
  | moment _ => "datetime"
  | list _ => "list"
  | tuple _ => "tuple"
  | set _ => "set"
  | fixedSet _ => "frozenset"
  | mapping _ => "dict"
  | object => "object"
  | callback => "Callback"

def truthy : Value → Bool
  | null => false
  | bool b => b
  | int n => n != 0
  | float (.finite _ m _) => m != 0
  | float _ => true
  | decimal (.finite _ c _) => c != 0
  | decimal _ => true
  | text s => !s.isEmpty
  | bytes bs => !bs.isEmpty
  | list xs => !xs.isEmpty
  | tuple xs => !xs.isEmpty
  | set xs => !xs.isEmpty
  | fixedSet xs => !xs.isEmpty
  | mapping es => !es.isEmpty
  | uuid _ | date _ | time _ | moment _ | object | callback => true

def elements? : Value → Option (List Value)
  | text s => some (s.toList.map fun c => text (String.singleton c))
  | bytes bs => some (bs.map fun b => int b.toNat)
  | list xs => some xs
  | tuple xs => some xs
  | set xs => some xs
  | fixedSet xs => some xs
  | mapping es => some (es.map Prod.fst)
  | null | bool _ | int _ | float _ | decimal _ | uuid _ | date _ | time _ | moment _ | object
  | callback => none

mutual

/-- Whether a value can be bound to a statement; a list or tuple can if all its items can. -/
def bindable : Value → Bool
  | null | bool _ | int _ | float _ | decimal _ | text _ | bytes _ | uuid _ | date _ | time _
  | moment _ => true
  | list xs => allBindable xs
  | tuple xs => allBindable xs
  | set _ | fixedSet _ | mapping _ | object | callback => false

def allBindable : List Value → Bool
  | [] => true
  | v :: vs => bindable v && allBindable vs

end

end Value

end BoundSql
