import BoundSql.Predicate.Tree
import BoundSql.Statement.Kind
import BoundSql.Statement.Row
/-!
Statements as data: what the calls of a builder have gathered, of which each kind of statement uses
its own part.
-/

namespace BoundSql

/-- An entry of a select list: a name, or an expression that is written as it stands. -/
structure SelectItem where
  expr : String
  «alias» : Option String := none
  raw : Bool := false
  deriving DecidableEq, Repr

structure Join where
  kind : JoinKind := .inner
  table : String
  «alias» : Option String := none
  on : String
  deriving DecidableEq, Repr

structure Ordering where
  column : String
  direction : Direction := .ascending
  deriving DecidableEq, Repr

structure Statement where
  kind : StatementKind := .select
  table : Option String := none
  «alias» : Option String := none
  items : List SelectItem := []
  distinct : Bool := false
  rows : List Row := []
  assignments : Row := []
  conflictColumns : List String := []
  /-- The columns that an upsert overwrites; all of them when none are named. -/
  mergeColumns : Option (List String) := none
  conflictAction : ConflictAction := .update
  filter : Group := {}
  having : Group := {}
  joins : List Join := []
  grouping : List String := []
  ordering : List Ordering := []
  limit : Option Nat := none
  offset : Option Nat := none
  returning : List String := []

end BoundSql
