import BoundSql.Predicate.Filter
import BoundSql.Statement.Kind
/-!
The calls by which a statement is put together, and which kinds of statements have them.
-/

namespace BoundSql

inductive TableWord where
  | from_
  | table
  | into
  deriving DecidableEq, Repr

inductive Call where
  | filter (f : Filter)
  | source (word : TableWord) (table label : Value)
  | select (items : List Value)
  | selectRaw (expression label : Value)
  | distinct (enabled : Value)
  | join (table on label kind : Value)
  | groupBy (columns : List Value)
  | having (f : Filter)
  | havingRaw (fragment params : Value)
  | orderBy (column direction : Value)
  | limit (count : Value)
  | offset (count : Value)
  | values (rows : Value)
  | set (data : Value)
  | onConflict (columns : List Value)
  | merge (columns : List Value)
  | doNothing
  | returning (columns : List Value)
  | unknown

namespace Call

def offeredBy (kind : StatementKind) : Call → Bool
  | filter .unknown => false
  | filter _ => kind == .select || kind == .update || kind == .delete
  | source .from_ _ _ => kind == .select || kind == .delete
  | source .table _ _ => kind != .insert
  | source .into _ _ => kind == .insert || kind == .upsert
  | select _ | selectRaw .. | distinct _ | join .. | groupBy _ | having _ | havingRaw .. | orderBy ..
  | limit _ | offset _ => kind == .select
  | values _ => kind == .insert || kind == .upsert
  | set _ => kind == .update
  | onConflict _ | merge _ | doNothing => kind == .upsert
  | returning _ => kind != .select
  | unknown => false

end Call

end BoundSql
