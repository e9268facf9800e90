import BoundSql.Literal
import BoundSql.Placeholder
import BoundSql.Predicate.Operator
import BoundSql.Value.Order
/-!
The two dialects. Statements are assembled with numbered placeholders; a dialect says how they are
written in the end, how patterns are compared without regard to case, and what tables are asked
about and removed with.
-/

namespace BoundSql

inductive Dialect where
  | postgres
  | sqlite
  deriving DecidableEq, Repr

namespace Dialect

def name : Dialect → String
  | postgres => "postgres"
  | sqlite => "sqlite"

def isNumbered : Dialect → Bool
  | postgres => true
  | sqlite => false

def paramStyle (d : Dialect) : String :=
  if d.isNumbered then "numeric" else "qmark"

def render : Dialect → Text → Text
  | postgres, t => t
  | sqlite, t => Placeholder.positional ['?'] t

/-- A comparison with a pattern; without an operator of its own for it, case is taken away on both
sides. -/
def renderPattern (d : Dialect) (column : Text) (operator : Operator) (placeholder : Text) : Text :=
  match d, operator with
  | sqlite, .ilike => "LOWER(".toList ++ column ++ ") LIKE LOWER(".toList ++ placeholder ++ [')']
  | sqlite, .notIlike =>
    "LOWER(".toList ++ column ++ ") NOT LIKE LOWER(".toList ++ placeholder ++ [')']
  | _, _ => column ++ ' ' :: operator.symbol.toList ++ ' ' :: placeholder

def beginSql (_ : Dialect) : Text := "BEGIN".toList

def commitSql (_ : Dialect) : Text := "COMMIT".toList

def rollbackSql (_ : Dialect) : Text := "ROLLBACK".toList

def defaultSchema : Value := .text "public"

/-- A statement that gives a row when the table exists, and its values. -/
def tableProbe (d : Dialect) (table schema : Value) : Text × List Value :=
  match d with
  | postgres =>
    ("SELECT 1 FROM information_schema.tables WHERE table_schema = $1 AND table_name = $2".toList,
      [if schema.truthy then schema else defaultSchema, table])
  | sqlite =>
    ("SELECT name FROM sqlite_master WHERE type = 'table' AND name = $1".toList, [table])

def cascadeText (d : Dialect) (cascade : Bool) : Text :=
  match d with
  | postgres => if cascade then " CASCADE".toList else []
  | sqlite => []

def dropTable (d : Dialect) (table : Text) (cascade : Bool) : Text :=
  "DROP TABLE IF EXISTS ".toList ++ table ++ d.cascadeText cascade

def truncate (d : Dialect) (table : Text) (cascade : Bool) : Text :=
  match d with
  | postgres => "TRUNCATE TABLE ".toList ++ table ++ d.cascadeText cascade
  | sqlite => "DELETE FROM ".toList ++ table

def inline (_ : Dialect) (sql : Text) (params : List Value) : Outcome Text :=
  (Placeholder.fill Value.literal params sql).mapError .misuse

def literalUnder (entries : List (Value × Value)) (n : Int) : Except Misuse Text :=
  match Value.lookup? (.int n) entries with
  | some v => .ok v.literal
  | none => .error (.missingKey (String.ofList (intText n)))

/-- The same with the values in a container: items, characters and bytes stand in order, a mapping
has them under numbers from zero, and nothing else gives a value for a number. -/
def inlineFrom (d : Dialect) (sql : Text) (container : Value) : Outcome Text :=
  let filled (textAt : Nat → Except Misuse Text) : Outcome Text :=
    (Placeholder.fillWith Numeral.maxDigits textAt sql).mapError .misuse
  match container with
  | .mapping es => filled fun n => literalUnder es ((n : Int) - 1)
  | .list _ | .tuple _ | .text _ | .bytes _ => d.inline sql (container.elements?.getD [])
  | v => filled fun _ => .error (.notIndexed v.typeName)

end Dialect

end BoundSql
