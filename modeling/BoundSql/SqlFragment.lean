import BoundSql.Identifier
import BoundSql.Placeholder
/-!
Statement text that a caller wrote: join conditions, select expressions, raw conditions. It is used
as it stands, so it may neither end the statement nor begin a comment, and its values are marked and
not numbered.
-/

namespace BoundSql

namespace SqlFragment

def isNumbered : Text → Bool
  | [] => false
  | c :: t => (c = '$' && t.head?.any isDecimalDigit) || isNumbered t

def check (clause : String) (fragment : Value) : Outcome String :=
  match fragment with
  | .text s =>
    if (trim s.toList).isEmpty then reject (.blankFragment clause)
    else if isDangerous s.toList then reject (.dangerousFragment clause s)
    else if isNumbered s.toList then reject (.numberedFragment clause s)
    else .ok s
  | _ => reject (.blankFragment clause)

end SqlFragment

end BoundSql
