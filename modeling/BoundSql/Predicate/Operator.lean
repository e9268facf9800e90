import BoundSql.Text.Blank
import BoundSql.Text.Upper
/-!
The closed set of comparison operators, and how a caller's spelling of one is resolved.
-/

namespace BoundSql

inductive Operator where
  | equal
  | notEqual
  | greater
  | less
  | greaterOrEqual
  | lessOrEqual
  | like
  | ilike
  | notLike
  | notIlike
  | among
  | notAmong
  | isNull
  | isNotNull
  | raw
  deriving DecidableEq, Repr

namespace Operator

def all : List Operator :=
  [equal, notEqual, greater, less, greaterOrEqual, lessOrEqual, like, ilike, notLike, notIlike,
    among, notAmong, isNull, isNotNull, raw]

def symbol : Operator → String
  | equal => "="
  | notEqual => "!="
  | greater => ">"
  | less => "<"
  | greaterOrEqual => ">="
  | lessOrEqual => "<="
  | like => "LIKE"
  | ilike => "ILIKE"
  | notLike => "NOT LIKE"
  | notIlike => "NOT ILIKE"
  | among => "IN"
  | notAmong => "NOT IN"
  | isNull => "IS NULL"
  | isNotNull => "IS NOT NULL"
  | raw => "RAW"

def ofSymbol? (s : Text) : Option Operator :=
  all.find? fun o => o.symbol.toList == s

def normalForm (t : Text) : Text :=
  joinWith [' '] (words (upper t))

/-- Resolves a caller's spelling; `<>` is another sign for `!=`. -/
def ofText? (t : Text) : Option Operator :=
  let form := normalForm t
  ofSymbol? (if form = ['<', '>'] then ['!', '='] else form)

def takesValue : Operator → Bool
  | isNull | isNotNull => false
  | _ => true

def takesList : Operator → Bool
  | among | notAmong => true
  | _ => false

def isPattern : Operator → Bool
  | like | ilike | notLike | notIlike => true
  | _ => false

end Operator

inductive Conjunction where
  | and
  | or
  deriving DecidableEq, Repr

def Conjunction.symbol : Conjunction → String
  | .and => "AND"
  | .or => "OR"

end BoundSql
