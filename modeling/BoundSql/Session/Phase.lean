/-!
The life of a transaction: it is active until it is committed or rolled back, and stays so.
-/

namespace BoundSql

inductive Phase where
  | active
  | committed
  | rolledBack
  deriving DecidableEq, Repr

def Phase.name : Phase → String
  | .active => "active"
  | .committed => "committed"
  | .rolledBack => "rolled_back"

end BoundSql
