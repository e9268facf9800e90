import BoundSql.Value.Inspect
/-!
Values as literals of a statement, for reading and not for running.
-/

namespace BoundSql

def doubleQuotes (t : Text) : Text :=
  t.flatMap fun c => if c = '\'' then ['\'', '\''] else [c]

def quoteText (t : Text) : Text :=
  '\'' :: doubleQuotes t ++ ['\'']

def bytesText (bs : List UInt8) : Text :=
  bs.flatMap fun b => hexText 2 b.toNat

namespace Value

mutual

def literal : Value → Text
  | null => "NULL".toList
  | bool b => if b then "TRUE".toList else "FALSE".toList
  | int n => intText n
  | float x => x.text
  | decimal d => d.text
  | date d => '\'' :: d.text ++ ['\'']
  | time t => '\'' :: t.text ++ ['\'']
  | moment m => '\'' :: m.text ++ ['\'']
  | bytes bs => 'X' :: '\'' :: bytesText bs ++ ['\'']
  | list xs => '(' :: joinWith [',', ' '] (literals xs) ++ [')']
  | tuple xs => '(' :: joinWith [',', ' '] (literals xs) ++ [')']
  | text s => quoteText s.toList
  | uuid u => quoteText u.text
  | set xs => quoteText (inspect (.set xs))
  | fixedSet xs => quoteText (inspect (.fixedSet xs))
  | mapping es => quoteText (inspect (.mapping es))
  | object => quoteText (inspect .object)
  | callback => quoteText (inspect .callback)

def literals : List Value → List Text
  | [] => []
  | v :: vs => literal v :: literals vs

end

end Value

end BoundSql
