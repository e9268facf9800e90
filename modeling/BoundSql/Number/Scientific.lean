import BoundSql.Text.Basic
/-!
Decimal notation with an optional point and power of ten, as binary and decimal floating numbers
are read from it. Digits of every script count.
-/

namespace BoundSql

def twoTo (n : Nat) : Nat :=
  Nat.pow 2 n

def tenTo (n : Nat) : Nat :=
  Nat.pow 10 n

/-- The number `coefficient * 10 ^ exponent`, with the sign as written. -/
structure Scientific where
  negative : Bool
  coefficient : Nat
  exponent : Int
  deriving DecidableEq, Repr

def takeSign : Text → Bool × Text
  | '-' :: t => (true, t)
  | '+' :: t => (false, t)
  | t => (false, t)

def withSign (negative : Bool) (n : Nat) : Int :=
  if negative then -(n : Int) else n

def readExponent? : Text → Option Int
  | [] => some 0
  | e :: t =>
    if e = 'e' || e = 'E' then
      let (negative, digits) := takeSign t
      if digits.isEmpty || !digits.all isDecimalDigit then none
      else some (withSign negative (digitsValue digits))
    else none

def readMagnitude? (negative : Bool) (t : Text) : Option Scientific :=
  let whole := t.takeWhile isDecimalDigit
  let rest := t.dropWhile isDecimalDigit
  let (fraction, rest) :=
    match rest with
    | '.' :: u => (u.takeWhile isDecimalDigit, u.dropWhile isDecimalDigit)
    | u => ([], u)
  if whole.isEmpty && fraction.isEmpty then none
  else (readExponent? rest).map fun e =>
    { negative, coefficient := digitsValue (whole ++ fraction), exponent := e - fraction.length }

def lowered (t : Text) : Text :=
  t.map Char.toLower

end BoundSql
