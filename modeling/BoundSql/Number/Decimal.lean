import BoundSql.Number.Binary64
/-!
Decimal floating numbers. Their zeros at the end count, so coefficient and power of ten are kept as
they were read, and both show in the text.
-/

namespace BoundSql

/-- `finite s c e` is `c * 10 ^ e`; the payload of a not-a-number is zero when it has none. -/
inductive Decimal where
  | finite (negative : Bool) (coefficient : Nat) (exponent : Int)
  | infinite (negative : Bool)
  | nan (negative signaling : Bool) (payload : Nat)
  deriving DecidableEq, Repr

namespace Decimal

def readNaN? (negative : Bool) (t : Text) : Option Decimal :=
  let word := lowered t
  let (signaling, word) :=
    match word with
    | 's' :: u => (true, u)
    | u => (false, u)
  match word with
  | 'n' :: 'a' :: 'n' :: digits =>
    if digits.all isDecimalDigit then some (.nan negative signaling (digitsValue digits)) else none
  | _ => none

def ofText? (t : Text) : Option Decimal :=
  let (negative, t) := takeSign ((trim t).filter (· != '_'))
  let word := lowered t
  if word = "inf".toList || word = "infinity".toList then some (.infinite negative)
  else
    match readMagnitude? negative t with
    | some s => some (.finite s.negative s.coefficient s.exponent)
    | none => readNaN? negative t

/-- Positional when no zero has to be added at the end and fewer than six after the point, otherwise
with one digit before the point and a power of ten. -/
def written (coefficient : Nat) (exponent : Int) : Text :=
  let digits := natText coefficient
  let left : Int := digits.length + exponent
  let point : Int := if exponent ≤ 0 && -6 < left then left else 1
  let body :=
    if point ≤ 0 then "0.".toList ++ List.replicate point.natAbs '0' ++ digits
    else if (digits.length : Int) ≤ point then digits
    else digits.take point.natAbs ++ '.' :: digits.drop point.natAbs
  let power := left - point
  if power = 0 then body
  else body ++ 'E' :: (if power < 0 then '-' else '+') :: natText power.natAbs

def text : Decimal → Text
  | .finite negative c e => (if negative then ['-'] else []) ++ written c e
  | .infinite negative => (if negative then ['-'] else []) ++ "Infinity".toList
  | .nan negative signaling payload =>
    (if negative then ['-'] else []) ++ (if signaling then ['s'] else []) ++ "NaN".toList ++
      (if payload = 0 then [] else natText payload)

def nearest : Decimal → Binary64
  | .finite negative c e => Binary64.ofScientific ⟨negative, c, e⟩
  | .infinite negative => .infinite negative
  | .nan .. => .nan

end Decimal

end BoundSql
