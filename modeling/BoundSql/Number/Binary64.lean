import BoundSql.Number.Scientific
import BoundSql.Text.Blank
/-!
Double precision numbers, held as sign, significand and power of two. A number is read from decimal
notation by rounding its exact value to the nearest double, and written with the fewest digits that
read back.
-/

namespace BoundSql

/-- `finite s m q` is `m * 2 ^ q` with `m < 2 ^ 53`, and `2 ^ 52 ≤ m` unless `q` is least. -/
inductive Binary64 where
  | finite (negative : Bool) (significand : Nat) (exponent : Int)
  | infinite (negative : Bool)
  | nan
  deriving DecidableEq, Repr

namespace Binary64

def leastExponent : Int := -1074

def greatestExponent : Int := 971

def zero (negative : Bool) : Binary64 :=
  .finite negative 0 leastExponent

/-- The quotient rounded to a whole number; a half goes to the even neighbour. -/
def roundHalfEven (num den : Nat) : Nat :=
  let q := num / den
  let r := 2 * (num % den)
  if r < den then q else if den < r then q + 1 else q + q % 2

def scaleDown (num den : Nat) (exponent : Int) : Nat × Nat :=
  if exponent < 0 then (num * twoTo exponent.natAbs, den) else (num, den * twoTo exponent.natAbs)

def ofQuotient (negative : Bool) (num den : Nat) : Binary64 :=
  if num = 0 then zero negative
  else
    let guess : Int := (Nat.log2 num : Int) - Nat.log2 den - 52
    let fits (q : Int) : Bool :=
      let (a, b) := scaleDown num den q
      decide (b * twoTo 52 ≤ a)
    let q := max leastExponent (if fits guess then guess else guess - 1)
    let (a, b) := scaleDown num den q
    let m := roundHalfEven a b
    let (m, q) := if m = twoTo 53 then (twoTo 52, q + 1) else (m, q)
    if greatestExponent < q then .infinite negative else .finite negative m q

def ofScientific (s : Scientific) : Binary64 :=
  let digits : Int := (natText s.coefficient).length
  if s.coefficient = 0 || s.exponent + digits < -400 then zero s.negative
  else if 400 < s.exponent + digits then .infinite s.negative
  else if s.exponent < 0 then ofQuotient s.negative s.coefficient (tenTo s.exponent.natAbs)
  else ofQuotient s.negative (s.coefficient * tenTo s.exponent.natAbs) 1

/-- Drops the low lines between digits; one that stands anywhere else makes the text no number. -/
def joinDigits? (before : Bool) : Text → Option Text
  | [] => some []
  | '_' :: c :: t =>
    if before && isDecimalDigit c then (joinDigits? true t).map (c :: ·) else none
  | c :: t => if c = '_' then none else (joinDigits? (isDecimalDigit c) t).map (c :: ·)

def ofText? (t : Text) : Option Binary64 :=
  let (negative, t) := takeSign (trim t)
  let word := lowered t
  if word = "inf".toList || word = "infinity".toList then some (.infinite negative)
  else if word = "nan".toList then some .nan
  else (joinDigits? false t).bind fun u => (readMagnitude? negative u).map ofScientific

def quotient (significand : Nat) (exponent : Int) : Nat × Nat :=
  if exponent < 0 then (significand, twoTo exponent.natAbs) else (significand * twoTo exponent.natAbs, 1)

/-- How many places stand before the point: the least `p` with `num / den < 10 ^ p`. -/
def places (num den : Nat) : Int :=
  let guess : Int := ((natText num).length : Int) - (natText den).length
  let below (p : Int) : Bool :=
    if p < 0 then decide (num * tenTo p.natAbs < den) else decide (num < den * tenTo p.natAbs)
  if below guess then guess else guess + 1

/-- The nearest of the numbers `f * 10 ^ p` and `(f + 1) * 10 ^ p` around `value / unit` that lies in
the interval, all four being counted in the same unit. A tie goes to the even one. -/
def nearestOnGrid? (low value high unit : Nat) (closed : Bool) (p : Int) : Option Nat :=
  let up (x : Nat) : Nat := if p < 0 then x * tenTo p.natAbs else x
  let step : Nat := if p < 0 then unit else unit * tenTo p.natAbs
  let inside (f : Nat) : Bool :=
    let x := f * step
    if closed then decide (up low ≤ x) && decide (x ≤ up high)
    else decide (up low < x) && decide (x < up high)
  let f := up value / step
  let r := 2 * (up value % step)
  match inside f, inside (f + 1) with
  | false, false => none
  | true, false => some f
  | false, true => some (f + 1)
  | true, true => some (if r < step then f else if step < r then f + 1 else f + f % 2)

/-- The first grid with a number in the interval; `fuel` grids are tried, each ten times as fine. -/
def shortestFrom (low value high unit : Nat) (closed : Bool) (p : Int) : Nat → Nat × Int
  | 0 => (value / unit, 0)
  | fuel + 1 =>
    match nearestOnGrid? low value high unit closed p with
    | some d => (d, p)
    | none => shortestFrom low value high unit closed (p - 1) fuel

/-- The number with the fewest digits among those that round to the double, and of these the
nearest, as digits and power of ten. Seventeen digits always suffice. -/
def shortest (significand : Nat) (exponent : Int) : Nat × Int :=
  let (num, den) := quotient significand exponent
  let (_, half) := quotient 1 exponent
  let wide := if exponent < 0 then 1 else twoTo exponent.natAbs
  let below := if significand = twoTo 52 && exponent ≠ leastExponent then 1 else 2
  shortestFrom (4 * num - below * wide) (4 * num) (4 * num + 2 * wide) (4 * half)
    (significand % 2 = 0) (places num den - 1) 17

def dropZeros (digits : Nat) (exponent : Int) : Nat → Nat × Int
  | 0 => (digits, exponent)
  | fuel + 1 =>
    if digits ≠ 0 && digits % 10 = 0 then dropZeros (digits / 10) (exponent + 1) fuel
    else (digits, exponent)

/-- Digits and a power of ten, positional from `10 ^ -4` up to `10 ^ 16` and with one place after
the point at least, otherwise with a power that has a sign and two digits. -/
def written (digits : Nat) (exponent : Int) : Text :=
  let ds := natText digits
  let point : Int := ds.length + exponent
  if -4 < point && point ≤ 16 then
    if point ≤ 0 then "0.".toList ++ List.replicate point.natAbs '0' ++ ds
    else if (ds.length : Int) ≤ point then
      ds ++ List.replicate (point - ds.length).natAbs '0' ++ ".0".toList
    else ds.take point.natAbs ++ '.' :: ds.drop point.natAbs
  else
    let power := point - 1
    let mantissa :=
      match ds with
      | d :: e :: rest => d :: '.' :: e :: rest
      | ds => ds
    mantissa ++ 'e' :: (if power < 0 then '-' else '+') :: paddedText 2 power.natAbs

def text : Binary64 → Text
  | .nan => "nan".toList
  | .infinite negative => if negative then "-inf".toList else "inf".toList
  | .finite negative m q =>
    let body :=
      if m = 0 then "0.0".toList
      else
        let (digits, exponent) := shortest m q
        let (digits, exponent) := dropZeros digits exponent 17
        written digits exponent
    if negative then '-' :: body else body

end Binary64

end BoundSql
