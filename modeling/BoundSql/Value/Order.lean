import BoundSql.Value.Basic
/-!
Equality and order of values. Truth values and all kinds of numbers are compared by the number they
stand for, so sets and mappings hold one of several equal keys; values of unlike kinds are never
equal and have no order.
-/

namespace BoundSql

/-- A number for comparison: `num * 10 ^ power / den`, an infinity, or no number at all. The power
may be too large to be multiplied out. -/
inductive Magnitude where
  | finite (num : Int) (den : Nat) (power : Int)
  | infinite (negative : Bool)
  | none

namespace Magnitude

/-- Compares `x * 10 ^ power` with `y`. A power greater than the number of binary digits of `y`
leaves it to the sign of `x`. -/
def compareRaised (x : Int) (power : Nat) (y : Int) : Ordering :=
  if x = 0 then compare 0 y
  else if y.natAbs.log2 < power then (if x < 0 then .lt else .gt)
  else compare (x * (tenTo power : Int)) y

def compareFinite (a : Int) (b : Nat) (p : Int) (c : Int) (d : Nat) (q : Int) : Ordering :=
  if q ≤ p then compareRaised (a * d) (p - q).natAbs (c * b)
  else (compareRaised (c * b) (q - p).natAbs (a * d)).swap

def same : Magnitude → Magnitude → Bool
  | .finite a b p, .finite c d q => compareFinite a b p c d q == .eq
  | .infinite s, .infinite t => s == t
  | _, _ => false

def less : Magnitude → Magnitude → Bool
  | .finite a b p, .finite c d q => compareFinite a b p c d q == .lt
  | .finite .., .infinite negative => !negative
  | .infinite negative, .finite .. => negative
  | .infinite s, .infinite t => s && !t
  | _, _ => false

def ratio (num : Int) (den : Nat) (power : Int) : Int × Nat :=
  if power < 0 then (num, den * tenTo power.natAbs) else (num * (tenTo power.natAbs : Int), den)

end Magnitude

inductive OrderFault where
  | unlike
  | notNumber
  deriving DecidableEq, Repr

namespace Value

def magnitude? : Value → Option Magnitude
  | bool b => some (.finite (if b then 1 else 0) 1 0)
  | int n => some (.finite n 1 0)
  | float (.finite negative m q) =>
    let (num, den) := Binary64.quotient m q
    some (.finite (withSign negative num) den 0)
  | float (.infinite negative) => some (.infinite negative)
  | float .nan => some .none
  | decimal (.finite negative c e) => some (.finite (withSign negative c) 1 e)
  | decimal (.infinite negative) => some (.infinite negative)
  | decimal (.nan ..) => some .none
  | _ => none

/-- Equality of values that hold no others. Two opaque values are never equal. -/
def sameScalar (v w : Value) : Bool :=
  match v.magnitude?, w.magnitude? with
  | some a, some b => a.same b
  | _, _ =>
    match v, w with
    | null, null => true
    | text s, text t => s == t
    | bytes a, bytes b => a == b
    | uuid a, uuid b => a == b
    | date a, date b => a == b
    | time a, time b => a.offset.isSome == b.offset.isSome && a.same b
    | moment a, moment b => a.time.offset.isSome == b.time.offset.isSome && a.instant == b.instant
    | _, _ => false

mutual

/-- Equality of values. A list is never equal to a tuple; the two kinds of set are alike. -/
def same : Value → Value → Bool
  | list xs, w => match w with
    | list ys => sameItems xs ys
    | _ => false
  | tuple xs, w => match w with
    | tuple ys => sameItems xs ys
    | _ => false
  | set xs, w => match w with
    | set ys | fixedSet ys => xs.length == ys.length && allAmong xs ys
    | _ => false
  | fixedSet xs, w => match w with
    | set ys | fixedSet ys => xs.length == ys.length && allAmong xs ys
    | _ => false
  | mapping es, w => match w with
    | mapping fs => es.length == fs.length && allEntriesAmong es fs
    | _ => false
  | v, w => sameScalar v w

def sameItems : List Value → List Value → Bool
  | [], [] => true
  | x :: xs, y :: ys => same x y && sameItems xs ys
  | _, _ => false

def allAmong : List Value → List Value → Bool
  | [], _ => true
  | x :: xs, ys => ys.any (fun y => same x y) && allAmong xs ys

def allEntriesAmong : List (Value × Value) → List (Value × Value) → Bool
  | [], _ => true
  | (k, v) :: es, fs => fs.any (fun f => same k f.1 && same v f.2) && allEntriesAmong es fs

end

def lessScalar (v w : Value) : Except OrderFault Bool :=
  match v.magnitude?, w.magnitude? with
  | some a, some b =>
    match v, w with
    | decimal (.nan ..), _ | _, decimal (.nan ..) => .error .notNumber
    | decimal _, float .nan | float .nan, decimal _ => .error .notNumber
    | _, _ => .ok (a.less b)
  | _, _ =>
    match v, w with
    | text s, text t => .ok (decide (s.toList < t.toList))
    | bytes a, bytes b => .ok (decide (a < b))
    | uuid a, uuid b => .ok (decide (a.value < b.value))
    | date a, date b => .ok (decide (a.dayNumber < b.dayNumber))
    | time a, time b =>
      if a.offset.isSome == b.offset.isSome then .ok (decide (a.rank < b.rank))
      else .error .unlike
    | moment a, moment b =>
      if a.time.offset.isSome == b.time.offset.isSome then .ok (decide (a.instant < b.instant))
      else .error .unlike
    | _, _ => .error .unlike

mutual

/-- The order of values: sequences of one kind go by their first difference, sets by inclusion. -/
def less : Value → Value → Except OrderFault Bool
  | list xs, w => match w with
    | list ys => lessItems xs ys
    | _ => .error .unlike
  | tuple xs, w => match w with
    | tuple ys => lessItems xs ys
    | _ => .error .unlike
  | set xs, w => match w with
    | set ys | fixedSet ys => .ok (decide (xs.length < ys.length) && allAmong xs ys)
    | _ => .error .unlike
  | fixedSet xs, w => match w with
    | set ys | fixedSet ys => .ok (decide (xs.length < ys.length) && allAmong xs ys)
    | _ => .error .unlike
  | v, w => lessScalar v w

def lessItems : List Value → List Value → Except OrderFault Bool
  | _, [] => .ok false
  | [], _ :: _ => .ok true
  | x :: xs, y :: ys => if same x y then lessItems xs ys else less x y

end

def insertSorted (v : Value) : List Value → Except OrderFault (List Value)
  | [] => .ok [v]
  | w :: ws => do
    if ← less v w then return v :: w :: ws
    return w :: (← insertSorted v ws)

def sorted : List Value → Except OrderFault (List Value)
  | [] => .ok []
  | v :: vs => do insertSorted v (← sorted vs)

def distinctItems (vs : List Value) : List Value :=
  vs.foldl (fun kept v => if kept.any (same v) then kept else kept ++ [v]) []

def putEntry (entries : List (Value × Value)) (key value : Value) : List (Value × Value) :=
  if entries.any fun e => same e.1 key then
    entries.map fun e => if same e.1 key then (e.1, value) else e
  else entries ++ [(key, value)]

/-- The entries of a mapping: each key where it first stood, with the value it had last. -/
def mappingEntries (pairs : List (Value × Value)) : List (Value × Value) :=
  pairs.foldl (fun es p => putEntry es p.1 p.2) []

def lookup? (key : Value) (entries : List (Value × Value)) : Option Value :=
  (entries.find? fun e => same e.1 key).map Prod.snd

end Value

end BoundSql
