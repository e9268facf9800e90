import BoundSql.Failure
import BoundSql.Number.Numeral
/-!
The whole number that a value stands for: of a number what is before its point, of a text what it
writes.
-/

namespace BoundSql

namespace Value

def ofNumeral (t : Text) : Outcome Int :=
  (Numeral.read t).mapError fun _ => .misuse .unreadableWhole

/-- The whole number of a numeral in bytes, all of which have to be ASCII. -/
def ofNumeralBytes (bs : List UInt8) : Outcome Int :=
  if bs.all (· < 128) then ofNumeral (bs.map fun b => Char.ofNat b.toNat)
  else .error (.misuse .unreadableWhole)

def whole (v : Value) : Outcome Int :=
  match v with
  | .text s => ofNumeral s.toList
  | .bytes bs => ofNumeralBytes bs
  | .uuid u => .ok u.value
  | v =>
    match v.magnitude? with
    | some (.finite num den power) =>
      let (n, d) := Magnitude.ratio num den power
      .ok (n.tdiv d)
    | some (.infinite _) => .error (.misuse .infiniteWhole)
    | some .none => .error (.misuse .unreadableWhole)
    | none => .error (.misuse (.notWhole v.typeName))

end Value

end BoundSql
