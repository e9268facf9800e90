import BoundSql.Text.Quoted
import BoundSql.Value.Basic
/-!
Two texts of a value: the inspected form, which messages show and from which the kind of the value
can be told, and the plain form.
-/

namespace BoundSql

/-- An offset from universal time, as days and seconds and microseconds that are not negative. -/
def inspectOffset (offset : Int) : Text :=
  if offset = 0 then "datetime.timezone.utc".toList
  else
    let days := Int.fdiv offset 86400000000
    let rest := Int.fmod offset 86400000000
    let part (name : String) (n : Int) : List Text :=
      if n = 0 then [] else [name.toList ++ '=' :: intText n]
    "datetime.timezone(datetime.timedelta(".toList ++
      joinWith ", ".toList
        (part "days" days ++ part "seconds" (rest / 1000000) ++ part "microseconds" (rest % 1000000))
      ++ "))".toList

def inspectTime (t : TimeOfDay) : List Text :=
  [natText t.hour, natText t.minute] ++
    (if t.second = 0 && t.microsecond = 0 then [] else [natText t.second]) ++
    (if t.microsecond = 0 then [] else [natText t.microsecond]) ++
    ((t.offset.map fun o => ["tzinfo=".toList ++ inspectOffset o]).getD [])

def inspectDate (d : Date) : List Text :=
  [natText d.year, natText d.month, natText d.day]

def inspectCall (name : String) (arguments : List Text) : Text :=
  name.toList ++ '(' :: joinWith ", ".toList arguments ++ [')']

namespace Value

mutual

def inspect : Value → Text
  | null => "None".toList
  | bool b => if b then "True".toList else "False".toList
  | int n => intText n
  | float x => x.text
  | decimal d => inspectCall "Decimal" ['\'' :: d.text ++ ['\'']]
  | text s => quoted s.toList
  | bytes bs => quotedBytes bs
  | uuid u => inspectCall "UUID" ['\'' :: u.text ++ ['\'']]
  | date d => inspectCall "datetime.date" (inspectDate d)
  | time t => inspectCall "datetime.time" (inspectTime t)
  | moment m => inspectCall "datetime.datetime" (inspectDate m.date ++ inspectTime m.time)
  | list xs => '[' :: joinWith ", ".toList (inspectItems xs) ++ [']']
  | tuple xs => '(' :: joinWith ", ".toList (inspectItems xs) ++
      (if xs.length = 1 then [',', ')'] else [')'])
  | set xs =>
    if xs.isEmpty then "set()".toList
    else '\x7b' :: joinWith ", ".toList (inspectItems xs) ++ ['\x7d']
  | fixedSet xs =>
    if xs.isEmpty then "frozenset()".toList
    else inspectCall "frozenset" ['\x7b' :: joinWith ", ".toList (inspectItems xs) ++ ['\x7d']]
  | mapping es => '\x7b' :: joinWith ", ".toList (inspectEntries es) ++ ['\x7d']
  | object => "<object>".toList
  | callback => "<Callback>".toList

def inspectItems : List Value → List Text
  | [] => []
  | v :: vs => inspect v :: inspectItems vs

def inspectEntries : List (Value × Value) → List Text
  | [] => []
  | (k, v) :: es => (inspect k ++ ':' :: ' ' :: inspect v) :: inspectEntries es

end

/-- The plain form: of texts, numbers and identifiers their content, of all else the inspected
form. -/
def display : Value → Text
  | text s => s.toList
  | decimal d => d.text
  | uuid u => u.text
  | date d => d.text
  | time t => t.text
  | moment m => m.date.text ++ ' ' :: m.time.text
  | v => v.inspect

def inspectTexts (ts : List String) : Text :=
  '[' :: joinWith ", ".toList (ts.map fun t => quoted t.toList) ++ [']']

end Value

end BoundSql
