import BoundSql.Number.Numeral
import BoundSql.Value.Inspect
import BoundSql.Value.Order
/-!
Reading typed fields from values. A reader either gives the field's content or says what is wrong
with the value and where; the faults of all fields are collected in the order of the fields.
-/

namespace BoundSql

inductive Defect where
  | notInteger
  | unreadableInteger
  | oversizedInteger
  | fractionalInteger
  | notFinite
  | below (least : Nat)
  | notTruth
  | unreadableTruth
  | notText
  | undecodableText
  | notAChoice (choices : List String)
  | notAKind (choices : List String)
  | notList
  | notMapping
  | unexpected
  | refused (reason : String)
  deriving DecidableEq, Repr

namespace Defect

def code : Defect → String
  | notInteger => "int_type"
  | unreadableInteger => "int_parsing"
  | oversizedInteger => "int_parsing_size"
  | fractionalInteger => "int_from_float"
  | notFinite => "finite_number"
  | below _ => "greater_than_equal"
  | notTruth => "bool_type"
  | unreadableTruth => "bool_parsing"
  | notText => "string_type"
  | undecodableText => "string_unicode"
  | notAChoice _ => "literal_error"
  | notAKind _ => "enum"
  | notList => "list_type"
  | notMapping => "dict_type"
  | unexpected => "extra_forbidden"
  | refused _ => "value_error"

def choiceText (choices : List String) : String :=
  let marked := choices.map fun c => "'" ++ c ++ "'"
  match marked.reverse with
  | last :: second :: rest => ", ".intercalate (second :: rest).reverse ++ " or " ++ last
  | _ => "".intercalate marked

def message : Defect → String
  | notInteger => "Input should be a valid integer"
  | unreadableInteger => "Input should be a valid integer, unable to parse string as an integer"
  | oversizedInteger => "Unable to parse input string as an integer, exceeded maximum size"
  | fractionalInteger =>
    "Input should be a valid integer, got a number with a fractional part"
  | notFinite => "Input should be a finite number"
  | below least => "Input should be greater than or equal to " ++ String.ofList (natText least)
  | notTruth => "Input should be a valid boolean"
  | unreadableTruth => "Input should be a valid boolean, unable to interpret input"
  | notText => "Input should be a valid string"
  | undecodableText =>
    "Input should be a valid string, unable to parse raw data as a unicode string"
  | notAChoice choices => "Input should be " ++ choiceText choices
  | notAKind choices => "Input should be " ++ choiceText choices
  | notList => "Input should be a valid list"
  | notMapping => "Input should be a valid dictionary"
  | unexpected => "Extra inputs are not permitted"
  | refused reason => "Value error, " ++ reason

end Defect

inductive PathStep where
  | name (s : String)
  | index (n : Int)
  deriving DecidableEq, Repr

/-- A defect and the place of the value that has it. -/
structure FieldFault where
  path : List PathStep
  defect : Defect
  deriving DecidableEq, Repr

def FieldFault.within (step : PathStep) (fs : List FieldFault) : List FieldFault :=
  fs.map fun f => { f with path := step :: f.path }

/-- The content of a field, or all that is wrong with it. -/
abbrev Reading (α : Type) := Except (List FieldFault) α

namespace Reading

def defect {α : Type} (d : Defect) : Reading α :=
  .error [⟨[], d⟩]

def ofOption {α : Type} (d : Defect) : Option α → Reading α
  | some a => .ok a
  | none => defect d

def both {α β : Type} (a : Reading α) (b : Reading β) : Reading (α × β) :=
  match a, b with
  | .ok x, .ok y => .ok (x, y)
  | .ok _, .error fs => .error fs
  | .error es, .ok _ => .error es
  | .error es, .error fs => .error (es ++ fs)

def items {α : Type} (read : Value → Reading α) (index : Nat) : List Value → Reading (List α)
  | [] => .ok []
  | v :: vs =>
    let first := (read v).mapError (FieldFault.within (.index index))
    (both first (items read (index + 1) vs)).map fun p => p.1 :: p.2

end Reading

def readText : Value → Reading String
  | .text s => .ok s
  | .bytes bs =>
    match String.fromUTF8? ⟨bs.toArray⟩ with
    | some s => .ok s
    | none => .defect .undecodableText
  | _ => .defect .notText

def readOptional {α : Type} (read : Value → Reading α) : Value → Reading (Option α)
  | .null => .ok none
  | v => (read v).map some

def truthOfText? (t : Text) : Option Bool :=
  let word := String.ofList (t.map Char.toLower)
  if ["1", "t", "true", "y", "yes", "on"].contains word then some true
  else if ["0", "f", "false", "n", "no", "off"].contains word then some false
  else none

def truthOfWhole (n : Int) : Reading Bool :=
  if n = 0 then .ok false else if n = 1 then .ok true else .defect .unreadableTruth

def fitsWord (n : Int) : Bool :=
  decide (-(twoTo 63 : Int) ≤ n) && decide (n < (twoTo 63 : Int))

def wholeOfDouble : Binary64 → Except Defect Int
  | .finite negative m q =>
    let (num, den) := Binary64.quotient m q
    let n : Int := withSign negative (num / den)
    if num % den ≠ 0 then .error .fractionalInteger
    else if -(twoTo 63 : Int) < n && n < (twoTo 63 : Int) then .ok n
    else .error .oversizedInteger
  | .infinite _ | .nan => .error .notFinite

/-- A number that cannot be told from a whole one is a truth value if that is one. -/
def truthOfDouble (x : Binary64) : Reading Bool :=
  match wholeOfDouble x with
  | .ok n => truthOfWhole n
  | .error _ => .defect .notTruth

/-- A truth value, a number that stands for one, or a word for one. Of a decimal number it is the
nearest double that counts. -/
def readTruth : Value → Reading Bool
  | .bool b => .ok b
  | .int n => if fitsWord n then truthOfWhole n else .defect .notTruth
  | .float x => truthOfDouble x
  | .decimal d => truthOfDouble d.nearest
  | .text s => Reading.ofOption .unreadableTruth (truthOfText? s.toList)
  | .bytes bs =>
    Reading.ofOption .unreadableTruth
      ((String.fromUTF8? ⟨bs.toArray⟩).bind fun s => truthOfText? s.toList)
  | _ => .defect .notTruth

def readCount (least : Nat) : Value → Reading Nat
  | .int n => if n < least then .defect (.below least) else .ok n.natAbs
  | _ => .defect .notInteger

def Numeral.Fault.defect : Numeral.Fault → Defect
  | .unreadable => .unreadableInteger
  | .tooLong => .oversizedInteger

def wholeOfDecimal : Decimal → Except Defect Int
  | .finite negative c e =>
    let (num, den) := Magnitude.ratio (withSign negative c) 1 e
    if num % den = 0 then .ok (num / den) else .error .fractionalInteger
  | .infinite _ | .nan .. => .error .notFinite

def wholeOf : Value → Except Defect Int
  | .int n => .ok n
  | .bool b => .ok (if b then 1 else 0)
  | .float x => wholeOfDouble x
  | .decimal d => wholeOfDecimal d
  | .text s => (Numeral.readLoose s.toList).mapError (·.defect)
  | .bytes bs =>
    match String.fromUTF8? ⟨bs.toArray⟩ with
    | some s => (Numeral.readLoose s.toList).mapError (·.defect)
    | none => .error .unreadableInteger
  | _ => .error .notInteger

def readWholeFrom (least : Nat) (v : Value) : Reading Nat :=
  match wholeOf v with
  | .ok n => if n < least then .defect (.below least) else .ok n.natAbs
  | .error d => .defect d

def choice? {α : Type} (name : α → String) (all : List α) (word : String) : Option α :=
  all.find? fun a => name a == word

def readChoice {α : Type} (name : α → String) (all : List α) (v : Value) : Reading α :=
  Reading.ofOption (.notAChoice (all.map name)) <|
    match v with
    | .text word => choice? name all word
    | _ => none

def readKind {α : Type} (name : α → String) (all : List α) (v : Value) : Reading α :=
  Reading.ofOption (.notAKind (all.map name)) <|
    match readText v with
    | .ok word => choice? name all word
    | .error _ => none

def readList {α : Type} (read : Value → Reading α) : Value → Reading (List α)
  | .list vs => Reading.items read 0 vs
  | .tuple vs => Reading.items read 0 vs
  | .set vs => Reading.items read 0 vs
  | .fixedSet vs => Reading.items read 0 vs
  | _ => .defect .notList

/-- The step to the entry of a key: a text or a word of 64 bits stands for itself, and so does a
truth value as a number; of any other key it is the inspected form. -/
def keyStep : Value → PathStep
  | .text s => .name s
  | .bool b => .index (if b then 1 else 0)
  | .int n => if fitsWord n then .index n else .name (String.ofList (intText n))
  | v => .name (String.ofList v.inspect)

def readEntries : List (Value × Value) → Reading (List (String × Value))
  | [] => .ok []
  | (k, v) :: es =>
    let key := (readText k).mapError fun fs =>
      FieldFault.within (keyStep k) (FieldFault.within (.name "[key]") fs)
    (Reading.both key (readEntries es)).map fun p => (p.1, v) :: p.2

def readMapping : Value → Reading (List (String × Value))
  | .mapping es => readEntries es
  | _ => .defect .notMapping

/-- Named values in the order given, of which a later one replaces an earlier one. -/
abbrev Fields := List (String × Value)

namespace Fields

def get? (fields : Fields) (name : String) : Option Value :=
  (fields.reverse.find? fun f => f.1 == name).map Prod.snd

def read {α : Type} (fields : Fields) (name : String) (missing : α) (reader : Value → Reading α) :
    Reading α :=
  match fields.get? name with
  | none => .ok missing
  | some v => (reader v).mapError (FieldFault.within (.name name))

def unexpected (fields : Fields) (known : List String) : List FieldFault :=
  (fields.filter fun f => !known.contains f.1).map fun f => ⟨[.name f.1], .unexpected⟩

end Fields

end BoundSql
