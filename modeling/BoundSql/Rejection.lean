import BoundSql.Field
import BoundSql.Predicate.Operator
import BoundSql.Value.Inspect
/-!
Input that is refused before any statement text exists. Each cause has one message, one code and the
details that a caller can act on.
-/

namespace BoundSql

inductive NameFault where
  | notText
  | blank
  | emptyPart
  | tooLong (limit : Int)
  | dangerous
  | reserved (part : String)
  | nothingLeft
  deriving DecidableEq, Repr

namespace NameFault

def reason : NameFault → String
  | notText => "identifier must be a string"
  | blank => "identifier must not be empty"
  | emptyPart => "empty name segment"
  | tooLong limit => "longer than " ++ String.ofList (intText limit) ++ " characters"
  | dangerous => "contains a dangerous pattern"
  | reserved part => "'" ++ part ++ "' is a reserved keyword"
  | nothingLeft => "no valid identifier characters"

def code : NameFault → String
  | notText | nothingLeft => "INVALID_IDENTIFIER"
  | blank | emptyPart => "EMPTY_IDENTIFIER"
  | tooLong _ => "IDENTIFIER_TOO_LONG"
  | dangerous => "DANGEROUS_IDENTIFIER"
  | reserved _ => "RESERVED_KEYWORD"

end NameFault

inductive Rejection where
  | identifier (given : Value) (fault : NameFault)
  | notQuoted (given : String)
  | operator (given : Value)
  | rawOperator
  | missingValue
  | unordered (column : String) (operator : Operator)
  | listRequired (column : String) (operator : Operator) (typeName : String)
  | nullCompared (column : String) (operator : Operator)
  | conditionValue (column : String) (operator : Operator) (typeName : String)
  | blankFragment (clause : String)
  | dangerousFragment (clause fragment : String)
  | numberedFragment (clause fragment : String)
  | markerCount (fragment : String) (markers : Nat) (values : Int)
  | rawParameter (typeName : String)
  | selectItem (given : Value)
  | rowNotMapping (typeName : String)
  | emptyRow
  | columnNotText (given : Value)
  | rowValue (column typeName : String)
  | rowsNotRows (typeName : String)
  | mismatchedRow (index : Nat) (columns expected : List String)
  | mergeColumns (unknown columns : List String)
  | fieldValue (field : String) (value : Value) (defect : Defect)
  | invalidPart (part : String) (faults : List FieldFault)

inductive Detail where
  | value (v : Value)
  | faults (fs : List FieldFault)

namespace Rejection

def ascending (names : List String) : List String :=
  names.mergeSort fun a b => atOrBefore a.toList b.toList

def countText (markers : Nat) (values : Int) : String :=
  "Raw fragment has " ++ String.ofList (natText markers) ++ " '?' marker(s) but " ++
    String.ofList (intText values) ++ " value(s) were given."

def message : Rejection → String
  | identifier given fault =>
    "Invalid identifier " ++ String.ofList given.inspect ++ ": " ++ fault.reason ++ "."
  | notQuoted given => "Not a quoted identifier: " ++ String.ofList (quoted given.toList) ++ "."
  | operator given => "Unsupported operator: " ++ String.ofList given.inspect ++ "."
  | rawOperator => "RAW conditions must be added with where_raw()."
  | missingValue => "where() needs a value or an operator and a value."
  | unordered _ o =>
    o.symbol ++
      " values in a set must be mutually comparable; pass a list to fix the order."
  | listRequired _ o typeName =>
    o.symbol ++ " requires a list of values, got " ++ typeName ++ "."
  | nullCompared _ o =>
    "Operator " ++ o.symbol ++ " cannot compare against NULL."
  | conditionValue column _ typeName =>
    "Unsupported value for column '" ++ column ++ "': " ++ typeName ++ "."
  | blankFragment clause => clause ++ " fragment must be a non-empty string."
  | dangerousFragment clause fragment =>
    clause ++ " fragment contains a dangerous pattern: " ++
      String.ofList (quoted fragment.toList) ++ "."
  | numberedFragment clause fragment =>
    clause ++ " fragment contains numbered placeholder text: " ++
      String.ofList (quoted fragment.toList) ++ ". Bind values with '?' markers instead."
  | markerCount _ markers values => countText markers values
  | rawParameter typeName => "Unsupported raw parameter: " ++ typeName ++ "."
  | selectItem given => "Unsupported select item: " ++ String.ofList given.inspect ++ "."
  | rowNotMapping typeName => "Row data must be a mapping, got " ++ typeName ++ "."
  | emptyRow => "Row data must not be empty."
  | columnNotText given =>
    "Column names must be strings, got " ++ String.ofList given.inspect ++ "."
  | rowValue column typeName =>
    "Unsupported value for column '" ++ column ++ "': " ++ typeName ++ "."
  | rowsNotRows typeName =>
    "Rows must be a mapping or a list of mappings, got " ++ typeName ++ "."
  | mismatchedRow index columns expected =>
    "Row " ++ String.ofList (natText index) ++ " has columns " ++
      String.ofList (Value.inspectTexts (ascending columns)) ++ "; expected " ++
      String.ofList (Value.inspectTexts (ascending expected)) ++ "."
  | mergeColumns unknown _ =>
    "Merge columns must be a non-empty subset of the upsert data: " ++
      String.ofList (Value.inspectTexts unknown) ++ "."
  | fieldValue field _ defect => "Invalid " ++ field ++ ": " ++ defect.message
  | invalidPart part faults =>
    "Invalid " ++ part ++ ": " ++ ((faults.head?.map fun f => f.defect.message).getD "")

def code : Rejection → String
  | identifier _ fault => fault.code
  | notQuoted _ => "INVALID_IDENTIFIER"
  | operator _ | rawOperator => "INVALID_OPERATOR"
  | missingValue => "MISSING_VALUE"
  | unordered .. | listRequired .. | nullCompared .. | conditionValue .. | rawParameter _
  | rowValue .. => "INVALID_VALUE"
  | blankFragment _ => "INVALID_FRAGMENT"
  | dangerousFragment .. | numberedFragment .. => "DANGEROUS_FRAGMENT"
  | markerCount .. => "PARAM_COUNT_MISMATCH"
  | selectItem _ => "INVALID_COLUMN"
  | rowNotMapping _ | columnNotText _ | rowsNotRows _ => "INVALID_ROW"
  | emptyRow => "EMPTY_ROW"
  | mismatchedRow .. => "MISMATCHED_ROWS"
  | mergeColumns .. => "INVALID_MERGE_COLUMNS"
  | fieldValue .. | invalidPart .. => "INVALID_CLAUSE"

def namesDetail (names : List String) : Detail :=
  .value (.list (names.map .text))

def conditionDetails (column : String) (o : Operator) : List (String × Detail) :=
  [("column", .value (.text column)), ("operator", .value (.text o.symbol))]

def details : Rejection → List (String × Detail)
  | identifier given fault =>
    [("identifier", .value given), ("reason", .value (.text fault.reason))]
  | operator given =>
    [("operator", .value given),
      ("allowed_operators", namesDetail (Operator.all.map Operator.symbol))]
  | unordered column o => conditionDetails column o
  | listRequired column o _ => conditionDetails column o
  | nullCompared column o => conditionDetails column o
  | conditionValue column o _ => conditionDetails column o
  | blankFragment clause => [("clause", .value (.text clause))]
  | dangerousFragment clause fragment | numberedFragment clause fragment =>
    [("clause", .value (.text clause)), ("fragment", .value (.text fragment))]
  | markerCount fragment markers values =>
    [("fragment", .value (.text fragment)), ("markers", .value (.int markers)),
      ("values", .value (.int values))]
  | rowValue column typeName =>
    [("column", .value (.text column)), ("type", .value (.text typeName))]
  | mismatchedRow index _ expected =>
    [("row", .value (.int index)), ("expected", namesDetail expected)]
  | mergeColumns unknown columns =>
    [("unknown", namesDetail unknown), ("columns", namesDetail columns)]
  | fieldValue field value _ => [("field", .value (.text field)), ("value", .value value)]
  | invalidPart part faults => [("model", .value (.text part)), ("errors", .faults faults)]
  | notQuoted _ | rawOperator | missingValue | rawParameter _ | selectItem _ | rowNotMapping _
  | emptyRow | columnNotText _ | rowsNotRows _ => []

end Rejection

end BoundSql
