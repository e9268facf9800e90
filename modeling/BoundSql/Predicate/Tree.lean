import BoundSql.SqlFragment
/-!
Predicate trees: conditions and groups of them, each joined to what stands before it by AND or OR.
A condition is made from what a caller gave only if it can be put into text later.
-/

namespace BoundSql

/-- A comparison of a column, or a raw fragment in the place of the column. -/
structure Condition where
  conjunction : Conjunction := .and
  column : String
  operator : Operator
  value : Value := .null

inductive Node where
  | leaf (condition : Condition)
  | group (conjunction : Conjunction) (nodes : List Node)

instance : Inhabited Node := ⟨.group .and []⟩

structure Group where
  conjunction : Conjunction := .and
  nodes : List Node := []

namespace Node

def conjunction : Node → Conjunction
  | leaf c => c.conjunction
  | group c _ => c

mutual

def isEmpty : Node → Bool
  | leaf _ => false
  | group _ nodes => allEmpty nodes

def allEmpty : List Node → Bool
  | [] => true
  | n :: ns => isEmpty n && allEmpty ns

end

end Node

namespace Group

def isEmpty (g : Group) : Bool :=
  Node.allEmpty g.nodes

def push (g : Group) (n : Node) : Group :=
  { g with nodes := g.nodes ++ [n] }

end Group

namespace Condition

/-- A comparison with nothing is a test for nothing. -/
def testForNull (operator : Operator) (value : Value) : Operator :=
  match operator, value with
  | .equal, .null => .isNull
  | .notEqual, .null => .isNotNull
  | o, _ => o

/-- The list of values to be looked among. A set has no order of its own and is put in order. -/
def members (column : String) (operator : Operator) (value : Value) : Outcome (List Value) :=
  match value with
  | .list vs | .tuple vs => .ok vs
  | .set vs | .fixedSet vs =>
    match Value.sorted vs with
    | .ok sorted => .ok sorted
    | .error .unlike => reject (.unordered column operator)
    | .error .notNumber => .error (.misuse .undefinedOrder)
  | v => reject (.listRequired column operator v.typeName)

def operand (column : String) (operator : Operator) (value : Value) : Outcome Value :=
  if operator.takesList then (members column operator value).map .list
  else
    match value with
    | .null => reject (.nullCompared column operator)
    | v => .ok v

def make (limit : Int) (conjunction : Conjunction) (column : Value) (operator : Operator)
    (value : Value) : Outcome Condition :=
  if operator = .raw then reject .rawOperator
  else do
    let name ← Identifier.nameOf limit column
    let operator := testForNull operator value
    if operator.takesValue then
      let v ← operand name operator value
      if v.bindable then return { conjunction, column := name, operator, value := v }
      else reject (.conditionValue name operator v.typeName)
    else return { conjunction, column := name, operator }

def listOf (v : Value) : Outcome (List Value) :=
  if v.truthy then
    match v.elements? with
    | some vs => .ok vs
    | none => .error (.misuse (.notIterable v.typeName))
  else .ok []

def makeRaw (conjunction : Conjunction) (clause : String) (fragment params : Value) :
    Outcome Condition := do
  let sql ← SqlFragment.check clause fragment
  let values ← listOf params
  let markers := Placeholder.markerCount sql.toList
  if markers ≠ values.length then reject (.markerCount sql markers values.length)
  else
    match values.find? fun v => !v.bindable with
    | some v => reject (.rawParameter v.typeName)
    | none => return { conjunction, column := sql, operator := .raw, value := .list values }

def makeBetween (limit : Int) (conjunction : Conjunction) (negated : Bool)
    (column low high : Value) : Outcome Condition := do
  let quoted ← Identifier.quoteValue limit column
  let words := if negated then " NOT BETWEEN ? AND ?" else " BETWEEN ? AND ?"
  makeRaw conjunction "WHERE" (.text (String.ofList (quoted ++ words.toList))) (.list [low, high])

end Condition

end BoundSql
