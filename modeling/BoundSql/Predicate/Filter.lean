import BoundSql.Predicate.Tree
/-!
The calls that add conditions. Each one adds at most one node, or fails and adds none. A nested call
runs its body on conditions of its own, and its group is dropped when it comes out empty.
-/

namespace BoundSql

inductive Filter where
  | test (conjunction : Conjunction) (column : Value) (operator value : Option Value)
  | compare (conjunction : Conjunction) (operator : Operator) (column value : Value)
  | between (conjunction : Conjunction) (negated : Bool) (column low high : Value)
  | raw (conjunction : Conjunction) (fragment params : Value)
  | nested (conjunction : Conjunction) (body : List Filter)
  /-- The body of a nested call raises an exception of its own. -/
  | raises (kind text : String)
  | unknown

instance : Inhabited Filter := ⟨.unknown⟩

namespace Filter

def operatorOf : Value → Outcome Operator
  | .text s =>
    match Operator.ofText? s.toList with
    | some o => .ok o
    | none => reject (.operator (.text s))
  | v => reject (.operator v)

/-- A single operand is a value, unless it spells an operator that takes none. -/
def soleOperand (operand : Value) : Operator × Value :=
  match operand with
  | .text s =>
    let form := Operator.normalForm s.toList
    if form = Operator.isNull.symbol.toList then (.isNull, .null)
    else if form = Operator.isNotNull.symbol.toList then (.isNotNull, .null)
    else (.equal, operand)
  | v => (.equal, v)

def testCondition (limit : Int) (conjunction : Conjunction) (column : Value)
    (operator value : Option Value) : Outcome Condition :=
  match operator, value with
  | none, _ => reject .missingValue
  | some operand, none =>
    let (o, v) := soleOperand operand
    Condition.make limit conjunction column o v
  | some spelling, some v => do
    let o ← operatorOf spelling
    Condition.make limit conjunction column o v

mutual

def node (limit : Int) : Filter → Outcome (Option Node)
  | test c column operator value =>
    (testCondition limit c column operator value).map fun x => some (.leaf x)
  | compare c operator column value =>
    (Condition.make limit c column operator value).map fun x => some (.leaf x)
  | between c negated column low high =>
    (Condition.makeBetween limit c negated column low high).map fun x => some (.leaf x)
  | raw c fragment params =>
    (Condition.makeRaw c "WHERE" fragment params).map fun x => some (.leaf x)
  | nested c body =>
    (nodes limit body).map fun ns => if Node.allEmpty ns then none else some (.group c ns)
  | raises kind text => .error (.foreign kind text)
  | unknown => .error (.misuse .noMethod)

def nodes (limit : Int) : List Filter → Outcome (List Node)
  | [] => .ok []
  | f :: fs =>
    match node limit f with
    | .error e => .error e
    | .ok added => (nodes limit fs).map fun ns => added.toList ++ ns

end

end Filter

def Group.add (limit : Int) (g : Group) (f : Filter) : Outcome Group :=
  (f.node limit).map fun
    | some n => g.push n
    | none => g

end BoundSql
