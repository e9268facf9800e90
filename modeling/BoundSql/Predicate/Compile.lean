import BoundSql.Dialect
import BoundSql.Predicate.Tree
/-!
The text of predicate trees. At each level the AND nodes come first and the OR nodes after them, and
placeholders are numbered in the order of the text, so a clause may start at any number.
-/

namespace BoundSql

structure BoundText where
  sql : Text
  params : List Value := []

structure Context where
  dialect : Dialect
  limit : Int := Identifier.defaultLimit

namespace Context

def quote (ctx : Context) (name : String) : Outcome Text :=
  Identifier.quoteName ctx.limit name

def quoteAll (ctx : Context) (names : List String) : Outcome Text :=
  (names.mapM ctx.quote).map (joinWith [',', ' '])

end Context

def slotTexts (offset : Int) : Nat → List Text
  | 0 => []
  | n + 1 => Placeholder.slotText (offset + 1) :: slotTexts (offset + 1) n

namespace Condition

def nullText (ctx : Context) (c : Condition) : Outcome BoundText := do
  let column ← ctx.quote c.column
  return { sql := column ++ ' ' :: c.operator.symbol.toList }

/-- Among no values there is none, and all are outside of them, whatever the column. -/
def membershipText (ctx : Context) (offset : Int) (c : Condition) : Outcome BoundText :=
  match c.value with
  | .list vs | .tuple vs =>
    if vs.isEmpty then
      .ok { sql := (if c.operator = .among then "1 = 0" else "1 = 1").toList }
    else do
      let column ← ctx.quote c.column
      let slots := joinWith [',', ' '] (slotTexts offset vs.length)
      return { sql := column ++ ' ' :: c.operator.symbol.toList ++ " (".toList ++ slots ++ [')'],
               params := vs }
  | _ => .error (.compilation (.listRequired c.operator))

def rawText (offset : Int) (c : Condition) : Outcome BoundText := do
  let values ← listOf c.value
  let sql ← Placeholder.renumber c.column.toList offset values.length
  return { sql, params := values }

def comparisonText (ctx : Context) (offset : Int) (c : Condition) : Outcome BoundText := do
  let column ← ctx.quote c.column
  let slot := Placeholder.slotText (offset + 1)
  let sql :=
    if c.operator.isPattern then ctx.dialect.renderPattern column c.operator slot
    else column ++ ' ' :: c.operator.symbol.toList ++ ' ' :: slot
  return { sql, params := [c.value] }

def compile (ctx : Context) (offset : Int) (c : Condition) : Outcome BoundText :=
  match c.operator with
  | .isNull | .isNotNull => c.nullText ctx
  | .among | .notAmong => c.membershipText ctx offset
  | .raw => c.rawText offset
  | _ => c.comparisonText ctx offset

end Condition

def allParams (parts : List BoundText) : List Value :=
  parts.flatMap BoundText.params

/-- AND binds closer than OR, so the AND nodes together are the first of the alternatives. -/
def joinAlternatives (ands ors : List Text) : Text :=
  let both := joinWith " AND ".toList ands
  if ors.isEmpty then both
  else joinWith " OR ".toList ((if both.isEmpty then [] else [both]) ++ ors)

def joinLevel (ands ors : List BoundText) : BoundText where
  sql := joinAlternatives (ands.map BoundText.sql) (ors.map BoundText.sql)
  params := allParams ands ++ allParams ors

/-- A level inside of another one stands in parentheses, unless there is nothing in it. -/
def parenthesize (b : BoundText) : BoundText :=
  { b with sql := if b.sql.isEmpty then [] else '(' :: b.sql ++ [')'] }

namespace Node

mutual

def compile (ctx : Context) (offset : Int) : Node → Outcome BoundText
  | leaf c => c.compile ctx offset
  | group _ nodes =>
    (compileThose ctx .and offset nodes).bind fun ands =>
      (compileThose ctx .or (offset + (allParams ands).length) nodes).map fun ors =>
        parenthesize (joinLevel ands ors)

def compileThose (ctx : Context) (conjunction : Conjunction) (offset : Int) :
    List Node → Outcome (List BoundText)
  | [] => .ok []
  | n :: ns =>
    if n.conjunction = conjunction then
      (compile ctx offset n).bind fun b =>
        if b.sql.isEmpty then compileThose ctx conjunction offset ns
        else (compileThose ctx conjunction (offset + b.params.length) ns).map fun bs => b :: bs
    else compileThose ctx conjunction offset ns

end

end Node

def Group.compile (ctx : Context) (offset : Int) (g : Group) : Outcome BoundText :=
  (Node.compileThose ctx .and offset g.nodes).bind fun ands =>
    (Node.compileThose ctx .or (offset + (allParams ands).length) g.nodes).map fun ors =>
      joinLevel ands ors

def Group.compileWithin (limit : Nat) (ctx : Context) (offset : Int) (g : Group) :
    Outcome BoundText :=
  (g.compile ctx offset).bind fun b =>
    if Placeholder.areWritable limit offset b.params.length then .ok b
    else .error (.misuse .longNumeral)

end BoundSql
