import BoundSql.Builder.Basic
import BoundSql.Session.Target
import BoundSql.Value.Whole
/-!
Queries: builders that know what their statement is to be run on. Once a statement was handed over to
be run, the builder is sealed, whatever comes of it.
-/

namespace BoundSql

/-- How a query is started: the kind of its statement, and what can be said of it at once. Nothing is
said of it by null. -/
inductive Opening where
  | table (name label : Value)
  | select (columns : List Value)
  | insert (rows : Value)
  | update (name : Value)
  | delete (name : Value)
  | upsert (data : Value)

namespace Opening

def kind : Opening → StatementKind
  | table .. | select _ => .select
  | insert _ => .insert
  | update _ => .update
  | delete _ => .delete
  | upsert _ => .upsert

def unlessNull (call : Value → Call) : Value → List Call
  | .null => []
  | v => [call v]

def calls : Opening → List Call
  | table name label => [.source .from_ name label]
  | select columns => if columns.isEmpty then [] else [.select columns]
  | insert rows => unlessNull .values rows
  | update name => unlessNull (fun t => .source .table t .null) name
  | delete name => unlessNull (fun t => .source .from_ t .null) name
  | upsert data => unlessNull .values data

end Opening

structure Query where
  builder : Builder
  target : Option Target

inductive Terminal where
  | execute
  | get
  | first
  | exists_
  | count (column : Value)

inductive Reply where
  | rows (records : List Record)
  | record (found : Option Record)
  | truth (b : Bool)
  | number (n : Int)

namespace Terminal

def offeredBy (kind : StatementKind) : Terminal → Bool
  | execute => true
  | get | first | exists_ | count _ => kind == .select

def compile (b : Builder) : Terminal → Outcome Compiled
  | execute | get => b.compile
  | first | exists_ => b.statement.limitedToOne.compile b.context
  | count column => b.compileCount column

/-- Whether it is noted that the statement was put into text; a count of a whole statement is not. -/
def isNoted (b : Builder) : Terminal → Bool
  | execute | get | first | exists_ => true
  | count _ => !b.statement.countsAsWhole

def countColumn : String := "count"

def countIn : List Record → Outcome Int
  | [] => .ok 0
  | r :: _ =>
    match Value.lookup? (.text countColumn) r with
    | some v => v.whole
    | none => .error (.misuse (.missingKey countColumn))

def read (rs : List Record) : Terminal → Outcome Reply
  | execute | get => .ok (.rows rs)
  | first => .ok (.record rs.head?)
  | exists_ => .ok (.truth rs.head?.isSome)
  | count _ => (countIn rs).map .number

end Terminal

namespace Query

def start (context : Context) (target : Option Target) (opening : Opening) : Outcome Query :=
  match (Builder.start context opening.kind).applyAll opening.calls with
  | (builder, .ok ()) => .ok { builder, target }
  | (_, .error e) => .error e

def apply (q : Query) (c : Call) : Query × Outcome Unit :=
  let (builder, outcome) := q.builder.apply c
  ({ q with builder }, outcome)

def applyAll (q : Query) (cs : List Call) : Query × Outcome Unit :=
  let (builder, outcome) := q.builder.applyAll cs
  ({ q with builder }, outcome)

def sealed (q : Query) : Query :=
  { q with builder := { q.builder with isSealed := true } }

def noteCompiled (q : Query) (c : Compiled) : Action Unit :=
  Action.note (.compiled q.builder.kind c.dialect c.params.length)

def compile (q : Query) : Action Compiled := do
  let c ← Action.conclude q.builder.compile
  q.noteCompiled c
  return c

def prepare (q : Query) (t : Terminal) : Action (Compiled × Target) := do
  if !t.offeredBy q.builder.kind then throw (.misuse .noMethod)
  let c ← Action.conclude (t.compile q.builder)
  if t.isNoted q.builder then q.noteCompiled c
  match q.target with
  | some target => return (c, target)
  | none => throw (.configuration .executorMissing)

def perform (q : Query) (t : Terminal) : StateM Session (Query × Outcome Reply) := do
  match ← (q.prepare t).run with
  | .error e => return (q, .error e)
  | .ok (c, target) =>
    let outcome ← (target.run c).run
    return (q.sealed, outcome.bind fun rs => t.read rs)

end Query

end BoundSql
