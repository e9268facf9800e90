/-!
The kinds of statements, and the names of the fixed clause words in them.
-/

namespace BoundSql

inductive StatementKind where
  | select
  | insert
  | update
  | delete
  | upsert
  deriving DecidableEq, Repr

namespace StatementKind

def all : List StatementKind :=
  [select, insert, update, delete, upsert]

def name : StatementKind → String
  | select => "SELECT"
  | insert => "INSERT"
  | update => "UPDATE"
  | delete => "DELETE"
  | upsert => "UPSERT"

end StatementKind

inductive JoinKind where
  | inner
  | left
  | right
  | full
  deriving DecidableEq, Repr

namespace JoinKind

def all : List JoinKind :=
  [inner, left, right, full]

def name : JoinKind → String
  | inner => "INNER"
  | left => "LEFT"
  | right => "RIGHT"
  | full => "FULL"

end JoinKind

inductive Direction where
  | ascending
  | descending
  deriving DecidableEq, Repr

namespace Direction

def all : List Direction :=
  [ascending, descending]

def name : Direction → String
  | ascending => "ASC"
  | descending => "DESC"

end Direction

inductive ConflictAction where
  | update
  | nothing
  deriving DecidableEq, Repr

namespace ConflictAction

def all : List ConflictAction :=
  [update, nothing]

def name : ConflictAction → String
  | update => "update"
  | nothing => "nothing"

end ConflictAction

end BoundSql
