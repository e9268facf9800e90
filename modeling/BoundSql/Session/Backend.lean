import BoundSql.Session.Event
/-!
The database behind a session. All that a session can see of it is how it answers a request, which
may depend on everything that was asked before.
-/

namespace BoundSql

abbrev Answer := Option (List Record)

/-- How requests are answered, given what happened before them. -/
structure Backend where
  answer : List Event → Request → Outcome Answer

namespace Backend

/-- Whether a statement controls a transaction, and so gives no rows. -/
def isControl (sql : Text) : Bool :=
  ["BEGIN", "COMMIT", "ROLLBACK"].contains (String.ofList sql)

/-- The same rows for every statement, except that statements with a given text in them fail; without
a text none does. -/
def canned (rows : Answer) (failing : Text) (cause : Failure) : Backend where
  answer _ r :=
    match r with
    | .execute _ sql _ =>
      if !failing.isEmpty && occursIn failing sql then .error cause
      else .ok (if isControl sql then some [] else rows)
    | _ => .ok none

end Backend

end BoundSql
