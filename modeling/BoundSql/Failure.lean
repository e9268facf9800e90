import BoundSql.Rejection
import BoundSql.Session.Phase
import BoundSql.Statement.Kind
/-!
All the ways in which an operation can fail. The causes are data; their texts are in one place.
-/

namespace BoundSql

inductive ConfigurationFault where
  | tableMissing (method : String)
  | rowsMissing (kind : StatementKind)
  | assignmentsMissing
  | conflictMissing
  | executorMissing
  | alreadyExecuted (kind : StatementKind)
  | addressMissing
  | driverUnregistered (name : String) (registered : List String)
  | refused (reason : String) (missing : List String)
  deriving DecidableEq, Repr

namespace ConfigurationFault

def message : ConfigurationFault → String
  | tableMissing method => "Table name is required. Use ." ++ method ++ "() method."
  | rowsMissing kind =>
    "No data provided for " ++ kind.name.toLower ++ ". Use .values() method."
  | assignmentsMissing => "No data provided for update. Use .set() method."
  | conflictMissing => "Conflict columns are required for upsert. Use .on_conflict() method."
  | executorMissing =>
    "No database bound to this query. Create it from a Database or Transaction."
  | alreadyExecuted kind =>
    "This " ++ kind.name ++ " query was already executed; start a new one."
  | addressMissing => "A DSN is required for the postgres driver. Set FLUENTSQL_DSN."
  | driverUnregistered name registered =>
    "No driver registered for dialect '" ++ name ++ "'. Registered: " ++
      String.ofList (Value.inspectTexts registered) ++ "."
  | refused reason _ => reason

def missing : ConfigurationFault → List String
  | tableMissing method => [method]
  | rowsMissing _ => ["values"]
  | assignmentsMissing => ["set"]
  | conflictMissing => ["on_conflict"]
  | executorMissing => ["executor"]
  | alreadyExecuted _ => []
  | addressMissing => ["dsn"]
  | driverUnregistered .. => ["driver"]
  | refused _ missing => missing

end ConfigurationFault

inductive CompilationFault where
  | unsupportedDialect (name : String) (registered : List String)
  | listRequired (operator : Operator)
  deriving DecidableEq, Repr

namespace CompilationFault

def message : CompilationFault → String
  | unsupportedDialect name registered =>
    "Unsupported dialect: '" ++ name ++ "'. Registered dialects: " ++
      String.ofList (Value.inspectTexts registered) ++ "."
  | listRequired operator => operator.symbol ++ " requires a list of values."

def clause? : CompilationFault → Option String
  | unsupportedDialect .. => none
  | listRequired _ => some "WHERE"

end CompilationFault

inductive Misuse where
  | notIterable (typeName : String)
  | notIndexed (typeName : String)
  | notText (typeName : String)
  | noCapitals (typeName : String)
  | noMethod
  | slotOutOfRange (index : Nat)
  | longNumeral
  | missingKey (key : String)
  | notWhole (typeName : String)
  | unreadableWhole
  | infiniteWhole
  | undefinedOrder
  | illegalVariable
  | namelessVariable
  deriving DecidableEq, Repr

inductive Failure where
  | rejected (cause : Rejection)
  | configuration (cause : ConfigurationFault)
  | compilation (cause : CompilationFault)
  | execution (sql : Text) (params : List Value) (cause : Failure)
  | finished (operation : String) (phase : Phase)
  | settings (faults : List FieldFault)
  | misuse (cause : Misuse)
  /-- An exception of the caller or the driver, of which only kind and text are known. -/
  | foreign (kind text : String)
  /-- The operation was given up while it waited for a lock. -/
  | interrupted

namespace Failure

def message : Failure → String
  | rejected cause => cause.message
  | configuration cause => cause.message
  | compilation cause => cause.message
  | execution _ _ cause => "Statement failed: " ++ cause.message
  | finished operation phase =>
    "Cannot " ++ operation ++ ": transaction is already " ++ phase.name ++ "."
  | settings _ | misuse _ | interrupted => ""
  | foreign _ text => text

def isOwn : Failure → Bool
  | rejected _ | configuration _ | compilation _ | execution .. | finished .. => true
  | settings _ | misuse _ | foreign .. | interrupted => false

/-- Whether a failure is one that a caller may handle; an interruption is not. -/
def isOrdinary : Failure → Bool
  | interrupted => false
  | _ => true

end Failure

abbrev Outcome := Except Failure

def reject {α : Type} (r : Rejection) : Outcome α :=
  .error (.rejected r)

end BoundSql
