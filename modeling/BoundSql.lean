import BoundSql.Text.Blank
import BoundSql.Text.WordChar
import BoundSql.Text.Upper
import BoundSql.Text.Quoted
import BoundSql.Number.Binary64
import BoundSql.Number.Decimal
import BoundSql.Number.Numeral
import BoundSql.Calendar
import BoundSql.Uuid
import BoundSql.Value.Order
import BoundSql.Value.Inspect
import BoundSql.Predicate.Operator
import BoundSql.Statement.Kind
import BoundSql.Field
import BoundSql.Failure
import BoundSql.SqlFragment
import BoundSql.Dialect
import BoundSql.Predicate.Filter
import BoundSql.Statement.Compile
import BoundSql.Builder.Basic
import BoundSql.Statement.Fields
import BoundSql.Registry
import BoundSql.Session.Query
import BoundSql.Proofs.Numeral
import BoundSql.Proofs.TokenCut
import BoundSql.Proofs.Template
import BoundSql.Proofs.Slots
import BoundSql.Proofs.Outcome
import BoundSql.Proofs.QuotedName
import BoundSql.Proofs.Fragment
import BoundSql.Proofs.ConditionTemplate
import BoundSql.Proofs.StatementTemplate
import BoundSql.Proofs.StatementRule
import BoundSql.Proofs.MadeCondition
import BoundSql.Proofs.Reachable
import BoundSql.Proofs.Numbering
import BoundSql.Proofs.Direct
import BoundSql.Proofs.Hygiene
import BoundSql.Proofs.Grammar
import BoundSql.Proofs.Meaning
import BoundSql.Proofs.TestReading
import BoundSql.Proofs.Precedence
import BoundSql.Proofs.MappedValues
import BoundSql.Proofs.CaseFolding
import BoundSql.Proofs.DialectAgreement
import BoundSql.Proofs.StatementAgreement
import BoundSql.Proofs.Acceptance
import BoundSql.Proofs.Completeness
import BoundSql.Proofs.MarkerReading
import BoundSql.Proofs.OffsetShift
import BoundSql.Proofs.SessionTrace
import BoundSql.Proofs.TransactionStep
import BoundSql.Proofs.Reservation
import BoundSql.Proofs.SessionTurn
import BoundSql.Proofs.TransactionFate
import BoundSql.Proofs.TransactionLedger
import BoundSql.Proofs.Sealing
import BoundSql.Proofs.SessionCourse
import BoundSql.Proofs.ScopedTransaction
import BoundSql.Proofs.CallEffect
import BoundSql.Proofs.MarkerBalance
import BoundSql.Proofs.FragmentReading
import BoundSql.Proofs.SplicedFragment
import BoundSql.Proofs.DialectText
import BoundSql.Proofs.HandedStatement
import BoundSql.Proofs.WrittenStatement
import BoundSql.Proofs.NameGrammar
import BoundSql.Proofs.NameReading
import BoundSql.Proofs.RowMerge
import BoundSql.Proofs.Assignments
import BoundSql.Proofs.WrittenColumns
import BoundSql.Proofs.CallFrame
import BoundSql.Proofs.RefusedCall
import BoundSql.Proofs.KeptConditions
import BoundSql.Proofs.ConditionLedger
import BoundSql.Proofs.WhereClause
import BoundSql.Proofs.FirstFailure
import BoundSql.Proofs.InsertedRows
import BoundSql.Proofs.SelectParts
import BoundSql.Proofs.DerivedQuery
import BoundSql.Proofs.RowSet
import BoundSql.Proofs.SettledTree
import BoundSql.Proofs.Clause
import BoundSql.Proofs.ClauseWriting
import BoundSql.Proofs.ClauseOrder
import BoundSql.Proofs.NameDecoding
import BoundSql.Proofs.NameCheck
import BoundSql.Proofs.AddressedTable
import BoundSql.Proofs.Batching
import BoundSql.Proofs.LiteralReading
import BoundSql.Proofs.LiteralPlaces
import BoundSql.Proofs.SingleStatement
import BoundSql.Proofs.RawBinding
import BoundSql.Proofs.ShiftAction
