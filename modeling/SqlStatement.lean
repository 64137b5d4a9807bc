import SqlStatement.Number.Binary
import SqlStatement.Number.Shortest
import SqlStatement.Number.Layout
import SqlStatement.Text.CharacterClass
import SqlStatement.Text.Diagnostic
import SqlStatement.Document
import SqlStatement.Argument
import SqlStatement.Condition
import SqlStatement.Filter
import SqlStatement.Filter.Edit
import SqlStatement.Join
import SqlStatement.SortKey
import SqlStatement.Window
import SqlStatement.Query
import SqlStatement.Query.Step
import SqlStatement.Failure
import SqlStatement.Delete
import SqlStatement.Log
import SqlStatement.Session
import SqlStatement.Statement
import SqlStatement.Table
import SqlStatement.Run
import SqlStatement.Proofs.SearchCondition
import SqlStatement.Proofs.Fallible
import SqlStatement.Proofs.Filter.Conditions
import SqlStatement.Proofs.Filter.Text
import SqlStatement.Proofs.Filter.Meaning
import SqlStatement.Proofs.Delete.Guard
import SqlStatement.Proofs.Query.FirstFailure
import SqlStatement.Proofs.Table.KeyFilter
import SqlStatement.Proofs.Run.Replies
import SqlStatement.Proofs.Query.SharedRows
import SqlStatement.Proofs.Run.Log
import SqlStatement.Proofs.Table.Pagination
import SqlStatement.Proofs.Filter.Built
import SqlStatement.Proofs.Query.Clauses
import SqlStatement.Proofs.Table.DeletedRows
import SqlStatement.Proofs.SearchCondition.Cuts
import SqlStatement.Proofs.Query.PlainWords
import SqlStatement.Proofs.Query.ClauseTexts
import SqlStatement.Proofs.Query.Determined
import SqlStatement.Proofs.Argument.Elements
import SqlStatement.Proofs.Argument.ListText
import SqlStatement.Proofs.Argument.Tokens
import SqlStatement.Proofs.Argument.Carriers
import SqlStatement.Proofs.Query.Pages
import SqlStatement.Proofs.Argument.Gaps
import SqlStatement.Proofs.Argument.SinglePrecision
import SqlStatement.Proofs.Query.Groups
import SqlStatement.Proofs.Filter.Filing
import SqlStatement.Proofs.Text.Diagnostic
import SqlStatement.Proofs.Argument.Diagnostic
