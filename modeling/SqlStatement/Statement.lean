import SqlStatement.Delete
import SqlStatement.Session

/-!
# Statements

Queries and deletions run in the same way: the statement is validated, written, logged and handed
over, in this order, so that what is logged is what is handed over.  All values stand in the text,
so there are no parameters.

* `Statement.checkedSql` validates and then writes.
* `Statement.query`, `Statement.queryFirst?`, `Statement.queryFirst` and `Statement.execute` run a
  statement.
* `Query.count` counts the rows of a query; it leaves no record of its own.
-/

namespace SqlStatement

/-- What can be written as a statement and run. -/
class Statement (σ : Type) where
  /-- The text of the statement. -/
  sql : σ → Except UnsupportedArgument String
  /-- Refuses a statement that must not run. -/
  validate : σ → Except Failure Unit

instance : Statement Query where
  sql := Query.sql
  validate := fun _ => .ok ()

instance : Statement Delete where
  sql := Delete.sql
  validate := Delete.validate

namespace Statement

variable {σ : Type} [Statement σ]

/-- The text of a statement that may run. -/
def checkedSql (s : σ) : Except Failure String := do
  validate s
  (sql s).mapError .unsupportedArgument

/-- The text of a statement that may run, left in the log. -/
def announce (operation : Operation) (s : σ) : Access String := do
  let text ← Access.ofExcept (checkedSql s)
  Access.log (.statement operation text)
  return text

/-- Runs a statement for all its rows. -/
def query (s : σ) : Access (List Cell) := do
  let text ← announce .query s
  Access.rows text []

/-- Runs a statement for its first row, if there is one. -/
def queryFirst? (s : σ) : Access (Option Cell) := do
  let text ← announce .queryFirst s
  Access.firstRow? text []

/-- Runs a statement for its first row, without which it fails. -/
def queryFirst (s : σ) : Access Cell := do
  let text ← announce .queryOne s
  Access.firstRow text []

end Statement

/-- Runs a deletion and counts the removed rows. -/
def Delete.execute (d : Delete) : Access Nat := do
  let text ← Statement.announce .execute d
  Access.affected text []

/-- The number in a cell of a counting statement. -/
def Cell.count : Cell → Except Failure Int64
  | int8 n => .ok n
  | _ => .error (.decode "count" none)

/-- Counts the rows of a query. -/
def Query.count (q : Query) : Access Int64 := do
  let text ← Access.ofSql q.countSql
  let row ← Access.firstRow text []
  Access.ofExcept row.count

end SqlStatement
