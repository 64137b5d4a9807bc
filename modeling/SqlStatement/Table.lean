import SqlStatement.Statement

/-!
# Tables

A table is a query together with the column that identifies its rows.  Its operations run the query
or a statement made from it.

* `Table.first` and `Table.find` ask for one row.  The key of `find` is compared outside the
  predicate of the query, which becomes a group, so no alternative in that predicate escapes it.
* `Table.delete` removes the rows that satisfy the predicate.  It is refused for a query with joins
  or over a sub-select, which a deletion cannot express.
-/

namespace SqlStatement

/-- A query on rows that a key column identifies. -/
structure Table where
  query : Query
  primaryKey : String := "id"
deriving Inhabited

namespace Table

/-- The query for all columns and rows of a table expression, with the key `id`. -/
def onTable (expression : String) : Table where
  query := .onTable expression

/-- The table with another key column. -/
def withPrimaryKey (t : Table) (column : String) : Table :=
  { t with primaryKey := column }

/-- The query of `first`: one row instead of the limit there was. -/
def firstQuery (t : Table) : Query :=
  { t.query with limit := some 1 }

/-- The predicate of `find`: what the query asks for, as a group, and the key. -/
def keyFilter (t : Table) (key : Argument) : Filter :=
  (Filter.empty.pushGroup .and t.query.filter).push .and (.equals t.primaryKey key)

/-- The query of `find`. -/
def findQuery (t : Table) (key : Argument) : Query :=
  { t.query with filter := t.keyFilter key, limit := some 1 }

/-- The deletion of the rows that satisfy the predicate, where a deletion can express it. -/
def toDelete (t : Table) : Except Failure Delete :=
  if t.query.hasJoins then
    .error (.validation "DELETE cannot include joins")
  else
    match t.query.source with
    | .subquery .. => .error (.validation "DELETE cannot target a sub-select")
    | .table expression => .ok { table := expression, filter := t.query.filter }

/-- Fetches all rows. -/
def get (t : Table) : Access (List Cell) := do
  Access.log (.tableOperation .get t.query.sql)
  Statement.query t.query

/-- Fetches the first row, if there is one. -/
def first (t : Table) : Access (Option Cell) := do
  Access.log (.tableOperation .first t.firstQuery.sql)
  Statement.queryFirst? t.firstQuery

/-- Fetches the row with the given key, if there is one. -/
def find (t : Table) (key : Argument) : Access (Option Cell) := do
  Access.log (.tableOperation .find (t.findQuery key).sql)
  Statement.queryFirst? (t.findQuery key)

/-- Counts the rows. -/
def count (t : Table) : Access Int64 := do
  Access.log (.tableOperation .count t.query.countSql)
  t.query.count

/-- Removes the rows that satisfy the predicate and counts them. -/
def delete (t : Table) : Access Nat := do
  let deletion ← Access.ofExcept t.toDelete
  Access.log (.tableOperation .delete deletion.sql)
  deletion.execute

end Table

end SqlStatement
