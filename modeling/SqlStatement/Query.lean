import SqlStatement.Filter
import SqlStatement.Join
import SqlStatement.SortKey

/-!
# Queries

A query selects columns from a source, which is a table expression or the rows of another query.
All that a query says apart from its source is its `Selection`, so a source is a chain of
selections over one table expression.

* `Selection.bodySql` is the part of a statement that fixes which rows it reads: source, joins,
  predicate and grouping.  The statement that selects and the one that counts share it.
* `Query.sql` and `Query.countSql` are those statements.  A grouped query is counted through a
  sub-select, so that groups are counted and not rows.
-/

namespace SqlStatement

/-- What a query says apart from its source. -/
structure Selection where
  columns : List String := ["*"]
  joins : List Join := []
  filter : Filter := {}
  groupBy : List String := []
  orderBy : List SortKey := []
  limit : Option Int64 := none
  offset : Option Int64 := none
deriving Inhabited

namespace Selection

/-- Columns between commas. -/
def columnList (columns : List String) : String :=
  ",".intercalate columns

/-- The clause of joins with its leading blank. -/
def joinsSql (s : Selection) : Except UnsupportedArgument String :=
  if s.joins.isEmpty then .ok "" else do return " " ++ (← Join.listSql s.joins)

/-- The grouping clause with its leading blank. -/
def groupBySql (s : Selection) : String :=
  if s.groupBy.isEmpty then "" else " group by " ++ columnList s.groupBy

/-- The ordering clause with its leading blank. -/
def orderBySql (s : Selection) : String :=
  if s.orderBy.isEmpty then "" else " order by " ++ SortKey.listSql s.orderBy

/-- A clause that holds one number, with its leading blank. -/
def boundSql (keyword : String) : Option Int64 → String
  | none => ""
  | some n => " " ++ keyword ++ " " ++ toString n.toInt

/-- The rows that a statement on the given source reads. -/
def bodySql (s : Selection) (source : String) : Except UnsupportedArgument String := do
  let joins ← s.joinsSql
  let filter ← s.filter.clauseSql
  return " from " ++ source ++ joins ++ filter ++ s.groupBySql

/-- The order in which rows are returned and the window of them that is. -/
def tailSql (s : Selection) : String :=
  s.orderBySql ++ boundSql "limit" s.limit ++ boundSql "offset" s.offset

/-- The statement that selects from the given source. -/
def selectSql (s : Selection) (source : String) : Except UnsupportedArgument String := do
  let body ← s.bodySql source
  return "select " ++ columnList s.columns ++ body ++ s.tailSql

end Selection

/-- Where a query reads its rows. -/
inductive Source where
  /-- A table expression, written as it is. -/
  | table (expression : String)
  /-- The rows that a selection takes from a source, under a name. -/
  | subquery (source : Source) (selection : Selection) (name : String)
deriving Inhabited

namespace Source

/-- A table under another name. -/
def renamed (table name : String) : Source :=
  .table (table ++ " as " ++ name)

/-- Several tables between commas. -/
def tables (names : List String) : Source :=
  .table (",".intercalate names)

/-- Whether the rows come from another query. -/
def isSubquery : Source → Bool
  | table _ => false
  | subquery .. => true

/-- The text behind `from`. -/
def sql : Source → Except UnsupportedArgument String
  | table expression => .ok expression
  | subquery source selection name => do
    let inner ← source.sql
    let statement ← selection.selectSql inner
    return "(" ++ statement ++ ") as " ++ name

end Source

/-- A query. -/
structure Query extends Selection where
  source : Source
deriving Inhabited

namespace Query

/-- The query for all columns and rows of a table expression. -/
def onTable (expression : String) : Query where
  source := .table expression

/-- The rows of a query as a source. -/
def asSource (q : Query) (name : String) : Source :=
  .subquery q.source q.toSelection name

/-- Whether the query joins other tables to its source. -/
def hasJoins (q : Query) : Bool :=
  !q.joins.isEmpty

/-- Whether the query counts as grouped. -/
def isGrouped (q : Query) : Bool :=
  !q.groupBy.isEmpty

/-- The rows that the query reads. -/
def bodySql (q : Query) : Except UnsupportedArgument String := do
  let source ← q.source.sql
  q.toSelection.bodySql source

/-- The statement that selects. -/
def sql (q : Query) : Except UnsupportedArgument String := do
  let source ← q.source.sql
  q.toSelection.selectSql source

/-- The query for the groups of a query: one row for each, in no order, and all of them. -/
def groupsQuery (q : Query) : Query :=
  { q with columns := ["1"], orderBy := [], limit := none, offset := none }

/-- The statement that counts rows, or groups if the query is grouped. -/
def countSql (q : Query) : Except UnsupportedArgument String := do
  if q.isGrouped then
    let groups ← q.groupsQuery.sql
    return "select count(*) from (" ++ groups ++ ") as t"
  else
    let body ← q.bodySql
    return "select count(*)" ++ body

end Query

end SqlStatement
