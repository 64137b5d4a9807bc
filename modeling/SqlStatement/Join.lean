import SqlStatement.Filter

/-!
# Joins

A join names its kind, the joined table and the comparison on which rows are matched, which is a
filter of one condition.  The comparison has text on both sides, so a join always has a text of its
own, whatever its operator is: `Join.sql` shares the failing type of filters and never fails.
-/

namespace SqlStatement

/-- The kind of a join. -/
inductive JoinKind where
  | inner
  | left
  | right
  | fullOuter
deriving DecidableEq

namespace JoinKind

instance : Inhabited JoinKind := ⟨.inner⟩

/-- The keyword before `join`. -/
def keyword : JoinKind → String
  | inner => "inner"
  | left => "left"
  | right => "right"
  | fullOuter => "full outer"

end JoinKind

/-- A joined table with the comparison `first operator second`. -/
structure Join where
  kind : JoinKind
  table : String
  first : String
  operator : String
  second : String
deriving DecidableEq, Inhabited

namespace Join

/-- The condition on which rows are matched. -/
def constraint (j : Join) : Condition :=
  ⟨j.first, j.operator, .text j.second⟩

/-- The text of a join. -/
def sql (j : Join) : Except UnsupportedArgument String := do
  let constraint ← (Filter.single j.constraint).sql
  return j.kind.keyword ++ " join " ++ j.table ++ " on " ++ constraint

/-- The texts of joins, separated by blanks. -/
def listSql (joins : List Join) : Except UnsupportedArgument String := do
  let texts ← joins.mapM sql
  return " ".intercalate texts

end Join

end SqlStatement
