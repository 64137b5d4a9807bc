import SqlStatement.Query
import SqlStatement.Window

/-!
# Query steps

A query is built by steps, and steps are data: nested groups, sub-selects and branches hold the
steps of which they are made.  A step either gives the next query or overflows, and an overflow
ends the program it occurs in, at whatever depth.

* `Query.Step.apply` is the effect of one step and `Query.Step.applyAll` that of a program.
* A group is built on a query of its own, of which only the predicate is kept.
-/

namespace SqlStatement.Query

/-- A step in building a query. -/
inductive Step where
  /-- Files a condition. -/
  | condition (connector : Connector) (c : Condition)
  /-- Files the predicate of the query that the inner steps build. -/
  | group (connector : Connector) (steps : List Step)
  /-- Appends columns to those selected. -/
  | columns (names : List String)
  /-- Replaces the source. -/
  | source (target : Source)
  /-- Replaces the source by the query that the inner steps build on a table. -/
  | subquery (table : String) (steps : List Step) (name : String)
  | join (j : Join)
  | orderBy (key : SortKey)
  /-- Appends columns to those grouped by. -/
  | groupBy (names : List String)
  | limit (n : Int64)
  | offset (n : Int64)
  /-- Replaces limit and offset by those of a page. -/
  | paginate (page perPage : Int64)
  /-- Runs the first program if the condition holds and the second if not. -/
  | branch (holds : Bool) (thenSteps elseSteps : List Step)
  /-- Leaves the query as it is. -/
  | skip
deriving Inhabited

namespace Step

/-- The step that files a condition if there is one. -/
def optionalCondition (connector : Connector) : Option Condition → Step
  | some c => .condition connector c
  | none => .skip

/-- The step that reads from several tables, or from those of before if none is named. -/
def tables (names : List String) : Step :=
  if names.isEmpty then .skip else .source (.tables names)

mutual

/-- The query after a step. -/
def apply : Step → Query → Except Overflow Query
  | condition connector c, q => .ok { q with filter := q.filter.push connector c }
  | group connector steps, q => do
    let child ← applyAll steps (onTable "")
    return { q with filter := q.filter.pushGroup connector child.filter }
  | columns names, q => .ok { q with columns := q.columns ++ names }
  | source target, q => .ok { q with source := target }
  | subquery table steps name, q => do
    let inner ← applyAll steps (onTable table)
    return { q with source := inner.asSource name }
  | join j, q => .ok { q with joins := q.joins ++ [j] }
  | orderBy key, q => .ok { q with orderBy := q.orderBy ++ [key] }
  | groupBy names, q => .ok { q with groupBy := q.groupBy ++ names }
  | limit n, q => .ok { q with limit := some n }
  | offset n, q => .ok { q with offset := some n }
  | paginate page perPage, q => do
    let window ← Window.ofPage page perPage
    return { q with limit := some window.limit, offset := some window.offset }
  | branch true steps _, q => applyAll steps q
  | branch false _ steps, q => applyAll steps q
  | skip, q => .ok q

/-- The query after a program. -/
def applyAll : List Step → Query → Except Overflow Query
  | [], q => .ok q
  | step :: steps, q => do
    let next ← step.apply q
    applyAll steps next

end

/-- A program continues where the one before it ends. -/
theorem applyAll_append (first second : List Step) (q : Query) :
    applyAll (first ++ second) q = applyAll first q >>= applyAll second := by
  induction first generalizing q with
  | nil => rfl
  | cons step first ih =>
    simp only [List.cons_append, applyAll, ih]
    cases step.apply q <;> rfl

/-- The predicate that a program builds on a query of its own. -/
def filterOf (steps : List Step) : Except Overflow Filter := do
  let q ← applyAll steps (onTable "")
  return q.filter

end Step

end SqlStatement.Query
