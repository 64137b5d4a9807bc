import SqlStatement.Failure
import SqlStatement.Query.Step

/-!
# Deletions

A deletion removes the rows of a table that satisfy a filter.  Without a filter it would remove all
rows, so it is refused unless that was allowed.

* `Delete.sql` is the text and `Delete.validate` the refusal.
* `Delete.Step` are the steps by which a deletion is built; they file conditions and groups as query
  steps do.
-/

namespace SqlStatement

/-- The removal of rows from a table. -/
structure Delete where
  table : String
  filter : Filter := {}
  /-- Whether all rows may be removed. -/
  allowsAll : Bool := false
deriving Inhabited

namespace Delete

/-- The statement that deletes. -/
def sql (d : Delete) : Except UnsupportedArgument String := do
  let filter ← d.filter.clauseSql
  return "delete from " ++ d.table ++ filter

/-- Refuses the removal of all rows unless it is allowed. -/
def validate (d : Delete) : Except Failure Unit :=
  if d.filter.isEmpty && !d.allowsAll then
    .error (.validation
      "DELETE without WHERE is not allowed; call allow_delete_all(true) to override")
  else
    .ok ()

/-- A step in building a deletion. -/
inductive Step where
  /-- Files a condition. -/
  | condition (connector : Connector) (c : Condition)
  /-- Files the predicate of the query that the inner steps build. -/
  | group (connector : Connector) (steps : List Query.Step)
  /-- Allows or forbids the removal of all rows. -/
  | allowAll (allows : Bool)
  /-- Leaves the deletion as it is. -/
  | skip
deriving Inhabited

namespace Step

/-- The step that files a condition if there is one. -/
def optionalCondition (connector : Connector) : Option Condition → Step
  | some c => .condition connector c
  | none => .skip

/-- The deletion after a step. -/
def apply : Step → Delete → Except Overflow Delete
  | condition connector c, d => .ok { d with filter := d.filter.push connector c }
  | group connector steps, d => do
    let group ← Query.Step.filterOf steps
    return { d with filter := d.filter.pushGroup connector group }
  | allowAll allows, d => .ok { d with allowsAll := allows }
  | skip, d => .ok d

/-- The deletion after a list of steps. -/
def applyAll (steps : List Step) (d : Delete) : Except Overflow Delete :=
  steps.foldlM (fun d step => step.apply d) d

end Step

end Delete

end SqlStatement
