import SqlStatement.Condition

/-!
# Filters

A filter is the predicate of a `where` clause: leaf conditions and nested groups, each filed under
`and` or `or`.  Its text lists the groups and conditions in one fixed order, whatever the order in
which they were filed: groups under `and`, conditions under `and`, groups under `or`, conditions
under `or`.

* `Filter.push` and `Filter.pushGroup` file a condition and a group; an empty group is dropped.
* `Filter.sql` is the text.  Groups stand in parentheses, siblings of one kind are joined by their
  keyword, and the four parts are glued by ` And ` and ` Or ` where both sides have a text.
-/

namespace SqlStatement

/-- A predicate as a tree of conditions. -/
structure Filter where
  andGroups : List Filter := []
  andLeaves : List Condition := []
  orGroups : List Filter := []
  orLeaves : List Condition := []
deriving Inhabited

namespace Filter

/-- The filter without conditions. -/
def empty : Filter := {}

/-- Whether the filter has neither conditions nor groups of its own. -/
def isEmpty (f : Filter) : Bool :=
  f.andGroups.isEmpty && f.andLeaves.isEmpty && f.orGroups.isEmpty && f.orLeaves.isEmpty

/-- The conditions filed under a connector, in filing order. -/
def leaves (f : Filter) : Connector → List Condition
  | .and => f.andLeaves
  | .or => f.orLeaves

/-- The groups filed under a connector, in filing order. -/
def groups (f : Filter) : Connector → List Filter
  | .and => f.andGroups
  | .or => f.orGroups

/-- Files a condition. -/
def push (f : Filter) (connector : Connector) (c : Condition) : Filter :=
  match connector with
  | .and => { f with andLeaves := f.andLeaves ++ [c] }
  | .or => { f with orLeaves := f.orLeaves ++ [c] }

/-- Files a group unless it is empty. -/
def pushGroup (f : Filter) (connector : Connector) (group : Filter) : Filter :=
  if group.isEmpty then f
  else
    match connector with
    | .and => { f with andGroups := f.andGroups ++ [group] }
    | .or => { f with orGroups := f.orGroups ++ [group] }

@[simp]
theorem leaves_push (f : Filter) (k connector : Connector) (c : Condition) :
    (f.push connector c).leaves k = f.leaves k ++ if k = connector then [c] else [] := by
  cases k <;> cases connector <;> simp [push, leaves]

@[simp]
theorem groups_push (f : Filter) (k connector : Connector) (c : Condition) :
    (f.push connector c).groups k = f.groups k := by
  cases k <;> cases connector <;> rfl

@[simp]
theorem isEmpty_push (f : Filter) (connector : Connector) (c : Condition) :
    (f.push connector c).isEmpty = false := by
  cases connector <;> simp [push, isEmpty]

/-- An empty group is dropped. -/
theorem pushGroup_of_isEmpty
    {group : Filter}
    (f : Filter)
    (connector : Connector)
    (h : group.isEmpty = true) :
    f.pushGroup connector group = f := by
  simp [pushGroup, h]

/-- A group that is not empty is filed behind those of its connector. -/
theorem groups_pushGroup
    {group : Filter}
    (f : Filter)
    (k connector : Connector)
    (h : group.isEmpty = false) :
    (f.pushGroup connector group).groups k =
      f.groups k ++ if k = connector then [group] else [] := by
  cases k <;> cases connector <;> simp [pushGroup, h, groups]

@[simp]
theorem leaves_pushGroup (f : Filter) (k connector : Connector) (group : Filter) :
    (f.pushGroup connector group).leaves k = f.leaves k := by
  cases h : group.isEmpty <;> cases k <;> cases connector <;> simp [pushGroup, h, leaves]

/-- The filter of one condition. -/
def single (c : Condition) : Filter :=
  empty.push .and c

/-- Texts of siblings with their keyword between them. -/
def joined (connector : Connector) (texts : List String) : String :=
  (" " ++ connector.keyword ++ " ").intercalate texts

/-- Two texts with a word between them, or the one that is not empty. -/
def glue (word left right : String) : String :=
  if left = "" then right else if right = "" then left else left ++ word ++ right

mutual

/-- The text of the predicate. -/
def sql : Filter → Except UnsupportedArgument String
  | ⟨andGroups, andLeaves, orGroups, orLeaves⟩ => do
    let andGroups ← groupSqls andGroups
    let andLeaves ← andLeaves.mapM Condition.sql
    let orGroups ← groupSqls orGroups
    let orLeaves ← orLeaves.mapM Condition.sql
    let conjuncts := glue " And " (joined .and andGroups) (joined .and andLeaves)
    return glue " Or " (glue " Or " conjuncts (joined .or orGroups)) (joined .or orLeaves)

/-- The texts of groups, each between parentheses. -/
def groupSqls : List Filter → Except UnsupportedArgument (List String)
  | [] => .ok []
  | group :: groups => do
    let text ← group.sql
    let texts ← groupSqls groups
    return ("(" ++ text ++ ")") :: texts

end

/-- The text of a `where` clause with its leading blank; an empty filter needs no clause. -/
def clauseSql (f : Filter) : Except UnsupportedArgument String :=
  if f.isEmpty then .ok "" else do return " where " ++ (← f.sql)

/-- The texts of groups are found one by one, and the first failure is the failure of all. -/
theorem groupSqls_eq_mapM (groups : List Filter) :
    groupSqls groups = groups.mapM (fun group => do return "(" ++ (← group.sql) ++ ")") := by
  induction groups with
  | nil => rfl
  | cons group groups ih =>
    simp only [groupSqls, List.mapM_cons, ih]
    cases group.sql <;> rfl

/-- The text through the conditions and groups of each connector. -/
theorem sql_eq (f : Filter) :
    f.sql = do
      let andGroups ← groupSqls (f.groups .and)
      let andLeaves ← (f.leaves .and).mapM Condition.sql
      let orGroups ← groupSqls (f.groups .or)
      let orLeaves ← (f.leaves .or).mapM Condition.sql
      let conjuncts := glue " And " (joined .and andGroups) (joined .and andLeaves)
      return glue " Or " (glue " Or " conjuncts (joined .or orGroups)) (joined .or orLeaves) := by
  cases f
  rfl

theorem glue_empty (word left : String) : glue word left "" = left := by
  by_cases h : left = "" <;> simp [glue, h]

theorem empty_glue (word right : String) : glue word "" right = right := by
  simp [glue]

/-- A single condition is written as it is. -/
theorem sql_single (c : Condition) : (single c).sql = c.sql := by
  rw [sql_eq]
  change (do
    let leaves ← [c].mapM Condition.sql
    let conjuncts := glue " And " "" (joined .and leaves)
    return glue " Or " (glue " Or " conjuncts "") "") = c.sql
  simp only [glue_empty, empty_glue, List.mapM_cons, List.mapM_nil]
  cases c.sql with
  | error failure => rfl
  | ok text => exact congrArg Except.ok String.intercalate_singleton

end Filter

end SqlStatement
