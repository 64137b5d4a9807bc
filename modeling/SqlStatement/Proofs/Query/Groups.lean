import SqlStatement.Delete
import SqlStatement.Proofs.Query.Clauses

/-!
# What a group hands to its parent

A group is built on a query of its own by steps of every kind, and the parent takes nothing but the
predicate of that query.  So the steps that write its other clauses have no effect outside the
group, wherever in the group they stand.

* `Query.Step.predicatePart` deletes those steps, in groups and branches at every depth.
* `Query.Step.applyAll_predicateParts` says that a program and what is left of it write the same
  predicate, and that what is left writes nothing else.
* `Filter.Receives` says that a filter has received a group and is otherwise as it was.
* `Query.Step.group_reaches_parent_by_predicate` is the main result, for queries and deletions.
-/

namespace SqlStatement

open Fallible

/-- A filter after a group was filed in it: the group stands behind those of its connector, or
nothing has changed if it is empty. -/
structure Filter.Receives
    (before : Filter)
    (connector : Connector)
    (group after : Filter) :
    Prop where
  leaves_eq : ∀ k, after.leaves k = before.leaves k
  groups_eq : ∀ k, k ≠ connector → after.groups k = before.groups k
  groups_connector_eq :
    group.isEmpty = false → after.groups connector = before.groups connector ++ [group]
  eq_of_isEmpty : group.isEmpty = true → after = before

theorem Filter.receives_pushGroup
    (f : Filter)
    (connector : Connector)
    (group : Filter) :
    f.Receives connector group (f.pushGroup connector group) where
  leaves_eq k := leaves_pushGroup f k connector group
  groups_eq k hk := by
    cases hempty : group.isEmpty with
    | true =>
        rw [pushGroup_of_isEmpty f connector hempty]
    | false =>
        rw [groups_pushGroup f k connector hempty, if_neg hk, List.append_nil]
  groups_connector_eq hempty := by
    rw [groups_pushGroup f connector connector hempty, if_pos rfl]
  eq_of_isEmpty hempty := pushGroup_of_isEmpty f connector hempty

namespace Query.Step

/-! ### Deleting what writes other clauses -/

mutual

/-- What is left of a step when the steps that write columns, source, joins, grouping, order, limit
and offset, and those that write nothing, are deleted at every depth. -/
def predicatePart : Step → List Step
  | condition connector c => [condition connector c]
  | group connector steps => [group connector (predicateParts steps)]
  | branch holds thenSteps elseSteps =>
    [branch holds (predicateParts thenSteps) (predicateParts elseSteps)]
  | columns _ | source _ | subquery _ _ _ | join _ | orderBy _ | groupBy _ | limit _ | offset _
  | paginate _ _ | skip => []

/-- What is left of a program. -/
def predicateParts : List Step → List Step
  | [] => []
  | step :: steps => step.predicatePart ++ predicateParts steps

end

theorem filterOf_eq_ok_iff
    (steps : List Step)
    (f : Filter) :
    filterOf steps = .ok f ↔
      ∃ child, applyAll steps (onTable "") = .ok child ∧ child.filter = f := by
  unfold filterOf
  cases applyAll steps (onTable "") with
  | error failure =>
      simp [bind, Except.bind]
  | ok child =>
      simp [bind, Except.bind, pure, Except.pure]

/-! ### The same predicate -/

mutual

/-- On any query with the same predicate, what is left of a step writes the predicate that the step
writes, and writes no other clause. -/
theorem applyAll_predicatePart :
    ∀ (step : Step) {q next : Query} (other : Query),
      step.apply q = .ok next →
        applyAll step.predicatePart { other with filter := q.filter } =
          .ok { other with filter := next.filter }
  | .condition connector c, q, next, other, h => by
      obtain rfl := Except.ok.inj h
      rfl
  | .group connector steps, q, next, other, h => by
      obtain ⟨child, hchild, h⟩ := exists_of_bind_eq_ok h
      obtain rfl := Except.ok.inj h
      have hleft : applyAll (predicateParts steps) (onTable "") =
          .ok { onTable "" with filter := child.filter } :=
        applyAll_predicateParts steps (onTable "") hchild
      rw [predicatePart, applyAll_singleton, apply, hleft]
      rfl
  | .branch true steps _, q, next, other, h => by
      rw [predicatePart, applyAll_singleton]
      exact applyAll_predicateParts steps other h
  | .branch false _ steps, q, next, other, h => by
      rw [predicatePart, applyAll_singleton]
      exact applyAll_predicateParts steps other h
  | .columns _, q, next, other, h | .source _, q, next, other, h | .join _, q, next, other, h
  | .orderBy _, q, next, other, h | .groupBy _, q, next, other, h | .limit _, q, next, other, h
  | .offset _, q, next, other, h | .skip, q, next, other, h => by
      obtain rfl := Except.ok.inj h
      rfl
  | .subquery table steps name, q, next, other, h => by
      obtain ⟨inner, _, h⟩ := exists_of_bind_eq_ok h
      obtain rfl := Except.ok.inj h
      rfl
  | .paginate page perPage, q, next, other, h => by
      obtain ⟨window, _, h⟩ := exists_of_bind_eq_ok h
      obtain rfl := Except.ok.inj h
      rfl

/-- On any query with the same predicate, what is left of a program writes the predicate that the
program writes, and writes no other clause. -/
theorem applyAll_predicateParts :
    ∀ (steps : List Step) {q next : Query} (other : Query),
      applyAll steps q = .ok next →
        applyAll (predicateParts steps) { other with filter := q.filter } =
          .ok { other with filter := next.filter }
  | [], q, next, other, h => by
      obtain rfl := Except.ok.inj h
      rfl
  | step :: steps, q, next, other, h => by
      obtain ⟨middle, hstep, h⟩ := exists_of_bind_eq_ok h
      rw [predicateParts, applyAll_append, applyAll_predicatePart step other hstep]
      exact applyAll_predicateParts steps other h

end

/-- A group is the same when the steps that write other clauses are deleted. -/
theorem filterOf_predicateParts
    {steps : List Step}
    {group : Filter}
    (h : filterOf steps = .ok group) :
    filterOf (predicateParts steps) = .ok group := by
  obtain ⟨child, hchild, rfl⟩ := (filterOf_eq_ok_iff steps group).1 h
  rw [filterOf_eq_ok_iff]
  exact ⟨_, applyAll_predicateParts steps (onTable "") hchild, rfl⟩

/-! ### What reaches the parent -/

theorem apply_group
    {steps : List Step}
    {group : Filter}
    (h : filterOf steps = .ok group)
    (connector : Connector)
    (q : Query) :
    (Step.group connector steps).apply q =
      .ok { q with filter := q.filter.pushGroup connector group } := by
  obtain ⟨child, hchild, rfl⟩ := (filterOf_eq_ok_iff steps group).1 h
  rw [apply, hchild]
  rfl

/-- A group of steps reaches its parent, a query or a deletion, only through the predicate that the
steps write: the predicate of the parent receives it and nothing else changes, and the steps that
write other clauses can be deleted at every depth without a difference. -/
theorem group_reaches_parent_by_predicate
    (connector : Connector)
    {steps : List Step}
    {group : Filter}
    (h : filterOf steps = .ok group) :
    filterOf (predicateParts steps) = .ok group ∧
    (∀ q : Query, ∃ next,
      (Step.group connector steps).apply q = .ok next ∧
      next = { q with filter := next.filter } ∧
      q.filter.Receives connector group next.filter ∧
      (group.isEmpty = true → next = q)) ∧
    ∀ d : Delete, ∃ next,
      (Delete.Step.group connector steps).apply d = .ok next ∧
      next = { d with filter := next.filter } ∧
      d.filter.Receives connector group next.filter ∧
      (group.isEmpty = true → next = d) := by
  refine ⟨filterOf_predicateParts h, fun q => ?_, fun d => ?_⟩
  · refine ⟨_, apply_group h connector q, rfl, q.filter.receives_pushGroup connector group, ?_⟩
    intro hempty
    rw [Filter.pushGroup_of_isEmpty q.filter connector hempty]
  · have happly : (Delete.Step.group connector steps).apply d =
        .ok { d with filter := d.filter.pushGroup connector group } := by
      rw [Delete.Step.apply, h]
      rfl
    refine ⟨_, happly, rfl, d.filter.receives_pushGroup connector group, ?_⟩
    intro hempty
    rw [Filter.pushGroup_of_isEmpty d.filter connector hempty]

/-- A group with a branch in it, a group in that, and steps of all other kinds at every depth, among
them a sub-select without a text. -/
theorem group_reaches_parent_by_predicate_subquery :
    let unwritable : Step := .subquery "logs" [.condition .and (.oneOf "id" (.int 5))] "l"
    let steps : List Step :=
      [.columns ["id"], .condition .or (.isNull "closed"), .orderBy ⟨"id", .descending⟩,
        .branch true
          [unwritable, .group .and [.limit 5, unwritable, .condition .and (.isNull "hidden")]]
          [.paginate 2 10],
        .group .or [.paginate 2 10]]
    let left : List Step :=
      [.condition .or (.isNull "closed"),
        .branch true [.group .and [.condition .and (.isNull "hidden")]] [],
        .group .or []]
    let group : Filter := ⟨[.single (.isNull "hidden")], [], [], [.isNull "closed"]⟩
    (∃ q, unwritable.apply (onTable "t") = .ok q ∧
      q.source.sql = .error ⟨"id", "in", "Int(5)"⟩) ∧
    predicateParts steps = left ∧
    filterOf steps = .ok group ∧
    filterOf left = .ok group ∧
    ∃ next,
      (Delete.Step.group .or steps).apply { table := "t" } = .ok next ∧
      next = { table := "t", filter := next.filter } ∧
      next.filter.groups .or = [group] := by
  intro unwritable steps left group
  have hgroup : filterOf steps = .ok group := rfl
  obtain ⟨hleft, -, hdelete⟩ := group_reaches_parent_by_predicate .or hgroup
  obtain ⟨next, hnext, hfilter, hreceives, -⟩ := hdelete { table := "t" }
  exact ⟨⟨_, rfl, rfl⟩, rfl, hgroup, hleft, next, hnext, hfilter,
    hreceives.groups_connector_eq rfl⟩

end Query.Step

end SqlStatement
