import SqlStatement.Proofs.Filter.Text
import SqlStatement.Proofs.Query.Text

/-!
# The failure of a query

A query is written from its source outwards, and the first condition that has no text ends the
writing.  Nothing else in a query can fail, so the failure is found by a search through one list.

* `Query.conditions` lists the conditions in the order in which they are written: those of nested
  queries from the innermost outwards, then those of the filter.
* `Query.failure?_sql` and `Query.failure?_countSql` say that both statements fail with the first
  condition that fails.
* `Query.sql_eq_error_iff_first` is the main result.
-/

namespace SqlStatement

open Fallible

/-! ### Where a failure comes from -/

namespace Filter

theorem failure?_clauseSql (f : Filter) :
    failure? f.clauseSql = f.conditions.findSome? fun c => failure? c.sql := by
  unfold clauseSql
  split
  · rename_i hempty
    rw [conditions_eq_nil_of_isEmpty hempty]
    rfl
  · rw [← failure?_sql]
    cases f.sql <;> rfl

end Filter

namespace Selection

theorem failure?_bodySql (s : Selection) (source : String) :
    failure? (s.bodySql source) = s.filter.conditions.findSome? fun c => failure? c.sql := by
  obtain ⟨joins, hjoins⟩ := s.exists_joinsSql
  rw [bodySql, hjoins, ← Filter.failure?_clauseSql]
  cases s.filter.clauseSql <;> rfl

/-- Of all that a selection says only its filter can fail. -/
theorem failure?_selectSql (s : Selection) (source : String) :
    failure? (s.selectSql source) = s.filter.conditions.findSome? fun c => failure? c.sql := by
  rw [selectSql, ← failure?_bodySql s source]
  cases s.bodySql source <;> rfl

end Selection

/-- The conditions of nested queries, from the innermost outwards. -/
def Source.conditions : Source → List Condition
  | table _ => []
  | subquery source selection _ => source.conditions ++ selection.filter.conditions

/-- The conditions of a query: those of its source and then those of its filter. -/
def Query.conditions (q : Query) : List Condition :=
  q.source.conditions ++ q.filter.conditions

/-- A source fails with the first of the conditions in it that fails. -/
theorem Source.failure?_sql (source : Source) :
    failure? source.sql = source.conditions.findSome? fun c => failure? c.sql := by
  induction source with
  | table expression =>
      rfl
  | subquery source selection name ih =>
      have hstatement : ∀ inner,
          failure? (do
            let statement ← selection.selectSql inner
            return "(" ++ statement ++ ") as " ++ name) =
          selection.filter.conditions.findSome? fun c => failure? c.sql := by
        intro inner
        rw [← selection.failure?_selectSql inner]
        cases selection.selectSql inner <;> rfl
      rw [Source.sql, failure?_bind hstatement, conditions, List.findSome?_append, ih]

namespace Query

/-- A query fails with the first of its conditions that fails. -/
theorem failure?_sql (q : Query) :
    failure? q.sql = q.conditions.findSome? fun c => failure? c.sql := by
  rw [sql, failure?_bind q.toSelection.failure?_selectSql, q.source.failure?_sql, conditions,
    List.findSome?_append]

theorem failure?_bodySql (q : Query) :
    failure? q.bodySql = q.conditions.findSome? fun c => failure? c.sql := by
  rw [bodySql, failure?_bind q.toSelection.failure?_bodySql, q.source.failure?_sql, conditions,
    List.findSome?_append]

/-- Counting fails as selecting does, whether or not the query is grouped. -/
theorem failure?_countSql (q : Query) :
    failure? q.countSql = failure? q.sql := by
  unfold countSql
  split
  · -- Counting groups clears clauses, none of which holds a condition.
    have hgroups : q.groupsQuery.conditions = q.conditions := rfl
    rw [failure?_sql q, ← hgroups, ← failure?_sql]
    cases q.groupsQuery.sql <;> rfl
  · rw [failure?_sql, ← failure?_bodySql]
    cases q.bodySql <;> rfl

/-- A query has a text only if its source and its filter have. -/
theorem exists_of_sql_eq_ok
    {q : Query}
    {text : String}
    (h : q.sql = .ok text) :
    ∃ source condition, q.source.sql = .ok source ∧ q.filter.sql = .ok condition := by
  obtain ⟨source, hsource, h⟩ := exists_of_bind_eq_ok h
  have hconditions := failure?_eq_none_iff.2 ⟨text, h⟩
  rw [Selection.failure?_selectSql, ← Filter.failure?_sql] at hconditions
  obtain ⟨condition, hcondition⟩ := failure?_eq_none_iff.1 hconditions
  exact ⟨source, condition, hsource, hcondition⟩

/-- A query fails exactly if one of its conditions does, and then with the field, the operator and
the argument of the first that does; so does counting it.  Columns, joins, grouping, ordering, limit
and offset have no part in this. -/
theorem sql_eq_error_iff_first (q : Query) :
    (∀ failure,
      q.sql = .error failure ↔
        ∃ before c after,
          q.conditions = before ++ c :: after ∧
          (∀ b ∈ before, ∃ text, b.sql = .ok text) ∧
          c.sql = .error failure ∧
          failure = ⟨c.field, c.operator, c.argument.diagnostic⟩) ∧
    ((∃ failure, q.sql = .error failure) ↔
      ∃ c ∈ q.conditions, ∃ failure, c.sql = .error failure) ∧
    (∀ failure, q.countSql = .error failure ↔ q.sql = .error failure) ∧
    (∀ (s : Selection) (failure : UnsupportedArgument),
      (Query.mk { s with filter := q.filter } q.source).sql = .error failure ↔
        q.sql = .error failure) ∧
    ∀ j : Join, ∃ text, j.sql = .ok text := by
  refine ⟨fun failure => ?_, ?_, fun failure => ?_, fun s failure => ?_, Join.exists_sql⟩
  · rw [← failure?_eq_some_iff, failure?_sql, List.findSome?_eq_some_iff]
    constructor
    · rintro ⟨before, c, after, hsplit, hc, hbefore⟩
      have hc := failure?_eq_some_iff.1 hc
      exact ⟨before, c, after, hsplit, fun b hb => failure?_eq_none_iff.1 (hbefore b hb), hc,
        Condition.eq_unsupported_of_sql_eq_error hc⟩
    · rintro ⟨before, c, after, hsplit, hbefore, hc, -⟩
      exact ⟨before, c, after, hsplit, failure?_eq_some_iff.2 hc,
        fun b hb => failure?_eq_none_iff.2 (hbefore b hb)⟩
  · simp only [← failure?_eq_some_iff, failure?_sql, ← Option.ne_none_iff_exists', ne_eq,
      List.findSome?_eq_none_iff, not_forall, exists_prop]
  · rw [← failure?_eq_some_iff, failure?_countSql, failure?_eq_some_iff]
  · have hconditions :
        (Query.mk { s with filter := q.filter } q.source).conditions = q.conditions := rfl
    rw [← failure?_eq_some_iff, failure?_sql, hconditions, ← failure?_sql, failure?_eq_some_iff]

/-- Four conditions, three of which fail, and a join that does not. -/
theorem sql_eq_error_iff_first_nested :
    let kind : Filter := .single (.oneOf "kind" (.int 5))
    let paid : Filter := .single (.equals "paid" (.bool true))
    let orders : Query :=
      { onTable "orders" with
        filter := (paid.push .or (.oneOf "late" (.int 1))).pushGroup .and kind }
    let q : Query :=
      { source := orders.asSource "o"
        joins := [⟨.inner, "users u", "u.id", "in", "o.user_id"⟩]
        filter := .single (.noneOf "status" (.bool true)) }
    q.sql = .error ⟨"kind", "in", "Int(5)"⟩ ∧ q.countSql = .error ⟨"kind", "in", "Int(5)"⟩ := by
  intro kind paid orders q
  obtain ⟨hsql, _, hcount, _, _⟩ := q.sql_eq_error_iff_first
  have hfirst : q.sql = .error ⟨"kind", "in", "Int(5)"⟩ := by
    refine (hsql _).2 ⟨[], .oneOf "kind" (.int 5), _, rfl, ?_, rfl, rfl⟩
    simp
  exact ⟨hfirst, (hcount _).2 hfirst⟩

end Query

end SqlStatement
