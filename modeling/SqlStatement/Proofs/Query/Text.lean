import SqlStatement.Query
import SqlStatement.Proofs.Condition.Text

/-!
# The text of a query

A query is written from the texts of its source, its joins and its filter; all else that it says is
text already.

* `Join.exists_sql` says that a join has a text under every operator.
* `Filter.clauseText` is the clause of a filter with a given text.
* `Query.selectText` is the statement of a query with given texts of its parts and a given limit,
  and `Query.sql_eq_selectText` says that every statement has this form.
-/

namespace SqlStatement

open Fallible

/-! ### Joins -/

/-- Text has a list form, so a join has a text even under `in`. -/
theorem Join.exists_sql (j : Join) : ∃ text, j.sql = .ok text := by
  have hargument : ∃ argument, j.constraint.argumentSql = .ok argument := by
    unfold Condition.argumentSql
    split
    · exact ⟨"(" ++ j.second ++ ")", rfl⟩
    · exact ⟨j.second, rfl⟩
  obtain ⟨text, htext⟩ : ∃ text, j.constraint.sql = .ok text := by
    rwa [← failure?_eq_none_iff, Condition.failure?_sql, failure?_eq_none_iff]
  rw [Join.sql, Filter.sql_single, htext]
  exact ⟨_, rfl⟩

theorem Join.exists_mapM_sql (joins : List Join) : ∃ texts, joins.mapM Join.sql = .ok texts := by
  rw [← failure?_eq_none_iff, failure?_mapM, List.findSome?_eq_none_iff]
  exact fun j _ => failure?_eq_none_iff.2 j.exists_sql

namespace Selection

theorem exists_joinsSql (s : Selection) : ∃ text, s.joinsSql = .ok text := by
  obtain ⟨texts, htexts⟩ := Join.exists_mapM_sql s.joins
  unfold joinsSql
  split
  · exact ⟨_, rfl⟩
  · rw [Join.listSql, htexts]
    exact ⟨_, rfl⟩

end Selection

/-! ### Clauses and statements -/

namespace Selection

theorem boundSql_eq_empty_iff (keyword : String) (bound : Option Int64) :
    boundSql keyword bound = "" ↔ bound = none := by
  cases bound <;> simp [boundSql]

theorem groupBySql_eq_empty_iff (s : Selection) : s.groupBySql = "" ↔ s.groupBy = [] := by
  cases h : s.groupBy <;> simp [groupBySql, h]

theorem boundSql_eq_elim (keyword : String) (bound : Option Int64) :
    boundSql keyword bound = bound.elim "" fun n => " " ++ keyword ++ " " ++ toString n.toInt := by
  cases bound <;> rfl

/-- The keys of the ordering come first, then the limit, then the offset. -/
theorem tailSql_eq (s : Selection) :
    s.tailSql =
      (if s.orderBy.isEmpty then ""
        else " order by " ++
          ",".intercalate (s.orderBy.map fun key => key.field ++ " " ++ key.direction.keyword)) ++
      (s.limit.elim "" fun n => " limit " ++ toString n.toInt) ++
      (s.offset.elim "" fun n => " offset " ++ toString n.toInt) := by
  rw [tailSql, boundSql_eq_elim, boundSql_eq_elim]
  rfl

end Selection

/-- The clause of a predicate with the given text, if there is one. -/
def Filter.clauseText (f : Filter) (condition : String) : String :=
  if f.isEmpty then "" else " where " ++ condition

theorem Filter.clauseSql_eq_clauseText
    {f : Filter}
    {condition : String}
    (h : f.sql = .ok condition) :
    f.clauseSql = .ok (f.clauseText condition) := by
  unfold clauseSql clauseText
  split
  · rfl
  · rw [h]
    rfl

/-- The statement of a query over given texts of its source, joins and predicate, with a limit. -/
def Query.selectText
    (q : Query)
    (source joins filter : String)
    (limit : Option Int64) :
    String :=
  "select " ++ Selection.columnList q.columns ++
    (" from " ++ source ++ joins ++ filter ++ q.groupBySql) ++
      (q.orderBySql ++ Selection.boundSql "limit" limit ++ Selection.boundSql "offset" q.offset)

theorem Query.sql_eq_selectText
    {q : Query}
    {source joins filter : String}
    (hsource : q.source.sql = .ok source)
    (hjoins : q.joinsSql = .ok joins)
    (hfilter : q.filter.clauseSql = .ok filter) :
    q.sql = .ok (q.selectText source joins filter q.limit) := by
  unfold Query.sql Selection.selectSql Selection.bodySql
  rw [hsource, hjoins, hfilter]
  rfl

end SqlStatement
