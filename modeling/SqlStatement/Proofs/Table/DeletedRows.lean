import SqlStatement.Proofs.Query.Clauses
import SqlStatement.Proofs.Query.SharedRows
import SqlStatement.Proofs.Table.KeyFilter

/-!
# Deleting more rows than are fetched

A query restricts its rows by its predicate, and further by a grouping, a limit and an offset.
`Table.get` asks for the rows that are left.  `Table.delete` is refused for rows of joins or of a
sub-select, since a deletion cannot express them; the other clauses are not expressed either, and
they are dropped.

* `Query.isRestricted` says that rows which satisfy the predicate may be missing, and
  `Query.fetchText_eq_iff` that the statement which fetches the rows shows it.
* `Table.delete_eq_of_kinds` says which steps of a program reach a deletion.
* `Table.delete_drops_restrictions` is the main result, and `Table.delete_removes_rows_behind_limit`
  a query of one row whose deletion removes more.
-/

namespace SqlStatement

open Fallible

/-! ### Restrictions -/

namespace Query

/-- Whether rows that satisfy the predicate may be missing. -/
def isRestricted (q : Query) : Bool :=
  q.isGrouped || q.limit.isSome || q.offset.isSome

/-- The query for all rows that satisfy the predicate. -/
def unrestricted (q : Query) : Query :=
  { q with groupBy := [], limit := none, offset := none }

/-- The statement that fetches the rows of a table that satisfy a condition, as far as the query
asks for them. -/
def fetchText (q : Query) (expression condition : String) : String :=
  "select " ++ Selection.columnList q.columns ++ " from " ++ expression ++ " where " ++ condition ++
    q.groupBySql ++ q.tailSql

theorem sql_eq_fetchText
    {q : Query}
    {expression condition : String}
    (hjoins : q.hasJoins = false)
    (hsource : q.source = .table expression)
    (hempty : q.filter.isEmpty = false)
    (hcondition : q.filter.sql = .ok condition) :
    q.sql = .ok (q.fetchText expression condition) := by
  have hsourceSql : q.source.sql = .ok expression := by
    rw [hsource]
    rfl
  have hjoinsSql : q.joinsSql = .ok "" := by
    unfold Selection.joinsSql
    rw [if_pos (by simpa [hasJoins] using hjoins)]
  rw [sql_eq_selectText hsourceSql hjoinsSql (Filter.clauseSql_eq_clauseText hcondition)]
  simp [selectText, fetchText, Filter.clauseText, hempty, Selection.tailSql, String.append_assoc]

theorem isRestricted_eq_false_iff (q : Query) :
    q.isRestricted = false ↔ q.groupBy = [] ∧ q.limit = none ∧ q.offset = none := by
  simp [isRestricted, isGrouped, and_assoc]

/-- A statement shows whether rows are missing. -/
theorem fetchText_eq_iff
    (q : Query)
    (expression condition : String) :
    q.fetchText expression condition = q.unrestricted.fetchText expression condition ↔
      q.isRestricted = false := by
  rw [isRestricted_eq_false_iff]
  constructor
  · intro h
    have htexts :
        q.groupBySql ++ (q.orderBySql ++
          (Selection.boundSql "limit" q.limit ++ Selection.boundSql "offset" q.offset)) =
            q.orderBySql := by
      simpa [fetchText, unrestricted, Selection.tailSql, Selection.groupBySql,
        Selection.orderBySql, Selection.boundSql, String.append_assoc] using h
    -- No text may be left beside that of the ordering.
    have hlength := congrArg String.length htexts
    simp only [String.length_append] at hlength
    refine ⟨?_, ?_, ?_⟩
    · rw [← Selection.groupBySql_eq_empty_iff, ← String.length_eq_zero_iff]
      omega
    · rw [← Selection.boundSql_eq_empty_iff "limit", ← String.length_eq_zero_iff]
      omega
    · rw [← Selection.boundSql_eq_empty_iff "offset", ← String.length_eq_zero_iff]
      omega
  · rintro ⟨hgroup, hlimit, hoffset⟩
    rw [fetchText, fetchText, unrestricted]
    simp [Selection.tailSql, Selection.groupBySql, Selection.orderBySql, hgroup, hlimit, hoffset]

end Query

/-! ### Deletions -/

namespace Query.Step

/-- Whether steps of the kind reach a deletion. -/
def Kind.reachesDelete : Kind → Bool
  | source | join | leaf _ | group _ => true
  | columns | groupBy | orderBy | window => false

end Query.Step

namespace Table

/-- The table with all rows that satisfy the predicate. -/
def unrestricted (t : Table) : Table :=
  { t with query := t.query.unrestricted }

theorem delete_eq_of_toDelete_eq
    {t u : Table}
    (h : t.toDelete = u.toDelete) :
    t.delete = u.delete := by
  rw [delete, delete, h]

/-- A deletion is made from the source, the joins and the predicate. -/
theorem toDelete_eq_of_rows_eq
    {t u : Table}
    (hsource : t.query.source = u.query.source)
    (hjoins : t.query.joins = u.query.joins)
    (hfilter : t.query.filter = u.query.filter) :
    t.toDelete = u.toDelete := by
  rw [toDelete, toDelete, Query.hasJoins, Query.hasJoins, hsource, hjoins, hfilter]

theorem delete_unrestricted (t : Table) :
    t.unrestricted.delete = t.delete :=
  delete_eq_of_toDelete_eq (toDelete_eq_of_rows_eq rfl rfl rfl)

/-- Steps that name columns, group, sort or select a window do not reach a deletion. -/
theorem delete_eq_of_kinds
    {t : Table}
    {first second : List Query.Step}
    {p r : Query}
    (hkinds :
      ∀ kind : Query.Step.Kind,
        kind.reachesDelete = true →
          Query.Step.ofKind kind first = Query.Step.ofKind kind second)
    (hfirst : Query.Step.applyAll first t.query = .ok p)
    (hsecond : Query.Step.applyAll second t.query = .ok r) :
    Table.delete { t with query := p } = Table.delete { t with query := r } := by
  rw [Query.Step.eq_extend_of_applyAll hfirst, Query.Step.eq_extend_of_applyAll hsecond,
    Query.Step.extend_takenAll, Query.Step.extend_takenAll]
  refine delete_eq_of_toDelete_eq (toDelete_eq_of_rows_eq ?_ ?_ ?_)
  · rw [hkinds .source rfl]
  · simp only [hkinds .join rfl]
  · simp only [hkinds (.group _) rfl, hkinds (.leaf _) rfl]

theorem delete_refuses_joins_or_subquery
    {t : Table}
    (h : t.query.hasJoins = true ∨ t.query.source.isSubquery = true) :
    ∃ detail, t.delete.Refuses (.validation detail) := by
  cases hjoins : t.query.hasJoins with
  | true =>
      exact ⟨_, _, delete_of_toDelete_eq_error (toDelete_of_hasJoins hjoins)⟩
  | false =>
      have hsource : t.query.source.isSubquery = true := by
        simpa [hjoins] using h
      exact ⟨_, _, delete_of_toDelete_eq_error (toDelete_of_isSubquery hjoins hsource)⟩

/-- A deletion that is sent removes all rows that satisfy the condition under which rows are
fetched. -/
theorem get_sends_of_delete_sends
    {t : Table}
    {kind : CallKind}
    {sql : String}
    (h : t.delete.Sends kind sql) :
    ∃ expression condition,
      t.query.source = .table expression ∧
      t.query.filter.sql = .ok condition ∧
      kind = .execute ∧
      sql = Delete.filteredSql expression condition ∧
      t.get.Sends .query (t.query.fetchText expression condition) ∧
      t.unrestricted.get.Sends .query (t.unrestricted.query.fetchText expression condition) := by
  have hrefusal := deleteRefusal?_of_delete_sends h
  obtain ⟨expression, condition, hsource, hempty, hcondition, hsends⟩ :=
    delete_sends_filteredSql hrefusal
  obtain ⟨hjoins, -, -, -⟩ := (Query.deleteRefusal?_eq_none_iff _).1 hrefusal
  obtain ⟨rfl, rfl⟩ := h.unique hsends
  exact ⟨expression, condition, hsource, hcondition, rfl, rfl,
    t.get_sends (Query.sql_eq_fetchText hjoins hsource hempty hcondition),
    t.unrestricted.get_sends (Query.sql_eq_fetchText hjoins hsource hempty hcondition)⟩

/-! ### Main result -/

/-- A deletion is refused for rows of joins or of a sub-select and drops the other clauses that
restrict rows: it is the same whether the query has them or not, and however the steps that write
them stand in a program.  So it removes all rows that satisfy the predicate, and these are the rows
that are fetched exactly if the query has no grouping, limit or offset. -/
theorem delete_drops_restrictions (t : Table) :
    (t.query.hasJoins = true ∨ t.query.source.isSubquery = true →
      ∃ detail, t.delete.Refuses (.validation detail)) ∧
    t.unrestricted.delete = t.delete ∧
    (∀ first second p r,
      (∀ kind : Query.Step.Kind,
        kind.reachesDelete = true →
          Query.Step.ofKind kind first = Query.Step.ofKind kind second) →
      Query.Step.applyAll first t.query = .ok p →
      Query.Step.applyAll second t.query = .ok r →
      Table.delete { t with query := p } = Table.delete { t with query := r }) ∧
    ∀ kind sql,
      t.delete.Sends kind sql →
      ∃ expression condition,
        t.query.source = .table expression ∧
        t.query.filter.sql = .ok condition ∧
        kind = .execute ∧
        sql = "delete from " ++ expression ++ " where " ++ condition ∧
        t.get.Sends .query
          ("select " ++ Selection.columnList t.query.columns ++ " from " ++ expression ++
            " where " ++ condition ++ t.query.groupBySql ++ t.query.tailSql) ∧
        ((∃ fetch, t.get.Sends .query fetch ∧ t.unrestricted.get.Sends .query fetch) ↔
          t.query.groupBy = [] ∧ t.query.limit = none ∧ t.query.offset = none) := by
  refine ⟨delete_refuses_joins_or_subquery, t.delete_unrestricted,
    fun first second p r => delete_eq_of_kinds, ?_⟩
  intro kind sql h
  obtain ⟨expression, condition, hsource, hcondition, hkind, hsql, hget, hall⟩ :=
    get_sends_of_delete_sends h
  refine ⟨expression, condition, hsource, hcondition, hkind, hsql, hget, ?_⟩
  rw [← Query.isRestricted_eq_false_iff, ← Query.fetchText_eq_iff _ expression condition]
  constructor
  · rintro ⟨fetch, hfetch, hfetchAll⟩
    exact (hget.unique hfetch).2.trans (hfetchAll.unique hall).2
  · intro htexts
    exact ⟨_, hget, htexts ▸ hall⟩

/-- A join is refused; a limit is dropped, though one row is fetched. -/
theorem delete_drops_restrictions_users :
    let posts : Join := ⟨.inner, "posts", "users.id", "=", "posts.user_id"⟩
    let joined : Table := { query := { Query.onTable "users" with joins := [posts] } }
    let active : Condition := .equals "status" (.int 1)
    let users : Query := { Query.onTable "users" with filter := .single active }
    let oneUser : Table := { query := { users with limit := some 1 } }
    (∃ detail, joined.delete.Refuses (.validation detail)) ∧
    oneUser.delete = Table.delete { query := users } ∧
    ¬∃ fetch, oneUser.get.Sends .query fetch ∧ oneUser.unrestricted.get.Sends .query fetch := by
  intro posts joined active users oneUser
  obtain ⟨hjoined, -⟩ := delete_drops_restrictions joined
  obtain ⟨-, -, hsteps, -⟩ := delete_drops_restrictions (.onTable "users")
  obtain ⟨-, -, -, hsends⟩ := delete_drops_restrictions oneUser
  refine ⟨hjoined (Or.inl rfl), ?_, ?_⟩
  · refine hsteps [.limit 1, .condition .and active] [.condition .and active] _ _ ?_ rfl rfl
    rintro (_ | _ | _ | (_ | _) | (_ | _) | _ | _ | _) hkind <;> first | rfl | cases hkind
  · have hdelete : oneUser.delete.Sends .execute "delete from users where status = 1" :=
      delete_sends rfl (by decide +kernel)
    obtain ⟨_, _, -, -, -, -, -, hsame⟩ := hsends _ _ hdelete
    rw [hsame]
    rintro ⟨-, hlimit, -⟩
    cases hlimit

/-- One row is fetched, and every row with the status is removed. -/
theorem delete_removes_rows_behind_limit :
    let active : Condition := .equals "status" (.int 1)
    let steps : List Query.Step := [.condition .and active, .limit 1]
    ∃ query,
      Query.Step.applyAll steps (Query.onTable "users") = .ok query ∧
      (Table.get { query := query }).Sends .query
        "select * from users where status = 1 limit 1" ∧
      (Table.delete { query := query }).Sends .execute "delete from users where status = 1" ∧
      ¬∀ (t : Table) (kind : CallKind) (sql : String),
        t.delete.Sends kind sql →
          t.query.limit = none ∧ t.query.offset = none ∧ t.query.groupBy = [] := by
  intro active steps
  let query : Query :=
    { Query.onTable "users" with filter := .single active, limit := some 1 }
  have hdelete :
      (Table.delete { query := query }).Sends .execute "delete from users where status = 1" :=
    delete_sends rfl (by decide +kernel)
  refine ⟨query, rfl, get_sends _ (by decide +kernel), hdelete, ?_⟩
  intro hclaim
  obtain ⟨hlimit, -, -⟩ := hclaim _ _ _ hdelete
  cases hlimit

end Table

end SqlStatement
