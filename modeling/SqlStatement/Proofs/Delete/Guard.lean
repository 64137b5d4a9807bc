import SqlStatement.Proofs.Filter.Text
import SqlStatement.Proofs.Run.Position
import SqlStatement.Proofs.Run.Request

/-!
# Deletions are filtered

No deletion of all rows is sent unless it was allowed.  The refusal looks only at the top of a
filter, so its strength rests on reduced filters: one that is not empty at the top has conditions.

* `Delete.Step.allowsAll_applyAll` says that the last permission counts, and
  `Delete.Step.table_applyAll` that no step changes the table.
* `Delete.calls_are_filtered` is the main result, for runs on deletions and for deletions of tables.
-/

namespace SqlStatement

open Fallible

/-! ### The guard -/

namespace Delete

namespace Step

/-- The permission that a step gives or takes back. -/
def permission? : Step → Option Bool
  | .allowAll allows => some allows
  | _ => none

/-- The last permission that is given or taken back. -/
def lastPermission? (steps : List Step) : Option Bool :=
  (steps.filterMap permission?).getLast?

theorem table_apply
    {step : Step}
    {d next : Delete}
    (h : step.apply d = .ok next) :
    next.table = d.table := by
  cases step with
  | group connector steps =>
      obtain ⟨_, _, h⟩ := exists_of_bind_eq_ok h
      obtain rfl := Except.ok.inj h
      rfl
  | condition _ _ | allowAll _ | skip =>
      obtain rfl := Except.ok.inj h
      rfl

theorem table_applyAll
    {steps : List Step}
    {d next : Delete}
    (h : applyAll steps d = .ok next) :
    next.table = d.table := by
  induction steps generalizing d with
  | nil =>
      obtain rfl := Except.ok.inj h
      rfl
  | cons step steps ih =>
      rw [applyAll_cons] at h
      obtain ⟨middle, hstep, h⟩ := exists_of_bind_eq_ok h
      rw [ih h, table_apply hstep]

theorem allowsAll_apply
    {step : Step}
    {d next : Delete}
    (h : step.apply d = .ok next) :
    next.allowsAll = step.permission?.getD d.allowsAll := by
  cases step with
  | group connector steps =>
      obtain ⟨_, _, h⟩ := exists_of_bind_eq_ok h
      obtain rfl := Except.ok.inj h
      rfl
  | condition _ _ | allowAll _ | skip =>
      obtain rfl := Except.ok.inj h
      rfl

/-- The last permission counts. -/
theorem allowsAll_applyAll
    {steps : List Step}
    {d next : Delete}
    (h : applyAll steps d = .ok next) :
    next.allowsAll = (lastPermission? steps).getD d.allowsAll := by
  induction steps generalizing d with
  | nil =>
      obtain rfl := Except.ok.inj h
      rfl
  | cons step steps ih =>
      rw [applyAll_cons] at h
      obtain ⟨middle, hstep, h⟩ := exists_of_bind_eq_ok h
      rw [ih h, allowsAll_apply hstep]
      unfold lastPermission?
      cases hpermission : step.permission? with
      | none =>
          rw [List.filterMap_cons_none hpermission]
          rfl
      | some allows =>
          rw [List.filterMap_cons_some hpermission, List.getLast?_cons]
          cases (steps.filterMap permission?).getLast? <;> rfl

end Step

/-- The statement that deletes the rows of a filter. -/
def filteredSql (table condition : String) : String :=
  "delete from " ++ table ++ " where " ++ condition

/-- The refusal of a deletion of all rows. -/
def unfiltered : Failure :=
  .validation "DELETE without WHERE is not allowed; call allow_delete_all(true) to override"

theorem sql_eq_of_filter_sql_eq
    {d : Delete}
    {condition : String}
    (hne : d.filter.isEmpty = false)
    (h : d.filter.sql = .ok condition) :
    d.sql = .ok (filteredSql d.table condition) := by
  unfold sql Filter.clauseSql filteredSql
  rw [hne, h]
  simp [String.append_assoc]

theorem sql_eq_error_of_filter_sql_eq_error
    {d : Delete}
    {failure : UnsupportedArgument}
    (hne : d.filter.isEmpty = false)
    (h : d.filter.sql = .error failure) :
    d.sql = .error failure := by
  unfold sql Filter.clauseSql
  rw [hne, h]
  rfl

theorem checkedSql_of_isEmpty
    {d : Delete}
    (hguard : d.allowsAll = false)
    (hempty : d.filter.isEmpty = true) :
    Statement.checkedSql d = .error unfiltered := by
  have hvalidate : Statement.validate d = .error unfiltered := by
    change d.validate = _
    simp [validate, hguard, hempty, unfiltered]
  rw [Statement.checkedSql, hvalidate]
  rfl

/-- A filter lets its deletion pass, with or without permission. -/
theorem checkedSql_of_not_isEmpty
    {d : Delete}
    (hne : d.filter.isEmpty = false) :
    Statement.checkedSql d = d.sql.mapError .unsupportedArgument := by
  have hvalidate : Statement.validate d = .ok () := by
    change d.validate = _
    simp [validate, hne]
  rw [Statement.checkedSql, hvalidate]
  rfl

/-- The kind of call that an operation makes. -/
def Operation.kind : Operation → CallKind
  | .query | .queryFirst? | .queryFirst => .query
  | .execute => .execute

theorem sql_request (d : Delete) (operation : Operation) :
    (d.request operation).sql = Statement.checkedSql d := by
  cases operation <;> rfl

theorem kind_request (d : Delete) (operation : Operation) :
    (d.request operation).reading.kind = operation.kind := by
  cases operation <;> rfl

theorem perform_sends
    {d : Delete}
    {text : String}
    (operation : Operation)
    (h : Statement.checkedSql d = .ok text) :
    (perform operation d).Sends operation.kind text := by
  obtain ⟨log, -, hexchange⟩ :=
    (d.perform_fulfils operation).sends text (by rwa [sql_request])
  rw [kind_request] at hexchange
  exact ⟨log, _, hexchange⟩

theorem perform_refuses
    {d : Delete}
    {failure : Failure}
    (operation : Operation)
    (h : Statement.checkedSql d = .error failure) :
    (perform operation d).Refuses failure := by
  obtain ⟨log, -, hrefusal⟩ :=
    (d.perform_fulfils operation).refuses failure (by rwa [sql_request])
  exact ⟨log, hrefusal⟩

/-- A deletion of exactly the rows that satisfy a condition, which is the text of a filter with at
least one condition. -/
def IsFiltered (table : String) (f : Filter) (sql : String) : Prop :=
  ∃ condition,
    f.sql = .ok condition ∧ condition ≠ "" ∧ f.conditions ≠ [] ∧
      sql = "delete from " ++ table ++ " where " ++ condition

theorem isFiltered_filteredSql
    {f : Filter}
    {condition : String}
    (table : String)
    (hreduced : f.Reduced)
    (hne : f.isEmpty = false)
    (h : f.sql = .ok condition) :
    IsFiltered table f (filteredSql table condition) :=
  ⟨condition, h, Filter.sql_ne_empty h hne, hreduced.conditions_ne_nil hne, rfl⟩

/-- Without permission every operation fails without the database or sends a filtered deletion. -/
theorem perform_is_filtered
    {d : Delete}
    (operation : Operation)
    (hguard : d.allowsAll = false)
    (hreduced : d.filter.Reduced) :
    (∃ failure, (perform operation d).Refuses failure) ∨
      ∃ sql, IsFiltered d.table d.filter sql ∧ (perform operation d).Sends operation.kind sql := by
  cases hempty : d.filter.isEmpty with
  | true =>
      exact Or.inl ⟨_, perform_refuses operation (checkedSql_of_isEmpty hguard hempty)⟩
  | false =>
      have hchecked := checkedSql_of_not_isEmpty hempty
      cases hfilter : d.filter.sql with
      | error failure =>
          rw [sql_eq_error_of_filter_sql_eq_error hempty hfilter] at hchecked
          exact Or.inl ⟨_, perform_refuses operation hchecked⟩
      | ok condition =>
          rw [sql_eq_of_filter_sql_eq hempty hfilter] at hchecked
          exact Or.inr ⟨_, isFiltered_filteredSql d.table hreduced hempty hfilter,
            perform_sends operation hchecked⟩

end Delete

/-! ### Deletions of tables -/

/-- The first reason not to delete the rows of a query, if there is one. -/
def Query.deleteRefusal? (q : Query) : Option Failure :=
  if q.hasJoins then
    some (.validation "DELETE cannot include joins")
  else if q.source.isSubquery then
    some (.validation "DELETE cannot target a sub-select")
  else if q.filter.isEmpty then
    some (.validation
      "DELETE without WHERE is not allowed; call allow_delete_all(true) to override")
  else
    (failure? q.filter.sql).map .unsupportedArgument

theorem Source.exists_of_not_isSubquery
    (source : Source)
    (h : ¬source.isSubquery = true) :
    ∃ expression, source = .table expression := by
  cases source with
  | table expression =>
      exact ⟨expression, rfl⟩
  | subquery source selection name =>
      simp [Source.isSubquery] at h

theorem Query.deleteRefusal?_eq_none_iff (q : Query) :
    q.deleteRefusal? = none ↔
      q.hasJoins = false ∧ q.source.isSubquery = false ∧ q.filter.isEmpty = false ∧
        ∃ condition, q.filter.sql = .ok condition := by
  unfold Query.deleteRefusal?
  rw [← failure?_eq_none_iff]
  split
  · simp_all
  · split
    · simp_all
    · split <;> simp_all

namespace Table

theorem toDelete_of_hasJoins
    {t : Table}
    (h : t.query.hasJoins = true) :
    t.toDelete = .error (.validation "DELETE cannot include joins") := by
  simp [toDelete, h]

theorem toDelete_of_isSubquery
    {t : Table}
    (hjoins : t.query.hasJoins = false)
    (h : t.query.source.isSubquery = true) :
    t.toDelete = .error (.validation "DELETE cannot target a sub-select") := by
  unfold toDelete
  rw [hjoins]
  cases hsource : t.query.source with
  | table expression =>
      simp [hsource, Source.isSubquery] at h
  | subquery source selection name =>
      rfl

theorem toDelete_of_table
    {t : Table}
    {expression : String}
    (hjoins : t.query.hasJoins = false)
    (hsource : t.query.source = .table expression) :
    t.toDelete = .ok { table := expression, filter := t.query.filter } := by
  simp [toDelete, hjoins, hsource]

theorem delete_refuses
    {t : Table}
    {d : Delete}
    {failure : Failure}
    (hd : t.toDelete = .ok d)
    (h : Statement.checkedSql d = .error failure) :
    t.delete.Refuses failure := by
  rw [delete_of_toDelete_eq_ok hd]
  exact ⟨_, (Delete.execute_of_error h).log_bind _⟩

theorem delete_sends
    {t : Table}
    {d : Delete}
    {text : String}
    (hd : t.toDelete = .ok d)
    (h : Statement.checkedSql d = .ok text) :
    t.delete.Sends .execute text := by
  rw [delete_of_toDelete_eq_ok hd]
  exact ⟨_, _, (Delete.execute_of_ok h).log_bind _⟩

/-- A deletion is refused for the first reason there is. -/
theorem delete_refuses_of_deleteRefusal?
    {t : Table}
    {failure : Failure}
    (h : t.query.deleteRefusal? = some failure) :
    t.delete.Refuses failure := by
  unfold Query.deleteRefusal? at h
  split at h
  · rename_i hjoins
    obtain rfl := Option.some.inj h
    exact ⟨_, delete_of_toDelete_eq_error (toDelete_of_hasJoins hjoins)⟩
  · rename_i hjoins
    rw [Bool.not_eq_true] at hjoins
    split at h
    · rename_i hsource
      obtain rfl := Option.some.inj h
      exact ⟨_, delete_of_toDelete_eq_error (toDelete_of_isSubquery hjoins hsource)⟩
    · rename_i hsource
      obtain ⟨expression, hsource⟩ := t.query.source.exists_of_not_isSubquery hsource
      have hd := toDelete_of_table hjoins hsource
      split at h
      · rename_i hempty
        obtain rfl := Option.some.inj h
        exact delete_refuses hd (Delete.checkedSql_of_isEmpty rfl hempty)
      · rename_i hempty
        rw [Bool.not_eq_true] at hempty
        obtain ⟨e, he, rfl⟩ := Option.map_eq_some_iff.1 h
        have hchecked := Delete.checkedSql_of_not_isEmpty
          (d := { table := expression, filter := t.query.filter }) hempty
        rw [Delete.sql_eq_error_of_filter_sql_eq_error hempty (failure?_eq_some_iff.1 he)]
          at hchecked
        exact delete_refuses hd hchecked

/-- A deletion that is not refused takes its table and its condition from the query. -/
theorem delete_sends_filteredSql
    {t : Table}
    (h : t.query.deleteRefusal? = none) :
    ∃ expression condition,
      t.query.source = .table expression ∧
      t.query.filter.isEmpty = false ∧
      t.query.filter.sql = .ok condition ∧
      t.delete.Sends .execute (Delete.filteredSql expression condition) := by
  obtain ⟨hjoins, hsource, hempty, condition, hfilter⟩ :=
    (Query.deleteRefusal?_eq_none_iff _).1 h
  obtain ⟨expression, hsource⟩ := t.query.source.exists_of_not_isSubquery (by simp [hsource])
  refine ⟨expression, condition, hsource, hempty, hfilter,
    delete_sends (toDelete_of_table hjoins hsource) ?_⟩
  rw [Delete.checkedSql_of_not_isEmpty hempty, Delete.sql_eq_of_filter_sql_eq hempty hfilter]
  rfl

/-- A deletion that sends a statement is not refused. -/
theorem deleteRefusal?_of_delete_sends
    {t : Table}
    {kind : CallKind}
    {sql : String}
    (h : t.delete.Sends kind sql) :
    t.query.deleteRefusal? = none := by
  cases hrefusal : t.query.deleteRefusal? with
  | none =>
      rfl
  | some failure =>
      exact absurd (delete_refuses_of_deleteRefusal? hrefusal) h.not_refuses

/-- A deletion that is not refused is filtered by the filter of the query. -/
theorem delete_sends_of_deleteRefusal?
    {t : Table}
    (hreduced : t.query.filter.Reduced)
    (h : t.query.deleteRefusal? = none) :
    ∃ expression sql,
      t.query.source = .table expression ∧
      Delete.IsFiltered expression t.query.filter sql ∧
      t.delete.Sends .execute sql := by
  obtain ⟨expression, condition, hsource, hempty, hfilter, hsends⟩ := delete_sends_filteredSql h
  exact ⟨expression, _, hsource,
    Delete.isFiltered_filteredSql expression hreduced hempty hfilter, hsends⟩

/-- A deletion sends a statement exactly if there is no reason against it. -/
theorem delete_sends_iff
    {t : Table}
    (hreduced : t.query.filter.Reduced) :
    (∃ kind sql, t.delete.Sends kind sql) ↔ t.query.deleteRefusal? = none := by
  constructor
  · rintro ⟨kind, sql, hsends⟩
    exact deleteRefusal?_of_delete_sends hsends
  · intro h
    obtain ⟨_, sql, _, _, hsends⟩ := delete_sends_of_deleteRefusal? hreduced h
    exact ⟨.execute, sql, hsends⟩

end Table

/-! ### Main result -/

namespace Delete

theorem isFiltered_of_mem_calls
    {d : Delete}
    {operation : Operation}
    {session : Session}
    {result : Except Failure Outcome}
    {calls : List Call}
    {events : List Event}
    {call : Call}
    (hguard : d.allowsAll = false)
    (hreduced : d.filter.Reduced)
    (hreport : (Run.reportOf (perform operation d) session).1 = .used result calls events)
    (hcall : call ∈ calls) :
    IsFiltered d.table d.filter call.sql := by
  have hcalls :
      ((perform operation d) session).2.calls.drop session.calls.length = calls := by
    rw [Run.reportOf_fst, Run.Report.used.injEq] at hreport
    exact hreport.2.1
  rcases perform_is_filtered operation hguard hreduced with
    ⟨failure, hrefuses⟩ | ⟨sql, hfiltered, hsends⟩
  · rw [hrefuses.calls_eq, List.drop_length] at hcalls
    simp [← hcalls] at hcall
  · rw [hsends.calls_eq, List.drop_left] at hcalls
    obtain rfl : call = ⟨operation.kind, sql, [], session.isConnected⟩ := by
      simpa [← hcalls] using hcall
    exact hfiltered

/-- What a deletion sends without permission is filtered, at any time of any run; and a table
deletes exactly where a filtered deletion can express it, failing with the first reason
otherwise. -/
theorem calls_are_filtered
    (table : String)
    (edits : List Filter.Edit) :
    (∀ (steps : List Step) (d : Delete) (operation : Operation),
      Step.applyAll steps ⟨table, Filter.Edit.applyAll edits .empty, false⟩ = .ok d →
      Step.lastPermission? steps ≠ some true →
      (∃ failure, (perform operation d).Refuses failure) ∨
        ∃ sql, IsFiltered table d.filter sql ∧
          (perform operation d).Sends operation.kind sql) ∧
    (∀ (actions : List (Run.Action Step Operation)) (session : Session) (i : Nat)
        (result : Except Failure Outcome) (calls : List Call) (events : List Event),
      (run ⟨table, Filter.Edit.applyAll edits .empty, false⟩ actions session)[i]? =
        some (.used result calls events) →
      Step.lastPermission? (Run.stepsBefore actions i) ≠ some true →
      ∃ d,
        Step.applyAll (Run.stepsBefore actions i)
            ⟨table, Filter.Edit.applyAll edits .empty, false⟩ =
          .ok d ∧
        ∀ call ∈ calls, IsFiltered table d.filter call.sql) ∧
    ∀ (steps : List Query.Step) (q : Query) (primaryKey : String),
      Query.Step.applyAll steps (.onTable table) = .ok q →
      ((∃ kind sql, (Table.mk q primaryKey).delete.Sends kind sql) ↔
        q.hasJoins = false ∧ q.source.isSubquery = false ∧ q.filter.isEmpty = false ∧
          ∃ condition, q.filter.sql = .ok condition) ∧
      (∀ kind sql, (Table.mk q primaryKey).delete.Sends kind sql →
        kind = .execute ∧
          ∃ expression, q.source = .table expression ∧ IsFiltered expression q.filter sql) ∧
      ((¬∃ kind sql, (Table.mk q primaryKey).delete.Sends kind sql) →
        ∃ failure,
          q.deleteRefusal? = some failure ∧ (Table.mk q primaryKey).delete.Refuses failure) := by
  have hstart : (Filter.Edit.applyAll edits .empty).Reduced :=
    Filter.Edit.reduced_applyAll edits .empty
  have hguarded : ∀ {steps : List Step} {d : Delete},
      Step.applyAll steps ⟨table, Filter.Edit.applyAll edits .empty, false⟩ = .ok d →
      Step.lastPermission? steps ≠ some true → d.allowsAll = false := by
    intro steps d hd hlast
    rw [Step.allowsAll_applyAll hd]
    cases hpermission : Step.lastPermission? steps with
    | none =>
        rfl
    | some allows =>
        cases allows
        · rfl
        · exact absurd hpermission hlast
  refine ⟨?_, ?_, ?_⟩
  · intro steps d operation hd hlast
    have hfiltered :=
      perform_is_filtered operation (hguarded hd hlast) (Step.reduced_applyAll hd hstart)
    rwa [Step.table_applyAll hd] at hfiltered
  · intro actions session i result calls events hreport hlast
    obtain ⟨operation, d, before, hd, hreport⟩ := Run.exists_of_reports_eq_used hreport
    refine ⟨d, hd, fun call hcall => ?_⟩
    have hfiltered :=
      isFiltered_of_mem_calls (hguarded hd hlast) (Step.reduced_applyAll hd hstart) hreport hcall
    rwa [Step.table_applyAll hd] at hfiltered
  · intro steps q primaryKey hq
    have hreduced : q.filter.Reduced := Query.Step.reduced_applyAll steps hq .empty
    have hsends := Table.delete_sends_iff (t := ⟨q, primaryKey⟩) hreduced
    refine ⟨?_, ?_, ?_⟩
    · rw [hsends, Query.deleteRefusal?_eq_none_iff]
    · intro kind sql hsent
      obtain ⟨expression, sql', hsource, hfiltered, hsent'⟩ :=
        Table.delete_sends_of_deleteRefusal? (t := ⟨q, primaryKey⟩) hreduced
          (hsends.1 ⟨kind, sql, hsent⟩)
      obtain ⟨rfl, rfl⟩ := hsent.unique hsent'
      exact ⟨rfl, expression, hsource, hfiltered⟩
    · intro hnone
      obtain ⟨failure, hfailure⟩ := Option.ne_none_iff_exists'.1 (mt hsends.2 hnone)
      exact ⟨failure, hfailure, Table.delete_refuses_of_deleteRefusal? hfailure⟩

/-- Permission that is taken back again, and a query that can be deleted. -/
theorem calls_are_filtered_sessions :
    let revoked : Condition := .equals "revoked" (.bool true)
    (∃ d,
      Step.applyAll [.allowAll true, .allowAll false, .condition .and revoked]
          ⟨"sessions", {}, false⟩ =
        .ok d ∧
      IsFiltered "sessions" d.filter "delete from sessions where revoked = true") ∧
    ∃ kind sql,
      (Table.mk { Query.onTable "sessions" with filter := .single revoked } "id").delete.Sends
        kind sql := by
  intro revoked
  obtain ⟨_, hrun, htable⟩ := calls_are_filtered "sessions" []
  constructor
  · obtain ⟨d, hd, hcalls⟩ :=
      hrun
        [.use .execute, .build (.allowAll true), .build (.allowAll false),
          .build (.condition .and revoked), .use .execute]
        {} 4 (.ok (.number 0))
        [{ kind := .execute, sql := "delete from sessions where revoked = true" }] _ rfl (by decide)
    exact ⟨d, hd, hcalls _ (List.mem_singleton_self _)⟩
  · exact (htable [.condition .and revoked] _ "id" rfl).1.2
      ⟨rfl, rfl, rfl, "revoked = true", rfl⟩

end Delete

end SqlStatement
