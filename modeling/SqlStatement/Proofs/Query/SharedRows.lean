import SqlStatement.Proofs.Delete.Guard
import SqlStatement.Proofs.Query.FirstFailure

/-!
# Selecting, counting and deleting the same rows

The statements of a query that select and count have one text in common, which says which rows they
read.  A deletion takes its table and its condition from the same parts of the query.

* `Query.RowTexts` are the texts of the parts of a query that say which rows it reads, and
  `Query.RowTexts.body` is the text that is shared.
* `Query.Step.allWhereSteps` are the steps of a program that file conditions, as steps of a
  deletion, and `Query.Step.applyAll_allWhereSteps` says that they build the same filter.
* `Query.statements_share_rows` is the main result.
-/

namespace SqlStatement

open Fallible

namespace Query

/-! ### The shared text -/

/-- The texts of the parts of a query that say which rows it reads. -/
structure RowTexts (q : Query) where
  source : String
  joins : List String
  condition : String
  source_sql : q.source.sql = .ok source
  joins_sql : q.joins.mapM Join.sql = .ok joins
  condition_sql : q.filter.sql = .ok condition

theorem nonempty_rowTexts
    {q : Query}
    {statement : String}
    (h : q.sql = .ok statement) :
    Nonempty q.RowTexts := by
  obtain ⟨source, condition, hsource, hcondition⟩ := exists_of_sql_eq_ok h
  obtain ⟨joins, hjoins⟩ := Join.exists_mapM_sql q.joins
  exact ⟨⟨source, joins, condition, hsource, hjoins, hcondition⟩⟩

namespace RowTexts

variable {q : Query} (texts : q.RowTexts)

/-- The source, the joins, the condition and the grouping, each behind its keyword. -/
def body : String :=
  " from " ++ texts.source ++
    (if texts.joins = [] then "" else " " ++ " ".intercalate texts.joins) ++
    (if q.filter.isEmpty then "" else " where " ++ texts.condition) ++
    (if q.groupBy.isEmpty then "" else " group by " ++ Selection.columnList q.groupBy)

/-- Columns, ordering, limit and offset have no part in these texts. -/
def select
    (columns : List String)
    (orderBy : List SortKey)
    (limit offset : Option Int64) :
    RowTexts { q with columns := columns, orderBy := orderBy, limit := limit, offset := offset } :=
  ⟨texts.source, texts.joins, texts.condition, texts.source_sql, texts.joins_sql,
    texts.condition_sql⟩

theorem joinsSql_eq :
    q.joinsSql =
      .ok (if texts.joins = [] then "" else " " ++ " ".intercalate texts.joins) := by
  have hjoins := (mapM_eq_ok_iff _ _ _).1 texts.joins_sql
  unfold Selection.joinsSql
  split
  · rename_i hempty
    rw [List.isEmpty_iff.1 hempty, List.forall₂_nil_left_iff] at hjoins
    rw [if_pos hjoins]
  · rename_i hne
    have htexts : texts.joins ≠ [] := by
      intro hempty
      rw [hempty, List.forall₂_nil_right_iff] at hjoins
      exact hne (List.isEmpty_iff.2 hjoins)
    rw [if_neg htexts, Join.listSql, texts.joins_sql]
    rfl

theorem bodySql_eq :
    q.bodySql = .ok texts.body := by
  unfold Query.bodySql Selection.bodySql
  rw [texts.source_sql, texts.joinsSql_eq, Filter.clauseSql_eq_clauseText texts.condition_sql]
  rfl

theorem sql_eq :
    q.sql = .ok ("select " ++ Selection.columnList q.columns ++ texts.body ++ q.tailSql) :=
  Query.sql_eq_selectText texts.source_sql texts.joinsSql_eq
    (Filter.clauseSql_eq_clauseText texts.condition_sql)

/-- Groups are counted in a sub-select of all of them. -/
theorem countSql_eq :
    q.countSql =
      .ok
        (if q.groupBy.isEmpty then "select count(*)" ++ texts.body
          else "select count(*) from (select 1" ++ texts.body ++ ") as t") := by
  unfold countSql isGrouped
  cases hgroup : q.groupBy.isEmpty with
  | true =>
      change (q.bodySql >>= _) = _
      rw [texts.bodySql_eq]
      rfl
  | false =>
      have hgroups :
          q.groupsQuery.sql = .ok ("select 1" ++ texts.body ++ "") :=
        (texts.select ["1"] [] none none).sql_eq
      have hopen : "select count(*) from (" ++ "select 1" = "select count(*) from (select 1" := rfl
      change (q.groupsQuery.sql >>= _) = _
      rw [hgroups, String.append_empty, if_neg Bool.false_ne_true, ← hopen]
      change Except.ok _ = Except.ok _
      simp only [String.append_assoc]

/-- The limit is no part of what is counted. -/
example :
    ({ onTable "orders" with groupBy := ["user_id"], limit := some 10 } : Query).countSql =
      .ok "select count(*) from (select 1 from orders group by user_id) as t" := by
  rfl

end RowTexts

/-! ### Conditions of a program -/

namespace Step

mutual

/-- The conditions and groups that a step files, as steps of a deletion. -/
def whereSteps : Step → List Delete.Step
  | condition connector c => [.condition connector c]
  | group connector steps => [.group connector steps]
  | branch true steps _ => allWhereSteps steps
  | branch false _ steps => allWhereSteps steps
  | _ => []

/-- The conditions and groups that a program files, as steps of a deletion. -/
def allWhereSteps : List Step → List Delete.Step
  | [] => []
  | step :: steps => step.whereSteps ++ allWhereSteps steps

end

mutual

theorem applyAll_whereSteps
    (table : String)
    (allowsAll : Bool) :
    ∀ (step : Step) {q next : Query},
      step.apply q = .ok next →
      Delete.Step.applyAll step.whereSteps ⟨table, q.filter, allowsAll⟩ =
        .ok ⟨table, next.filter, allowsAll⟩
  | .condition connector c, q, next, h => by
      obtain rfl := Except.ok.inj h
      rfl
  | .group connector steps, q, next, h => by
      obtain ⟨child, hchild, h⟩ := exists_of_bind_eq_ok h
      obtain rfl := Except.ok.inj h
      have hgroup : filterOf steps = .ok child.filter := by
        rw [filterOf, hchild]
        rfl
      rw [whereSteps, Delete.Step.applyAll_cons, Delete.Step.apply, hgroup]
      rfl
  | .columns _, q, next, h | .source _, q, next, h | .join _, q, next, h
  | .orderBy _, q, next, h | .groupBy _, q, next, h | .limit _, q, next, h
  | .offset _, q, next, h | .skip, q, next, h => by
      obtain rfl := Except.ok.inj h
      rfl
  | .subquery table steps name, q, next, h => by
      obtain ⟨inner, _, h⟩ := exists_of_bind_eq_ok h
      obtain rfl := Except.ok.inj h
      rfl
  | .paginate page perPage, q, next, h => by
      obtain ⟨window, _, h⟩ := exists_of_bind_eq_ok h
      obtain rfl := Except.ok.inj h
      rfl
  | .branch true steps _, q, next, h => by
      rw [whereSteps]
      exact applyAll_allWhereSteps table allowsAll steps h
  | .branch false _ steps, q, next, h => by
      rw [whereSteps]
      exact applyAll_allWhereSteps table allowsAll steps h

/-- A deletion that files the conditions of a program has its filter. -/
theorem applyAll_allWhereSteps
    (table : String)
    (allowsAll : Bool) :
    ∀ (steps : List Step) {q next : Query},
      applyAll steps q = .ok next →
      Delete.Step.applyAll (allWhereSteps steps) ⟨table, q.filter, allowsAll⟩ =
        .ok ⟨table, next.filter, allowsAll⟩
  | [], q, next, h => by
      obtain rfl := Except.ok.inj h
      rfl
  | step :: steps, q, next, h => by
      obtain ⟨middle, hstep, h⟩ := exists_of_bind_eq_ok h
      rw [allWhereSteps, Delete.Step.applyAll_append,
        applyAll_whereSteps table allowsAll step hstep]
      exact applyAll_allWhereSteps table allowsAll steps h

end

end Step

/-! ### Deletions -/

namespace RowTexts

variable {q : Query} (texts : q.RowTexts)

/-- A deletion that is sent removes the rows of the source that satisfy the condition. -/
theorem eq_of_delete_sends
    {primaryKey : String}
    {kind : CallKind}
    {sql : String}
    (h : (Table.mk q primaryKey).delete.Sends kind sql) :
    kind = .execute ∧ sql = "delete from " ++ texts.source ++ " where " ++ texts.condition := by
  obtain ⟨expression, condition, hsource, -, hcondition, hsends⟩ :=
    Table.delete_sends_filteredSql (Table.deleteRefusal?_of_delete_sends h)
  have hsource : q.source = .table expression := hsource
  have htexts := texts.source_sql
  rw [hsource] at htexts
  obtain rfl : condition = texts.condition :=
    Except.ok.inj (hcondition.symm.trans texts.condition_sql)
  obtain rfl : expression = texts.source := Except.ok.inj htexts
  exact h.unique hsends

/-- A deletion with the conditions of a program that built the query removes the same rows. -/
theorem delete_sql_eq
    {start : Query}
    {steps : List Step}
    (hstart : start.filter = .empty)
    (h : Step.applyAll steps start = .ok q) :
    ∃ d,
      Delete.Step.applyAll (Step.allWhereSteps steps) { table := texts.source } = .ok d ∧
      d.sql = .ok
        ("delete from " ++ texts.source ++
          if q.filter.isEmpty then "" else " where " ++ texts.condition) := by
  have hsteps := Step.applyAll_allWhereSteps texts.source false steps h
  rw [hstart] at hsteps
  refine ⟨_, hsteps, ?_⟩
  rw [Delete.sql, Filter.clauseSql_eq_clauseText texts.condition_sql]
  rfl

/-- The statement of a sub-select stays whole within the source. -/
theorem source_eq
    {inner : Query}
    {name : String}
    (h : q.source = inner.asSource name) :
    ∃ innerTexts : inner.RowTexts,
      texts.source =
        "(" ++
          ("select " ++ Selection.columnList inner.columns ++ innerTexts.body ++ inner.tailSql) ++
          ") as " ++ name := by
  have hsource := texts.source_sql
  rw [h, asSource, Source.sql] at hsource
  obtain ⟨innerSource, hinner, hsource⟩ := exists_of_bind_eq_ok hsource
  obtain ⟨statement, hstatement, hsource⟩ := exists_of_bind_eq_ok hsource
  have hsql : inner.sql = .ok statement := by
    rw [Query.sql, hinner]
    exact hstatement
  obtain ⟨innerTexts⟩ := nonempty_rowTexts hsql
  obtain rfl := Except.ok.inj (hsql.symm.trans innerTexts.sql_eq)
  exact ⟨innerTexts, (Except.ok.inj hsource).symm⟩

end RowTexts

/-! ### Main result -/

/-- The statements of a query that select, count and delete address the rows of one text, in which
columns, ordering, limit and offset have no part, except for those of a sub-select. -/
theorem statements_share_rows
    {q : Query}
    {statement : String}
    (h : q.sql = .ok statement) :
    let tail (orderBy : List SortKey) (limit offset : Option Int64) : String :=
      (if orderBy.isEmpty then ""
        else " order by " ++
          ",".intercalate (orderBy.map fun key => key.field ++ " " ++ key.direction.keyword)) ++
      (limit.elim "" fun n => " limit " ++ toString n.toInt) ++
      (offset.elim "" fun n => " offset " ++ toString n.toInt)
    ∃ texts : q.RowTexts,
      (∀ (columns : List String) (orderBy : List SortKey) (limit offset : Option Int64)
          (primaryKey : String),
        let p : Query :=
          { q with columns := columns, orderBy := orderBy, limit := limit, offset := offset }
        p.sql = .ok
          ("select " ++ Selection.columnList columns ++ texts.body ++ tail orderBy limit offset) ∧
        p.countSql = .ok
          (if q.groupBy.isEmpty then "select count(*)" ++ texts.body
            else "select count(*) from (select 1" ++ texts.body ++ ") as t") ∧
        ∀ kind sql, (Table.mk p primaryKey).delete.Sends kind sql →
          kind = .execute ∧
            sql = "delete from " ++ texts.source ++ " where " ++ texts.condition) ∧
      (∀ (start : Query) (steps : List Step),
        start.filter = .empty →
        Step.applyAll steps start = .ok q →
        ∃ d,
          Delete.Step.applyAll (Step.allWhereSteps steps) { table := texts.source } = .ok d ∧
          d.sql = .ok
            ("delete from " ++ texts.source ++
              if q.filter.isEmpty then "" else " where " ++ texts.condition)) ∧
      ∀ (inner : Query) (name : String),
        q.source = inner.asSource name →
        ∃ innerTexts : inner.RowTexts,
          texts.source =
            "(" ++
              ("select " ++ Selection.columnList inner.columns ++ innerTexts.body ++
                tail inner.orderBy inner.limit inner.offset) ++
              ") as " ++ name := by
  intro tail
  have htail : ∀ s : Selection, tail s.orderBy s.limit s.offset = s.tailSql :=
    fun s => s.tailSql_eq.symm
  obtain ⟨texts⟩ := nonempty_rowTexts h
  refine ⟨texts, ?_, fun start steps => texts.delete_sql_eq, fun inner name hsource => ?_⟩
  · intro columns orderBy limit offset primaryKey p
    let selected : p.RowTexts := texts.select columns orderBy limit offset
    have hselect : p.sql = .ok
        ("select " ++ Selection.columnList columns ++ texts.body ++ tail orderBy limit offset) :=
      htail p.toSelection ▸ selected.sql_eq
    exact ⟨hselect, selected.countSql_eq, fun kind sql => selected.eq_of_delete_sends⟩
  · rw [htail]
    exact texts.source_eq hsource

/-- Groups of the last orders, and a table whose rows can be deleted. -/
theorem statements_share_rows_orders :
    let paid : Filter := .single (.equals "paid" (.bool true))
    let recent : Query :=
      { onTable "orders" with orderBy := [⟨"id", .descending⟩], filter := paid, limit := some 10 }
    let kinds : Query := { source := recent.asSource "o", groupBy := ["kind"], limit := some 2 }
    let body :=
      " from (select * from orders where paid = true order by id desc limit 10) as o" ++
        " group by kind"
    kinds.sql = .ok ("select *" ++ body ++ " limit 2") ∧
    kinds.countSql = .ok ("select count(*) from (select 1" ++ body ++ ") as t") ∧
    ∀ kind sql, (Table.mk recent "id").delete.Sends kind sql →
      sql = "delete from orders where paid = true" := by
  intro paid recent kinds body
  have hpaid : paid.sql = .ok "paid = true" := by
    decide +kernel
  -- The texts of the table are the same within the sub-select and in the deletion.
  have hrecent : ∀ texts : recent.RowTexts,
      texts.source = "orders" ∧ texts.joins = [] ∧ texts.condition = "paid = true" :=
    fun texts =>
      ⟨(Except.ok.inj texts.source_sql).symm, (Except.ok.inj texts.joins_sql).symm,
        Except.ok.inj (texts.condition_sql.symm.trans hpaid)⟩
  obtain ⟨texts, hsame, -, hinner⟩ := statements_share_rows (q := kinds) rfl
  obtain ⟨hsql, hcount, -⟩ := hsame ["*"] [] (some 2) none "id"
  have hbody : texts.body = body := by
    obtain ⟨innerTexts, hsource⟩ := hinner recent "o" rfl
    obtain ⟨hinnerSource, hinnerJoins, hinnerCondition⟩ := hrecent innerTexts
    have hjoins : texts.joins = [] := (Except.ok.inj texts.joins_sql).symm
    rw [RowTexts.body, hsource, RowTexts.body, hinnerSource, hinnerJoins, hinnerCondition, hjoins]
    rfl
  rw [hbody] at hsql hcount
  refine ⟨hsql, hcount, fun kind sql hsends => ?_⟩
  obtain ⟨own, hsame, -, -⟩ := statements_share_rows (q := recent) rfl
  obtain ⟨hsource, -, hcondition⟩ := hrecent own
  obtain ⟨-, -, hdelete⟩ := hsame ["*"] [⟨"id", .descending⟩] (some 10) none "id"
  rw [(hdelete kind sql hsends).2, hsource, hcondition]
  rfl

end Query

end SqlStatement
