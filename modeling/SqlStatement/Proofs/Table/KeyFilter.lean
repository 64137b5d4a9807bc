import SqlStatement.Proofs.Filter.Meaning
import SqlStatement.Proofs.Query.FirstFailure
import SqlStatement.Proofs.Session.Exchange

/-!
# Finding a row by its key

`Table.find` sends the statement of `Table.get` with another predicate and another limit.  The
predicate of the query becomes one group beside the comparison of the key, so whatever alternatives
it offers, they stay within the group and the key is compared in every row that is found.

* `Table.keyFilter_sql` is the text of the predicate, and `Table.holds_keyFilter` its truth.
* `Table.get_sends_and_find_sends` compares the two statements.
* `Table.find_refuses_iff` says that finding fails exactly if getting does.
* `Table.find_compares_key` is the main result.
-/

namespace SqlStatement

open Fallible

namespace Table

variable (t : Table) (key : Argument)

/-! ### The predicate -/

theorem groups_keyFilter (connector : Connector) :
    (t.keyFilter key).groups connector =
      if t.query.filter.isEmpty = false ∧ connector = .and then [t.query.filter] else [] := by
  unfold keyFilter
  rw [Filter.groups_push]
  cases hempty : t.query.filter.isEmpty with
  | true =>
      rw [Filter.pushGroup_of_isEmpty _ _ hempty]
      cases connector <;> simp [Filter.empty, Filter.groups]
  | false =>
      rw [Filter.groups_pushGroup _ _ _ hempty]
      cases connector <;> simp [Filter.empty, Filter.groups]

theorem leaves_keyFilter (connector : Connector) :
    (t.keyFilter key).leaves connector =
      if connector = .and then [.equals t.primaryKey key] else [] := by
  unfold keyFilter
  rw [Filter.leaves_push, Filter.leaves_pushGroup]
  cases connector <;> simp [Filter.empty, Filter.leaves]

theorem isEmpty_keyFilter :
    (t.keyFilter key).isEmpty = false :=
  Filter.isEmpty_push _ _ _

theorem reduced_keyFilter
    (h : t.query.filter.Reduced) :
    (t.keyFilter key).Reduced :=
  (Filter.Reduced.empty.pushGroup .and h).push .and _

/-- The conditions of the query come first, then the key. -/
theorem conditions_keyFilter :
    (t.keyFilter key).conditions = t.query.filter.conditions ++ [.equals t.primaryKey key] := by
  rw [Filter.conditions_eq]
  simp only [groups_keyFilter, leaves_keyFilter]
  cases hempty : t.query.filter.isEmpty with
  | true =>
      rw [Filter.conditions_eq_nil_of_isEmpty hempty]
      simp
  | false =>
      simp

/-- The text of the key comparison. -/
def keyText : String :=
  t.primaryKey ++ " = " ++ key.plainText

/-- The text of the predicate over that of the query: in parentheses, if any, and the key. -/
def keyFilterText (condition : String) : String :=
  if t.query.filter.isEmpty then t.keyText key
  else "(" ++ condition ++ ") And " ++ t.keyText key

theorem keyFilter_sql
    {condition : String}
    (h : t.query.filter.sql = .ok condition) :
    (t.keyFilter key).sql = .ok (t.keyFilterText key condition) := by
  have hkey : (Condition.equals t.primaryKey key).sql = .ok (t.keyText key) :=
    Condition.sql_equals t.primaryKey key
  have hkeyne : t.keyText key ≠ "" := Condition.sql_ne_empty hkey
  rw [Filter.sql_eq_ok_iff]
  simp only [groups_keyFilter, leaves_keyFilter, keyFilterText]
  cases hempty : t.query.filter.isEmpty with
  | true =>
      refine ⟨[], [t.keyText key], [], [], by simp, by simpa using hkey, by simp, by simp, ?_⟩
      simp [Filter.arrange, Filter.joined, Filter.glue, hkeyne]
  | false =>
      have hgroup : Filter.IsGroupText t.query.filter ("(" ++ condition ++ ")") :=
        ⟨condition, h, rfl⟩
      refine ⟨["(" ++ condition ++ ")"], [t.keyText key], [], [], by simpa using hgroup,
        by simpa using hkey, by simp, by simp, ?_⟩
      simp [Filter.arrange, Filter.joined, Filter.glue, hkeyne, String.append_assoc]

/-- A row is found where the predicate of the query holds, if there is one, and the key is equal. -/
theorem holds_keyFilter (truth : Condition → Prop) :
    (t.keyFilter key).Holds truth ↔
      (t.query.filter.isEmpty = true ∨ t.query.filter.Holds truth) ∧
        truth (.equals t.primaryKey key) := by
  rw [Filter.holds_iff]
  simp only [groups_keyFilter, leaves_keyFilter]
  cases hempty : t.query.filter.isEmpty with
  | true =>
      simp
  | false =>
      simp

/-- The predicate is read as that of the query, if there is one, and the key comparison. -/
theorem ofText?_keyFilterText
    {condition : String}
    (hreduced : t.query.filter.Reduced)
    (hplain : ∀ c ∈ t.query.filter.conditions, c.IsPlain)
    (hkey : (Condition.equals t.primaryKey key).IsPlain)
    (h : t.query.filter.sql = .ok condition) :
    ∃ found,
      SearchCondition.ofText? (t.keyFilterText key condition) = some found ∧
      ∀ truth : String → Prop,
        (found.Holds truth ↔
          (t.query.filter.isEmpty = true ∨ t.query.filter.Holds fun c => truth c.text) ∧
            truth (t.keyText key)) ∧
        (found.Holds truth ↔
          (t.query.filter.isEmpty = true ∨
            ∃ existing,
              SearchCondition.ofText? condition = some existing ∧ existing.Holds truth) ∧
          truth (t.keyText key)) := by
  have hall : ∀ c ∈ (t.keyFilter key).conditions, c.IsPlain := by
    intro c hc
    rw [conditions_keyFilter, List.mem_append, List.mem_singleton] at hc
    rcases hc with hc | rfl
    · exact hplain c hc
    · exact hkey
  have hread := Filter.read?_sql (t.reduced_keyFilter key hreduced) (t.isEmpty_keyFilter key)
    hall (t.keyFilter_sql key h)
  have htext : (Condition.equals t.primaryKey key).text = t.keyText key :=
    Condition.text_eq (Condition.sql_equals t.primaryKey key)
  refine ⟨(t.keyFilter key).searchCondition, hread, fun truth => ?_⟩
  rw [Filter.holds_searchCondition, holds_keyFilter, htext]
  refine ⟨Iff.rfl, and_congr_left fun _ => ?_⟩
  by_cases hempty : t.query.filter.isEmpty = true
  · exact iff_of_true (Or.inl hempty) (Or.inl hempty)
  · have hexisting : SearchCondition.ofText? condition = some t.query.filter.searchCondition :=
      Filter.read?_sql hreduced (Bool.eq_false_iff.2 hempty) hplain h
    rw [← Filter.holds_searchCondition]
    simp [hexisting]

end Table

/-! ### Sending -/

namespace Table

variable (t : Table) (key : Argument)

theorem get_sends
    {text : String}
    (h : t.query.sql = .ok text) :
    t.get.Sends .query text :=
  ⟨_, _, (Statement.query_of_ok (Query.checkedSql_of_ok h)).log_bind _⟩

theorem get_refuses
    {failure : UnsupportedArgument}
    (h : t.query.sql = .error failure) :
    t.get.Refuses (.unsupportedArgument failure) :=
  ⟨_, (Statement.announce_bind_of_error _ _ (Query.checkedSql_of_error h)).log_bind _⟩

theorem find_sends
    {text : String}
    (h : (t.findQuery key).sql = .ok text) :
    (t.find key).Sends .query text :=
  ⟨_, _, (Statement.queryFirst?_of_ok (Query.checkedSql_of_ok h)).log_bind _⟩

theorem find_refuses
    {failure : UnsupportedArgument}
    (h : (t.findQuery key).sql = .error failure) :
    (t.find key).Refuses (.unsupportedArgument failure) :=
  ⟨_, (Statement.announce_bind_of_error _ _ (Query.checkedSql_of_error h)).log_bind _⟩

/-- The key comparison has a text, so it adds no failure. -/
theorem failure?_findQuery :
    failure? (t.findQuery key).sql = failure? t.query.sql := by
  have hkey : failure? (Condition.equals t.primaryKey key).sql = none :=
    failure?_eq_none_iff.2 ⟨_, Condition.sql_equals t.primaryKey key⟩
  have hconditions :
      (t.findQuery key).conditions = t.query.conditions ++ [.equals t.primaryKey key] := by
    unfold Query.conditions
    rw [List.append_assoc, ← conditions_keyFilter]
    rfl
  rw [Query.failure?_sql, Query.failure?_sql, hconditions, List.findSome?_append,
    List.findSome?_singleton, hkey, Option.or_none]

theorem find_sql_eq_error_iff (failure : UnsupportedArgument) :
    (t.findQuery key).sql = .error failure ↔ t.query.sql = .error failure := by
  rw [← failure?_eq_some_iff, failure?_findQuery, failure?_eq_some_iff]

/-- Finding sends the statement of getting with another predicate and another limit. -/
theorem get_sends_and_find_sends
    {source condition : String}
    (hsource : t.query.source.sql = .ok source)
    (hcondition : t.query.filter.sql = .ok condition) :
    ∃ joins,
      t.query.joinsSql = .ok joins ∧
      t.get.Sends .query
        (t.query.selectText source joins (t.query.filter.clauseText condition) t.query.limit) ∧
      (t.find key).Sends .query
        (t.query.selectText source joins (" where " ++ t.keyFilterText key condition)
          (some 1)) := by
  obtain ⟨joins, hjoins⟩ := t.query.toSelection.exists_joinsSql
  have hclause : (t.keyFilter key).clauseSql =
      .ok (" where " ++ t.keyFilterText key condition) := by
    rw [Filter.clauseSql_eq_clauseText (t.keyFilter_sql key hcondition), Filter.clauseText,
      isEmpty_keyFilter]
    rfl
  refine ⟨joins, hjoins, ?_, ?_⟩
  · exact t.get_sends
      (Query.sql_eq_selectText hsource hjoins (Filter.clauseSql_eq_clauseText hcondition))
  · exact t.find_sends key
      (Query.sql_eq_selectText (q := t.findQuery key) hsource hjoins hclause)

/-- Finding fails without the database exactly if getting does, with the same failure. -/
theorem find_refuses_iff (failure : Failure) :
    (t.find key).Refuses failure ↔ t.get.Refuses failure := by
  cases hsql : t.query.sql with
  | error e =>
      have hget := t.get_refuses hsql
      have hfind := t.find_refuses key ((t.find_sql_eq_error_iff key e).2 hsql)
      constructor
      · intro h
        rwa [h.unique hfind]
      · intro h
        rwa [h.unique hget]
  | ok text =>
      obtain ⟨source, condition, hsource, hcondition⟩ := Query.exists_of_sql_eq_ok hsql
      obtain ⟨_, _, hget, hfind⟩ := t.get_sends_and_find_sends key hsource hcondition
      exact iff_of_false hfind.not_refuses hget.not_refuses

/-- Finding a row compares the key outside the predicate of the query, however that is built, and
otherwise sends the statement of getting or fails as getting does. -/
theorem find_compares_key
    {name : String}
    {steps : List Query.Step}
    (hquery : Query.Step.applyAll steps (.onTable name) = .ok t.query) :
    (∀ failure, (t.find key).Refuses failure ↔ t.get.Refuses failure) ∧
    ((∃ failure, t.get.Refuses failure) ∨
      ∃ source condition,
        t.query.source.sql = .ok source ∧ t.query.filter.sql = .ok condition) ∧
    ∀ condition found,
      t.query.filter.sql = .ok condition →
      found =
        (if t.query.filter.isEmpty then t.primaryKey ++ " = " ++ key.plainText
          else "(" ++ condition ++ ") And " ++ (t.primaryKey ++ " = " ++ key.plainText)) →
      (∀ source,
        t.query.source.sql = .ok source →
        ∃ joins,
          t.query.joinsSql = .ok joins ∧
          t.get.Sends .query
            (t.query.selectText source joins (t.query.filter.clauseText condition)
              t.query.limit) ∧
          (t.find key).Sends .query
            (t.query.selectText source joins (" where " ++ found) (some 1))) ∧
      ((∀ c ∈ t.query.filter.conditions, c.IsPlain) →
        (Condition.equals t.primaryKey key).IsPlain →
        ∃ predicate,
          SearchCondition.ofText? found = some predicate ∧
          ∀ truth : String → Prop,
            (predicate.Holds truth ↔
              (t.query.filter.isEmpty = true ∨ t.query.filter.Holds fun c => truth c.text) ∧
                truth (t.primaryKey ++ " = " ++ key.plainText)) ∧
            (predicate.Holds truth ↔
              (t.query.filter.isEmpty = true ∨
                ∃ existing,
                  SearchCondition.ofText? condition = some existing ∧ existing.Holds truth) ∧
              truth (t.primaryKey ++ " = " ++ key.plainText))) := by
  have hreduced : t.query.filter.Reduced := Query.Step.reduced_applyAll steps hquery .empty
  refine ⟨t.find_refuses_iff key, ?_, ?_⟩
  · cases hsql : t.query.sql with
    | error failure =>
        exact Or.inl ⟨_, t.get_refuses hsql⟩
    | ok text =>
        exact Or.inr (Query.exists_of_sql_eq_ok hsql)
  · rintro condition found hcondition rfl
    refine ⟨fun source hsource => ?_, fun hplain hkey => ?_⟩
    · exact t.get_sends_and_find_sends key hsource hcondition
    · exact t.ofText?_keyFilterText key hreduced hplain hkey hcondition

/-- An alternative on the role does not find the rows of other keys. -/
theorem find_compares_key_role :
    let filter : Filter :=
      (Filter.single (.equals "status" (.int 1))).push .or (.equals "role" (.int 2))
    let users : Table := { query := { Query.onTable "users" with filter := filter } }
    (users.find (.int 5)).Sends .query
      "select * from users where (status = 1 Or role = 2) And id = 5 limit 1" ∧
    ∃ predicate,
      SearchCondition.ofText? "(status = 1 Or role = 2) And id = 5" = some predicate ∧
      ∀ truth : String → Prop,
        predicate.Holds truth ↔
          (∃ existing,
            SearchCondition.ofText? "status = 1 Or role = 2" = some existing ∧
              existing.Holds truth) ∧
          truth "id = 5" := by
  intro filter users
  have hquery :
      Query.Step.applyAll
          [.condition .and (.equals "status" (.int 1)), .condition .or (.equals "role" (.int 2))]
          (.onTable "users") =
        .ok users.query := rfl
  obtain ⟨_, _, hfound⟩ := find_compares_key users (.int 5) hquery
  obtain ⟨hsends, hread⟩ := hfound "status = 1 Or role = 2"
    "(status = 1 Or role = 2) And id = 5" (by decide +kernel) (by decide +kernel)
  obtain ⟨joins, hjoins, _, hfind⟩ := hsends "users" rfl
  obtain rfl : "" = joins := Except.ok.inj hjoins
  obtain ⟨predicate, hpredicate, hholds⟩ := hread (by decide +kernel) (by decide +kernel)
  have hkey : users.primaryKey ++ " = " ++ (Argument.int 5).plainText = "id = 5" := rfl
  rw [hkey] at hholds
  refine ⟨hfind, predicate, hpredicate, fun truth => ?_⟩
  simpa [users, filter] using (hholds truth).2

end Table

end SqlStatement
