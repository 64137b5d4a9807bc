import SqlStatement.Proofs.Number.Text
import SqlStatement.Proofs.Table.KeyFilter

/-!
# Finding a row on a page

`Table.find` replaces the limit of the query and keeps its offset.  So a limit that was set before
has no effect, but an offset has: behind it the row is skipped that the key selects.

* `Selection.boundSql_injective` and `Query.sql_eq_append_offset` say that a statement ends with its
  offset, and that two offsets are two endings.
* `Query.Step.withoutWindow_applyAll_eq` says that programs which differ in windows only build
  queries which differ in windows only.
* `Table.find_depends_on_offset_only` is the main result, and
  `Table.find_skips_row_behind_offset` a page on which a row is not found.
-/

namespace SqlStatement

open Fallible

/-! ### Offsets in statements -/

namespace Selection

theorem boundSql_injective (keyword : String) : Function.Injective (boundSql keyword) := by
  intro first second h
  cases first with
  | none =>
      exact ((boundSql_eq_empty_iff keyword second).1 h.symm).symm
  | some m =>
      cases second with
      | none =>
          exact (boundSql_eq_empty_iff keyword (some m)).1 h
      | some n =>
          have htext : toString m.toInt = toString n.toInt :=
            (String.append_right_inj _).1 h
          exact congrArg some (Int64.toInt_inj.1 (toString_int_injective htext))

end Selection

/-- A statement ends with its offset. -/
theorem Selection.selectSql_eq_append_offset (s : Selection) (source : String) :
    s.selectSql source =
      (({ s with offset := none } : Selection).selectSql source).map
        (· ++ boundSql "offset" s.offset) := by
  have hbody : s.bodySql source = ({ s with offset := none } : Selection).bodySql source := rfl
  have htail :
      s.tailSql =
        ({ s with offset := none } : Selection).tailSql ++ boundSql "offset" s.offset := by
    simp [tailSql, orderBySql, boundSql]
  unfold selectSql
  rw [hbody, htail]
  cases ({ s with offset := none } : Selection).bodySql source with
  | error failure =>
      rfl
  | ok body =>
      change Except.ok _ = Except.ok _
      simp only [String.append_assoc]

theorem Query.sql_eq_append_offset (q : Query) :
    q.sql =
      ({ q with offset := none } : Query).sql.map
        (· ++ Selection.boundSql "offset" q.offset) := by
  unfold Query.sql
  cases q.source.sql with
  | error failure =>
      rfl
  | ok source =>
      exact q.toSelection.selectSql_eq_append_offset source

/-! ### Queries that differ in their windows -/

namespace Query

/-- The query for all rows, of which a window was selected. -/
def withoutWindow (q : Query) : Query :=
  { q with limit := none, offset := none }

namespace Step

/-- Whether a step does nothing but select a window. -/
def isWindow : Step → Bool
  | limit _ | offset _ | paginate _ _ => true
  | _ => false

theorem withoutWindow_apply_of_isWindow
    {step : Step}
    {q next : Query}
    (hwindow : step.isWindow = true)
    (h : step.apply q = .ok next) :
    next.withoutWindow = q.withoutWindow := by
  cases step with
  | limit n | offset n =>
      obtain rfl := Except.ok.inj h
      rfl
  | paginate page perPage =>
      rw [apply] at h
      obtain ⟨window, -, h⟩ := exists_of_bind_eq_ok h
      obtain rfl := Except.ok.inj h
      rfl
  | _ =>
      cases hwindow

mutual

/-- What a step does to the rest of a query does not depend on the window. -/
theorem withoutWindow_apply (step : Step) (q : Query) :
    (step.apply q.withoutWindow).map withoutWindow = (step.apply q).map withoutWindow := by
  match step with
  | .condition _ _ | .columns _ | .source _ | .join _ | .orderBy _ | .groupBy _ | .limit _
  | .offset _ | .skip =>
      rfl
  | .group connector steps =>
      rw [apply, apply]
      cases applyAll steps (onTable "") <;> rfl
  | .subquery table steps name =>
      rw [apply, apply]
      cases applyAll steps (onTable table) <;> rfl
  | .paginate page perPage =>
      rw [apply, apply]
      cases Window.ofPage page perPage <;> rfl
  | .branch true thenSteps elseSteps =>
      exact withoutWindow_applyAll thenSteps q
  | .branch false thenSteps elseSteps =>
      exact withoutWindow_applyAll elseSteps q

theorem withoutWindow_applyAll (steps : List Step) (q : Query) :
    (applyAll steps q.withoutWindow).map withoutWindow =
      (applyAll steps q).map withoutWindow := by
  match steps with
  | [] =>
      rfl
  | step :: steps =>
      have hbind : ∀ x : Except Overflow Query,
          (x >>= applyAll steps).map withoutWindow =
            x.map withoutWindow >>= fun next => (applyAll steps next).map withoutWindow := by
        intro x
        cases x with
        | error failure =>
            rfl
        | ok next =>
            exact (withoutWindow_applyAll steps next).symm
      rw [applyAll, applyAll, hbind, hbind, withoutWindow_apply step q]

end

/-- Without the steps that select windows, a program builds the same query but for its window. -/
theorem withoutWindow_applyAll_filter
    {steps : List Step}
    {q next : Query}
    (h : applyAll steps q = .ok next) :
    (applyAll (steps.filter fun step => !step.isWindow) q).map withoutWindow =
      .ok next.withoutWindow := by
  induction steps generalizing q with
  | nil =>
      obtain rfl := Except.ok.inj h
      rfl
  | cons step steps ih =>
      rw [applyAll] at h
      obtain ⟨middle, hstep, h⟩ := exists_of_bind_eq_ok h
      cases hwindow : step.isWindow with
      | true =>
          rw [List.filter_cons_of_neg (by simp [hwindow]), ← withoutWindow_applyAll,
            ← withoutWindow_apply_of_isWindow hwindow hstep, withoutWindow_applyAll, ih h]
      | false =>
          rw [List.filter_cons_of_pos (by simp [hwindow]), applyAll, hstep]
          exact ih h

/-- Programs that differ in windows only build queries that differ in windows only. -/
theorem withoutWindow_applyAll_eq
    {first second : List Step}
    {q p r : Query}
    (hsteps :
      (first.filter fun step => !step.isWindow) = second.filter fun step => !step.isWindow)
    (hfirst : applyAll first q = .ok p)
    (hsecond : applyAll second q = .ok r) :
    p.withoutWindow = r.withoutWindow := by
  have hresults :
      (.ok p.withoutWindow : Except Overflow Query) = .ok r.withoutWindow := by
    rw [← withoutWindow_applyAll_filter hfirst, ← withoutWindow_applyAll_filter hsecond, hsteps]
  exact Except.ok.inj hresults

end Step

end Query

/-! ### Finding -/

namespace Table

variable (t : Table) (key : Argument)

/-- The table whose query is for all rows. -/
def withoutWindow : Table :=
  { t with query := t.query.withoutWindow }

/-- The limit is replaced by that of `find`, the offset is kept. -/
theorem findQuery_withoutWindow :
    t.withoutWindow.findQuery key = { t.findQuery key with offset := none } :=
  rfl

theorem find_sends_of_withoutWindow
    {text : String}
    (h : (t.withoutWindow.findQuery key).sql = .ok text) :
    (t.find key).Sends .query (text ++ Selection.boundSql "offset" t.query.offset) := by
  refine t.find_sends key ?_
  rw [findQuery_withoutWindow] at h
  rw [Query.sql_eq_append_offset, h]
  rfl

theorem find_refuses_of_withoutWindow
    {failure : UnsupportedArgument}
    (h : (t.withoutWindow.findQuery key).sql = .error failure) :
    (t.find key).Refuses (.unsupportedArgument failure) := by
  refine t.find_refuses key ?_
  rw [findQuery_withoutWindow] at h
  rw [Query.sql_eq_append_offset, h]
  rfl

/-- Of the window of a query only the offset reaches the statement that finds a row.  So two tables
whose queries differ in their windows only send the same statement exactly if their offsets are
equal, and fail alike. -/
theorem find_depends_on_offset_only :
    (∀ t u : Table,
      t.withoutWindow = u.withoutWindow →
      (∀ failure,
        (t.withoutWindow.findQuery key).sql = .error failure →
        (t.find key).Refuses (.unsupportedArgument failure) ∧
        (u.find key).Refuses (.unsupportedArgument failure)) ∧
      ∀ text,
        (t.withoutWindow.findQuery key).sql = .ok text →
        (t.find key).Sends .query (text ++ Selection.boundSql "offset" t.query.offset) ∧
        (u.find key).Sends .query (text ++ Selection.boundSql "offset" u.query.offset) ∧
        ((∃ sql, (t.find key).Sends .query sql ∧ (u.find key).Sends .query sql) ↔
          t.query.offset = u.query.offset)) ∧
    ∀ (t u : Table) (q : Query) (first second : List Query.Step),
      t.primaryKey = u.primaryKey →
      (first.filter fun step => !step.isWindow) = (second.filter fun step => !step.isWindow) →
      Query.Step.applyAll first q = .ok t.query →
      Query.Step.applyAll second q = .ok u.query →
      t.withoutWindow = u.withoutWindow := by
  constructor
  · intro t u htables
    refine ⟨fun failure hfailure => ⟨?_, ?_⟩, fun text htext => ?_⟩
    · exact t.find_refuses_of_withoutWindow key hfailure
    · exact u.find_refuses_of_withoutWindow key (htables ▸ hfailure)
    · have ht := t.find_sends_of_withoutWindow key htext
      have hu := u.find_sends_of_withoutWindow key (htables ▸ htext)
      refine ⟨ht, hu, ?_, ?_⟩
      · rintro ⟨sql, htsql, husql⟩
        have hoffsets :
            text ++ Selection.boundSql "offset" t.query.offset =
              text ++ Selection.boundSql "offset" u.query.offset :=
          (ht.unique htsql).2.trans (husql.unique hu).2
        exact Selection.boundSql_injective "offset" ((String.append_right_inj _).1 hoffsets)
      · intro hoffset
        exact ⟨_, ht, hoffset ▸ hu⟩
  · intro t u q first second hkey hsteps hfirst hsecond
    have hquery := Query.Step.withoutWindow_applyAll_eq hsteps hfirst hsecond
    rw [withoutWindow, withoutWindow, hkey, hquery]

/-- Two limits find the same row. -/
theorem find_depends_on_offset_only_limits :
    let users (limit : Int64) : Table :=
      { query := { Query.onTable "users" with limit := some limit } }
    ∃ sql,
      ((users 3).find (.int 5)).Sends .query sql ∧
      ((users 10).find (.int 5)).Sends .query sql := by
  intro users
  obtain ⟨hfind, hsteps⟩ := find_depends_on_offset_only (.int 5)
  have htables : (users 3).withoutWindow = (users 10).withoutWindow :=
    hsteps _ _ (.onTable "users") [.limit 3] [.limit 10] rfl rfl rfl rfl
  obtain ⟨-, hsends⟩ := hfind _ _ htables
  obtain ⟨-, -, hsame⟩ := hsends "select * from users where id = 5 limit 1" (by decide +kernel)
  exact hsame.2 rfl

/-- On the second page the row with the key is skipped. -/
theorem find_skips_row_behind_offset :
    let users : Table := .onTable "users"
    ∃ query,
      Query.Step.applyAll [.paginate 2 10] users.query = .ok query ∧
      (users.find (.int 5)).Sends .query "select * from users where id = 5 limit 1" ∧
      (Table.find { users with query := query } (.int 5)).Sends .query
        "select * from users where id = 5 limit 1 offset 10" ∧
      ¬∃ sql,
        (users.find (.int 5)).Sends .query sql ∧
        (Table.find { users with query := query } (.int 5)).Sends .query sql := by
  intro users
  let page : Query := { users.query with limit := some 10, offset := some 10 }
  have hall : (users.find (.int 5)).Sends .query "select * from users where id = 5 limit 1" :=
    find_sends _ _ (by decide +kernel)
  have hpage : (Table.find { users with query := page } (.int 5)).Sends .query
      "select * from users where id = 5 limit 1 offset 10" :=
    find_sends _ _ (by decide +kernel)
  refine ⟨page, rfl, hall, hpage, ?_⟩
  rintro ⟨sql, hsql, hpagesql⟩
  have htexts := (hall.unique hsql).2.trans (hpagesql.unique hpage).2
  exact absurd htexts (by decide)

end Table

end SqlStatement
