import SqlStatement.Proofs.Run.Position
import SqlStatement.Proofs.Run.Request

/-!
# The log and the calls of a run

The statements in the log are those that were handed over, in the same order, but for the statements
that count: counting hands its statement over without a record.

* `Access.Fulfils.logged` and `Task.logged` compare the records and the calls of one operation.
* `Run.loggedSql_recorded` compares those of a run, by induction on the actions, and
  `Run.LogsExactly` says when the log is complete.
* `Run.log_lacks_counts_only` is the main result, and `Run.count_leaves_no_statement_in_log` a run
  in which the log lacks a statement.
-/

namespace SqlStatement

/-! ### One operation -/

theorem Access.Fulfils.logged
    {m : Access Outcome}
    {request : Request}
    (h : m.Fulfils request)
    (session : Session) :
    ∃ calls log,
      (m session).2.calls = session.calls ++ calls ∧
      (m session).2.events = session.events ++ log ∧
      loggedSql log = if request.isLogged then calls.map Call.sql else [] := by
  cases hsql : request.sql with
  | error failure =>
      obtain ⟨log, hlog, hrefusal⟩ := h.refuses failure hsql
      rw [hrefusal session]
      exact ⟨[], log, (List.append_nil _).symm, rfl, by simp [hlog]⟩
  | ok sql =>
      obtain ⟨log, hlog, hexchange⟩ := h.sends sql hsql
      rw [hexchange session]
      exact ⟨_, log, session.calls_exchange _ _ _, rfl, hlog⟩

/-- Whether an operation leaves the statement that it hands over in the log. -/
def Task.isLogged (task : Task) : Bool :=
  task.request?.all Request.isLogged

theorem Task.logged (task : Task) (session : Session) :
    ∃ calls log,
      (task.perform session).2.calls = session.calls ++ calls ∧
      (task.perform session).2.events = session.events ++ log ∧
      loggedSql log = if task.isLogged then calls.map Call.sql else [] := by
  cases hrequest : task.request? with
  | none =>
      obtain ⟨outcome, hperform⟩ := perform_of_request?_eq_none hrequest session
      rw [hperform]
      exact ⟨[], [], (List.append_nil _).symm, (List.append_nil _).symm, by simp [loggedSql]⟩
  | some request =>
      have hlogged : task.isLogged = request.isLogged := by
        rw [isLogged, hrequest, Option.all_some]
      rw [hlogged]
      exact (perform_fulfils hrequest).logged session

/-! ### Runs -/

namespace Run

/-- The records that are left during a run, in order. -/
def recorded (reports : List Report) : List Event :=
  reports.flatMap Report.events

variable {σ Step Operation : Type}

/-- The statements that some of the operations hand over during a run, in order. -/
def handedOverBy (p : Operation → Bool) : List (Action Step Operation) → List Report → List Call
  | .use operation :: actions, report :: reports =>
    if p operation then report.calls ++ handedOverBy p actions reports
    else handedOverBy p actions reports
  | .build _ :: actions, _ :: reports => handedOverBy p actions reports
  | _, _ => []

theorem handedOverBy_nil (p : Operation → Bool) (actions : List (Action Step Operation)) :
    handedOverBy p actions [] = [] := by
  cases actions with
  | nil =>
      rfl
  | cons action actions =>
      cases action <;> rfl

theorem loggedSql_recorded_cons (report : Report) (reports : List Report) :
    loggedSql (recorded (report :: reports)) =
      loggedSql report.events ++ loggedSql (recorded reports) := by
  rw [recorded, List.flatMap_cons, loggedSql, List.filterMap_append]
  rfl

/-- The log holds the statements of the operations that leave theirs in it, and no other. -/
theorem loggedSql_recorded
    (apply : Step → σ → Except Overflow σ)
    (sql : σ → Except UnsupportedArgument String)
    (task : Operation → σ → Task)
    {isLogged : Operation → Bool}
    {actions : List (Action Step Operation)}
    (hlogged : ∀ operation s,
      .use operation ∈ actions → (task operation s).isLogged = isLogged operation)
    (subject : σ)
    (session : Session) :
    let run := reports apply sql (fun operation s => (task operation s).perform) actions subject
      session
    loggedSql (recorded run) = (handedOverBy isLogged actions run).map Call.sql := by
  induction actions generalizing subject session with
  | nil =>
      rfl
  | cons action actions ih =>
      have ih := ih fun operation s hmem => hlogged operation s (List.mem_cons_of_mem _ hmem)
      cases action with
      | build step =>
          unfold reports
          split
          · rename_i next _
            exact ih next session
          · change [] = (handedOverBy isLogged actions []).map Call.sql
            rw [handedOverBy_nil, List.map_nil]
      | use operation =>
          obtain ⟨calls, log, hcalls, hevents, hlog⟩ := (task operation subject).logged session
          have hreport :
              (reportOf (task operation subject).perform session).1 =
                .used ((task operation subject).perform session).1 calls log := by
            rw [reportOf_fst, hcalls, hevents, List.drop_left, List.drop_left]
          rw [hlogged operation subject List.mem_cons_self] at hlog
          have ih := ih subject ((task operation subject).perform session).2
          intro run
          let rest :=
            reports apply sql (fun operation s => (task operation s).perform) actions subject
              ((task operation subject).perform session).2
          have hrun : run = .used ((task operation subject).perform session).1 calls log :: rest :=
            congrArg (· :: rest) hreport
          rw [hrun, loggedSql_recorded_cons, ih, handedOverBy]
          change loggedSql log ++ _ = _
          rw [hlog]
          split
          · rw [List.map_append]
            rfl
          · rfl

theorem handedOverBy_false (actions : List (Action Step Operation)) (reports : List Report) :
    handedOverBy (fun _ => false) actions reports = [] := by
  induction actions generalizing reports with
  | nil =>
      rfl
  | cons action actions ih =>
      cases reports with
      | nil =>
          exact handedOverBy_nil _ _
      | cons report reports =>
          cases action <;> exact ih reports

/-- The statements of a run are those of the operations with a property and those of the others. -/
structure SplitBy
    (p : Operation → Bool)
    (actions : List (Action Step Operation))
    (run : List Report) :
    Prop where
  sublist : (handedOverBy p actions run).Sublist (handedOver run)
  length_add :
    (handedOverBy p actions run).length +
      (handedOverBy (fun operation => !p operation) actions run).length =
        (handedOver run).length

theorem SplitBy.nil
    (p : Operation → Bool)
    (actions : List (Action Step Operation)) :
    SplitBy p actions [] := by
  constructor <;> simp [handedOverBy_nil, handedOver]

theorem SplitBy.use
    {p : Operation → Bool}
    {actions : List (Action Step Operation)}
    {run : List Report}
    (operation : Operation)
    (report : Report)
    (h : SplitBy p actions run) :
    SplitBy p (.use operation :: actions) (report :: run) := by
  have hlength := h.length_add
  have hall : handedOver (report :: run) = report.calls ++ handedOver run := rfl
  constructor
  · rw [handedOverBy, hall]
    split
    · exact (List.Sublist.refl _).append h.sublist
    · exact h.sublist.trans (List.sublist_append_right _ _)
  · rw [handedOverBy, handedOverBy, hall, List.length_append]
    cases p operation <;> simp <;> omega

theorem splitBy_reports
    (apply : Step → σ → Except Overflow σ)
    (sql : σ → Except UnsupportedArgument String)
    (perform : Operation → σ → Access Outcome)
    (p : Operation → Bool)
    (actions : List (Action Step Operation))
    (subject : σ)
    (session : Session) :
    SplitBy p actions (reports apply sql perform actions subject session) := by
  induction actions generalizing subject session with
  | nil =>
      exact .nil p []
  | cons action actions ih =>
      cases action with
      | build step =>
          -- The report of a step has no statements.
          unfold reports
          split
          · rename_i next _
            exact ⟨(ih next session).sublist, (ih next session).length_add⟩
          · exact ⟨(SplitBy.nil p actions).sublist, (SplitBy.nil p actions).length_add⟩
      | use operation =>
          exact (ih subject _).use operation _

/-- The log of a run holds, in order, the statements of the operations with a property.  So it holds
all statements exactly if the other operations handed over none. -/
structure LogsExactly
    (isLogged : Operation → Bool)
    (actions : List (Action Step Operation))
    (run : List Report) :
    Prop where
  logged : loggedSql (recorded run) = (handedOverBy isLogged actions run).map Call.sql
  complete_iff :
    loggedSql (recorded run) = (handedOver run).map Call.sql ↔
      handedOverBy (fun operation => !isLogged operation) actions run = []

theorem logsExactly
    (apply : Step → σ → Except Overflow σ)
    (sql : σ → Except UnsupportedArgument String)
    (task : Operation → σ → Task)
    {isLogged : Operation → Bool}
    {actions : List (Action Step Operation)}
    (hlogged : ∀ operation s,
      .use operation ∈ actions → (task operation s).isLogged = isLogged operation)
    (subject : σ)
    (session : Session) :
    LogsExactly isLogged actions
      (reports apply sql (fun operation s => (task operation s).perform) actions subject
        session) := by
  have hlog := loggedSql_recorded apply sql task hlogged subject session
  have hsplit := splitBy_reports apply sql (fun operation s => (task operation s).perform)
    isLogged actions subject session
  have hlength := hsplit.length_add
  refine ⟨hlog, ?_⟩
  rw [hlog]
  constructor
  · intro hcomplete
    have hlengths := congrArg List.length hcomplete
    rw [List.length_map, List.length_map] at hlengths
    exact List.eq_nil_of_length_eq_zero (by omega)
  · intro hothers
    rw [hothers, List.length_nil, Nat.add_zero] at hlength
    rw [hsplit.sublist.eq_of_length hlength]

end Run

/-- Whether an operation of a table leaves its statement in the log. -/
def Table.Operation.isLogged : Operation → Bool
  | .count | .rows _ => false
  | .get | .first | .find _ | .delete | .primaryKey => true

def Query.Operation.isLogged : Operation → Bool
  | .count => false
  | .query | .queryFirst? | .queryFirst => true

theorem Task.isLogged_table (t : Table) (operation : Table.Operation) :
    (Task.table t operation).isLogged = operation.isLogged := by
  cases operation <;> rfl

theorem Task.isLogged_query (q : Query) (operation : Query.Operation) :
    (Task.query q operation).isLogged = operation.isLogged := by
  cases operation <;> rfl

theorem Task.isLogged_delete (d : Delete) (operation : Delete.Operation) :
    (Task.delete d operation).isLogged = true := by
  cases operation <;> rfl

namespace Run

/-- In every run the statements in the log are, in order, those handed over by all operations but
counts and statements that are sent over the session of a table directly.  So a run has all its
statements in the log exactly if these handed over none, whatever shares the session. -/
theorem log_lacks_counts_only (session : Session) :
    (∀ (t : Table) (actions : List (Action Query.Step Table.Operation)),
      LogsExactly Table.Operation.isLogged actions (t.run actions session)) ∧
    (∀ (q : Query) (actions : List (Action Query.Step Query.Operation)),
      LogsExactly Query.Operation.isLogged actions (q.run actions session)) ∧
    (∀ (d : Delete) (actions : List (Action Delete.Step Delete.Operation)),
      loggedSql (recorded (d.run actions session)) =
        (handedOver (d.run actions session)).map Call.sql) ∧
    ∀ {σ Step Operation : Type} (apply : Step → σ → Except Overflow σ)
        (sql : σ → Except UnsupportedArgument String) (task : Operation → σ → Task)
        (isLogged : Operation → Bool) (actions : List (Action Step Operation)) (subject : σ),
      (∀ operation s,
        .use operation ∈ actions → (task operation s).isLogged = isLogged operation) →
      LogsExactly isLogged actions
        (reports apply sql (fun operation s => (task operation s).perform) actions subject
          session) := by
  refine ⟨?_, ?_, ?_, ?_⟩
  · intro t actions
    exact logsExactly _ _ (fun operation t => .table t operation)
      (fun operation t _ => Task.isLogged_table t operation) t session
  · intro q actions
    exact logsExactly _ _ (fun operation q => .query q operation)
      (fun operation q _ => Task.isLogged_query q operation) q session
  · intro d actions
    have hlogs : LogsExactly (fun _ => true) actions (d.run actions session) :=
      logsExactly _ _ (fun operation d => .delete d operation)
        (fun operation d _ => Task.isLogged_delete d operation) d session
    exact hlogs.complete_iff.2 (handedOverBy_false actions _)
  · intro σ Step Operation apply sql task isLogged actions subject hlogged
    exact logsExactly apply sql task hlogged subject session

/-- A table is read and then deleted from over one session, and the log has both statements. -/
theorem log_lacks_counts_only_users :
    let actions : List (Action Query.Step Table.Operation) :=
      [.use .get, .build (.condition .and (.equals "id" (.int 7))), .use .delete]
    loggedSql (recorded ((Table.onTable "users").run actions {})) =
      ["select * from users", "delete from users where id = 7"] := by
  intro actions
  obtain ⟨htable, -⟩ := log_lacks_counts_only {}
  exact ((htable (.onTable "users") actions).complete_iff.2 rfl).trans rfl

/-- Counting hands over a statement that the log lacks. -/
theorem count_leaves_no_statement_in_log :
    let run := (Query.onTable "users").run [.use .count] {}
    loggedSql (recorded run) = [] ∧
      (handedOver run).map Call.sql = ["select count(*) from users"] := by
  exact ⟨rfl, rfl⟩

end Run

end SqlStatement
