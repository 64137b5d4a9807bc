import SqlStatement.Table

/-!
# Runs

A run interleaves steps that build a statement with operations that use the session.  Each of them
has one report, and an overflow ends the run.

* `Run.reports` is the generic run, over what is built and over its steps and operations.
* `Table.run`, `Query.run`, `Delete.run` and `Session.run` are the four kinds of run.
-/

namespace SqlStatement

/-- The result of an operation. -/
inductive Outcome where
  | rows (cells : List Cell)
  | row (cell : Option Cell)
  | number (n : Int)
  | text (value : String)
deriving DecidableEq, Inhabited

namespace Run

/-- A step or an operation of a run. -/
inductive Action (Step Operation : Type) where
  | build (step : Step)
  | use (operation : Operation)

/-- What an action of a run shows. -/
inductive Report where
  /-- The text of the statement after a step. -/
  | built (sql : Except UnsupportedArgument String)
  /-- The result of an operation, with the statements handed over and the records left during it. -/
  | used (result : Except Failure Outcome) (calls : List Call) (events : List Event)
  /-- The overflow of a step. -/
  | overflowed (failure : Overflow)
deriving Inhabited

/-- The report of a computation, with the session after it. -/
def reportOf (computation : Access Outcome) (session : Session) : Report × Session :=
  let (result, after) := computation session
  (.used result
    (after.calls.drop session.calls.length)
    (after.events.drop session.events.length),
   after)

variable {σ Step Operation : Type}

/-- The reports of a run. -/
def reports
    (apply : Step → σ → Except Overflow σ)
    (sql : σ → Except UnsupportedArgument String)
    (perform : Operation → σ → Access Outcome) :
    List (Action Step Operation) → σ → Session → List Report
  | [], _, _ => []
  | .build step :: actions, subject, session =>
    match apply step subject with
    | .ok next => .built (sql next) :: reports apply sql perform actions next session
    | .error failure => [.overflowed failure]
  | .use operation :: actions, subject, session =>
    let (report, after) := reportOf (perform operation subject) session
    report :: reports apply sql perform actions subject after

end Run

/-- An operation of a table. -/
inductive Table.Operation where
  | get
  | first
  | find (key : Argument)
  | count
  | delete
  | primaryKey
  /-- Sends a statement over the session of the table. -/
  | rows (sql : String)
deriving Inhabited

namespace Table

/-- A table after a step of its query. -/
def applyStep (step : Query.Step) (t : Table) : Except Overflow Table := do
  let query ← step.apply t.query
  return { t with query := query }

/-- The computation of an operation. -/
def perform : Operation → Table → Access Outcome
  | .get, t => .rows <$> t.get
  | .first, t => .row <$> t.first
  | .find key, t => .row <$> t.find key
  | .count, t => (fun n => .number n.toInt) <$> t.count
  | .delete, t => (fun n => .number n) <$> t.delete
  | .primaryKey, t => pure (.text t.primaryKey)
  | .rows sql, _ => .rows <$> Access.rows sql []

/-- The reports of a run on a table. -/
def run
    (t : Table)
    (actions : List (Run.Action Query.Step Operation))
    (session : Session) :
    List Run.Report :=
  Run.reports applyStep (fun t => t.query.sql) perform actions t session

end Table

/-- An operation of a query. -/
inductive Query.Operation where
  | query
  | queryFirst?
  | queryFirst
  | count
deriving DecidableEq, Inhabited

namespace Query

/-- The computation of an operation. -/
def perform : Operation → Query → Access Outcome
  | .query, q => .rows <$> Statement.query q
  | .queryFirst?, q => .row <$> Statement.queryFirst? q
  | .queryFirst, q => (fun cell => .row (some cell)) <$> Statement.queryFirst q
  | .count, q => (fun n => .number n.toInt) <$> q.count

/-- The reports of a run on a query. -/
def run
    (q : Query)
    (actions : List (Run.Action Step Operation))
    (session : Session) :
    List Run.Report :=
  Run.reports Step.apply sql perform actions q session

end Query

/-- An operation of a deletion. -/
inductive Delete.Operation where
  | query
  | queryFirst?
  | queryFirst
  | execute
deriving DecidableEq, Inhabited

namespace Delete

/-- The computation of an operation. -/
def perform : Operation → Delete → Access Outcome
  | .query, d => .rows <$> Statement.query d
  | .queryFirst?, d => .row <$> Statement.queryFirst? d
  | .queryFirst, d => (fun cell => .row (some cell)) <$> Statement.queryFirst d
  | .execute, d => (fun n => .number n) <$> d.execute

/-- The reports of a run on a deletion. -/
def run
    (d : Delete)
    (actions : List (Run.Action Step Operation))
    (session : Session) :
    List Run.Report :=
  Run.reports Step.apply sql perform actions d session

end Delete

/-- An operation of a session by itself. -/
inductive Session.Operation where
  | rows (sql : String)
  | firstRow? (sql : String)
  | firstRow (sql : String)
  | affected (sql : String)
deriving DecidableEq, Inhabited

namespace Session

/-- The computation of an operation. -/
def perform : Operation → Access Outcome
  | .rows sql => .rows <$> Access.rows sql []
  | .firstRow? sql => .row <$> Access.firstRow? sql []
  | .firstRow sql => (fun cell => .row (some cell)) <$> Access.firstRow sql []
  | .affected sql => (fun n => .number n) <$> Access.affected sql []

/-- The reports of a run on a session. -/
def run (session : Session) : List Operation → List Run.Report
  | [] => []
  | operation :: operations =>
    let (report, after) := Run.reportOf (perform operation) session
    report :: run after operations

end Session

end SqlStatement
