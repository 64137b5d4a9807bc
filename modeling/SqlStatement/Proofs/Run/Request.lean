import SqlStatement.Run
import SqlStatement.Proofs.Session.Exchange

/-!
# What operations ask for

An operation on a table, a query or a deletion comes down to a request: a statement, if there is one
that may run, and what is read from the answer to it.  A request is data, so it says what an
operation does without saying how.

* `Reading.read` is what each kind of request reads from an answer.
* `Query.request`, `Delete.request` and `Table.request?` say what an operation asks for, the latter
  with the single exception of asking a table for its key.
* `Access.Fulfils` says that a computation does what a request asks for and nothing else, and
  `Task.perform_fulfils` that every operation does.
-/

namespace SqlStatement

/-! ### Requests -/

/-- What is read from the answer to a statement. -/
inductive Reading where
  | allRows
  | firstRow?
  | firstRow
  | count
  | affected
deriving DecidableEq

namespace Reading

/-- How the statement is sent. -/
def kind : Reading → CallKind
  | allRows | firstRow? | firstRow | count => .query
  | affected => .execute

/-- The result that is read from the answer. -/
def read : Reading → Answer → Except Failure Outcome
  | allRows, answer => .ok (.rows answer.rows)
  | firstRow?, answer => .ok (.row answer.rows.head?)
  | firstRow, answer =>
    match answer.rows with
    | [] => .error (.notFound "Expected one row, got none")
    | row :: _ => .ok (.row (some row))
  | count, answer =>
    match answer.rows with
    | [] => .error (.notFound "Expected one row, got none")
    | .int8 n :: _ => .ok (.number n.toInt)
    | _ :: _ => .error (.decode "count" none)
  | affected, answer => .ok (.number answer.affected)

/-- Whether an answer without rows is a failure. -/
def needsRow : Reading → Bool
  | firstRow | count => true
  | allRows | firstRow? | affected => false

theorem read_eq_notFound_iff (reading : Reading) (answer : Answer) :
    (∃ detail, reading.read answer = .error (.notFound detail)) ↔
      reading.needsRow = true ∧ answer.rows = [] := by
  obtain ⟨rows, affected⟩ := answer
  cases reading with
  | allRows | firstRow? | affected =>
      simp [read, needsRow]
  | firstRow =>
      cases rows <;> simp [read, needsRow]
  | count =>
      cases rows with
      | nil =>
          simp [read, needsRow]
      | cons cell rows =>
          cases cell <;> simp [read, needsRow]

end Reading

/-- A statement, unless it cannot be written or is refused, and what is read from the answer. -/
structure Request where
  sql : Except Failure String
  reading : Reading
  /-- Whether the statement is left in the log when it is handed over. -/
  isLogged : Bool := true

/-- What an operation of a query asks for; counting leaves nothing in the log. -/
def Query.request (q : Query) : Operation → Request
  | .query => { sql := Statement.checkedSql q, reading := .allRows }
  | .queryFirst? => { sql := Statement.checkedSql q, reading := .firstRow? }
  | .queryFirst => { sql := Statement.checkedSql q, reading := .firstRow }
  | .count =>
    { sql := q.countSql.mapError .unsupportedArgument, reading := .count, isLogged := false }

/-- What an operation of a deletion asks for. -/
def Delete.request (d : Delete) : Operation → Request
  | .query => { sql := Statement.checkedSql d, reading := .allRows }
  | .queryFirst? => { sql := Statement.checkedSql d, reading := .firstRow? }
  | .queryFirst => { sql := Statement.checkedSql d, reading := .firstRow }
  | .execute => { sql := Statement.checkedSql d, reading := .affected }

/-- What an operation of a table asks for, if it asks for anything. -/
def Table.request? (t : Table) : Operation → Option Request
  | .get => some (t.query.request .query)
  | .first => some (t.firstQuery.request .queryFirst?)
  | .find key => some ((t.findQuery key).request .queryFirst?)
  | .count => some (t.query.request .count)
  | .delete => some { sql := t.toDelete >>= Statement.checkedSql, reading := .affected }
  | .primaryKey => none
  | .rows sql => some { sql := .ok sql, reading := .allRows, isLogged := false }

/-- An operation with the table, the query or the deletion on which it is carried out. -/
inductive Task where
  | table (t : Table) (operation : Table.Operation)
  | query (q : Query) (operation : Query.Operation)
  | delete (d : Delete) (operation : Delete.Operation)

namespace Task

/-- The computation of the operation. -/
def perform : Task → Access Outcome
  | table t operation => t.perform operation
  | query q operation => q.perform operation
  | delete d operation => d.perform operation

/-- What the operation asks for, if it asks for anything. -/
def request? : Task → Option Request
  | table t operation => t.request? operation
  | query q operation => some (q.request operation)
  | delete d operation => some (d.request operation)

end Task

/-! ### Fulfilling requests -/

/-- The text of a statement that is about to be handed over, if the record is of one. -/
def Event.handedSql? : Event → Option String
  | .statement _ sql => some sql
  | .tableOperation _ _ => none

/-- The statements in the log. -/
def loggedSql (events : List Event) : List String :=
  events.filterMap Event.handedSql?

/-- A computation that does what is asked for and nothing else. -/
structure Access.Fulfils (m : Access Outcome) (request : Request) : Prop where
  refuses :
    ∀ failure,
      request.sql = .error failure →
      ∃ log, loggedSql log = [] ∧ m.IsRefusal log failure
  sends :
    ∀ sql,
      request.sql = .ok sql →
      ∃ log,
        loggedSql log = (if request.isLogged then [sql] else []) ∧
        m.IsExchange log request.reading.kind sql request.reading.read

namespace Access

theorem IsExchange.congr_read
    {α : Type}
    {m : Access α}
    {log : List Event}
    {kind : CallKind}
    {sql : String}
    {read read' : Answer → Except Failure α}
    (h : m.IsExchange log kind sql read)
    (hread : ∀ answer, read answer = read' answer) :
    m.IsExchange log kind sql read' :=
  funext hread ▸ h

/-- A trace of an operation is no statement in the log. -/
theorem Fulfils.log_bind
    {m : Access Outcome}
    {request : Request}
    (h : m.Fulfils request)
    (operation : Operation)
    (outcome : Except UnsupportedArgument String) :
    (Access.log (.tableOperation operation outcome) >>= fun _ => m).Fulfils request where
  refuses failure hsql := by
    obtain ⟨log, hlog, hrefusal⟩ := h.refuses failure hsql
    exact ⟨.tableOperation operation outcome :: log, hlog, hrefusal.log_bind _⟩
  sends sql hsql := by
    obtain ⟨log, hlog, hexchange⟩ := h.sends sql hsql
    exact ⟨.tableOperation operation outcome :: log, hlog, hexchange.log_bind _⟩

end Access

namespace Statement

open Access

variable {σ : Type} [Statement σ]

theorem query_fulfils (s : σ) :
    (Outcome.rows <$> query s).Fulfils { sql := checkedSql s, reading := .allRows } where
  refuses _ h := ⟨[], rfl, (announce_bind_of_error _ _ h).map _⟩
  sends _ h := ⟨_, rfl, (query_of_ok h).map _⟩

theorem queryFirst?_fulfils (s : σ) :
    (Outcome.row <$> queryFirst? s).Fulfils { sql := checkedSql s, reading := .firstRow? } where
  refuses _ h := ⟨[], rfl, (announce_bind_of_error _ _ h).map _⟩
  sends _ h := ⟨_, rfl, (queryFirst?_of_ok h).map _⟩

theorem queryFirst_fulfils (s : σ) :
    ((fun cell => Outcome.row (some cell)) <$> queryFirst s).Fulfils
      { sql := checkedSql s, reading := .firstRow } where
  refuses _ h := ⟨[], rfl, (announce_bind_of_error _ _ h).map _⟩
  sends _ h := by
    refine ⟨_, rfl, ((queryFirst_of_ok h).map _).congr_read fun answer => ?_⟩
    obtain ⟨rows, affected⟩ := answer
    cases rows <;> rfl

end Statement

namespace Query

theorem count_of_ok
    {q : Query}
    {text : String}
    (h : q.countSql.mapError Failure.unsupportedArgument = .ok text) :
    q.count.IsExchange [] .query text fun answer => Access.readFirstRow answer >>= Cell.count := by
  have hcount :
      q.count = Access.firstRow text [] >>= fun row => Access.ofExcept row.count := by
    unfold count
    rw [Access.ofSql, h, Access.ofExcept_bind]
  rw [hcount]
  exact (Access.IsExchange.firstRow text).bind fun _ => rfl

theorem count_of_error
    {q : Query}
    {failure : Failure}
    (h : q.countSql.mapError Failure.unsupportedArgument = .error failure) :
    q.count.IsRefusal [] failure := by
  have hcount : q.count = Access.ofExcept (.error failure) := by
    unfold count
    rw [Access.ofSql, h, Access.ofExcept_bind]
  rw [hcount]
  exact .ofExcept failure

theorem count_fulfils (q : Query) :
    ((fun n => Outcome.number n.toInt) <$> q.count).Fulfils (q.request .count) where
  refuses _ h := ⟨[], rfl, (count_of_error h).map _⟩
  sends _ h := by
    refine ⟨[], rfl, ((count_of_ok h).map _).congr_read fun answer => ?_⟩
    obtain ⟨rows, affected⟩ := answer
    cases rows with
    | nil =>
        rfl
    | cons cell rows =>
        cases cell <;> rfl

theorem perform_fulfils (q : Query) (operation : Operation) :
    (perform operation q).Fulfils (q.request operation) := by
  cases operation with
  | query =>
      exact Statement.query_fulfils q
  | queryFirst? =>
      exact Statement.queryFirst?_fulfils q
  | queryFirst =>
      exact Statement.queryFirst_fulfils q
  | count =>
      exact q.count_fulfils

end Query

namespace Delete

theorem execute_fulfils (d : Delete) :
    (perform .execute d).Fulfils (d.request .execute) where
  refuses _ h := ⟨[], rfl, ((execute_of_error h).bind _).map _⟩
  sends _ h := by
    have hcount : ∀ n : Nat, (pure ↑n : Access Int) = Access.ofExcept (.ok ↑n) := fun _ => rfl
    exact ⟨_, rfl, ((execute_of_ok h).bind hcount).map _⟩

theorem perform_fulfils (d : Delete) (operation : Operation) :
    (perform operation d).Fulfils (d.request operation) := by
  cases operation with
  | query =>
      exact Statement.query_fulfils d
  | queryFirst? =>
      exact Statement.queryFirst?_fulfils d
  | queryFirst =>
      exact Statement.queryFirst_fulfils d
  | execute =>
      exact d.execute_fulfils

end Delete

namespace Table

variable (t : Table)

theorem perform_get :
    perform .get t =
      Access.log (.tableOperation .get t.query.sql) >>= fun _ => t.query.perform .query :=
  map_bind _ _ _

theorem perform_first :
    perform .first t =
      Access.log (.tableOperation .first t.firstQuery.sql) >>= fun _ =>
        t.firstQuery.perform .queryFirst? :=
  map_bind _ _ _

theorem perform_find (key : Argument) :
    perform (.find key) t =
      Access.log (.tableOperation .find (t.findQuery key).sql) >>= fun _ =>
        (t.findQuery key).perform .queryFirst? :=
  map_bind _ _ _

theorem perform_count :
    perform .count t =
      Access.log (.tableOperation .count t.query.countSql) >>= fun _ => t.query.perform .count :=
  map_bind _ _ _

theorem perform_delete_of_ok
    {d : Delete}
    (h : t.toDelete = .ok d) :
    perform .delete t =
      Access.log (.tableOperation .delete d.sql) >>= fun _ => d.perform .execute := by
  rw [perform, delete_of_toDelete_eq_ok h, bind_assoc, map_bind]
  rfl

theorem perform_delete_fulfils_of_error
    {failure : Failure}
    (h : t.toDelete = .error failure) :
    (perform .delete t).Fulfils { sql := .error failure, reading := .affected } where
  refuses _ hsql := by
    obtain rfl := Except.error.inj hsql
    exact ⟨[], rfl, ((delete_of_toDelete_eq_error h).bind _).map _⟩
  sends _ hsql := by
    simp at hsql

theorem perform_fulfils
    {operation : Operation}
    {request : Request}
    (h : t.request? operation = some request) :
    (perform operation t).Fulfils request := by
  cases operation with
  | get =>
      obtain rfl := Option.some.inj h
      rw [perform_get]
      exact (Query.perform_fulfils _ _).log_bind _ _
  | first =>
      obtain rfl := Option.some.inj h
      rw [perform_first]
      exact (Query.perform_fulfils _ _).log_bind _ _
  | find key =>
      obtain rfl := Option.some.inj h
      rw [perform_find]
      exact (Query.perform_fulfils _ _).log_bind _ _
  | count =>
      obtain rfl := Option.some.inj h
      rw [perform_count]
      exact (Query.perform_fulfils _ _).log_bind _ _
  | delete =>
      obtain rfl := Option.some.inj h
      cases hdelete : t.toDelete with
      | error failure =>
          exact t.perform_delete_fulfils_of_error hdelete
      | ok d =>
          rw [t.perform_delete_of_ok hdelete]
          exact (d.perform_fulfils .execute).log_bind _ _
  | primaryKey =>
      simp [request?] at h
  | rows sql =>
      obtain rfl := Option.some.inj h
      constructor
      · intro failure hsql
        simp at hsql
      · intro text hsql
        obtain rfl : sql = text := Except.ok.inj hsql
        exact ⟨[], rfl, (Access.IsExchange.rows sql).map _⟩

end Table

namespace Task

variable {task : Task}

theorem perform_fulfils
    {request : Request}
    (h : task.request? = some request) :
    task.perform.Fulfils request := by
  cases task with
  | table t operation =>
      exact t.perform_fulfils h
  | query q operation =>
      obtain rfl := Option.some.inj h
      exact q.perform_fulfils operation
  | delete d operation =>
      obtain rfl := Option.some.inj h
      exact d.perform_fulfils operation

/-- Asking a table for its key does not touch the session. -/
theorem perform_of_request?_eq_none
    (h : task.request? = none)
    (session : Session) :
    ∃ outcome, task.perform session = (.ok outcome, session) := by
  cases task with
  | table t operation =>
      cases operation with
      | primaryKey =>
          exact ⟨.text t.primaryKey, rfl⟩
      | get | first | find _ | count | delete | rows _ =>
          simp [request?, Table.request?] at h
  | query q operation | delete d operation =>
      simp [request?] at h

end Task

end SqlStatement
