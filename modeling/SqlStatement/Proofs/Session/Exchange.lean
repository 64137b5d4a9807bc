import SqlStatement.Table

/-!
# Computations that hand over one statement

A computation of this library either fails without the database or hands over one statement, without
parameters, and reads the answer.  Both shapes are equations over every session, so they say all
that the computation does: its result, its call, the reply it takes and the records it leaves.

* `Access.IsRefusal` and `Access.IsExchange` are the two shapes, and no computation has both.
* `Access.Refuses` and `Access.Sends` forget the records and the reading of the answer.
* The lemmas on `Statement.query`, `Statement.queryFirst?`, `Statement.queryFirst` and
  `Delete.execute` say which of the two a statement makes of them.
-/

namespace SqlStatement

namespace Session

/-- One statement is handed over, and it reaches the database if the connection is there. -/
theorem calls_exchange
    (session : Session)
    (kind : CallKind)
    (sql : String)
    (parameters : List Cell) :
    (session.exchange kind sql parameters).2.calls =
      session.calls ++ [⟨kind, sql, parameters, session.isConnected⟩] := by
  unfold exchange
  split
  · split <;> rfl
  · rfl

theorem events_exchange
    (session : Session)
    (kind : CallKind)
    (sql : String)
    (parameters : List Cell) :
    (session.exchange kind sql parameters).2.events = session.events := by
  unfold exchange
  split
  · split <;> rfl
  · rfl

/-- An exchange does not look at the log. -/
theorem exchange_with_events
    (session : Session)
    (kind : CallKind)
    (sql : String)
    (parameters : List Cell)
    (events : List Event) :
    ({ session with events := events } : Session).exchange kind sql parameters =
      ((session.exchange kind sql parameters).1,
        { (session.exchange kind sql parameters).2 with events := events }) := by
  obtain ⟨replies, isConnected, calls, before⟩ := session
  cases isConnected
  · rfl
  · cases replies with
    | nil =>
        rfl
    | cons reply replies =>
        cases reply <;> rfl

end Session

namespace Access

variable {α β : Type}

/-- A computation that leaves records and fails without the database. -/
def IsRefusal (m : Access α) (log : List Event) (failure : Failure) : Prop :=
  ∀ session : Session,
    m session = (.error failure, { session with events := session.events ++ log })

/-- A computation that leaves records, hands over one statement and reads the answer. -/
def IsExchange
    (m : Access α)
    (log : List Event)
    (kind : CallKind)
    (sql : String)
    (read : Answer → Except Failure α) :
    Prop :=
  ∀ session : Session,
    m session =
      ((session.exchange kind sql []).1 >>= read,
        { (session.exchange kind sql []).2 with events := session.events ++ log })

/-- A computation that fails without the database. -/
def Refuses (m : Access α) (failure : Failure) : Prop :=
  ∃ log, m.IsRefusal log failure

/-- A computation that hands the database one statement. -/
def Sends (m : Access α) (kind : CallKind) (sql : String) : Prop :=
  ∃ log read, m.IsExchange log kind sql read

theorem Refuses.calls_eq
    {m : Access α}
    {failure : Failure}
    (h : m.Refuses failure)
    (session : Session) :
    (m session).2.calls = session.calls := by
  obtain ⟨log, h⟩ := h
  rw [h session]

theorem Sends.calls_eq
    {m : Access α}
    {kind : CallKind}
    {sql : String}
    (h : m.Sends kind sql)
    (session : Session) :
    (m session).2.calls = session.calls ++ [⟨kind, sql, [], session.isConnected⟩] := by
  obtain ⟨log, read, h⟩ := h
  rw [h session, ← Session.calls_exchange]

theorem Sends.not_refuses
    {m : Access α}
    {kind : CallKind}
    {sql : String}
    {failure : Failure}
    (h : m.Sends kind sql) :
    ¬m.Refuses failure := by
  intro hrefuses
  have hcalls := (h.calls_eq {}).symm.trans (hrefuses.calls_eq {})
  simp at hcalls

theorem Sends.unique
    {m : Access α}
    {kind kind' : CallKind}
    {sql sql' : String}
    (h : m.Sends kind sql)
    (h' : m.Sends kind' sql') :
    kind = kind' ∧ sql = sql' := by
  have hcalls := (h.calls_eq {}).symm.trans (h'.calls_eq {})
  simpa using hcalls

theorem Refuses.unique
    {m : Access α}
    {failure failure' : Failure}
    (h : m.Refuses failure)
    (h' : m.Refuses failure') :
    failure = failure' := by
  obtain ⟨log, h⟩ := h
  obtain ⟨log', h'⟩ := h'
  have hresult := congrArg Prod.fst ((h {}).symm.trans (h' {}))
  exact Except.error.inj hresult

/-! ### Building the two shapes -/

theorem bind_of_ok
    {m : Access α}
    {session after : Session}
    {a : α}
    (f : α → Access β)
    (h : m session = (.ok a, after)) :
    (m >>= f) session = f a after := by
  change ExceptT.bindCont f (m session).1 (m session).2 = _
  rw [h]
  rfl

theorem bind_of_error
    {m : Access α}
    {session after : Session}
    {failure : Failure}
    (f : α → Access β)
    (h : m session = (.error failure, after)) :
    (m >>= f) session = (.error failure, after) := by
  change ExceptT.bindCont f (m session).1 (m session).2 = _
  rw [h]
  rfl

theorem ofExcept_bind (result : Except Failure α) (f : α → Access β) :
    Access.ofExcept result >>= f =
      match result with
      | .ok a => f a
      | .error failure => Access.ofExcept (.error failure) := by
  funext session
  cases result with
  | ok a =>
      exact bind_of_ok f rfl
  | error failure =>
      exact bind_of_error f rfl

theorem IsRefusal.ofExcept (failure : Failure) :
    (Access.ofExcept (.error failure) : Access α).IsRefusal [] failure := by
  intro session
  rw [List.append_nil]
  rfl

theorem IsExchange.call (kind : CallKind) (sql : String) :
    (Access.call kind sql []).IsExchange [] kind sql .ok := by
  intro session
  have hresult :
      (session.exchange kind sql []).1 >>= Except.ok = (session.exchange kind sql []).1 := by
    cases (session.exchange kind sql []).1 <;> rfl
  rw [hresult, List.append_nil, ← Session.events_exchange session kind sql []]
  rfl

/-- The answer is read further by a computation that does without the database. -/
theorem IsExchange.bind
    {m : Access α}
    {log : List Event}
    {kind : CallKind}
    {sql : String}
    {read : Answer → Except Failure α}
    {f : α → Access β}
    {g : α → Except Failure β}
    (h : m.IsExchange log kind sql read)
    (hf : ∀ a, f a = Access.ofExcept (g a)) :
    (m >>= f).IsExchange log kind sql fun answer => read answer >>= g := by
  -- The computation fails in sending, in the first reading or in the second.
  intro session
  have hm := h session
  cases hanswer : (session.exchange kind sql []).1 with
  | error failure =>
      rw [hanswer] at hm
      exact bind_of_error f hm
  | ok answer =>
      rw [hanswer] at hm
      change m session = (read answer, _) at hm
      change _ = (read answer >>= g, _)
      cases hread : read answer with
      | error failure =>
          rw [hread] at hm
          exact bind_of_error f hm
      | ok a =>
          rw [hread] at hm
          rw [bind_of_ok f hm, hf]
          rfl

theorem IsExchange.map
    {m : Access α}
    {log : List Event}
    {kind : CallKind}
    {sql : String}
    {read : Answer → Except Failure α}
    (f : α → β)
    (h : m.IsExchange log kind sql read) :
    (f <$> m).IsExchange log kind sql fun answer => f <$> read answer := by
  simp only [map_eq_pure_bind]
  exact h.bind fun _ => rfl

theorem IsRefusal.bind
    {m : Access α}
    {log : List Event}
    {failure : Failure}
    (f : α → Access β)
    (h : m.IsRefusal log failure) :
    (m >>= f).IsRefusal log failure :=
  fun session => bind_of_error f (h session)

theorem IsRefusal.map
    {m : Access α}
    {log : List Event}
    {failure : Failure}
    (f : α → β)
    (h : m.IsRefusal log failure) :
    (f <$> m).IsRefusal log failure := by
  rw [map_eq_pure_bind]
  exact h.bind _

theorem IsExchange.log_bind
    {m : Access α}
    {log : List Event}
    {kind : CallKind}
    {sql : String}
    {read : Answer → Except Failure α}
    (event : Event)
    (h : m.IsExchange log kind sql read) :
    (Access.log event >>= fun _ => m).IsExchange (event :: log) kind sql read := by
  intro session
  have hlog : Access.log event session =
      (.ok (), { session with events := session.events ++ [event] }) := rfl
  rw [bind_of_ok _ hlog, h, Session.exchange_with_events]
  simp

theorem IsRefusal.log_bind
    {m : Access α}
    {log : List Event}
    {failure : Failure}
    (event : Event)
    (h : m.IsRefusal log failure) :
    (Access.log event >>= fun _ => m).IsRefusal (event :: log) failure := by
  intro session
  have hlog : Access.log event session =
      (.ok (), { session with events := session.events ++ [event] }) := rfl
  rw [bind_of_ok _ hlog, h]
  simp

/-! ### Reading answers -/

theorem IsExchange.rows (sql : String) :
    (Access.rows sql []).IsExchange [] .query sql fun answer => .ok answer.rows :=
  (IsExchange.call .query sql).bind fun _ => rfl

theorem IsExchange.firstRow? (sql : String) :
    (Access.firstRow? sql []).IsExchange [] .query sql fun answer => .ok answer.rows.head? :=
  (IsExchange.rows sql).bind fun _ => rfl

/-- The first row of an answer, or the failure that reports that there is none. -/
def readFirstRow (answer : Answer) : Except Failure Cell :=
  match answer.rows.head? with
  | some row => .ok row
  | none => .error (.notFound "Expected one row, got none")

theorem IsExchange.firstRow (sql : String) :
    (Access.firstRow sql []).IsExchange [] .query sql readFirstRow := by
  let g : Option Cell → Except Failure Cell
    | some row => .ok row
    | none => .error (.notFound "Expected one row, got none")
  refine IsExchange.bind (g := g) (IsExchange.firstRow? sql) fun row => ?_
  cases row <;> rfl

theorem IsExchange.affected (sql : String) :
    (Access.affected sql []).IsExchange [] .execute sql fun answer => .ok answer.affected :=
  (IsExchange.call .execute sql).bind fun _ => rfl

end Access

/-! ### Statements -/

namespace Statement

variable {σ α : Type} [Statement σ] {s : σ}

theorem announce_bind_of_ok
    {text : String}
    {log : List Event}
    {kind : CallKind}
    {read : Answer → Except Failure α}
    {f : String → Access α}
    (operation : Operation)
    (h : checkedSql s = .ok text)
    (hf : (f text).IsExchange log kind text read) :
    (announce operation s >>= f).IsExchange (.statement operation text :: log) kind text read := by
  have hannounce :
      announce operation s >>= f =
        Access.log (.statement operation text) >>= fun _ => f text := by
    unfold announce
    simp only [h, Access.ofExcept_bind, bind_assoc, pure_bind]
  rw [hannounce]
  exact hf.log_bind _

theorem announce_bind_of_error
    {failure : Failure}
    (operation : Operation)
    (f : String → Access α)
    (h : checkedSql s = .error failure) :
    (announce operation s >>= f).IsRefusal [] failure := by
  have hannounce : announce operation s = Access.ofExcept (.error failure) := by
    unfold announce
    rw [h, Access.ofExcept_bind]
  rw [hannounce]
  exact (Access.IsRefusal.ofExcept failure).bind f

theorem query_of_ok
    {text : String}
    (h : checkedSql s = .ok text) :
    (query s).IsExchange [.statement .query text] .query text fun answer => .ok answer.rows :=
  announce_bind_of_ok .query h (.rows text)

theorem queryFirst?_of_ok
    {text : String}
    (h : checkedSql s = .ok text) :
    (queryFirst? s).IsExchange [.statement .queryFirst text] .query text
      fun answer => .ok answer.rows.head? :=
  announce_bind_of_ok .queryFirst h (.firstRow? text)

theorem queryFirst_of_ok
    {text : String}
    (h : checkedSql s = .ok text) :
    (queryFirst s).IsExchange [.statement .queryOne text] .query text Access.readFirstRow :=
  announce_bind_of_ok .queryOne h (.firstRow text)

end Statement

namespace Query

variable {q : Query}

theorem checkedSql_of_ok
    {text : String}
    (h : q.sql = .ok text) :
    Statement.checkedSql q = .ok text := by
  change q.sql.mapError Failure.unsupportedArgument = _
  rw [h]
  rfl

theorem checkedSql_of_error
    {failure : UnsupportedArgument}
    (h : q.sql = .error failure) :
    Statement.checkedSql q = .error (.unsupportedArgument failure) := by
  change q.sql.mapError Failure.unsupportedArgument = _
  rw [h]
  rfl

end Query

namespace Delete

variable {d : Delete}

theorem execute_of_ok
    {text : String}
    (h : Statement.checkedSql d = .ok text) :
    d.execute.IsExchange [.statement .execute text] .execute text
      fun answer => .ok answer.affected :=
  Statement.announce_bind_of_ok .execute h (.affected text)

theorem execute_of_error
    {failure : Failure}
    (h : Statement.checkedSql d = .error failure) :
    d.execute.IsRefusal [] failure :=
  Statement.announce_bind_of_error .execute _ h

end Delete

/-! ### Tables -/

namespace Table

variable {t : Table}

theorem delete_of_toDelete_eq_error
    {failure : Failure}
    (h : t.toDelete = .error failure) :
    t.delete.IsRefusal [] failure := by
  have hdelete : t.delete = Access.ofExcept (.error failure) := by
    unfold delete
    rw [h, Access.ofExcept_bind]
  rw [hdelete]
  exact .ofExcept failure

theorem delete_of_toDelete_eq_ok
    {d : Delete}
    (h : t.toDelete = .ok d) :
    t.delete = Access.log (.tableOperation .delete d.sql) >>= fun _ => d.execute := by
  unfold delete
  rw [h, Access.ofExcept_bind]

end Table

end SqlStatement
