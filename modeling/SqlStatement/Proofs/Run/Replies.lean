import SqlStatement.Proofs.Run.Position
import SqlStatement.Proofs.Run.Request
import SqlStatement.Proofs.Session.Script

/-!
# One statement and one reply for each operation

An operation of a run hands over at most one statement.  It fails before that, and then takes no
reply, or it hands over the statement that was written for it and takes the reply that is next after
those of the statements before.

* `Request.IsServed` says what becomes of a request whose statement has a given number.
* `Access.Fulfils.served` is the step: a session that follows a script serves the request and goes
  on following.
* `Run.exists_report_served` is the run, by induction on the actions, and
  `Run.operations_take_replies_in_order` the main result.
-/

namespace SqlStatement

/-! ### One operation -/

/-- What becomes of a request under a script, when so many statements were handed over before. -/
structure Request.IsServed
    (request : Request)
    (script : List Reply)
    (number : Nat)
    (result : Except Failure Outcome)
    (calls : List Call) :
    Prop where
  refused :
    ∀ failure, request.sql = .error failure → result = .error failure ∧ calls = []
  sent :
    ∀ sql,
      request.sql = .ok sql →
      calls = [⟨request.reading.kind, sql, [], Session.connectedAt script number⟩] ∧
      result = Session.scripted script number >>= request.reading.read
  notFound_iff :
    ∀ sql,
      request.sql = .ok sql →
      ((∃ detail, result = .error (.notFound detail)) ↔
        request.reading.needsRow = true ∧
          ∃ answer, Session.scripted script number = .ok answer ∧ answer.rows = [])

theorem Failure.ofDatabase_ne_notFound (e : DatabaseError) (detail : String) :
    Failure.ofDatabase e ≠ .notFound detail := by
  unfold Failure.ofDatabase
  split
  · simp
  · split
    · simp
    · split <;> simp

/-- No reply of the database is the failure that reports a missing row. -/
theorem Session.scripted_ne_notFound (script : List Reply) (number : Nat) (detail : String) :
    scripted script number ≠ .error (.notFound detail) := by
  unfold scripted
  split
  · split <;> simp [Failure.ofDatabase_ne_notFound]
  · simp

theorem Reading.exists_notFound_iff
    (reading : Reading)
    (script : List Reply)
    (number : Nat) :
    (∃ detail, Session.scripted script number >>= reading.read = .error (.notFound detail)) ↔
      reading.needsRow = true ∧
        ∃ answer, Session.scripted script number = .ok answer ∧ answer.rows = [] := by
  cases hscripted : Session.scripted script number with
  | error failure =>
      have hne : ∀ detail, failure ≠ .notFound detail := fun detail h =>
        Session.scripted_ne_notFound script number detail (h ▸ hscripted)
      constructor
      · rintro ⟨detail, h⟩
        exact absurd (Except.error.inj h) (hne detail)
      · rintro ⟨-, answer, h, -⟩
        cases h
  | ok answer =>
      refine (reading.read_eq_notFound_iff answer).trans (and_congr_right fun _ => ?_)
      simp

theorem Access.Fulfils.served
    {m : Access Outcome}
    {request : Request}
    {session : Session}
    {script : List Reply}
    (hm : m.Fulfils request)
    (h : session.Follows script) :
    (m session).2.Follows script ∧
      ∃ calls,
        (m session).2.calls = session.calls ++ calls ∧
        request.IsServed script session.calls.length (m session).1 calls := by
  cases hsql : request.sql with
  | error failure =>
      obtain ⟨log, -, hrefusal⟩ := hm.refuses failure hsql
      rw [hrefusal session]
      refine ⟨h.with_events _, [], (List.append_nil _).symm, ?_, ?_, ?_⟩
      · intro failure' hsql'
        obtain rfl : failure = failure' := Except.error.inj (hsql.symm.trans hsql')
        exact ⟨rfl, rfl⟩
      · intro sql hsql'
        simp [hsql] at hsql'
      · intro sql hsql'
        simp [hsql] at hsql'
  | ok sql =>
      obtain ⟨log, -, hexchange⟩ := hm.sends sql hsql
      rw [hexchange session]
      refine ⟨(h.exchange _ _ _).with_events _, _, session.calls_exchange _ _ _, ?_, ?_, ?_⟩
      · intro failure hsql'
        simp [hsql] at hsql'
      · intro sql' hsql'
        obtain rfl : sql = sql' := Except.ok.inj (hsql.symm.trans hsql')
        rw [← h.isConnected_eq, ← h.exchange_fst request.reading.kind sql []]
        exact ⟨rfl, rfl⟩
      · intro sql' _
        rw [h.exchange_fst]
        exact request.reading.exists_notFound_iff script _

theorem Task.served
    {session : Session}
    {script : List Reply}
    (task : Task)
    (h : session.Follows script) :
    (task.perform session).2.Follows script ∧
      ∃ calls,
        (task.perform session).2.calls = session.calls ++ calls ∧
        ∀ request,
          task.request? = some request →
          request.IsServed script session.calls.length (task.perform session).1 calls := by
  cases hrequest : task.request? with
  | none =>
      obtain ⟨outcome, hperform⟩ := perform_of_request?_eq_none hrequest session
      rw [hperform]
      exact ⟨h, [], (List.append_nil _).symm, by simp⟩
  | some request =>
      obtain ⟨hfollows, calls, hcalls, hserved⟩ := (perform_fulfils hrequest).served h
      refine ⟨hfollows, calls, hcalls, fun request' hrequest' => ?_⟩
      obtain rfl := Option.some.inj hrequest'
      exact hserved

/-! ### Runs -/

namespace Run

/-- The report at a position says that a request is served, and it is the next one of the run. -/
def ServesAt (reports : List Report) (script : List Reply) (i : Nat) (request : Request) : Prop :=
  ∃ result calls events,
    reports[i]? = some (.used result calls events) ∧
    request.IsServed script (handedOver (reports.take i)).length result calls

/-- The operations of a run may use one table, query or deletion or any number of them. -/
theorem servesAt
    {σ Step Operation : Type}
    {apply : Step → σ → Except Overflow σ}
    {sql : σ → Except UnsupportedArgument String}
    (task : Operation → σ → Task)
    {actions : List (Action Step Operation)}
    {subject reached : σ}
    {script : List Reply}
    {i : Nat}
    {operation : Operation}
    {request : Request}
    (hoperation : actions[i]? = some (.use operation))
    (hreached :
      (stepsBefore actions i).foldlM (fun s step => apply step s) subject = .ok reached)
    (hrequest : (task operation reached).request? = some request) :
    ServesAt
      (reports apply sql (fun operation s => (task operation s).perform) actions subject
        { replies := script })
      script i request := by
  let Inv (done : List Report) (session : Session) : Prop :=
    session.Follows script ∧ session.calls.length = (handedOver done).length
  have hbuild : ∀ done session text, Inv done session → Inv (done ++ [.built text]) session := by
    rintro done session text ⟨hfollows, hnumber⟩
    refine ⟨hfollows, ?_⟩
    rw [handedOver_concat, Report.calls, List.append_nil]
    exact hnumber
  have huse : ∀ done session operation s,
      Inv done session →
      Inv (done ++ [(reportOf (task operation s).perform session).1])
        (reportOf (task operation s).perform session).2 := by
    rintro done session operation s ⟨hfollows, hnumber⟩
    obtain ⟨hafter, calls, hcalls, -⟩ := (task operation s).served hfollows
    refine ⟨hafter, ?_⟩
    change ((task operation s).perform session).2.calls.length = _
    rw [handedOver_concat, reportOf_fst, Report.calls, hcalls, List.drop_left, List.length_append,
      List.length_append, hnumber]
  obtain ⟨before, hreport, hfollows, hnumber⟩ :=
    exists_reportOf_of_use sql Inv [] ⟨.start script, rfl⟩ hbuild huse hoperation hreached
  obtain ⟨-, calls, hcalls, hserved⟩ := (task operation reached).served hfollows
  refine ⟨((task operation reached).perform before).1, calls,
    ((task operation reached).perform before).2.events.drop before.events.length, ?_, ?_⟩
  · rw [hreport, reportOf_fst, hcalls, List.drop_left]
  · rw [List.nil_append] at hnumber
    rw [← hnumber]
    exact hserved request hrequest

/-- Every operation of a run on a table, on a query, on a deletion or on several of them that share
a session is served as the next one: it fails without a call and takes no reply, or it makes one
call, without parameters and with the text that was written for it, and takes the reply that comes
after those of the calls before. -/
theorem operations_take_replies_in_order (script : List Reply) :
    (∀ (t reached : Table) (actions : List (Action Query.Step Table.Operation)) (i : Nat)
        (operation : Table.Operation) (request : Request),
      actions[i]? = some (.use operation) →
      (stepsBefore actions i).foldlM (fun t step => Table.applyStep step t) t = .ok reached →
      reached.request? operation = some request →
      ServesAt (t.run actions { replies := script }) script i request) ∧
    (∀ (q reached : Query) (actions : List (Action Query.Step Query.Operation)) (i : Nat)
        (operation : Query.Operation),
      actions[i]? = some (.use operation) →
      (stepsBefore actions i).foldlM (fun q step => step.apply q) q = .ok reached →
      ServesAt (q.run actions { replies := script }) script i (reached.request operation)) ∧
    (∀ (d reached : Delete) (actions : List (Action Delete.Step Delete.Operation)) (i : Nat)
        (operation : Delete.Operation),
      actions[i]? = some (.use operation) →
      (stepsBefore actions i).foldlM (fun d step => step.apply d) d = .ok reached →
      ServesAt (d.run actions { replies := script }) script i (reached.request operation)) ∧
    ∀ {σ Step Operation : Type} (apply : Step → σ → Except Overflow σ)
        (sql : σ → Except UnsupportedArgument String) (task : Operation → σ → Task)
        (subject reached : σ) (actions : List (Action Step Operation)) (i : Nat)
        (operation : Operation) (request : Request),
      actions[i]? = some (.use operation) →
      (stepsBefore actions i).foldlM (fun s step => apply step s) subject = .ok reached →
      (task operation reached).request? = some request →
      ServesAt
        (reports apply sql (fun operation s => (task operation s).perform) actions subject
          { replies := script })
        script i request := by
  refine ⟨?_, ?_, ?_, ?_⟩
  · intro t reached actions i operation request hoperation hreached hrequest
    exact servesAt (fun operation t => .table t operation) hoperation hreached hrequest
  · intro q reached actions i operation hoperation hreached
    exact servesAt (fun operation q => .query q operation) hoperation hreached rfl
  · intro d reached actions i operation hoperation hreached
    exact servesAt (fun operation d => .delete d operation) hoperation hreached rfl
  · intro σ Step Operation apply sql task subject reached actions i operation request hoperation
      hreached hrequest
    exact servesAt task hoperation hreached hrequest

/-- A refused deletion takes no reply, so the count gets the first reply and the row the second. -/
theorem operations_take_replies_in_order_users :
    let actions : List (Action Query.Step Table.Operation) :=
      [.use .delete, .use .count, .build (.condition .and (.equals "id" (.int 7))), .use .first]
    let script : List Reply := [.answer (.ofRows [.int8 3]), .answer (.ofRows [.text "Ann"])]
    ∃ events,
      ((Table.onTable "users").run actions { replies := script })[3]? =
        some (.used (.ok (.row (some (.text "Ann"))))
          [{ kind := .query, sql := "select * from users where id = 7 limit 1" }] events) := by
  intro actions script
  obtain ⟨htable, -⟩ := operations_take_replies_in_order script
  obtain ⟨result, calls, events, hreport, hserved⟩ :=
    htable (.onTable "users") _ actions 3 .first _ rfl rfl rfl
  obtain ⟨rfl, rfl⟩ := hserved.sent "select * from users where id = 7 limit 1" rfl
  exact ⟨events, hreport⟩

end Run

end SqlStatement
