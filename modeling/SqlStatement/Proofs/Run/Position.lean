import SqlStatement.Run
import SqlStatement.Proofs.Fallible

/-!
# Positions in a run

A run has one report for each of its actions, at the same position, as long as no step overflows.

* `Run.stepsBefore` are the steps among the first actions of a run, and what they build is what the
  next operation uses.
* `Run.exists_of_reports_eq_used` finds, for a report of any run, the operation it reports on and
  the steps before it.
* `Run.exists_reportOf_of_use` finds, for an operation of any run, the session on which it is
  carried out.  What every action preserves holds of that session and the reports so far.
-/

namespace SqlStatement

namespace Run

variable {σ Step Operation : Type}

/-! ### Views of a run -/

def Report.calls : Report → List Call
  | .used _ calls _ => calls
  | .built _ | .overflowed _ => []

def Report.events : Report → List Event
  | .used _ _ events => events
  | .built _ | .overflowed _ => []

/-- The statements that are handed over during a run, in order. -/
def handedOver (reports : List Report) : List Call :=
  reports.flatMap Report.calls

theorem handedOver_concat (reports : List Report) (report : Report) :
    handedOver (reports ++ [report]) = handedOver reports ++ report.calls := by
  unfold handedOver
  rw [List.flatMap_append, List.flatMap_singleton]

/-- The step of an action that builds. -/
def Action.step? : Action Step Operation → Option Step
  | .build step => some step
  | .use _ => none

theorem reportOf_fst (computation : Access Outcome) (session : Session) :
    (reportOf computation session).1 =
      .used (computation session).1
        ((computation session).2.calls.drop session.calls.length)
        ((computation session).2.events.drop session.events.length) :=
  rfl

/-- The steps among the first actions of a run. -/
def stepsBefore (actions : List (Action Step Operation)) (i : Nat) : List Step :=
  (actions.take i).filterMap Action.step?

theorem stepsBefore_build (step : Step) (actions : List (Action Step Operation)) (i : Nat) :
    stepsBefore (.build step :: actions) (i + 1) = step :: stepsBefore actions i :=
  rfl

theorem stepsBefore_use (operation : Operation) (actions : List (Action Step Operation)) (i : Nat) :
    stepsBefore (.use operation :: actions) (i + 1) = stepsBefore actions i :=
  rfl

/-! ### Operations and their reports -/

/-- What a run uses at any time is what the steps before that time have built. -/
theorem exists_of_reports_eq_used
    {apply : Step → σ → Except Overflow σ}
    {sql : σ → Except UnsupportedArgument String}
    {perform : Operation → σ → Access Outcome}
    {actions : List (Action Step Operation)}
    {subject : σ}
    {session : Session}
    {i : Nat}
    {result : Except Failure Outcome}
    {calls : List Call}
    {events : List Event}
    (h : (reports apply sql perform actions subject session)[i]? =
      some (.used result calls events)) :
    ∃ operation reached before,
      (stepsBefore actions i).foldlM (fun s step => apply step s) subject = .ok reached ∧
      (reportOf (perform operation reached) before).1 = .used result calls events := by
  -- Building changes the subject and using changes the session, so both are general.
  induction actions generalizing subject session i with
  | nil =>
      simp [reports] at h
  | cons action actions ih =>
      cases action with
      | build step =>
          unfold reports at h
          split at h
          · rename_i next hnext
            cases i with
            | zero =>
                simp at h
            | succ i =>
                obtain ⟨operation, reached, before, hreached, hreport⟩ := ih h
                refine ⟨operation, reached, before, ?_, hreport⟩
                rw [stepsBefore_build, List.foldlM_cons, hnext]
                exact hreached
          · cases i <;> simp at h
      | use operation =>
          unfold reports at h
          cases i with
          | zero =>
              exact ⟨operation, subject, session, rfl, Option.some.inj h⟩
          | succ i =>
              obtain ⟨later, reached, before, hreached, hreport⟩ := ih h
              exact ⟨later, reached, before, hreached, hreport⟩

/-- An operation is reported on at its position, whatever the operations before it came to. -/
theorem exists_reportOf_of_use
    {apply : Step → σ → Except Overflow σ}
    (sql : σ → Except UnsupportedArgument String)
    {perform : Operation → σ → Access Outcome}
    {actions : List (Action Step Operation)}
    {subject reached : σ}
    {session : Session}
    {i : Nat}
    {operation : Operation}
    (Inv : List Report → Session → Prop)
    (done : List Report)
    (hstart : Inv done session)
    (hbuild : ∀ done session text, Inv done session → Inv (done ++ [.built text]) session)
    (huse : ∀ done session operation s,
      Inv done session →
      Inv (done ++ [(reportOf (perform operation s) session).1])
        (reportOf (perform operation s) session).2)
    (hoperation : actions[i]? = some (.use operation))
    (hreached :
      (stepsBefore actions i).foldlM (fun s step => apply step s) subject = .ok reached) :
    ∃ before,
      (reports apply sql perform actions subject session)[i]? =
        some (reportOf (perform operation reached) before).1 ∧
      Inv (done ++ (reports apply sql perform actions subject session).take i) before := by
  induction actions generalizing subject session i done with
  | nil =>
      simp at hoperation
  | cons action actions ih =>
      cases i with
      | zero =>
          obtain rfl : action = .use operation := by simpa using hoperation
          obtain rfl : subject = reached := Except.ok.inj hreached
          refine ⟨session, rfl, ?_⟩
          rw [List.take_zero, List.append_nil]
          exact hstart
      | succ i =>
          rw [List.getElem?_cons_succ] at hoperation
          cases action with
          | build step =>
              rw [stepsBefore_build, List.foldlM_cons] at hreached
              obtain ⟨next, hnext, hreached⟩ := Fallible.exists_of_bind_eq_ok hreached
              obtain ⟨before, hreport, hinv⟩ :=
                ih _ (hbuild done session (sql next) hstart) hoperation hreached
              refine ⟨before, ?_, ?_⟩
              · rw [reports, hnext]
                exact hreport
              · rw [reports, hnext, List.take_succ_cons, List.append_cons]
                exact hinv
          | use earlier =>
              rw [stepsBefore_use] at hreached
              obtain ⟨before, hreport, hinv⟩ :=
                ih _ (huse done session earlier subject hstart) hoperation hreached
              refine ⟨before, hreport, ?_⟩
              rw [reports, List.take_succ_cons, List.append_cons]
              exact hinv

end Run

end SqlStatement
