import SqlStatement.Condition
import SqlStatement.Proofs.Fallible

/-!
# The text of a condition

* `Condition.sql_of_listText?` and `Condition.sql_of_not_isListOperator` say what a condition with
  an operator is written as.
* `Condition.sql_eq_error_iff` says when a condition cannot be written.
-/

namespace SqlStatement.Condition

open Fallible

variable {c : Condition}

theorem isListOperator_iff (operator : String) :
    isListOperator operator = true ↔ operator = "in" ∨ operator = "not in" := by
  simp [isListOperator]

theorem sql_of_argumentSql
    {argument : String}
    (hne : c.operator ≠ "")
    (h : c.argumentSql = .ok argument) :
    c.sql = .ok (c.field ++ " " ++ c.operator ++ " " ++ argument) := by
  rw [sql, h]
  exact if_neg hne

/-- The right-hand side is the list text between parentheses or the plain text. -/
theorem argumentSql_eq_ok_iff (c : Condition) (argument : String) :
    c.argumentSql = .ok argument ↔
      if isListOperator c.operator then
        ∃ list, c.argument.listText? = some list ∧ argument = "(" ++ list ++ ")"
      else
        argument = c.argument.plainText := by
  unfold argumentSql
  split
  case isTrue =>
    cases c.argument.listText? <;> simp [eq_comm]
  case isFalse =>
    simp [eq_comm]

/-- Whether a condition is written, and how, depends on the two texts of its argument only. -/
theorem sql_eq_ok_of_argument_eq
    {a b : Argument}
    {field operator text : String}
    (hlist : a.listText? = b.listText?)
    (hplain : a.plainText = b.plainText)
    (h : (⟨field, operator, a⟩ : Condition).sql = .ok text) :
    (⟨field, operator, b⟩ : Condition).sql = .ok text := by
  obtain ⟨argument, hargument, h⟩ := exists_of_bind_eq_ok h
  rw [argumentSql_eq_ok_iff] at hargument
  have hother : argumentSql ⟨field, operator, b⟩ = .ok argument := by
    rw [argumentSql_eq_ok_iff, ← hlist, ← hplain]
    exact hargument
  rw [sql, hother]
  exact h

/-- A list operator writes the list text between parentheses. -/
theorem sql_of_listText?
    {list : String}
    (hoperator : isListOperator c.operator = true)
    (hlist : c.argument.listText? = some list) :
    c.sql = .ok (c.field ++ " " ++ c.operator ++ " (" ++ list ++ ")") := by
  have hne : c.operator ≠ "" := by
    intro hempty
    rw [hempty] at hoperator
    exact absurd hoperator (by decide)
  have hargument : c.argumentSql = .ok ("(" ++ list ++ ")") := by
    rw [argumentSql, if_pos hoperator, hlist]
  have hopen : " (" = " " ++ "(" := by
    decide
  rw [sql_of_argumentSql hne hargument, hopen]
  simp only [String.append_assoc]

/-- A list stands between parentheses. -/
example : (oneOf "id" (.ints32 [1, 2, 3])).sql = .ok "id in (1,2,3)" := by
  rfl

/-- Every other operator writes the plain text. -/
theorem sql_of_not_isListOperator
    (hoperator : isListOperator c.operator = false)
    (hne : c.operator ≠ "") :
    c.sql = .ok (c.field ++ " " ++ c.operator ++ " " ++ c.argument.plainText) := by
  refine sql_of_argumentSql hne ?_
  rw [argumentSql, hoperator, if_neg Bool.false_ne_true]

theorem sql_equals (field : String) (argument : Argument) :
    (equals field argument).sql = .ok (field ++ " = " ++ argument.plainText) := by
  simp [sql, argumentSql, equals, isListOperator, String.append_assoc]

/-- A condition is written with at least one blank. -/
theorem sql_ne_empty
    {text : String}
    (h : c.sql = .ok text) :
    text ≠ "" := by
  obtain ⟨argument, _, h⟩ := exists_of_bind_eq_ok h
  split at h <;>
    · obtain rfl := Except.ok.inj h
      simp [String.append_eq_empty_iff]

/-- A condition is written if its right-hand side is. -/
theorem failure?_sql (c : Condition) : failure? c.sql = failure? c.argumentSql := by
  unfold sql
  cases c.argumentSql with
  | error failure =>
      rfl
  | ok argument =>
      change failure? (if c.operator = "" then _ else _) = none
      split <;> rfl

/-- A condition fails only with a list operator on an argument without list text, and then with its
own field, operator and argument. -/
theorem sql_eq_error_iff (c : Condition) (failure : UnsupportedArgument) :
    c.sql = .error failure ↔
      isListOperator c.operator = true ∧ c.argument.listText? = none ∧ failure = c.unsupported := by
  rw [← failure?_eq_some_iff, failure?_sql, failure?_eq_some_iff, argumentSql]
  cases isListOperator c.operator with
  | false =>
      simp
  | true =>
      cases c.argument.listText? with
      | none =>
          simp [eq_comm]
      | some list =>
          simp

/-- A number is no list. -/
example : (oneOf "id" (.int 5)).sql = .error ⟨"id", "in", "Int(5)"⟩ := by
  rfl

theorem eq_unsupported_of_sql_eq_error
    {failure : UnsupportedArgument}
    (h : c.sql = .error failure) :
    failure = c.unsupported :=
  ((c.sql_eq_error_iff failure).1 h).2.2

end SqlStatement.Condition
