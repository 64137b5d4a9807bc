import SqlStatement.Argument

/-!
# Conditions

A condition compares a field with an argument.  The operators `in` and `not in` take a list between
parentheses; every other operator takes the plain text of its argument, and an empty operator
stands for none, so that `deleted_at` with the text `is null` is a condition too.

* `Condition.sql` is the text of a condition.  It fails only for a list operator whose argument has
  no list text, and the failure names the field, the operator and the whole argument.
* `Connector` is the word under which a condition is filed in a filter.
-/

namespace SqlStatement

/-- How a condition or a group combines with its siblings. -/
inductive Connector where
  | and
  | or
deriving DecidableEq

namespace Connector

instance : Inhabited Connector := ⟨.and⟩

/-- The keyword between siblings. -/
def keyword : Connector → String
  | and => "AND"
  | or => "OR"

/-- The order in which siblings are written: those filed under `and` come first. -/
def before : Connector → Connector → Bool
  | and, or => true
  | _, _ => false

end Connector

/-- The failure of a list operator on an argument that has no list text. -/
structure UnsupportedArgument where
  field : String
  operator : String
  /-- The diagnostic text of the whole argument. -/
  argument : String
deriving DecidableEq

/-- The sentence that reports the failure. -/
def UnsupportedArgument.message (failure : UnsupportedArgument) : String :=
  "Unsupported argument type for '" ++ failure.field ++ " " ++ failure.operator ++ "': " ++
    failure.argument

/-- A comparison of a field with an argument. -/
structure Condition where
  field : String
  operator : String
  argument : Argument
deriving Inhabited

namespace Condition

/-- A field followed by a fragment of text. -/
def raw (field fragment : String) : Condition :=
  ⟨field, "", .text fragment⟩

/-- The condition that a field equals an argument. -/
def equals (field : String) (argument : Argument) : Condition :=
  ⟨field, "=", argument⟩

/-- The condition that a field is among the elements of an argument. -/
def oneOf (field : String) (elements : Argument) : Condition :=
  ⟨field, "in", elements⟩

/-- The condition that a field is not among the elements of an argument. -/
def noneOf (field : String) (elements : Argument) : Condition :=
  ⟨field, "not in", elements⟩

/-- The condition that a field is absent. -/
def isNull (field : String) : Condition :=
  raw field "is null"

/-- The condition that a field is present. -/
def isNotNull (field : String) : Condition :=
  raw field "is not null"

/-- Whether an operator takes a parenthesized list. -/
def isListOperator (operator : String) : Bool :=
  operator == "in" || operator == "not in"

/-- The failure that reports the condition. -/
def unsupported (c : Condition) : UnsupportedArgument :=
  ⟨c.field, c.operator, c.argument.diagnostic⟩

/-- The text of the right-hand side. -/
def argumentSql (c : Condition) : Except UnsupportedArgument String :=
  if isListOperator c.operator then
    match c.argument.listText? with
    | some list => .ok ("(" ++ list ++ ")")
    | none => .error c.unsupported
  else
    .ok c.argument.plainText

/-- The text of the condition. -/
def sql (c : Condition) : Except UnsupportedArgument String := do
  let argument ← c.argumentSql
  if c.operator = "" then
    return c.field ++ " " ++ argument
  else
    return c.field ++ " " ++ c.operator ++ " " ++ argument

end Condition

end SqlStatement
