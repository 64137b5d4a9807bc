import SqlStatement.Condition

/-!
# Failures

What can go wrong between the building of a statement and the reading of its answer.  The driver of
the database has texts of its own for a lost connection, for an error without a name here and for a
cell of the wrong type; these texts are left out.

* `Failure.message` is the sentence that reports a failure, without a text of the driver.
* `Failure.ofDatabase` tells the violations of constraints apart from other database errors.
-/

namespace SqlStatement

/-- A failure to write, run or read a statement. -/
inductive Failure where
  /-- A list operator stands before an argument that is no list. -/
  | unsupportedArgument (failure : UnsupportedArgument)
  /-- The database or the connection to it failed, with a text of the driver. -/
  | query
  | notFound (detail : String)
  | uniqueViolation (detail : String)
  | foreignKeyViolation (detail : String)
  | checkViolation (detail : String)
  /-- A cell does not hold a value of the expected type.  The detail is missing where it is a text
  of the driver. -/
  | decode (column : String) (detail : Option String)
  /-- The statement is refused before it is sent. -/
  | validation (detail : String)
  | other (detail : String)
deriving DecidableEq, Inhabited

/-- An error reported by the database. -/
structure DatabaseError where
  /-- The five-character state code. -/
  code : String
  message : String
  /-- The violated constraint, if the database names one. -/
  constraint : Option String
deriving DecidableEq, Inhabited

namespace Failure

/-- The sentence that reports the failure, up to a text of the driver. -/
def message : Failure → String
  | unsupportedArgument failure => failure.message
  | query => "Query error: "
  | notFound detail => "Not found: " ++ detail
  | uniqueViolation detail => "Unique constraint violation: " ++ detail
  | foreignKeyViolation detail => "Foreign key violation: " ++ detail
  | checkViolation detail => "Check constraint violation: " ++ detail
  | decode column detail => "Decode error on column '" ++ column ++ "': " ++ detail.getD ""
  | validation detail => "Validation error: " ++ detail
  | other detail => detail

/-- Whether a list operator stands before an argument that is no list. -/
def isUnsupportedArgument : Failure → Bool
  | unsupportedArgument _ => true
  | _ => false

/-- Whether a unique constraint is violated. -/
def isUniqueViolation : Failure → Bool
  | uniqueViolation _ => true
  | _ => false

/-- Whether a row is missing. -/
def isNotFound : Failure → Bool
  | notFound _ => true
  | _ => false

/-- The failure of a statement on which the database reports an error. -/
def ofDatabase (e : DatabaseError) : Failure :=
  let detail := e.constraint.getD "unknown" ++ ": " ++ e.message
  if e.code = "23505" then .uniqueViolation detail
  else if e.code = "23503" then .foreignKeyViolation detail
  else if e.code = "23514" then .checkViolation detail
  else .query

end Failure

end SqlStatement
