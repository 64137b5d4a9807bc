import SqlStatement.Failure
import SqlStatement.Log

/-!
# Sessions

The connection over which statements run.  The replies of the database are given in advance, one
for each statement it receives, and the session keeps what was handed over and what was logged.

* `Session.exchange` hands over one statement and takes one reply.  When the connection is lost,
  nothing reaches the database any more and every later statement fails.
* `Access` is a computation that uses a session and may fail.  A failure undoes nothing.
-/

namespace SqlStatement

/-- The value in the only column of a row. -/
inductive Cell where
  | null
  | int4 (value : Int32)
  | int8 (value : Int64)
  | text (value : String)
deriving DecidableEq, Inhabited

/-- What the database answers to a statement that it carries out. -/
structure Answer where
  rows : List Cell := []
  /-- The number of rows that the statement changed. -/
  affected : Nat := 0
deriving DecidableEq, Inhabited

/-- The answer that returns rows, each of which counts as affected. -/
def Answer.ofRows (rows : List Cell) : Answer :=
  ⟨rows, rows.length⟩

/-- What happens to a statement that is sent. -/
inductive Reply where
  | answer (a : Answer)
  | databaseError (e : DatabaseError)
  | connectionLost
deriving Inhabited

/-- Whether a statement is sent for its rows or for its effect. -/
inductive CallKind where
  | query
  | execute
deriving DecidableEq, Inhabited

/-- A statement that was handed over. -/
structure Call where
  kind : CallKind
  sql : String
  /-- The values for the placeholders in the text. -/
  parameters : List Cell := []
  /-- Whether it reached the database, which a lost connection prevents. -/
  reached : Bool := true
deriving DecidableEq, Inhabited

/-- A connection with the replies still to come and what happened so far. -/
structure Session where
  /-- The replies to the next statements; those after the last one find no rows. -/
  replies : List Reply := []
  isConnected : Bool := true
  calls : List Call := []
  events : List Event := []
deriving Inhabited

namespace Session

/-- Hands over a statement and takes the next reply. -/
def exchange (session : Session) (kind : CallKind) (sql : String) (parameters : List Cell) :
    Except Failure Answer × Session :=
  let handed :=
    { session with
      calls := session.calls ++ [⟨kind, sql, parameters, session.isConnected⟩] }
  if session.isConnected then
    let sent := { handed with replies := session.replies.tail }
    match session.replies.head? with
    | none => (.ok {}, sent)
    | some (.answer a) => (.ok a, sent)
    | some (.databaseError e) => (.error (.ofDatabase e), sent)
    | some .connectionLost => (.error .query, { sent with isConnected := false })
  else
    (.error .query, handed)

end Session

/-- A computation that uses a session and may fail. -/
abbrev Access :=
  ExceptT Failure (StateM Session)

namespace Access

/-- A result that needs no session. -/
def ofExcept {α : Type} (result : Except Failure α) : Access α :=
  fun session => (result, session)

/-- The text of a statement, if it can be written. -/
def ofSql (sql : Except UnsupportedArgument String) : Access String :=
  ofExcept (sql.mapError .unsupportedArgument)

/-- Leaves a record in the log. -/
def log (event : Event) : Access Unit :=
  fun session => (.ok (), { session with events := session.events ++ [event] })

/-- Hands over a statement and takes the next reply. -/
def call (kind : CallKind) (sql : String) (parameters : List Cell) : Access Answer :=
  fun session => session.exchange kind sql parameters

/-- Hands over a query for all its rows. -/
def rows (sql : String) (parameters : List Cell) : Access (List Cell) := do
  let answer ← call .query sql parameters
  return answer.rows

/-- Hands over a query for its first row, if there is one. -/
def firstRow? (sql : String) (parameters : List Cell) : Access (Option Cell) := do
  let rows ← rows sql parameters
  return rows.head?

/-- Hands over a query for its first row, without which it fails. -/
def firstRow (sql : String) (parameters : List Cell) : Access Cell := do
  match ← firstRow? sql parameters with
  | some row => return row
  | none => throw (.notFound "Expected one row, got none")

/-- Hands over a statement for its effect and counts the affected rows. -/
def affected (sql : String) (parameters : List Cell) : Access Nat := do
  let answer ← call .execute sql parameters
  return answer.affected

end Access

end SqlStatement
