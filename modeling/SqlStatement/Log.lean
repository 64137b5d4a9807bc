import SqlStatement.Condition

/-!
# Log records

Statements are logged as they are handed to the database, and the operations of a table are traced
before that, with the outcome of writing their statement.
-/

namespace SqlStatement

/-- An operation that leaves a record. -/
inductive Operation where
  | query
  | queryFirst
  | queryOne
  | execute
  | get
  | first
  | find
  | count
  | delete
deriving DecidableEq, Inhabited

/-- The name of an operation in the log. -/
def Operation.name : Operation → String
  | query => "query"
  | queryFirst => "query_opt"
  | queryOne => "query_one"
  | execute => "execute"
  | get => "get"
  | first => "first"
  | find => "find"
  | count => "count"
  | delete => "delete"

/-- A record in the log. -/
inductive Event where
  /-- The text of a statement that is about to be handed over. -/
  | statement (operation : Operation) (sql : String)
  /-- An operation of a table, with the outcome of writing its statement. -/
  | tableOperation (operation : Operation) (outcome : Except UnsupportedArgument String)
deriving Inhabited

/-- The failure with the names of its parts. -/
def UnsupportedArgument.diagnostic (failure : UnsupportedArgument) : String :=
  "UnsupportedArgumentType \x7b field: " ++ Diagnostic.quoted failure.field ++
    ", operator: " ++ Diagnostic.quoted failure.operator ++
    ", argument: " ++ Diagnostic.quoted failure.argument ++ " \x7d"

namespace Event

/-- The operation that leaves the record. -/
def operation : Event → Operation
  | statement operation _ => operation
  | tableOperation operation _ => operation

/-- The text of the record: a statement as it is, or the outcome of writing one. -/
def text : Event → String
  | statement _ sql => sql
  | tableOperation _ (.ok sql) => Diagnostic.tagged "Ok" (Diagnostic.quoted sql)
  | tableOperation _ (.error failure) => Diagnostic.tagged "Err" failure.diagnostic

end Event

end SqlStatement
