import SqlStatement.Session

/-!
# Sessions under a script

The replies of a session are given in advance.  Which of them a statement gets depends on its number
alone, that is on how many statements were handed over before it, and not on what failed in between.

* `Session.scripted` is what the statement with a given number is answered.  Beyond the script no
  row is found and none affected, and from a lost connection on nothing is answered.
* `Session.Follows` says that a session has come to its state by handing over statements under a
  script, and `Session.Follows.exchange` that it goes on so.
-/

namespace SqlStatement

def Reply.losesConnection : Reply → Bool
  | .connectionLost => true
  | _ => false

namespace Session

variable {session : Session} {script : List Reply}

/-- Whether the connection is there for the statement with the given number. -/
def connectedAt (script : List Reply) (number : Nat) : Bool :=
  (script.take number).all fun reply => !reply.losesConnection

/-- What the statement with the given number is answered. -/
def scripted (script : List Reply) (number : Nat) : Except Failure Answer :=
  if connectedAt script number then
    match script[number]? with
    | none => .ok { rows := [], affected := 0 }
    | some (.answer a) => .ok a
    | some (.databaseError e) => .error (.ofDatabase e)
    | some .connectionLost => .error .query
  else
    .error .query

/-- The calls so far have used up the script from its start. -/
structure Follows (session : Session) (script : List Reply) : Prop where
  isConnected_eq : session.isConnected = connectedAt script session.calls.length
  replies_eq : session.isConnected = true → session.replies = script.drop session.calls.length

theorem Follows.start (script : List Reply) :
    ({ replies := script } : Session).Follows script where
  isConnected_eq := rfl
  replies_eq _ := rfl

theorem Follows.with_events
    (h : session.Follows script)
    (events : List Event) :
    ({ session with events := events } : Session).Follows script where
  isConnected_eq := h.isConnected_eq
  replies_eq := h.replies_eq

theorem connectedAt_add_one (script : List Reply) (number : Nat) :
    connectedAt script (number + 1) =
      (connectedAt script number && !(script[number]?.any Reply.losesConnection)) := by
  unfold connectedAt
  rw [List.take_add_one, List.all_append]
  cases script[number]? <;> simp

theorem Follows.head?_replies
    (h : session.Follows script)
    (hconnected : session.isConnected = true) :
    session.replies.head? = script[session.calls.length]? := by
  rw [h.replies_eq hconnected, List.head?_drop]

theorem Follows.exchange_fst
    (h : session.Follows script)
    (kind : CallKind)
    (sql : String)
    (parameters : List Cell) :
    (session.exchange kind sql parameters).1 = scripted script session.calls.length := by
  unfold exchange scripted
  rw [← h.isConnected_eq]
  split
  · rename_i hconnected
    rw [← h.head?_replies hconnected]
    cases session.replies.head? with
    | none =>
        rfl
    | some reply =>
        cases reply <;> rfl
  · rfl

/-- The next statement gets the next reply. -/
theorem Follows.exchange
    (h : session.Follows script)
    (kind : CallKind)
    (sql : String)
    (parameters : List Cell) :
    (session.exchange kind sql parameters).2.Follows script := by
  have hnumber : ∀ call : Call, (session.calls ++ [call]).length = session.calls.length + 1 :=
    fun _ => List.length_append
  cases hconnected : session.isConnected with
  | false =>
      -- A lost connection stays lost.
      have hlost : connectedAt script session.calls.length = false := by
        rw [← h.isConnected_eq, hconnected]
      simp only [Session.exchange, hconnected, Bool.false_eq_true, if_false]
      refine ⟨?_, fun h => by simp at h⟩
      simp only [hnumber, connectedAt_add_one, hlost, Bool.false_and]
  | true =>
      have hhead := h.head?_replies hconnected
      have hstill : connectedAt script session.calls.length = true := by
        rw [← h.isConnected_eq, hconnected]
      have htail : session.replies.tail = script.drop (session.calls.length + 1) := by
        rw [h.replies_eq hconnected, List.tail_drop]
      simp only [Session.exchange, hconnected, if_true]
      cases hreply : session.replies.head? with
      | none =>
          rw [hhead] at hreply
          refine ⟨?_, fun _ => by simp only [hnumber, htail]⟩
          simp [connectedAt_add_one, hstill, hreply]
      | some reply =>
          rw [hhead] at hreply
          cases reply with
          | answer _ | databaseError _ =>
              refine ⟨?_, fun _ => by simp only [hnumber, htail]⟩
              simp [connectedAt_add_one, hstill, hreply, Reply.losesConnection]
          | connectionLost =>
              refine ⟨?_, fun h => by simp at h⟩
              simp [connectedAt_add_one, hreply, Reply.losesConnection]

end Session

end SqlStatement
