import Laurels.Fault

/-!
# Procedures

A call on the service is a procedure: it asks storage queries, reads the clock and writes log lines, one
after the other, and ends with an answer or a fault. Each of these steps is indivisible, and between two
steps of one procedure the steps of others may run.
-/

namespace Laurels

/-- How urgent a log line is. -/
inductive LogLevel where
  | info
  | warning
  | error
deriving DecidableEq, Repr

/-- A line of the log. -/
structure LogLine where
  level : LogLevel
  text : String
deriving DecidableEq, Repr

/-- A call on the service, as the steps it takes. -/
inductive Procedure (α : Type) where
  /-- The call ends with an answer. -/
  | done (answer : α)
  /-- The call ends with a fault. -/
  | raise (fault : Fault)
  /-- A storage query, and how the call goes on. -/
  | query (q : Query) (next : Except StoreFault q.Reply → Procedure α)
  /-- A reading of the clock, and how the call goes on. -/
  | now (next : Int → Procedure α)
  /-- A line of the log, and how the call goes on. -/
  | log (line : LogLine) (next : Procedure α)

namespace Procedure

variable {α β : Type}

/-- One procedure and then another, which may depend on the answer of the first. -/
def bind (p : Procedure α) (f : α → Procedure β) : Procedure β :=
  match p with
  | .done a => f a
  | .raise e => .raise e
  | .query q next => .query q fun reply => (next reply).bind f
  | .now next => .now fun t => (next t).bind f
  | .log line next => .log line (next.bind f)

instance : Monad Procedure where
  pure := .done
  bind := bind

/-- Go on with `handler` instead of ending with a fault. -/
def rescue (p : Procedure α) (handler : Fault → Procedure α) : Procedure α :=
  match p with
  | .done a => .done a
  | .raise e => handler e
  | .query q next => .query q fun reply => (next reply).rescue handler
  | .now next => .now fun t => (next t).rescue handler
  | .log line next => .log line (next.rescue handler)

/-- A storage query whose failure ends the call. -/
def ask (q : Query) : Procedure q.Reply :=
  .query q fun
    | .ok reply => .done reply
    | .error e => .raise (.store e)

/-- A reading of the clock. -/
def readClock : Procedure Int := .now .done

/-- Write a line to the log. -/
def write (level : LogLevel) (text : String) : Procedure Unit := .log ⟨level, text⟩ (.done ())

/-- A computation with numbers, as a step that takes no time. -/
def compute (x : Except NumberFault α) : Procedure α :=
  match x with
  | .ok a => .done a
  | .error e => .raise (.number e)

end Procedure

end Laurels
