import Laurels.Procedure
import Laurels.Store.Basic

/-!
# Running procedures

Procedures run on a world: the store, the clock, and a record of the queries asked and the log lines
written so far. Every reading of the clock moves it on by its tick. `Procedure.run` lets a procedure run to
its end alone.

`run_bind` and `run_rescue` say what a sequence does: the first procedure runs, and then, if it ended with an
answer (or with a fault), what depends on that answer (or fault) runs on the world that the first one left.
-/

namespace Laurels

/-- The clock: the time that the next reading shows, in milliseconds, and how far a reading moves it. -/
structure Clock where
  ms : Int
  tick : Int
deriving DecidableEq, Repr

/-- What procedures run on. -/
structure World where
  store : Store
  clock : Clock
  /-- The queries asked so far, in order. -/
  queries : List Query
  /-- The log lines written so far, in order. -/
  log : List LogLine

namespace World

/-- The reply to a query, and the world after it. -/
def ask (w : World) (q : Query) : Except StoreFault q.Reply × World :=
  let r := w.store.answer q
  (r.1, { w with store := r.2, queries := w.queries ++ [q] })

/-- The time, and the world after reading it. -/
def readClock (w : World) : Int × World :=
  (w.clock.ms, { w with clock := { w.clock with ms := w.clock.ms + w.clock.tick } })

/-- The world after a log line. -/
def write (w : World) (line : LogLine) : World := { w with log := w.log ++ [line] }

/-- The world with nothing on record. -/
def unrecorded (w : World) : World := { w with queries := [], log := [] }

end World

namespace Procedure

variable {α β : Type}

/-- Let a procedure run to its end. -/
def run (p : Procedure α) (w : World) : Except Fault α × World :=
  match p with
  | .done a => (.ok a, w)
  | .raise e => (.error e, w)
  | .query q next => (next (w.ask q).1).run (w.ask q).2
  | .now next => (next w.readClock.1).run w.readClock.2
  | .log line next => next.run (w.write line)

theorem run_bind (p : Procedure α) (f : α → Procedure β) (w : World) :
    (p.bind f).run w =
      match p.run w with
      | (.ok a, v) => (f a).run v
      | (.error e, v) => (.error e, v) := by
  induction p generalizing w with
  | done a => rfl
  | raise e => rfl
  | query q next ih => exact ih _ _
  | now next ih => exact ih _ _
  | log line next ih => exact ih _

theorem run_rescue (p : Procedure α) (handler : Fault → Procedure α) (w : World) :
    (p.rescue handler).run w =
      match p.run w with
      | (.ok a, v) => (.ok a, v)
      | (.error e, v) => (handler e).run v := by
  induction p generalizing w with
  | done a => rfl
  | raise e => rfl
  | query q next ih => exact ih _ _
  | now next ih => exact ih _ _
  | log line next ih => exact ih _

/-- Let a procedure run up to and including its first query that `gate` accepts and that is answered, or to
its end. -/
def runThrough (gate : Query → Bool) (p : Procedure α) (w : World) : Procedure α × World :=
  match p with
  | .done a => (.done a, w)
  | .raise e => (.raise e, w)
  | .query q next =>
    if gate q && (w.ask q).1.isOk then (next (w.ask q).1, (w.ask q).2)
    else (next (w.ask q).1).runThrough gate (w.ask q).2
  | .now next => (next w.readClock.1).runThrough gate w.readClock.2
  | .log line next => next.runThrough gate (w.write line)

end Procedure

end Laurels
