import Laurels.Call
import Laurels.Schedule
import Laurels.Store.Edit

/-!
# Sessions

A session is a sequence of steps on one world. A step is a call, an edit from outside, a look at the tables, or
several steps side by side. An account of a session says for each step what came of it, which queries were
asked, and which log lines were written.
-/

namespace Laurels

/-- An edit from outside: of the tables, of the clock, or of what is in reach. -/
inductive Edit where
  | achievement (row : CatalogueRow)
  /-- Results of a viewer, the same in each of the next competitions. -/
  | results (viewer : String) (position : Option Int) (status : String) (times : Nat)
  | counter (row : ActionRow)
  | unlock (row : UnlockRow)
  /-- A new time, a new tick, or both. -/
  | clock (ms tick : Option Int)
  | drop (t : Table)
  | fail (t : Table) (message : String)
  | heal

/-- The world after an edit. -/
def Edit.apply (w : World) : Edit → World
  | .achievement row => { w with store := w.store.putAchievement row }
  | .results viewer position status times =>
    { w with store := w.store.addResults viewer position status times }
  | .counter row => { w with store := w.store.putCounter row }
  | .unlock row => { w with store := w.store.putUnlock row }
  | .clock ms tick => { w with clock := ⟨ms.getD w.clock.ms, tick.getD w.clock.tick⟩ }
  | .drop t => { w with store := w.store.drop t }
  | .fail t message => { w with store := w.store.fail t message }
  | .heal => { w with store := w.store.heal }

/-- A step of a session. -/
inductive Step where
  | call (c : Call)
  | edit (e : Edit)
  /-- A look at the tables. -/
  | look
  /-- Several steps, in the two-phase schedule. -/
  | together (steps : List Step)

/-- What comes of a step. -/
inductive Outcome where
  | nothing
  | answer (a : Answer)
  | fault (e : Fault)
  /-- The tables as they were looked at. -/
  | tables (s : Store)
  /-- What comes of each of several steps. -/
  | together (outcomes : List Outcome)

/-- What comes of a step that may have ended with a fault. -/
def Outcome.ofResult : Except Fault Outcome → Outcome
  | .ok o => o
  | .error e => .fault e

namespace Step

instance : Inhabited Step := ⟨.look⟩

mutual

/-- A step as it takes part in a schedule. Steps side by side happen at once as far as others can see. -/
def participant : Step → Participant Outcome
  | .call c => .procedure (.answer <$> c.procedure)
  | .edit e => .event fun w => (.nothing, e.apply w)
  | .look => .event fun w => (.tables w.store, w)
  | .together steps =>
    .event fun w =>
      let r := Schedule.twoPhase (participants steps) w
      (.together (r.1.map .ofResult), r.2)

/-- Steps as they take part in a schedule. -/
def participants : List Step → List (Participant Outcome)
  | [] => []
  | s :: rest => s.participant :: participants rest

end

/-- What comes of a step, and the world after it. -/
def run (s : Step) (w : World) : Outcome × World :=
  let r := s.participant.run w
  (.ofResult r.1, r.2)

end Step

/-- What is told of a step. -/
structure Account where
  outcome : Outcome
  queries : List Query
  log : List LogLine

/-- What is told of a session, step by step. -/
def session : List Step → World → List Account
  | [], _ => []
  | s :: rest, w =>
    let r := s.run w.unrecorded
    ⟨r.1, r.2.queries, r.2.log⟩ :: session rest r.2

end Laurels
