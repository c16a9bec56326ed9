import Laurels.Fault
import Laurels.Keys
import Laurels.Viewer

/-!
# Snapshots from any source

Race counts and counters can come from elsewhere than the store, as objects with a field for each viewer. A
race count is then read as an integer, and what is missing counts as zero. Counters are passed on as they
are, whether they come as an object or as a list of pairs.
-/

namespace Laurels

/-- Snapshots of viewers, and what was asked for to make them. -/
structure Fetched where
  viewers : List String
  /-- The action keys asked for; without any, counters are not asked for. -/
  keys : List Value
  snapshots : List (String × Value)

namespace Fetched

/-- A field of an object; one that it does not have is empty. -/
def field (v : Value) (name : String) : Except Fault Value :=
  match v with
  | .object fields => .ok ((fields.lookup name).getD .null)
  | _ => .error (.shape .noFields)

/-- A race count. -/
def count (tally : Value) (name : String) : Except Fault Int := do
  let v ← field tally name
  match v.asCount with
  | .ok n => .ok n
  | .error e => .error (.number e)

/-- The counters of one viewer. -/
def counters (v : Value) : Except ShapeFault Value := if v.isEmpty then .ok (.object []) else v.asObject

/-- The snapshot of one viewer. -/
def snapshot (tally : Value) (counts : Except Fault Value) : Except Fault Value := do
  let known := if tally.isEmpty then .object [] else tally
  let races ← count known "races"
  let finished ← count known "finished"
  let wins ← count known "wins"
  let dnf ← count known "dnf"
  match counters (← counts) with
  | .error e => .error (.shape e)
  | .ok actions =>
    .ok (.object [("races", .int races), ("finished", .int finished), ("wins", .int wins), ("dnf", .int dnf),
      ("actions", actions)])

/-- Snapshots of viewers, from race counts and counters by viewer. -/
def ofIds (ids : List String) (keys : List Value) (tallies counts : Value) : Except Fault Fetched := do
  let known := if keys.isEmpty then .object [] else counts
  let snapshots ← ids.mapM fun v => do
    let s ← snapshot (← field tallies v) (field known v)
    pure (v, s)
  pure ⟨ids, keys, snapshots⟩

/-- Snapshots of the viewers that a value names, from race counts and counters by viewer. Without viewers
the keys are not looked at. -/
def take (viewers keys tallies counts : Value) : Except Fault Fetched :=
  match Viewer.ids? viewers with
  | none => .error (.shape .noList)
  | some [] => .ok ⟨[], [], []⟩
  | some ids =>
    match keys.keys with
    | .error e => .error (.shape e)
    | .ok wanted => ofIds ids wanted tallies counts

end Fetched

end Laurels
