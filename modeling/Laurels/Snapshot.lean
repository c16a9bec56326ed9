import Laurels.Metric
import Laurels.Number.Basic

/-!
# Snapshots

A snapshot holds what is known of one viewer at one moment: the four race counts, and the counters of
the actions that were asked for. A counter that is not there reads as zero.
-/

namespace Laurels

/-- What is known of a viewer at one moment. -/
structure Snapshot where
  races : Number
  finished : Number
  wins : Number
  dnf : Number
  /-- The counters, one for each action key. -/
  actions : List (String × Number)
deriving DecidableEq

namespace Snapshot

/-- The snapshot of a viewer of whom nothing is known. -/
def empty : Snapshot := ⟨0, 0, 0, 0, []⟩

/-- A race count of a snapshot. -/
def raceCount (s : Snapshot) : RaceCount → Number
  | .races => s.races
  | .finished => s.finished
  | .wins => s.wins
  | .dnf => s.dnf

/-- A count as it is read: a zero of any kind is the integer zero. -/
def reading (n : Number) : Number := if n.isZero then 0 else n

/-- The current value of a metric. -/
def read (s : Snapshot) : Metric → Number
  | .action key => reading ((s.actions.lookup key).getD 0)
  | .race count => reading (s.raceCount count)
  | .unknown _ => 0

end Snapshot

end Laurels
