import Laurels.Award
import Laurels.Criteria.Closeness

/-!
# Progress reports

A report tells one viewer how far they are from each achievement: for every clause of its rule the current
value, whether it holds and how close it is, and for the achievement as a whole the mean closeness. An
achievement that is unlocked, or whose clauses all hold, is complete. Making a report changes nothing.
-/

namespace Laurels

/-- One clause in a report. -/
structure Requirement where
  /-- The canonical name of the metric. -/
  metric : String
  label : String
  op : Operator
  target : Number
  current : Number
  satisfied : Bool
  closeness : Binary64
deriving DecidableEq

/-- One achievement in a report. -/
structure Entry where
  achievement : Achievement
  /-- When it was unlocked, or zero. -/
  unlockedAt : Int
  eligible : Bool
  overall : Binary64
  requirements : List Requirement
deriving DecidableEq

namespace Entry

/-- How many requirements are satisfied. -/
def satisfiedCount (e : Entry) : Nat := e.requirements.countP (·.satisfied)

/-- Whether any requirement has come closer than not at all. -/
def hasProgress (e : Entry) : Bool :=
  e.requirements.any fun r => (Number.float .zero).lt (.float r.closeness)

end Entry

/-- What a viewer is told about their progress. -/
structure Report where
  viewer : String
  metrics : Snapshot
  entries : List Entry
deriving DecidableEq

/-- A clause as it stands on a snapshot. -/
def Requirement.of (s : Snapshot) (c : Clause) : Except NumberFault Requirement := do
  let closeness ← c.closeness s
  pure
    { metric := c.target.canonical
      label := Metric.label c.target.canonical
      op := c.op
      target := c.threshold
      current := c.current s
      satisfied := c.holds s
      closeness }

/-- The sum of values, added from left to right. -/
def sum (xs : List Binary64) : Binary64 := xs.foldl Binary64.add .zero

/-- The mean of values, limited to the range from zero to one. -/
def mean (xs : List Binary64) : Except NumberFault Binary64 :=
  ratio (.float (sum xs)) (.int xs.length)

/-- An achievement as it stands on a snapshot. -/
def Entry.of (s : Snapshot) (unlockedAt : Int) (rule : Rule) : Except NumberFault Entry := do
  let requirements ← rule.clauses.mapM (Requirement.of s)
  let eligible := requirements.all (·.satisfied)
  let overall ←
    if 0 < unlockedAt ∨ eligible = true then .ok .one else mean (requirements.map (·.closeness))
  pure { achievement := rule.achievement, unlockedAt, eligible, overall, requirements }

/-- When an achievement was unlocked, or zero. -/
def unlockTime (times : List (Int × Int)) (achievement : Int) : Int :=
  (times.lookup achievement).getD 0

/-- The report for a viewer, given by a trimmed id. -/
def reportFor (viewer : String) : Procedure Report := do
  let achievements ← .ask .activeAchievements
  let rules ← compile false achievements
  let snapshots ← takeSnapshots [viewer] (Rule.wanted rules)
  let snapshot := (snapshots.lookup viewer).getD .empty
  let times ← .ask (.unlockTimes (.text viewer))
  let entries ← .compute
    (rules.mapM fun r => Entry.of snapshot (unlockTime times r.achievement.id) r)
  pure ⟨viewer, snapshot, entries⟩

/-- The report for the viewer that a value names. -/
def report (viewer : Value) : Procedure Report :=
  if (Viewer.id viewer).isEmpty then .raise .viewerRequired else reportFor (Viewer.id viewer)

end Laurels
