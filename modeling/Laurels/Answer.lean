import Laurels.Report
import Laurels.Trigger

/-!
# Answers as values

The shape in which clients see achievements, unlocks, reports and the outcome of an action: objects with
named fields, and lists of them.
-/

namespace Laurels

/-- An achievement as clients see it. -/
def Achievement.toValue (a : Achievement) : Value :=
  .object [("id", .int a.id), ("name", .text a.name), ("description", .text a.description),
    ("disabled", .flag a.disabled), ("criteria", .text a.criteria)]

/-- A new unlock as clients see it. -/
def Unlock.toValue (u : Unlock) : Value :=
  .object [("viewerUserId", .text u.viewer), ("achievementId", .int u.achievement),
    ("achievementName", .text u.name), ("unlockedAtMs", .int u.time)]

/-- A listed unlock as clients see it. -/
def Unlocked.toValue (u : Unlocked) : Value :=
  .object [("achievementId", .int u.achievement), ("unlockedAtMs", .int u.time), ("name", .text u.name),
    ("description", .text u.description)]

/-- A snapshot as clients see it. -/
def Snapshot.toValue (s : Snapshot) : Value :=
  .object [("races", .number s.races), ("finished", .number s.finished), ("wins", .number s.wins),
    ("dnf", .number s.dnf), ("actions", .object (s.actions.map fun (k, n) => (k, .number n)))]

/-- Race counts as clients see them. -/
def Tally.toValue (t : Tally) : Value :=
  .object [("races", .int t.races), ("finished", .int t.finished), ("wins", .int t.wins),
    ("dnf", .int t.dnf)]

/-- A requirement as clients see it. -/
def Requirement.toValue (r : Requirement) : Value :=
  .object [("metric", .text r.metric), ("metricLabel", .text r.label), ("op", .text r.op.symbol),
    ("target", .number r.target), ("current", .number r.current), ("satisfied", .flag r.satisfied),
    ("progress01", .number (.float r.closeness))]

/-- An entry of a report as clients see it. -/
def Entry.toValue (e : Entry) : Value :=
  .object [("id", .int e.achievement.id), ("name", .text e.achievement.name),
    ("description", .text e.achievement.description), ("criteria", .text e.achievement.criteria),
    ("unlockedAtMs", .int e.unlockedAt), ("eligibleNow", .flag e.eligible),
    ("overallProgress01", .number (.float e.overall)), ("hasAnyProgress", .flag e.hasProgress),
    ("requirementsSatisfied", .int e.satisfiedCount), ("requirementsTotal", .int e.requirements.length),
    ("requirements", .list (e.requirements.map Requirement.toValue))]

/-- The fields of a report as clients see it. -/
def Report.fields (r : Report) : List (String × Value) :=
  [("viewerUserId", .text r.viewer), ("metrics", r.metrics.toValue),
    ("achievements", .list (r.entries.map Entry.toValue))]

/-- The outcome of an action, with the fields that it has. -/
def ActionOutcome.toValue : ActionOutcome → Value
  | .skipped => .object [("ok", .flag false), ("skipped", .flag true), ("reason", .text "missing_input")]
  | .counted viewer key count time unlocks =>
    .object [("ok", .flag true), ("viewerUserId", .text viewer), ("actionKey", .text key),
      ("count", .int count), ("atMs", .int time), ("achievementsUnlocked", .list (unlocks.map Unlock.toValue))]

/-- The outcome of an action as clients see it: fields that it does not have are shown empty. -/
def ActionOutcome.toResponse : ActionOutcome → Value
  | .skipped =>
    .object [("ok", .flag false), ("skipped", .flag true), ("reason", .text "missing_input"),
      ("viewerUserId", .null), ("actionKey", .null), ("count", .null), ("atMs", .null),
      ("achievementsUnlocked", .list [])]
  | .counted viewer key count time unlocks =>
    .object [("ok", .flag true), ("skipped", .flag false), ("reason", .null), ("viewerUserId", .text viewer),
      ("actionKey", .text key), ("count", .int count), ("atMs", .int time),
      ("achievementsUnlocked", .list (unlocks.map Unlock.toValue))]

/-- A clause as clients see it. -/
def Clause.toValue (c : Clause) : Value :=
  .object [("metric", .text c.metric), ("op", .text c.op.symbol), ("threshold", .number c.threshold)]

end Laurels
