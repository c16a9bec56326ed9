import Laurels.Web.Exchange

/-!
# Calls

Everything that can be asked of the service and its storage, as one type, with the procedure that each call
runs and the answer that it gives.
-/

namespace Laurels

/-- A call. -/
inductive Call where
  | migrate
  | award (viewers source sourceRef : Value)
  | awardRace (competition viewers : Value)
  | record (viewer key : Value)
  | progress (viewer : Value)
  | list
  | unlocked (viewer : Value)
  | pairs (viewers achievements : Value)
  | times (viewer : Value)
  | insert (entry : UnlockEntry)
  | raceTallies (viewers : List Value)
  | actionCounts (viewers keys : List Value)
  | countAction (entry : ActionEntry)
  | snapshots (viewers keys : Value)
  | web (message : Web.Message)

/-- What a call answers. -/
inductive Answer where
  | nothing
  | unlocks (us : List Unlock)
  | outcome (o : ActionOutcome)
  | report (r : Report)
  | achievements (as : List Achievement)
  | unlocked (us : List Unlocked)
  | pairs (ps : List (String × Int))
  | times (ts : List (Int × Int))
  | flag (b : Bool)
  | tallies (ts : List (String × Tally))
  | counts (cs : List (String × String × Int))
  | count (n : Int)
  | snapshots (ss : List (String × Snapshot))
  | response (r : Web.Response)

/-- A snapshot of each viewer that a value names. Without viewers the keys are not looked at. -/
def snapshotsOf (viewers keys : Value) : Procedure (List (String × Snapshot)) :=
  match Viewer.ids? viewers with
  | none => .raise (.shape .noList)
  | some [] => .done []
  | some ids =>
    match keys.keys with
    | .error e => .raise (.shape e)
    | .ok wanted => takeSnapshots ids wanted

/-- The unlocked pairs among the viewers and achievements that two values list. -/
def pairsOf (viewers achievements : Value) : Procedure (List (String × Int)) :=
  match viewers.elements?, achievements.elements? with
  | some vs, some as => fetchPairs vs as
  | _, _ => .raise (.shape .noList)

namespace Call

/-- The procedure of a call. -/
def procedure : Call → Procedure Answer
  | .migrate => (fun _ => .nothing) <$> Laurels.migrate
  | .award viewers source sourceRef => .unlocks <$> Laurels.award viewers source sourceRef
  | .awardRace competition viewers => .unlocks <$> Laurels.awardRace competition viewers
  | .record viewer key => .outcome <$> recordAction viewer key
  | .progress viewer => .report <$> Laurels.report viewer
  | .list => .achievements <$> listAchievements
  | .unlocked viewer => .unlocked <$> listUnlocked viewer
  | .pairs viewers achievements => .pairs <$> pairsOf viewers achievements
  | .times viewer => .times <$> .ask (.unlockTimes viewer)
  | .insert entry => .flag <$> .ask (.insertUnlock entry)
  | .raceTallies viewers => .tallies <$> fetchTallies viewers
  | .actionCounts viewers keys => .counts <$> fetchCounts viewers keys
  | .countAction entry => .count <$> .ask (.countAction entry)
  | .snapshots viewers keys => .snapshots <$> snapshotsOf viewers keys
  | .web message => .response <$> Web.exchange message

end Call

/-- Counters grouped by viewer. -/
def groupedCounts (counts : List (String × String × Int)) : List (String × Value) :=
  (counts.map (·.1)).eraseDups.map fun v =>
    (v, .object ((counts.filter fun c => c.1 == v).map fun c => (c.2.1, .int c.2.2)))

namespace Answer

/-- An answer as clients see it. Pairs and times are put in order. -/
def toValue : Answer → Value
  | .nothing => .null
  | .unlocks us => .list (us.map Unlock.toValue)
  | .outcome o => o.toValue
  | .report r => .object r.fields
  | .achievements as => .list (as.map Achievement.toValue)
  | .unlocked us => .list (us.map Unlocked.toValue)
  | .pairs ps =>
    .list ((sorted (fun a b => decide (a.1 < b.1) || (a.1 == b.1 && decide (a.2 ≤ b.2))) ps).map
      fun p => .list [.text p.1, .int p.2])
  | .times ts =>
    .list ((sorted (fun a b => decide (a.1 ≤ b.1)) ts).map fun t => .list [.int t.1, .int t.2])
  | .flag b => .flag b
  | .tallies ts => .object (ts.map fun (v, t) => (v, t.toValue))
  | .counts cs => .object (groupedCounts cs)
  | .count n => .int n
  | .snapshots ss => .list (ss.map fun (v, s) => .list [.text v, s.toValue])
  | .response r => .object [("status", .int r.status), ("body", r.body)]

end Answer

end Laurels
