import Laurels.Keys
import Laurels.Procedure
import Laurels.Viewer

/-!
# Awarding

An award pass looks at some viewers, finds the achievements whose rules they satisfy, and adds to the
ledger every unlock that is not there yet. The rules of the catalogue are compiled first: achievements
whose criteria text is not accepted are reported and passed over. Then one snapshot of each viewer is
taken, fetching only the counters that some rule reads, and the unlocked pairs are read; the clock is read
once, and every unlock of the pass has that time. The ledger itself decides whether an unlock is new, so
that two passes at the same time never report the same one.
-/

namespace Laurels

/-- An achievement with the clauses of its criteria. -/
structure Rule where
  achievement : Achievement
  clauses : List Clause
deriving DecidableEq

/-- Name an achievement in the log. -/
def Achievement.mention (a : Achievement) : String :=
  toString a.id ++ " (" ++ Text.quoted a.name ++ ")"

/-- The clauses of the criteria of an achievement, if they are accepted. With `warn`, rejected criteria and
metrics that measure nothing are logged. -/
def compileCriteria (warn : Bool) (mention criteria : String) : Procedure (Option (List Clause)) :=
  match Criteria.parse criteria with
  | .error e =>
    if e.isRejection then do
      if warn then .write .warning ("⚠️ [ACH-PARSE] Achievement " ++ mention ++ " skipped: " ++ e.message)
      pure none
    else .raise (.criteria e)
  | .ok clauses => do
    let unknown := unknownMetrics clauses
    if warn && !unknown.isEmpty then
      .write .warning ("⚠️ [ACH-METRIC] Achievement " ++ mention ++ " references unknown metrics " ++
        Text.quotedList unknown ++ "; they evaluate as 0")
    pure (some clauses)

/-- The rules of the achievements whose criteria are accepted. An achievement without an id has no rule. -/
def compile (warn : Bool) : List Achievement → Procedure (List Rule)
  | [] => .done []
  | a :: rest =>
    if a.id = 0 then compile warn rest
    else do
      let clauses? ← compileCriteria warn a.mention a.criteria
      let rules ← compile warn rest
      pure ((clauses?.map (Rule.mk a)).toList ++ rules)

/-- The action keys that rules read, in the order of first occurrence. -/
def Rule.actionKeys (rules : List Rule) : List String := Laurels.actionKeys (rules.flatMap (·.clauses))

/-- The counters that rules want, as they are asked for. -/
def Rule.wanted (rules : List Rule) : List Value := (wantedKeys (Rule.actionKeys rules)).map .text

/-- The snapshot of a viewer in what was fetched for some viewers. -/
def Snapshot.ofFetched (tallies : List (String × Tally)) (counts : List (String × String × Int))
    (viewer : String) : Snapshot :=
  let tally := (tallies.lookup viewer).getD ⟨0, 0, 0, 0⟩
  { races := .int tally.races
    finished := .int tally.finished
    wins := .int tally.wins
    dnf := .int tally.dnf
    actions := (counts.filter fun c => c.1 == viewer).map fun c => (c.2.1, .int c.2.2) }

/-- The counters of viewers for some keys; no query is asked where none can answer. -/
def fetchCounts (viewers keys : List Value) : Procedure (List (String × String × Int)) :=
  if viewers.isEmpty || keys.isEmpty then .done [] else .ask (.actionCounts viewers keys)

/-- The race counts of viewers. -/
def fetchTallies (viewers : List Value) : Procedure (List (String × Tally)) :=
  if viewers.isEmpty then .done [] else .ask (.raceTallies viewers)

/-- The unlocked pairs among viewers and achievements. -/
def fetchPairs (viewers achievements : List Value) : Procedure (List (String × Int)) :=
  if viewers.isEmpty || achievements.isEmpty then .done []
  else .ask (.unlockedPairs viewers achievements)

/-- A snapshot of each viewer, with the counters for the given keys. -/
def takeSnapshots (viewers : List String) (keys : List Value) : Procedure (List (String × Snapshot)) :=
  if viewers.isEmpty then .done []
  else do
    let tallies ← fetchTallies (viewers.map .text)
    let counts ← fetchCounts (viewers.map .text) keys
    pure (viewers.map fun v => (v, .ofFetched tallies counts v))

/-- An unlock that an award pass made. -/
structure Unlock where
  viewer : String
  achievement : Int
  name : String
  time : Int
deriving DecidableEq, Repr

/-- What an award pass writes into each row that it adds. -/
structure Occasion where
  time : Int
  source : String
  sourceRef : String
deriving DecidableEq, Repr

/-- The row that an award pass adds for a viewer and an achievement. -/
def Occasion.row (o : Occasion) (viewer : String) (achievement : Int) : UnlockRow :=
  ⟨viewer, achievement, o.time, some o.source, some o.sourceRef⟩

/-- A text in the log, or a hyphen if there is none. -/
def orHyphen (s : String) : String := if s.isEmpty then "-" else s

/-- Add the unlocks among candidate pairs of a viewer and a rule, in order. Pairs in `existing` and rules
that the viewer does not satisfy are passed over, as is a pair that is in the ledger by now. -/
def unlockAll (occasion : Occasion) :
    List (String × Snapshot × Rule) → List (String × Int) → Procedure (List Unlock)
  | [], _ => .done []
  | (viewer, snapshot, rule) :: rest, existing =>
    if existing.contains (viewer, rule.achievement.id) then unlockAll occasion rest existing
    else if !satisfied rule.clauses snapshot then unlockAll occasion rest existing
    else do
      let added ← .ask (.insertUnlock (occasion.row viewer rule.achievement.id).entry)
      if added then do
        .write .info ("🏆 [ACH-AWARD] Viewer " ++ viewer ++ " unlocked achievement " ++
          rule.achievement.mention ++ " source=" ++ orHyphen occasion.source ++ " ref=" ++
          orHyphen occasion.sourceRef)
        let unlocks ← unlockAll occasion rest ((viewer, rule.achievement.id) :: existing)
        pure (⟨viewer, rule.achievement.id, rule.achievement.name, occasion.time⟩ :: unlocks)
      else unlockAll occasion rest existing

/-- An award pass over viewers that are given as distinct ids. -/
def awardPass (viewers : List String) (source sourceRef : String) : Procedure (List Unlock) := do
  let achievements ← .ask .activeAchievements
  let rules ← compile true achievements
  if rules.isEmpty then pure []
  else do
    let snapshots ← takeSnapshots viewers (Rule.wanted rules)
    let existing ← fetchPairs (viewers.map .text) (rules.map fun r => .int r.achievement.id)
    let time ← .readClock
    let candidates := snapshots.flatMap fun (v, s) => rules.map fun r => (v, s, r)
    let unlocks ← unlockAll ⟨time, source, sourceRef⟩ candidates existing
    if !unlocks.isEmpty then
      .write .info ("🏁 [ACH-AWARD] " ++ toString unlocks.length ++ " new unlock(s) for " ++
        toString viewers.length ++ " viewer(s)")
    pure unlocks

/-- What becomes of an award pass that a missing table ends: nothing is awarded. -/
def nothingAwarded : Fault → Procedure (List Unlock)
  | .store (.missing t) => do
    .write .warning ("⚠️ [ACH-AWARD] Achievement tables missing, nothing awarded: " ++
      (StoreFault.missing t).message)
    pure []
  | e => .raise e

/-- Award the viewers with the given ids what they have newly deserved. -/
def awardIds (viewers : List String) (source sourceRef : String) : Procedure (List Unlock) :=
  if viewers.isEmpty then .done []
  else (awardPass viewers source sourceRef).rescue nothingAwarded

/-- Award the viewers that a value names what they have newly deserved. -/
def award (viewers source sourceRef : Value) : Procedure (List Unlock) :=
  match Viewer.ids? viewers with
  | none => .raise (.shape .noList)
  | some ids => awardIds ids source.asText sourceRef.asText

end Laurels
