import Laurels.Award

/-!
# What triggers an award

Two events can bring a viewer closer to an achievement: an action on the site, which counts and is
followed by an award pass for that viewer, and the saving of race results, which is followed by an award
pass for the viewers of the race. The event itself comes first: whatever happens to the award pass, the
event is answered, and a pass that fails has awarded nothing.
-/

namespace Laurels

/-- What became of an action. -/
inductive ActionOutcome where
  /-- The viewer or the key was not given. -/
  | skipped
  | counted (viewer key : String) (count time : Int) (unlocks : List Unlock)
deriving DecidableEq, Repr

/-- Note in the log that an award pass failed, and go on with no unlocks. -/
def passFailed (after : String) (_ : Fault) : Procedure (List Unlock) := do
  .write .error ("❌ [ACH-AWARD] Award pass failed " ++ after)
  pure []

/-- Count an action of a viewer, both given by trimmed texts, and award what it has brought. -/
def countAndAward (viewer key : String) : Procedure ActionOutcome := do
  let time ← .readClock
  let count ← .ask (.countAction (.of viewer key time))
  .write .info ("🎯 [ACH-ACTION] Viewer " ++ viewer ++ " action " ++ Text.quoted key ++ " -> " ++
    toString count)
  let unlocks ← (awardIds (Viewer.distinct [viewer]) "action" key).rescue
    (passFailed ("after action " ++ Text.quoted key ++ " for viewer " ++ viewer))
  pure (.counted viewer key count time unlocks)

/-- Record an action of a viewer. -/
def recordAction (viewer key : Value) : Procedure ActionOutcome :=
  if (Viewer.id viewer).isEmpty || (Viewer.id key).isEmpty then .done .skipped
  else countAndAward (Viewer.id viewer) (Viewer.id key)

/-- Award the viewers of a race. -/
def awardRace (competition viewers : Value) : Procedure (List Unlock) :=
  (award viewers (.text "competition") (.text competition.asText)).rescue
    (passFailed ("for competition " ++ competition.written))

end Laurels
