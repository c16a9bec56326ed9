import Laurels.Procedure
import Laurels.Viewer

/-!
# Catalogue, unlocks and schema

The calls that only read: the public catalogue, and the unlocks of a viewer. And the call that creates
whatever part of the schema is missing, and leaves what is there.
-/

namespace Laurels

/-- The achievements that are not disabled. -/
def listAchievements : Procedure (List Achievement) := .ask .activeAchievements

/-- The unlocks of the viewer that a value names. -/
def listUnlocked (viewer : Value) : Procedure (List Unlocked) :=
  if (Viewer.id viewer).isEmpty then .raise .viewerRequired else .ask (.unlockedList (Viewer.id viewer))

/-- Create the items in order. -/
def createAll : List SchemaItem → Procedure Unit
  | [] => .done ()
  | item :: rest => do
    .ask (.create item)
    createAll rest

/-- Create what is missing of the schema. -/
def migrate : Procedure Unit := do
  createAll SchemaItem.all
  .write .info "✅ Achievement tables created or already exist."

end Laurels
