import Laurels.Store.Entry

/-!
# Storage queries

Everything that touches the tables is one of nine queries, each of which runs on its own as one
indivisible step. A query has a reply of its own type, or fails because a table that it names is missing
or out of reach, or because a column cannot hold what it is asked to.
-/

namespace Laurels

/-- What a migration creates: a table, or an index on one. -/
inductive SchemaItem where
  | table (t : Table)
  | index (name : String)
deriving DecidableEq, Repr

namespace SchemaItem

/-- The name of what is created. -/
def name : SchemaItem → String
  | .table t => t.name
  | .index name => name

/-- The whole schema, in the order of creation. -/
def all : List SchemaItem :=
  Table.all.map .table ++
    [.index "idx_results_viewer", .index "idx_achievements_disabled",
     .index "idx_viewer_achievements_viewer", .index "idx_viewer_achievements_achievement"]

end SchemaItem

/-- A storage query. -/
inductive Query where
  /-- The achievements that are not disabled, by ascending id. -/
  | activeAchievements
  /-- The race counts of those viewers that have results. -/
  | raceTallies (viewers : List Value)
  /-- The counters of the viewers for the given keys. -/
  | actionCounts (viewers keys : List Value)
  /-- Which of the pairs of a viewer and an achievement are unlocked. -/
  | unlockedPairs (viewers achievements : List Value)
  /-- Add an unlock unless the pair is unlocked; tells whether it was added. -/
  | insertUnlock (entry : UnlockEntry)
  /-- When the viewer unlocked which achievement, positive times only. -/
  | unlockTimes (viewer : Value)
  /-- The unlocks of a viewer whose achievement is in the catalogue, latest first, simultaneous ones in any order. -/
  | unlockedList (viewer : String)
  /-- Count an action once more, if there is room; tells the new count. -/
  | countAction (entry : ActionEntry)
  /-- Create a table or an index that does not exist yet. -/
  | create (item : SchemaItem)

/-- The tables that a query must reach, in the order in which it looks for them. -/
def Query.tables : Query → List Table
  | .activeAchievements => [.catalogue]
  | .raceTallies _ => [.results]
  | .actionCounts .. => [.actions]
  | .unlockedPairs .. => [.unlocks]
  | .insertUnlock _ => [.unlocks]
  | .unlockTimes _ => [.unlocks]
  | .unlockedList _ => [.unlocks, .catalogue]
  | .countAction _ => [.actions]
  | .create _ => []

/-- What a query is answered with. -/
abbrev Query.Reply : Query → Type
  | .activeAchievements => List Achievement
  | .raceTallies _ => List (String × Tally)
  | .actionCounts .. => List (String × String × Int)
  | .unlockedPairs .. => List (String × Int)
  | .insertUnlock _ => Bool
  | .unlockTimes _ => List (Int × Int)
  | .unlockedList _ => List Unlocked
  | .countAction _ => Int
  | .create _ => Unit

/-- Why a query is not answered. -/
inductive StoreFault where
  | missing (t : Table)
  | unreachable (message : String)
  | cell (cause : CellFault)
deriving DecidableEq, Repr

/-- The wording of a fault. -/
def StoreFault.message : StoreFault → String
  | .missing t => "relation \"" ++ t.name ++ "\" does not exist"
  | .unreachable message => message
  | .cell cause => cause.message

end Laurels
