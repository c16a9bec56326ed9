/-!
# Tables and their rows

Four tables hold everything that is remembered: the results that viewers had in competitions, the
catalogue of achievements, the ledger of unlocks, and the counters of viewer actions.
-/

namespace Laurels

/-- The tables. -/
inductive Table where
  | results
  | catalogue
  | unlocks
  | actions
deriving DecidableEq, Repr

namespace Table

/-- The name of a table. -/
def name : Table → String
  | .results => "competition_results"
  | .catalogue => "achievements"
  | .unlocks => "viewer_achievements"
  | .actions => "viewer_actions"

/-- All tables, in the order in which they are created. -/
def all : List Table := [results, catalogue, unlocks, actions]

/-- The table with a given name. -/
def ofName? (s : String) : Option Table := all.find? fun t => t.name == s

end Table

/-- The result of one viewer in one competition. -/
structure ResultRow where
  competition : Nat
  viewer : String
  position : Option Int
  status : String
deriving DecidableEq, Repr

namespace ResultRow

/-- Whether the viewer finished the race. -/
def isFinished (r : ResultRow) : Bool := r.status == "FINISHED"

/-- Whether the viewer won the race. -/
def isWin (r : ResultRow) : Bool := r.isFinished && r.position == some 1

end ResultRow

/-- An achievement as the catalogue stores it. -/
structure CatalogueRow where
  id : Int
  name : String
  description : Option String
  disabled : Bool
  criteria : String
deriving DecidableEq, Repr

/-- An unlock: who, what, when, and what triggered it. -/
structure UnlockRow where
  viewer : String
  achievement : Int
  time : Int
  source : Option String
  sourceRef : Option String
deriving DecidableEq, Repr

/-- How often a viewer has performed an action, and when first and last. -/
structure ActionRow where
  viewer : String
  key : String
  count : Int
  first : Option Int
  last : Option Int
deriving DecidableEq, Repr

/-- An achievement as the catalogue lists it. -/
structure Achievement where
  id : Int
  name : String
  description : String
  disabled : Bool
  criteria : String
deriving DecidableEq, Repr

/-- The listed form of a stored achievement. -/
def CatalogueRow.achievement (r : CatalogueRow) : Achievement :=
  ⟨r.id, r.name, r.description.getD "", r.disabled, r.criteria⟩

/-- The race counts of one viewer. -/
structure Tally where
  races : Nat
  finished : Nat
  wins : Nat
  dnf : Nat
deriving DecidableEq, Repr

/-- The race counts that results add up to. -/
def Tally.ofResults (rows : List ResultRow) : Tally :=
  ⟨rows.length, rows.countP ResultRow.isFinished, rows.countP ResultRow.isWin,
   rows.countP (!·.isFinished)⟩

/-- An unlock of a viewer together with what the catalogue says of the achievement. -/
structure Unlocked where
  achievement : Int
  time : Int
  name : String
  description : String
deriving DecidableEq, Repr

end Laurels
