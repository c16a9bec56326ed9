import Laurels.Store.Basic

/-!
# Edits from outside

Other parts of the site write to the same tables: competitions save results, and administrators keep the
catalogue. This module holds those edits, and the accidents that can befall a store: a table is dropped,
goes out of reach, or comes back. An edit of a table that does not exist is void.
-/

namespace Laurels.Store

/-- Put a row in place of the one with the same key, or at the end. -/
def replaceBy {α κ : Type} [BEq κ] (key : α → κ) (row : α) (rows : List α) : List α :=
  if rows.any fun r => key r == key row then rows.map fun r => if key r == key row then row else r
  else rows ++ [row]

/-- Put an achievement into the catalogue, which is kept by ascending id. -/
def putAchievement (s : Store) (row : CatalogueRow) : Store :=
  { s with catalogue := s.catalogue.map fun rows =>
      sorted (fun a b => decide (a.id ≤ b.id)) (replaceBy (·.id) row rows) }

/-- Put an unlock into the ledger. -/
def putUnlock (s : Store) (row : UnlockRow) : Store :=
  { s with unlocks := s.unlocks.map (replaceBy (fun r => (r.viewer, r.achievement)) row) }

/-- Put a counter into its table. -/
def putCounter (s : Store) (row : ActionRow) : Store :=
  { s with actions := s.actions.map (replaceBy (fun r => (r.viewer, r.key)) row) }

/-- The number of the next competition. -/
def nextCompetition (rows : List ResultRow) : Nat :=
  rows.foldl (fun n r => max n (r.competition + 1)) 1

/-- Save a result of a viewer in each of the next competitions, `times` of them. -/
def addResults (s : Store) (viewer : String) (position : Option Int) (status : String) (times : Nat) :
    Store :=
  { s with results := s.results.map fun rows =>
      rows ++ (List.range times).map fun i => ⟨nextCompetition rows + i, viewer, position, status⟩ }

/-- Drop a table with its rows. -/
def drop (s : Store) : Table → Store
  | .results => { s with results := none }
  | .catalogue => { s with catalogue := none }
  | .unlocks => { s with unlocks := none }
  | .actions => { s with actions := none }

/-- Put a table out of reach. One that is out of reach already gets the new message. -/
def fail (s : Store) (t : Table) (message : String) : Store :=
  { s with failing := replaceBy (·.1) (t, message) s.failing }

/-- Bring all tables back into reach. -/
def heal (s : Store) : Store := { s with failing := [] }

/-- The names of the tables that exist, in order. -/
def tableNames (s : Store) : List String :=
  sorted (fun a b => decide (a ≤ b)) ((Table.all.filter s.has).map Table.name)

/-- The ledger in the order of its keys. -/
def unlocksByKey (s : Store) : Option (List UnlockRow) :=
  s.unlocks.map (sorted fun a b =>
    decide (a.viewer < b.viewer) || (a.viewer == b.viewer && decide (a.achievement ≤ b.achievement)))

/-- The counters in the order of their keys. -/
def actionsByKey (s : Store) : Option (List ActionRow) :=
  s.actions.map (sorted fun a b =>
    decide (a.viewer < b.viewer) || (a.viewer == b.viewer && decide (a.key ≤ b.key)))

end Laurels.Store
