import Laurels.Sorting
import Laurels.Store.Query

/-!
# The store

A store holds the rows of each table that exists, and for each table a message if the table is out of
reach. `Store.answer` gives the reply to every query and the store after it. A query that fails changes
nothing. Whether a table is out of reach is looked at before whether it exists, and what a query hands in is
read only then.

A table keeps one row for each key. The key of a counter is its viewer and its key, and that of an unlock its viewer
and its achievement; nothing else is compared when a query looks for the row that is there already. Counters have room
for a limited count (`countLimit`). The other columns of integers are taken to be wide enough for what is put into
them, and the texts of any column to be storable. Rows have no numbers of their own here, nor the times at which they
were written and changed, and a row of the ledger need not have its achievement in the catalogue.
-/

namespace Laurels

/-- The tables that exist, with their rows, and the failures in force. -/
structure Store where
  results : Option (List ResultRow)
  catalogue : Option (List CatalogueRow)
  unlocks : Option (List UnlockRow)
  actions : Option (List ActionRow)
  /-- Tables out of reach, in the order in which they went, with the message that a query fails with. -/
  failing : List (Table × String)
deriving DecidableEq, Repr

namespace Store

/-- The store without tables. -/
def bare : Store := ⟨none, none, none, none, []⟩

/-- The store with all tables, all empty. -/
def empty : Store := ⟨some [], some [], some [], some [], []⟩

/-- Whether a table exists. -/
def has (s : Store) : Table → Bool
  | .results => s.results.isSome
  | .catalogue => s.catalogue.isSome
  | .unlocks => s.unlocks.isSome
  | .actions => s.actions.isSome

/-- Why a query on some tables is not answered, if it is not: the one among them that has been out of reach
for longest, else the first that is missing. -/
def refusal? (s : Store) (tables : List Table) : Option StoreFault :=
  match s.failing.find? fun f => tables.contains f.1 with
  | some f => some (.unreachable f.2)
  | none => (tables.find? fun t => !s.has t).map .missing

/-- The achievements that are not disabled, by ascending id. -/
def active (catalogue : List CatalogueRow) : List Achievement :=
  (sorted (fun a b => decide (a.id ≤ b.id)) (catalogue.filter fun r => !r.disabled)).map
    CatalogueRow.achievement

/-- The race counts of those among the viewers that have results. -/
def tallies (results : List ResultRow) (viewers : List String) : List (String × Tally) :=
  viewers.eraseDups.filterMap fun v =>
    match results.filter fun r => r.viewer == v with
    | [] => none
    | rs => some (v, Tally.ofResults rs)

/-- The counters of the viewers for the given keys. -/
def counts (actions : List ActionRow) (viewers keys : List String) : List (String × String × Int) :=
  (actions.filter fun r => viewers.contains r.viewer && keys.contains r.key).map
    fun r => (r.viewer, r.key, r.count)

/-- Whether a row is the unlock of an achievement by a viewer. -/
def isUnlockOf (viewer : String) (achievement : Int) (r : UnlockRow) : Bool :=
  r.viewer == viewer && r.achievement == achievement

/-- The unlocked pairs among the viewers and achievements. -/
def pairs (unlocks : List UnlockRow) (viewers : List String) (achievements : List Int) :
    List (String × Int) :=
  (unlocks.filter fun r => viewers.contains r.viewer && achievements.contains r.achievement).map
    fun r => (r.viewer, r.achievement)

/-- The ledger with a row added, unless it holds the pair already. -/
def insertUnlock (unlocks : List UnlockRow) (row : UnlockRow) : Bool × List UnlockRow :=
  if unlocks.any (isUnlockOf row.viewer row.achievement) then (false, unlocks)
  else (true, unlocks ++ [row])

/-- When the viewer unlocked which achievement, positive times only. -/
def times (unlocks : List UnlockRow) (viewer : String) : List (Int × Int) :=
  (unlocks.filter fun r => r.viewer == viewer && decide (0 < r.time)).map fun r => (r.achievement, r.time)

/-- An unlock with what the catalogue says of its achievement. -/
def describe (c : CatalogueRow) (r : UnlockRow) : Unlocked := ⟨c.id, r.time, c.name, c.description.getD ""⟩

/-- The unlocks of a viewer whose achievement is in the catalogue, as they come together row by row. -/
def described (catalogue : List CatalogueRow) (unlocks : List UnlockRow) (viewer : String) : List Unlocked :=
  catalogue.flatMap fun c =>
    ((unlocks.filter fun r => r.viewer == viewer).filter fun r => r.achievement == c.id).map (describe c)

/-- Whether an unlock is no earlier than another one. -/
def noEarlier (a b : Unlocked) : Bool := decide (b.time ≤ a.time)

/-- The unlocks of a viewer whose achievement is in the catalogue, latest first. Nothing puts simultaneous ones in
order; they stay as they have come together. -/
def unlockedList (catalogue : List CatalogueRow) (unlocks : List UnlockRow) (viewer : String) :
    List Unlocked :=
  sorted noEarlier (described catalogue unlocks viewer)

/-- Whether a row is the counter of a viewer for a key. -/
def isCounterOf (viewer key : String) (r : ActionRow) : Bool := r.viewer == viewer && r.key == key

/-- A counter after one more action, at a time that need not be known. -/
def ActionRow.again (time : Option Int) (r : ActionRow) : ActionRow :=
  { r with count := r.count + 1, first := r.first.or time, last := time }

/-- The counters after one more action, and the new count. -/
def countOnce (actions : List ActionRow) (viewer key : String) (time : Option Int) :
    Int × List ActionRow :=
  match actions.find? (isCounterOf viewer key) with
  | some r => (r.count + 1, actions.map fun a => if isCounterOf viewer key a then ActionRow.again time a else a)
  | none => (1, actions ++ [⟨viewer, key, 1, time, time⟩])

/-- The largest count that a counter can hold. -/
def countLimit : Int := 2147483647

/-- One more action is counted, unless its counter has no room for it. -/
def countAction (actions : List ActionRow) (viewer key : String) (time : Option Int) :
    Except CellFault (Int × List ActionRow) :=
  let counted := countOnce actions viewer key time
  if counted.1 ≤ countLimit then .ok counted else .error .unfit

/-- The store with a table or an index created. Indexes leave no trace. -/
def create (s : Store) : SchemaItem → Store
  | .table .results => { s with results := some (s.results.getD []) }
  | .table .catalogue => { s with catalogue := some (s.catalogue.getD []) }
  | .table .unlocks => { s with unlocks := some (s.unlocks.getD []) }
  | .table .actions => { s with actions := some (s.actions.getD []) }
  | .index _ => s

/-- What a query does when its tables are there. -/
def serve (s : Store) : (q : Query) → Except CellFault (q.Reply × Store)
  | .activeAchievements => .ok (active (s.catalogue.getD []), s)
  | .raceTallies viewers => .ok (tallies (s.results.getD []) (Value.texts viewers), s)
  | .actionCounts viewers keys => .ok (counts (s.actions.getD []) (Value.texts viewers) (Value.texts keys), s)
  | .unlockedPairs viewers achievements =>
    .ok (pairs (s.unlocks.getD []) (Value.texts viewers) (Value.integers achievements), s)
  | .insertUnlock entry => do
    let row ← entry.row
    let r := insertUnlock (s.unlocks.getD []) row
    pure (r.1, { s with unlocks := some r.2 })
  | .unlockTimes viewer => do
    let cell ← viewer.textCell
    pure ((cell.map (times (s.unlocks.getD []))).getD [], s)
  | .unlockedList viewer => .ok (unlockedList (s.catalogue.getD []) (s.unlocks.getD []) viewer, s)
  | .countAction entry => do
    let (viewer, key, time) ← entry.read
    let r ← countAction (s.actions.getD []) viewer key time
    pure (r.1, { s with actions := some r.2 })
  | .create item => .ok ((), s.create item)

/-- The reply to a query, and the store after it. -/
def answer (s : Store) (q : Query) : Except StoreFault q.Reply × Store :=
  match s.refusal? q.tables with
  | some fault => (.error fault, s)
  | none =>
    match s.serve q with
    | .ok r => (.ok r.1, r.2)
    | .error e => (.error (.cell e), s)

end Store

end Laurels
