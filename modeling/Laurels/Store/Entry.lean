import Laurels.Store.Row
import Laurels.Value

/-!
# What is handed to the store

A query is asked about viewers, keys, achievements and times that are values of any kind. What is put into a
column must be of its kind: a column of texts takes texts, a column of integers takes integers, and both may be
left empty where the table allows it. Any other value is refused, and nothing is converted. Among values that
rows are looked up by, one of another kind is met by no row.

Texts and integers are read as they are: `texts_map_text`, `integers_map_int`, `UnlockRow.row_entry` and
`ActionEntry.read_of` say so.
-/

namespace Laurels

/-- Why a value cannot be put into a column. -/
inductive CellFault where
  /-- The column cannot hold the value: it is of another kind, or it is too large. -/
  | unfit
  /-- There is no value, and the column must have one. -/
  | empty
deriving DecidableEq, Repr

/-- The wording of a fault of a cell. -/
def CellFault.message : CellFault → String
  | .unfit => "unsupported value"
  | .empty => "missing value"

namespace Value

/-- What a column of texts holds for a value. -/
def textCell : Value → Except CellFault (Option String)
  | .null => .ok none
  | .text s => .ok (some s)
  | _ => .error .unfit

/-- The integer that a value is. -/
def int? : Value → Option Int
  | .number (.int n) => some n
  | _ => none

/-- What a column of integers holds for a value. -/
def integerCell : Value → Except CellFault (Option Int)
  | .null => .ok none
  | .number (.int n) => .ok (some n)
  | _ => .error .unfit

/-- The texts among values. -/
def texts (vs : List Value) : List String := vs.filterMap text?

/-- The integers among values. -/
def integers (vs : List Value) : List Int := vs.filterMap int?

@[simp] theorem texts_map_text (ss : List String) : texts (ss.map .text) = ss := by
  induction ss with
  | nil => rfl
  | cons s ss ih => exact congrArg (s :: ·) ih

@[simp] theorem integers_map_int (ns : List Int) : integers (ns.map .int) = ns := by
  induction ns with
  | nil => rfl
  | cons n ns ih => exact congrArg (n :: ·) ih

end Value

/-- The content of a cell that must not be empty. -/
def filled {α : Type} (cell : Option α) : Except CellFault α :=
  match cell with
  | some a => .ok a
  | none => .error .empty

/-- An unlock that is handed to the ledger. -/
structure UnlockEntry where
  viewer : Value
  achievement : Value
  time : Value
  source : Value
  sourceRef : Value

namespace UnlockEntry

/-- The row that an entry stands for. The source and its reference may be left out. -/
def row (e : UnlockEntry) : Except CellFault UnlockRow := do
  let viewer ← e.viewer.textCell
  let achievement ← e.achievement.integerCell
  let time ← e.time.integerCell
  let source ← e.source.textCell
  let sourceRef ← e.sourceRef.textCell
  pure ⟨← filled viewer, ← filled achievement, ← filled time, source, sourceRef⟩

end UnlockEntry

/-- A text as a value, if there is one. -/
def Value.ofText? : Option String → Value
  | some s => .text s
  | none => .null

/-- A row as it is handed to the ledger. -/
def UnlockRow.entry (r : UnlockRow) : UnlockEntry :=
  ⟨.text r.viewer, .int r.achievement, .int r.time, .ofText? r.source, .ofText? r.sourceRef⟩

/-- An action that is handed to the counters. -/
structure ActionEntry where
  viewer : Value
  key : Value
  time : Value

/-- What an action says once it is read: who, what, and when, if that is known. -/
def ActionEntry.read (e : ActionEntry) : Except CellFault (String × String × Option Int) := do
  let viewer ← e.viewer.textCell
  let key ← e.key.textCell
  let time ← e.time.integerCell
  pure (← filled viewer, ← filled key, time)

/-- An action as it is handed to the counters. -/
def ActionEntry.of (viewer key : String) (time : Int) : ActionEntry := ⟨.text viewer, .text key, .int time⟩

theorem UnlockRow.row_entry (r : UnlockRow) : r.entry.row = .ok r := by
  cases r with
  | mk viewer achievement time source sourceRef => cases source <;> cases sourceRef <;> rfl

theorem ActionEntry.read_of (viewer key : String) (time : Int) :
    (ActionEntry.of viewer key time).read = .ok (viewer, key, some time) := rfl

end Laurels
