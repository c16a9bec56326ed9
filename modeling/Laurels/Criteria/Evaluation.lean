import Laurels.Criteria.Comparison

/-!
# Trying out criteria

An editor who writes criteria can try them on measurements made up for the purpose, which are values of any
kind, as thresholds may be. Whatever is empty reads as zero, and all else is compared as it is. The outcome
says for each condition what it reads, whether it holds and how close it is.

`Condition.holds_ofClause` says that on a snapshot of numbers a condition holds as its clause does.
-/

namespace Laurels

/-- A condition whose threshold is a value of any kind. -/
structure Condition where
  metric : String
  op : Operator
  threshold : Value

/-- Measurements of one viewer, of any kind. -/
structure Measurements where
  races : Value
  finished : Value
  wins : Value
  dnf : Value
  actions : Value

namespace Measurements

/-- The measurements that there can be, by name. -/
def names : List String := ["races", "finished", "wins", "dnf", "actions"]

/-- The measurements in the fields of an object. What is left out is zero, or no counters. -/
def ofFields (fields : List (String × Value)) : Except ShapeFault Measurements :=
  if fields.all fun f => names.contains f.1 then
    let field (name : String) (default : Value) := (fields.lookup name).getD default
    .ok ⟨field "races" (.int 0), field "finished" (.int 0), field "wins" (.int 0), field "dnf" (.int 0),
      field "actions" (.object [])⟩
  else .error .unknownField

/-- The measurements that a value holds; an empty value holds none. -/
def ofValue (v : Value) : Except ShapeFault Measurements :=
  match v with
  | .object fields => ofFields fields
  | v => if v.isEmpty then ofFields [] else .error .unknownField

/-- The measurements of a snapshot. -/
def ofSnapshot (s : Snapshot) : Measurements :=
  ⟨.number s.races, .number s.finished, .number s.wins, .number s.dnf,
    .object (s.actions.map fun (k, n) => (k, .number n))⟩

/-- A measurement of races. -/
def raceCount (m : Measurements) : RaceCount → Value
  | .races => m.races
  | .finished => m.finished
  | .wins => m.wins
  | .dnf => m.dnf

/-- A measurement as it is read: an empty one is zero. -/
def reading (v : Value) : Value := if v.isEmpty then .int 0 else v

/-- The counter of an action. -/
def counter (m : Measurements) (key : String) : Except ShapeFault Value :=
  match m.actions with
  | .object fields => .ok ((fields.lookup key).getD (.int 0))
  | _ => .error .noFields

/-- The current value of a metric. -/
def read (m : Measurements) : Metric → Except ShapeFault Value
  | .action key => reading <$> m.counter key
  | .race count => .ok (reading (m.raceCount count))
  | .unknown _ => .ok (.int 0)

/-- The measurements as an object. -/
def toValue (m : Measurements) : Except ShapeFault Value := do
  let actions ← m.actions.asObject
  pure (.object [("races", m.races), ("finished", m.finished), ("wins", m.wins), ("dnf", m.dnf),
    ("actions", actions)])

end Measurements

namespace Condition

/-- A clause as a condition. -/
def ofClause (c : Clause) : Condition := ⟨c.metric, c.op, .number c.threshold⟩

/-- The metric that a condition measures. -/
def target (c : Condition) : Metric := Metric.resolve c.metric

/-- The current value of the metric that a condition measures. -/
def current (c : Condition) (m : Measurements) : Except ShapeFault Value := m.read c.target

/-- Whether a condition holds. -/
def holds (c : Condition) (m : Measurements) : Except ShapeFault Bool := do
  c.op.compares (← c.current m) c.threshold

end Condition

/-- What comes out for one condition. -/
structure Finding where
  /-- The canonical name of the metric. -/
  metric : String
  current : Value
  holds : Bool
  closeness : Binary64

/-- What comes out for all of them. -/
structure Evaluation where
  satisfied : Bool
  measurements : Value
  findings : List Finding

/-- Whether all conditions hold. The first that does not decides. -/
def allHold (m : Measurements) : List Condition → Except ShapeFault Bool
  | [] => .ok true
  | c :: rest => do if ← c.holds m then allHold m rest else pure false

/-- A fault of shape as a cause. -/
def inShape {α : Type} (x : Except ShapeFault α) : Except Fault α := x.mapError .shape

/-- A condition as it stands on measurements. -/
def Finding.of (m : Measurements) (c : Condition) : Except Fault Finding := do
  let current ← inShape (c.current m)
  let holds ← inShape (c.holds m)
  let closeness ← current.closeness c.op c.threshold
  pure ⟨c.target.canonical, current, holds, closeness⟩

/-- Try conditions out on measurements. -/
def evaluate (conditions : List Condition) (m : Measurements) : Except Fault Evaluation := do
  let satisfied ← inShape (allHold m conditions)
  let measurements ← inShape m.toValue
  let findings ← conditions.mapM (Finding.of m)
  pure ⟨satisfied, measurements, findings⟩

theorem Measurements.reading_number (n : Number) : reading (.number n) = .number (Snapshot.reading n) := by
  cases h : n.isZero with
  | false => simp [reading, Snapshot.reading, Value.isEmpty, h]
  | true =>
    simp [reading, Snapshot.reading, Value.isEmpty, h]
    rfl

theorem lookup_map_number (key : String) (actions : List (String × Number)) :
    (actions.map fun (k, n) => (k, Value.number n)).lookup key = (actions.lookup key).map .number := by
  induction actions with
  | nil => rfl
  | cons a rest ih =>
    obtain ⟨k, n⟩ := a
    cases h : key == k with
    | true => simp [List.lookup_cons, h]
    | false => simpa [List.lookup_cons, h] using ih

theorem Measurements.read_ofSnapshot (s : Snapshot) (t : Metric) :
    (ofSnapshot s).read t = .ok (.number (s.read t)) := by
  cases t with
  | action key =>
    have h : (ofSnapshot s).counter key = .ok (.number ((s.actions.lookup key).getD 0)) := by
      cases h : s.actions.lookup key with
      | none =>
        simp [counter, ofSnapshot, lookup_map_number, h]
        rfl
      | some n => simp [counter, ofSnapshot, lookup_map_number, h]
    simp only [read, h, Snapshot.read]
    exact congrArg Except.ok (reading_number _)
  | race count => cases count <;> exact congrArg Except.ok (reading_number _)
  | unknown name => rfl

theorem Condition.holds_ofClause (c : Clause) (s : Snapshot) :
    (ofClause c).holds (.ofSnapshot s) = .ok (c.holds s) := by
  have h : (ofClause c).current (.ofSnapshot s) = .ok (.number (c.current s)) :=
    Measurements.read_ofSnapshot s c.target
  simp only [holds, h]
  exact compares_number c.op (c.current s) c.threshold

end Laurels
