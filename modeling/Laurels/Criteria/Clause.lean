import Laurels.Snapshot

/-!
# Clauses

A clause compares the current value of a metric with a threshold. A list of clauses is satisfied when
every one of them holds. The metric is kept as it was written, in lower case, and resolved when the
clause is read.
-/

namespace Laurels

/-- A comparison. -/
inductive Operator where
  | atLeast
  | atMost
  | equal
  | notEqual
  | above
  | below
  /-- A symbol that stands for no comparison. -/
  | other (symbol : String)
deriving DecidableEq, Repr

namespace Operator

/-- How a comparison is written. -/
def symbol : Operator → String
  | .atLeast => ">="
  | .atMost => "<="
  | .equal => "=="
  | .notEqual => "!="
  | .above => ">"
  | .below => "<"
  | .other s => s

/-- The comparison that a symbol stands for. -/
def ofSymbol (s : String) : Operator :=
  if s = ">=" then .atLeast
  else if s = "<=" then .atMost
  else if s = "==" then .equal
  else if s = "!=" then .notEqual
  else if s = ">" then .above
  else if s = "<" then .below
  else .other s

/-- Whether a comparison holds of two numbers in the given order; `none` is the order of numbers of
which one is not a number. -/
def admits : Operator → Option Ordering → Bool
  | .atLeast, o => o == some .gt || o == some .eq
  | .atMost, o => o == some .lt || o == some .eq
  | .equal, o => o == some .eq
  | .notEqual, o => o != some .eq
  | .above, o => o == some .gt
  | .below, o => o == some .lt
  | .other _, _ => false

/-- Whether a comparison holds between a value and its target. -/
def holds (op : Operator) (value target : Number) : Bool := op.admits (value.compare? target)

end Operator

/-- One condition of a rule. -/
structure Clause where
  /-- The metric name, as written but in lower case. -/
  metric : String
  op : Operator
  threshold : Number
deriving DecidableEq

namespace Clause

/-- The metric that a clause measures. -/
def target (c : Clause) : Metric := Metric.resolve c.metric

/-- The current value of the metric that a clause measures. -/
def current (c : Clause) (s : Snapshot) : Number := s.read c.target

/-- Whether a clause holds on a snapshot. -/
def holds (c : Clause) (s : Snapshot) : Bool := c.op.holds (c.current s) c.threshold

/-- The clause with its metric under its canonical name. -/
def canonical (c : Clause) : Clause := { c with metric := c.target.canonical }

/-- The action key that a clause reads, if it reads a counter with a key. -/
def actionKey? (c : Clause) : Option String :=
  match c.target with
  | .action key => if key.isEmpty then none else some key
  | _ => none

/-- The canonical name of the metric of a clause, if it measures nothing. -/
def unknown? (c : Clause) : Option String :=
  match c.target with
  | .unknown name => some name
  | _ => none

end Clause

/-- Whether all clauses hold. -/
def satisfied (clauses : List Clause) (s : Snapshot) : Bool := clauses.all (·.holds s)

/-- The action keys that clauses read, in the order of first occurrence. -/
def actionKeys (clauses : List Clause) : List String :=
  (clauses.filterMap Clause.actionKey?).eraseDups

/-- The canonical names of the metrics that measure nothing, in the order of first occurrence. -/
def unknownMetrics (clauses : List Clause) : List String :=
  (clauses.filterMap Clause.unknown?).eraseDups

end Laurels
