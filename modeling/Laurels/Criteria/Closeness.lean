import Laurels.Criteria.Clause
import Laurels.Value

/-!
# How close a clause is to holding

A clause that holds counts as one. Otherwise the closeness is a quotient that grows as the clause comes
nearer: the current value over the threshold while the value is too small, the threshold over the value
while it is too large. Strict comparisons aim one past the threshold, since counts are whole. Closeness is
shown to viewers and never decides an unlock.
-/

namespace Laurels

/-- A value limited to the range from zero to one; what is not finite counts as zero. -/
def Binary64.clamp (x : Binary64) : Binary64 :=
  if !x.isFinite then .zero
  else if (Number.float x).lt (.float .one) then
    if (Number.float .zero).lt (.float x) then x else .zero
  else .one

/-- A value of any kind, limited to the range from zero to one; what has no number counts as zero. -/
def Value.limited (v : Value) : Except NumberFault Binary64 :=
  match v.asBinary64 with
  | .ok x => .ok x.clamp
  | .error .unreadable => .ok .zero
  | .error .wrongKind => .ok .zero
  | .error e => .error e

/-- The quotient of two numbers, limited to the range from zero to one. -/
def ratio (a b : Number) : Except NumberFault Binary64 := do
  let q ← a.quotient b
  pure q.clamp

/-- One if the condition is met, and zero otherwise. -/
def fullIf (b : Bool) : Binary64 := if b then .one else .zero

/-- How close a comparison is to holding, from zero to one. -/
def closeness (op : Operator) (current threshold : Number) : Except NumberFault Binary64 :=
  if op.holds current threshold then .ok .one
  else
    match op with
    | .atLeast =>
      if threshold.isZero then .ok (fullIf (Number.lt 0 current))
      else ratio current threshold
    | .above =>
      if threshold.succ.le 0 then .ok .zero
      else ratio current threshold.succ
    | .atMost =>
      if threshold.le 0 || current.le 0 then .ok .zero
      else ratio threshold current
    | .below =>
      if threshold.pred.le 0 || current.le 0 then .ok .zero
      else ratio threshold.pred current
    | .equal =>
      if threshold.isZero then .ok (fullIf current.isZero)
      else if current.lt threshold then ratio current threshold
      else if threshold.lt current then
        if current.isZero then .ok .zero else ratio threshold current
      else .ok .one
    | .notEqual => .ok (fullIf (!current.same threshold))
    | .other _ => .ok .zero

/-- How close a clause is to holding on a snapshot. -/
def Clause.closeness (c : Clause) (s : Snapshot) : Except NumberFault Binary64 :=
  Laurels.closeness c.op (c.current s) c.threshold

end Laurels
