import Laurels.Criteria.Closeness
import Laurels.Fault
import Laurels.Keys

/-!
# Comparing values of any kind

Clauses compare numbers, but a comparison can be asked about any two values. They are equal or not; two
numbers have an order, two texts have, and two lists have that of the first items in which they differ; other
values have none. A comparison that fails says how close the values are only if they are numbers, or if all
that counts is whether they are equal.

`compares_number` and `closeness_number` say that numbers are compared here as clauses compare them.
-/

namespace Laurels

namespace Value

mutual

/-- Whether two values are equal: numbers by value, lists item by item, and objects field by field in any
order. -/
def same : Value → Value → Bool
  | .list xs, .list ys => sameItems xs ys
  | .object fields, .object others => fields.length == others.length && sameFields fields others
  | a, b => a.sameKey b

/-- Whether the items of two lists are equal. -/
def sameItems : List Value → List Value → Bool
  | [], [] => true
  | x :: xs, y :: ys => x.same y && sameItems xs ys
  | _, _ => false

/-- Whether each of some fields is equal to the one of its name among others. -/
def sameFields : List (String × Value) → List (String × Value) → Bool
  | [], _ => true
  | (k, x) :: rest, others =>
    (match others.lookup k with
      | some y => x.same y
      | none => false) && sameFields rest others

end

mutual

/-- The order of two values; `none` if it comes to a number that is not a number. -/
def order : Value → Value → Except ShapeFault (Option Ordering)
  | .text s, .text t => .ok (some (compare s t))
  | .list xs, .list ys => orderItems xs ys
  | a, b =>
    match a.number?, b.number? with
    | some m, some n => .ok (m.compare? n)
    | _, _ => .error .unordered

/-- The order of two lists: that of the first items in which they differ, else the shorter one comes first. -/
def orderItems : List Value → List Value → Except ShapeFault (Option Ordering)
  | [], [] => .ok (some .eq)
  | [], _ :: _ => .ok (some .lt)
  | _ :: _, [] => .ok (some .gt)
  | x :: xs, y :: ys => if x.same y then orderItems xs ys else x.order y

end

end Value

/-- The comparison that a value stands for. -/
def Operator.ofValue (v : Value) : Except ShapeFault Operator :=
  if v.isCompound then .error .noKey else .ok (.ofSymbol v.written)

/-- Whether a comparison holds between two values. -/
def Operator.compares (op : Operator) (a b : Value) : Except ShapeFault Bool :=
  match op with
  | .equal => .ok (a.same b)
  | .notEqual => .ok (!a.same b)
  | .other _ => .ok false
  | op => op.admits <$> a.order b

/-- How close two values are to being equal that differ and are not both numbers. Nothing is close to zero,
and values of which neither is less count as equal. -/
def likeness (current threshold : Value) : Except Fault Binary64 :=
  if threshold.sameKey (.int 0) then .ok .zero
  else
    match current.order threshold with
    | .error e => .error (.shape e)
    | .ok (some _) => .error (.number .wrongKind)
    | .ok none => .ok .one

/-- How close a comparison that fails is to holding between two values that are not both numbers. -/
def closenessApart (op : Operator) (current threshold : Value) : Except Fault Binary64 :=
  match op with
  | .notEqual => .ok .zero
  | .other _ => .ok .zero
  | .equal => likeness current threshold
  | _ => .error (.number .wrongKind)

/-- How close a comparison is to holding between two values, from zero to one. -/
def Value.closeness (op : Operator) (current threshold : Value) : Except Fault Binary64 :=
  match current.number?, threshold.number? with
  | some m, some n => (Laurels.closeness op m n).mapError .number
  | _, _ =>
    match op.compares current threshold with
    | .error e => .error (.shape e)
    | .ok true => .ok .one
    | .ok false => closenessApart op current threshold

theorem compares_number (op : Operator) (a b : Number) :
    op.compares (.number a) (.number b) = .ok (op.holds a b) := by
  cases op <;> rfl

theorem closeness_number (op : Operator) (a b : Number) :
    Value.closeness op (.number a) (.number b) = (closeness op a b).mapError .number := rfl

end Laurels
