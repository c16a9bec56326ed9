import Laurels.Number.Binary64

/-!
# Numbers

A threshold is an integer or a decimal, and the two stay apart: integers are exact and unbounded,
decimals are binary64 values. Comparisons between any two numbers are exact. A quotient is always a
binary64 value: of two integers it is the exact quotient rounded once, otherwise an integer operand
is rounded first. An integer or quotient that no finite value can stand for is a fault.
-/

namespace Laurels

/-- An integer, or a binary64 value. -/
inductive Number where
  | int (n : Int)
  | float (x : Binary64)
deriving DecidableEq

/-- Why a computation with numbers has no result. -/
inductive NumberFault where
  /-- An integer is too large for a binary64 value. -/
  | integerTooLarge
  /-- The quotient of two integers is too large for a binary64 value. -/
  | quotientTooLarge
  /-- An infinity has no integer part. -/
  | infinite
  /-- The value is not a number. -/
  | notNumber
  /-- Division by zero. -/
  | divisionByZero
  /-- A text is no numeral. -/
  | unreadable
  /-- A value of this kind has no number. -/
  | wrongKind
deriving DecidableEq, Repr

/-- A place on the extended number line, finite ones in units of 2⁻¹⁰⁷⁴. -/
inductive Place where
  | bottom
  | point (units : Int)
  | top
deriving DecidableEq, Repr

/-- The order of the extended line. -/
def Place.compare : Place → Place → Ordering
  | .bottom, .bottom => .eq
  | .bottom, _ => .lt
  | _, .bottom => .gt
  | .top, .top => .eq
  | .top, _ => .gt
  | _, .top => .lt
  | .point a, .point b => Ord.compare a b

namespace Number

instance : Inhabited Number := ⟨.int 0⟩

instance : OfNat Number n := ⟨.int n⟩

/-- Where a number lies; `none` for what is not a number. -/
def place? : Number → Option Place
  | .int n => some (.point (n * unitsPerOne))
  | .float (.finite negative units _) => some (.point (Binary64.signed negative units))
  | .float (.infinite true) => some .bottom
  | .float (.infinite false) => some .top
  | .float .nan => none

/-- The exact order of two numbers; `none` if one of them is not a number. -/
def compare? (a b : Number) : Option Ordering :=
  match a.place?, b.place? with
  | some p, some q => some (p.compare q)
  | _, _ => none

/-- Strictly less. -/
def lt (a b : Number) : Bool := a.compare? b == some .lt

/-- Equal in value: `2` and `2.0` are, and the two zeros are. -/
def same (a b : Number) : Bool := a.compare? b == some .eq

/-- Less or equal in value. -/
def le (a b : Number) : Bool := a.lt b || a.same b

/-- Whether a number is zero, of either sign. -/
def isZero (a : Number) : Bool := a.same 0

/-- A number as a binary64 value. -/
def toBinary64 : Number → Except NumberFault Binary64
  | .int n => if (Binary64.ofInt n).isFinite then .ok (Binary64.ofInt n) else .error .integerTooLarge
  | .float x => .ok x

/-- The quotient of two numbers. -/
def quotient : Number → Number → Except NumberFault Binary64
  | .int a, .int b =>
    if b = 0 then .error .divisionByZero
    else
      let q := Binary64.ofQuotient (decide (a < 0) ^^ decide (b < 0)) (a.natAbs * unitsPerOne) b.natAbs
      if q.isFinite then .ok q else .error .quotientTooLarge
  | a, b => do
    let x ← a.toBinary64
    let y ← b.toBinary64
    if (Number.float y).isZero then .error .divisionByZero else .ok (x.quotient y)

/-- The number plus one. -/
def succ : Number → Number
  | .int n => .int (n + 1)
  | .float x => .float (x.add .one)

/-- The number minus one. -/
def pred : Number → Number
  | .int n => .int (n - 1)
  | .float x => .float (x.add Binary64.one.negate)

/-- The number without its fraction. -/
def truncate : Number → Except NumberFault Int
  | .int n => .ok n
  | .float (.finite negative units _) => .ok (Binary64.signed negative (units / unitsPerOne))
  | .float (.infinite _) => .error .infinite
  | .float .nan => .error .notNumber

end Number

end Laurels
