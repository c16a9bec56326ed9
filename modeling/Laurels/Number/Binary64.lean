import Laurels.Number.Rounding

/-!
# Binary64 values

A decimal threshold, a progress estimate and every quotient is a binary64 value: a finite one, an
infinity, or not a number. A finite value carries its sign apart, so that the two zeros differ, and
its magnitude as a whole number of units of 2⁻¹⁰⁷⁴ together with the fact that this number has at
most 53 significant bits. Operations are exact in units and round once.
-/

namespace Laurels

/-- A binary64 value. -/
inductive Binary64 where
  /-- The value `± units · 2⁻¹⁰⁷⁴`. -/
  | finite (negative : Bool) (units : Nat) (representable : Representable units)
  /-- An infinity. -/
  | infinite (negative : Bool)
  /-- Not a number. -/
  | nan
deriving DecidableEq

namespace Binary64

/-- Positive zero. -/
def zero : Binary64 := .finite false 0 representable_zero

instance : Inhabited Binary64 := ⟨zero⟩

/-- The value nearest to `± n / d` units; an infinity if that is too large. -/
def ofQuotient (negative : Bool) (n d : Nat) : Binary64 :=
  if h : nearest n d < unitsLimit then .finite negative (nearest n d) (representable_nearest h)
  else .infinite negative

/-- The value nearest to an integer. -/
def ofInt (n : Int) : Binary64 := ofQuotient (decide (n < 0)) (n.natAbs * unitsPerOne) 1

/-- One. -/
def one : Binary64 := ofInt 1

/-- Whether a value is neither infinite nor not a number. -/
def isFinite : Binary64 → Bool
  | .finite .. => true
  | _ => false

/-- The value with its sign changed. -/
def negate : Binary64 → Binary64
  | .finite negative units h => .finite (!negative) units h
  | .infinite negative => .infinite (!negative)
  | .nan => .nan

/-- The signed number of units of a magnitude. -/
def signed (negative : Bool) (units : Nat) : Int := if negative then -(units : Int) else units

/-- The sum, rounded once. A sum of zero is positive unless both operands are negative. -/
def add : Binary64 → Binary64 → Binary64
  | .finite s a _, .finite t b _ =>
    let total := signed s a + signed t b
    ofQuotient (if total = 0 then s && t else decide (total < 0)) total.natAbs 1
  | .nan, _ => .nan
  | _, .nan => .nan
  | .infinite s, .infinite t => if s = t then .infinite s else .nan
  | .infinite s, .finite .. => .infinite s
  | .finite .., .infinite t => .infinite t

/-- The quotient by a value that is not zero, rounded once. -/
def quotient : Binary64 → Binary64 → Binary64
  | .finite s a _, .finite t b _ => ofQuotient (s ^^ t) (a * unitsPerOne) b
  | .nan, _ => .nan
  | _, .nan => .nan
  | .infinite _, .infinite _ => .nan
  | .infinite s, .finite t .. => .infinite (s ^^ t)
  | .finite s .., .infinite t => .finite (s ^^ t) 0 representable_zero

/-- The value nearest to `± m · 10^e`. Exponents far outside the range of finite values are settled
without computing the power of ten. -/
def ofDecimal (negative : Bool) (m : Nat) (e : Int) : Binary64 :=
  if m = 0 then .finite negative 0 representable_zero
  else if 400 < e then .infinite negative
  else if e < -(400 + (m.log2 : Int)) then .finite negative 0 representable_zero
  else ofQuotient negative (m * tenTo e.toNat * unitsPerOne) (tenTo (-e).toNat)

theorem representable_of_fields {m e : Nat} (hm : m < twoTo 53) (he : e ≤ 2045) :
    Representable (m * twoTo e) := by
  refine ⟨?_, m, e, hm, rfl⟩
  have hlt : m * twoTo e < twoTo (53 + e) := by
    rw [twoTo_add]
    exact Nat.mul_lt_mul_of_pos_right hm (twoTo_pos e)
  exact Nat.lt_of_lt_of_le hlt (twoTo_le_twoTo (by omega))

/-- The value with the given 64 bits: a sign bit, 11 bits of exponent and 52 bits of fraction. -/
def ofBits (bits : UInt64) : Binary64 :=
  let negative := decide (twoTo 63 ≤ bits.toNat)
  let exponent := bits.toNat / twoTo 52 % 2048
  let fraction := bits.toNat % twoTo 52
  have hf : fraction < twoTo 52 := Nat.mod_lt _ (twoTo_pos 52)
  have hx : exponent < 2048 := Nat.mod_lt _ (by decide)
  have h53 : twoTo 53 = twoTo 52 * 2 := twoTo_succ 52
  if exponent = 0 then
    .finite negative (fraction * twoTo 0) (representable_of_fields (by omega) (by omega))
  else if h : exponent = 2047 then
    if fraction = 0 then .infinite negative else .nan
  else
    .finite negative ((twoTo 52 + fraction) * twoTo (exponent - 1))
      (representable_of_fields (by omega) (by omega))

/-- The 64 bits of a value; one pattern stands for all values that are not a number. -/
def toBits : Binary64 → UInt64
  | .finite negative units _ =>
    let sign := if negative then twoTo 63 else 0
    if units < twoTo 52 then UInt64.ofNat (sign + units)
    else
      let e := excessBits units
      UInt64.ofNat (sign + (e + 1) * twoTo 52 + (units / twoTo e - twoTo 52))
  | .infinite negative => if negative then 0xFFF0000000000000 else 0x7FF0000000000000
  | .nan => 0x7FF8000000000000

end Binary64

end Laurels
