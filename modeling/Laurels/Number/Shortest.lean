import Laurels.Number.Basic

/-!
# Numbers as text

An integer is written in decimal digits. A finite binary64 value is written with the fewest digits
that read back to it, the nearest to it among those: positionally, with at least one place, if its
leading digit stands for a power of ten from 10⁻⁴ up to 10¹⁵, and otherwise with a signed exponent
of at least two digits.
-/

namespace Laurels

/-- A decimal `digits · 10^exponent`. -/
structure Decimal where
  digits : Nat
  exponent : Int

namespace Decimal

/-- Compare `a · 10^e` with `b` quarters of a unit of 2⁻¹⁰⁷⁴. -/
def compareQuarters (a : Nat) (e : Int) (b : Nat) : Ordering :=
  compare (4 * a * tenTo e.toNat * unitsPerOne) (b * tenTo (-e).toNat)

/-- Whether a decimal rounds to the value of `units` units: it lies between the points halfway to
the two neighbours, the ends counting when the last of the 53 bits is zero. -/
def readsBack (units : Nat) (d : Decimal) : Bool :=
  let gap := twoTo (excessBits units)
  let narrowBelow := units == twoTo units.log2 && 1 < gap
  let low := 4 * units - (if narrowBelow then gap else 2 * gap)
  let high := 4 * units + 2 * gap
  let inclusive := units / gap % 2 == 0
  let cl := compareQuarters d.digits d.exponent low
  let ch := compareQuarters d.digits d.exponent high
  (cl == .gt || (inclusive && cl == .eq)) && (ch == .lt || (inclusive && ch == .eq))

/-- The least `k` with `units · 2⁻¹⁰⁷⁴ < 10^k`, among the scales of finite values. -/
def scale (units : Nat) : Int :=
  match (List.range 640).find? fun (i : Nat) =>
      let k : Int := (i : Int) - 324
      units * tenTo (-k).toNat < tenTo k.toNat * unitsPerOne with
  | some i => (i : Int) - 324
  | none => 316

/-- The decimal of the grid `10^e` that is nearest to `units` among those that read back, the even
one of two equally near ones. -/
def onGrid? (units : Nat) (e : Int) : Option Decimal :=
  let num := units * tenTo (-e).toNat
  let den := tenTo e.toNat * unitsPerOne
  let below := num / den
  let first := roundDiv num den
  let second := if first = below then below + 1 else below
  if readsBack units ⟨first, e⟩ then some ⟨first, e⟩
  else if readsBack units ⟨second, e⟩ then some ⟨second, e⟩
  else none

/-- Trailing zeros moved into the exponent. At most `fuel` of them. -/
def strip : Nat → Decimal → Decimal
  | 0, d => d
  | fuel + 1, d => if d.digits % 10 = 0 ∧ d.digits ≠ 0 then strip fuel ⟨d.digits / 10, d.exponent + 1⟩ else d

/-- The shortest decimal that reads back to a positive number of units. -/
def shortest (units : Nat) : Decimal :=
  let k := scale units
  match (List.range 17).findSome? fun (i : Nat) => onGrid? units (k - (i + 1 : Nat)) with
  | some d => strip 20 d
  | none => ⟨units * Nat.pow 5 1074, -1074⟩

/-- A decimal laid out as text. -/
def render (d : Decimal) : String :=
  let ds := Nat.toDigits 10 d.digits
  let point : Int := d.exponent + ds.length
  let zeros (n : Int) := List.replicate n.toNat '0'
  let body : List Char :=
    if -4 < point ∧ point ≤ 16 then
      if point ≤ 0 then ['0', '.'] ++ zeros (-point) ++ ds
      else if (ds.length : Int) ≤ point then ds ++ zeros (point - ds.length) ++ ['.', '0']
      else ds.take point.toNat ++ ['.'] ++ ds.drop point.toNat
    else
      let e := point - 1
      let eDigits := Nat.toDigits 10 e.natAbs
      let tail := match ds.drop 1 with
        | [] => []
        | rest => '.' :: rest
      ds.take 1 ++ tail ++ ['e', if e < 0 then '-' else '+'] ++
        zeros (2 - (eDigits.length : Int)) ++ eDigits
  String.ofList body

end Decimal

/-- A binary64 value as text. -/
def Binary64.text : Binary64 → String
  | .finite negative units _ =>
    (if negative then "-" else "") ++ (if units = 0 then "0.0" else (Decimal.shortest units).render)
  | .infinite negative => if negative then "-inf" else "inf"
  | .nan => "nan"

/-- A number as text. -/
def Number.text : Number → String
  | .int n => toString n
  | .float x => x.text

end Laurels
