import Laurels.Number.Power

/-!
# Rounding to 53 significant bits

Finite binary64 values are whole multiples of 2⁻¹⁰⁷⁴, so this library measures them in that unit
and a value is a natural number of units with a sign. Below 2⁵³ units every whole number is a
value; above, a value has at most 53 significant bits. `nearest` rounds an exact quotient to a value:
to the nearest one, and a tie to the one whose last bit is zero. Every arithmetic operation computes
an exact quotient first and rounds once.
-/

namespace Laurels

/-- The quotient `n / d` rounded to the nearest natural number, a tie to the even one. -/
def roundDiv (n d : Nat) : Nat :=
  if 2 * (n % d) < d then n / d
  else if d < 2 * (n % d) then n / d + 1
  else if n / d % 2 = 0 then n / d
  else n / d + 1

/-- The number of low bits that a quotient of size `q` has beyond 53 significant ones. -/
def excessBits (q : Nat) : Nat := q.log2 - 52

/-- The quotient `n / d` rounded to 53 significant bits, and to a whole number. -/
def nearest (n d : Nat) : Nat :=
  roundDiv n (d * twoTo (excessBits (n / d))) * twoTo (excessBits (n / d))

/-- One, in units of 2⁻¹⁰⁷⁴. -/
def unitsPerOne : Nat := twoTo 1074

/-- The first magnitude, in units, that is too large for a finite value. -/
def unitsLimit : Nat := twoTo 2098

/-- A natural number of units is a finite value: at most 53 significant bits, below the limit. -/
def Representable (units : Nat) : Prop :=
  units < unitsLimit ∧ ∃ m e, m < twoTo 53 ∧ units = m * twoTo e

theorem roundDiv_le_succ (n d : Nat) : roundDiv n d ≤ n / d + 1 := by
  unfold roundDiv
  split
  · omega
  · split
    · omega
    · split <;> omega

theorem div_twoTo_excessBits_lt (q : Nat) : q / twoTo (excessBits q) < twoTo 53 := by
  rw [Nat.div_lt_iff_lt_mul (twoTo_pos _), ← twoTo_add]
  exact Nat.lt_of_lt_of_le (lt_twoTo_succ_log2 q) (twoTo_le_twoTo (by unfold excessBits; omega))

/-- What `nearest` returns has at most 53 significant bits. -/
theorem nearest_significant (n d : Nat) : ∃ m e, m < twoTo 53 ∧ nearest n d = m * twoTo e := by
  have hq : n / (d * twoTo (excessBits (n / d))) < twoTo 53 := by
    rw [← Nat.div_div_eq_div_mul]
    exact div_twoTo_excessBits_lt (n / d)
  have hr : roundDiv n (d * twoTo (excessBits (n / d))) ≤ twoTo 53 :=
    Nat.le_trans (roundDiv_le_succ _ _) hq
  rcases Nat.lt_or_eq_of_le hr with h | h
  · exact ⟨_, _, h, rfl⟩
  · refine ⟨twoTo 52, excessBits (n / d) + 1, by decide, ?_⟩
    unfold nearest
    rw [h, ← twoTo_add, ← twoTo_add]
    congr 1
    omega

theorem representable_nearest {n d : Nat} (h : nearest n d < unitsLimit) :
    Representable (nearest n d) :=
  ⟨h, nearest_significant n d⟩

theorem representable_zero : Representable 0 := ⟨twoTo_pos _, 0, 0, by decide, by decide⟩

end Laurels
