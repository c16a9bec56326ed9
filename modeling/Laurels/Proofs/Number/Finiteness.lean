import Laurels.Proofs.Number.Quotient
import Mathlib.Algebra.Order.Field.Rat
import Mathlib.Tactic.Ring

/-!
# Which decimals are finite

The finite binary64 values end below 2¹⁰²⁴, and their last step is 2⁹⁷¹. A quotient half a step below the
end is the first that is rounded to an infinity: half way between two values it goes to the one with the even
significand, and that is the one beyond the end. `nearest_lt_iff` says so for any end, in units;
`isFinite_ofDecimal` says it of decimals, as rational numbers.
-/

namespace Laurels

/-! ## Half a step below the end -/

/-- A quotient is rounded below an even number if it is less than half a unit below it, or more. -/
theorem roundDiv_lt_iff {n d m : Nat} (hd : 0 < d) : roundDiv n d < 2 * m ↔ 2 * n + d < 4 * m * d := by
  have hdiv : d * (n / d) + n % d = n := Nat.div_add_mod n d
  have hmod : n % d < d := Nat.mod_lt n hd
  unfold roundDiv
  generalize n / d = q at hdiv ⊢
  generalize n % d = r at hdiv hmod ⊢
  subst hdiv
  have hdouble : 4 * m * d = 2 * (2 * m * d) := by ring
  rcases Nat.lt_trichotomy (q + 1) (2 * m) with hlt | heq | hgt
  · obtain ⟨j, hj⟩ := Nat.exists_eq_add_of_lt hlt
    have hprod : 2 * m * d = d * q + 2 * d + j * d := by
      rw [hj]
      ring
    split_ifs <;> omega
  · -- the quotient is odd, so a tie is rounded up
    have hprod : 2 * m * d = d * q + d := by
      rw [← heq]
      ring
    split_ifs <;> omega
  · obtain ⟨j, hj⟩ := Nat.exists_eq_add_of_le (Nat.le_of_lt_succ hgt)
    have hprod : d * q = 2 * m * d + j * d := by
      rw [hj]
      ring
    split_ifs <;> omega

theorem log2_eq {q k : Nat} (hle : twoTo k ≤ q) (hlt : q < twoTo (k + 1)) : q.log2 = k :=
  have hne : q ≠ 0 := Nat.ne_of_gt (Nat.lt_of_lt_of_le (twoTo_pos k) hle)
  Nat.le_antisymm (Nat.le_of_lt_succ ((Nat.log2_lt hne).mpr hlt)) ((Nat.le_log2 hne).mpr hle)

/-- A quotient is rounded below a power of two if it lies more than half a step below it. -/
theorem nearest_lt_iff {n d : Nat} (hd : 0 < d) (k : Nat) :
    nearest n d < twoTo (k + 54) ↔ n + twoTo k * d < twoTo (k + 54) * d := by
  have hfloor : n / d * d ≤ n := Nat.div_mul_le_self n d
  have hceil : n < (n / d + 1) * d := Nat.lt_mul_of_div_lt (Nat.lt_succ_self _) hd
  have htop : twoTo (k + 54) = twoTo (k + 53) * 2 := twoTo_succ (k + 53)
  rcases Nat.lt_or_ge (n / d) (twoTo (k + 53)) with hlow | hlow
  · -- far below: rounding does not even double
    have hround := nearest_le n d
    have hn : n < twoTo (k + 53) * d := Nat.lt_of_lt_of_le hceil (Nat.mul_le_mul_right d hlow)
    have hstep : twoTo k * d ≤ twoTo (k + 53) * d := Nat.mul_le_mul_right d (twoTo_le_twoTo (by omega))
    have hprod : twoTo (k + 54) * d = twoTo (k + 53) * d + twoTo (k + 53) * d := by
      rw [htop]
      ring
    exact ⟨fun _ => by omega, fun _ => by omega⟩
  rcases Nat.lt_or_ge (n / d) (twoTo (k + 54)) with hhigh | hhigh
  · -- within the last power of two, where a step has k + 1 bits
    have hexcess : excessBits (n / d) = k + 1 := by
      unfold excessBits
      rw [log2_eq hlow hhigh]
      omega
    have hsplit : twoTo (k + 54) = 2 * twoTo 52 * twoTo (k + 1) :=
      calc twoTo (k + 54)
          = twoTo (53 + (k + 1)) := congrArg twoTo (by omega)
        _ = twoTo 53 * twoTo (k + 1) := twoTo_add _ _
        _ = 2 * twoTo 52 * twoTo (k + 1) := congrArg (· * twoTo (k + 1)) (by decide)
    have hhalf : 4 * twoTo 52 * (d * twoTo (k + 1)) = 2 * (twoTo (k + 54) * d) := by
      rw [hsplit]
      ring
    have hstep : d * twoTo (k + 1) = 2 * (twoTo k * d) := by
      rw [twoTo_succ]
      ring
    unfold nearest
    rw [hexcess]
    conv_lhs => rw [hsplit]
    rw [Nat.mul_lt_mul_right (twoTo_pos _), roundDiv_lt_iff (Nat.mul_pos hd (twoTo_pos _)), hhalf, hstep]
    exact ⟨fun _ => by omega, fun _ => by omega⟩
  · -- at the end or beyond it: the leading bit is kept
    have hne : n / d ≠ 0 := Nat.ne_of_gt (Nat.lt_of_lt_of_le (twoTo_pos _) hhigh)
    have hround : twoTo (k + 54) ≤ nearest n d :=
      Nat.le_trans (twoTo_le_twoTo ((Nat.le_log2 hne).mpr hhigh)) (twoTo_log2_le_nearest hne)
    have hn : twoTo (k + 54) * d ≤ n := Nat.le_trans (Nat.mul_le_mul_right d hhigh) hfloor
    exact ⟨fun h => by omega, fun h => by omega⟩

/-! ## Decimals -/

theorem tenTo_pos (e : Nat) : 0 < tenTo e := Nat.pow_pos (by decide)

theorem twoTo_le_tenTo (e : Nat) : twoTo e ≤ tenTo e := Nat.pow_le_pow_left (by decide) e

theorem step_lt_unitsLimit : unitsPerOne + twoTo 2044 < unitsLimit := by
  have hone : unitsPerOne ≤ twoTo 2044 := twoTo_le_twoTo (by decide)
  have hend : twoTo 2046 ≤ unitsLimit := twoTo_le_twoTo (by decide)
  have hpos : 0 < twoTo 2044 := twoTo_pos 2044
  have htwice : twoTo 2046 = twoTo 2044 * 2 * 2 := by rw [twoTo_succ 2045, twoTo_succ 2044]
  omega

namespace Binary64

/-- A decimal is finite if it lies below the end by more than half a step. -/
theorem isFinite_ofDecimal_units {negative : Bool} {m places : Nat} :
    (ofDecimal negative m (-(places : Int))).isFinite = true
      ↔ m * unitsPerOne + twoTo 2044 * tenTo places < unitsLimit * tenTo places := by
  have hsmall : m ≤ tenTo places →
      m * unitsPerOne + twoTo 2044 * tenTo places < unitsLimit * tenTo places := by
    intro hm
    calc m * unitsPerOne + twoTo 2044 * tenTo places
        ≤ tenTo places * unitsPerOne + twoTo 2044 * tenTo places :=
          Nat.add_le_add_right (Nat.mul_le_mul_right _ hm) _
      _ = (unitsPerOne + twoTo 2044) * tenTo places := by rw [Nat.add_mul, Nat.mul_comm (tenTo places)]
      _ < unitsLimit * tenTo places := Nat.mul_lt_mul_of_pos_right step_lt_unitsLimit (tenTo_pos places)
  unfold ofDecimal
  split
  · rename_i hm
    exact ⟨fun _ => hsmall (hm ▸ Nat.zero_le _), fun _ => rfl⟩
  rw [if_neg (by omega)]
  split
  · -- so many places that the value is below one
    rename_i htiny
    have hm : m ≤ tenTo places :=
      calc m ≤ twoTo (m.log2 + 1) := Nat.le_of_lt (lt_twoTo_succ_log2 m)
        _ ≤ twoTo places := twoTo_le_twoTo (by omega)
        _ ≤ tenTo places := twoTo_le_tenTo places
    exact ⟨fun _ => hsmall hm, fun _ => rfl⟩
  · have hwhole : tenTo (-(places : Int)).toNat = 1 := by
      rw [show (-(places : Int)).toNat = 0 by omega]
      rfl
    rw [isFinite_ofQuotient, hwhole, Nat.mul_one, Int.neg_neg, Int.toNat_natCast]
    exact nearest_lt_iff (tenTo_pos places) 2044

/-- The end of the finite values, half a step less, in ones and not in units. -/
theorem units_lt_iff {m places a b c : Nat} :
    m * twoTo c + twoTo (b + c) * tenTo places < twoTo (a + c) * tenTo places
      ↔ (m : ℚ) / 10 ^ places < 2 ^ a - 2 ^ b := by
  have htwo : ∀ e, ((twoTo e : Nat) : ℚ) = 2 ^ e := Nat.cast_pow 2
  have hten : ((tenTo places : Nat) : ℚ) = 10 ^ places := Nat.cast_pow 10 places
  have hsteps : (2 : ℚ) ^ (a + c) * 10 ^ places - 2 ^ (b + c) * 10 ^ places
      = (2 ^ a - 2 ^ b) * 10 ^ places * 2 ^ c := by ring
  rw [← Nat.cast_lt (α := ℚ), Nat.cast_add, Nat.cast_mul, Nat.cast_mul, Nat.cast_mul, htwo, htwo, htwo, hten,
    ← lt_sub_iff_add_lt, hsteps, mul_lt_mul_iff_left₀ (pow_pos two_pos c), div_lt_iff₀ (pow_pos (by decide) places)]

/-- **A decimal is finite** if it is less than 2¹⁰²⁴ by more than 2⁹⁷⁰. -/
theorem isFinite_ofDecimal {negative : Bool} {m places : Nat} :
    (ofDecimal negative m (-(places : Int))).isFinite = true ↔ (m : ℚ) / 10 ^ places < 2 ^ 1024 - 2 ^ 970 :=
  isFinite_ofDecimal_units.trans units_lt_iff

end Binary64

end Laurels
