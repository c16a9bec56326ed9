import Laurels.Proofs.Number.Finiteness
import Mathlib.Algebra.Order.Field.Basic
import Mathlib.Data.Nat.Dist

/-!
# Rounding goes to the nearest value

`nearest` rounds a quotient to a multiple of a step that depends on the size of the quotient. No multiple of the
step is closer (`roundDiv_closest`). A value that is no multiple of it has smaller steps, so it lies below the
power of two at or under the quotient, and that power is a multiple of the step. So no value at all is closer
(`nearest_closest`), and a decimal is read as the finite value that is closest to it
(`Binary64.ofDecimal_closest`).
-/

namespace Laurels

theorem roundDiv_closest {n d : Nat} (hd : 0 < d) (t : Nat) : Nat.dist (roundDiv n d * d) n ≤ Nat.dist (t * d) n := by
  have hdiv : n / d * d + n % d = n := Nat.div_add_mod' n d
  have hmod : n % d < d := Nat.mod_lt n hd
  have hnext : (n / d + 1) * d = n / d * d + d := Nat.succ_mul _ _
  have hround : roundDiv n d = n / d ∧ 2 * (n % d) ≤ d ∨ roundDiv n d = n / d + 1 ∧ d ≤ 2 * (n % d) := by
    unfold roundDiv
    split_ifs <;> omega
  have hside : t * d ≤ n / d * d ∨ (n / d + 1) * d ≤ t * d := by
    rcases Nat.lt_or_ge (n / d) t with hlt | hle
    · exact Or.inr (Nat.mul_le_mul_right d hlt)
    · exact Or.inl (Nat.mul_le_mul_right d hle)
  unfold Nat.dist
  rcases hround with ⟨h, _⟩ | ⟨h, _⟩ <;> rw [h] <;> omega

/-- No number with 53 significant bits is closer to a quotient than the one it is rounded to. -/
theorem nearest_closest {n d : Nat} (hd : 0 < d) {m : Nat} (hm : m < twoTo 53) (e : Nat) :
    Nat.dist (nearest n d * d) n ≤ Nat.dist (m * twoTo e * d) n := by
  have hstep : ∀ t, Nat.dist (nearest n d * d) n ≤ Nat.dist (t * twoTo (excessBits (n / d)) * d) n := by
    intro t
    have h := roundDiv_closest (n := n) (Nat.mul_pos hd (twoTo_pos (excessBits (n / d)))) t
    rw [Nat.mul_comm d, ← Nat.mul_assoc, ← Nat.mul_assoc] at h
    unfold nearest
    rw [Nat.mul_comm d]
    exact h
  rcases Nat.lt_or_ge e (excessBits (n / d)) with hlt | hle
  · -- smaller steps: the value lies below a power of two that is a multiple of the step
    have hlog : 52 + excessBits (n / d) = (n / d).log2 := by
      unfold excessBits at hlt ⊢
      omega
    have hne : n / d ≠ 0 := by
      intro hzero
      rw [hzero] at hlt
      exact Nat.not_lt_zero e hlt
    have hbelow : m * twoTo e ≤ twoTo 52 * twoTo (excessBits (n / d)) :=
      calc m * twoTo e ≤ twoTo 52 * 2 * twoTo e := Nat.mul_le_mul_right _ (Nat.le_of_lt hm)
        _ = twoTo 52 * twoTo (e + 1) := by rw [Nat.mul_assoc, Nat.mul_comm 2, twoTo_succ e]
        _ ≤ twoTo 52 * twoTo (excessBits (n / d)) := Nat.mul_le_mul_left _ (twoTo_le_twoTo hlt)
    have hpower : twoTo 52 * twoTo (excessBits (n / d)) * d ≤ n := by
      rw [← twoTo_add, hlog]
      exact (Nat.mul_le_mul_right d (Nat.log2_self_le hne)).trans (Nat.div_mul_le_self n d)
    have hmul := Nat.mul_le_mul_right d hbelow
    refine (hstep (twoTo 52)).trans ?_
    rw [Nat.dist_eq_sub_of_le hpower, Nat.dist_eq_sub_of_le (hmul.trans hpower)]
    exact Nat.sub_le_sub_left hmul n
  · have hsplit : twoTo e = twoTo (e - excessBits (n / d)) * twoTo (excessBits (n / d)) := by
      rw [← twoTo_add, Nat.sub_add_cancel hle]
    have h := hstep (m * twoTo (e - excessBits (n / d)))
    rw [Nat.mul_assoc m, ← hsplit] at h
    exact h

theorem twoTo_three_mul_le (e : Nat) : twoTo (3 * e) ≤ tenTo e := by
  unfold twoTo tenTo
  exact (Nat.pow_mul 2 3 e).trans_le (Nat.pow_le_pow_left (by decide) e)

namespace Binary64

/-- No finite value is closer to a decimal than the one it is read as, in units scaled by its places. -/
theorem ofDecimal_closest_units {negative sign : Bool} {m places units : Nat} {h : Representable units}
    (heq : ofDecimal negative m (-(places : Int)) = .finite sign units h) {other : Nat} (hother : Representable other) :
    Nat.dist (units * tenTo places) (m * unitsPerOne) ≤ Nat.dist (other * tenTo places) (m * unitsPerOne) := by
  unfold ofDecimal at heq
  split at heq
  · rename_i hm
    cases heq
    rw [hm, Nat.zero_mul, Nat.zero_mul, Nat.dist_self]
    exact Nat.zero_le _
  rw [if_neg (by omega)] at heq
  split at heq
  · -- so many places that zero is closer than the first unit
    rename_i htiny
    cases heq
    have hsmall : m * unitsPerOne * 2 ≤ tenTo places :=
      calc m * unitsPerOne * 2
          ≤ twoTo (m.log2 + 1) * unitsPerOne * 2 :=
            Nat.mul_le_mul_right 2 (Nat.mul_le_mul_right _ (Nat.le_of_lt (lt_twoTo_succ_log2 m)))
        _ = twoTo (m.log2 + 1 + 1074 + 1) := by rw [twoTo_succ (m.log2 + 1 + 1074), twoTo_add _ 1074, unitsPerOne]
        _ ≤ twoTo (3 * places) := twoTo_le_twoTo (by omega)
        _ ≤ tenTo places := twoTo_three_mul_le places
    rcases Nat.eq_zero_or_pos other with rfl | hpos
    · exact Nat.le_refl _
    · have hunit : tenTo places ≤ other * tenTo places := Nat.le_mul_of_pos_left _ hpos
      rw [Nat.zero_mul, Nat.dist_zero_left, Nat.dist_eq_sub_of_le_right (by omega)]
      omega
  · have hwhole : tenTo (-(places : Int)).toNat = 1 := by
      rw [show (-(places : Int)).toNat = 0 by omega]
      rfl
    rw [hwhole, Nat.mul_one, Int.neg_neg, Int.toNat_natCast] at heq
    unfold ofQuotient at heq
    split at heq
    · cases heq
      obtain ⟨_, k, e, hk, rfl⟩ := hother
      exact nearest_closest (tenTo_pos places) hk e
    · cases heq

theorem abs_sub_eq_dist (a b : Nat) : |(a : ℚ) - b| = Nat.dist a b := by
  rcases Nat.le_total a b with h | h
  · rw [Nat.dist_eq_sub_of_le h, Nat.cast_sub h, abs_sub_comm, abs_of_nonneg (sub_nonneg.mpr (Nat.cast_le.mpr h))]
  · rw [Nat.dist_eq_sub_of_le_right h, Nat.cast_sub h, abs_of_nonneg (sub_nonneg.mpr (Nat.cast_le.mpr h))]

theorem abs_sub_eq_scaled (units m places c : Nat) : |(units : ℚ) / 2 ^ c - m / 10 ^ places|
    = (Nat.dist (units * tenTo places) (m * twoTo c) : ℚ) / (2 ^ c * 10 ^ places) := by
  have htwo : ((twoTo c : Nat) : ℚ) = 2 ^ c := Nat.cast_pow 2 c
  have hten : ((tenTo places : Nat) : ℚ) = 10 ^ places := Nat.cast_pow 10 places
  have hpos : (0 : ℚ) < 2 ^ c * 10 ^ places := mul_pos (pow_pos two_pos c) (pow_pos (by decide) places)
  rw [← abs_sub_eq_dist, Nat.cast_mul, Nat.cast_mul, htwo, hten,
    div_sub_div _ _ (pow_ne_zero c two_ne_zero) (pow_ne_zero places (by decide)), abs_div, abs_of_pos hpos,
    mul_comm (m : ℚ) (2 ^ c)]

/-- **Decimals are read as the closest value.** No finite value is closer to a decimal than the one it is read
as. -/
theorem ofDecimal_closest {negative sign : Bool} {m places units : Nat} {h : Representable units}
    (heq : ofDecimal negative m (-(places : Int)) = .finite sign units h) {other : Nat} (hother : Representable other) :
    |(units : ℚ) / 2 ^ 1074 - m / 10 ^ places| ≤ |(other : ℚ) / 2 ^ 1074 - m / 10 ^ places| := by
  rw [abs_sub_eq_scaled, abs_sub_eq_scaled]
  exact div_le_div_of_nonneg_right (Nat.cast_le.mpr (ofDecimal_closest_units heq hother))
    (mul_nonneg (pow_nonneg zero_le_two _) (pow_nonneg (by decide) _))

end Binary64

end Laurels
