import Laurels.Proofs.Number.Nearest

/-!
# Rounding keeps order

A quotient that is no larger than another one is not rounded to more than the other one (`nearest_mono`), however
the two are written (`nearest_mul_right`). Between powers of two the step is the same for both, and where it changes
a power of two lies in between. A value is rounded to itself (`nearest_self`).

So whatever holds of a quotient and a value holds of the rounded quotient and the value: `nearest_le_of_le` and
`le_nearest_of_le`. Only the strict order can be lost. Next to one it is not lost if the quotient is that of two values,
or of two whole numbers: `Representable.fallsShort`, `FallsShort.of_add_le` and `FallsShort.nearest_lt_one`.
-/

namespace Laurels

/-! ## Steps of one size -/

theorem roundDiv_mul_right (n d : Nat) {k : Nat} (hk : 0 < k) : roundDiv (n * k) (d * k) = roundDiv n d := by
  have hdiv : n * k / (d * k) = n / d := Nat.mul_div_mul_right n d hk
  have hmod : n * k % (d * k) = n % d * k := Nat.mul_mod_mul_right k n d
  have hdouble : 2 * (n % d * k) = 2 * (n % d) * k := (Nat.mul_assoc 2 (n % d) k).symm
  unfold roundDiv
  rw [hdiv, hmod, hdouble]
  simp only [Nat.mul_lt_mul_right hk]

theorem roundDiv_mono {n n' : Nat} (h : n ≤ n') (d : Nat) : roundDiv n d ≤ roundDiv n' d := by
  rcases Nat.lt_or_ge (n / d) (n' / d) with hlt | hge
  · calc roundDiv n d ≤ n / d + 1 := roundDiv_le_succ n d
      _ ≤ n' / d := hlt
      _ ≤ roundDiv n' d := div_le_roundDiv n' d
  · -- the same whole part, so the remainders are in the order of the dividends
    have hdiv : n / d = n' / d := Nat.le_antisymm (Nat.div_le_div_right h) hge
    have hmod : n % d ≤ n' % d := by
      have hn := Nat.div_add_mod n d
      have hn' := Nat.div_add_mod n' d
      rw [hdiv] at hn
      omega
    unfold roundDiv
    rw [hdiv]
    split_ifs <;> omega

/-! ## All steps -/

/-- Rounding does not depend on how a quotient is written. -/
theorem nearest_mul_right (n d : Nat) {k : Nat} (hk : 0 < k) : nearest (n * k) (d * k) = nearest n d := by
  unfold nearest
  rw [Nat.mul_div_mul_right n d hk, Nat.mul_right_comm d k, roundDiv_mul_right _ _ hk]

/-- Rounding goes at most to the next power of two. -/
theorem nearest_le_twoTo (n d : Nat) : nearest n d ≤ twoTo ((n / d).log2 + 1) := by
  have hround := roundDiv_le_succ n (d * twoTo (excessBits (n / d)))
  rw [← Nat.div_div_eq_div_mul] at hround
  have hsplit : twoTo ((n / d).log2 + 1)
      = twoTo ((n / d).log2 + 1 - excessBits (n / d)) * twoTo (excessBits (n / d)) := by
    rw [← twoTo_add]
    congr 1
    unfold excessBits
    omega
  have hfloor : n / d / twoTo (excessBits (n / d)) < twoTo ((n / d).log2 + 1 - excessBits (n / d)) := by
    rw [Nat.div_lt_iff_lt_mul (twoTo_pos _), ← hsplit]
    exact lt_twoTo_succ_log2 (n / d)
  unfold nearest
  rw [hsplit]
  exact Nat.mul_le_mul_right _ (Nat.le_trans hround hfloor)

theorem nearest_mono_left {n n' : Nat} (h : n ≤ n') (d : Nat) : nearest n d ≤ nearest n' d := by
  have hquotient : n / d ≤ n' / d := Nat.div_le_div_right h
  rcases Nat.lt_or_ge (excessBits (n / d)) (excessBits (n' / d)) with hlt | hge
  · -- the steps differ: a power of two lies between the two
    have hlog : (n / d).log2 + 1 ≤ (n' / d).log2 := by
      unfold excessBits at hlt
      omega
    have hne : n' / d ≠ 0 := by
      intro hzero
      rw [hzero] at hlog
      exact Nat.not_succ_le_zero _ hlog
    calc nearest n d ≤ twoTo ((n / d).log2 + 1) := nearest_le_twoTo n d
      _ ≤ twoTo (n' / d).log2 := twoTo_le_twoTo hlog
      _ ≤ nearest n' d := twoTo_log2_le_nearest hne
  · have hlog : (n / d).log2 ≤ (n' / d).log2 := by
      by_cases hzero : n / d = 0
      · rw [hzero]
        exact Nat.zero_le _
      · have hne : n' / d ≠ 0 := fun h' => hzero (Nat.le_zero.mp (h' ▸ hquotient))
        exact (Nat.le_log2 hne).mpr (Nat.le_trans (Nat.log2_self_le hzero) hquotient)
    have hexcess : excessBits (n / d) = excessBits (n' / d) := by
      unfold excessBits at hge ⊢
      omega
    unfold nearest
    rw [hexcess]
    exact Nat.mul_le_mul_right _ (roundDiv_mono h _)

/-- **Rounding keeps order.** -/
theorem nearest_mono {n d n' d' : Nat} (hd : 0 < d) (hd' : 0 < d') (h : n * d' ≤ n' * d) :
    nearest n d ≤ nearest n' d' := by
  rw [← nearest_mul_right n d hd', ← nearest_mul_right n' d' hd, Nat.mul_comm d' d]
  exact nearest_mono_left h (d * d')

/-! ## Values -/

/-- **A value is rounded to itself.** -/
theorem nearest_self {units : Nat} (h : Representable units) {d : Nat} (hd : 0 < d) :
    nearest (units * d) d = units := by
  obtain ⟨_, m, e, hm, rfl⟩ := h
  have hclosest := nearest_closest (n := m * twoTo e * d) hd hm e
  rw [Nat.dist_self, Nat.le_zero] at hclosest
  exact Nat.eq_of_mul_eq_mul_right hd (Nat.eq_of_dist_eq_zero hclosest)

theorem nearest_zero (d : Nat) : nearest 0 d = 0 := by
  unfold nearest roundDiv
  rw [Nat.zero_div, Nat.zero_mod, Nat.zero_div]
  split_ifs <;> first | exact Nat.zero_mul _ | omega

/-- A quotient that is no larger than a value is not rounded beyond it. -/
theorem nearest_le_of_le {n d units : Nat} (h : Representable units) (hd : 0 < d) (hle : n ≤ units * d) :
    nearest n d ≤ units := by
  rw [← nearest_self h hd]
  exact nearest_mono_left hle d

/-- A quotient that is no smaller than a value is not rounded below it. -/
theorem le_nearest_of_le {n d units : Nat} (h : Representable units) (hd : 0 < d) (hle : units * d ≤ n) :
    units ≤ nearest n d := by
  rw [← nearest_self h hd]
  exact nearest_mono_left hle d

theorem twoTo_lt_twoTo {a b : Nat} (h : a < b) : twoTo a < twoTo b := Nat.pow_lt_pow_right (by decide) h

/-- A whole number up to 2⁵³ is a value. -/
theorem representable_whole {n : Nat} (h : n ≤ twoTo 53) : Representable (n * unitsPerOne) := by
  have hlimit : twoTo 53 * unitsPerOne < unitsLimit := by
    unfold unitsPerOne unitsLimit
    rw [← twoTo_add]
    exact twoTo_lt_twoTo (by decide)
  refine ⟨Nat.lt_of_le_of_lt (Nat.mul_le_mul_right _ h) hlimit, ?_⟩
  rcases Nat.lt_or_eq_of_le h with hlt | rfl
  · exact ⟨n, 1074, hlt, rfl⟩
  · refine ⟨1, 53 + 1074, by decide, ?_⟩
    rw [Nat.one_mul, twoTo_add, unitsPerOne]

theorem representable_unitsPerOne : Representable unitsPerOne := by
  have h := representable_whole (n := 1) (twoTo_pos 53)
  rwa [Nat.one_mul] at h

/-! ## Below the end -/

/-- The last value is a step of 2²⁰⁴⁵ units below the end. -/
theorem Representable.le_last {units : Nat} (h : Representable units) : units ≤ (twoTo 53 - 1) * twoTo 2045 := by
  obtain ⟨hlt, m, e, hm, rfl⟩ := h
  rcases Nat.le_total e 2045 with hle | hle
  · exact Nat.mul_le_mul (Nat.le_sub_one_of_lt hm) (twoTo_le_twoTo hle)
  · have hsplit : twoTo e = twoTo (e - 2045) * twoTo 2045 := by
      rw [← twoTo_add, Nat.sub_add_cancel hle]
    have hlimit : unitsLimit = twoTo 53 * twoTo 2045 := by
      unfold unitsLimit
      rw [← twoTo_add]
    rw [hsplit, ← Nat.mul_assoc, hlimit] at hlt
    rw [hsplit, ← Nat.mul_assoc]
    exact Nat.mul_le_mul_right _ (Nat.le_sub_one_of_lt (Nat.lt_of_mul_lt_mul_right hlt))

/-- A value and one more are not rounded to an infinity. -/
theorem Representable.nearest_lt {units n : Nat} (h : Representable units) (hn : n ≤ units + unitsPerOne) :
    nearest n 1 < unitsLimit := by
  have hlast := h.le_last
  have hone : unitsPerOne < twoTo 2044 := twoTo_lt_twoTo (by decide)
  have hlimit : twoTo (2044 + 54) = (twoTo 53 - 1) * twoTo 2045 + twoTo 2045 := by
    rw [← Nat.succ_mul, show Nat.succ (twoTo 53 - 1) = twoTo 53 from rfl, ← twoTo_add]
  have hstep : twoTo 2045 = twoTo 2044 * 2 := twoTo_succ 2044
  refine (nearest_lt_iff Nat.one_pos 2044).mpr ?_
  rw [Nat.mul_one, Nat.mul_one, hlimit]
  omega

/-! ## Below one -/

/-- A dividend falls short of its divisor, and not by too little for a share to tell. -/
def FallsShort (n d : Nat) : Prop := n ≤ (twoTo 53 - 1) * (d - n)

namespace FallsShort

theorem zero (d : Nat) : FallsShort 0 d := Nat.zero_le _

theorem lt {n d : Nat} (h : FallsShort n d) (hn : 0 < n) : n < d := by
  refine Nat.lt_of_not_le fun hle => ?_
  unfold FallsShort at h
  rw [Nat.sub_eq_zero_of_le hle] at h
  exact absurd h (Nat.not_le_of_lt hn)

theorem le {n d : Nat} (h : FallsShort n d) : n ≤ d := by
  rcases Nat.eq_zero_or_pos n with rfl | hpos
  · exact Nat.zero_le d
  · exact Nat.le_of_lt (h.lt hpos)

/-- What is short by one or more falls short, if it is below 2⁵³. -/
theorem of_add_le {c n d : Nat} (hc : c < twoTo 53) (hn : n ≤ c * unitsPerOne) (h : n + unitsPerOne ≤ d) :
    FallsShort n d :=
  calc n ≤ c * unitsPerOne := hn
    _ ≤ (twoTo 53 - 1) * (d - n) := Nat.mul_le_mul (Nat.le_sub_one_of_lt hc) (Nat.le_sub_of_add_le' h)

end FallsShort

/-- Two values are not too close together. -/
theorem Representable.fallsShort {a b : Nat} (ha : Representable a) (hb : Representable b) (h : a < b) :
    FallsShort a b := by
  obtain ⟨_, m, e, hm, rfl⟩ := ha
  obtain ⟨_, m', e', hm', rfl⟩ := hb
  have hm : m ≤ twoTo 53 - 1 := Nat.le_sub_one_of_lt hm
  have hm' : m' ≤ twoTo 53 - 1 := Nat.le_sub_one_of_lt hm'
  -- the difference is a multiple of the finer of the two steps
  have hstep : ∀ k, twoTo k ∣ m * twoTo e → twoTo k ∣ m' * twoTo e' → twoTo k ≤ m' * twoTo e' - m * twoTo e :=
    fun k hk hk' => Nat.le_of_dvd (Nat.sub_pos_of_lt h) (Nat.dvd_sub hk' hk)
  have hdvd : ∀ {j k : Nat} (n : Nat), j ≤ k → twoTo j ∣ n * twoTo k :=
    fun n hjk => Dvd.dvd.mul_left (Nat.pow_dvd_pow 2 hjk) n
  rcases Nat.le_total e e' with hle | hle
  · calc m * twoTo e ≤ (twoTo 53 - 1) * twoTo e := Nat.mul_le_mul_right _ hm
      _ ≤ _ := Nat.mul_le_mul_left _ (hstep e (hdvd m (Nat.le_refl e)) (hdvd m' hle))
  · calc m * twoTo e ≤ m' * twoTo e' := Nat.le_of_lt h
      _ ≤ (twoTo 53 - 1) * twoTo e' := Nat.mul_le_mul_right _ hm'
      _ ≤ _ := Nat.mul_le_mul_left _ (hstep e' (hdvd m hle) (hdvd m' (Nat.le_refl e')))

/-- The last value below one. -/
theorem representable_belowOne : Representable ((twoTo 53 - 1) * twoTo 1021) := by
  refine ⟨?_, _, 1021, by decide, rfl⟩
  calc (twoTo 53 - 1) * twoTo 1021 ≤ twoTo 53 * twoTo 1021 := Nat.mul_le_mul_right _ (Nat.sub_le _ _)
    _ = unitsPerOne := (twoTo_add 53 1021).symm
    _ < unitsLimit := Nat.lt_of_le_of_lt (Nat.le_add_right _ _) step_lt_unitsLimit

/-- **A share that is not close to one is rounded below one.** -/
theorem FallsShort.nearest_lt_one {n d : Nat} (h : FallsShort n d) : nearest (n * unitsPerOne) d < unitsPerOne := by
  rcases Nat.eq_zero_or_pos n with rfl | hpos
  · rw [Nat.zero_mul, nearest_zero]
    exact unitsPerOne_pos
  have hlt : n < d := h.lt hpos
  have hone : unitsPerOne = twoTo 53 * twoTo 1021 := twoTo_add 53 1021
  have hshare : n * twoTo 53 ≤ (twoTo 53 - 1) * d := by
    obtain ⟨k, rfl⟩ := Nat.exists_eq_add_of_le (Nat.le_of_lt hlt)
    unfold FallsShort at h
    rw [Nat.add_sub_cancel_left] at h
    have h53 : twoTo 53 = (twoTo 53 - 1) + 1 := rfl
    generalize twoTo 53 - 1 = top at h53 h ⊢
    rw [h53, Nat.mul_succ, Nat.mul_add, Nat.mul_comm n top]
    exact Nat.add_le_add_left h _
  have hle : n * unitsPerOne ≤ (twoTo 53 - 1) * twoTo 1021 * d := by
    calc n * unitsPerOne = n * twoTo 53 * twoTo 1021 := by rw [hone, Nat.mul_assoc]
      _ ≤ (twoTo 53 - 1) * d * twoTo 1021 := Nat.mul_le_mul_right _ hshare
      _ = (twoTo 53 - 1) * twoTo 1021 * d := Nat.mul_right_comm _ _ _
  calc nearest (n * unitsPerOne) d ≤ (twoTo 53 - 1) * twoTo 1021 :=
        nearest_le_of_le representable_belowOne (Nat.zero_lt_of_lt hlt) hle
    _ < twoTo 53 * twoTo 1021 := Nat.mul_lt_mul_of_pos_right (by decide) (twoTo_pos _)
    _ = unitsPerOne := hone.symm

end Laurels
