import Laurels.Number.Basic

/-!
# When a quotient of numbers is defined

A number is usable if a binary64 value stands for it. The quotient of a usable number by one that is not zero
is defined: two integers have one because the quotient is no larger than the dividend (`quotient_int`), and a
binary64 value has one because the divisor is not rounded to zero (`quotient_float_int`, `quotient_int_float`).
All of it comes from two bounds on rounding, `nearest_le` and `twoTo_log2_le_nearest`.
-/

namespace Laurels

theorem unitsPerOne_pos : 0 < unitsPerOne := twoTo_pos _

/-! ## Bounds on rounding -/

theorem div_le_roundDiv (n d : Nat) : n / d ≤ roundDiv n d := by
  unfold roundDiv
  split
  · omega
  · split
    · omega
    · split <;> omega

theorem twoTo_excessBits_le (q : Nat) : twoTo (excessBits q) ≤ q + 1 := by
  unfold excessBits
  by_cases hq : q = 0
  · subst hq
    decide
  · have hlog : twoTo q.log2 ≤ q := Nat.log2_self_le hq
    exact Nat.le_trans (Nat.le_trans (twoTo_le_twoTo (Nat.sub_le _ _)) hlog) (Nat.le_succ q)

/-- Rounding at most doubles a quotient. -/
theorem nearest_le (n d : Nat) : nearest n d ≤ 2 * (n / d) + 1 := by
  unfold nearest
  have hround := roundDiv_le_succ n (d * twoTo (excessBits (n / d)))
  rw [← Nat.div_div_eq_div_mul] at hround
  have hpow := twoTo_excessBits_le (n / d)
  generalize twoTo (excessBits (n / d)) = p at hround hpow ⊢
  -- rounding up adds at most one unit of the last place, and the unit is no more than the quotient
  have hfloor := Nat.div_mul_le_self (n / d) p
  calc roundDiv n (d * p) * p
      ≤ (n / d / p + 1) * p := Nat.mul_le_mul_right p hround
    _ = n / d / p * p + p := Nat.succ_mul _ _
    _ ≤ 2 * (n / d) + 1 := by omega

/-- Rounding keeps the leading bit of a quotient. -/
theorem twoTo_log2_le_nearest {n d : Nat} (h : n / d ≠ 0) : twoTo (n / d).log2 ≤ nearest n d := by
  unfold nearest
  -- the leading bit is not among the bits that are cut off, and the rest is not rounded below it
  have hround := div_le_roundDiv n (d * twoTo (excessBits (n / d)))
  rw [← Nat.div_div_eq_div_mul] at hround
  have hle : excessBits (n / d) ≤ (n / d).log2 := Nat.sub_le _ _
  have hsplit : twoTo (n / d).log2
      = twoTo ((n / d).log2 - excessBits (n / d)) * twoTo (excessBits (n / d)) := by
    rw [← twoTo_add, Nat.sub_add_cancel hle]
  have hfloor : twoTo ((n / d).log2 - excessBits (n / d)) ≤ n / d / twoTo (excessBits (n / d)) := by
    rw [Nat.le_div_iff_mul_le (twoTo_pos _), ← hsplit]
    exact Nat.log2_self_le h
  rw [hsplit]
  exact Nat.mul_le_mul_right _ (Nat.le_trans hfloor hround)

theorem nearest_ne_zero {n d : Nat} (h : n / d ≠ 0) : nearest n d ≠ 0 :=
  Nat.ne_of_gt (Nat.lt_of_lt_of_le (twoTo_pos _) (twoTo_log2_le_nearest h))

/-- What is not rounded to an infinity is below the limit itself. -/
theorem div_lt_of_nearest_lt {n d : Nat} (h : nearest n d < unitsLimit) : n / d < unitsLimit := by
  unfold unitsLimit at h ⊢
  -- the power itself must not be computed
  generalize 2098 = e at h ⊢
  refine Nat.lt_of_not_le fun hle => ?_
  have hne : n / d ≠ 0 := Nat.ne_of_gt (Nat.lt_of_lt_of_le (twoTo_pos e) hle)
  have hlog : e ≤ (n / d).log2 := (Nat.le_log2 hne).mpr hle
  exact absurd (Nat.le_trans (twoTo_le_twoTo hlog) (twoTo_log2_le_nearest hne)) (Nat.not_le_of_lt h)

/-! ## Usable numbers -/

namespace Binary64

theorem isFinite_ofQuotient {negative : Bool} {n d : Nat} :
    (ofQuotient negative n d).isFinite = true ↔ nearest n d < unitsLimit := by
  unfold ofQuotient
  split
  · rename_i h
    exact ⟨fun _ => h, fun _ => rfl⟩
  · rename_i h
    exact ⟨fun hf => absurd hf (by simp [isFinite]), fun hlt => absurd hlt h⟩

end Binary64

namespace Number

/-- A binary64 value stands for the number. -/
def Usable (a : Number) : Prop := ∃ x, a.toBinary64 = .ok x

theorem usable_float (x : Binary64) : (Number.float x).Usable := ⟨x, rfl⟩

theorem usable_int_iff {n : Int} : (Number.int n).Usable ↔ (Binary64.ofInt n).isFinite = true := by
  unfold Usable
  simp only [toBinary64]
  generalize Binary64.ofInt n = x
  cases x.isFinite <;> simp

theorem usable_int {n : Int} : (Number.int n).Usable ↔ nearest (n.natAbs * unitsPerOne) 1 < unitsLimit := by
  rw [usable_int_iff]
  unfold Binary64.ofInt
  exact Binary64.isFinite_ofQuotient

theorem toBinary64_int {n : Int} (h : (Number.int n).Usable) :
    (Number.int n).toBinary64 = .ok (Binary64.ofInt n) := by
  simp only [toBinary64]
  rw [if_pos (usable_int_iff.mp h)]

/-- An integer of 64 bits is usable. -/
theorem usable_of_natAbs_lt {n : Int} (h : n.natAbs < twoTo 64) : (Number.int n).Usable := by
  rw [usable_int]
  refine Nat.lt_of_le_of_lt (nearest_le _ _) ?_
  rw [Nat.div_one]
  have hunits : n.natAbs * unitsPerOne < twoTo 64 * unitsPerOne :=
    Nat.mul_lt_mul_of_pos_right h unitsPerOne_pos
  have hlimit : twoTo 64 * unitsPerOne * 2 ≤ unitsLimit := by
    unfold unitsPerOne unitsLimit
    rw [← twoTo_add, ← twoTo_succ]
    exact twoTo_le_twoTo (by decide)
  omega

theorem compare_mul_right (a b : Int) {u : Int} (hu : 0 < u) : compare (a * u) (b * u) = compare a b := by
  rcases Int.lt_trichotomy a b with h | h | h
  · rw [Int.compare_eq_lt.mpr h, Int.compare_eq_lt.mpr (Int.mul_lt_mul_of_pos_right h hu)]
  · rw [h, Int.compare_eq_eq.mpr rfl, Int.compare_eq_eq.mpr rfl]
  · rw [Int.compare_eq_gt.mpr h, Int.compare_eq_gt.mpr (Int.mul_lt_mul_of_pos_right h hu)]

theorem compare?_int (a b : Int) : (Number.int a).compare? (.int b) = some (compare a b) := by
  simp only [compare?, place?, Place.compare]
  rw [compare_mul_right a b (Int.natCast_pos.mpr unitsPerOne_pos)]

theorem isZero_int {n : Int} : (Number.int n).isZero = false ↔ n ≠ 0 := by
  unfold isZero same
  rw [show (0 : Number) = .int 0 from rfl, compare?_int]
  rcases Int.lt_trichotomy n 0 with h | h | h
  · rw [Int.compare_eq_lt.mpr h]
    exact ⟨fun _ => Int.ne_of_lt h, fun _ => rfl⟩
  · rw [h]
    exact ⟨fun h => absurd h (by decide), fun h => absurd rfl h⟩
  · rw [Int.compare_eq_gt.mpr h]
    exact ⟨fun _ => Int.ne_of_gt h, fun _ => rfl⟩

theorem isZero_finite {negative : Bool} {units : Nat} {h : Representable units} (hne : units ≠ 0) :
    (Number.float (.finite negative units h)).isZero = false := by
  unfold isZero same compare?
  simp only [place?, Place.compare]
  refine beq_eq_false_iff_ne.mpr fun heq => ?_
  have hzero := Int.compare_eq_eq.mp (Option.some.inj heq)
  rw [Int.ofNat_zero, Int.zero_mul] at hzero
  unfold Binary64.signed at hzero
  split at hzero <;> omega

/-- An integer other than zero is not rounded to zero. -/
theorem isZero_ofInt {n : Int} (h : (Number.int n).Usable) (hn : n ≠ 0) :
    (Number.float (Binary64.ofInt n)).isZero = false := by
  have hunits : n.natAbs * unitsPerOne / 1 ≠ 0 := by
    rw [Nat.div_one]
    exact Nat.mul_ne_zero (Int.natAbs_ne_zero.mpr hn) (Nat.ne_of_gt unitsPerOne_pos)
  unfold Binary64.ofInt Binary64.ofQuotient
  rw [dif_pos (usable_int.mp h)]
  exact isZero_finite (nearest_ne_zero hunits)

/-! ## Quotients -/

/-- A quotient of integers is no larger than the dividend. -/
theorem quotient_int_eq {a b : Int} (ha : (Number.int a).Usable) (hb : b ≠ 0) : (Number.int a).quotient (.int b)
    = .ok (.ofQuotient (decide (a < 0) ^^ decide (b < 0)) (a.natAbs * unitsPerOne) b.natAbs) := by
  have hlt : nearest (a.natAbs * unitsPerOne) b.natAbs < unitsLimit := by
    have hone := usable_int.mp ha
    by_cases h : b.natAbs = 1
    · rw [h]
      exact hone
    · -- at least halved, so that rounding cannot reach the limit again
      have hunits := div_lt_of_nearest_lt hone
      rw [Nat.div_one] at hunits
      have htwo : 2 ≤ b.natAbs := by
        have := Int.natAbs_ne_zero.mpr hb
        omega
      have hhalf : a.natAbs * unitsPerOne / b.natAbs ≤ a.natAbs * unitsPerOne / 2 :=
        Nat.div_le_div_left htwo (by decide)
      have hround := nearest_le (a.natAbs * unitsPerOne) b.natAbs
      have heven : unitsLimit = twoTo 2097 * 2 := twoTo_succ 2097
      generalize a.natAbs * unitsPerOne = units at hunits hhalf hround ⊢
      omega
  have hfinite : ∀ negative, (Binary64.ofQuotient negative (a.natAbs * unitsPerOne) b.natAbs).isFinite
      = true := fun negative => Binary64.isFinite_ofQuotient.mpr hlt
  simp only [quotient]
  rw [if_neg hb, if_pos (hfinite _)]

theorem quotient_int {a b : Int} (ha : (Number.int a).Usable) (hb : b ≠ 0) :
    ∃ q, (Number.int a).quotient (.int b) = .ok q :=
  ⟨_, quotient_int_eq ha hb⟩

/-- With a value on either side the quotient is taken of values. -/
theorem quotient_of_float {a b : Number} (hfloat : (∃ x, a = .float x) ∨ ∃ y, b = .float y) :
    a.quotient b = a.toBinary64 >>= fun x => b.toBinary64 >>= fun y =>
      if (Number.float y).isZero then .error .divisionByZero else .ok (x.quotient y) := by
  rcases hfloat with ⟨x, rfl⟩ | ⟨y, rfl⟩
  · rfl
  · cases a <;> rfl

/-- A quotient of two values, the second of which is not zero. -/
theorem quotient_of_toBinary64 {a b : Number} {x y : Binary64} (ha : a.toBinary64 = .ok x)
    (hb : b.toBinary64 = .ok y) (hy : (Number.float y).isZero = false)
    (hfloat : (∃ x, a = .float x) ∨ ∃ y, b = .float y) : a.quotient b = .ok (x.quotient y) := by
  rw [quotient_of_float hfloat, ha, hb]
  exact if_neg (by rw [hy]; exact Bool.false_ne_true)

theorem quotient_float_int {x : Binary64} {b : Int} (hb : (Number.int b).Usable) (hne : b ≠ 0) :
    ∃ q, (Number.float x).quotient (.int b) = .ok q :=
  ⟨_, quotient_of_toBinary64 rfl (toBinary64_int hb) (isZero_ofInt hb hne) (Or.inl ⟨x, rfl⟩)⟩

theorem quotient_int_float {a : Int} {y : Binary64} (ha : (Number.int a).Usable)
    (hy : (Number.float y).isZero = false) : ∃ q, (Number.int a).quotient (.float y) = .ok q :=
  ⟨_, quotient_of_toBinary64 (toBinary64_int ha) rfl hy (Or.inr ⟨y, rfl⟩)⟩

end Number

end Laurels
