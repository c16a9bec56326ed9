import Laurels.Proofs.Number.Place

/-!
# Closeness is a share

Whatever is compared with whatever, closeness is a share of one: a finite value from zero to one, and not the
zero below zero (`Binary64.IsShare`). Where it has no value, an integer was too large to be divided, or the quotient
of two of them was (`Estimate`). No comparison divides by zero: each has a guard for what it divides by, and the
guard is asked before an integer is rounded, which does not make it zero.

A threshold that is read from a text and a count of 63 bits are not too large (`closeness_safe`).
-/

namespace Laurels

/-! ## Shares -/

namespace Binary64

/-- A share of one. -/
structure IsShare (x : Binary64) : Prop where
  finite : x.isFinite = true
  nonneg : (Number.float .zero).le (.float x) = true
  le_one : (Number.float x).le (.float .one) = true
  not_negative_zero : x ≠ zero.negate

theorem isShare_finite {units : Nat} (h : Representable units) (hle : units ≤ unitsPerOne) :
    (finite false units h).IsShare where
  finite := rfl
  nonneg := ((Number.at_finite false 0 representable_zero).le_iff (Number.at_finite false units h)).mpr
    (Int.natCast_nonneg units)
  le_one := by
    rw [one_eq]
    exact ((Number.at_finite false units h).le_iff (Number.at_finite _ _ _)).mpr (Int.ofNat_le.mpr hle)
  not_negative_zero := nofun

theorem isShare_zero : zero.IsShare := isShare_finite representable_zero (Nat.zero_le _)

theorem isShare_one : one.IsShare := by
  rw [one_eq]
  exact isShare_finite representable_unitsPerOne (Nat.le_refl _)

theorem clamp_of_isFinite {x : Binary64} (h : x.isFinite = true) : x.clamp
    = if (Number.float x).lt (.float one) then if (Number.float zero).lt (.float x) then x else zero else one := by
  unfold clamp
  rw [h]
  rfl

/-- A share is not changed by limiting it. -/
theorem clamp_finite {units : Nat} (h : Representable units) (hle : units ≤ unitsPerOne) :
    (finite false units h).clamp = finite false units h := by
  have hone : (Number.float (finite false units h)).lt (.float one) = true ↔ (units : Int) < unitsPerOne := by
    rw [one_eq]
    exact (Number.at_finite false units h).lt_iff (Number.at_finite _ _ _)
  have hzero : (Number.float zero).lt (.float (finite false units h)) = true ↔ (0 : Int) < units :=
    (Number.at_finite false 0 representable_zero).lt_iff (Number.at_finite false units h)
  rw [clamp_of_isFinite rfl]
  split
  · split
    · rfl
    · rename_i hnot
      rw [hzero] at hnot
      obtain rfl : units = 0 := by omega
      rfl
  · rename_i hnot
    rw [hone] at hnot
    have heq : units = unitsPerOne := Nat.le_antisymm hle (Int.ofNat_le.mp (Int.not_lt.mp hnot))
    rw [one_eq]
    simp only [heq]

/-- What is not above zero is limited to zero. -/
theorem clamp_negative {units : Nat} (h : Representable units) : (finite true units h).clamp = zero := by
  have hone : (Number.float (finite true units h)).lt (.float one) = true := by
    rw [one_eq]
    refine ((Number.at_finite true units h).lt_iff (Number.at_finite _ _ _)).mpr ?_
    have hpos := unitsPerOne_pos
    show -(units : Int) < unitsPerOne
    omega
  have hzero : ¬ (Number.float zero).lt (.float (finite true units h)) = true := by
    have hlt := (Number.at_finite false 0 representable_zero).lt_iff (Number.at_finite true units h)
    refine fun hpos => absurd (hlt.mp hpos) ?_
    show ¬ (0 : Int) < -(units : Int)
    omega
  rw [clamp_of_isFinite rfl, if_pos hone, if_neg hzero]

/-- **Whatever is limited is a share.** -/
theorem isShare_clamp (x : Binary64) : x.clamp.IsShare := by
  cases x with
  | nan => exact isShare_zero
  | infinite negative => exact isShare_zero
  | finite negative units h =>
    cases negative with
    | true =>
      rw [clamp_negative h]
      exact isShare_zero
    | false =>
      rcases Nat.le_total units unitsPerOne with hle | hle
      · rw [clamp_finite h hle]
        exact isShare_finite h hle
      · have hone : ¬ (Number.float (finite false units h)).lt (.float one) = true := by
          rw [one_eq, (Number.at_finite false units h).lt_iff (Number.at_finite _ _ _)]
          exact Int.not_lt.mpr (Int.ofNat_le.mpr hle)
        rw [clamp_of_isFinite rfl, if_neg hone]
        exact isShare_one

theorem isShare_fullIf (b : Bool) : (fullIf b).IsShare := by
  unfold fullIf
  split
  · exact isShare_one
  · exact isShare_zero

end Binary64

/-! ## Integers that are too large -/

/-- What a comparison of two numbers divides, or divides by. -/
def Operand (current threshold a : Number) : Prop :=
  a = current ∨ a = threshold ∨ a = threshold.succ ∨ a = threshold.pred

/-- What an estimate comes to: a share, or a fault because an integer or the quotient of two is at least 2¹⁰²⁴, the
last half of a step below it included. -/
inductive Estimate (current threshold : Number) : Except NumberFault Binary64 → Prop where
  | share {x : Binary64} (h : x.IsShare) : Estimate current threshold (.ok x)
  | integerTooLarge {n : Int} (hn : Operand current threshold (.int n))
      (h : twoTo 1024 ≤ n.natAbs + twoTo 970) : Estimate current threshold (.error .integerTooLarge)
  | quotientTooLarge {n d : Int} (hn : Operand current threshold (.int n)) (hd : Operand current threshold (.int d))
      (hne : d ≠ 0) (h : twoTo 1024 * d.natAbs ≤ n.natAbs + twoTo 970 * d.natAbs) :
      Estimate current threshold (.error .quotientTooLarge)

/-- A quotient of integers that is rounded to an infinity is too large. -/
theorem le_of_nearest_ge {n d : Nat} (hd : 0 < d) (h : ¬ nearest (n * unitsPerOne) d < unitsLimit) :
    twoTo 1024 * d ≤ n + twoTo 970 * d := by
  have hiff := nearest_lt_iff (n := n * unitsPerOne) hd 2044
  have hle : twoTo (2044 + 54) * d ≤ n * unitsPerOne + twoTo 2044 * d := by
    refine Nat.le_of_not_lt fun hlt => h ?_
    exact hiff.mpr hlt
  have hlimit : twoTo (2044 + 54) = twoTo 1024 * unitsPerOne := by
    unfold unitsPerOne
    rw [← twoTo_add]
  have hhalf : twoTo 2044 = twoTo 970 * unitsPerOne := by
    unfold unitsPerOne
    rw [← twoTo_add]
  rw [hlimit, hhalf, Nat.mul_right_comm, Nat.mul_right_comm (twoTo 970), ← Nat.add_mul] at hle
  exact Nat.le_of_mul_le_mul_right hle unitsPerOne_pos

namespace Number

/-- An integer has a value, or it is too large. -/
theorem toBinary64_cases (a : Number) : (∃ x, a.toBinary64 = .ok x)
    ∨ ∃ n, a = .int n ∧ a.toBinary64 = .error .integerTooLarge ∧ twoTo 1024 ≤ n.natAbs + twoTo 970 := by
  cases a with
  | float x => exact Or.inl ⟨x, rfl⟩
  | int n =>
    by_cases h : (Number.int n).Usable
    · exact Or.inl h
    · refine Or.inr ⟨n, rfl, ?_, ?_⟩
      · simp only [toBinary64]
        rw [if_neg (mt usable_int_iff.mpr h)]
      · have hle := le_of_nearest_ge Nat.one_pos (mt usable_int.mpr h)
        rwa [Nat.mul_one, Nat.mul_one] at hle

/-- What is not zero is not rounded to zero. -/
theorem isZero_toBinary64 {a : Number} {x : Binary64} (ha : a.isZero = false) (h : a.toBinary64 = .ok x) :
    (Number.float x).isZero = false := by
  cases a with
  | float y =>
    cases h
    exact ha
  | int n =>
    have husable : (Number.int n).Usable := ⟨x, h⟩
    rw [toBinary64_int husable] at h
    rw [← Except.ok.inj h]
    exact isZero_ofInt husable (isZero_int.mp ha)

end Number

section

variable {current threshold : Number}

/-- A ratio of operands, if what it divides by is not zero. -/
theorem estimate_ratio {a b : Number} (ha : Operand current threshold a) (hb : Operand current threshold b)
    (hzero : b.isZero = false) : Estimate current threshold (ratio a b) := by
  have hdone : ∀ q, a.quotient b = .ok q → Estimate current threshold (ratio a b) := by
    intro q hq
    unfold ratio
    rw [hq]
    exact .share q.isShare_clamp
  by_cases hints : ∃ n d, a = .int n ∧ b = .int d
  · obtain ⟨n, d, rfl, rfl⟩ := hints
    have hne : d ≠ 0 := Number.isZero_int.mp hzero
    by_cases hfinite : (Binary64.ofQuotient (decide (n < 0) ^^ decide (d < 0)) (n.natAbs * unitsPerOne)
        d.natAbs).isFinite = true
    · refine hdone (.ofQuotient (decide (n < 0) ^^ decide (d < 0)) (n.natAbs * unitsPerOne) d.natAbs) ?_
      simp only [Number.quotient]
      rw [if_neg hne, if_pos hfinite]
    · have hquotient : (Number.int n).quotient (.int d) = .error .quotientTooLarge := by
        simp only [Number.quotient]
        rw [if_neg hne, if_neg hfinite]
      rw [Binary64.isFinite_ofQuotient] at hfinite
      unfold ratio
      rw [hquotient]
      exact .quotientTooLarge ha hb hne (le_of_nearest_ge (Int.natAbs_pos.mpr hne) hfinite)
  · have hfloat : (∃ x, a = .float x) ∨ ∃ y, b = .float y := by
      cases a with
      | float x => exact Or.inl ⟨x, rfl⟩
      | int n =>
        cases b with
        | float y => exact Or.inr ⟨y, rfl⟩
        | int d => exact absurd ⟨n, d, rfl, rfl⟩ hints
    rcases a.toBinary64_cases with ⟨x, hx⟩ | ⟨n, rfl, hx, hlarge⟩
    · rcases b.toBinary64_cases with ⟨y, hy⟩ | ⟨d, rfl, hy, hlarge⟩
      · exact hdone _ (Number.quotient_of_toBinary64 hx hy (Number.isZero_toBinary64 hzero hy) hfloat)
      · unfold ratio
        rw [Number.quotient_of_float hfloat, hx, hy]
        exact .integerTooLarge hb hlarge
    · unfold ratio
      rw [Number.quotient_of_float hfloat, hx]
      exact .integerTooLarge ha hlarge

/-- **Closeness is a share**, whatever the comparison and the numbers, unless an integer is too large. -/
theorem estimate_closeness (op : Operator) (current threshold : Number) :
    Estimate current threshold (closeness op current threshold) := by
  have hcurrent : Operand current threshold current := Or.inl rfl
  have hthreshold : Operand current threshold threshold := Or.inr (Or.inl rfl)
  have hsucc : Operand current threshold threshold.succ := Or.inr (Or.inr (Or.inl rfl))
  have hpred : Operand current threshold threshold.pred := Or.inr (Or.inr (Or.inr rfl))
  have hzero : Estimate current threshold (.ok .zero) := .share Binary64.isShare_zero
  have hone : Estimate current threshold (.ok .one) := .share Binary64.isShare_one
  have hfull : ∀ b, Estimate current threshold (.ok (fullIf b)) := fun b => .share (Binary64.isShare_fullIf b)
  unfold closeness
  split
  · exact hone
  cases op with
  | atLeast =>
    dsimp only
    split
    · exact hfull _
    · exact estimate_ratio hcurrent hthreshold (Bool.eq_false_iff.mpr ‹_›)
  | above =>
    dsimp only
    split
    · exact hzero
    · exact estimate_ratio hcurrent hsucc (Number.isZero_of_not_le (Bool.eq_false_iff.mpr ‹_›))
  | atMost =>
    dsimp only
    split
    · exact hzero
    · rename_i hle
      have hle := (Bool.or_eq_false_iff.mp (Bool.eq_false_iff.mpr hle)).2
      exact estimate_ratio hthreshold hcurrent (Number.isZero_of_not_le hle)
  | below =>
    dsimp only
    split
    · exact hzero
    · rename_i hle
      have hle := (Bool.or_eq_false_iff.mp (Bool.eq_false_iff.mpr hle)).2
      exact estimate_ratio hpred hcurrent (Number.isZero_of_not_le hle)
  | equal =>
    dsimp only
    split
    · exact hfull _
    split
    · exact estimate_ratio hcurrent hthreshold (Bool.eq_false_iff.mpr ‹_›)
    split
    · split
      · exact hzero
      · exact estimate_ratio hthreshold hcurrent (Bool.eq_false_iff.mpr ‹_›)
    · exact hone
  | notEqual => exact hfull _
  | other symbol => exact hzero

/-- Where closeness has a value, the value is a share. -/
theorem isShare_of_closeness {op : Operator} {x : Binary64} (h : closeness op current threshold = .ok x) : x.IsShare := by
  have hestimate := estimate_closeness op current threshold
  rw [h] at hestimate
  cases hestimate with
  | share hx => exact hx

end

/-- **Closeness is safe.** For every comparison sign and all numbers it is a share, or an integer is too large; and
it is a share if the threshold was read from a text and the other number is a count of 63 bits. -/
theorem closeness_safe :
    (∀ (symbol : String) (current threshold : Number),
      Estimate current threshold (closeness (.ofSymbol symbol) current threshold))
    ∧ ∀ (text : String) (clauses : List Clause), Criteria.parse text = .ok clauses → ∀ c ∈ clauses,
      ∀ (symbol : String) (n : Int), 0 ≤ n → n < twoTo 63 →
        ∃ x, closeness (.ofSymbol symbol) (.int n) c.threshold = .ok x ∧ x.IsShare := by
  refine ⟨fun symbol current threshold => estimate_closeness _ current threshold, ?_⟩
  intro text clauses hparse c hc symbol n hpos hlt
  have hbits : n.natAbs < twoTo 64 := by
    have hsucc : twoTo 64 = twoTo 63 * 2 := twoTo_succ 63
    omega
  obtain ⟨x, hx⟩ := closeness_defined (.ofSymbol symbol) hbits (Criteria.usable_of_parse hparse c hc)
  have hestimate := estimate_closeness (.ofSymbol symbol) (.int n) c.threshold
  rw [hx] at hestimate
  cases hestimate with
  | share h => exact ⟨x, hx, h⟩

/-- Nothing done, of a target below zero: the quotient of the two would be one by zero. -/
theorem closeness_safe_below_zero : ∃ x, closeness (.ofSymbol "==") (.int 0) (.int (-1)) = .ok x ∧ x.IsShare :=
  closeness_safe.2 "wins==-1" [⟨"wins", .equal, .int (-1)⟩] (by decide +kernel) _ (List.mem_singleton.mpr rfl) "==" 0
    (by decide) (by decide)

end Laurels
