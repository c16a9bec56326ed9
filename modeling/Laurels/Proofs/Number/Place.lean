import Laurels.Proofs.Closeness
import Laurels.Proofs.Number.Monotone

/-!
# Where finite numbers lie

An integer and a finite binary64 value have a place on the line, in units of 2⁻¹⁰⁷⁴ (`Number.At`), and a comparison
of two of them is a comparison of places (`Operator.holds_iff`). Integers below 2⁵³ and the binary64 values that stand
for them have the same place.

One more than a decimal is rounded and need not be one unit further, but it does not come to lie before an integer
that it should not come before (`Number.At.succ`); and neither does one less (`Number.At.pred`).
-/

namespace Laurels

/-! ## Values of places -/

namespace Binary64

theorem ofQuotient_eq {negative : Bool} {n d units : Nat} (heq : nearest n d = units) (h : Representable units) :
    ofQuotient negative n d = .finite negative units h := by
  subst heq
  exact dif_pos h.1

theorem ofInt_whole {n : Nat} (h : n ≤ twoTo 53) :
    ofInt n = .finite false (n * unitsPerOne) (representable_whole h) := by
  have hsign : decide ((n : Int) < 0) = false := decide_eq_false (by omega)
  have hself : nearest (n * unitsPerOne) 1 = n * unitsPerOne := by
    have h := nearest_self (representable_whole h) Nat.one_pos
    rwa [Nat.mul_one] at h
  unfold ofInt
  rw [hsign, Int.natAbs_natCast]
  exact ofQuotient_eq hself (representable_whole h)

theorem one_eq : one = .finite false unitsPerOne representable_unitsPerOne := by
  have h : one = _ := ofInt_whole (n := 1) (twoTo_pos 53)
  simpa only [Nat.one_mul] using h

/-- A place, rounded to that of a value. -/
def rounded (total : Int) : Int := signed (decide (total < 0)) (nearest total.natAbs 1)

theorem le_rounded {units : Nat} {total : Int} (h : Representable units) (hle : units ≤ total) :
    units ≤ rounded total := by
  have hunits : units * 1 ≤ total.natAbs := by omega
  have hround := le_nearest_of_le h Nat.one_pos hunits
  unfold rounded
  rw [decide_eq_false (by omega)]
  exact Int.ofNat_le.mpr hround

theorem rounded_le {units : Nat} {total : Int} (h : Representable units) (hle : total ≤ units) :
    rounded total ≤ units := by
  unfold rounded signed
  split
  · omega
  · rename_i hsign
    have hpos : ¬ total < 0 := fun hlt => hsign (decide_eq_true hlt)
    have hunits : total.natAbs ≤ units * 1 := by omega
    exact Int.ofNat_le.mpr (nearest_le_of_le h Nat.one_pos hunits)

end Binary64

/-! ## Places -/

namespace Number

open Binary64 (signed)

/-- A finite number lies at a place, in units. -/
def At (a : Number) (p : Int) : Prop := a.place? = some (.point p)

theorem at_int (n : Int) : (Number.int n).At (n * unitsPerOne) := rfl

theorem at_count (c : Nat) : (Number.int c).At (c * unitsPerOne : Nat) := by
  rw [Int.natCast_mul]
  exact at_int c

theorem at_finite (negative : Bool) (units : Nat) (h : Representable units) :
    (Number.float (.finite negative units h)).At (signed negative units) := rfl

variable {a b : Number} {p q : Int}

namespace At

theorem compare? (ha : a.At p) (hb : b.At q) : a.compare? b = some (Ord.compare p q) := by
  unfold Number.compare?
  rw [ha, hb]
  rfl

theorem lt_iff (ha : a.At p) (hb : b.At q) : a.lt b = true ↔ p < q := by
  unfold Number.lt
  rw [ha.compare? hb, beq_iff_eq, Option.some.injEq, Int.compare_eq_lt]

theorem same_iff (ha : a.At p) (hb : b.At q) : a.same b = true ↔ p = q := by
  unfold Number.same
  rw [ha.compare? hb, beq_iff_eq, Option.some.injEq, Int.compare_eq_eq]

theorem le_iff (ha : a.At p) (hb : b.At q) : a.le b = true ↔ p ≤ q := by
  unfold Number.le
  rw [Bool.or_eq_true, ha.lt_iff hb, ha.same_iff hb]
  omega

theorem le_zero_iff (ha : a.At p) : a.le 0 = true ↔ p ≤ 0 := by
  have h := ha.le_iff (at_int 0)
  rwa [Int.zero_mul] at h

theorem isZero_iff (ha : a.At p) : a.isZero = true ↔ p = 0 := by
  have h := ha.same_iff (at_int 0)
  rwa [Int.zero_mul] at h

end At

end Number

/-- How a comparison orders two places. -/
def Operator.Orders (op : Operator) (p q : Int) : Prop :=
  match op with
  | .atLeast => q ≤ p
  | .atMost => p ≤ q
  | .equal => p = q
  | .notEqual => p ≠ q
  | .above => q < p
  | .below => p < q
  | .other _ => False

/-- **Numbers compare as their places do.** -/
theorem Operator.holds_iff (op : Operator) {a b : Number} {p q : Int} (ha : a.At p) (hb : b.At q) :
    op.holds a b = true ↔ op.Orders p q := by
  unfold Operator.holds
  rw [ha.compare? hb]
  cases op with
  | atLeast =>
    simp only [admits, Orders, Bool.or_eq_true, beq_iff_eq, Option.some.injEq, Int.compare_eq_gt, Int.compare_eq_eq]
    omega
  | atMost =>
    simp only [admits, Orders, Bool.or_eq_true, beq_iff_eq, Option.some.injEq, Int.compare_eq_lt, Int.compare_eq_eq]
    omega
  | equal => simp only [admits, Orders, beq_iff_eq, Option.some.injEq, Int.compare_eq_eq]
  | notEqual => simp only [admits, Orders, bne_iff_ne, ne_eq, Option.some.injEq, Int.compare_eq_eq]
  | above => simp only [admits, Orders, beq_iff_eq, Option.some.injEq, Int.compare_eq_gt]
  | below => simp only [admits, Orders, beq_iff_eq, Option.some.injEq, Int.compare_eq_lt]
  | other symbol => simp only [admits, Orders, Bool.false_eq_true]

/-! ## One more and one less -/

namespace Number

open Binary64 (signed rounded)

/-- A sum that is not rounded to an infinity lies at the rounded sum of the places. -/
theorem at_add {s t : Bool} {a b : Nat} {ha : Representable a} {hb : Representable b}
    (h : nearest (signed s a + signed t b).natAbs 1 < unitsLimit) :
    (Number.float ((Binary64.finite s a ha).add (.finite t b hb))).At (rounded (signed s a + signed t b)) := by
  unfold Binary64.add
  dsimp only
  rw [Binary64.ofQuotient_eq rfl (representable_nearest h)]
  unfold rounded
  split
  · -- no value is zero below zero
    rename_i hzero
    have hnearest : nearest (signed s a + signed t b).natAbs 1 = 0 := by
      rw [hzero]
      exact nearest_zero 1
    refine (at_finite _ _ _).trans ?_
    rw [hnearest, hzero]
    cases s && t <;> rfl
  · exact at_finite _ _ _

theorem natAbs_signed_add_le {s t : Bool} (a b : Nat) : (signed s a + signed t b).natAbs ≤ a + b := by
  unfold Binary64.signed
  cases s <;> cases t <;> simp only [if_true, if_false, Bool.false_eq_true] <;> omega

namespace At

variable {t : Number} {p : Int} {c : Nat}

/-- One more than a number that is at least an integer is at least the next integer. -/
theorem succ (ht : t.At p) (hc : c < twoTo 53) (hp : (c * unitsPerOne : Nat) ≤ p) :
    ∃ q, t.succ.At q ∧ ((c + 1) * unitsPerOne : Nat) ≤ q := by
  have hnext : ((c + 1) * unitsPerOne : Nat) ≤ p + unitsPerOne := by
    rw [Nat.succ_mul]
    exact Int.add_le_add_right hp _
  cases t with
  | int n =>
    cases ht
    refine ⟨_, at_int (n + 1), ?_⟩
    rwa [Int.add_mul, Int.one_mul]
  | float x =>
    cases x with
    | infinite negative => cases negative <;> cases ht
    | nan => cases ht
    | finite negative units h =>
      cases ht
      have hfinite : nearest (signed negative units + signed false unitsPerOne).natAbs 1 < unitsLimit :=
        h.nearest_lt (natAbs_signed_add_le units unitsPerOne)
      refine ⟨rounded (signed negative units + signed false unitsPerOne), ?_,
        Binary64.le_rounded (representable_whole hc) hnext⟩
      unfold Number.succ
      rw [Binary64.one_eq]
      exact at_add hfinite

/-- One less than a number that is at most an integer is at most the last integer, or at most zero. -/
theorem pred (ht : t.At p) (hc : c < twoTo 53) (hp : p ≤ (c * unitsPerOne : Nat)) :
    ∃ q, t.pred.At q ∧ q ≤ ((c - 1) * unitsPerOne : Nat) := by
  have hlast : p - unitsPerOne ≤ ((c - 1) * unitsPerOne : Nat) := by
    rw [Nat.sub_mul, Nat.one_mul]
    omega
  cases t with
  | int n =>
    cases ht
    refine ⟨_, at_int (n - 1), ?_⟩
    rwa [Int.sub_mul, Int.one_mul]
  | float x =>
    cases x with
    | infinite negative => cases negative <;> cases ht
    | nan => cases ht
    | finite negative units h =>
      cases ht
      have hfinite : nearest (signed negative units + signed true unitsPerOne).natAbs 1 < unitsLimit :=
        h.nearest_lt (natAbs_signed_add_le units unitsPerOne)
      have hle : c - 1 ≤ twoTo 53 := Nat.le_trans (Nat.sub_le c 1) (Nat.le_of_lt hc)
      refine ⟨_, ?_, Binary64.rounded_le (representable_whole hle) hlast⟩
      unfold Number.pred
      rw [Binary64.one_eq]
      exact at_add hfinite

end At

end Number

end Laurels
