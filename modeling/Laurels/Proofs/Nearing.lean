import Laurels.Proofs.Counts
import Laurels.Proofs.Share

/-!
# Closeness tells whether a clause holds, and never runs backwards

While a comparison with a count fails, its closeness is a quotient of two amounts (`Operator.amounts`): of the count
and the target if the count must grow, and the other way round if it must not. The quotient is below one, and by more
than rounding makes up for (`closeness_of_not_holds`), since amounts are whole or have 53 bits. So closeness is one
exactly when the comparison holds; and as one of the two amounts is the same for all counts, closeness follows the
count (`closeness_nears`).
-/

namespace Laurels

/-! ## Amounts -/

/-- How many units a number amounts to; none if it is below zero. -/
def Number.amount (a : Number) : Nat :=
  match a.place? with
  | some (.point p) => p.toNat
  | _ => 0

theorem Number.At.amount {a : Number} {p : Int} (h : a.At p) : a.amount = p.toNat := by
  unfold Number.amount
  rw [h]

/-- What a comparison that fails makes a share of: the one amount out of the other. -/
def Operator.amounts (op : Operator) (c : Nat) (t : Number) : Nat × Nat :=
  match op with
  | .atLeast => (c * unitsPerOne, t.amount)
  | .above => (c * unitsPerOne, t.succ.amount)
  | .atMost => (t.amount, c * unitsPerOne)
  | .below => (t.pred.amount, c * unitsPerOne)
  | .equal => if c * unitsPerOne < t.amount then (c * unitsPerOne, t.amount) else (t.amount, c * unitsPerOne)
  | .notEqual => (0, c * unitsPerOne)
  | .other _ => (0, c * unitsPerOne)

namespace Binary64

/-- The share that one amount is of another, rounded. -/
def share (n d : Nat) : Binary64 := ofQuotient false (n * unitsPerOne) d

variable {n d n' d' : Nat}

theorem share_eq (h : FallsShort n d) : ∃ hr, share n d = .finite false (nearest (n * unitsPerOne) d) hr :=
  ⟨representable_nearest (Nat.lt_trans h.nearest_lt_one representable_unitsPerOne.1), ofQuotient_eq rfl _⟩

theorem clamp_share (h : FallsShort n d) : (share n d).clamp = share n d := by
  obtain ⟨hr, heq⟩ := share_eq h
  rw [heq]
  exact clamp_finite hr (Nat.le_of_lt h.nearest_lt_one)

theorem share_zero (d : Nat) : share 0 d = zero := by
  have hzero : nearest (0 * unitsPerOne) d = 0 := by rw [Nat.zero_mul, nearest_zero]
  exact ofQuotient_eq hzero representable_zero

theorem share_mul_right (n d : Nat) {k : Nat} (hk : 0 < k) : ofQuotient false (n * k) (d * k) = ofQuotient false n d := by
  unfold ofQuotient
  simp only [nearest_mul_right n d hk]

/-- What falls short is not one. -/
theorem share_ne_one (h : FallsShort n d) : share n d ≠ one := by
  obtain ⟨hr, heq⟩ := share_eq h
  rw [heq, one_eq]
  intro hone
  exact Nat.ne_of_lt h.nearest_lt_one (Binary64.finite.inj hone).2

theorem share_le_one (h : FallsShort n d) : (Number.float (share n d)).le (.float one) = true := by
  obtain ⟨hr, heq⟩ := share_eq h
  rw [heq, one_eq]
  exact ((Number.at_finite _ _ _).le_iff (Number.at_finite _ _ _)).mpr
    (Int.ofNat_le.mpr (Nat.le_of_lt h.nearest_lt_one))

theorem share_le_share (h : FallsShort n d) (h' : FallsShort n' d')
    (hle : nearest (n * unitsPerOne) d ≤ nearest (n' * unitsPerOne) d') :
    (Number.float (share n d)).le (.float (share n' d')) = true := by
  obtain ⟨hr, heq⟩ := share_eq h
  obtain ⟨hr', heq'⟩ := share_eq h'
  rw [heq, heq']
  exact ((Number.at_finite _ _ _).le_iff (Number.at_finite _ _ _)).mpr (Int.ofNat_le.mpr hle)

/-- More of the same is a larger share. -/
theorem share_le_of_le (h : FallsShort n d) (h' : FallsShort n' d) (hle : n ≤ n') :
    (Number.float (share n d)).le (.float (share n' d)) = true :=
  share_le_share h h' (nearest_mono_left (Nat.mul_le_mul_right _ hle) d)

/-- The same out of more is a smaller share. -/
theorem share_le_of_ge (h : FallsShort n d) (h' : FallsShort n d') (hle : d' ≤ d) :
    (Number.float (share n d)).le (.float (share n d')) = true := by
  refine share_le_share h h' ?_
  rcases Nat.eq_zero_or_pos n with rfl | hpos
  · rw [Nat.zero_mul, nearest_zero]
    exact Nat.zero_le _
  · have hd' : 0 < d' := Nat.lt_trans hpos (h'.lt hpos)
    exact nearest_mono (Nat.lt_of_lt_of_le hd' hle) hd' (Nat.mul_le_mul_left _ hle)

end Binary64

/-! ## Counts and targets -/

section

variable {t : Number} {p : Int} {c : Nat}

/-- A finite number above zero. -/
theorem Number.At.of_pos (ht : t.At p) (hp : 0 < p) :
    (∃ n : Nat, t = .int n ∧ p = (n * unitsPerOne : Nat)) ∨ ∃ units h, t = .float (.finite false units h) ∧ p = units := by
  cases t with
  | int n =>
    cases ht
    have hn : 0 < n := Int.not_le.mp fun hle =>
      absurd hp (Int.not_lt.mpr (Int.mul_nonpos_of_nonpos_of_nonneg hle (Int.natCast_nonneg _)))
    obtain ⟨m, rfl⟩ := Int.eq_ofNat_of_zero_le (Int.le_of_lt hn)
    exact Or.inl ⟨m, rfl, (Int.natCast_mul m unitsPerOne).symm⟩
  | float x =>
    cases x with
    | infinite negative => cases negative <;> cases ht
    | nan => cases ht
    | finite negative units h =>
      cases ht
      cases negative with
      | true => exact absurd hp (Int.not_lt.mpr (Int.neg_nonpos_of_nonneg (Int.natCast_nonneg units)))
      | false => exact Or.inr ⟨units, h, rfl, rfl⟩

theorem whole_mul_lt {a b : Nat} (h : a < b) : a * unitsPerOne + unitsPerOne ≤ b * unitsPerOne := by
  rw [← Nat.succ_mul]
  exact Nat.mul_le_mul_right _ h

/-- A count below a target falls short of it. -/
theorem fallsShort_of_lt (hc : c < twoTo 53) (ht : t.At p) (h : (c * unitsPerOne : Nat) < p) :
    FallsShort (c * unitsPerOne) p.toNat := by
  rcases ht.of_pos (Int.lt_of_le_of_lt (Int.natCast_nonneg _) h) with ⟨n, rfl, rfl⟩ | ⟨units, hr, rfl, rfl⟩
  · have hlt : c < n := Nat.lt_of_mul_lt_mul_right (Int.ofNat_lt.mp h)
    exact .of_add_le hc (Nat.le_refl _) (whole_mul_lt hlt)
  · exact (representable_whole (Nat.le_of_lt hc)).fallsShort hr (Int.ofNat_lt.mp h)

/-- A target below a count falls short of it. -/
theorem fallsShort_of_gt (hc : c < twoTo 53) (ht : t.At p) (h : p < (c * unitsPerOne : Nat)) :
    FallsShort p.toNat (c * unitsPerOne) := by
  rcases Int.lt_or_le 0 p with hpos | hneg
  · rcases ht.of_pos hpos with ⟨n, rfl, rfl⟩ | ⟨units, hr, rfl, rfl⟩
    · have hlt : n < c := Nat.lt_of_mul_lt_mul_right (Int.ofNat_lt.mp h)
      exact .of_add_le (Nat.lt_trans hlt hc) (Nat.le_refl _) (whole_mul_lt hlt)
    · exact hr.fallsShort (representable_whole (Nat.le_of_lt hc)) (Int.ofNat_lt.mp h)
  · rw [Int.toNat_of_nonpos hneg]
    exact .zero _

/-! ## Ratios -/

theorem ratio_eq {a b : Number} {q : Binary64} (h : a.quotient b = .ok q) : ratio a b = .ok q.clamp := by
  unfold ratio
  rw [h]
  rfl

theorem natAbs_count_lt (hc : c < twoTo 53) : (c : Int).natAbs < twoTo 64 :=
  Nat.lt_trans hc (twoTo_lt_twoTo (by decide))

theorem usable_count (hc : c < twoTo 53) : (Number.int c).Usable := Number.usable_of_natAbs_lt (natAbs_count_lt hc)

/-- Two whole numbers. -/
theorem quotient_whole {n d : Nat} (hn : (Number.int n).Usable) (hd : 0 < d) :
    (Number.int n).quotient (.int d) = .ok (.share (n * unitsPerOne) (d * unitsPerOne)) := by
  have hne : (d : Int) ≠ 0 := Int.ofNat_ne_zero.mpr (Nat.ne_of_gt hd)
  have hpos : ∀ m : Nat, decide ((m : Int) < 0) = false := fun m =>
    decide_eq_false (Int.not_lt.mpr (Int.natCast_nonneg m))
  rw [Number.quotient_int_eq hn hne, hpos, hpos, Int.natAbs_natCast, Int.natAbs_natCast, Binary64.share,
    Binary64.share_mul_right _ _ unitsPerOne_pos]
  rfl

/-- A whole number and a value. -/
theorem quotient_value {negative : Bool} {n units : Nat} (hn : n < twoTo 53) (hr : Representable units) (hne : units ≠ 0) :
    (Number.int n).quotient (.float (.finite negative units hr))
      = .ok (.ofQuotient negative (n * unitsPerOne * unitsPerOne) units) := by
  have hx := Number.toBinary64_int (usable_count hn)
  rw [Binary64.ofInt_whole (Nat.le_of_lt hn)] at hx
  rw [Number.quotient_of_toBinary64 hx rfl (Number.isZero_finite hne) (Or.inr ⟨_, rfl⟩), Binary64.quotient, Bool.false_xor]

/-- A value and a whole number. -/
theorem value_quotient {negative : Bool} {n units : Nat} (hn : n < twoTo 53) (hr : Representable units) (hpos : 0 < n) :
    (Number.float (.finite negative units hr)).quotient (.int n)
      = .ok (.ofQuotient negative (units * unitsPerOne) (n * unitsPerOne)) := by
  have hy := Number.toBinary64_int (usable_count hn)
  rw [Binary64.ofInt_whole (Nat.le_of_lt hn)] at hy
  have hne : n * unitsPerOne ≠ 0 := Nat.ne_of_gt (Nat.mul_pos hpos unitsPerOne_pos)
  rw [Number.quotient_of_toBinary64 rfl hy (Number.isZero_finite hne) (Or.inl ⟨_, rfl⟩), Binary64.quotient, Bool.xor_false]

/-- A count out of a target that is above it. -/
theorem ratio_count_target (hc : c < twoTo 53) (ht : t.At p) (h : FallsShort (c * unitsPerOne) p.toNat) (hp : 0 < p) :
    ratio (.int c) t = .ok (.share (c * unitsPerOne) p.toNat) := by
  suffices hq : (Number.int c).quotient t = .ok (.share (c * unitsPerOne) p.toNat) by
    rw [ratio_eq hq, Binary64.clamp_share h]
  rcases ht.of_pos hp with ⟨n, rfl, rfl⟩ | ⟨units, hr, rfl, rfl⟩
  · exact quotient_whole (usable_count hc) (Nat.pos_of_mul_pos_right (Int.ofNat_lt.mp hp))
  · exact quotient_value hc hr (Nat.ne_of_gt (Int.ofNat_lt.mp hp))

theorem clamp_ofQuotient_negative (n d : Nat) : (Binary64.ofQuotient true n d).clamp = .zero := by
  unfold Binary64.ofQuotient
  split
  · exact Binary64.clamp_negative _
  · rfl

theorem clamp_share_zero (d : Nat) : (Binary64.share 0 d).clamp = .zero := by
  rw [Binary64.share_zero]
  exact Binary64.clamp_finite representable_zero (Nat.zero_le _)

/-- A target that is not above zero makes no share. -/
theorem ratio_of_nonpos (hc : c < twoTo 53) (hpos : 0 < c) (ht : t.At p) (husable : t.Usable) (hp : p ≤ 0) :
    ratio t (.int c) = .ok .zero := by
  cases t with
  | int n =>
    cases ht
    have hn : n ≤ 0 := Int.not_lt.mp fun hlt =>
      absurd (Int.mul_pos hlt (Int.natCast_pos.mpr unitsPerOne_pos)) (Int.not_lt.mpr hp)
    have hsign : decide ((c : Int) < 0) = false := decide_eq_false (Int.not_lt.mpr (Int.natCast_nonneg c))
    rw [ratio_eq (Number.quotient_int_eq husable (Int.ofNat_ne_zero.mpr (Nat.ne_of_gt hpos))), hsign]
    rcases Int.lt_or_eq_of_le hn with hneg | rfl
    · rw [decide_eq_true hneg, Bool.xor_false, clamp_ofQuotient_negative]
    · rw [decide_eq_false (Int.lt_irrefl 0), Bool.xor_false, Int.natAbs_zero, Int.natAbs_natCast,
        ← Binary64.share, clamp_share_zero]
  | float x =>
    cases x with
    | infinite negative => cases negative <;> cases ht
    | nan => cases ht
    | finite negative units hr =>
      cases ht
      rw [ratio_eq (value_quotient hc hr hpos)]
      cases negative with
      | true => rw [clamp_ofQuotient_negative]
      | false =>
        obtain rfl : units = 0 := Nat.le_zero.mp (Int.ofNat_le.mp hp)
        rw [← Binary64.share, clamp_share_zero]

/-- A target out of a count that is above it. -/
theorem ratio_target_count (hc : c < twoTo 53) (hpos : 0 < c) (ht : t.At p) (husable : t.Usable)
    (h : FallsShort p.toNat (c * unitsPerOne)) : ratio t (.int c) = .ok (.share p.toNat (c * unitsPerOne)) := by
  rcases Int.lt_or_le 0 p with hp | hp
  · suffices hq : t.quotient (.int c) = .ok (.share p.toNat (c * unitsPerOne)) by
      rw [ratio_eq hq, Binary64.clamp_share h]
    rcases ht.of_pos hp with ⟨n, rfl, rfl⟩ | ⟨units, hr, rfl, rfl⟩
    · exact quotient_whole husable hpos
    · exact value_quotient hc hr hpos
  · rw [ratio_of_nonpos hc hpos ht husable hp, Int.toNat_of_nonpos hp, Binary64.share_zero]

/-! ## Comparisons that fail -/

theorem Number.At.le_zero_eq_false (ht : t.At p) (h : 0 < p) : t.le 0 = false := by
  rw [Bool.eq_false_iff, ne_eq, ht.le_zero_iff]
  exact Int.not_le.mpr h

theorem Number.At.isZero_eq_false (ht : t.At p) (h : p ≠ 0) : t.isZero = false := by
  rw [Bool.eq_false_iff, ne_eq, ht.isZero_iff]
  exact h

theorem share_of_nonpos (hp : p ≤ 0) (d : Nat) : Binary64.share p.toNat d = .zero := by
  rw [Int.toNat_of_nonpos hp, Binary64.share_zero]

theorem le_zero_count : (Number.int c).le 0 = true ↔ c = 0 := by
  rw [(Number.at_count c).le_zero_iff]
  have hunits := unitsPerOne_pos
  constructor
  · intro h
    have h : c * unitsPerOne = 0 := Nat.le_zero.mp (Int.ofNat_le.mp h)
    exact (Nat.mul_eq_zero.mp h).resolve_right (Nat.ne_of_gt hunits)
  · rintro rfl
    rw [Nat.zero_mul]
    exact Int.le_refl 0

/-- What a comparison with a count that fails comes to: the one amount falls short of the other, and closeness is its
share. -/
structure Lacking (op : Operator) (c : Nat) (t : Number) : Prop where
  fallsShort : FallsShort (op.amounts c t).1 (op.amounts c t).2
  closeness : closeness op (.int c) t = .ok (.share (op.amounts c t).1 (op.amounts c t).2)

theorem lacking_atLeast (hc : c < twoTo 53) (ht : t.At p) (hnot : Operator.holds .atLeast (.int c) t = false)
    (h : (c * unitsPerOne : Nat) < p) : Lacking .atLeast c t := by
  have hpos : 0 < p := Int.lt_of_le_of_lt (Int.natCast_nonneg _) h
  have hshort := fallsShort_of_lt hc ht h
  have hratio := ratio_count_target hc ht hshort hpos
  rw [← ht.amount] at hshort hratio
  refine ⟨hshort, ?_⟩
  unfold closeness
  rw [hnot]
  dsimp only
  rw [ht.isZero_eq_false (Int.ne_of_gt hpos)]
  exact hratio

theorem lacking_above (hc : c < twoTo 53) (ht : t.At p) (hnot : Operator.holds .above (.int c) t = false)
    (h : (c * unitsPerOne : Nat) ≤ p) : Lacking .above c t := by
  obtain ⟨q, hq, hle⟩ := ht.succ hc h
  have hpos : 0 < q := Int.lt_of_lt_of_le (Int.natCast_pos.mpr (Nat.mul_pos (Nat.succ_pos c) unitsPerOne_pos)) hle
  have hshort : FallsShort (c * unitsPerOne) q.toNat := by
    refine .of_add_le hc (Nat.le_refl _) ?_
    rw [← Nat.succ_mul]
    exact (Int.le_toNat (Int.le_of_lt hpos)).mpr hle
  have hratio := ratio_count_target hc hq hshort hpos
  rw [← hq.amount] at hshort hratio
  refine ⟨hshort, ?_⟩
  unfold closeness
  rw [hnot]
  dsimp only
  rw [hq.le_zero_eq_false hpos]
  exact hratio

/-- A share of the count, if neither of the two is zero. -/
theorem ratio_guarded (hc : c < twoTo 53) (ht : t.At p) (husable : t.le 0 = false → t.Usable)
    (h : FallsShort t.amount (c * unitsPerOne)) :
    (if t.le 0 || (Number.int c).le 0 then .ok .zero else ratio t (.int c))
      = Except.ok (.share t.amount (c * unitsPerOne)) := by
  split
  · rename_i hguard
    have hzero : t.amount = 0 := by
      rcases (Bool.or_eq_true _ _).mp hguard with hle | hle
      · rw [ht.amount, Int.toNat_of_nonpos (ht.le_zero_iff.mp hle)]
      · rw [le_zero_count.mp hle, Nat.zero_mul] at h
        exact Nat.le_zero.mp h.le
    rw [hzero, Binary64.share_zero]
  · rename_i hguard
    obtain ⟨hle, hcount⟩ := Bool.or_eq_false_iff.mp (Bool.eq_false_iff.mpr hguard)
    have hpos : 0 < c := Nat.pos_of_ne_zero fun hzero => Bool.eq_false_iff.mp hcount (le_zero_count.mpr hzero)
    rw [ht.amount] at h ⊢
    exact ratio_target_count hc hpos ht (husable hle) h

theorem lacking_atMost (hc : c < twoTo 53) (ht : t.At p) (husable : t.Usable)
    (hnot : Operator.holds .atMost (.int c) t = false) (h : p < (c * unitsPerOne : Nat)) : Lacking .atMost c t := by
  have hshort := fallsShort_of_gt hc ht h
  rw [← ht.amount] at hshort
  refine ⟨hshort, ?_⟩
  unfold closeness
  rw [hnot]
  exact ratio_guarded hc ht (fun _ => husable) hshort

theorem lacking_below (hc : c < twoTo 53) (ht : t.At p)
    (hnot : Operator.holds .below (.int c) t = false) (h : p ≤ (c * unitsPerOne : Nat)) : Lacking .below c t := by
  obtain ⟨q, hq, hle⟩ := ht.pred hc h
  have hshort : FallsShort t.pred.amount (c * unitsPerOne) := by
    rw [hq.amount]
    cases c with
    | zero =>
      rw [Int.toNat_of_nonpos (by simpa using hle)]
      exact .zero _
    | succ k =>
      have hle : q.toNat ≤ k * unitsPerOne := Int.toNat_le.mpr hle
      refine .of_add_le (Nat.lt_of_succ_lt hc) hle ?_
      rw [Nat.succ_mul]
      exact Nat.add_le_add_right hle _
  have husable : t.pred.le 0 = false → t.pred.Usable := by
    intro hpred
    refine Number.usable_pred (natAbs_count_lt hc) hpred ?_
    rw [Bool.eq_false_iff, ne_eq, (Number.at_count c).lt_iff ht]
    exact Int.not_lt.mpr h
  refine ⟨hshort, ?_⟩
  unfold closeness
  rw [hnot]
  exact ratio_guarded hc hq husable hshort

theorem amounts_equal_of_lt (ht : t.At p) (h : (c * unitsPerOne : Nat) < p) :
    Operator.equal.amounts c t = (c * unitsPerOne, p.toNat) := by
  unfold Operator.amounts
  dsimp only
  rw [ht.amount, if_pos (Int.lt_toNat.mpr h)]

theorem amounts_equal_of_gt (ht : t.At p) (h : p < (c * unitsPerOne : Nat)) :
    Operator.equal.amounts c t = (p.toNat, c * unitsPerOne) := by
  unfold Operator.amounts
  dsimp only
  rw [ht.amount, if_neg (Nat.not_lt.mpr (Int.toNat_le.mpr (Int.le_of_lt h)))]

theorem lacking_equal (hc : c < twoTo 53) (ht : t.At p) (husable : t.Usable)
    (hnot : Operator.holds .equal (.int c) t = false) (h : (c * unitsPerOne : Nat) ≠ p) : Lacking .equal c t := by
  have hcount := Number.at_count c
  rcases Int.lt_or_gt_of_ne h with hlt | hgt
  · have hpos : 0 < p := Int.lt_of_le_of_lt (Int.natCast_nonneg _) hlt
    have hshort := fallsShort_of_lt hc ht hlt
    refine ⟨by rw [amounts_equal_of_lt ht hlt]; exact hshort, ?_⟩
    rw [amounts_equal_of_lt ht hlt]
    unfold closeness
    rw [hnot]
    dsimp only
    rw [ht.isZero_eq_false (Int.ne_of_gt hpos), (hcount.lt_iff ht).mpr hlt]
    exact ratio_count_target hc ht hshort hpos
  · have hshort := fallsShort_of_gt hc ht hgt
    have hnlt : ¬ (Number.int c).lt t = true := by
      rw [hcount.lt_iff ht]
      exact Int.not_lt.mpr (Int.le_of_lt hgt)
    refine ⟨by rw [amounts_equal_of_gt ht hgt]; exact hshort, ?_⟩
    rw [amounts_equal_of_gt ht hgt]
    unfold closeness
    rw [hnot]
    dsimp only
    rw [if_neg Bool.false_ne_true, if_neg hnlt, if_pos ((ht.lt_iff hcount).mpr hgt)]
    by_cases hp : p = 0
    · rw [if_pos (ht.isZero_iff.mpr hp), hp]
      have hne : (Number.int c).isZero = false := hcount.isZero_eq_false fun hzero => by omega
      rw [hne]
      exact congrArg Except.ok (Binary64.share_zero _).symm
    · rw [if_neg fun hzero => hp (ht.isZero_iff.mp hzero)]
      split
      · rename_i hzero
        have hnone : c * unitsPerOne = 0 := Int.ofNat_eq_zero.mp (hcount.isZero_iff.mp hzero)
        rw [share_of_nonpos (by omega)]
      · rename_i hzero
        have hpos : 0 < c := Nat.pos_of_ne_zero fun h =>
          hzero (hcount.isZero_iff.mpr (by rw [h, Nat.zero_mul]; rfl))
        exact ratio_target_count hc hpos ht husable hshort

/-- **A comparison that fails** has one of its two amounts fall short of the other. -/
theorem lacking_of_not_holds (op : Operator) (hc : c < twoTo 53) (ht : t.At p) (husable : t.Usable)
    (hnot : op.holds (.int c) t = false) : Lacking op c t := by
  have hcount := Number.at_count c
  have hnone : closeness op (.int c) t = .ok .zero → op.amounts c t = (0, c * unitsPerOne) → Lacking op c t := by
    intro hzero hamounts
    refine ⟨?_, ?_⟩
    · rw [hamounts]
      exact .zero _
    · rw [hamounts, Binary64.share_zero]
      exact hzero
  have horder : ¬ op.Orders (c * unitsPerOne : Nat) p := by
    rw [← op.holds_iff hcount ht, hnot]
    exact Bool.false_ne_true
  cases op with
  | atLeast => exact lacking_atLeast hc ht hnot (Int.not_le.mp horder)
  | above => exact lacking_above hc ht hnot (Int.not_lt.mp horder)
  | atMost => exact lacking_atMost hc ht husable hnot (Int.not_le.mp horder)
  | below => exact lacking_below hc ht hnot (Int.not_lt.mp horder)
  | equal => exact lacking_equal hc ht husable hnot horder
  | notEqual =>
    have hsame : (Number.int c).same t = true := (hcount.same_iff ht).mpr (Decidable.not_not.mp horder)
    refine hnone ?_ rfl
    unfold closeness
    rw [hnot]
    dsimp only
    rw [hsame]
    rfl
  | other symbol => exact hnone rfl rfl

end

/-! ## Full or not -/

/-- The closeness of a comparison with a count: one if it holds, and otherwise the share that the one amount is of the
other. -/
inductive Gauge (op : Operator) (c : Nat) (t : Number) : Binary64 → Prop where
  | full (holds : op.holds (.int c) t = true) : Gauge op c t .one
  | short (fails : op.holds (.int c) t = false) (h : FallsShort (op.amounts c t).1 (op.amounts c t).2) :
      Gauge op c t (.share (op.amounts c t).1 (op.amounts c t).2)

theorem gauge_closeness (op : Operator) {c : Nat} (hc : c < twoTo 53) {t : Number} {p : Int} (ht : t.At p)
    (husable : t.Usable) : ∃ x, closeness op (.int c) t = .ok x ∧ Gauge op c t x := by
  cases h : op.holds (.int c) t with
  | true => exact ⟨.one, if_pos h, .full h⟩
  | false =>
    have hlacking := lacking_of_not_holds op hc ht husable h
    exact ⟨_, hlacking.closeness, .short h hlacking.fallsShort⟩

namespace Gauge

variable {op : Operator} {c c' : Nat} {t : Number} {x x' : Binary64}

theorem eq_one_iff (h : Gauge op c t x) : x = .one ↔ op.holds (.int c) t = true := by
  cases h with
  | full holds => exact ⟨fun _ => holds, fun _ => rfl⟩
  | short fails h =>
    rw [fails]
    exact ⟨fun hone => absurd hone (Binary64.share_ne_one h), nofun⟩

theorem le_one (h : Gauge op c t x) : (Number.float x).le (.float .one) = true := by
  cases h with
  | full holds => exact Binary64.isShare_one.le_one
  | short fails h => exact Binary64.share_le_one h

/-- While more is asked for than there is, more is closer. -/
theorem le_of_rises (hop : op.Rises) (hle : c ≤ c') (h : Gauge op c t x) (h' : Gauge op c' t x') :
    (Number.float x).le (.float x') = true := by
  cases h' with
  | full holds' => exact h.le_one
  | short fails' hshort' =>
    cases h with
    | full holds =>
      rw [hop.holds (Int.ofNat_le.mpr hle) holds] at fails'
      cases fails'
    | short fails hshort =>
      have hunits : c * unitsPerOne ≤ c' * unitsPerOne := Nat.mul_le_mul_right _ hle
      rcases hop with rfl | rfl
      · exact Binary64.share_le_of_le hshort hshort' hunits
      · exact Binary64.share_le_of_le hshort hshort' hunits

/-- While less is asked for than there is, more is further away. -/
theorem ge_of_falls (hop : op.Falls) (hle : c ≤ c') (h : Gauge op c t x) (h' : Gauge op c' t x') :
    (Number.float x').le (.float x) = true := by
  cases h with
  | full holds => exact h'.le_one
  | short fails hshort =>
    cases h' with
    | full holds' =>
      rw [hop.holds (Int.ofNat_le.mpr hle) holds'] at fails
      cases fails
    | short fails' hshort' =>
      have hunits : c * unitsPerOne ≤ c' * unitsPerOne := Nat.mul_le_mul_right _ hle
      rcases hop with rfl | rfl
      · exact Binary64.share_le_of_ge hshort' hshort hunits
      · exact Binary64.share_le_of_ge hshort' hshort hunits

/-- Up to a target more is closer to it. -/
theorem le_of_equal {p : Int} (ht : t.At p) (hle : c ≤ c') (hbefore : (c' * unitsPerOne : Nat) ≤ p)
    (h : Gauge .equal c t x) (h' : Gauge .equal c' t x') : (Number.float x).le (.float x') = true := by
  cases h' with
  | full holds' => exact h.le_one
  | short fails' hshort' =>
    have hunits : c * unitsPerOne ≤ c' * unitsPerOne := Nat.mul_le_mul_right _ hle
    have hne : ¬ (c' * unitsPerOne : Nat) = p := fun heq =>
      Bool.eq_false_iff.mp fails' ((Operator.holds_iff _ (Number.at_count c') ht).mpr heq)
    have hlt' : (c' * unitsPerOne : Nat) < p := lt_of_le_of_ne hbefore hne
    have hlt : (c * unitsPerOne : Nat) < p := Int.lt_of_le_of_lt (Int.ofNat_le.mpr hunits) hlt'
    cases h with
    | full holds =>
      have heq : (c * unitsPerOne : Nat) = p := (Operator.holds_iff _ (Number.at_count c) ht).mp holds
      exact absurd heq (Int.ne_of_lt hlt)
    | short fails hshort =>
      rw [amounts_equal_of_lt ht hlt] at hshort ⊢
      rw [amounts_equal_of_lt ht hlt'] at hshort' ⊢
      exact Binary64.share_le_of_le hshort hshort' hunits

/-- From a target on more is further away from it. -/
theorem ge_of_equal {p : Int} (ht : t.At p) (hle : c ≤ c') (hafter : p ≤ (c * unitsPerOne : Nat))
    (h : Gauge .equal c t x) (h' : Gauge .equal c' t x') : (Number.float x').le (.float x) = true := by
  cases h with
  | full holds => exact h'.le_one
  | short fails hshort =>
    have hunits : c * unitsPerOne ≤ c' * unitsPerOne := Nat.mul_le_mul_right _ hle
    have hne : ¬ (c * unitsPerOne : Nat) = p := fun heq =>
      Bool.eq_false_iff.mp fails ((Operator.holds_iff _ (Number.at_count c) ht).mpr heq)
    have hgt : p < (c * unitsPerOne : Nat) := lt_of_le_of_ne hafter fun heq => hne heq.symm
    have hgt' : p < (c' * unitsPerOne : Nat) := Int.lt_of_lt_of_le hgt (Int.ofNat_le.mpr hunits)
    cases h' with
    | full holds' =>
      have heq : (c' * unitsPerOne : Nat) = p := (Operator.holds_iff _ (Number.at_count c') ht).mp holds'
      exact absurd heq (Int.ne_of_gt hgt')
    | short fails' hshort' =>
      rw [amounts_equal_of_gt ht hgt] at hshort ⊢
      rw [amounts_equal_of_gt ht hgt'] at hshort' ⊢
      exact Binary64.share_le_of_ge hshort' hshort hunits

end Gauge

/-! ## Thresholds that are read -/

/-- A threshold that is read is finite. -/
theorem Criteria.at_of_parse {text : String} {cs : List Clause} (h : Criteria.parse text = .ok cs) :
    ∀ c ∈ cs, ∃ p, c.threshold.At p := by
  intro c hc
  obtain ⟨w, raw, ht⟩ := Criteria.threshold_of_parse h c hc
  unfold Criteria.Written.threshold at ht
  split at ht
  · cases ht
  · rename_i hfinite
    split at ht
    · rw [← Except.ok.inj ht]
      cases hx : w.nearest with
      | finite negative units hr => exact ⟨_, Number.at_finite negative units hr⟩
      | infinite negative =>
        rw [hx] at hfinite
        exact absurd rfl hfinite
      | nan =>
        rw [hx] at hfinite
        exact absurd rfl hfinite
    · split at ht
      · cases ht
      · rw [← Except.ok.inj ht]
        exact ⟨_, Number.at_int _⟩

/-- How the closeness of a comparison follows a count that grows from `c` to `c'`. -/
structure Nears (op : Operator) (t : Number) (c c' : Nat) (x x' : Binary64) : Prop where
  /-- The closeness of the smaller count is one exactly when the comparison holds of it. -/
  full : x = .one ↔ op.holds (.int c) t = true
  /-- The closeness of the larger count is one exactly when the comparison holds of that. -/
  full' : x' = .one ↔ op.holds (.int c') t = true
  /-- Where more is asked for, the closeness does not sink. -/
  rises : op.Rises → (Number.float x).le (.float x') = true
  /-- Where less is asked for, the closeness does not grow. -/
  falls : op.Falls → (Number.float x').le (.float x) = true
  /-- Where one number is asked for, the closeness does not sink while the count comes up to it. -/
  before : op = .equal → (Number.int c').le t = true → (Number.float x).le (.float x') = true
  /-- Where one number is asked for, the closeness does not grow once the count has come up to it. -/
  after : op = .equal → t.le (.int c) = true → (Number.float x').le (.float x) = true

/-- **Closeness is one exactly when the comparison holds, and it does not run backwards**, for every threshold that is
read from a text and all counts below 2⁵³. -/
theorem closeness_nears {text : String} {clauses : List Clause} (hparse : Criteria.parse text = .ok clauses)
    {clause : Clause} (hclause : clause ∈ clauses) (op : Operator) {c c' : Nat} (hle : c ≤ c') (hc' : c' < twoTo 53) :
    ∃ x x', closeness op (.int c) clause.threshold = .ok x ∧ closeness op (.int c') clause.threshold = .ok x'
      ∧ Nears op clause.threshold c c' x x' := by
  obtain ⟨p, ht⟩ := Criteria.at_of_parse hparse clause hclause
  have husable := Criteria.usable_of_parse hparse clause hclause
  obtain ⟨x, hx, h⟩ := gauge_closeness op (Nat.lt_of_le_of_lt hle hc') ht husable
  obtain ⟨x', hx', h'⟩ := gauge_closeness op hc' ht husable
  refine ⟨x, x', hx, hx', ?_⟩
  exact
    { full := h.eq_one_iff
      full' := h'.eq_one_iff
      rises := fun hop => h.le_of_rises hop hle h'
      falls := fun hop => h.ge_of_falls hop hle h'
      before := by
        rintro rfl hbefore
        exact h.le_of_equal ht hle (((Number.at_count c').le_iff ht).mp hbefore) h'
      after := by
        rintro rfl hafter
        exact h.ge_of_equal ht hle ((ht.le_iff (Number.at_count c)).mp hafter) h' }

/-- Two races and then three, where more than two and a half are asked for. -/
theorem closeness_nears_decimal :
    ∃ x x', closeness .above (.int (2 : Nat)) (.float (.ofDecimal false 25 (-1))) = .ok x
      ∧ closeness .above (.int (3 : Nat)) (.float (.ofDecimal false 25 (-1))) = .ok x'
      ∧ Nears .above (.float (.ofDecimal false 25 (-1))) 2 3 x x' := by
  have hparse : Criteria.parse "races > 2.5" = .ok [⟨"races", .above, .float (.ofDecimal false 25 (-1))⟩] := by
    decide +kernel
  exact closeness_nears hparse (List.mem_singleton.mpr rfl) .above (by decide) (by decide)

end Laurels
