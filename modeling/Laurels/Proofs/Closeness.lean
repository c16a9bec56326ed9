import Laurels.Report
import Laurels.Proofs.Criteria.Parsing
import Laurels.Proofs.Number.Quotient

/-!
# Closeness is defined

How close a clause comes to holding is a quotient, and not every quotient of numbers is defined. For a clause
that was read from a text, and a count of at most 64 bits, it always is (`closeness_defined`): a threshold that
is read is usable (`Criteria.usable_of_parse`), and no comparison divides by zero. The mean over not too many
clauses is defined as well (`mean_defined`).
-/

namespace Laurels

/-! ## Comparisons with integers -/

namespace Number

theorem isZero_of_not_le {a : Number} (h : a.le 0 = false) : a.isZero = false :=
  (Bool.or_eq_false_iff.mp h).2

theorem lt_int (a b : Int) : (Number.int a).lt (.int b) = decide (a < b) := by
  unfold lt
  rw [compare?_int]
  rcases Int.lt_trichotomy a b with h | h | h
  · rw [Int.compare_eq_lt.mpr h, decide_eq_true h]
    rfl
  · rw [Int.compare_eq_eq.mpr h, decide_eq_false (by omega)]
    rfl
  · rw [Int.compare_eq_gt.mpr h, decide_eq_false (by omega)]
    rfl

theorem pos_of_not_le {n : Int} (h : (Number.int n).le 0 = false) : 0 < n := by
  have hne : n ≠ 0 := isZero_int.mp (isZero_of_not_le h)
  have hlt : (Number.int n).lt (.int 0) = false := (Bool.or_eq_false_iff.mp h).1
  rw [lt_int, decide_eq_false_iff_not] at hlt
  omega

/-- An integer divides by what is not zero. -/
theorem quotient_of_int {n : Int} (hn : (Number.int n).Usable) {t : Number} (ht : t.isZero = false) :
    ∃ q, (Number.int n).quotient t = .ok q := by
  cases t with
  | int m => exact quotient_int hn (isZero_int.mp ht)
  | float y => exact quotient_int_float hn ht

/-- What is usable divides by an integer that is not zero. -/
theorem quotient_by_int {t : Number} (ht : t.Usable) {n : Int} (hn : (Number.int n).Usable) (hne : n ≠ 0) :
    ∃ q, t.quotient (.int n) = .ok q := by
  cases t with
  | int m => exact quotient_int ht hne
  | float x => exact quotient_float_int hn hne

/-- One less than a threshold that is above zero and, if it is an integer, not above the count. -/
theorem usable_pred {n : Int} (hn : n.natAbs < twoTo 64) {t : Number} (hpred : t.pred.le 0 = false)
    (hnot : (Number.int n).lt t = false) : t.pred.Usable := by
  cases t with
  | float x => exact usable_float _
  | int m =>
    have hpos : 0 < m - 1 := pos_of_not_le hpred
    rw [lt_int, decide_eq_false_iff_not] at hnot
    exact usable_of_natAbs_lt (n := m - 1) (by omega)

end Number

theorem ratio_defined {a b : Number} (h : ∃ q, a.quotient b = .ok q) : ∃ x, ratio a b = .ok x := by
  obtain ⟨q, hq⟩ := h
  refine ⟨q.clamp, ?_⟩
  unfold ratio
  rw [hq]
  rfl

/-- **Closeness is defined** for a count of 64 bits and a usable threshold. -/
theorem closeness_defined (op : Operator) {n : Int} (hn : n.natAbs < twoTo 64) {t : Number} (ht : t.Usable) :
    ∃ x, closeness op (.int n) t = .ok x := by
  have hcount := Number.usable_of_natAbs_lt hn
  unfold closeness
  split
  · exact ⟨_, rfl⟩
  · rename_i hnot
    cases op with
    | atLeast =>
      dsimp only
      split
      · exact ⟨_, rfl⟩
      · rename_i hzero
        exact ratio_defined (Number.quotient_of_int hcount (Bool.eq_false_iff.mpr hzero))
    | above =>
      dsimp only
      split
      · exact ⟨_, rfl⟩
      · rename_i hle
        exact ratio_defined (Number.quotient_of_int hcount
          (Number.isZero_of_not_le (Bool.eq_false_iff.mpr hle)))
    | atMost =>
      dsimp only
      split
      · exact ⟨_, rfl⟩
      · rename_i hle
        have hpos := Number.pos_of_not_le (Bool.or_eq_false_iff.mp (Bool.eq_false_iff.mpr hle)).2
        exact ratio_defined (Number.quotient_by_int ht hcount (Int.ne_of_gt hpos))
    | below =>
      dsimp only
      split
      · exact ⟨_, rfl⟩
      · rename_i hle
        obtain ⟨hpred, hle⟩ := Bool.or_eq_false_iff.mp (Bool.eq_false_iff.mpr hle)
        have hpos := Number.pos_of_not_le hle
        have husable : t.pred.Usable := Number.usable_pred hn hpred (Bool.eq_false_iff.mpr hnot)
        exact ratio_defined (Number.quotient_by_int husable hcount (Int.ne_of_gt hpos))
    | equal =>
      dsimp only
      split
      · exact ⟨_, rfl⟩
      · rename_i hzero
        split
        · exact ratio_defined (Number.quotient_of_int hcount (Bool.eq_false_iff.mpr hzero))
        · split
          · split
            · exact ⟨_, rfl⟩
            · rename_i hcurrent
              exact ratio_defined (Number.quotient_by_int ht hcount
                (Number.isZero_int.mp (Bool.eq_false_iff.mpr hcurrent)))
          · exact ⟨_, rfl⟩
    | notEqual => exact ⟨_, rfl⟩
    | other symbol => exact ⟨_, rfl⟩

/-- The mean of some values, not too many, is defined. -/
theorem mean_defined {xs : List Binary64} (hne : xs ≠ []) (hlen : xs.length < twoTo 64) :
    ∃ x, mean xs = .ok x := by
  have hlen' : (xs.length : Int).natAbs < twoTo 64 := by rwa [Int.natAbs_natCast]
  have hpos : (xs.length : Int) ≠ 0 := by
    rw [Int.natCast_ne_zero]
    exact fun h => hne (List.length_eq_zero_iff.mp h)
  exact ratio_defined (Number.quotient_by_int (Number.usable_float _)
    (Number.usable_of_natAbs_lt hlen') hpos)

/-! ## What is read from a text -/

namespace Criteria

open Text

theorem natAbs_signed (negative : Bool) (units : Nat) : (Binary64.signed negative units).natAbs = units := by
  unfold Binary64.signed
  split <;> simp

/-- A whole number that is not too large for a binary64 value is usable. -/
theorem usable_of_ofDecimal {negative : Bool} {m : Nat}
    (h : (Binary64.ofDecimal negative m 0).isFinite = true) :
    (Number.int (Binary64.signed negative m)).Usable := by
  by_cases hm : m = 0
  · subst hm
    refine Number.usable_of_natAbs_lt ?_
    rw [natAbs_signed]
    exact twoTo_pos 64
  · -- both sides round the same quotient
    rw [Number.usable_int, natAbs_signed]
    unfold Binary64.ofDecimal at h
    rw [if_neg hm, if_neg (by decide), if_neg (by omega), Binary64.isFinite_ofQuotient] at h
    have hten : tenTo (0 : Int).toNat = 1 := rfl
    have hten' : tenTo (-(0 : Int)).toNat = 1 := rfl
    rw [hten, hten', Nat.mul_one] at h
    exact h

theorem usable_of_threshold {w : Written} {raw : String} {t : Number} (h : w.threshold raw = .ok t) :
    t.Usable := by
  unfold Written.threshold at h
  split at h
  · cases h
  · rename_i hfinite
    split at h
    · cases h
      exact Number.usable_float _
    · rename_i hplaces
      split at h
      · cases h
      · cases h
        have hnearest : w.nearest = Binary64.ofDecimal w.negative (valueOf w.whole) 0 := by
          unfold Written.nearest
          simp only [hplaces, Option.getD_none, List.append_nil]
          rfl
        rw [hnearest] at hfinite
        exact usable_of_ofDecimal (by simpa using hfinite)

theorem threshold_of_parseClause {line : List Char} {c : Clause} (h : parseClause line = .ok c) :
    ∃ (w : Written) (raw : String), w.threshold raw = .ok c.threshold := by
  unfold parseClause at h
  split at h
  · cases h
  · split at h
    · cases h
    · rename_i w hw
      cases ht : w.threshold _ with
      | error e =>
        rw [ht] at h
        cases h
      | ok t =>
        rw [ht] at h
        cases h
        exact ⟨w, _, ht⟩

theorem threshold_of_parseClauses {lines : List (List Char)} {cs : List Clause} (h : parseClauses lines = .ok cs) :
    ∀ c ∈ cs, ∃ (w : Written) (raw : String), w.threshold raw = .ok c.threshold := by
  induction lines generalizing cs with
  | nil =>
    cases h
    simp
  | cons line lines ih =>
    obtain ⟨c, rest, hc, hrest, rfl⟩ := parseClauses_cons h
    intro d hd
    rcases List.mem_cons.mp hd with rfl | hd
    · exact threshold_of_parseClause hc
    · exact ih hrest d hd

/-- Every threshold is read from a number as a clause writes it. -/
theorem threshold_of_parse {text : String} {cs : List Clause} (h : parse text = .ok cs) :
    ∀ c ∈ cs, ∃ (w : Written) (raw : String), w.threshold raw = .ok c.threshold :=
  threshold_of_parseClauses (parse_eq_ok h).2

/-- **Every threshold that is read is usable.** -/
theorem usable_of_parse {text : String} {cs : List Clause} (h : parse text = .ok cs) :
    ∀ c ∈ cs, c.threshold.Usable := by
  intro c hc
  obtain ⟨w, raw, ht⟩ := threshold_of_parse h c hc
  exact usable_of_threshold ht

end Criteria

end Laurels
