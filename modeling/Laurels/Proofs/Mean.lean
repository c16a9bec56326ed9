import Laurels.Proofs.Nearing

/-!
# The mean of shares

Shares are added from left to right, and each addition rounds. Rounding keeps order and leaves whole numbers up to 2⁵³
alone, so it never carries a sum beyond a whole number on either side: the sum of up to 2⁵³ shares is no more than their
number, and no less than the number of those that are one (`between_sum`). Nothing is said of how far it is from the
exact sum.

So the mean of shares is a share again. If it is compared with how many of them are one, out of how many there are, it
is not the smaller of the two, because the quotient on either side is rounded once (`mean_shares`).
-/

namespace Laurels

namespace Binary64

/-- A value from one whole number to another, and not the zero below zero. -/
inductive Between (low high : Nat) : Binary64 → Prop where
  | units {units : Nat} (h : Representable units) (ge : low * unitsPerOne ≤ units) (le : units ≤ high * unitsPerOne) :
      Between low high (.finite false units h)

variable {a b c d : Nat} {x y : Binary64}

theorem between_zero : Between 0 0 zero :=
  .units representable_zero (Nat.le_of_eq (Nat.zero_mul _)) (Nat.zero_le _)

theorem between_one : Between 1 1 one := by
  rw [one_eq]
  exact .units representable_unitsPerOne (Nat.le_of_eq (Nat.one_mul _)) (Nat.le_of_eq (Nat.one_mul _).symm)

theorem Between.le (h : Between a b x) : a ≤ b := by
  cases h with
  | units hr hge hle => exact Nat.le_of_mul_le_mul_right (Nat.le_trans hge hle) unitsPerOne_pos

/-- A share lies between zero and one. -/
theorem IsShare.between (h : x.IsShare) : Between 0 1 x := by
  cases x with
  | nan => cases h.finite
  | infinite negative => cases h.finite
  | finite negative units hr =>
    have hnonneg := ((Number.at_finite false 0 representable_zero).le_iff (Number.at_finite negative units hr)).mp h.nonneg
    have hone := h.le_one
    rw [one_eq, (Number.at_finite negative units hr).le_iff (Number.at_finite _ _ _)] at hone
    cases negative with
    | true =>
      -- below zero there is only the other zero
      have hzero : (0 : Int) ≤ -(units : Int) := hnonneg
      obtain rfl : units = 0 := by omega
      exact absurd rfl h.not_negative_zero
    | false =>
      refine .units hr (by rw [Nat.zero_mul]; exact Nat.zero_le _) ?_
      rw [Nat.one_mul]
      exact Int.ofNat_le.mp hone

/-- Where neither of two values is below zero, their units are added. -/
theorem add_units {u v : Nat} (hu : Representable u) (hv : Representable v) :
    (finite false u hu).add (finite false v hv) = ofQuotient false (u + v) 1 := by
  have htotal : signed false u + signed false v = (u + v : Nat) := (Int.natCast_add u v).symm
  have hsign : decide (((u + v : Nat) : Int) < 0) = false := decide_eq_false (Int.not_lt.mpr (Int.natCast_nonneg _))
  unfold add
  dsimp only
  rw [htotal, Int.natAbs_natCast, hsign, Bool.and_self, ite_self]

/-- An addition does not carry values beyond the whole numbers that they lie between. -/
theorem Between.add (hx : Between a b x) (hy : Between c d y) (hle : b + d ≤ twoTo 53) :
    Between (a + c) (b + d) (x.add y) := by
  have hlow : a + c ≤ twoTo 53 := Nat.le_trans (Nat.add_le_add hx.le hy.le) hle
  cases hx with
  | units hu hau hub =>
    cases hy with
    | units hv hcv hvd =>
      rename_i u v
      have hge : (a + c) * unitsPerOne * 1 ≤ u + v := by
        rw [Nat.mul_one, Nat.add_mul]
        exact Nat.add_le_add hau hcv
      have hunits : u + v ≤ (b + d) * unitsPerOne * 1 := by
        rw [Nat.mul_one, Nat.add_mul]
        exact Nat.add_le_add hub hvd
      have hhigh := nearest_le_of_le (representable_whole hle) Nat.one_pos hunits
      have hr := representable_nearest (Nat.lt_of_le_of_lt hhigh (representable_whole hle).1)
      rw [add_units, ofQuotient_eq rfl hr]
      exact .units hr (le_nearest_of_le (representable_whole hlow) Nat.one_pos hge) hhigh

/-! ## Sums -/

/-- **A sum of shares** that is begun at a value adds no more than one for each of them, and no less than one for each
that is one. -/
theorem between_foldl {xs : List Binary64} (hshares : ∀ x ∈ xs, x.IsShare) (hy : Between a b y)
    (hle : b + xs.length ≤ twoTo 53) : Between (a + xs.count one) (b + xs.length) (xs.foldl add y) := by
  induction xs generalizing a b y with
  | nil => exact hy
  | cons x xs ih =>
    have hshares' : ∀ z ∈ xs, z.IsShare := fun z hz => hshares z (List.mem_cons_of_mem _ hz)
    rw [List.length_cons] at hle ⊢
    have hle₁ : b + 1 ≤ twoTo 53 := by omega
    have hle' : b + 1 + xs.length ≤ twoTo 53 := by omega
    have hlength : b + (xs.length + 1) = b + 1 + xs.length := by omega
    rw [List.foldl_cons, hlength]
    by_cases hone : x = one
    · have hcount : a + (xs.count one + 1) = a + 1 + xs.count one := by omega
      rw [hone, List.count_cons_self, hcount]
      exact ih hshares' (hy.add between_one hle₁) hle'
    · rw [List.count_cons_of_ne hone]
      exact ih hshares' (hy.add (hshares x List.mem_cons_self).between hle₁) hle'

theorem between_sum {xs : List Binary64} (hshares : ∀ x ∈ xs, x.IsShare) (hle : xs.length ≤ twoTo 53) :
    Between (xs.count one) xs.length (sum xs) := by
  have h := between_foldl hshares between_zero (by rwa [Nat.zero_add])
  rwa [Nat.zero_add, Nat.zero_add] at h

end Binary64

/-! ## Means -/

/-- **The mean of shares is a share,** and no smaller than the number of those that are one over the number of all. -/
theorem mean_shares {xs : List Binary64} (hshares : ∀ x ∈ xs, x.IsShare) (hne : xs ≠ []) (hlt : xs.length < twoTo 53) :
    ∃ x, mean xs = .ok x ∧ x.IsShare ∧ ∀ k ≤ xs.count .one,
      ∃ q, (Number.int k).quotient (.int xs.length) = .ok q ∧ (Number.float q).le (.float x) = true := by
  have hpos : 0 < xs.length := List.length_pos_iff.mpr hne
  have hsum := Binary64.between_sum hshares (Nat.le_of_lt hlt)
  unfold mean
  generalize sum xs = s at hsum ⊢
  cases hsum with
  | units hr hge hle =>
    rename_i units
    -- the quotient does not go beyond one, so limiting it leaves it alone
    have hone : nearest units xs.length ≤ unitsPerOne :=
      nearest_le_of_le representable_unitsPerOne hpos (by rwa [Nat.mul_comm])
    have hmean := representable_nearest (Nat.lt_of_le_of_lt hone representable_unitsPerOne.1)
    refine ⟨.finite false (nearest units xs.length) hmean, ?_, Binary64.isShare_finite hmean hone, fun k hk => ?_⟩
    · rw [ratio_eq (value_quotient hlt hr hpos), Binary64.share_mul_right _ _ unitsPerOne_pos,
        Binary64.ofQuotient_eq rfl hmean, Binary64.clamp_finite hmean hone]
    · have hkn : k < twoTo 53 := Nat.lt_of_le_of_lt (Nat.le_trans hk List.count_le_length) hlt
      have hquotient : nearest (k * unitsPerOne) xs.length ≤ nearest units xs.length :=
        nearest_mono_left (Nat.le_trans (Nat.mul_le_mul_right _ hk) hge) _
      have hq := representable_nearest (Nat.lt_of_le_of_lt (Nat.le_trans hquotient hone) representable_unitsPerOne.1)
      refine ⟨.finite false (nearest (k * unitsPerOne) xs.length) hq, ?_, ?_⟩
      · rw [quotient_whole (usable_count hkn) hpos, Binary64.share, Binary64.share_mul_right _ _ unitsPerOne_pos,
          Binary64.ofQuotient_eq rfl hq]
      · exact ((Number.at_finite _ _ _).le_iff (Number.at_finite _ _ _)).mpr (Int.ofNat_le.mpr hquotient)

end Laurels
