import Laurels.Proofs.Number.Quotient
import Laurels.Proofs.Standing
import Laurels.Proofs.Store.Growth

/-!
# The counts that clauses read

On what the tables say of a viewer every metric reads an integer: a race count (`read_race`), a counter
(`read_action`), or zero. Race counts grow while results are saved, and counters grow anyway. So a clause that
asks for many does not cease to hold as time goes on, and one that asks for few has held before if it holds now
(`Clause.holds_later`, `Clause.holds_earlier`).
-/

namespace Laurels

theorem reading_int (n : Int) : Snapshot.reading (.int n) = .int n := by
  unfold Snapshot.reading
  split
  · rename_i hzero
    have hn : n = 0 := by
      refine Decidable.byContradiction fun hne => ?_
      rw [Number.isZero_int.mpr hne] at hzero
      exact Bool.false_ne_true hzero
    rw [hn]
    rfl
  · rfl

/-- One of the race counts. -/
def Tally.count (t : Tally) : RaceCount → Nat
  | .races => t.races
  | .finished => t.finished
  | .wins => t.wins
  | .dnf => t.dnf

/-- The counter of a viewer for a key; one that has not been begun is zero. -/
def Store.counter (s : Store) (viewer key : String) : Int :=
  ((s.counterRows.find? (isCounterOf viewer key)).map (·.count)).getD 0

theorem read_race (t : Tally) (counters : List (String × Int)) (count : RaceCount) :
    (Snapshot.of t counters).read (.race count) = .int (t.count count) := by
  cases count <;> exact reading_int _

theorem read_action (t : Tally) (s : Store) (viewer : String) {key : String} (hk : key ≠ "") :
    (Snapshot.of t (s.countersOf viewer)).read (.action key) = .int (s.counter viewer key) := by
  show Snapshot.reading ((((s.countersOf viewer).map fun c => (c.1, Number.int c.2)).lookup key).getD 0) = _
  unfold Store.counter
  rw [Store.lookup_countersOf _ _ hk]
  cases s.counterRows.find? (Store.isCounterOf viewer key) <;> exact reading_int _

/-- A counter without a key is not read. -/
theorem read_action_empty (t : Tally) (s : Store) (viewer : String) :
    (Snapshot.of t (s.countersOf viewer)).read (.action "") = .int 0 := by
  show Snapshot.reading ((((s.countersOf viewer).map fun c => (c.1, Number.int c.2)).lookup "").getD 0) = _
  rw [Store.lookup_countersOf_empty]
  exact reading_int 0

/-! ## Growth -/

theorem Tally.count_le {rows rows' : List ResultRow} (h : rows.Sublist rows') (count : RaceCount) :
    (Tally.ofResults rows).count count ≤ (Tally.ofResults rows').count count := by
  cases count with
  | races => exact h.length_le
  | finished => exact h.countP_le
  | wins => exact h.countP_le
  | dnf => exact h.countP_le

theorem Store.tallyOf_le {s s' : Store} (h : s.resultRows <+: s'.resultRows) (viewer : String) (count : RaceCount) :
    (s.tallyOf viewer).count count ≤ (s'.tallyOf viewer).count count :=
  Tally.count_le (h.sublist.filter _) count

theorem Store.counter_le {s s' : Store} (h : CountersGrow s.counterRows s'.counterRows) (viewer key : String) :
    s.counter viewer key ≤ s'.counter viewer key := by
  unfold Store.counter
  cases hs : s.counterRows.find? (isCounterOf viewer key) with
  | some r =>
    obtain ⟨r', hr', hgrown⟩ := h.find?_some hs
    rw [hr']
    exact hgrown.count
  | none =>
    cases hs' : s'.counterRows.find? (isCounterOf viewer key) with
    | none => exact Int.le_refl 0
    | some r' => exact Int.le_of_lt (h.find?_none hs hs')

/-! ## Comparisons in one direction -/

namespace Operator

/-- The comparisons that ask for much. -/
def Rises (op : Operator) : Prop := op = .atLeast ∨ op = .above

/-- The comparisons that ask for little. -/
def Falls (op : Operator) : Prop := op = .atMost ∨ op = .below

instance (op : Operator) : Decidable op.Rises := inferInstanceAs (Decidable (_ ∨ _))

instance (op : Operator) : Decidable op.Falls := inferInstanceAs (Decidable (_ ∨ _))

theorem compare?_place (n : Int) (target : Number) :
    (Number.int n).compare? target = target.place?.map (Place.compare (.point (n * unitsPerOne))) := by
  unfold Number.compare?
  cases target.place? <;> rfl

/-- Two integers compare with a target in the same way, or as their places do. -/
theorem compare?_mono {a b : Int} (h : a ≤ b) (target : Number) :
    (∃ q, (Number.int a).compare? target = some (compare (a * unitsPerOne) q)
        ∧ (Number.int b).compare? target = some (compare (b * unitsPerOne) q) ∧ a * unitsPerOne ≤ b * unitsPerOne)
      ∨ (Number.int a).compare? target = (Number.int b).compare? target := by
  rw [compare?_place, compare?_place]
  cases target.place? with
  | none => exact Or.inr rfl
  | some place =>
    cases place with
    | bottom => exact Or.inr rfl
    | top => exact Or.inr rfl
    | point q => exact Or.inl ⟨q, rfl, rfl, Int.mul_le_mul_of_nonneg_right h (Int.natCast_nonneg _)⟩

theorem Rises.holds {op : Operator} (hop : op.Rises) {a b : Int} (h : a ≤ b) {target : Number}
    (ha : op.holds (.int a) target = true) : op.holds (.int b) target = true := by
  unfold Operator.holds at ha ⊢
  rcases compare?_mono h target with ⟨q, hca, hcb, hle⟩ | heq
  · rw [hca] at ha
    rw [hcb]
    rcases hop with rfl | rfl
    · simp only [admits, Bool.or_eq_true, beq_iff_eq, Option.some.injEq, Int.compare_eq_gt, Int.compare_eq_eq] at ha ⊢
      omega
    · simp only [admits, beq_iff_eq, Option.some.injEq, Int.compare_eq_gt] at ha ⊢
      omega
  · rwa [← heq]

theorem Falls.holds {op : Operator} (hop : op.Falls) {a b : Int} (h : a ≤ b) {target : Number}
    (hb : op.holds (.int b) target = true) : op.holds (.int a) target = true := by
  unfold Operator.holds at hb ⊢
  rcases compare?_mono h target with ⟨q, hca, hcb, hle⟩ | heq
  · rw [hcb] at hb
    rw [hca]
    rcases hop with rfl | rfl
    · simp only [admits, Bool.or_eq_true, beq_iff_eq, Option.some.injEq, Int.compare_eq_lt, Int.compare_eq_eq] at hb ⊢
      omega
    · simp only [admits, beq_iff_eq, Option.some.injEq, Int.compare_eq_lt] at hb ⊢
      omega
  · rwa [heq]

end Operator

namespace Clause

variable {c : Clause} {s s' : Store} {viewer : String}

/-- What a clause reads off the races of a viewer can only have become more. -/
theorem holds_later (h : s.resultRows <+: s'.resultRows)
    (hc : ∀ count, c.target = .race count → c.op.Rises) {counters : List (String × Int)}
    (hholds : c.holds (.of (s.tallyOf viewer) counters) = true) :
    c.holds (.of (s'.tallyOf viewer) counters) = true := by
  unfold Clause.holds Clause.current at hholds ⊢
  cases ht : c.target with
  | unknown name =>
    rw [ht] at hholds
    exact hholds
  | action key =>
    rw [ht] at hholds
    exact hholds
  | race count =>
    rw [ht, read_race] at hholds
    rw [read_race]
    exact (hc count ht).holds (Int.ofNat_le.mpr (Store.tallyOf_le h viewer count)) hholds

/-- What a clause reads off the counters of a viewer can only have been less before. -/
theorem holds_earlier (h : CountersGrow s.counterRows s'.counterRows)
    (hc : ∀ key, c.target = .action key → c.op.Falls) {tally : Tally}
    (hholds : c.holds (.of tally (s'.countersOf viewer)) = true) :
    c.holds (.of tally (s.countersOf viewer)) = true := by
  unfold Clause.holds Clause.current at hholds ⊢
  cases ht : c.target with
  | unknown name =>
    rw [ht] at hholds
    exact hholds
  | race count =>
    rw [ht, read_race] at hholds
    rw [read_race]
    exact hholds
  | action key =>
    rw [ht] at hholds
    by_cases hk : key = ""
    · subst hk
      rw [read_action_empty] at hholds ⊢
      exact hholds
    · rw [read_action _ _ _ hk] at hholds ⊢
      exact (hc key ht).holds (Store.counter_le h viewer key) hholds

end Clause

end Laurels
