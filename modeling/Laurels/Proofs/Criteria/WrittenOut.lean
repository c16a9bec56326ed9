import Laurels.Number.Shortest
import Laurels.Proofs.Criteria.Canonical

/-!
# Clauses written out

Clauses can be written out again, one on each line. A clause whose threshold is an integer then has a reading
(`Writable.exists_reading`): it was accepted with a number of this size, and the digits that the integer is written
with now are no more than that size allows (`Decimal.length_ofInt_le`), however many zeros stood in front of them
before. Hence the clauses come back as they were written (`parse_textOf`).
-/

namespace Laurels

open Text

/-- A clause as a line: metric, comparison and threshold, with so many spaces between them. -/
def Clause.line (gap : Nat) (c : Clause) : String :=
  let spaces := String.ofList (List.replicate gap ' ')
  c.metric ++ (spaces ++ (c.op.symbol ++ (spaces ++ c.threshold.text)))

namespace Criteria

/-- Clauses as a text, one on each line. -/
def textOf (gap : Nat) (clauses : List Clause) : String := "\n".intercalate (clauses.map (Clause.line gap))

/-! ## Integers in decimal digits -/

/-- An integer as it is written. -/
def Decimal.ofInt : Int → Decimal
  | .ofNat n => .ofNat n
  | .negSucc n => { Decimal.ofNat (n + 1) with sign := .minus }

namespace Decimal

theorem text_ofInt (n : Int) : (ofInt n).text = (toString n).toList := by
  cases n with
  | ofNat n => exact text_ofNat n
  | negSucc n =>
    show ['-'] ++ (ofNat (n + 1)).text = ("-" ++ toString (n + 1)).toList
    rw [text_ofNat, String.toList_append]
    rfl

theorem value_ofInt (n : Int) : (ofInt n).value = n := by
  cases n with
  | ofNat n => exact value_ofNat n
  | negSucc n =>
    show -(ofNat (n + 1)).value = _
    rw [value_ofNat, Int.cast_negSucc]

theorem places_ofInt (n : Int) : (ofInt n).places = none := by
  cases n <;> rfl

theorem whole_ofInt (n : Int) : (ofInt n).whole = Nat.toDigits 10 n.natAbs := by
  cases n <;> rfl

/-- An integer within the finite values has far fewer digits than are read. -/
theorem length_ofInt_le {n : Int} (h : |(n : ℚ)| < 2 ^ 1024 - 2 ^ 970) : (ofInt n).whole.length ≤ 4300 := by
  have hcast : ∀ {m k : Nat}, (m : ℚ) < 2 ^ k → m < 2 ^ k := fun h => by exact_mod_cast h
  have hlt : |(n : ℚ)| < 2 ^ 1024 := lt_of_lt_of_le h (sub_le_self _ (pow_nonneg (by decide) _))
  rw [← Int.cast_abs, ← Nat.cast_natAbs] at hlt
  have hlength : (Nat.toDigits 10 n.natAbs).length ≤ 1024 := length_toDigits_le_of_lt (by decide) (hcast hlt)
  rw [whole_ofInt]
  exact Nat.le_trans hlength (by decide)

end Decimal

/-! ## Clauses -/

theorem Spelling.exists_symbol (s : Spelling) :
    ∃ s' : Spelling, s'.meaning = s.meaning ∧ s'.text = s.meaning.symbol.toList := by
  cases s with
  | equals => exact ⟨.doubleEquals, rfl, rfl⟩
  | doubleEquals => exact ⟨.doubleEquals, rfl, rfl⟩
  | atLeast => exact ⟨.atLeast, rfl, rfl⟩
  | atMost => exact ⟨.atMost, rfl, rfl⟩
  | notEqual => exact ⟨.notEqual, rfl, rfl⟩
  | above => exact ⟨.above, rfl, rfl⟩
  | below => exact ⟨.below, rfl, rfl⟩

/-- A clause that can be written out and read again. -/
structure Writable (c : Clause) : Prop where
  name : LowerName c.metric.toList
  op : ∃ s : Spelling, s.meaning = c.op
  threshold : ∃ n : Int, c.threshold = .int n ∧ |(n : ℚ)| < 2 ^ 1024 - 2 ^ 970

/-- Of the clauses that are read, those are writable whose threshold is an integer. -/
theorem Accepted.writable {line : List Char} {c : Clause} (h : Accepted line c)
    (hint : ∃ n : Int, c.threshold = .int n) : Writable c := by
  obtain ⟨n, hn⟩ := hint
  obtain ⟨r, _, hadmitted, hmeans⟩ := id h
  refine ⟨h.lowerName, ⟨r.spelling, hmeans.op.symm⟩, n, hn, ?_⟩
  have hplaces : r.number.places = none := by
    by_contra hplaces
    exact nomatch hn.symm.trans (hmeans.pointed hplaces)
  obtain ⟨m, hm, hvalue⟩ := hmeans.whole hplaces
  cases hn.symm.trans hm
  rw [hvalue]
  exact hadmitted.finite

theorem Writable.canonical {c : Clause} (h : Writable c) : Writable c.canonical := by
  constructor
  · rw [Clause.metric_canonical]
    exact Metric.lowerName_normalize h.name
  · rw [Clause.op_canonical]
    exact h.op
  · rw [Clause.threshold_canonical]
    exact h.threshold

/-- A line that a clause is written on has a reading, and it means that clause. -/
theorem Writable.exists_reading {c : Clause} (h : Writable c) (gap : Nat) :
    ∃ r : Reading, r.text = (c.line gap).toList ∧ r.Unbroken ∧ r.Admitted ∧ r.Means c := by
  obtain ⟨s, hs⟩ := h.op
  obtain ⟨s', hmeaning, hsymbol⟩ := s.exists_symbol
  obtain ⟨n, hn, hsize⟩ := h.threshold
  have hspace : ∀ c ∈ List.replicate gap ' ', c = ' ' := fun _ hc => List.eq_of_mem_replicate hc
  refine ⟨{
    metric := c.metric.toList
    before := List.replicate gap ' '
    spelling := s'
    after := List.replicate gap ' '
    number := .ofInt n
    metric_name := h.name.metricName
    before_blank := fun c hc => hspace c hc ▸ by decide
    after_blank := fun c hc => hspace c hc ▸ by decide }, ?_, ?_, ⟨?_, ?_⟩, ⟨?_, ?_, ?_, ?_⟩⟩
  · have hthreshold : c.threshold.text = toString n := by rw [hn, Number.text]
    unfold Reading.text Clause.line
    simp only [String.toList_append, String.toList_ofList, hthreshold, ← Decimal.text_ofInt]
    rw [hsymbol, hs]
  · intro c hc
    have hc := (List.mem_append.mp hc).elim (hspace c) (hspace c)
    rw [hc]
    decide
  · rwa [Decimal.value_ofInt]
  · exact fun _ => Decimal.length_ofInt_le hsize
  · rw [h.name.map_toLower, String.ofList_toList]
  · exact hs.symm.trans hmeaning.symm
  · exact fun _ => ⟨n, hn, (Decimal.value_ofInt n).symm⟩
  · exact fun hplaces => absurd (Decimal.places_ofInt n) hplaces

/-- **Clauses that are written out come back** as they were. -/
theorem parse_textOf {cs : List Clause} (hne : cs ≠ []) (h : ∀ c ∈ cs, Writable c) (gap : Nat) :
    parse (textOf gap cs) = .ok cs := by
  obtain ⟨c, hc⟩ := List.exists_mem_of_ne_nil cs hne
  obtain ⟨r, _⟩ := (h c hc).exists_reading gap
  have : Nonempty Reading := ⟨r⟩
  choose! reading hreading using fun c hc => (h c hc).exists_reading gap
  have hreadings : cs.map reading ≠ [] := mt List.map_eq_nil_iff.mp hne
  refine parse_readings hreadings ?_ ?_ ?_
  · exact List.forall_mem_map.mpr fun c hc => (hreading c hc).2.1
  · rw [List.forall₂_map_left_iff, List.forall₂_same]
    exact fun c hc => (hreading c hc).2.2
  · have hlines : (cs.map (Clause.line gap)).map String.toList = (cs.map reading).map Reading.text := by
      rw [List.map_map, List.map_map]
      exact List.map_congr_left fun c hc => (hreading c hc).1.symm
    unfold textOf
    rw [String.toList_intercalate, hlines]
    rfl

end Criteria

end Laurels
