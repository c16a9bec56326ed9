import Laurels.Proofs.Criteria.Grammar
import Laurels.Proofs.Number.Nearest

/-!
# The parser finds every reading

The parser reads each part of a line as far as it goes, and never goes back. It finds every reading that there is
(`written?_text`, `parts?_text`), since a part ends where the next cannot begin, and what it finds is a reading
(`exists_decimal`, `exists_reading`).

The number of a reading is a rational number. The parser keeps an integer as it is (`Decimal.signed_valueOf`) and
any other number as the finite value that is closest to it (`Decimal.nearest_closest`), if there is one
(`Decimal.isFinite_nearest`).
-/

namespace Laurels.Criteria

open Text

/-! ## Numbers -/

theorem length_digits {ds : List Char} (h : ∀ c ∈ ds, isDigit c = true) :
    (ds.filterMap digit?).length = ds.length := by
  induction ds with
  | nil => rfl
  | cons d ds ih =>
    obtain ⟨n, hn⟩ := Option.isSome_iff_exists.mp (h d List.mem_cons_self)
    rw [List.filterMap_cons_some hn, List.length_cons, List.length_cons,
      ih fun c hc => h c (List.mem_cons_of_mem d hc)]

theorem Digits.ne_nil {ds : List Char} (h : Digits ds) : ds.filterMap digit? ≠ [] := by
  intro hnil
  have hlen := length_digits h.2
  rw [hnil] at hlen
  exact h.1 (List.length_eq_zero_iff.mp hlen.symm)

theorem digitRun_append {ds rest : List Char} (hds : ∀ c ∈ ds, isDigit c = true) (hrest : Stops isDigit rest) :
    Numeral.digitRun (ds ++ rest) = (ds.filterMap digit?, rest) := by
  unfold Numeral.digitRun
  rw [takeWhile_append_stops hds hrest, dropWhile_append_stops hds hrest]

/-- A run that has a value is a run of digits. -/
theorem digits_of_digitRun {cs rest : List Char} {ns : List Nat} (h : Numeral.digitRun cs = (ns, rest))
    (hne : ns ≠ []) : ∃ ds, Digits ds ∧ ds ++ rest = cs := by
  obtain ⟨rfl, rfl⟩ := Prod.mk.inj h
  refine ⟨cs.takeWhile isDigit, ⟨?_, List.all_eq_true.mp List.all_takeWhile⟩, List.takeWhile_append_dropWhile⟩
  intro hnil
  exact hne (by rw [hnil]; rfl)

theorem sign_text (s : Sign) {rest : List Char} (h : Stops isSign rest) :
    Numeral.sign (s.text ++ rest) = (s == .minus, rest) := by
  cases s with
  | plus => rfl
  | minus => rfl
  | none =>
    cases rest with
    | nil => rfl
    | cons c cs =>
      have hc := h c rfl
      show Numeral.sign (c :: cs) = _
      unfold Numeral.sign
      split
      · rename_i heq
        cases heq
        cases hc
      · rename_i heq
        cases heq
        cases hc
      · rfl

theorem exists_sign (cs : List Char) : ∃ s : Sign, s.text ++ (Numeral.sign cs).2 = cs := by
  unfold Numeral.sign
  split
  · exact ⟨.minus, rfl⟩
  · exact ⟨.plus, rfl⟩
  · exact ⟨.none, rfl⟩

/-- A number as the parser keeps it. -/
def Decimal.written (x : Decimal) : Written :=
  ⟨x.sign == .minus, x.whole.filterMap digit?, x.places.map (·.filterMap digit?)⟩

/-- Every number of the grammar is read. -/
theorem written?_text (x : Decimal) : written? x.text = some x.written := by
  obtain ⟨sign, whole, places, hwhole, hplaces⟩ := x
  have hrun := digitRun_append hwhole.2 (Decimal.fraction_stops places)
  obtain ⟨n, ns, hns⟩ := List.exists_cons_of_ne_nil hwhole.ne_nil
  simp only [written?, Decimal.text, Decimal.written, sign_text sign (hwhole.stops (fun _ => isSign_of_isDigit) _), hrun, hns]
  cases places with
  | none => rfl
  | some ps =>
    have hps := hplaces ps rfl
    have hrest := digitRun_append hps.2 .nil
    obtain ⟨m, ms, hms⟩ := List.exists_cons_of_ne_nil hps.ne_nil
    rw [List.append_nil] at hrest
    simp only [Decimal.fraction, hrest, hms, Option.map_some]

/-- What is read is a number of the grammar. -/
theorem exists_decimal {cs : List Char} {w : Written} (h : written? cs = some w) : ∃ x : Decimal, x.text = cs := by
  obtain ⟨sign, hsign⟩ := exists_sign cs
  unfold written? at h
  dsimp only at h
  split at h
  · cases h
  · -- no point
    rename_i hempty hrun
    obtain ⟨whole, hwhole, htext⟩ := digits_of_digitRun hrun hempty
    exact ⟨⟨sign, whole, none, hwhole, fun _ h => nomatch h⟩, by rw [← hsign, ← htext]; rfl⟩
  · -- a point, with digits on both sides
    rename_i rest hempty hrun
    obtain ⟨whole, hwhole, htext⟩ := digits_of_digitRun hrun hempty
    split at h
    · cases h
    · rename_i hempty' hrun'
      obtain ⟨ps, hps, htext'⟩ := digits_of_digitRun hrun' hempty'
      refine ⟨⟨sign, whole, some ps, hwhole, fun _ h => Option.some.inj h ▸ hps⟩, ?_⟩
      rw [← hsign, ← htext, ← htext', List.append_nil]
      rfl
    · cases h
  · cases h

/-! ## Lines -/

/-- Every comparison is read, for nothing that may follow it makes it a longer one. -/
theorem operator?_text (s : Spelling) {rest : List Char} (h : Stops isMark rest) :
    operator? (s.text ++ rest) = some (s.meaning, rest) := by
  have hne : ∀ cs, rest ≠ '=' :: cs := by
    rintro cs rfl
    exact Bool.false_ne_true ((h '=' rfl).symm.trans (by decide))
  cases s with
  | atLeast => rfl
  | atMost => rfl
  | doubleEquals => rfl
  | notEqual => rfl
  | above => simp [Spelling.text, Spelling.meaning, operator?]
  | below => simp [Spelling.text, Spelling.meaning, operator?]
  | equals => simp [Spelling.text, Spelling.meaning, operator?]

theorem exists_spelling {cs rest : List Char} {op : Operator} (h : operator? cs = some (op, rest)) :
    ∃ s : Spelling, s.text ++ rest = cs := by
  unfold operator? at h
  split at h <;> cases h
  · exact ⟨.atLeast, rfl⟩
  · exact ⟨.atMost, rfl⟩
  · exact ⟨.doubleEquals, rfl⟩
  · exact ⟨.notEqual, rfl⟩
  · exact ⟨.above, rfl⟩
  · exact ⟨.below, rfl⟩
  · exact ⟨.equals, rfl⟩

theorem metricName_iff {name : List Char} :
    MetricName name ↔ (∃ c cs, name = c :: cs ∧ isMetricStart c = true) ∧ ∀ c ∈ name, isMetricChar c = true := by
  constructor
  · intro h
    refine ⟨?_, h.isMetricChar⟩
    obtain ⟨hfirst, _⟩ := h
    exact ⟨_, _, rfl, isMetricStart_iff.mpr hfirst⟩
  · rintro ⟨⟨c, cs, rfl, hc⟩, hall⟩
    exact ⟨isMetricStart_iff.mp hc, fun d hd => isMetricChar_iff.mp (hall d (List.mem_cons_of_mem c hd))⟩

/-- Every reading is found. -/
theorem parts?_text (r : Reading) : parts? r.text = some (r.metric, r.spelling.meaning, r.number.text) := by
  have hname := r.metric_name.isMetricChar
  have hstops := r.stops_isMetricChar (r.after ++ r.number.text)
  have hbefore : dropBlanks (r.before ++ (r.spelling.text ++ (r.after ++ r.number.text)))
      = r.spelling.text ++ (r.after ++ r.number.text) :=
    dropWhile_append_stops r.before_blank (r.spelling.stops _).2
  have hafter : dropBlanks (r.after ++ r.number.text) = r.number.text :=
    dropWhile_append_stops r.after_blank r.number.stops_isBlank
  obtain ⟨⟨c, cs, hmetric, hc⟩, _⟩ := metricName_iff.mp r.metric_name
  unfold parts? Reading.text
  rw [takeWhile_append_stops hname hstops, dropWhile_append_stops hname hstops, hbefore,
    operator?_text r.spelling r.stops_isMark, hmetric]
  dsimp only
  rw [if_pos hc]
  exact congrArg (fun raw => some (c :: cs, r.spelling.meaning, raw)) hafter

/-- What is found is a reading. -/
theorem exists_reading {line name raw : List Char} {op : Operator} (h : parts? line = some (name, op, raw))
    (x : Decimal) (hx : x.text = raw) : ∃ r : Reading, r.text = line := by
  unfold parts? at h
  dsimp only at h
  split at h
  · cases h
  · rename_i c cs hname
    split at h
    · rename_i hc
      obtain ⟨⟨op', rest⟩, hop, hraw⟩ := Option.bind_eq_some_iff.mp h
      cases hraw
      obtain ⟨s, hs⟩ := exists_spelling hop
      have hmetric : MetricName (line.takeWhile isMetricChar) :=
        metricName_iff.mpr ⟨⟨c, cs, hname, hc⟩, List.all_eq_true.mp List.all_takeWhile⟩
      refine ⟨⟨_, (line.dropWhile isMetricChar).takeWhile isBlank, s, rest.takeWhile isBlank, x, hmetric,
        List.all_eq_true.mp List.all_takeWhile, List.all_eq_true.mp List.all_takeWhile⟩, ?_⟩
      unfold Reading.text
      dsimp only
      rw [hx]
      unfold dropBlanks at hs ⊢
      rw [List.takeWhile_append_dropWhile, hs, List.takeWhile_append_dropWhile, List.takeWhile_append_dropWhile]
    · cases h

/-! ## Letter case -/

theorem lowerAfter_eq_map {cs : List Char} (h : ∀ c ∈ cs, c.toNat < 128) (before : List Char) :
    lowerAfter before cs = cs.map Char.toLower := by
  induction cs generalizing before with
  | nil => rfl
  | cons c cs ih =>
    have hlt := h c List.mem_cons_self
    have hc := of_ascii (p := fun c => lowerChar c = [c.toLower]) (by decide) hlt
    unfold lowerAfter
    dsimp only
    rw [if_neg (by omega), hc, ih fun d hd => h d (List.mem_cons_of_mem c hd)]
    rfl

theorem MetricName.lower_eq {name : List Char} (h : MetricName name) : lower name = name.map Char.toLower :=
  lowerAfter_eq_map (fun c hc => toNat_lt_of_isMetricChar (h.isMetricChar c hc)) []

/-! ## Thresholds -/

theorem valueOf_append (as bs : List Nat) : valueOf (as ++ bs) = valueOf as * 10 ^ bs.length + valueOf bs := by
  have hfold : ∀ n, bs.foldl (fun n d => 10 * n + d) n = n * 10 ^ bs.length + valueOf bs := by
    unfold valueOf
    induction bs with
    | nil => exact fun n => by simp
    | cons b bs ih =>
      intro n
      rw [List.foldl_cons, List.foldl_cons, ih, ih (10 * 0 + b), List.length_cons]
      ring
  unfold valueOf
  rw [List.foldl_append]
  exact hfold _

namespace Decimal

theorem magnitude_nonneg (x : Decimal) : 0 ≤ x.magnitude := by
  unfold magnitude
  split
  · exact Nat.cast_nonneg _
  · exact add_nonneg (Nat.cast_nonneg _) (div_nonneg (Nat.cast_nonneg _) (pow_nonneg (by decide) _))

theorem abs_value (x : Decimal) : |x.value| = x.magnitude := by
  unfold value
  split
  · rw [abs_neg, abs_of_nonneg x.magnitude_nonneg]
  · exact abs_of_nonneg x.magnitude_nonneg

/-- The digits on both sides of the point make up one number, scaled by the number of places. -/
theorem magnitude_eq (x : Decimal) : x.magnitude
    = (valueOf (x.written.whole ++ x.written.places.getD []) : ℚ) / 10 ^ (x.written.places.getD []).length := by
  unfold magnitude written natOf
  cases hplaces : x.places with
  | none => simp
  | some ps =>
    have hten : (10 : ℚ) ^ ps.length ≠ 0 := pow_ne_zero _ (by decide)
    dsimp only [Option.map_some, Option.getD_some]
    rw [valueOf_append, length_digits (x.places_digits ps hplaces).2, Nat.cast_add, Nat.cast_mul, Nat.cast_pow,
      Nat.cast_ofNat, add_div, mul_div_cancel_right₀ _ hten]

theorem isFinite_nearest (x : Decimal) : x.written.nearest.isFinite = true ↔ |x.value| < 2 ^ 1024 - 2 ^ 970 := by
  rw [abs_value, magnitude_eq]
  exact Binary64.isFinite_ofDecimal

/-- No finite value is closer to a number than the one that stands for it. -/
theorem nearest_closest (x : Decimal) {sign : Bool} {units : Nat} {h : Representable units}
    (heq : x.written.nearest = .finite sign units h) {other : Nat} (hother : Representable other) :
    |(units : ℚ) / 2 ^ 1074 - x.magnitude| ≤ |(other : ℚ) / 2 ^ 1074 - x.magnitude| := by
  rw [magnitude_eq]
  exact Binary64.ofDecimal_closest heq hother

/-- An integer is kept as it is. -/
theorem signed_valueOf {x : Decimal} (h : x.places = none) :
    ((Binary64.signed x.written.negative (valueOf x.written.whole) : Int) : ℚ) = x.value := by
  obtain ⟨sign, whole, places, _, _⟩ := x
  cases h
  cases sign with
  | none => exact Int.cast_natCast _
  | plus => exact Int.cast_natCast _
  | minus => exact (Int.cast_neg _).trans (congrArg Neg.neg (Int.cast_natCast _))

theorem threshold_of_large {x : Decimal} (h : 2 ^ 1024 - 2 ^ 970 ≤ |x.value|) (raw : String) :
    x.written.threshold raw = .error (.notFinite raw) := by
  have hfinite : x.written.nearest.isFinite = false := by
    rw [← Bool.not_eq_true, isFinite_nearest]
    exact not_lt_of_ge h
  unfold Written.threshold
  rw [hfinite]
  rfl

theorem threshold_of_none {x : Decimal} (hfinite : |x.value| < 2 ^ 1024 - 2 ^ 970) (h : x.places = none)
    (raw : String) : x.written.threshold raw
      = if 4300 < x.whole.length then .error (.tooManyDigits x.whole.length)
        else .ok (.int (Binary64.signed x.written.negative (valueOf x.written.whole))) := by
  have hplaces : x.written.places = none := congrArg (Option.map _) h
  have hlength : x.written.whole.length = x.whole.length := length_digits x.whole_digits.2
  unfold Written.threshold
  rw [(isFinite_nearest x).mpr hfinite, hplaces, hlength]
  rfl

theorem threshold_of_some {x : Decimal} (hfinite : |x.value| < 2 ^ 1024 - 2 ^ 970) (h : x.places ≠ none)
    (raw : String) : x.written.threshold raw = .ok (.float x.written.nearest) := by
  obtain ⟨ps, hps⟩ := Option.ne_none_iff_exists'.mp h
  have hplaces : x.written.places = some (ps.filterMap digit?) := congrArg (Option.map _) hps
  unfold Written.threshold
  rw [(isFinite_nearest x).mpr hfinite, hplaces]
  rfl

end Decimal

end Laurels.Criteria
