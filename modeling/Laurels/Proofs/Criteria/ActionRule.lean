import Laurels.Proofs.Criteria.Lines

/-!
# Rules that ask for one action

The plainest rule about actions is a single clause: so many times, at least, the action with this key. A number
that is written in decimal digits is read as what it was (`natOf_toDigits`), so the parser finds the clause that
was meant, with its metric in lower case (`parse_actionRule`).

Where the metric is resolved it is put in lower case again, which does nothing more to it, and what is left behind
the opening is the key that the clause reads (`resolve_action`). That is the key of the rule as long as none of its
letters is a capital one (`lowered_eq_self_iff`).
-/

namespace Laurels.Criteria

open Text

/-- The rule that asks for an action a number of times. -/
def actionRule (key : String) (times : Nat) : String := "action:" ++ key ++ ">=" ++ toString times

/-- A key that can be part of a metric name. -/
structure ActionKey (key : String) : Prop where
  nonempty : key ≠ ""
  chars : ∀ c ∈ key.toList, Letter c ∨ ('0' ≤ c ∧ c ≤ '9') ∨ c ∈ ['_', '.', ':', '-']

/-- A key with its letters from A to Z in lower case. -/
def lowered (key : String) : String := String.ofList (key.toList.map Char.toLower)

/-! ## Numbers in decimal digits -/

theorem digit?_of_isDigit {c : Char} (h : c.isDigit = true) : digit? c = some (c.toNat - '0'.toNat) := by
  have hle : c.toNat ≤ '9'.toNat := toNat_le_of_le (of_decide_eq_true (Bool.and_eq_true_iff.mp h).2)
  exact of_ascii (p := fun c => c.isDigit = true → digit? c = some (c.toNat - '0'.toNat)) (by decide)
    (Nat.lt_of_le_of_lt hle (by decide)) h

theorem isDigit_of_mem_toDigits {n : Nat} {c : Char} (h : c ∈ Nat.toDigits 10 n) : c.isDigit = true :=
  Nat.isDigit_of_mem_toDigits (by decide) (by decide) h

theorem digits_toDigits (n : Nat) : Digits (Nat.toDigits 10 n) := by
  refine ⟨Nat.toDigits_ne_nil, fun c hc => ?_⟩
  unfold isDigit
  rw [digit?_of_isDigit (isDigit_of_mem_toDigits hc)]
  rfl

/-- **A number is read as it was written.** -/
theorem natOf_toDigits (n : Nat) : natOf (Nat.toDigits 10 n) = n := by
  have hmap : (Nat.toDigits 10 n).filterMap digit? = (Nat.toDigits 10 n).map fun c => c.toNat - '0'.toNat := by
    rw [← List.filterMap_eq_map]
    exact List.filterMap_congr fun c hc => digit?_of_isDigit (isDigit_of_mem_toDigits hc)
  unfold natOf valueOf
  rw [hmap, List.foldl_map]
  exact Nat.ofDigitChars_ten_toDigits

/-- A number has no more decimal digits than binary ones. -/
theorem length_toDigits_le_of_lt {n k : Nat} (hk : 0 < k) (h : n < 2 ^ k) : (Nat.toDigits 10 n).length ≤ k :=
  (Nat.length_toDigits_le_iff (by decide) hk).mpr (Nat.lt_of_lt_of_le h (Nat.pow_le_pow_left (by decide) k))

/-- A number without a sign and without a point. -/
def Decimal.ofNat (n : Nat) : Decimal := ⟨.none, Nat.toDigits 10 n, none, digits_toDigits n, nofun⟩

namespace Decimal

theorem text_ofNat (n : Nat) : (ofNat n).text = (toString n).toList := by
  show [] ++ (Nat.toDigits 10 n ++ []) = _
  rw [Nat.toString_eq_repr, Nat.toList_repr, List.nil_append, List.append_nil]

theorem value_ofNat (n : Nat) : (ofNat n).value = n := congrArg Nat.cast (natOf_toDigits n)

end Decimal

/-! ## The clause -/

theorem actionKey_iff {key : String} : ActionKey key ↔ key ≠ "" ∧ key.toList.all isMetricChar = true := by
  simp only [List.all_eq_true, isMetricChar_iff]
  exact ⟨fun h => ⟨h.nonempty, h.chars⟩, fun h => ⟨h.1, h.2⟩⟩

instance : DecidablePred ActionKey := fun _ => decidable_of_iff _ actionKey_iff.symm

theorem metricName_action {key : String} (hkey : ActionKey key) :
    MetricName ("action:".toList ++ key.toList) := by
  rw [metricName_iff]
  refine ⟨⟨'a', "ction:".toList ++ key.toList, rfl, by decide⟩, fun c hc => ?_⟩
  rcases List.mem_append.mp hc with hc | hc
  · exact List.all_eq_true.mp (by decide : "action:".toList.all isMetricChar = true) c hc
  · exact isMetricChar_iff.mpr (hkey.chars c hc)

/-- How a rule that asks for one action is read. -/
def Reading.ofAction {key : String} (hkey : ActionKey key) (times : Nat) : Reading where
  metric := "action:".toList ++ key.toList
  before := []
  spelling := .atLeast
  after := []
  number := .ofNat times
  metric_name := metricName_action hkey
  before_blank := fun _ h => nomatch h
  after_blank := fun _ h => nomatch h

theorem Reading.text_ofAction {key : String} (hkey : ActionKey key) (times : Nat) :
    (ofAction hkey times).text = (actionRule key times).toList := by
  unfold actionRule
  rw [String.toList_append, String.toList_append, String.toList_append, ← Decimal.text_ofNat, List.append_assoc]
  rfl

theorem lowered_action (key : String) :
    String.ofList (("action:".toList ++ key.toList).map Char.toLower) = "action:" ++ lowered key := by
  rw [List.map_append, String.ofList_append]
  rfl

theorem Reading.admitted_ofAction {key : String} (hkey : ActionKey key) {times : Nat} (htimes : times < 2 ^ 63) :
    (ofAction hkey times).Admitted where
  finite := by
    -- the number is far from the largest finite value
    have hvalue : (ofAction hkey times).number.value = times := Decimal.value_ofNat times
    have hlt : (times : ℚ) < 2 ^ 63 := by exact_mod_cast htimes
    have hpow : ∀ {m n : Nat}, m ≤ n → (2 : ℚ) ^ m ≤ 2 ^ n := fun h => pow_le_pow_right₀ (by decide) h
    rw [hvalue, Nat.abs_cast, lt_sub_iff_add_lt]
    calc (times : ℚ) + 2 ^ 970
      _ < 2 ^ 63 + 2 ^ 970 := add_lt_add_left hlt _
      _ ≤ 2 ^ 970 + 2 ^ 970 := add_le_add_left (hpow (by decide)) _
      _ = 2 ^ 971 := by rw [← two_mul, ← pow_succ']
      _ ≤ 2 ^ 1024 := hpow (by decide)
  short _ := Nat.le_trans (length_toDigits_le_of_lt (by decide) htimes) (by decide)

theorem Reading.means_ofAction {key : String} (hkey : ActionKey key) (times : Nat) :
    (ofAction hkey times).Means ⟨"action:" ++ lowered key, .atLeast, .int times⟩ where
  metric := (lowered_action key).symm
  op := rfl
  whole _ := ⟨times, rfl, (Int.cast_natCast times).trans (Decimal.value_ofNat times).symm⟩
  pointed h := absurd rfl h

/-- **A rule that asks for one action** is read as the clause that was meant, with the metric in lower case. -/
theorem parse_actionRule {key : String} (hkey : ActionKey key) {times : Nat} (htimes : times < 2 ^ 63) :
    parse (actionRule key times) = .ok [⟨"action:" ++ lowered key, .atLeast, .int times⟩] := by
  have hunbroken : (Reading.ofAction hkey times).Unbroken := fun _ hc => nomatch hc
  have htext : (actionRule key times).toList = ['\n'].intercalate ([Reading.ofAction hkey times].map Reading.text) := by
    rw [List.map_singleton, List.intercalate_singleton, Reading.text_ofAction]
  exact parse_readings (List.cons_ne_nil _ _) (List.forall_mem_singleton.mpr hunbroken)
    (.cons ⟨Reading.admitted_ofAction hkey htimes, Reading.means_ofAction hkey times⟩ .nil) htext

/-! ## The key that is read -/

theorem after?_append (opening cs : List Char) : after? opening (opening ++ cs) = some cs := by
  induction opening with
  | nil => rfl
  | cons o os ih =>
    show (if o = o then after? os (os ++ cs) else none) = some cs
    rw [if_pos rfl, ih]

/-- Letters from A to Z are put in lower case once and for all. -/
theorem toLower_toLower {c : Char} (h : c.toNat < 128) : c.toLower.toLower = c.toLower :=
  of_ascii (p := fun c => c.toLower.toLower = c.toLower) (by decide) h

theorem isMetricChar_toLower {c : Char} (h : isMetricChar c = true) : isMetricChar c.toLower = true :=
  of_ascii (p := fun c => isMetricChar c = true → isMetricChar c.toLower = true) (by decide)
    (toNat_lt_of_isMetricChar h) h

theorem toLower_eq_self_iff {c : Char} : c.toLower = c ↔ ¬ ('A' ≤ c ∧ c ≤ 'Z') := by
  constructor
  · rintro hlower ⟨hA, hZ⟩
    have hlt : c.toNat < 128 := Nat.lt_of_le_of_lt (toNat_le_of_le hZ) (by decide)
    exact of_ascii (p := fun c => c.toLower = c → ¬ ('A' ≤ c ∧ c ≤ 'Z')) (by decide) hlt hlower ⟨hA, hZ⟩
  · exact fun h => dif_neg h

/-- A key is in lower case already if none of its letters is a capital one. -/
theorem lowered_eq_self_iff {key : String} : lowered key = key ↔ ∀ c ∈ key.toList, ¬ ('A' ≤ c ∧ c ≤ 'Z') := by
  have hmap : lowered key = key ↔ key.toList.map Char.toLower = key.toList.map id := by
    unfold lowered
    rw [← String.toList_inj, String.toList_ofList, List.map_id]
  rw [hmap, List.map_inj_left]
  exact forall₂_congr fun _ _ => toLower_eq_self_iff

theorem lowered_lowered {key : String} (hkey : ActionKey key) : lowered (lowered key) = lowered key := by
  unfold lowered
  rw [String.toList_ofList, List.map_map]
  refine congrArg String.ofList (List.map_congr_left fun c hc => ?_)
  exact toLower_toLower (toNat_lt_of_isMetricChar (isMetricChar_iff.mpr (hkey.chars c hc)))

theorem ActionKey.lowered {key : String} (hkey : ActionKey key) : ActionKey (lowered key) where
  nonempty := by
    unfold Criteria.lowered
    rw [ne_eq, String.ofList_eq_empty_iff, List.map_eq_nil_iff, String.toList_eq_nil_iff]
    exact hkey.nonempty
  chars := by
    intro c hc
    unfold Criteria.lowered at hc
    rw [String.toList_ofList, List.mem_map] at hc
    obtain ⟨d, hd, rfl⟩ := hc
    exact isMetricChar_iff.mp (isMetricChar_toLower (isMetricChar_iff.mpr (hkey.chars d hd)))

/-- An action keeps its key under its canonical name, whichever opening it is written with. -/
theorem canonicalChars_opened {opening : List Char} (h : opening ∈ Metric.actionOpening :: Metric.actionSpellings)
    (key : List Char) : Metric.canonicalChars (opening ++ key) = Metric.actionOpening ++ key := by
  unfold Metric.canonicalChars
  rcases List.mem_cons.mp h with rfl | hspelling
  · rw [after?_append]
  · -- the other openings differ from the canonical one, and from each other, in their last character
    have hother : after? Metric.actionOpening (opening ++ key) = none
        ∧ (Metric.actionSpellings.findSome? fun opening' => after? opening' (opening ++ key)) = some key := by
      unfold Metric.actionSpellings at hspelling
      simp only [List.mem_cons, List.not_mem_nil, or_false] at hspelling
      rcases hspelling with rfl | rfl <;> exact ⟨rfl, rfl⟩
    rw [hother.1]
    dsimp only
    rw [hother.2]

/-- **A metric that names an action** is the counter of its key in lower case, whichever opening it is written with. -/
theorem resolve_opened {opening : String} (hopening : opening ∈ ["action:", "action.", "action_"]) {key : String}
    (hkey : ∀ c ∈ key.toList, isMetricChar c = true) : Metric.resolve (opening ++ key) = .action (lowered key) := by
  obtain ⟨hchars, hlow, hmem⟩ : opening.toList.all isMetricChar = true
      ∧ opening.toList.map Char.toLower = opening.toList
      ∧ opening.toList ∈ Metric.actionOpening :: Metric.actionSpellings := by
    simp only [List.mem_cons, List.not_mem_nil, or_false] at hopening
    rcases hopening with rfl | rfl | rfl <;> decide
  have hname : ∀ c ∈ opening.toList ++ key.toList, isMetricChar c = true :=
    List.forall_mem_append.mpr ⟨List.all_eq_true.mp hchars, hkey⟩
  have htrim : trim (opening.toList ++ key.toList) = opening.toList ++ key.toList :=
    trim_eq_self fun c hc => isBlank_of_isMetricChar (hname c hc)
  have hlower : lower (opening.toList ++ key.toList) = opening.toList ++ key.toList.map Char.toLower := by
    unfold lower
    rw [lowerAfter_eq_map (fun c hc => toNat_lt_of_isMetricChar (hname c hc)), List.map_append, hlow]
  have hnormal : (Metric.normalize (opening ++ key)).toList = Metric.actionOpening ++ key.toList.map Char.toLower := by
    unfold Metric.normalize
    rw [String.toList_append, htrim, hlower, canonicalChars_opened hmem, String.toList_ofList]
  unfold Metric.resolve
  rw [hnormal, after?_append]
  rfl

theorem resolve_action {key : String} (hkey : ActionKey key) :
    Metric.resolve ("action:" ++ key) = .action (lowered key) :=
  resolve_opened List.mem_cons_self fun c hc => isMetricChar_iff.mpr (hkey.chars c hc)

/-- The clause of a rule that asks for one action reads the counter of the key in lower case. -/
theorem target_actionRule {key : String} (hkey : ActionKey key) (times : Nat) :
    (Clause.mk ("action:" ++ lowered key) .atLeast (.int times)).target = .action (lowered key) := by
  unfold Clause.target
  rw [resolve_action hkey.lowered, lowered_lowered hkey]

end Laurels.Criteria
