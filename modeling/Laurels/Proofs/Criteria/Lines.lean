import Laurels.Proofs.Criteria.Acceptance

/-!
# Readings on lines of their own

A text that is put together from lines is cut where it was put together, for no part of a clause holds a break, and
nothing is trimmed off the lines, for a clause begins with a metric name and ends with a digit
(`clauseLines_readings`). So the readings of the lines can be chosen beforehand, and the text is read as they mean
(`parse_readings`).
-/

namespace Laurels.Criteria

open Text

/-! ## Lines that are cut and trimmed -/

/-- A text that has no blanks at its ends. -/
structure Trimmed (cs : List Char) : Prop where
  nonempty : cs ≠ []
  front : Stops isBlank cs
  back : Stops isBlank cs.reverse

theorem dropWhile_of_stops {p : Char → Bool} {cs : List Char} (h : Stops p cs) : cs.dropWhile p = cs := by
  cases cs with
  | nil => rfl
  | cons c cs => exact List.dropWhile_cons_of_neg (Bool.eq_false_iff.mp (h c rfl))

theorem Stops.append_right {p : Char → Bool} {as : List Char} (h : Stops p as) (hne : as ≠ []) (bs : List Char) :
    Stops p (as ++ bs) := by
  cases as with
  | nil => exact absurd rfl hne
  | cons a as => exact .cons (h a rfl)

namespace Trimmed

variable {as bs cs : List Char}

theorem trim_eq (h : Trimmed cs) : trim cs = cs := by
  unfold trim trimBy
  rw [dropWhile_of_stops h.front, dropWhile_of_stops h.back, List.reverse_reverse]

theorem of_forall (hne : cs ≠ []) (h : ∀ c ∈ cs, isBlank c = false) : Trimmed cs where
  nonempty := hne
  front c hc := h c (List.mem_of_mem_head? hc)
  back c hc := h c (List.mem_reverse.mp (List.mem_of_mem_head? hc))

/-- Whatever stands between two trimmed texts. -/
theorem append (has : Trimmed as) (mid : List Char) (hbs : Trimmed bs) : Trimmed (as ++ (mid ++ bs)) where
  nonempty := List.append_ne_nil_of_left_ne_nil has.nonempty _
  front := has.front.append_right has.nonempty _
  back := by
    rw [List.reverse_append, List.reverse_append, List.append_assoc]
    exact hbs.back.append_right (mt List.reverse_eq_nil_iff.mp hbs.nonempty) _

end Trimmed

/-- The characters that are dropped from a text or cut it. -/
def isBreak (c : Char) : Bool := c ∈ ['\r', '\n', ';']

theorem isBreak_of {p : Char → Bool} (hp : ['\r', '\n', ';'].any p = false) {c : Char} (hc : p c = true) :
    isBreak c = false := not_mem_of_any hp hc

theorem isSeparator_of_isBreak {c : Char} (h : isBreak c = false) : isSeparator c = false := by
  unfold isBreak at h
  unfold isSeparator
  grind

/-- Lines that are put together with line feeds are found again. -/
theorem pieces_intercalate {lines : List (List Char)} (hne : lines ≠ [])
    (h : ∀ line ∈ lines, ∀ c ∈ line, isBreak c = false) : pieces isSeparator (['\n'].intercalate lines) = lines := by
  rw [pieces_eq_splitOnP]
  induction lines with
  | nil => exact absurd rfl hne
  | cons line rest ih =>
    rw [List.forall_mem_cons] at h
    have hline : ∀ c ∈ line, isSeparator c = false := fun c hc => isSeparator_of_isBreak (h.1 c hc)
    cases rest with
    | nil =>
      rw [List.intercalate_singleton]
      exact List.splitOnP_eq_singleton hline
    | cons next rest =>
      rw [List.intercalate_cons_cons, List.append_assoc]
      exact (List.splitOnP_append_cons_of_forall_mem hline _ rfl _).trans
        (congrArg _ (ih (List.cons_ne_nil _ _) h.2))

/-- What holds of each line, and of two texts with a line feed between them if it holds of both, holds of the lines
put together. -/
theorem intercalate_induction {p : List Char → Prop} {lines : List (List Char)} (hne : lines ≠ [])
    (hline : ∀ line ∈ lines, p line) (happend : ∀ as bs, p as → p bs → p (as ++ (['\n'] ++ bs))) :
    p (['\n'].intercalate lines) := by
  induction lines with
  | nil => exact absurd rfl hne
  | cons line rest ih =>
    rw [List.forall_mem_cons] at hline
    cases rest with
    | nil =>
      rw [List.intercalate_singleton]
      exact hline.1
    | cons next rest =>
      rw [List.intercalate_cons_cons, List.append_assoc]
      exact happend _ _ hline.1 (ih (List.cons_ne_nil _ _) hline.2)

theorem trimmed_intercalate {lines : List (List Char)} (hne : lines ≠ []) (h : ∀ line ∈ lines, Trimmed line) :
    Trimmed (['\n'].intercalate lines) := intercalate_induction hne h fun _ _ has hbs => has.append _ hbs

theorem returns_intercalate {lines : List (List Char)} (hne : lines ≠ [])
    (h : ∀ line ∈ lines, ∀ c ∈ line, isBreak c = false) : ∀ c ∈ ['\n'].intercalate lines, c ≠ '\r' := by
  refine intercalate_induction (p := fun cs => ∀ c ∈ cs, c ≠ '\r') hne ?_ fun as bs has hbs => ?_
  · rintro line hline c hc rfl
    exact absurd (h line hline '\r' hc) (by decide)
  · rw [List.forall_mem_append, List.forall_mem_append]
    exact ⟨has, List.forall_mem_singleton.mpr (by decide), hbs⟩

/-! ## Readings on lines of their own -/

theorem Decimal.exists_digits (x : Decimal) : ∃ front ds, front ++ ds = x.text ∧ Digits ds := by
  unfold text
  cases hplaces : x.places with
  | none => exact ⟨x.sign.text, x.whole, by rw [fraction, List.append_nil], x.whole_digits⟩
  | some ps =>
    refine ⟨x.sign.text ++ (x.whole ++ ['.']), ps, ?_, x.places_digits ps hplaces⟩
    rw [List.append_assoc, List.append_assoc]
    rfl

theorem Decimal.unbroken (x : Decimal) : ∀ c ∈ x.text, isBreak c = false := by
  have hdigits {ds : List Char} (h : Digits ds) : ∀ c ∈ ds, isBreak c = false :=
    fun c hc => isBreak_of (p := isDigit) (by decide) (h.2 c hc)
  intro c hc
  rcases List.mem_append.mp hc with hsign | hc
  · exact isBreak_of (p := isSign) (by decide) (x.sign.isSign c hsign)
  rcases List.mem_append.mp hc with hwhole | hfraction
  · exact hdigits x.whole_digits c hwhole
  · cases hplaces : x.places with
    | none =>
      rw [hplaces] at hfraction
      cases hfraction
    | some ps =>
      rw [hplaces] at hfraction
      rcases List.mem_cons.mp hfraction with rfl | hps
      · decide
      · exact hdigits (x.places_digits ps hplaces) c hps

namespace Reading

/-- The blanks of a reading keep it on one line. -/
def Unbroken (r : Reading) : Prop := ∀ c ∈ r.before ++ r.after, isBreak c = false

variable {r : Reading}

/-- A clause begins with a metric name and ends with a digit. -/
theorem trimmed (r : Reading) : Trimmed r.text := by
  obtain ⟨front, ds, htext, hne, hds⟩ := r.number.exists_digits
  have hmetric : Trimmed r.metric := by
    obtain ⟨⟨c, cs, heq, _⟩, hall⟩ := metricName_iff.mp r.metric_name
    exact .of_forall (heq ▸ List.cons_ne_nil c cs) fun d hd => isBlank_of_isMetricChar (hall d hd)
  have hdigits : Trimmed ds := .of_forall hne fun d hd => isBlank_of_isDigit (hds d hd)
  have h := hmetric.append (r.before ++ (r.spelling.text ++ (r.after ++ front))) hdigits
  unfold text
  rw [← htext]
  simpa only [List.append_assoc] using h

theorem Unbroken.text (h : r.Unbroken) : ∀ c ∈ r.text, isBreak c = false := by
  intro c hc
  simp only [Reading.text, List.mem_append] at hc
  rcases hc with hmetric | hbefore | hspelling | hafter | hnumber
  · exact isBreak_of (p := isMetricChar) (by decide) (r.metric_name.isMetricChar c hmetric)
  · exact h c (List.mem_append_left _ hbefore)
  · exact isBreak_of (p := isMark) (by decide) (r.spelling.isMark c hspelling)
  · exact h c (List.mem_append_right _ hafter)
  · exact r.number.unbroken c hnumber

theorem not_skipped (r : Reading) : ¬ Skipped r.text := by
  obtain ⟨⟨c, cs, hmetric, hc⟩, _⟩ := metricName_iff.mp r.metric_name
  have hhash : c ≠ '#' := by
    rintro rfl
    exact absurd hc (by decide)
  have hslash : c ≠ '/' := by
    rintro rfl
    exact absurd hc (by decide)
  unfold text
  rw [hmetric]
  rintro (h | ⟨_, h⟩ | ⟨_, h⟩)
  · cases h
  · exact hhash (List.cons.inj h).1.symm
  · exact hslash (List.cons.inj h).1.symm

end Reading

/-- Readings that are put together with line feeds are the lines of the text. -/
theorem clauseLines_readings {rs : List Reading} (hne : rs ≠ []) (h : ∀ r ∈ rs, r.Unbroken) {text : String}
    (htext : text.toList = ['\n'].intercalate (rs.map Reading.text)) : clauseLines text = rs.map Reading.text := by
  have hlines : rs.map Reading.text ≠ [] := mt List.map_eq_nil_iff.mp hne
  have htrim := (trimmed_intercalate hlines (List.forall_mem_map.mpr fun r _ => r.trimmed)).trim_eq
  have hcut := pieces_intercalate hlines (List.forall_mem_map.mpr fun r hr => (h r hr).text)
  have hreturns : (['\n'].intercalate (rs.map Reading.text)).filter (· ≠ '\r')
      = ['\n'].intercalate (rs.map Reading.text) := by
    rw [List.filter_eq_self]
    exact fun c hc => decide_eq_true
      (returns_intercalate hlines (List.forall_mem_map.mpr fun r hr => (h r hr).text) c hc)
  have htrims : (rs.map Reading.text).map trim = rs.map Reading.text := by
    rw [List.map_map]
    exact List.map_congr_left fun r _ => r.trimmed.trim_eq
  have hclauses : (rs.map Reading.text).filter (fun line => !isComment line) = rs.map Reading.text := by
    rw [List.filter_eq_self, List.forall_mem_map]
    intro r _
    rw [Bool.not_eq_true', ← Bool.not_eq_true, isComment_iff]
    exact r.not_skipped
  rw [← segments_eq_clauseLines, htext, segments, htrim, hreturns, hcut, htrims, hclauses]

/-- **A text that is put together from readings is read as they mean.** -/
theorem parse_readings {rs : List Reading} {cs : List Clause} (hne : rs ≠ []) (hunbroken : ∀ r ∈ rs, r.Unbroken)
    (h : List.Forall₂ (fun r c => r.Admitted ∧ r.Means c) rs cs) {text : String}
    (htext : text.toList = ['\n'].intercalate (rs.map Reading.text)) : parse text = .ok cs := by
  rw [parse_eq_ok_iff, clauseLines_readings hne hunbroken htext, List.forall₂_map_left_iff]
  exact ⟨mt List.map_eq_nil_iff.mp hne, h.imp fun r c ⟨hadmitted, hmeans⟩ => ⟨r, rfl, hadmitted, hmeans⟩⟩

end Laurels.Criteria
