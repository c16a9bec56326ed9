import Laurels.Fault
import Laurels.Proofs.Criteria.Parsing
import Laurels.Proofs.Criteria.Reading
import Mathlib.Data.List.Forall2

/-!
# What the parser accepts

A line is a clause if it has a reading and its number is neither too large nor too long (`Accepted`). Otherwise
exactly one of three things is wrong with it (`Faulty`). The parser tells these cases apart (`parseClause_of_accepted`,
`parseClause_of_faulty`), and the first line that is no clause decides about a text (`parse_understood`).
-/

namespace Laurels.Criteria

open Text

/-! ## Clauses -/

/-- What a clause has from a reading of its line: the metric in lower case, the comparison that is meant, and the
number. An integer is kept exactly, and a number with a point as the nearest binary64 value. -/
structure Reading.Means (r : Reading) (c : Clause) : Prop where
  metric : c.metric = String.ofList (r.metric.map Char.toLower)
  op : c.op = r.spelling.meaning
  whole : r.number.places = none → ∃ n : Int, c.threshold = .int n ∧ (n : ℚ) = r.number.value
  pointed : r.number.places ≠ none → c.threshold = .float r.number.written.nearest

/-- The number of a reading is read: it lies within the finite values, and an integer has no more than 4300 digits. -/
structure Reading.Admitted (r : Reading) : Prop where
  finite : |r.number.value| < 2 ^ 1024 - 2 ^ 970
  short : r.number.places = none → r.number.whole.length ≤ 4300

/-- A line is a clause. -/
def Accepted (line : List Char) (c : Clause) : Prop := ∃ r : Reading, r.text = line ∧ r.Admitted ∧ r.Means c

/-- What is wrong with a line that is no clause. -/
inductive Faulty (line : List Char) : CriteriaFault → Prop where
  /-- It has no reading, and is quoted as it is. -/
  | form (h : ∀ r : Reading, r.text ≠ line) : Faulty line (.badLine (String.ofList line))
  /-- Its number is too large. -/
  | size (r : Reading) (htext : r.text = line) (h : 2 ^ 1024 - 2 ^ 970 ≤ |r.number.value|) :
    Faulty line (.notFinite (String.ofList r.number.text))
  /-- Its number is an integer with too many digits. -/
  | length (r : Reading) (htext : r.text = line) (hfinite : |r.number.value| < 2 ^ 1024 - 2 ^ 970)
    (hplaces : r.number.places = none) (h : 4300 < r.number.whole.length) :
    Faulty line (.tooManyDigits r.number.whole.length)

theorem parseClause_text (r : Reading) : parseClause r.text
    = r.number.written.threshold (String.ofList r.number.text) >>= fun t =>
        .ok ⟨String.ofList (lower r.metric), r.spelling.meaning, t⟩ := by
  unfold parseClause
  rw [parts?_text]
  dsimp only
  rw [written?_text]
  rfl

theorem parseClause_of_no_reading {line : List Char} (h : ∀ r : Reading, r.text ≠ line) :
    parseClause line = .error (.badLine (String.ofList line)) := by
  unfold parseClause
  split
  · rfl
  · rename_i hparts
    split
    · rfl
    · rename_i hwritten
      obtain ⟨x, hx⟩ := exists_decimal hwritten
      obtain ⟨r, hr⟩ := exists_reading hparts x hx
      exact (h r hr).elim

theorem parseClause_of_accepted {line : List Char} {c : Clause} (h : Accepted line c) : parseClause line = .ok c := by
  obtain ⟨r, rfl, hadmitted, hmeans⟩ := h
  obtain ⟨metric, op, threshold⟩ := c
  obtain ⟨rfl, rfl, hwhole, hpointed⟩ := hmeans
  rw [parseClause_text, r.metric_name.lower_eq]
  by_cases hplaces : r.number.places = none
  · obtain ⟨n, rfl, hn⟩ := hwhole hplaces
    have heq : Binary64.signed r.number.written.negative (valueOf r.number.written.whole) = n :=
      Int.cast_injective ((Decimal.signed_valueOf hplaces).trans hn.symm)
    rw [Decimal.threshold_of_none hadmitted.finite hplaces, if_neg (Nat.not_lt.mpr (hadmitted.short hplaces)), heq]
    rfl
  · obtain rfl := hpointed hplaces
    rw [Decimal.threshold_of_some hadmitted.finite hplaces]
    rfl

theorem parseClause_of_faulty {line : List Char} {e : CriteriaFault} (h : Faulty line e) :
    parseClause line = .error e := by
  cases h with
  | form h => exact parseClause_of_no_reading h
  | size r htext h =>
    subst htext
    rw [parseClause_text, Decimal.threshold_of_large h]
    rfl
  | length r htext hfinite hplaces h =>
    subst htext
    rw [parseClause_text, Decimal.threshold_of_none hfinite hplaces, if_pos h]
    rfl

/-- Every reading makes a clause. -/
theorem Reading.exists_means (r : Reading) : ∃ c, r.Means c := by
  by_cases hplaces : r.number.places = none
  · exact ⟨⟨_, _, .int _⟩, rfl, rfl, fun _ => ⟨_, rfl, Decimal.signed_valueOf hplaces⟩, fun h => (h hplaces).elim⟩
  · exact ⟨⟨_, _, .float _⟩, rfl, rfl, fun h => (hplaces h).elim, fun _ => rfl⟩

theorem Reading.Admitted.exists_accepted {r : Reading} (h : r.Admitted) : ∃ c, Accepted r.text c := by
  obtain ⟨c, hc⟩ := r.exists_means
  exact ⟨c, r, rfl, h, hc⟩

/-- The faults are all that can be wrong with a line. -/
theorem accepted_or_faulty (line : List Char) : (∃ c, Accepted line c) ∨ ∃ e, Faulty line e := by
  by_cases hreading : ∃ r : Reading, r.text = line
  swap
  · exact Or.inr ⟨_, .form fun r hr => hreading ⟨r, hr⟩⟩
  obtain ⟨r, rfl⟩ := hreading
  rcases lt_or_ge |r.number.value| (2 ^ 1024 - 2 ^ 970) with hfinite | hlarge
  swap
  · exact Or.inr ⟨_, .size r rfl hlarge⟩
  by_cases hlong : r.number.places = none ∧ 4300 < r.number.whole.length
  · exact Or.inr ⟨_, .length r rfl hfinite hlong.1 hlong.2⟩
  · exact Or.inl (Reading.Admitted.exists_accepted
      ⟨hfinite, fun hplaces => Nat.le_of_not_lt fun h => hlong ⟨hplaces, h⟩⟩)

theorem Accepted.not_faulty {line : List Char} {c : Clause} {e : CriteriaFault} (h : Accepted line c) :
    ¬ Faulty line e := fun he => nomatch (parseClause_of_accepted h).symm.trans (parseClause_of_faulty he)

theorem parseClause_eq_ok_iff {line : List Char} {c : Clause} : parseClause line = .ok c ↔ Accepted line c := by
  refine ⟨fun h => ?_, parseClause_of_accepted⟩
  rcases accepted_or_faulty line with ⟨c', hc'⟩ | ⟨e, he⟩
  · cases h.symm.trans (parseClause_of_accepted hc')
    exact hc'
  · cases h.symm.trans (parseClause_of_faulty he)

/-! ## Texts -/

/-- The first line that is no clause, and what is wrong with it. -/
def FirstFault (lines : List (List Char)) (e : CriteriaFault) : Prop :=
  ∃ before line after, lines = before ++ line :: after ∧ (∀ l ∈ before, ∃ c, Accepted l c) ∧ Faulty line e

theorem FirstFault.cons {line : List Char} {lines : List (List Char)} {c : Clause} {e : CriteriaFault}
    (hc : Accepted line c) : FirstFault (line :: lines) e ↔ FirstFault lines e := by
  constructor
  · rintro ⟨before, line', after, heq, hbefore, hfaulty⟩
    cases before with
    | nil =>
      cases heq
      exact (hc.not_faulty hfaulty).elim
    | cons l before =>
      cases heq
      exact ⟨before, line', after, rfl, fun l hl => hbefore l (List.mem_cons_of_mem _ hl), hfaulty⟩
  · rintro ⟨before, line', after, rfl, hbefore, hfaulty⟩
    refine ⟨line :: before, line', after, rfl, fun l hl => ?_, hfaulty⟩
    rcases List.mem_cons.mp hl with rfl | hl
    · exact ⟨c, hc⟩
    · exact hbefore l hl

theorem FirstFault.head {line : List Char} {lines : List (List Char)} {e e' : CriteriaFault} (he : Faulty line e) :
    FirstFault (line :: lines) e' ↔ e = e' := by
  constructor
  · rintro ⟨before, line', after, heq, hbefore, hfaulty⟩
    cases before with
    | nil =>
      cases heq
      exact Except.error.inj ((parseClause_of_faulty he).symm.trans (parseClause_of_faulty hfaulty))
    | cons l before =>
      cases heq
      obtain ⟨c, hc⟩ := hbefore line List.mem_cons_self
      exact (hc.not_faulty he).elim
  · rintro rfl
    exact ⟨[], line, lines, rfl, fun _ h => (nomatch h), he⟩

theorem parseClauses_eq_ok_iff {lines : List (List Char)} {cs : List Clause} :
    parseClauses lines = .ok cs ↔ List.Forall₂ Accepted lines cs := by
  induction lines generalizing cs with
  | nil => exact ⟨fun h => by cases h; exact .nil, fun h => by cases h; rfl⟩
  | cons line lines ih =>
    constructor
    · intro h
      obtain ⟨c, rest, hc, hrest, rfl⟩ := parseClauses_cons h
      exact .cons (parseClause_eq_ok_iff.mp hc) (ih.mp hrest)
    · rintro (_ | ⟨hc, hrest⟩)
      unfold parseClauses
      rw [parseClause_of_accepted hc, ih.mpr hrest]
      rfl

theorem parseClauses_eq_error_iff {lines : List (List Char)} {e : CriteriaFault} :
    parseClauses lines = .error e ↔ FirstFault lines e := by
  induction lines with
  | nil =>
    constructor
    · intro h
      cases h
    · rintro ⟨before, line, after, heq, _⟩
      cases before <;> cases heq
  | cons line lines ih =>
    unfold parseClauses
    rcases accepted_or_faulty line with ⟨c, hc⟩ | ⟨e', he'⟩
    · rw [FirstFault.cons hc, ← ih, parseClause_of_accepted hc]
      cases parseClauses lines with
      | error e => exact Iff.rfl
      | ok cs =>
        constructor <;> intro h <;> cases h
    · rw [FirstFault.head he', parseClause_of_faulty he']
      exact ⟨Except.error.inj, congrArg Except.error⟩

theorem exists_forall₂_iff {lines : List (List Char)} : (∃ cs, List.Forall₂ Accepted lines cs)
    ↔ ∀ line ∈ lines, ∃ r : Reading, r.text = line ∧ r.Admitted := by
  induction lines with
  | nil => exact ⟨fun _ _ h => (nomatch h), fun _ => ⟨[], .nil⟩⟩
  | cons line lines ih =>
    rw [List.forall_mem_cons, ← ih]
    constructor
    · rintro ⟨_, _ | ⟨⟨r, htext, hadmitted, _⟩, hrest⟩⟩
      exact ⟨⟨r, htext, hadmitted⟩, _, hrest⟩
    · rintro ⟨⟨r, rfl, hadmitted⟩, cs, hrest⟩
      obtain ⟨c, hc⟩ := hadmitted.exists_accepted
      exact ⟨c :: cs, .cons hc hrest⟩

/-- A fault of a line is none of the text as a whole. -/
theorem FirstFault.of_line {lines : List (List Char)} {e : CriteriaFault} (h : FirstFault lines e) :
    e ≠ .required ∧ e ≠ .noClauses := by
  obtain ⟨_, _, _, _, _, hfaulty⟩ := h
  cases hfaulty <;> exact ⟨nofun, nofun⟩

theorem clauseLines_eq_nil {text : String} (h : trim text.toList = []) : clauseLines text = [] := by
  unfold clauseLines
  rw [h]
  decide

/-- How reading a text ends, by what there is in it. -/
inductive Outcome (text : String) : Except CriteriaFault (List Clause) → Prop where
  | blank (htrim : trim text.toList = []) (hlines : clauseLines text = []) : Outcome text (.error .required)
  | comments (htrim : trim text.toList ≠ []) (hlines : clauseLines text = []) : Outcome text (.error .noClauses)
  | clauses {cs : List Clause} (htrim : trim text.toList ≠ []) (hlines : clauseLines text ≠ [])
    (haccepted : List.Forall₂ Accepted (clauseLines text) cs) : Outcome text (.ok cs)
  | fault {e : CriteriaFault} (htrim : trim text.toList ≠ []) (hlines : clauseLines text ≠ [])
    (hfirst : FirstFault (clauseLines text) e) : Outcome text (.error e)

theorem outcome_parse (text : String) : Outcome text (parse text) := by
  unfold parse
  rw [segments_eq_clauseLines]
  split
  · rename_i htrim
    exact .blank htrim (clauseLines_eq_nil htrim)
  rename_i htrim
  split
  · rename_i e he
    have hfirst := parseClauses_eq_error_iff.mp he
    refine .fault htrim ?_ hfirst
    rintro hnil
    rw [hnil] at he
    cases he
  · rename_i hok
    have haccepted := parseClauses_eq_ok_iff.mp hok
    exact .comments htrim (List.forall₂_nil_right_iff.mp haccepted)
  · rename_i cs hne hok
    have haccepted := parseClauses_eq_ok_iff.mp hok
    refine .clauses htrim (fun hnil => hne ?_) haccepted
    rw [hnil] at haccepted
    exact List.forall₂_nil_left_iff.mp haccepted

theorem parse_eq_required_iff {text : String} : parse text = .error .required ↔ trim text.toList = [] := by
  have h := outcome_parse text
  generalize parse text = result at h ⊢
  cases h with
  | blank htrim hlines => exact ⟨fun _ => htrim, fun _ => rfl⟩
  | comments htrim hlines => exact ⟨nofun, fun h => (htrim h).elim⟩
  | clauses htrim hlines haccepted => exact ⟨nofun, fun h => (htrim h).elim⟩
  | fault htrim hlines hfirst =>
    exact ⟨fun h => (hfirst.of_line.1 (Except.error.inj h)).elim, fun h => (htrim h).elim⟩

theorem parse_eq_noClauses_iff {text : String} :
    parse text = .error .noClauses ↔ trim text.toList ≠ [] ∧ clauseLines text = [] := by
  have h := outcome_parse text
  generalize parse text = result at h ⊢
  cases h with
  | blank htrim hlines => exact ⟨nofun, fun h => (h.1 htrim).elim⟩
  | comments htrim hlines => exact ⟨fun _ => ⟨htrim, hlines⟩, fun _ => rfl⟩
  | clauses htrim hlines haccepted => exact ⟨nofun, fun h => (hlines h.2).elim⟩
  | fault htrim hlines hfirst =>
    exact ⟨fun h => (hfirst.of_line.2 (Except.error.inj h)).elim, fun h => (hlines h.2).elim⟩

theorem parse_eq_ok_iff {text : String} {cs : List Clause} :
    parse text = .ok cs ↔ clauseLines text ≠ [] ∧ List.Forall₂ Accepted (clauseLines text) cs := by
  have h := outcome_parse text
  generalize parse text = result at h ⊢
  cases h with
  | blank htrim hlines => exact ⟨nofun, fun h => (h.1 hlines).elim⟩
  | comments htrim hlines => exact ⟨nofun, fun h => (h.1 hlines).elim⟩
  | clauses htrim hlines haccepted =>
    refine ⟨fun h => ⟨hlines, Except.ok.inj h ▸ haccepted⟩, fun h => ?_⟩
    rw [← parseClauses_eq_ok_iff.mpr haccepted, parseClauses_eq_ok_iff.mpr h.2]
  | fault htrim hlines hfirst =>
    exact ⟨nofun, fun h => nomatch (parseClauses_eq_ok_iff.mpr h.2).symm.trans (parseClauses_eq_error_iff.mpr hfirst)⟩

theorem parse_eq_error_iff {text : String} {e : CriteriaFault} (hrequired : e ≠ .required)
    (hnoClauses : e ≠ .noClauses) : parse text = .error e ↔ FirstFault (clauseLines text) e := by
  have h := outcome_parse text
  have hnil : clauseLines text = [] → ¬ FirstFault (clauseLines text) e := fun hlines h => by
    rw [hlines] at h
    exact nomatch parseClauses_eq_error_iff.mpr h
  generalize parse text = result at h ⊢
  cases h with
  | blank htrim hlines => exact ⟨fun h => (hrequired (Except.error.inj h).symm).elim, fun h => (hnil hlines h).elim⟩
  | comments htrim hlines =>
    exact ⟨fun h => (hnoClauses (Except.error.inj h).symm).elim, fun h => (hnil hlines h).elim⟩
  | clauses htrim hlines haccepted =>
    exact ⟨nofun, fun h => nomatch (parseClauses_eq_ok_iff.mpr haccepted).symm.trans (parseClauses_eq_error_iff.mpr h)⟩
  | fault htrim hlines hfirst =>
    refine ⟨fun h => Except.error.inj h ▸ hfirst, fun h => ?_⟩
    rw [← parseClauses_eq_error_iff.mpr hfirst, parseClauses_eq_error_iff.mpr h]

/-- What the parser makes of a text. -/
structure Understood (text : String) : Prop where
  /-- A text is asked for if there is nothing but blanks. -/
  required : parse text = .error .required ↔ trim text.toList = []
  /-- Clauses are returned if there are lines and each of them is well formed. -/
  accepted : (∃ cs, parse text = .ok cs)
    ↔ clauseLines text ≠ [] ∧ ∀ line ∈ clauseLines text, ∃ r : Reading, r.text = line ∧ r.Admitted
  /-- They are one for each line, in order. -/
  clauses : ∀ cs, parse text = .ok cs →
    List.Forall₂ (fun line c => ∃ r : Reading, r.text = line ∧ r.Means c) (clauseLines text) cs
  /-- A line has one reading at most. -/
  readings : ∀ line ∈ clauseLines text, ∀ r r' : Reading, r.text = line → r'.text = line → r = r'
  /-- There are other texts without lines. -/
  comments : parse text = .error .noClauses ↔ trim text.toList ≠ [] ∧ clauseLines text = []
  /-- Any other fault is that of the first line that is not well formed. -/
  faults : ∀ e, e ≠ .required → e ≠ .noClauses → (parse text = .error e ↔ FirstFault (clauseLines text) e)
  /-- A line without a reading is refused as invalid and quoted, and so is a number that is too large. -/
  quoted : ∀ e quote, parse text = .error e → e = .badLine quote ∨ e = .notFinite quote →
    e.refusal? = some .invalidCriteria ∧ ∃ before after, e.message = before ++ quote ++ after
  /-- A number with too many digits is no refusal. -/
  unrefused : ∀ count, parse text = .error (.tooManyDigits count) → (CriteriaFault.tooManyDigits count).refusal? = none

/--
**The parser accepts its grammar** and reports the first fault. A text that is not blank is accepted if it has
lines to read and each of them is well formed, and it comes to one clause for each line; else the first line that
is not well formed decides what is reported.
-/
theorem parse_understood (text : String) : Understood text where
  required := parse_eq_required_iff
  accepted := by
    rw [← exists_forall₂_iff, ← exists_and_left]
    exact exists_congr fun _ => parse_eq_ok_iff
  clauses cs h := (parse_eq_ok_iff.mp h).2.imp fun _ _ ⟨r, htext, _, hmeans⟩ => ⟨r, htext, hmeans⟩
  readings _ _ _ _ h h' := Reading.eq_of_text_eq (h.trans h'.symm)
  comments := parse_eq_noClauses_iff
  faults _ := parse_eq_error_iff
  quoted := by
    rintro _ quote _ (rfl | rfl)
    · exact ⟨rfl, "Invalid criteria line: \"", "\". Expected format like wins>=1", rfl⟩
    · exact ⟨rfl, "Criteria value is not a number: ", "", String.append_empty.symm⟩
  unrefused _ _ := rfl

/-- A dash belongs to the name in front of a comparison and to the number behind it. -/
example : parse "Action:a-1>=-1; # a comment\nDNF = 0" =
    .ok [⟨"action:a-1", .atLeast, .int (-1)⟩, ⟨"dnf", .equal, .int 0⟩] := by
  decide +kernel

end Laurels.Criteria
