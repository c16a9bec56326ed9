import Laurels.Proofs.Criteria.Acceptance
import Mathlib.Data.List.DropRight

/-!
# Texts put together

Criteria that are written one after the other, with a line feed or a semicolon between them, ask for what each of them
asks (`parse_composes`). Reading a text is four steps on its characters: the blanks at its ends go, then the carriage
returns, then the text is cut, and then the blanks at the ends of each line go. Only the cut goes well with putting
texts together. But the first step does nothing that the last one does not do as well, since a blank at an end of the
text is at an end of a line, or cuts off a line that is empty (`clauseLines_eq_linesIn`). Without it, the lines of two
texts are the lines of the one and then those of the other (`clauseLines_join`).

For the same reason blanks at the ends of a line can be written or left out (`linesIn_insert`). A line feed is a blank
too, and one that is written there cuts off an empty line.
-/

namespace Laurels.Criteria

open Text

/-! ## Trimming -/

theorem Blanks.append {as bs : List Char} (has : Blanks as) (hbs : Blanks bs) : Blanks (as ++ bs) :=
  List.forall_mem_append.mpr ⟨has, hbs⟩

theorem trim_blanks_append {ws : List Char} (h : Blanks ws) (cs : List Char) : trim (ws ++ cs) = trim cs := by
  unfold trim trimBy
  rw [List.dropWhile_append_of_pos h]

theorem trim_append_blanks {ws : List Char} (h : Blanks ws) (cs : List Char) : trim (cs ++ ws) = trim cs := by
  have hreverse : ∀ c ∈ ws.reverse, isBlank c = true := fun c hc => h c (List.mem_reverse.mp hc)
  unfold trim trimBy
  rw [List.dropWhile_append]
  split
  · -- there are only blanks in front of them
    rename_i hnone
    rw [List.isEmpty_iff.mp hnone, List.dropWhile_eq_nil_iff.mpr h]
  · rw [List.reverse_append, List.dropWhile_append_of_pos hreverse]

/-- What is trimmed off is blank. -/
theorem exists_trim (cs : List Char) : ∃ front back, Blanks front ∧ Blanks back ∧ cs = front ++ (trim cs ++ back) := by
  refine ⟨cs.takeWhile isBlank, (cs.dropWhile isBlank).rtakeWhile isBlank, fun c => List.mem_takeWhile_imp,
    fun c => List.mem_rtakeWhile_imp, ?_⟩
  have hback : trim cs ++ (cs.dropWhile isBlank).rtakeWhile isBlank = cs.dropWhile isBlank :=
    List.rdropWhile_append_rtakeWhile
  rw [hback, List.takeWhile_append_dropWhile]

theorem trim_eq_nil_iff {cs : List Char} : trim cs = [] ↔ Blanks cs := by
  constructor
  · intro h
    obtain ⟨front, back, hfront, hback, heq⟩ := exists_trim cs
    rw [heq, h]
    exact hfront.append hback
  · intro h
    rw [← List.append_nil cs, trim_blanks_append h]
    rfl

/-! ## Lines of a run of characters -/

/-- Whether lines are cut at a character. -/
def Cuts (c : Char) : Prop := c = '\n' ∨ c = ';'

instance : DecidablePred Cuts := fun _ => inferInstanceAs (Decidable (_ ∨ _))

/-- The lines among some characters that have to be clauses, whatever the characters begin and end with. -/
def linesIn (cs : List Char) : List (List Char) :=
  (((cs.filter (· ≠ '\r')).splitOnP Cuts).map trim).filter fun line => ¬ Skipped line

/-- **A cut keeps the lines on both sides apart.** -/
theorem linesIn_append_cons (as : List Char) {sep : Char} (hsep : Cuts sep) (bs : List Char) :
    linesIn (as ++ sep :: bs) = linesIn as ++ linesIn bs := by
  have hkept : (sep :: bs).filter (· ≠ '\r') = sep :: bs.filter (· ≠ '\r') :=
    List.filter_cons_of_pos (by rcases hsep with rfl | rfl <;> decide)
  have hcut := List.splitOnP_append_cons (p := fun c => decide (Cuts c)) (as.filter (· ≠ '\r')) (bs.filter (· ≠ '\r'))
    (decide_eq_true hsep)
  unfold linesIn
  rw [List.filter_append, hkept, hcut, List.map_append, List.filter_append]

/-- Characters without a cut make one line, or none. -/
theorem linesIn_of_uncut {cs : List Char} (h : ∀ c ∈ cs, ¬ Cuts c) :
    linesIn cs = [trim (cs.filter (· ≠ '\r'))].filter fun line => ¬ Skipped line := by
  have huncut : ∀ c ∈ cs.filter (· ≠ '\r'), decide (Cuts c) = false :=
    fun c hc => decide_eq_false (h c (List.mem_filter.mp hc).1)
  unfold linesIn
  rw [List.splitOnP_eq_singleton huncut, List.map_singleton]

/-- Characters are without a cut, or are cut into two parts. -/
theorem cut_induction {p : List Char → Prop} (uncut : ∀ cs, (∀ c ∈ cs, ¬ Cuts c) → p cs)
    (cut : ∀ as sep bs, Cuts sep → p as → p bs → p (as ++ sep :: bs)) (cs : List Char) : p cs := by
  by_cases h : ∃ sep ∈ cs, Cuts sep
  · obtain ⟨sep, hmem, hsep⟩ := h
    obtain ⟨as, bs, hcs⟩ := List.append_of_mem hmem
    have hlength : cs.length = as.length + (bs.length + 1) := by rw [hcs, List.length_append, List.length_cons]
    rw [hcs]
    exact cut as sep bs hsep (cut_induction uncut cut as) (cut_induction uncut cut bs)
  · exact uncut cs fun c hc hcut => h ⟨c, hc, hcut⟩
termination_by cs.length

variable {ws : List Char}

theorem Blanks.filter (h : Blanks ws) (p : Char → Bool) : Blanks (ws.filter p) :=
  fun c hc => h c (List.mem_filter.mp hc).1

theorem linesIn_blanks (h : Blanks ws) : linesIn ws = [] := by
  induction ws using cut_induction with
  | uncut ws huncut =>
    rw [linesIn_of_uncut huncut, trim_eq_nil_iff.mpr (h.filter _)]
    decide
  | cut as sep bs hsep ihas ihbs =>
    obtain ⟨has, hbs⟩ := List.forall_mem_append.mp h
    rw [linesIn_append_cons as hsep, ihas has, ihbs fun c hc => hbs c (List.mem_cons_of_mem _ hc)]
    rfl

/-- Blanks in front of the first line go with it, and those that cut cut off blanks. -/
theorem linesIn_blanks_append (h : Blanks ws) (cs : List Char) : linesIn (ws ++ cs) = linesIn cs := by
  induction ws using cut_induction with
  | cut as sep bs hsep ihas ihbs =>
    obtain ⟨has, hbs⟩ := List.forall_mem_append.mp h
    rw [List.append_assoc, List.cons_append, linesIn_append_cons as hsep, linesIn_blanks has,
      ihbs fun c hc => hbs c (List.mem_cons_of_mem _ hc)]
    rfl
  | uncut ws hws =>
    induction cs using cut_induction with
    | cut as sep bs hsep ihas ihbs =>
      rw [← List.append_assoc, linesIn_append_cons _ hsep, ihas, linesIn_append_cons _ hsep]
    | uncut cs hcs =>
      rw [linesIn_of_uncut (List.forall_mem_append.mpr ⟨hws, hcs⟩), linesIn_of_uncut hcs, List.filter_append,
        trim_blanks_append (h.filter _)]

/-- So it is with blanks behind the last line. -/
theorem linesIn_append_blanks (h : Blanks ws) (cs : List Char) : linesIn (cs ++ ws) = linesIn cs := by
  induction ws using cut_induction with
  | cut as sep bs hsep ihas ihbs =>
    obtain ⟨has, hbs⟩ := List.forall_mem_append.mp h
    rw [← List.append_assoc, linesIn_append_cons _ hsep, ihas has,
      linesIn_blanks fun c hc => hbs c (List.mem_cons_of_mem _ hc), List.append_nil]
  | uncut ws hws =>
    induction cs using cut_induction with
    | cut as sep bs hsep ihas ihbs =>
      rw [List.append_assoc, List.cons_append, linesIn_append_cons _ hsep, ihbs, linesIn_append_cons _ hsep]
    | uncut cs hcs =>
      rw [linesIn_of_uncut (List.forall_mem_append.mpr ⟨hcs, hws⟩), linesIn_of_uncut hcs, List.filter_append,
        trim_append_blanks (h.filter _)]

/-- **Trimming the whole text does nothing more** than trimming its lines. -/
theorem clauseLines_eq_linesIn (text : String) : clauseLines text = linesIn text.toList := by
  obtain ⟨front, back, hfront, hback, heq⟩ := exists_trim text.toList
  have htrim : clauseLines text = linesIn (trim text.toList) := rfl
  rw [htrim, heq, linesIn_blanks_append hfront, linesIn_append_blanks hback, ← heq]

/-! ## Places at the ends of lines -/

/-- Whether a place, with `as` in front of it and `bs` behind it, is at an end of a line: on one side there are only
blanks between it and a cut, or the end of the text. -/
inductive AtLineEnd : List Char → List Char → Prop where
  | first {ws bs : List Char} (blank : Blanks ws) : AtLineEnd ws bs
  | behind {as ws bs : List Char} {sep : Char} (cut : Cuts sep) (blank : Blanks ws) : AtLineEnd (as ++ sep :: ws) bs
  | before {as ws bs : List Char} {sep : Char} (blank : Blanks ws) (cut : Cuts sep) : AtLineEnd as (ws ++ sep :: bs)
  | last {as ws : List Char} (blank : Blanks ws) : AtLineEnd as ws

/-- **Blanks at an end of a line** can be written or left out. -/
theorem linesIn_insert {as bs : List Char} (hplace : AtLineEnd as bs) (h : Blanks ws) :
    linesIn (as ++ (ws ++ bs)) = linesIn (as ++ bs) := by
  cases hplace with
  | first blank =>
    rw [linesIn_blanks_append blank, linesIn_blanks_append h, linesIn_blanks_append blank]
  | @behind as blanks bs sep cut blank =>
    simp only [List.append_assoc, List.cons_append, linesIn_append_cons _ cut]
    rw [linesIn_blanks_append blank, linesIn_blanks_append h, linesIn_blanks_append blank]
  | @before as blanks bs sep blank cut =>
    simp only [← List.append_assoc, linesIn_append_cons _ cut]
    rw [linesIn_append_blanks blank, linesIn_append_blanks h, linesIn_append_blanks blank]
  | last blank =>
    rw [← List.append_assoc, linesIn_append_blanks blank, linesIn_append_blanks h, linesIn_append_blanks blank]

theorem linesIn_return (as bs : List Char) : linesIn (as ++ '\r' :: bs) = linesIn (as ++ bs) := by
  have hdropped : ('\r' :: bs).filter (· ≠ '\r') = bs.filter (· ≠ '\r') := List.filter_cons_of_neg (by decide)
  unfold linesIn
  rw [List.filter_append, hdropped, ← List.filter_append]

/-! ## Texts -/

/-- How reading a text ends is a matter of its lines, and of whether it is blank. -/
theorem parse_congr {text text' : String} (hblank : Blanks text.toList ↔ Blanks text'.toList)
    (hlines : clauseLines text = clauseLines text') : parse text = parse text' := by
  rw [← trim_eq_nil_iff, ← trim_eq_nil_iff] at hblank
  unfold parse
  rw [segments_eq_clauseLines, segments_eq_clauseLines, hlines]
  by_cases h : trim text.toList = []
  · rw [if_pos h, if_pos (hblank.mp h)]
  · rw [if_neg h, if_neg (mt hblank.mpr h)]

/-- Of the two ways in which a text without lines is refused, the first is for blank texts. -/
theorem parse_insert {text : String} {as bs ws : List Char} (htext : text.toList = as ++ bs) (h : Blanks ws)
    (hlines : linesIn (as ++ (ws ++ bs)) = linesIn (as ++ bs)) : parse (String.ofList (as ++ (ws ++ bs))) = parse text := by
  refine parse_congr ?_ ?_
  · rw [String.toList_ofList, htext]
    unfold Blanks
    simp only [List.forall_mem_append]
    exact ⟨fun ⟨has, _, hbs⟩ => ⟨has, hbs⟩, fun ⟨has, hbs⟩ => ⟨has, h, hbs⟩⟩
  · rw [clauseLines_eq_linesIn, clauseLines_eq_linesIn, String.toList_ofList, htext, hlines]

/-- **Two texts put together have the lines of both.** -/
theorem clauseLines_join (a b : String) {sep : String} (hsep : sep = "\n" ∨ sep = ";") :
    clauseLines (a ++ sep ++ b) = clauseLines a ++ clauseLines b := by
  simp only [clauseLines_eq_linesIn, String.toList_append, List.append_assoc]
  rcases hsep with rfl | rfl
  · exact linesIn_append_cons _ (Or.inl rfl) _
  · exact linesIn_append_cons _ (Or.inr rfl) _

theorem FirstFault.append {lines : List (List Char)} {e : CriteriaFault} (h : FirstFault lines e)
    (more : List (List Char)) : FirstFault (lines ++ more) e := by
  obtain ⟨before, line, after, rfl, hbefore, hfaulty⟩ := h
  exact ⟨before, line, after ++ more, by rw [List.append_assoc, List.cons_append], hbefore, hfaulty⟩

/-- What reading two texts comes to that are put together, and what makes no difference to reading a text. -/
structure Composes (a sep b : String) : Prop where
  /-- If both are accepted, so are they together, and the clauses of the one come before those of the other. -/
  clauses : ∀ as bs, parse a = .ok as → parse b = .ok bs → parse (a ++ sep ++ b) = .ok (as ++ bs)
  /-- These hold if those of both hold. -/
  satisfied : ∀ as bs, parse a = .ok as → parse b = .ok bs →
    ∀ s, Laurels.satisfied (as ++ bs) s = (Laurels.satisfied as s && Laurels.satisfied bs s)
  /-- If a line of the first is at fault, that is the fault of the two together. -/
  fault : ∀ e, parse a = .error e → e ≠ .required → e ≠ .noClauses →
    FirstFault (clauseLines a) e ∧ parse (a ++ sep ++ b) = .error e
  /-- Comments and blank lines in front make no difference, unless the text behind them is blank. -/
  comments : clauseLines a = [] → parse b ≠ .error .required → parse (a ++ sep ++ b) = parse b
  /-- Neither do carriage returns, wherever they are. -/
  returns : ∀ as bs, a.toList = as ++ bs → parse (String.ofList (as ++ '\r' :: bs)) = parse a
  /-- Neither do blanks at an end of a line. -/
  blanks : ∀ as ws bs, a.toList = as ++ bs → AtLineEnd as bs → Blanks ws →
    parse (String.ofList (as ++ (ws ++ bs))) = parse a

/--
**Reading is compositional.** Texts that are put together with a line feed or a semicolon are read one after the
other, and the first fault is that of the text in which it is. Comments, carriage returns and blanks at the ends of
lines make no difference.
-/
theorem parse_composes (a b : String) {sep : String} (hsep : sep = "\n" ∨ sep = ";") : Composes a sep b where
  clauses as bs ha hb := by
    rw [parse_eq_ok_iff] at ha hb ⊢
    rw [clauseLines_join a b hsep]
    exact ⟨List.append_ne_nil_of_left_ne_nil ha.1 _, List.rel_append ha.2 hb.2⟩
  satisfied as bs _ _ s := List.all_append
  fault e he hrequired hnoClauses := by
    have hfirst := (parse_eq_error_iff hrequired hnoClauses).mp he
    refine ⟨hfirst, (parse_eq_error_iff hrequired hnoClauses).mpr ?_⟩
    rw [clauseLines_join a b hsep]
    exact hfirst.append _
  comments ha hb := by
    have hlines : clauseLines (a ++ sep ++ b) = clauseLines b := by rw [clauseLines_join a b hsep, ha, List.nil_append]
    have hb' : ¬ Blanks b.toList := mt (fun h => parse_eq_required_iff.mpr (trim_eq_nil_iff.mpr h)) hb
    refine parse_congr (iff_of_false (fun h => hb' ?_) hb') hlines
    rw [String.toList_append] at h
    exact (List.forall_mem_append.mp h).2
  returns as bs ha := by
    have hblank : Blanks ['\r'] := List.forall_mem_singleton.mpr (by decide)
    have hsame := parse_insert ha hblank (linesIn_return as bs)
    exact hsame
  blanks as ws bs ha hplace hws := parse_insert ha hws (linesIn_insert hplace hws)

/-- A text that ends in the middle of a comment line. -/
def openRemark : String := "Wins >= 1\t\r\n\n# a remark"

/-- A text that begins with a comment line, and has a carriage return inside a metric. -/
def afterRemark : String := "// another; D\rNF = 0;"

/-- The remark at the end of the first text does not swallow the second text. -/
theorem parse_composes_remark : Composes openRemark ";" afterRemark
    ∧ parse openRemark = .ok [⟨"wins", .atLeast, .int 1⟩] ∧ parse afterRemark = .ok [⟨"dnf", .equal, .int 0⟩]
    ∧ parse (openRemark ++ ";" ++ afterRemark) = .ok [⟨"wins", .atLeast, .int 1⟩, ⟨"dnf", .equal, .int 0⟩] := by
  have h := parse_composes openRemark afterRemark (Or.inr rfl)
  have hfirst : parse openRemark = .ok [⟨"wins", .atLeast, .int 1⟩] := by decide +kernel
  have hsecond : parse afterRemark = .ok [⟨"dnf", .equal, .int 0⟩] := by decide +kernel
  exact ⟨h, hfirst, hsecond, h.clauses _ _ hfirst hsecond⟩

end Laurels.Criteria
