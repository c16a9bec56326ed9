import Laurels.Criteria.Parser
import Mathlib.Algebra.Order.Field.Rat
import Mathlib.Algebra.Order.Group.Unbundled.Abs
import Mathlib.Data.List.Basic

/-!
# The grammar of criteria

What a criteria text is made of, said without a parser. Its lines are cut at line feeds and semicolons; a line
that is not empty and no comment has to be a clause. A reading takes a line apart into a metric name, a comparison
and a number with blanks between them, and carries the facts that make each part what it is.

Some parts overlap. A metric name may hold dashes and digits, one comparison is the beginning of another, and a
sign may stand where a digit may. Still each part ends where the next cannot begin: no blank and no sign of a
comparison belongs to a metric name, and no number begins with a blank or an equals sign. So a line has one reading
at most (`Reading.eq_of_text_eq`).
-/

namespace Laurels.Criteria

open Text

/-! ## Lines -/

/-- A line that is passed over: an empty one or a comment. -/
def Skipped (line : List Char) : Prop := line = [] ∨ ['#'] <+: line ∨ ['/', '/'] <+: line

instance : DecidablePred Skipped := fun _ => inferInstanceAs (Decidable (_ ∨ _ ∨ _))

/-- The lines of a text that have to be clauses. Blanks around the text and carriage returns inside it are dropped
first, and then the blanks around each line. -/
def clauseLines (text : String) : List (List Char) :=
  let kept := (trim text.toList).filter (· ≠ '\r')
  ((kept.splitOnP fun c => c = '\n' ∨ c = ';').map trim).filter fun line => ¬ Skipped line

theorem pieces_eq_splitOnP (atCut : Char → Bool) (cs : List Char) : pieces atCut cs = cs.splitOnP atCut := by
  induction cs with
  | nil => rfl
  | cons c cs ih =>
    rw [List.splitOnP_cons_eq_if_modifyHead]
    unfold pieces
    rw [ih]
    split
    · rfl
    · cases hps : cs.splitOnP atCut with
      | nil => exact (List.splitOnP_ne_nil _ _ hps).elim
      | cons p ps => rfl

theorem isComment_iff (line : List Char) : isComment line = true ↔ Skipped line := by
  unfold isComment Skipped
  split
  · exact ⟨fun _ => Or.inl rfl, fun _ => rfl⟩
  · exact ⟨fun _ => Or.inr (Or.inl ⟨_, rfl⟩), fun _ => rfl⟩
  · exact ⟨fun _ => Or.inr (Or.inr ⟨_, rfl⟩), fun _ => rfl⟩
  · rename_i hempty hhash hslashes
    refine ⟨fun h => (Bool.false_ne_true h).elim, ?_⟩
    rintro (rfl | ⟨rest, rfl⟩ | ⟨rest, rfl⟩)
    · exact (hempty rfl).elim
    · exact (hhash rest rfl).elim
    · exact (hslashes rest rfl).elim

theorem segments_eq_clauseLines (text : String) : segments text.toList = clauseLines text := by
  have hcut : isSeparator = fun c => decide (c = '\n' ∨ c = ';') := by
    funext c
    simp [isSeparator, Bool.decide_or, beq_eq_decide]
  have hkeep : (fun s => !isComment s) = fun line => decide ¬ Skipped line := by
    funext line
    rw [Bool.eq_iff_iff, Bool.not_eq_true', decide_eq_true_iff, ← isComment_iff, Bool.not_eq_true]
  unfold segments clauseLines
  rw [pieces_eq_splitOnP, hcut, hkeep]

/-! ## Words -/

/-- A letter from A to Z, of either case. -/
def Letter (c : Char) : Prop := ('A' ≤ c ∧ c ≤ 'Z') ∨ ('a' ≤ c ∧ c ≤ 'z')

/-- A metric name: a letter or an underscore, and after it letters, ASCII digits and four marks. -/
inductive MetricName : List Char → Prop where
  | mk {c : Char} {cs : List Char} (first : Letter c ∨ c = '_')
      (others : ∀ d ∈ cs, Letter d ∨ ('0' ≤ d ∧ d ≤ '9') ∨ d ∈ ['_', '.', ':', '-']) : MetricName (c :: cs)

/-- A run of decimal digits of any script. -/
def Digits (cs : List Char) : Prop := cs ≠ [] ∧ ∀ c ∈ cs, isDigit c = true

/-- A run of blanks, perhaps empty. -/
def Blanks (cs : List Char) : Prop := ∀ c ∈ cs, isBlank c = true

/-- How a comparison is written. -/
inductive Spelling where
  | atLeast
  | atMost
  | doubleEquals
  | notEqual
  | above
  | below
  | equals
deriving DecidableEq

namespace Spelling

/-- The characters of a spelling. -/
def text : Spelling → List Char
  | atLeast => ['>', '=']
  | atMost => ['<', '=']
  | doubleEquals => ['=', '=']
  | notEqual => ['!', '=']
  | above => ['>']
  | below => ['<']
  | equals => ['=']

/-- The comparison that is meant. -/
def meaning : Spelling → Operator
  | atLeast => .atLeast
  | atMost => .atMost
  | doubleEquals => .equal
  | notEqual => .notEqual
  | above => .above
  | below => .below
  | equals => .equal

end Spelling

/-- The sign of a number. -/
inductive Sign where
  | none
  | plus
  | minus
deriving DecidableEq

/-- The characters of a sign. -/
def Sign.text : Sign → List Char
  | none => []
  | plus => ['+']
  | minus => ['-']

/-- The number that a run of digits stands for. -/
def natOf (ds : List Char) : Nat := valueOf (ds.filterMap digit?)

/-- A number as it is written: a sign, digits, and perhaps a point with digits after it. -/
structure Decimal where
  sign : Sign
  whole : List Char
  places : Option (List Char)
  whole_digits : Digits whole
  places_digits : ∀ ps, places = some ps → Digits ps

namespace Decimal

/-- The point and the digits after it, if there are any. -/
def fraction : Option (List Char) → List Char
  | none => []
  | some ps => '.' :: ps

/-- The characters of a number. -/
def text (x : Decimal) : List Char := x.sign.text ++ (x.whole ++ fraction x.places)

/-- The size of a number. -/
def magnitude (x : Decimal) : ℚ :=
  match x.places with
  | none => natOf x.whole
  | some ps => natOf x.whole + natOf ps / 10 ^ ps.length

/-- The number that is written. -/
def value (x : Decimal) : ℚ :=
  match x.sign with
  | .minus => -x.magnitude
  | _ => x.magnitude

end Decimal

/-! ## Readings -/

/-- A line taken apart: metric, comparison and number, and what stands between them. -/
structure Reading where
  metric : List Char
  before : List Char
  spelling : Spelling
  after : List Char
  number : Decimal
  metric_name : MetricName metric
  before_blank : Blanks before
  after_blank : Blanks after

/-- The line that a reading is of. -/
def Reading.text (r : Reading) : List Char :=
  r.metric ++ (r.before ++ (r.spelling.text ++ (r.after ++ r.number.text)))

/-! ## Where a part ends -/

/-- A text does not begin with a character that `p` accepts. -/
def Stops (p : Char → Bool) (cs : List Char) : Prop := ∀ c ∈ cs.head?, p c = false

theorem Stops.nil {p : Char → Bool} : Stops p [] := fun _ h => nomatch h

theorem Stops.cons {p : Char → Bool} {c : Char} {cs : List Char} (h : p c = false) : Stops p (c :: cs) := by
  rintro _ ⟨⟩
  exact h

theorem takeWhile_append_stops {p : Char → Bool} {as bs : List Char} (has : ∀ c ∈ as, p c = true)
    (hbs : Stops p bs) : (as ++ bs).takeWhile p = as := by
  rw [List.takeWhile_append_of_pos has]
  cases bs with
  | nil => simp
  | cons b bs => rw [List.takeWhile_cons_of_neg (by simp [hbs b rfl]), List.append_nil]

theorem dropWhile_append_stops {p : Char → Bool} {as bs : List Char} (has : ∀ c ∈ as, p c = true)
    (hbs : Stops p bs) : (as ++ bs).dropWhile p = bs := by
  rw [List.dropWhile_append_of_pos has]
  cases bs with
  | nil => rfl
  | cons b bs => rw [List.dropWhile_cons_of_neg (by simp [hbs b rfl])]

/-- A run of characters of one kind ends where the text goes on with another. -/
theorem append_inj_of_stops {p : Char → Bool} {as bs as' bs' : List Char} (has : ∀ c ∈ as, p c = true)
    (has' : ∀ c ∈ as', p c = true) (hbs : Stops p bs) (hbs' : Stops p bs') (h : as ++ bs = as' ++ bs') :
    as = as' ∧ bs = bs' := by
  constructor
  · rw [← takeWhile_append_stops has hbs, h, takeWhile_append_stops has' hbs']
  · rw [← dropWhile_append_stops has hbs, h, dropWhile_append_stops has' hbs']

theorem Stops.append {p q : Char → Bool} {as bs : List Char} (has : ∀ c ∈ as, q c = true)
    (hapart : ∀ c, q c = true → p c = false) (hbs : Stops p bs) : Stops p (as ++ bs) := by
  cases as with
  | nil => exact hbs
  | cons a as => exact .cons (hapart a (has a List.mem_cons_self))

/-! ## Kinds of characters -/

theorem isUpper_iff {c : Char} : c.isUpper = true ↔ 'A' ≤ c ∧ c ≤ 'Z' := decide_eq_true_iff

theorem isLower_iff {c : Char} : c.isLower = true ↔ 'a' ≤ c ∧ c ≤ 'z' :=
  Bool.and_eq_true_iff.trans (and_congr decide_eq_true_iff decide_eq_true_iff)

theorem isAlpha_iff {c : Char} : c.isAlpha = true ↔ Letter c :=
  Bool.or_eq_true_iff.trans (or_congr isUpper_iff isLower_iff)

theorem isAlphanum_iff {c : Char} : c.isAlphanum = true ↔ Letter c ∨ ('0' ≤ c ∧ c ≤ '9') :=
  Bool.or_eq_true_iff.trans (or_congr isAlpha_iff
    (Bool.and_eq_true_iff.trans (and_congr decide_eq_true_iff decide_eq_true_iff)))

theorem isMetricStart_iff {c : Char} : isMetricStart c = true ↔ Letter c ∨ c = '_' := by
  unfold isMetricStart
  rw [Bool.or_eq_true_iff, isAlpha_iff, beq_iff_eq]

theorem isMetricChar_iff {c : Char} :
    isMetricChar c = true ↔ Letter c ∨ ('0' ≤ c ∧ c ≤ '9') ∨ c ∈ ['_', '.', ':', '-'] := by
  unfold isMetricChar
  simp only [Bool.or_eq_true_iff, isAlphanum_iff, beq_iff_eq, List.mem_cons, List.not_mem_nil, or_false, or_assoc]

theorem toNat_le_of_le {c d : Char} (h : c ≤ d) : c.toNat ≤ d.toNat := UInt32.le_iff_toNat_le.mp h

/-- The characters of metric names are ASCII characters. -/
theorem toNat_lt_of_isMetricChar {c : Char} (h : isMetricChar c = true) : c.toNat < 128 := by
  rw [isMetricChar_iff] at h
  rcases h with (⟨_, hle⟩ | ⟨_, hle⟩) | ⟨_, hle⟩ | hmark
  · exact Nat.lt_of_le_of_lt (toNat_le_of_le hle) (by decide)
  · exact Nat.lt_of_le_of_lt (toNat_le_of_le hle) (by decide)
  · exact Nat.lt_of_le_of_lt (toNat_le_of_le hle) (by decide)
  · simp only [List.mem_cons, List.not_mem_nil, or_false] at hmark
    rcases hmark with rfl | rfl | rfl | rfl <;> decide

/-- What holds of each of the ASCII codes holds of the ASCII characters. -/
theorem of_ascii {p : Char → Prop} (h : ∀ n < 128, p (Char.ofNat n)) {c : Char} (hc : c.toNat < 128) : p c := by
  rw [← Char.ofNat_toNat c]
  exact h c.toNat hc

theorem isBlank_of_isMetricChar {c : Char} (h : isMetricChar c = true) : isBlank c = false :=
  of_ascii (p := fun c => isMetricChar c = true → isBlank c = false) (by decide) (toNat_lt_of_isMetricChar h) h

theorem isMetricChar_of_isBlank {c : Char} (h : isBlank c = true) : isMetricChar c = false := by
  by_contra hmetric
  rw [Bool.not_eq_false] at hmetric
  exact Bool.false_ne_true ((isBlank_of_isMetricChar hmetric).symm.trans h)

theorem isBlank_of_isDigit {c : Char} (h : isDigit c = true) : isBlank c = false := by
  -- a digit is one of ten in a row, and no blank is among them
  have htable : ∀ z ∈ digitZeros, ∀ k < 10,
      (inRanges whiteSpaceRanges (z + k) || (0x1C ≤ z + k && z + k ≤ 0x1F)) = false := by decide +kernel
  unfold isDigit digit? at h
  rw [Option.isSome_map, List.find?_isSome] at h
  obtain ⟨z, hz, hrange⟩ := h
  rw [Bool.and_eq_true, decide_eq_true_iff, decide_eq_true_iff] at hrange
  have hk := htable z hz (c.toNat - z) (by omega)
  rw [Nat.add_sub_cancel' hrange.1] at hk
  exact hk

/-- The characters that comparisons are written with. -/
def isMark (c : Char) : Bool := c ∈ ['>', '<', '=', '!']

/-- The characters that signs are written with. -/
def isSign (c : Char) : Bool := c ∈ ['+', '-']

theorem not_mem_of_any {cs : List Char} {p : Char → Bool} (hcs : cs.any p = false) {c : Char} (hc : p c = true) :
    decide (c ∈ cs) = false :=
  decide_eq_false fun hmem => List.any_eq_false.mp hcs c hmem hc

theorem isMark_of_isBlank {c : Char} (h : isBlank c = true) : isMark c = false := not_mem_of_any (by decide) h

theorem isMark_of_isDigit {c : Char} (h : isDigit c = true) : isMark c = false := not_mem_of_any (by decide) h

theorem isSign_of_isDigit {c : Char} (h : isDigit c = true) : isSign c = false := not_mem_of_any (by decide) h

/-! ## One reading at most -/

theorem MetricName.isMetricChar {name : List Char} (h : MetricName name) : ∀ c ∈ name, isMetricChar c = true := by
  obtain ⟨hfirst, hothers⟩ := h
  intro d hd
  rw [isMetricChar_iff]
  rcases List.mem_cons.mp hd with rfl | hd
  · rcases hfirst with hletter | rfl
    · exact Or.inl hletter
    · exact Or.inr (Or.inr List.mem_cons_self)
  · exact hothers d hd

namespace Spelling

theorem isMark (s : Spelling) : ∀ c ∈ s.text, isMark c = true := by
  rw [← List.all_eq_true]
  cases s <;> decide

theorem stops (s : Spelling) (rest : List Char) :
    Stops isMetricChar (s.text ++ rest) ∧ Stops isBlank (s.text ++ rest) := by
  cases s <;> exact ⟨.cons (by decide), .cons (by decide)⟩

theorem text_injective : Function.Injective text := by
  intro s s' h
  cases s <;> cases s' <;> cases h <;> rfl

end Spelling

namespace Sign

theorem isSign (s : Sign) : ∀ c ∈ s.text, isSign c = true := by
  rw [← List.all_eq_true]
  cases s <;> decide

theorem text_injective : Function.Injective text := by
  intro s s' h
  cases s <;> cases s' <;> cases h <;> rfl

end Sign

theorem Digits.stops {p : Char → Bool} {ds : List Char} (h : Digits ds) (hp : ∀ c, isDigit c = true → p c = false)
    (rest : List Char) : Stops p (ds ++ rest) := by
  obtain ⟨hne, hds⟩ := h
  cases ds with
  | nil => exact (hne rfl).elim
  | cons d ds => exact .cons (hp d (hds d List.mem_cons_self))

namespace Decimal

/-- A number begins with a sign or a digit. -/
theorem stops {p : Char → Bool} (x : Decimal) (hsign : ['+', '-'].any p = false)
    (hdigit : ∀ c, isDigit c = true → p c = false) : Stops p x.text :=
  .append x.sign.isSign (fun c hc => Bool.eq_false_iff.mpr (List.any_eq_false.mp hsign c (of_decide_eq_true hc)))
    (x.whole_digits.stops hdigit _)

theorem stops_isBlank (x : Decimal) : Stops isBlank x.text := x.stops (by decide) fun _ => isBlank_of_isDigit

theorem stops_isMark (x : Decimal) : Stops isMark x.text := x.stops (by decide) fun _ => isMark_of_isDigit

theorem fraction_stops (places : Option (List Char)) : Stops isDigit (fraction places) := by
  cases places with
  | none => exact .nil
  | some ps => exact .cons (by decide)

theorem fraction_injective : Function.Injective fraction := by
  intro places places' h
  cases places <;> cases places' <;> cases h <;> rfl

theorem eq_of_text_eq {x y : Decimal} (h : x.text = y.text) : x = y := by
  obtain ⟨hsign, hrest⟩ := append_inj_of_stops x.sign.isSign y.sign.isSign
    (x.whole_digits.stops (fun _ => isSign_of_isDigit) _) (y.whole_digits.stops (fun _ => isSign_of_isDigit) _) h
  obtain ⟨hwhole, hfraction⟩ := append_inj_of_stops x.whole_digits.2 y.whole_digits.2 (fraction_stops _)
    (fraction_stops _) hrest
  cases x
  cases y
  simp only [mk.injEq]
  exact ⟨Sign.text_injective hsign, hwhole, fraction_injective hfraction⟩

end Decimal

namespace Reading

/-- What stands in front of the comparison and belongs to no metric name. -/
theorem stops_isMetricChar (r : Reading) (rest : List Char) :
    Stops isMetricChar (r.before ++ (r.spelling.text ++ rest)) :=
  .append r.before_blank (fun _ => isMetricChar_of_isBlank) (r.spelling.stops rest).1

theorem stops_isMark (r : Reading) : Stops isMark (r.after ++ r.number.text) :=
  .append r.after_blank (fun _ => isMark_of_isBlank) r.number.stops_isMark

/-- **A line has one reading at most**: each part ends where the next begins. -/
theorem eq_of_text_eq {r r' : Reading} (h : r.text = r'.text) : r = r' := by
  obtain ⟨hmetric, h⟩ := append_inj_of_stops r.metric_name.isMetricChar r'.metric_name.isMetricChar
    (r.stops_isMetricChar _) (r'.stops_isMetricChar _) h
  obtain ⟨hbefore, h⟩ := append_inj_of_stops r.before_blank r'.before_blank (r.spelling.stops _).2
    (r'.spelling.stops _).2 h
  obtain ⟨hspelling, h⟩ := append_inj_of_stops r.spelling.isMark r'.spelling.isMark r.stops_isMark r'.stops_isMark h
  obtain ⟨hafter, h⟩ := append_inj_of_stops r.after_blank r'.after_blank r.number.stops_isBlank
    r'.number.stops_isBlank h
  cases r
  cases r'
  simp only [mk.injEq]
  exact ⟨hmetric, hbefore, Spelling.text_injective hspelling, hafter, Decimal.eq_of_text_eq h⟩

end Reading

end Laurels.Criteria
