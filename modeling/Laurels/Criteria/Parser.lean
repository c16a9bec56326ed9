import Laurels.Criteria.Clause
import Laurels.Number.Numeral
import Laurels.Text.LetterCase

/-!
# Criteria text

A criteria text holds clauses, one on each line or several on a line between semicolons:

    wins >= 1
    races >= 10; dnf <= 0
    # a comment, and // another one

Carriage returns are dropped, and a segment that is empty or begins with `#` or `//` is a comment. Every
other segment is a metric name, a comparison and a number, with blanks between them. A text is accepted
when it has at least one such segment and all of them are well formed; otherwise the first offending
segment decides the fault.
-/

namespace Laurels

/-- Why a criteria text is not accepted. -/
inductive CriteriaFault where
  /-- There is no text. -/
  | required
  /-- A segment is no clause. -/
  | badLine (line : String)
  /-- A number is too large for a binary64 value. -/
  | notFinite (raw : String)
  /-- There is nothing but comments. -/
  | noClauses
  /-- An integer has more digits than are read. -/
  | tooManyDigits (count : Nat)
deriving DecidableEq, Repr

namespace CriteriaFault

/-- The wording of a fault. -/
def message : CriteriaFault → String
  | .required => "Criteria is required."
  | .badLine line => "Invalid criteria line: \"" ++ line ++ "\". Expected format like wins>=1"
  | .notFinite raw => "Criteria value is not a number: " ++ raw
  | .noClauses => "Criteria contains no valid clauses."
  | .tooManyDigits count =>
    "Exceeds the limit (" ++ toString Numeral.maxDigits ++
      " digits) for integer string conversion: value has " ++ toString count ++
      " digits; use sys.set_int_max_str_digits() to increase the limit"

/-- Whether a fault is one of the rule's author, to be reported and passed over. -/
def isRejection : CriteriaFault → Bool
  | .tooManyDigits _ => false
  | _ => true

end CriteriaFault

namespace Criteria

open Laurels.Text

/-- The first character of a metric name. -/
def isMetricStart (c : Char) : Bool := c.isAlpha || c == '_'

/-- The other characters of a metric name. -/
def isMetricChar (c : Char) : Bool := c.isAlphanum || c == '_' || c == '.' || c == ':' || c == '-'

/-- Where a text is cut into segments. -/
def isSeparator (c : Char) : Bool := c == '\n' || c == ';'

/-- Whether a segment is empty or a comment. -/
def isComment : List Char → Bool
  | [] => true
  | '#' :: _ => true
  | '/' :: '/' :: _ => true
  | _ => false

/-- The segments of a text that must be clauses, trimmed. -/
def segments (cs : List Char) : List (List Char) :=
  ((pieces isSeparator ((trim cs).filter (· ≠ '\r'))).map trim).filter fun s => !isComment s

/-- A comparison at the front, and what follows it. One equals sign means the same as two. -/
def operator? : List Char → Option (Operator × List Char)
  | '>' :: '=' :: cs => some (.atLeast, cs)
  | '<' :: '=' :: cs => some (.atMost, cs)
  | '=' :: '=' :: cs => some (.equal, cs)
  | '!' :: '=' :: cs => some (.notEqual, cs)
  | '>' :: cs => some (.above, cs)
  | '<' :: cs => some (.below, cs)
  | '=' :: cs => some (.equal, cs)
  | _ => none

/-- A number as a clause writes it: a sign, digits, and the digits after a point if there is one. -/
structure Written where
  negative : Bool
  whole : List Nat
  places : Option (List Nat)
deriving DecidableEq, Repr

/-- The number that makes up a whole text. -/
def written? (cs : List Char) : Option Written :=
  let (negative, body) := Numeral.sign cs
  match Numeral.digitRun body with
  | ([], _) => none
  | (whole, []) => some ⟨negative, whole, none⟩
  | (whole, '.' :: rest) =>
    match Numeral.digitRun rest with
    | ([], _) => none
    | (places, []) => some ⟨negative, whole, some places⟩
    | _ => none
  | _ => none

/-- The binary64 value nearest to a number. -/
def Written.nearest (w : Written) : Binary64 :=
  let places := w.places.getD []
  .ofDecimal w.negative (valueOf (w.whole ++ places)) (-(places.length : Int))

/-- The threshold that a number stands for: an integer if it has no point. -/
def Written.threshold (w : Written) (raw : String) : Except CriteriaFault Number :=
  if !w.nearest.isFinite then .error (.notFinite raw)
  else
    match w.places with
    | some _ => .ok (.float w.nearest)
    | none =>
      if Numeral.maxDigits < w.whole.length then .error (.tooManyDigits w.whole.length)
      else .ok (.int (Binary64.signed w.negative (valueOf w.whole)))

/-- The three parts of a clause: metric name, comparison and number. -/
def parts? (line : List Char) : Option (List Char × Operator × List Char) :=
  let name := line.takeWhile isMetricChar
  match name with
  | [] => none
  | c :: _ =>
    if isMetricStart c then do
      let (op, rest) ← operator? (dropBlanks (line.dropWhile isMetricChar))
      pure (name, op, dropBlanks rest)
    else none

/-- Read one clause. -/
def parseClause (line : List Char) : Except CriteriaFault Clause :=
  match parts? line with
  | none => .error (.badLine (String.ofList line))
  | some (name, op, raw) =>
    match written? raw with
    | none => .error (.badLine (String.ofList line))
    | some w => do
      let threshold ← w.threshold (String.ofList raw)
      pure ⟨String.ofList (lower name), op, threshold⟩

/-- Read clauses in order, up to the first fault. -/
def parseClauses : List (List Char) → Except CriteriaFault (List Clause)
  | [] => .ok []
  | line :: rest => do
    let c ← parseClause line
    let cs ← parseClauses rest
    pure (c :: cs)

/-- Read a criteria text. -/
def parse (text : String) : Except CriteriaFault (List Clause) :=
  if trim text.toList = [] then .error .required
  else
    match parseClauses (segments text.toList) with
    | .error e => .error e
    | .ok [] => .error .noClauses
    | .ok cs => .ok cs

end Criteria

end Laurels
