import Laurels.Number.Basic
import Laurels.Text.Blank
import Laurels.Text.Cut
import Laurels.Text.Digit

/-!
# Numerals: numbers read from text

Two grammars, both without the white space at either end and both over the decimal digits of every script. An integer
numeral is an optional sign and digits, single underscores being allowed between digits; it has at
most 4300 digits. A decimal numeral may have a fraction and an exponent, and reads as the nearest
binary64 value; the words for infinity and for "not a number" are read in any letter case.
-/

namespace Laurels.Numeral

open Laurels.Text

/-- The most digits that an integer numeral may have, leading zeros counted. -/
def maxDigits : Nat := 4300

/-- A leading sign: whether it is a minus, and what follows it. -/
def sign : List Char → Bool × List Char
  | '-' :: cs => (true, cs)
  | '+' :: cs => (false, cs)
  | cs => (false, cs)

/-- The longest run of digits at the front, and what follows it. -/
def digitRun (cs : List Char) : List Nat × List Char :=
  ((cs.takeWhile isDigit).filterMap digit?, cs.dropWhile isDigit)

/-- The longest run of digits at the front, where a single underscore may stand between two digits.
`joined` says that a digit stands directly before. -/
def groupedRun (joined : Bool) : List Char → List Nat × List Char
  | [] => ([], [])
  | c :: cs =>
    match digit? c with
    | some d =>
      let r := groupedRun true cs
      (d :: r.1, r.2)
    | none =>
      if c = '_' ∧ joined = true ∧ (cs.head?.any isDigit) = true then groupedRun false cs
      else ([], c :: cs)

/-- Read an integer numeral. -/
def readInt (s : String) : Except NumberFault Int :=
  let (negative, body) := sign (trimBy isWhiteSpace s.toList)
  match groupedRun false body with
  | (ds, []) =>
    if ds = [] ∨ maxDigits < ds.length then .error .unreadable
    else .ok (Binary64.signed negative (valueOf ds))
  | _ => .error .unreadable

/-- An exponent part, if there is one: its value, and what follows it. -/
def exponent? : List Char → Option (Int × List Char)
  | c :: cs =>
    if c = 'e' ∨ c = 'E' then
      let (negative, body) := sign cs
      match groupedRun false body with
      | ([], _) => none
      | (ds, rest) => some (Binary64.signed negative (valueOf ds), rest)
    else some (0, c :: cs)
  | [] => some (0, [])

/-- A fraction part, if there is one: its digits, and what follows it. -/
def fraction : List Char → List Nat × List Char
  | '.' :: cs => groupedRun false cs
  | cs => ([], cs)

/-- The words that stand for a value without digits. -/
def word? (negative : Bool) (cs : List Char) : Option Binary64 :=
  let w := String.ofList (cs.map fun c => if 'A' ≤ c ∧ c ≤ 'Z' then Char.ofNat (c.toNat + 32) else c)
  if w = "inf" ∨ w = "infinity" then some (.infinite negative)
  else if w = "nan" then some .nan
  else none

/-- Read a decimal numeral. -/
def readDecimal? (s : String) : Option Binary64 :=
  let (negative, body) := sign (trimBy isWhiteSpace s.toList)
  match word? negative body with
  | some x => some x
  | none =>
    let (whole, afterWhole) := groupedRun false body
    let (places, afterPlaces) := fraction afterWhole
    if whole = [] ∧ places = [] then none
    else
      match exponent? afterPlaces with
      | some (e, []) => some (.ofDecimal negative (valueOf (whole ++ places)) (e - places.length))
      | _ => none

end Laurels.Numeral
