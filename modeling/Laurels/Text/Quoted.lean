import Laurels.Text.Blank
import Laurels.Text.Unprintable

/-!
# Quoted text

Names and keys appear in log lines in quotes, so that blanks at their ends and line breaks can be
seen. The quote is a single one, unless the text holds single quotes and no double ones. A
backslash and the chosen quote are escaped, as are line feed, carriage return and tab by their
letters; every other unprintable character is written by its number in two, four or eight
hexadecimal digits.
-/

namespace Laurels.Text

/-- The single quote. -/
def singleQuote : Char := Char.ofNat 0x27

/-- The double quote. -/
def doubleQuote : Char := Char.ofNat 0x22

/-- Whether a character is written by its number. -/
def isUnprintable (c : Char) : Bool :=
  c.toNat < 0x20 || c.toNat == 0x7F || inRanges unprintableRanges c.toNat

/-- `n` in hexadecimal, padded with zeros on the left to at least `width` digits. -/
def hex (width n : Nat) : List Char :=
  let digits := Nat.toDigits 16 n
  List.replicate (width - digits.length) '0' ++ digits

/-- A character by its number. -/
def numbered (c : Char) : List Char :=
  if c.toNat < 0x100 then ['\\', 'x'] ++ hex 2 c.toNat
  else if c.toNat < 0x10000 then ['\\', 'u'] ++ hex 4 c.toNat
  else ['\\', 'U'] ++ hex 8 c.toNat

/-- One character inside quotes of the given kind. -/
def escaped (quote c : Char) : List Char :=
  if c = quote ∨ c = '\\' then ['\\', c]
  else if c = '\n' then ['\\', 'n']
  else if c = '\r' then ['\\', 'r']
  else if c = '\t' then ['\\', 't']
  else if isUnprintable c then numbered c
  else [c]

/-- A text in quotes. -/
def quoted (s : String) : String :=
  let cs := s.toList
  let quote := if cs.contains singleQuote && !cs.contains doubleQuote then doubleQuote else singleQuote
  String.ofList (quote :: cs.flatMap (escaped quote) ++ [quote])

/-- A list of texts, each in quotes, between square brackets. -/
def quotedList (xs : List String) : String :=
  "[" ++ ", ".intercalate (xs.map quoted) ++ "]"

end Laurels.Text
