/-!
# Blank characters and trimming

Viewer ids, action keys, metric names and criteria lines are all compared after trimming: blank
characters at both ends are dropped, those inside are kept. A text that is blank throughout trims
to the empty text, which every caller treats as "not given". Numerals are trimmed too, but of white
space only: a separator control beside a numeral makes it unreadable.
-/

namespace Laurels.Text

/-- Closed ranges of the code points that Unicode counts as white space, ascending and apart. -/
def whiteSpaceRanges : List (Nat × Nat) :=
  [(0x09, 0x0D), (0x20, 0x20), (0x85, 0x85), (0xA0, 0xA0), (0x1680, 0x1680), (0x2000, 0x200A),
   (0x2028, 0x2029), (0x202F, 0x202F), (0x205F, 0x205F), (0x3000, 0x3000)]

/-- Whether a code point lies in one of the closed ranges. -/
def inRanges (ranges : List (Nat × Nat)) (n : Nat) : Bool :=
  ranges.any fun r => r.1 ≤ n && n ≤ r.2

/-- The white space of Unicode. -/
def isWhiteSpace (c : Char) : Bool := inRanges whiteSpaceRanges c.toNat

/-- Blank: the white space of Unicode, and the four separator controls U+001C to U+001F. -/
def isBlank (c : Char) : Bool := isWhiteSpace c || (0x1C ≤ c.toNat && c.toNat ≤ 0x1F)

/-- The characters without those at either end that `p` accepts. -/
def trimBy (p : Char → Bool) (cs : List Char) : List Char :=
  ((cs.dropWhile p).reverse.dropWhile p).reverse

/-- The characters without the blank ones at the front. -/
def dropBlanks (cs : List Char) : List Char := cs.dropWhile isBlank

/-- The characters without the blank ones at either end. -/
def trim (cs : List Char) : List Char := trimBy isBlank cs

/-- A text without the blank characters at either end. -/
def trimmed (s : String) : String := String.ofList (trim s.toList)

end Laurels.Text
