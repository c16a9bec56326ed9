import Laurels.Text.Blank
import Laurels.Text.CaseTable

/-!
# Letter case

Metric names are compared in lower case, labels begin their words with an upper-case letter, and
the log level is read in upper case. On ASCII letters both mappings move a letter by 32; beyond
ASCII they follow the tables. Two mappings are not character by character: some characters have an
upper-case image of several characters, and a capital sigma becomes a final sigma at the end of a
word.
-/

namespace Laurels.Text

/-- The image of a code point under the rows of a case table, if a row covers it. -/
def imageIn? (rows : List (Nat × Nat × Nat × Nat)) (n : Nat) : Option Nat :=
  rows.findSome? fun (first, last, step, image) =>
    if first ≤ n && n ≤ last && (n - first) % step == 0 then some (image + (n - first)) else none

/-- Lower case of one character, wherever it stands. -/
def lowerChar (c : Char) : List Char :=
  if c.toNat < 0x80 then
    [if 'A' ≤ c ∧ c ≤ 'Z' then Char.ofNat (c.toNat + 32) else c]
  else if c.toNat = 0x130 then
    ['i', Char.ofNat 0x307]
  else
    [((imageIn? lowerRows c.toNat).map Char.ofNat).getD c]

/-- Upper case of one character. -/
def upperChar (c : Char) : List Char :=
  if c.toNat < 0x80 then
    [if 'a' ≤ c ∧ c ≤ 'z' then Char.ofNat (c.toNat - 32) else c]
  else
    match upperSequences.lookup c.toNat with
    | some image => image.map Char.ofNat
    | none => [((imageIn? upperRows c.toNat).map Char.ofNat).getD c]

/-- Whether the first character that a word test does not pass over has letter case. -/
def meetsCased (cs : List Char) : Bool :=
  match cs.dropWhile fun c => inRanges caseIgnorableRanges c.toNat with
  | [] => false
  | c :: _ => inRanges casedRanges c.toNat

/-- Lower case of `cs`, where `before` holds the characters in front of it, nearest first. A
capital sigma is final when a cased letter stands before it in its word and none after. -/
def lowerAfter (before : List Char) : List Char → List Char
  | [] => []
  | c :: rest =>
    let image :=
      if c.toNat = 0x3A3 then
        [Char.ofNat (if meetsCased before && !meetsCased rest then 0x3C2 else 0x3C3)]
      else lowerChar c
    image ++ lowerAfter (c :: before) rest

/-- The characters in lower case. -/
def lower (cs : List Char) : List Char := lowerAfter [] cs

/-- The characters in upper case. -/
def upper (cs : List Char) : List Char := cs.flatMap upperChar

/-- The characters with the first one in upper case and the others as they are. -/
def capitalize : List Char → List Char
  | [] => []
  | c :: cs => upperChar c ++ cs

end Laurels.Text
