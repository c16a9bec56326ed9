import Laurels.Text.Cut
import Laurels.Text.Percent

/-!
# Where a request goes

A client names what it wants by a reference: a scheme and an authority, which may both be left out, a path, a
query and a fragment. Only the path decides. Slashes at its front count as one, unless the reference is
complete; segments that are a single dot are dropped, and two dots take back the segment before them; then the
path is percent-decoded, so that an encoded dot or slash is not looked at.
-/

namespace Laurels.Web.Target

open Laurels.Text

/-- The most characters that a reference may have. -/
def maxLength : Nat := 65536

/-- Whether a character must not stand in a reference: the controls of ASCII. -/
def isControl (c : Char) : Bool := c.toNat < 0x20 || c.toNat == 0x7F

/-- Whether a character may stand in a scheme. -/
def isSchemeChar (c : Char) : Bool := c.isAlphanum || c == '+' || c == '.' || c == '-'

/-- A scheme, empty if there is none, and what follows it. -/
def scheme (cs : List Char) : List Char × List Char :=
  let name := cs.takeWhile isSchemeChar
  match cs.dropWhile isSchemeChar with
  | ':' :: rest => if (name.head?.all Char.isAlpha) = true then (name, rest) else ([], cs)
  | _ => ([], cs)

/-- An authority, empty if there is none, and what follows it. -/
def authority : List Char → List Char × List Char
  | '/' :: '/' :: cs => (cs.takeWhile (· ≠ '/'), cs.dropWhile (· ≠ '/'))
  | cs => ([], cs)

/-- Whether a path may stand without a scheme and an authority in front. -/
def standsAlone : List Char → Bool
  | '/' :: '/' :: _ => false
  | ':' :: _ => false
  | _ => true

/-- The segments of a path without the dots. What stands in front of the first slash is never taken back. -/
def withoutDots (segments : List (List Char)) : List (List Char) :=
  segments.foldl (fun kept s =>
    if s = ['.'] then kept
    else if s = ['.', '.'] then (if kept = [[]] then kept else kept.dropLast)
    else kept ++ [s]) []

/-- A path without dot segments. -/
def normalized (path : List Char) : List Char :=
  match ['/'].intercalate (withoutDots (pieces (· = '/') path)) with
  | [] => ['/']
  | cs => cs

/-- The path of a reference that has no query and no fragment, not decoded. -/
def rawPath? (reference : List Char) : Option (List Char) :=
  let (name, rest) := scheme reference
  let (host, path) := authority rest
  if name.isEmpty && host.isEmpty then
    if standsAlone path then some (normalized ('/' :: path.dropWhile (· = '/'))) else none
  else if name.isEmpty || host.isEmpty then
    some (normalized ('/' :: (normalized path).dropWhile (· = '/')))
  else some (normalized path)

/-- The decoded path that a reference leads to; `none` if it is no reference. -/
def path? (reference : String) : Option (List Char) :=
  let cs := reference.toList
  if maxLength < cs.length || cs.any isControl then none
  else
    (rawPath? (cs.takeWhile fun c => c ≠ '?' ∧ c ≠ '#')).map fun path =>
      (percentDecoded (String.ofList path)).toList

end Laurels.Web.Target
