/-!
# Cutting text

Text is cut at single characters, and at a fixed opening. A cut keeps every piece, the empty ones
included: `a;;b` has three pieces, and the empty text has one.
-/

namespace Laurels.Text

/-- The pieces between the characters that `atCut` accepts, in order, empty ones included. -/
def pieces (atCut : Char → Bool) : List Char → List (List Char)
  | [] => [[]]
  | c :: cs =>
    if atCut c then [] :: pieces atCut cs
    else
      match pieces atCut cs with
      | [] => [[c]]
      | p :: ps => (c :: p) :: ps

/-- What follows `opening` in `cs`, if `cs` begins with it. -/
def after? : List Char → List Char → Option (List Char)
  | [], cs => some cs
  | _ :: _, [] => none
  | o :: os, c :: cs => if o = c then after? os cs else none

/-- The pieces of a text, as texts. -/
def piecesOf (atCut : Char → Bool) (s : String) : List String :=
  (pieces atCut s.toList).map String.ofList

end Laurels.Text
