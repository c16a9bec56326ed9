import Laurels.Value
import Laurels.Text.Blank

/-!
# Viewer ids

Viewers are named by texts that are trimmed and compared exactly, letter case included. A list of
viewers is read as the ids in it, each once, in the order of first occurrence; a blank entry names
nobody.
-/

namespace Laurels.Viewer

/-- The ids that a list of texts names. -/
def distinct (texts : List String) : List String :=
  ((texts.map Text.trimmed).filter fun s => !s.isEmpty).eraseDups

/-- The text of one entry of a list of viewers. -/
def entryText : Value → String
  | .null => ""
  | v => v.written

/-- The ids that a value names; `none` if it is no list. -/
def ids? (viewers : Value) : Option (List String) :=
  viewers.items?.map fun items => distinct (items.map entryText)

/-- The id that a value names, empty if it names nobody. -/
def id (viewer : Value) : String := Text.trimmed viewer.asText

end Laurels.Viewer
