import Laurels.Text.Cut
import Laurels.Text.LetterCase

/-!
# Metrics

A rule measures a viewer by named metrics: one of four counts taken from race results, or the counter
of an action that the viewer performs on the site. Names are forgiving. They are trimmed and
lower-cased, an action may be written with a colon, a dot or an underscore, and some race counts and
actions have further spellings. What a name resolves to is its canonical form; a name that resolves to
neither a race count nor an action is kept, and measures nothing.
-/

namespace Laurels

/-- A count taken from a viewer's race results. -/
inductive RaceCount where
  | races
  | finished
  | wins
  | dnf
deriving DecidableEq, Repr

namespace RaceCount

/-- The name of a race count. -/
def name : RaceCount → String
  | .races => "races"
  | .finished => "finished"
  | .wins => "wins"
  | .dnf => "dnf"

/-- The race count with a given name. -/
def ofName? (s : String) : Option RaceCount :=
  [races, finished, wins, dnf].find? fun r => r.name == s

end RaceCount

/-- What a metric name resolves to. -/
inductive Metric where
  /-- The counter of an action. -/
  | action (key : String)
  /-- A count from race results. -/
  | race (count : RaceCount)
  /-- A name that measures nothing. -/
  | unknown (name : String)
deriving DecidableEq, Repr

namespace Metric

open Laurels.Text

/-- The opening of a canonical action name. -/
def actionOpening : List Char := "action:".toList

/-- The other openings of an action name. -/
def actionSpellings : List (List Char) := ["action.".toList, "action_".toList]

/-- Further spellings, with the names that they stand for. -/
def spellings : List (String × String) :=
  [("win", "wins"), ("wins", "wins"),
   ("race", "races"), ("races", "races"), ("competitions", "races"),
   ("finish", "finished"), ("finishes", "finished"), ("finished", "finished"),
   ("dnf", "dnf"), ("dnfs", "dnf"),
   ("defaultvehicleset", "action:default_vehicle_set"),
   ("defaultvehiclesets", "action:default_vehicle_set"),
   ("website_default_vehicle_set", "action:default_vehicle_set"),
   ("webdefaultvehiclesets", "action:default_vehicle_set")]

/-- The canonical form of a name that is trimmed and in lower case. -/
def canonicalChars (cs : List Char) : List Char :=
  match after? actionOpening cs with
  | some _ => cs
  | none =>
    match actionSpellings.findSome? fun opening => after? opening cs with
    | some key => actionOpening ++ key
    | none => ((spellings.lookup (String.ofList cs)).getD (String.ofList cs)).toList

/-- The canonical form of a name. -/
def normalize (name : String) : String :=
  String.ofList (canonicalChars (lower (trim name.toList)))

/-- What a name resolves to. -/
def resolve (name : String) : Metric :=
  match after? actionOpening (normalize name).toList with
  | some key => .action (String.ofList key)
  | none =>
    match RaceCount.ofName? (normalize name) with
    | some count => .race count
    | none => .unknown (normalize name)

/-- The name that a metric goes by, without the opening of an action. -/
def name : Metric → String
  | .action key => key
  | .race count => count.name
  | .unknown name => name

/-- The canonical name of a metric. -/
def canonical : Metric → String
  | .action key => String.ofList actionOpening ++ key
  | .race count => count.name
  | .unknown name => name

/-- Whether a metric is the counter of an action. -/
def isAction : Metric → Bool
  | .action _ => true
  | _ => false

/-- Whether a metric measures something. -/
def isKnown : Metric → Bool
  | .unknown _ => false
  | _ => true

/-- Labels of actions that are not read off their key. -/
def actionLabels : List (String × String) :=
  [("default_vehicle_set", "Default vehicle sets"),
   ("default_vehicle_set_ground", "Default ground vehicle set"),
   ("default_vehicle_set_resort", "Default resort vehicle set"),
   ("default_vehicle_set_space", "Default space vehicle set")]

/-- Labels of the race counts. -/
def raceLabels : List (String × String) :=
  [("wins", "Wins"), ("races", "Races"), ("finished", "Finished"), ("dnf", "DNF")]

/-- A label read off an action key: the words between hyphens and underscores, each with its first
character in upper case. -/
def keyLabel (key : List Char) : String :=
  let words := (pieces (fun c => c = '-' ∨ c = '_') key).filter (· ≠ [])
  " ".intercalate (words.map fun w => String.ofList (capitalize w))

/-- The label under which a canonical name is shown. -/
def label (canonical : String) : String :=
  let cs := trim canonical.toList
  match after? actionOpening cs with
  | some key => (actionLabels.lookup (String.ofList key)).getD (keyLabel key)
  | none => (raceLabels.lookup (String.ofList cs)).getD (String.ofList cs)

end Metric

end Laurels
