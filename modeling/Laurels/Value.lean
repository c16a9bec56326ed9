import Laurels.Number.Numeral
import Laurels.Number.Shortest
import Laurels.Text.Quoted

/-!
# Values handed in and out

A caller hands in a value of any kind: nothing, a flag, a number, a text, a list, or an object with
its fields in order. Answers of the web routes are values too. Where a text is wanted, an empty value
(nothing, false, zero, and an empty text, list or object) reads as the empty text, and any other value
as its written form.
-/

namespace Laurels

/-- A value of any kind. -/
inductive Value where
  | null
  | flag (b : Bool)
  | number (n : Number)
  | text (s : String)
  | list (xs : List Value)
  | object (fields : List (String × Value))

/-- Why a value has not the shape that is wanted. -/
inductive ShapeFault where
  /-- It has no elements. -/
  | noList
  /-- It has no fields. -/
  | noFields
  /-- It is a list or an object, and a key is wanted. -/
  | noKey
  /-- It is no object, or one with a field that is not known. -/
  | unknownField
  /-- It is an entry with more or fewer than two parts, and a pair is wanted. -/
  | noPair
  /-- It is one of two values that have no common order, such as a text and a number. -/
  | unordered
deriving DecidableEq, Repr

namespace Value

instance : Inhabited Value := ⟨.null⟩

/-- An integer as a value. -/
def int (n : Int) : Value := .number (.int n)

/-- Whether a value stands for nothing given. -/
def isEmpty : Value → Bool
  | .null => true
  | .flag b => !b
  | .number n => n.isZero
  | .text s => s.isEmpty
  | .list xs => xs.isEmpty
  | .object fields => fields.isEmpty

mutual

/-- The written form of a value inside another one: texts are in quotes. -/
def nested : Value → String
  | .null => "None"
  | .flag true => "True"
  | .flag false => "False"
  | .number n => n.text
  | .text s => Text.quoted s
  | .list xs => "[" ++ ", ".intercalate (nestedItems xs) ++ "]"
  | .object fields => "\x7b" ++ ", ".intercalate (nestedFields fields) ++ "\x7d"

/-- The written forms of the items of a list. -/
def nestedItems : List Value → List String
  | [] => []
  | x :: xs => nested x :: nestedItems xs

/-- The written forms of the fields of an object. -/
def nestedFields : List (String × Value) → List String
  | [] => []
  | (k, x) :: rest => (Text.quoted k ++ ": " ++ nested x) :: nestedFields rest

end

/-- The written form of a value: a text stands for itself. -/
def written : Value → String
  | .text s => s
  | v => v.nested

/-- The text that a value is read as where a text is wanted. -/
def asText (v : Value) : String := if v.isEmpty then "" else v.written

/-- The elements of a value that has elements: the items of a list, the characters of a text, the keys
of an object. -/
def elements? : Value → Option (List Value)
  | .list xs => some xs
  | .text s => some (s.toList.map fun c => .text (String.ofList [c]))
  | .object fields => some (fields.map fun f => .text f.1)
  | _ => none

/-- The elements of a value where a list is wanted but may be left out: an empty value has none. -/
def items? (v : Value) : Option (List Value) := if v.isEmpty then some [] else v.elements?

/-- The text that a value is. -/
def text? : Value → Option String
  | .text s => some s
  | _ => none

/-- The number that a value is, a flag being zero or one. -/
def number? : Value → Option Number
  | .flag b => some (if b then 1 else 0)
  | .number n => some n
  | _ => none

/-- The integer that a count is read as: a fraction is dropped, a text is read as a numeral, a set
flag is one, and an empty value zero. -/
def asCount (v : Value) : Except NumberFault Int :=
  if v.isEmpty then .ok 0
  else
    match v with
    | .flag _ => .ok 1
    | .number n => n.truncate
    | .text s => Numeral.readInt s
    | _ => .error .wrongKind

/-- The binary64 value that a value is read as. -/
def asBinary64 : Value → Except NumberFault Binary64
  | .flag b => .ok (if b then .one else .zero)
  | .number n => n.toBinary64
  | .text s =>
    match Numeral.readDecimal? s with
    | some x => .ok x
    | none => .error .unreadable
  | _ => .error .wrongKind

end Value

end Laurels
