import Laurels.Sorting
import Laurels.Value

/-!
# Keys asked for

Whoever asks for counters lists the action keys that they want. Empty entries are dropped, each key counts
once, and the keys are put in order, so that the same keys are always asked for in the same way. Keys are
texts; a list of numbers is put in order as well, but a list of both has no order. Where values are listed by
key, a key that comes again brings a new value for the one that is there.
-/

namespace Laurels

/-- The texts worth asking for: not empty, without repetition and in order. -/
def wantedKeys (keys : List String) : List String :=
  sorted (fun a b => decide (a ≤ b)) ((keys.filter fun k => !k.isEmpty).eraseDups)

namespace Value

/-- Whether a value is a list or an object. -/
def isCompound : Value → Bool
  | .list _ => true
  | .object _ => true
  | _ => false

/-- Whether two values are the same key: equal texts, numbers of equal value, or nothing at all. -/
def sameKey (a b : Value) : Bool :=
  match a, b with
  | .null, .null => true
  | .text s, .text t => s == t
  | a, b =>
    match a.number?, b.number? with
    | some m, some n => m.same n
    | _, _ => false

/-- The numbers among keys, in order. -/
def numbersInOrder (keys : List (Value × Number)) : List Value :=
  (sorted (fun a b => a.2.le b.2) keys).map (·.1)

/-- The keys that a list names: not empty, without repetition and in order. -/
def keysIn (items : List Value) : Except ShapeFault (List Value) :=
  let named := items.filter fun k => !k.isEmpty
  if named.any isCompound then .error .noKey
  else
    let distinct := named.eraseDupsBy sameKey
    match distinct.mapM text? with
    | some texts => .ok ((wantedKeys texts).map .text)
    | none =>
      match distinct.mapM fun k => k.number?.map fun n => (k, n) with
      | some numbers => .ok (numbersInOrder numbers)
      | none => .error .unordered

/-- The keys that a value names. -/
def keys (v : Value) : Except ShapeFault (List Value) :=
  match v.elements? with
  | none => .error .noList
  | some items => keysIn items

end Value

/-- Put a value under a key: in place of the value under the same key, else at the end. -/
def putUnder {κ α : Type} (same : κ → κ → Bool) (key : κ) (value : α) : List (κ × α) → List (κ × α)
  | [] => [(key, value)]
  | (k, v) :: rest => if same k key then (k, value) :: rest else (k, v) :: putUnder same key value rest

/-- Pairs with different keys: each key as it came first and where it came first, with the value that came
last. -/
def byKey {κ α : Type} (same : κ → κ → Bool) (pairs : List (κ × α)) : List (κ × α) :=
  pairs.foldl (fun kept p => putUnder same p.1 p.2 kept) []

namespace Value

/-- A key and its value, as a pair. -/
def asPair (entry : Value) : Except ShapeFault (Value × Value) :=
  match entry.elements? with
  | none => .error .noList
  | some [key, value] => if key.isCompound then .error .noKey else .ok (key, value)
  | some _ => .error .noPair

/-- The object that pairs make up. The fields are named by the written forms of the keys, and different keys
can have the same one. -/
def ofPairs (pairs : List (Value × Value)) : Value :=
  .object (byKey (· == ·) ((byKey sameKey pairs).map fun p => (p.1.written, p.2)))

/-- A value as an object: it is one, or it lists pairs. -/
def asObject (v : Value) : Except ShapeFault Value :=
  match v with
  | .object fields => .ok (.object fields)
  | v =>
    match v.elements? with
    | none => .error .noList
    | some entries => ofPairs <$> entries.mapM asPair

end Value

end Laurels
