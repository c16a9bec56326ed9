/-!
# Percent-encoded text

In a request path, `%` and two hexadecimal digits stand for a byte, and the bytes are UTF-8. A `%`
without two such digits stands for itself. Each longest beginning of an ill-formed sequence of
bytes is read as one replacement character, so that decoding never fails.
-/

namespace Laurels.Text

/-- The value of a hexadecimal digit. -/
def hexDigit? (c : Char) : Option Nat :=
  if '0' ≤ c ∧ c ≤ '9' then some (c.toNat - 0x30)
  else if 'a' ≤ c ∧ c ≤ 'f' then some (c.toNat - 0x61 + 10)
  else if 'A' ≤ c ∧ c ≤ 'F' then some (c.toNat - 0x41 + 10)
  else none

/-- A piece of a percent-encoded text: a byte, or a character beyond ASCII that stands for itself. -/
inductive Octet where
  | byte (n : Nat)
  | plain (c : Char)

/-- The pieces of a percent-encoded text. -/
def octets : List Char → List Octet
  | [] => []
  | '%' :: a :: b :: rest =>
    match hexDigit? a, hexDigit? b with
    | some x, some y => .byte (16 * x + y) :: octets rest
    | _, _ => .byte 0x25 :: octets (a :: b :: rest)
  | c :: rest => (if c.toNat < 0x80 then .byte c.toNat else .plain c) :: octets rest

/-- A sequence of bytes that has begun a character: how many bytes are missing, the range in which
the next one must lie, and the bits read so far. -/
structure Pending where
  missing : Nat
  low : Nat
  high : Nat
  bits : Nat

/-- What the first byte of a character announces. -/
def Pending.ofLead? (b : Nat) : Option Pending :=
  if 0xC2 ≤ b ∧ b ≤ 0xDF then some ⟨1, 0x80, 0xBF, b - 0xC0⟩
  else if b = 0xE0 then some ⟨2, 0xA0, 0xBF, 0⟩
  else if b = 0xED then some ⟨2, 0x80, 0x9F, 0xD⟩
  else if 0xE1 ≤ b ∧ b ≤ 0xEF then some ⟨2, 0x80, 0xBF, b - 0xE0⟩
  else if b = 0xF0 then some ⟨3, 0x90, 0xBF, 0⟩
  else if 0xF1 ≤ b ∧ b ≤ 0xF3 then some ⟨3, 0x80, 0xBF, b - 0xF0⟩
  else if b = 0xF4 then some ⟨3, 0x80, 0x8F, 4⟩
  else none

/-- The character that stands for bytes that are no text. -/
def replacement : Char := Char.ofNat 0xFFFD

/-- A byte at the start of a character: the text it completes, and what it announces. -/
def startByte (b : Nat) : List Char × Option Pending :=
  if b < 0x80 then ([Char.ofNat b], none)
  else
    match Pending.ofLead? b with
    | some p => ([], some p)
    | none => ([replacement], none)

/-- The next byte: the text it completes, and the character it leaves unfinished. -/
def nextByte (pending : Option Pending) (b : Nat) : List Char × Option Pending :=
  match pending with
  | none => startByte b
  | some p =>
    if p.low ≤ b ∧ b ≤ p.high then
      let bits := 64 * p.bits + (b - 0x80)
      if p.missing = 1 then ([Char.ofNat bits], none)
      else ([], some ⟨p.missing - 1, 0x80, 0xBF, bits⟩)
    else
      let (out, after) := startByte b
      (replacement :: out, after)

/-- The text that octets stand for, after the bytes in `pending`. -/
def decodeFrom (pending : Option Pending) : List Octet → List Char
  | [] => if pending.isSome then [replacement] else []
  | .byte b :: rest =>
    let (out, after) := nextByte pending b
    out ++ decodeFrom after rest
  | .plain c :: rest =>
    (if pending.isSome then [replacement, c] else [c]) ++ decodeFrom none rest

/-- The text that a percent-encoded text stands for. -/
def percentDecoded (s : String) : String := String.ofList (decodeFrom none (octets s.toList))

end Laurels.Text
