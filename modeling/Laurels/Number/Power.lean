/-!
# Powers of two and of ten

Binary64 values are measured on scales of powers of two, and written on scales of powers of ten.
-/

namespace Laurels

/-- Two to the given power. -/
def twoTo (e : Nat) : Nat := Nat.pow 2 e

/-- Ten to the given power. -/
def tenTo (e : Nat) : Nat := Nat.pow 10 e

theorem twoTo_pos (e : Nat) : 0 < twoTo e := Nat.pow_pos Nat.zero_lt_two

theorem twoTo_add (a b : Nat) : twoTo (a + b) = twoTo a * twoTo b := Nat.pow_add 2 a b

theorem twoTo_succ (e : Nat) : twoTo (e + 1) = twoTo e * 2 := rfl

theorem twoTo_le_twoTo {a b : Nat} (h : a ≤ b) : twoTo a ≤ twoTo b :=
  Nat.pow_le_pow_right Nat.zero_lt_two h

theorem lt_twoTo_succ_log2 (n : Nat) : n < twoTo (n.log2 + 1) := Nat.lt_log2_self

end Laurels
