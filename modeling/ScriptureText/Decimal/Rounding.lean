/-
ScriptureText.Decimal.Rounding — rounding of quotients, and of natural numbers
to a count of binary digits: to the nearer neighbour, and to the even one on a
tie. With 53 digits this is the rounding of binary floating-point numbers of 64
bits.
-/
import ScriptureText.Decimal.Power

namespace ScriptureText.Decimal

/-- The quotient rounded to nearest; a tie goes to the even quotient. -/
def roundQuotient (n d : Nat) : Nat :=
  let q := n / d
  let r := n % d
  if 2 * r > d || (2 * r == d && q % 2 == 1) then q + 1 else q

/-- Binary digits of a significand. -/
def significandBits : Nat := 53

/-- A number rounded to the digits of a significand. -/
def roundNat (n : Nat) : Nat :=
  let bits := n.log2 + 1
  if bits ≤ significandBits then n
  else roundQuotient n (twoTo (bits - significandBits)) * twoTo (bits - significandBits)

/-- The least number that rounds to no finite value. -/
def overflowBound : Nat := twoTo 1024 - twoTo 970

end ScriptureText.Decimal
