/-
ScriptureText.Decimal.Radix — numbers written in a base of at most sixteen,
the digits above nine as letters in any case.
-/

namespace ScriptureText.Decimal

/-- The value of a digit up to `f`. -/
def radixDigit? (c : Char) : Option Nat :=
  if '0' ≤ c ∧ c ≤ '9' then some (c.toNat - '0'.toNat)
  else if 'a' ≤ c ∧ c ≤ 'f' then some (c.toNat - 'a'.toNat + 10)
  else if 'A' ≤ c ∧ c ≤ 'F' then some (c.toNat - 'A'.toNat + 10)
  else none

/-- Whether a character is a digit of a base. -/
def isRadixDigit (base : Nat) (c : Char) : Bool := (radixDigit? c).any (· < base)

/-- The number that a text of one or more digits writes in a base. -/
def radixValue? (base : Nat) (cs : List Char) : Option Nat :=
  if cs.isEmpty then none
  else cs.foldlM (fun n c => do
    let d ← radixDigit? c
    if d < base then some (n * base + d) else none) 0

end ScriptureText.Decimal
