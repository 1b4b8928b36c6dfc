/-
ScriptureText.Decimal.Power — powers of two and of ten, and the range of
integers of 64 bits.
-/

namespace ScriptureText.Decimal

/-- A power of two. -/
def twoTo (e : Nat) : Nat := Nat.pow 2 e

/-- A power of ten. -/
def tenTo (e : Nat) : Nat := Nat.pow 10 e

/-- Whether an integer with a sign has 64 bits at most. -/
def isInt64 (n : Int) : Bool := -(twoTo 63 : Int) ≤ n && n < (twoTo 63 : Int)

end ScriptureText.Decimal
