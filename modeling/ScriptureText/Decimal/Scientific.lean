/-
ScriptureText.Decimal.Scientific — decimal numerals with a sign, a point and an
exponent, read as an integer times a power of ten.
-/
import ScriptureText.Decimal.Rounding

namespace ScriptureText.Decimal

/-! ## §1 Digits -/

/-- The value of a decimal digit. -/
def digitValue (c : Char) : Nat := c.toNat - '0'.toNat

/-- The number that decimal digits write. -/
def digitsValue (ds : List Char) : Nat := ds.foldl (fun n d => n * 10 + digitValue d) 0

/-- The decimal digits at the start of a text, and what follows them. -/
def takeDigits (cs : List Char) : List Char × List Char := cs.span Char.isDigit

/-- Whether a text is one or more decimal digits. -/
def isDigits (cs : List Char) : Bool := !cs.isEmpty && cs.all Char.isDigit

/-! ## §2 Numerals -/

/-- The number `± significand * 10 ^ exponent`. -/
structure Scientific where
  negative : Bool
  significand : Nat
  exponent : Int
  deriving DecidableEq, Repr

/-- A sign, if there is one, and what follows it. -/
def takeSign : List Char → Bool × List Char
  | '-' :: rest => (true, rest)
  | '+' :: rest => (false, rest)
  | cs => (false, cs)

/-- An exponent part that makes up a whole text; no text is exponent 0. -/
def exponentOf? : List Char → Option Int
  | [] => some 0
  | e :: rest =>
    if e = 'e' ∨ e = 'E' then
      let (negative, ds) := takeSign rest
      if isDigits ds then some (if negative then -(digitsValue ds : Int) else digitsValue ds)
      else none
    else none

namespace Scientific

/-- The number that a whole text writes: digits with at most one point, at
least one digit, and an exponent part or none. -/
def ofChars? (cs : List Char) : Option Scientific :=
  let (negative, cs) := takeSign cs
  let (whole, cs) := takeDigits cs
  let (fraction, cs) :=
    match cs with
    | '.' :: rest => takeDigits rest
    | _ => ([], cs)
  if whole.isEmpty && fraction.isEmpty then none
  else do
    let e ← exponentOf? cs
    return ⟨negative, digitsValue (whole ++ fraction), e - fraction.length⟩

/-- Whether the magnitude stays below the least that rounds to no finite value.
Numbers of more than 310 places, and of fewer than 300, need no computation. -/
def isFinite (s : Scientific) : Bool :=
  let places : Int := (Nat.toDigits 10 s.significand).length + s.exponent
  if s.significand = 0 || places < 300 then true
  else if 310 < places then false
  else if 0 ≤ s.exponent then s.significand * tenTo s.exponent.toNat < overflowBound
  else s.significand < overflowBound * tenTo (-s.exponent).toNat

end Scientific

end ScriptureText.Decimal
