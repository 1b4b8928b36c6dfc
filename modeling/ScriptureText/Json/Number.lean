/-
ScriptureText.Json.Number — numbers of JSON, as numerals and as values. A
numeral without fraction and exponent is an integer if it has 64 bits, with or
without a sign; every other numeral is a floating-point number. Of its digits
those count that stay below 2^64, and they are multiplied or divided by the
power of ten that is left, which is itself rounded; so the value may differ in
its last binary digit from the number that is nearest to the numeral. A numeral
that exceeds the finite range has no value.
-/
import ScriptureText.Decimal.Binary64
import ScriptureText.Json.Cause

namespace ScriptureText.Json

open Decimal

/-! ## §1 Values -/

/-- The value of a numeral. -/
inductive Number where
  | integer (n : Int)
  | float (x : Binary64)
  deriving DecidableEq, Repr

/-- A numeral: the digits of its whole part and of its fraction, and its
exponent, where it has them. -/
structure Numeral where
  negative : Bool
  whole : List Char
  fraction : List Char
  exponent : Option Int
  deriving DecidableEq, Repr

/-- The number that digits write after a number, for as long as it stays below
2^64, and how many digits are left then. -/
def accumulate : Nat → List Char → Nat × Nat
  | n, [] => (n, 0)
  | n, d :: ds =>
    let m := n * 10 + digitValue d
    if m < twoTo 64 then accumulate m ds else (n, ds.length + 1)

/-- The greatest power of ten that is finite. -/
def maxPower : Nat := 308

/-- A number divided by a power of ten, in steps of at most the greatest one. -/
def divideByTens (x : Binary64) (places : Nat) : Binary64 :=
  if x.isZero then x
  else if places ≤ maxPower then x.scale 1 (roundNat (tenTo places))
  else divideByTens (x.scale 1 (roundNat (tenTo maxPower))) (places - maxPower)
termination_by places
decreasing_by
  have : maxPower = 308 := rfl
  omega

/-- A number multiplied by a power of ten. -/
def shiftTens (x : Binary64) (places : Int) : Binary64 :=
  if x.isZero then x
  else if places < 0 then divideByTens x (-places).toNat
  else if places ≤ maxPower then x.scale (roundNat (tenTo places.toNat)) 1
  else .infinite false

namespace Numeral

/-- The digits that count, and the power of ten to multiply them with. -/
def parts (l : Numeral) : Nat × Int :=
  let (n, dropped) := accumulate 0 l.whole
  let (n, left) := accumulate n l.fraction
  (n, (dropped : Int) - ((l.fraction.length : Int) - (left : Int)) + l.exponent.getD 0)

/-- The value as a floating-point number. -/
def float? (l : Numeral) : Option Binary64 :=
  let (n, places) := l.parts
  match shiftTens (.ofRatio l.negative n 1) places with
  | .finite negative m e => some (.finite negative m e)
  | _ => none

/-- The value; a zero with a minus sign is a floating-point number. -/
def value? (l : Numeral) : Option Number :=
  let (n, dropped) := accumulate 0 l.whole
  if l.fraction.isEmpty ∧ l.exponent.isNone ∧ dropped = 0 then
    if !l.negative then some (.integer n)
    else if n ≠ 0 ∧ isInt64 (-(n : Int)) then some (.integer (-(n : Int)))
    else l.float?.map .float
  else l.float?.map .float

end Numeral

/-! ## §2 Reading -/

/-- The exponent at the start of a text, if there is one, and what follows it. -/
def takeExponent (cs : List Char) : Except Cause (Option Int × List Char) :=
  match cs with
  | e :: rest =>
    if e = 'e' ∨ e = 'E' then
      let (negative, rest) := takeSign rest
      match takeDigits rest with
      | ([], rest) => .error (.ofRest rest)
      | (ds, rest) =>
        let n : Int := digitsValue ds
        .ok (some (if negative then -n else n), rest)
    else .ok (none, cs)
  | [] => .ok (none, [])

/-- The digits of the fraction at the start of a text, if there is one, and what
follows them. -/
def takeFraction (cs : List Char) : Except Cause (List Char × List Char) :=
  match cs with
  | '.' :: rest =>
    match takeDigits rest with
    | ([], rest) => .error (.ofRest rest)
    | (ds, rest) => .ok (ds, rest)
  | cs => .ok ([], cs)

/-- The numeral at the start of a text after its sign, and what follows it: a
zero stands alone in the whole part. -/
def takeNumeral (negative : Bool) (cs : List Char) : Except Cause (Numeral × List Char) :=
  match takeDigits cs with
  | ([], rest) => .error (.ofRest rest)
  | ('0' :: _ :: _, _) => .error .malformed
  | (whole, rest) => do
    let (fraction, rest) ← takeFraction rest
    let (exponent, rest) ← takeExponent rest
    return (⟨negative, whole, fraction, exponent⟩, rest)

/-- The value of a numeral that makes up a whole text. -/
def Number.ofText? (text : String) : Option Number :=
  let read := match text.toList with
    | '-' :: cs => takeNumeral true cs
    | cs => takeNumeral false cs
  match read with
  | .ok (l, []) => l.value?
  | _ => none

end ScriptureText.Json
