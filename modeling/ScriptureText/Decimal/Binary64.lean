/-
ScriptureText.Decimal.Binary64 — binary floating-point numbers of 64 bits, as
data: a finite number is an integer significand below 2^53 times a power of
two. A decimal numeral becomes the number nearest to it.
-/
import ScriptureText.Decimal.Scientific

namespace ScriptureText.Decimal

/-- A floating-point number; the finite ones are `± significand * 2 ^ exponent`. -/
inductive Binary64 where
  | finite (negative : Bool) (significand : Nat) (exponent : Int)
  | infinite (negative : Bool)
  | notANumber
  deriving DecidableEq, Repr

namespace Binary64

/-! ## §1 Rounding to nearest -/

/-- The least exponent of a finite number. -/
def minExponent : Int := -1074

/-- The greatest exponent of a finite number. -/
def maxExponent : Int := 971

/-- The zero of a sign. -/
def zero (negative : Bool) : Binary64 := .finite negative 0 minExponent

/-- The integer part of the binary logarithm of `n / d`, for positive `n` and `d`. -/
def ratioLog2 (n d : Nat) : Int :=
  let k : Int := (n.log2 : Int) - d.log2
  if n * twoTo (-k).toNat < d * twoTo k.toNat then k - 1 else k

/-- The number nearest to `± n / d`. -/
def ofRatio (negative : Bool) (n d : Nat) : Binary64 :=
  if n = 0 then zero negative
  else
    let e := max (ratioLog2 n d - (significandBits - 1)) minExponent
    let m := roundQuotient (n * twoTo (-e).toNat) (d * twoTo e.toNat)
    let (m, e) := if m = twoTo significandBits then (twoTo (significandBits - 1), e + 1) else (m, e)
    if maxExponent < e then .infinite negative else .finite negative m e

/-- The number nearest to `x * n / d`, for a finite `x`. -/
def scale (x : Binary64) (n d : Nat) : Binary64 :=
  match x with
  | .finite negative m e => ofRatio negative (m * n * twoTo e.toNat) (d * twoTo (-e).toNat)
  | x => x

/-- Whether a number is zero of either sign. -/
def isZero : Binary64 → Bool
  | .finite _ m _ => m == 0
  | _ => false

end Binary64

/-! ## §2 Numerals -/

/-- The number nearest to a decimal numeral. More than 310 places before the
point are beyond all finite numbers, and 330 zeros after it below them. -/
def Scientific.toBinary64 (s : Scientific) : Binary64 :=
  let places : Int := (Nat.toDigits 10 s.significand).length + s.exponent
  if s.significand = 0 || places < -330 then .zero s.negative
  else if 310 < places then .infinite s.negative
  else .ofRatio s.negative (s.significand * tenTo s.exponent.toNat) (tenTo (-s.exponent).toNat)

namespace Binary64

/-- Whether a text is a word, in any case. -/
def isWord (word : String) (cs : List Char) : Bool := cs.map Char.toLower == word.toList

/-- The number that a whole text writes: a decimal numeral, or `inf`, `infinity`
or `nan` in any case after a sign or none. -/
def ofChars? (cs : List Char) : Option Binary64 :=
  let (negative, rest) := takeSign cs
  if isWord "inf" rest || isWord "infinity" rest then some (.infinite negative)
  else if isWord "nan" rest then some .notANumber
  else (Scientific.ofChars? cs).map Scientific.toBinary64

end Binary64

end ScriptureText.Decimal
