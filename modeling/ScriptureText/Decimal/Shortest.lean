/-
ScriptureText.Decimal.Shortest — the text of a floating-point number: the
fewest digits that are nearer to it than to every other number, without an
exponent, and with at least one digit after the point.
-/
import ScriptureText.Decimal.Binary64

namespace ScriptureText.Decimal

namespace Binary64

/-! ## §1 Digits

A positive number `m * 2 ^ q` is nearest to all reals between two bounds, which
are integers in units of `2 ^ (q - 2)`. They belong to it when `m` is even. -/

/-- The lower bound. Below a power of two the next number is half as far away. -/
def lowerBound (m : Nat) (q : Int) : Nat :=
  if m = twoTo (significandBits - 1) ∧ minExponent < q then 4 * m - 1 else 4 * m - 2

/-- The upper bound. -/
def upperBound (m : Nat) : Nat := 4 * m + 2

/-- A unit of the bounds of numbers with exponent `q`, and a step of the grid of
multiples of `10 ^ e`, brought to one denominator. -/
def measures (q e : Int) : Nat × Nat :=
  (twoTo (q - 2).toNat * tenTo (-e).toNat, tenTo e.toNat * twoTo (2 - q).toNat)

/-- Whether `d * 10 ^ e` lies within the bounds of `m * 2 ^ q`. -/
def isNearest (m : Nat) (q : Int) (d : Nat) (e : Int) : Bool :=
  let (unit, step) := measures q e
  let low := lowerBound m q * unit
  let high := upperBound m * unit
  if m % 2 = 0 then low ≤ d * step && d * step ≤ high else low < d * step && d * step < high

/-- The multiple of `10 ^ e` within the bounds of `m * 2 ^ q` that is nearest to
it, the greater of two. -/
def onGrid? (m : Nat) (q e : Int) : Option Nat :=
  let (unit, step) := measures q e
  let below := 4 * m * unit / step
  match isNearest m q below e, isNearest m q (below + 1) e with
  | true, true => some (if 8 * m * unit < (2 * below + 1) * step then below else below + 1)
  | true, false => some below
  | false, true => some (below + 1)
  | false, false => none

/-- The digits on the first of so many ever finer grids that has any, or else
all digits of the number. -/
def digitsFrom (m : Nat) (q : Int) : Nat → Int → Nat × Int
  | 0, _ => if 0 ≤ q then (m * twoTo q.toNat, 0) else (m * Nat.pow 5 (-q).toNat, q)
  | grids + 1, e =>
    match onGrid? m q e with
    | some d => (d, e)
    | none => digitsFrom m q grids (e - 1)

/-- The shortest digits of `m * 2 ^ q`, and the power of ten they count. The
first grid is coarser than the number, as 0.30103 exceeds the logarithm of two. -/
def shortestDigits (m : Nat) (q : Int) : Nat × Int :=
  digitsFrom m q 24 (((m.log2 + 1 : Nat) + q) * 30103 / 100000 + 2)

/-! ## §2 Texts -/

/-- The number `d * 10 ^ e` with a point. -/
def positional (d : Nat) (e : Int) : List Char :=
  let ds := Nat.toDigits 10 d
  let after := (-e).toNat
  if 0 ≤ e then ds ++ List.replicate e.toNat '0' ++ ['.', '0']
  else if after < ds.length then
    ds.take (ds.length - after) ++ ['.'] ++ ds.drop (ds.length - after)
  else ['0', '.'] ++ List.replicate (after - ds.length) '0' ++ ds

/-- The text of a number without its sign. -/
def magnitude : Binary64 → String
  | .finite _ 0 _ => "0.0"
  | .finite _ m q =>
    let (d, e) := shortestDigits m q
    String.ofList (positional d e)
  | .infinite _ => "inf"
  | .notANumber => "NaN"

/-- Whether a number has a minus sign. -/
def isNegative : Binary64 → Bool
  | .finite negative _ _ => negative
  | .infinite negative => negative
  | .notANumber => false

/-- The text of a number. -/
def text (x : Binary64) : String := (if x.isNegative then "-" else "") ++ x.magnitude

end Binary64

end ScriptureText.Decimal
