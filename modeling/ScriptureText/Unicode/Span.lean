/-
ScriptureText.Unicode.Span — sets of characters given as ascending runs of
code points, the form in which the character properties of the Unicode
standard are tabulated in this library.
-/

namespace ScriptureText.Unicode

/-- The code points `lo`, `lo + step`, … up to `hi`. -/
structure Span where
  lo : Nat
  hi : Nat
  step : Nat
  deriving DecidableEq, Repr

/-- Membership of one code point in a run. -/
def Span.contains (s : Span) (n : Nat) : Bool :=
  s.lo ≤ n && n ≤ s.hi && (n - s.lo) % s.step == 0

/-- Membership in an ascending table; the search stops at the first run that
lies wholly above the code point. -/
def memSpans : List Span → Nat → Bool
  | [], _ => false
  | s :: rest, n => if n < s.lo then false else s.contains n || memSpans rest n

end ScriptureText.Unicode
