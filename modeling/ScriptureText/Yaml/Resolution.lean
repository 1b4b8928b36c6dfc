/-
ScriptureText.Yaml.Resolution — plain text that YAML reads as something other
than text: as null, as a truth value, as an integer, as a floating-point number,
or as digits after a leading zero, which some readers take for a number.
-/
import ScriptureText.Decimal.Radix
import ScriptureText.Decimal.Scientific

namespace ScriptureText.Yaml

open Decimal

/-! ## §1 Words -/

/-- Text that reads as null. -/
def readsAsNull (s : String) : Bool := ["", "~", "null", "Null", "NULL"].contains s

/-- Text that reads as a truth value. -/
def readsAsBool (s : String) : Bool :=
  ["true", "True", "TRUE", "false", "False", "FALSE"].contains s

/-! ## §2 Numbers -/

/-- A text without one character at its start. -/
def dropSign (sign : Char) : List Char → List Char
  | [] => []
  | c :: rest => if c = sign then rest else c :: rest

/-- A text without one sign at its start. -/
def dropAnySign (cs : List Char) : List Char := (takeSign cs).2

/-- Whether a text starts with a sign. -/
def startsWithSign (cs : List Char) : Bool := cs.head?.any fun c => c == '+' || c == '-'

/-- Two or more digits, the first a zero, after a sign or none. -/
def leadingZero (cs : List Char) : Bool :=
  match dropAnySign cs with
  | '0' :: d :: ds => (d :: ds).all Char.isDigit
  | _ => false

/-- A number of at most `bound` after the letter that names its base. -/
def basedWithin (bound : Nat) : List Char → Bool
  | '0' :: 'x' :: rest => (radixValue? 16 rest).any (· ≤ bound)
  | '0' :: 'o' :: rest => (radixValue? 8 rest).any (· ≤ bound)
  | '0' :: 'b' :: rest => (radixValue? 2 rest).any (· ≤ bound)
  | _ => false

/-- Text that reads as an integer of 128 bits: decimal without a leading zero,
or in base 16, 8 or 2. -/
def readsAsInteger (cs : List Char) : Bool :=
  match cs with
  | '-' :: rest =>
    basedWithin (twoTo 127) rest ||
      (!leadingZero cs && (radixValue? 10 rest).any (· ≤ twoTo 127))
  | _ =>
    let rest := dropSign '+' cs
    basedWithin (twoTo 128 - 1) rest ||
      (!leadingZero cs && (radixValue? 10 rest).any (· < twoTo 128))

/-- Text that reads as infinity or as no number. -/
def readsAsSpecialFloat (cs : List Char) : Bool :=
  [".inf", ".Inf", ".INF"].contains (String.ofList (dropSign '+' cs)) ||
    ["-.inf", "-.Inf", "-.INF", ".nan", ".NaN", ".NAN"].contains (String.ofList cs)

/-- Text that reads as a floating-point number. -/
def readsAsFloat (cs : List Char) : Bool :=
  let rest := dropSign '+' cs
  !(cs.head? == some '+' && startsWithSign rest) &&
    (readsAsSpecialFloat cs || (Scientific.ofChars? rest).any (·.isFinite))

/-- Text that does not read as itself when it is written plain. -/
def readsAsOther (s : String) : Bool :=
  readsAsNull s || readsAsBool s || readsAsInteger s.toList || leadingZero s.toList ||
    readsAsFloat s.toList

end ScriptureText.Yaml
