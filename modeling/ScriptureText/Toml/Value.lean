/-
ScriptureText.Toml.Value — the values of TOML, and those of them that are
written as one word: truth values, integers of 64 bits, floating-point numbers,
dates and times.
-/
import ScriptureText.Decimal.Binary64
import ScriptureText.Decimal.Radix
import ScriptureText.Toml.Datetime

namespace ScriptureText.Toml

open Decimal

/-- A value; the entries of a table are in the order of the document. -/
inductive Value where
  | string (s : String)
  | integer (n : Int)
  | float (x : Binary64)
  | boolean (b : Bool)
  | datetime (d : Datetime)
  | array (items : List Value)
  | table (entries : List (String × Value))

/-! ## §1 Digits -/

/-- One or more digits without the underscores between them. -/
def ungroup? (isDigit : Char → Bool) : List Char → Option (List Char)
  | [] => none
  | [c] => if isDigit c then some [c] else none
  | c :: '_' :: rest => if isDigit c then (ungroup? isDigit rest).map (c :: ·) else none
  | c :: rest => if isDigit c then (ungroup? isDigit rest).map (c :: ·) else none

/-- Decimal digits, which start with a zero only if it is all there is. -/
def wholeDigits? (cs : List Char) : Option (List Char) := do
  let ds ← ungroup? Char.isDigit cs
  if ds.head? = some '0' ∧ ds.length ≠ 1 then none else some ds

/-! ## §2 Integers -/

/-- An integer if it has 64 bits. -/
def bounded? (n : Int) : Option Int := if isInt64 n then some n else none

/-- An integer in a base, without a sign. -/
def based? (base : Nat) (cs : List Char) : Option Int := do
  let ds ← ungroup? (isRadixDigit base) cs
  bounded? (← radixValue? base ds)

/-- An integer that makes up a whole text. -/
def integer? : List Char → Option Int
  | '0' :: 'x' :: cs => based? 16 cs
  | '0' :: 'o' :: cs => based? 8 cs
  | '0' :: 'b' :: cs => based? 2 cs
  | cs => do
    let (negative, cs) := takeSign cs
    let n : Int := digitsValue (← wholeDigits? cs)
    bounded? (if negative then -n else n)

/-! ## §3 Floating-point numbers -/

/-- A character of grouped digits. -/
def isGrouped (c : Char) : Bool := c.isDigit || c = '_'

/-- A fraction after its point, if there is one. -/
def fractionPart? : List Char → Option (List Char × List Char)
  | '.' :: rest => do
    let (ds, rest) := rest.span isGrouped
    return (← ungroup? Char.isDigit ds, rest)
  | cs => some ([], cs)

/-- An exponent that makes up a whole text, if there is one. -/
def exponentPart? : List Char → Option Int
  | [] => some 0
  | e :: rest =>
    if e = 'e' ∨ e = 'E' then do
      let (negative, cs) := takeSign rest
      let n : Int := digitsValue (← ungroup? Char.isDigit cs)
      return if negative then -n else n
    else none

/-- A numeral that makes up a whole text, with a fraction, an exponent or both. -/
def numeral? (cs : List Char) : Option Scientific := do
  let (negative, cs) := takeSign cs
  let (ds, rest) := cs.span isGrouped
  let whole ← wholeDigits? ds
  if rest.isEmpty then none
  let (fraction, rest) ← fractionPart? rest
  let e ← exponentPart? rest
  return ⟨negative, digitsValue (whole ++ fraction), e - fraction.length⟩

/-- A floating-point number that makes up a whole text. A numeral may round to
negative infinity, but not to positive infinity. -/
def float? (cs : List Char) : Option Binary64 :=
  let (negative, word) := takeSign cs
  if word = ['i', 'n', 'f'] then some (.infinite negative)
  else if word = ['n', 'a', 'n'] then some .notANumber
  else do
    let x := (← numeral? cs).toBinary64
    if x = .infinite false then none else some x

/-! ## §4 Words -/

/-- A character of a word. -/
def isWordChar (c : Char) : Bool := c.isAlphanum || ['+', '-', '_', '.', ':'].contains c

/-- The value of a word. -/
def Value.ofWord? (cs : List Char) : Option Value :=
  if cs = ['t', 'r', 'u', 'e'] then some (.boolean true)
  else if cs = ['f', 'a', 'l', 's', 'e'] then some (.boolean false)
  else
    match integer? cs, float? cs with
    | some n, _ => some (.integer n)
    | none, some x => some (.float x)
    | none, none => (Datetime.ofChars? cs).map .datetime

/-- The word at the start of a text, and what follows it. A time after a date
and a space belongs to the word. -/
def takeWord (cs : List Char) : List Char × List Char :=
  let (word, rest) := cs.span isWordChar
  match rest with
  | ' ' :: d :: more =>
    if d.isDigit && (Date.take? word).any (·.2.isEmpty) then
      let (time, rest) := (d :: more).span isWordChar
      (word ++ ' ' :: time, rest)
    else (word, rest)
  | _ => (word, rest)

/-! ## §5 Tables that stand for dates and times -/

/-- The key under which a table holds a date or time as a string. -/
def datetimeKey : String := "$__toml_private_datetime"

mutual

/-- A value in which each table whose first key is `datetimeKey` has become the
date or time that the string under it writes; what else such a table holds is
passed over. -/
def Value.resolve? : Value → Option Value
  | .array items => do return .array (← resolveItems? items)
  | .table [] => some (.table [])
  | .table ((key, v) :: rest) =>
    if key = datetimeKey then
      match v with
      | .string s => (Datetime.ofChars? s.toList).map .datetime
      | _ => none
    else do return .table ((key, ← v.resolve?) :: (← resolveEntries? rest))
  | v => some v

/-- Items of an array, each resolved. -/
def resolveItems? : List Value → Option (List Value)
  | [] => some []
  | v :: rest => do return (← v.resolve?) :: (← resolveItems? rest)

/-- Entries of a table that stands for itself, each resolved. -/
def resolveEntries? : List (String × Value) → Option (List (String × Value))
  | [] => some []
  | (key, v) :: rest => do return (key, ← v.resolve?) :: (← resolveEntries? rest)

end

end ScriptureText.Toml
