/-
ScriptureText.Toml.Datetime — dates and times of day as TOML writes them: a
date, a time, or a date with a time, then with or without its offset from
universal time. `Datetime.text` writes them in one form, with the fraction of a
second cut after nine digits and without zeros at its end.
-/
import ScriptureText.Decimal.Scientific

namespace ScriptureText.Toml

open Decimal

/-! ## §1 Parts -/

structure Date where
  year : Nat
  month : Nat
  day : Nat
  deriving DecidableEq, Repr

structure Time where
  hour : Nat
  minute : Nat
  second : Nat
  nanosecond : Nat
  deriving DecidableEq, Repr

/-- How far a clock is from universal time. -/
inductive Offset where
  | universal
  | minutes (n : Int)
  deriving DecidableEq, Repr

inductive Datetime where
  | date (d : Date)
  | time (t : Time)
  | moment (d : Date) (t : Time) (offset : Option Offset)
  deriving DecidableEq, Repr

/-! ## §2 Reading -/

/-- A number of exactly so many digits, and what follows it. -/
def number? (count : Nat) (cs : List Char) : Option (Nat × List Char) :=
  let ds := cs.take count
  if ds.length = count ∧ isDigits ds then some (digitsValue ds, cs.drop count) else none

/-- What follows a character that has to stand first. -/
def after? (c : Char) : List Char → Option (List Char)
  | [] => none
  | d :: rest => if d = c then some rest else none

/-- Years with a day more. -/
def isLeapYear (year : Nat) : Bool := (year % 4 == 0 && year % 100 != 0) || year % 400 == 0

/-- The days of a month; none for a month that does not exist. -/
def daysIn (year month : Nat) : Nat :=
  if [1, 3, 5, 7, 8, 10, 12].contains month then 31
  else if [4, 6, 9, 11].contains month then 30
  else if month = 2 then if isLeapYear year then 29 else 28
  else 0

/-- A date at the start of a text. -/
def Date.take? (cs : List Char) : Option (Date × List Char) := do
  let (year, cs) ← number? 4 cs
  let cs ← after? '-' cs
  let (month, cs) ← number? 2 cs
  let cs ← after? '-' cs
  let (day, cs) ← number? 2 cs
  if 1 ≤ day ∧ day ≤ daysIn year month then some (⟨year, month, day⟩, cs) else none

/-- The nanoseconds that the digits of a fraction write, of which nine count. -/
def nanoseconds (ds : List Char) : Nat :=
  digitsValue (ds.take 9) * tenTo (9 - (ds.take 9).length)

/-- A fraction of a second, if there is one. -/
def fraction? : List Char → Option (Nat × List Char)
  | '.' :: rest =>
    let (ds, rest) := takeDigits rest
    if ds.isEmpty then none else some (nanoseconds ds, rest)
  | cs => some (0, cs)

/-- A time of day at the start of a text; a leap second may be its last. -/
def Time.take? (cs : List Char) : Option (Time × List Char) := do
  let (hour, cs) ← number? 2 cs
  let cs ← after? ':' cs
  let (minute, cs) ← number? 2 cs
  let cs ← after? ':' cs
  let (second, cs) ← number? 2 cs
  let (nanosecond, cs) ← fraction? cs
  if hour ≤ 23 ∧ minute ≤ 59 ∧ second ≤ 60 then some (⟨hour, minute, second, nanosecond⟩, cs)
  else none

/-- An offset that makes up a whole text. -/
def Offset.ofChars? : List Char → Option Offset
  | ['Z'] => some .universal
  | ['z'] => some .universal
  | sign :: cs => do
    let negative ← if sign = '-' then some true else if sign = '+' then some false else none
    let (hour, cs) ← number? 2 cs
    let cs ← after? ':' cs
    let (minute, cs) ← number? 2 cs
    let n : Int := (hour * 60 + minute : Nat)
    if hour ≤ 23 ∧ minute ≤ 59 ∧ cs.isEmpty then some (.minutes (if negative then -n else n))
    else none
  | [] => none

/-- Whether a character may stand between a date and a time. -/
def isTimeMark (c : Char) : Bool := c = 'T' || c = 't' || c = ' '

/-- A date or time that makes up a whole text. -/
def Datetime.ofChars? (cs : List Char) : Option Datetime :=
  match Date.take? cs with
  | some (d, []) => some (.date d)
  | some (d, c :: rest) => do
    if !isTimeMark c then none
    match ← Time.take? rest with
    | (t, []) => some (.moment d t none)
    | (t, rest) => return .moment d t (some (← Offset.ofChars? rest))
  | none =>
    match Time.take? cs with
    | some (t, []) => some (.time t)
    | _ => none

/-! ## §3 Writing -/

/-- A number with zeros in front of it up to a width. -/
def padded (width n : Nat) : String :=
  let ds := Nat.toDigits 10 n
  String.ofList (List.replicate (width - ds.length) '0' ++ ds)

def Date.text (d : Date) : String :=
  padded 4 d.year ++ "-" ++ padded 2 d.month ++ "-" ++ padded 2 d.day

/-- A fraction of a second with its point; none for a whole second. -/
def fractionText (nanosecond : Nat) : String :=
  if nanosecond = 0 then ""
  else "." ++ String.ofList
    ((padded 9 nanosecond).toList.reverse.dropWhile (· == '0')).reverse

def Time.text (t : Time) : String :=
  padded 2 t.hour ++ ":" ++ padded 2 t.minute ++ ":" ++ padded 2 t.second ++
    fractionText t.nanosecond

def Offset.text : Offset → String
  | .universal => "Z"
  | .minutes n =>
    (if n < 0 then "-" else "+") ++ padded 2 (n.natAbs / 60) ++ ":" ++ padded 2 (n.natAbs % 60)

def Datetime.text : Datetime → String
  | .date d => d.text
  | .time t => t.text
  | .moment d t offset => d.text ++ "T" ++ t.text ++ (offset.map Offset.text).getD ""

end ScriptureText.Toml
