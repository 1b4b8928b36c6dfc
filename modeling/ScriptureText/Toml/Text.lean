/-
ScriptureText.Toml.Text — strings of TOML in their four forms. In double quotes
a backslash starts an escape, in single quotes every character stands for
itself; three quotes enclose a string of several lines, which may hold one or
two quotes in a row and in which a line break after the opening quotes does not
count. Line breaks are line feeds here.
-/
import ScriptureText.Decimal.Radix

namespace ScriptureText.Toml

open Decimal (radixValue?)

/-! ## §1 Characters -/

/-- A space or a tab. -/
def isBlank (c : Char) : Bool := c = ' ' || c = '\t'

/-- A character that may stand in a line: no control character but a tab. -/
def isLineChar (c : Char) : Bool := c = '\t' || (0x20 ≤ c.toNat && c != '\x7f')

/-- What a letter after a backslash stands for. -/
def escaped? : Char → Option Char
  | 'b' => some '\x08'
  | 't' => some '\t'
  | 'n' => some '\n'
  | 'f' => some '\x0c'
  | 'r' => some '\r'
  | '"' => some '"'
  | '\\' => some '\\'
  | _ => none

/-- The character that hexadecimal digits number; half a surrogate pair is none. -/
def numbered? (ds : List Char) : Option Char := do
  let n ← radixValue? 16 ds
  if n.isValidChar then some (Char.ofNat n) else none

/-- Put a character in front of a string that is read. -/
def prepend (c : Char) (r : Option (List Char × List Char)) : Option (List Char × List Char) :=
  r.map fun (s, rest) => (c :: s, rest)

/-! ## §2 Strings of one line -/

/-- A string after its double quote, and what follows it. -/
def basic? : List Char → Option (List Char × List Char)
  | '"' :: rest => some ([], rest)
  | '\\' :: 'u' :: a :: b :: c :: d :: rest => do
    prepend (← numbered? [a, b, c, d]) (basic? rest)
  | '\\' :: 'U' :: a :: b :: c :: d :: e :: f :: g :: h :: rest => do
    prepend (← numbered? [a, b, c, d, e, f, g, h]) (basic? rest)
  | '\\' :: c :: rest => do prepend (← escaped? c) (basic? rest)
  | c :: rest => if isLineChar c then prepend c (basic? rest) else none
  | [] => none

/-- A string after its single quote, and what follows it. -/
def literal? : List Char → Option (List Char × List Char)
  | '\'' :: rest => some ([], rest)
  | c :: rest => if isLineChar c then prepend c (literal? rest) else none
  | [] => none

/-! ## §3 Strings of several lines -/

/-- Up to two more quotes after three that close a string belong to it. -/
def closing (quote : Char) : List Char → List Char × List Char
  | c :: d :: rest =>
    if c = quote then if d = quote then ([c, d], rest) else ([c], d :: rest)
    else ([], c :: d :: rest)
  | [c] => if c = quote then ([c], []) else ([], [c])
  | [] => ([], [])

/-- Whether only blanks stand before the end of the line. -/
def endsLine (cs : List Char) : Bool := (cs.dropWhile isBlank).head? == some '\n'

/-- A string of several lines in double quotes; a backslash at the end of a
line takes the blanks and line breaks after it away, which are being passed over
when `folding`. -/
def basicLines? (folding : Bool) : List Char → Option (List Char × List Char)
  | '"' :: '"' :: '"' :: rest => some (closing '"' rest)
  | '\\' :: 'u' :: a :: b :: c :: d :: rest => do
    prepend (← numbered? [a, b, c, d]) (basicLines? false rest)
  | '\\' :: 'U' :: a :: b :: c :: d :: e :: f :: g :: h :: rest => do
    prepend (← numbered? [a, b, c, d, e, f, g, h]) (basicLines? false rest)
  | '\\' :: c :: rest =>
    if endsLine (c :: rest) then basicLines? true rest
    else do prepend (← escaped? c) (basicLines? false rest)
  | c :: rest =>
    if folding && (isBlank c || c = '\n') then basicLines? true rest
    else if isLineChar c || c = '\n' then prepend c (basicLines? false rest)
    else none
  | [] => none

/-- A string of several lines in single quotes. -/
def literalLines? : List Char → Option (List Char × List Char)
  | '\'' :: '\'' :: '\'' :: rest => some (closing '\'' rest)
  | c :: rest =>
    if isLineChar c || c = '\n' then prepend c (literalLines? rest) else none
  | [] => none

/-- A text without a line break at its start. -/
def dropBreak : List Char → List Char
  | '\n' :: rest => rest
  | cs => cs

end ScriptureText.Toml
