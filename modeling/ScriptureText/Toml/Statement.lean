/-
ScriptureText.Toml.Statement — a TOML text as statements: headers of tables,
headers of elements of arrays of tables, and keys with their values. Arrays and
inline tables may be nested 79 levels deep, and a key has fewer than 80 parts.
-/
import ScriptureText.Toml.Table
import ScriptureText.Toml.Text

namespace ScriptureText.Toml

/-- A statement; a key or header is given by its parts. -/
inductive Statement where
  | table (header : List String)
  | element (header : List String)
  | set (key : List String) (v : Value)

/-! ## §1 Space between things -/

/-- A text without blanks at its start. -/
def skipBlanks (cs : List Char) : List Char := cs.dropWhile isBlank

/-- A text without blanks, line breaks and comments at its start; `inComment`
when a comment has started. -/
def skipLines (inComment : Bool) : List Char → List Char
  | [] => []
  | c :: rest =>
    if c = '\n' then skipLines false rest
    else if inComment then if isLineChar c then skipLines true rest else c :: rest
    else if isBlank c then skipLines false rest
    else if c = '#' then skipLines true rest
    else c :: rest

/-- What follows the rest of a line that holds blanks and a comment at most. -/
def endLine? (cs : List Char) : Option (List Char) :=
  let rest := match skipBlanks cs with
    | '#' :: rest => rest.dropWhile isLineChar
    | rest => rest
  match rest with
  | [] => some []
  | c :: rest => if c = '\n' then some rest else none

/-! ## §2 Keys -/

/-- A character of a key without quotes. -/
def isKeyChar (c : Char) : Bool := c.isAlphanum || c = '-' || c = '_'

/-- One part of a key, and what follows it. -/
def keyPart? (cs : List Char) : Option (String × List Char) :=
  match cs with
  | '"' :: rest => (basic? rest).map fun (s, rest) => (String.ofList s, rest)
  | '\'' :: rest => (literal? rest).map fun (s, rest) => (String.ofList s, rest)
  | cs =>
    match cs.span isKeyChar with
    | ([], _) => none
    | (s, rest) => some (String.ofList s, rest)

/-- The parts of a key that points separate, with blanks around them: at most
as many as `limit`. -/
def key? : Nat → List Char → Option (List String × List Char)
  | 0, _ => none
  | limit + 1, cs => do
    let (part, rest) ← keyPart? (skipBlanks cs)
    match skipBlanks rest with
    | '.' :: rest =>
      let (parts, rest) ← key? limit rest
      return (part :: parts, rest)
    | rest => return ([part], rest)

/-- The most parts of a key. -/
def maxParts : Nat := 79

/-! ## §3 Values -/

/-- The most levels of arrays and inline tables. -/
def maxDepth : Nat := 79

/-- A string with its value. -/
def stringValue (r : Option (List Char × List Char)) : Option (Value × List Char) :=
  r.map fun (s, rest) => (.string (String.ofList s), rest)

/-- One level of nesting less. -/
def descend? : Nat → Option Nat
  | 0 => none
  | depth + 1 => some depth

mutual

/-- A value at the start of a text, and what follows it; `fuel` bounds the
number of steps and `depth` the levels of nesting. -/
def value? : Nat → Nat → List Char → Option (Value × List Char)
  | 0, _, _ => none
  | fuel + 1, depth, cs =>
    match cs with
    | '"' :: '"' :: '"' :: rest => stringValue (basicLines? false (dropBreak rest))
    | '"' :: rest => stringValue (basic? rest)
    | '\'' :: '\'' :: '\'' :: rest => stringValue (literalLines? (dropBreak rest))
    | '\'' :: rest => stringValue (literal? rest)
    | '[' :: rest => do
      let (items, rest) ← items? fuel (← descend? depth) (skipLines false rest)
      return (.array items, rest)
    | '\x7b' :: rest => do
      let depth ← descend? depth
      match skipBlanks rest with
      | '\x7d' :: rest => return (.table [], rest)
      | rest =>
        let (pairs, rest) ← pairs? fuel depth rest
        return (← inlineTable? pairs, rest)
    | cs => do
      let (word, rest) := takeWord cs
      return (← Value.ofWord? word, rest)

/-- The items of an array up to its end, and what follows it; a comma may stand
after the last one. -/
def items? : Nat → Nat → List Char → Option (List Value × List Char)
  | 0, _, _ => none
  | fuel + 1, depth, cs =>
    match cs with
    | ']' :: rest => some ([], rest)
    | cs => do
      let (v, rest) ← value? fuel depth cs
      match skipLines false rest with
      | ',' :: rest =>
        let (vs, rest) ← items? fuel depth (skipLines false rest)
        return (v :: vs, rest)
      | ']' :: rest => return ([v], rest)
      | _ => none

/-- The keys and values of an inline table up to its end, and what follows it. -/
def pairs? : Nat → Nat → List Char → Option (List (List String × Value) × List Char)
  | 0, _, _ => none
  | fuel + 1, depth, cs => do
    let (key, rest) ← key? maxParts cs
    let (v, rest) ← value? fuel depth (skipBlanks (← after? '=' rest))
    match skipBlanks rest with
    | ',' :: rest =>
      let (pairs, rest) ← pairs? fuel depth rest
      return ((key, v) :: pairs, rest)
    | '\x7d' :: rest => return ([(key, v)], rest)
    | _ => none

end

/-! ## §4 Statements -/

/-- A statement at the start of a text, and what follows its line. Every step
of reading a value that does not take a character is followed by one that does. -/
def statement? (cs : List Char) : Option (Statement × List Char) :=
  match cs with
  | '[' :: '[' :: rest => do
    let (header, rest) ← key? maxParts rest
    return (.element header, ← endLine? (← after? ']' (← after? ']' rest)))
  | '[' :: rest => do
    let (header, rest) ← key? maxParts rest
    return (.table header, ← endLine? (← after? ']' rest))
  | cs => do
    let (key, rest) ← key? maxParts cs
    let rest := skipBlanks (← after? '=' rest)
    let (v, rest) ← value? (2 * rest.length + 2) maxDepth rest
    return (.set key v, ← endLine? rest)

/-- The statements of a text, at most as many as `fuel`. -/
def statementsWithin? : Nat → List Char → Option (List Statement)
  | 0, _ => none
  | fuel + 1, cs =>
    match skipLines false cs with
    | [] => some []
    | cs => do
      let (s, rest) ← statement? cs
      return s :: (← statementsWithin? fuel rest)

/-- The statements of a text; each takes a character at least. -/
def statements? (cs : List Char) : Option (List Statement) := statementsWithin? (cs.length + 1) cs

end ScriptureText.Toml
