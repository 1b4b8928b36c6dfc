/-
ScriptureText.Yaml.Scalar — strings as YAML scalars. A string is written plain
where it reads back as itself, else in single quotes, and in double quotes where
those cannot hold it; a string with line feeds is written as a literal block
where one can hold it.
-/
import ScriptureText.Yaml.Resolution

namespace ScriptureText.Yaml

/-! ## §1 Characters -/

/-- Characters that end a line. -/
def isBreak (c : Char) : Bool :=
  c = '\n' || c = '\r' || c = '\x85' || c = '\u2028' || c = '\u2029'

/-- Spaces, tabs, characters that end a line, and NUL. -/
def isBlank (c : Char) : Bool := c = ' ' || c = '\t' || isBreak c || c = '\x00'

/-- Whether a blank or the end of the text comes next. -/
def blankNext (rest : List Char) : Bool := rest.head?.all isBlank

/-- Characters that may be written as themselves. -/
def isPrintable (c : Char) : Bool :=
  let n := c.toNat
  n = 0x0a || (0x20 ≤ n && n ≤ 0x7e) || (0xa0 ≤ n && n ≤ 0xd7ff) ||
    (0xe000 ≤ n && n ≤ 0xfffd && n != 0xfeff) || 0x10000 ≤ n

/-- Characters that mean something else at the start of a scalar. -/
def isIndicator (c : Char) : Bool := "#,[]\x7b\x7d&*!|>'\"%@`".toList.contains c

/-! ## §2 What a string allows -/

/-- A character at the start of a text that makes it no plain scalar. -/
def badStart : List Char → Bool
  | [] => false
  | c :: rest =>
    isIndicator c || ((c = '?' || c = ':' || c = '-') && blankNext rest)

/-- A colon before a blank, or a hash sign after one. -/
def badInside : Char → List Char → Bool
  | _, [] => false
  | before, c :: rest =>
    (c = ':' && blankNext rest) || (c = '#' && isBlank before) || badInside c rest

/-- Whether a text starts like a document marker. -/
def startsLikeMarker (cs : List Char) : Bool :=
  ['-', '-', '-'].isPrefixOf cs || ['.', '.', '.'].isPrefixOf cs

/-- Indicators that forbid a plain scalar outside brackets. -/
def hasIndicators (cs : List Char) : Bool :=
  startsLikeMarker cs || badStart cs ||
    match cs with
    | [] => false
    | c :: rest => badInside c rest

/-- Whether a character of one kind stands directly before one of another. -/
def adjacent (p q : Char → Bool) : List Char → Bool
  | a :: b :: rest => (p a && q b) || adjacent p q (b :: rest)
  | _ => false

/-- A space, and only a space. -/
def isSpace (c : Char) : Bool := c = ' '

/-- Whether a string has more than one line. -/
def isMultiline (cs : List Char) : Bool := cs.any isBreak

/-- Whether a string has a character that only double quotes can hold, or a
space before a line's end. -/
def needsEscapes (cs : List Char) : Bool :=
  cs.any (fun c => !isPrintable c) || adjacent isSpace isBreak cs

/-- Whether a string may be plain. -/
def plainAllowed (cs : List Char) : Bool :=
  !(cs.head?.any isSpace || cs.getLast?.any isSpace || isMultiline cs || needsEscapes cs ||
    hasIndicators cs)

/-- Whether single quotes may hold a string. -/
def singleAllowed (cs : List Char) : Bool := !(adjacent isBreak isSpace cs || needsEscapes cs)

/-- Whether a literal block may hold a string. -/
def blockAllowed (cs : List Char) : Bool := !(cs.getLast?.any isSpace || needsEscapes cs)

/-! ## §3 Styles -/

/-- How a scalar is written. -/
inductive Style where
  | plain | single | double | literal
  deriving DecidableEq, Repr

/-- The style of a string. -/
def styleOf (s : String) : Style :=
  let cs := s.toList
  let quoted := if singleAllowed cs then .single else .double
  if cs.contains '\n' then if blockAllowed cs then .literal else .double
  else if readsAsOther s || !plainAllowed cs then quoted
  else .plain

/-! ## §4 Writing -/

/-- A hexadecimal digit in upper case. -/
def upperHex (n : Nat) : Char := (Nat.digitChar n).toUpper

/-- The lowest `width` hexadecimal digits of a number. -/
def hexDigits (width n : Nat) : List Char :=
  (List.range width).reverse.map fun i => upperHex (n / Decimal.twoTo (4 * i) % 16)

/-- The escape of a character in double quotes. -/
def escape (c : Char) : List Char :=
  if c = '\x00' then ['\\', '0']
  else if c = '\x07' then ['\\', 'a']
  else if c = '\x08' then ['\\', 'b']
  else if c = '\t' then ['\\', 't']
  else if c = '\n' then ['\\', 'n']
  else if c = '\x0b' then ['\\', 'v']
  else if c = '\x0c' then ['\\', 'f']
  else if c = '\r' then ['\\', 'r']
  else if c = '\x1b' then ['\\', 'e']
  else if c = '"' then ['\\', '"']
  else if c = '\\' then ['\\', '\\']
  else if c = '\x85' then ['\\', 'N']
  else if c = '\u2028' then ['\\', 'L']
  else if c = '\u2029' then ['\\', 'P']
  else if c.toNat ≤ 0xff then ['\\', 'x'] ++ hexDigits 2 c.toNat
  else if c.toNat ≤ 0xffff then ['\\', 'u'] ++ hexDigits 4 c.toNat
  else ['\\', 'U'] ++ hexDigits 8 c.toNat

/-- A character in double quotes. -/
def doubleChar (c : Char) : List Char :=
  if !isPrintable c || isBreak c || c = '"' || c = '\\' then escape c else [c]

/-- Spaces at the start of a line. -/
def spaces (indent : Nat) : List Char := List.replicate indent ' '

/-- The inside of single quotes: a quote is doubled, and a line other than the
first is indented. -/
def singleBody (indent : Nat) : Bool → List Char → List Char
  | afterBreak, [] => if afterBreak then spaces indent else []
  | afterBreak, c :: rest =>
    if isBreak c then c :: singleBody indent true rest
    else
      (if afterBreak then spaces indent else []) ++
        (if c = '\'' then ['\'', '\''] else [c]) ++ singleBody indent false rest

/-- The lines of a literal block, each indented unless it is empty. -/
def literalBody (indent : Nat) : Bool → List Char → List Char
  | _, [] => []
  | atStart, c :: rest =>
    if isBreak c then c :: literalBody indent true rest
    else (if atStart then spaces indent else []) ++ c :: literalBody indent false rest

/-- What is said of the end of a literal block: `-` for no line end, `+` for
more than one, or for nothing before it. -/
def chomping (cs : List Char) : List Char :=
  match cs.reverse with
  | [] => ['-']
  | c :: before =>
    if !isBreak c then ['-']
    else if before.head?.all isBreak then ['+']
    else []

/-- The header of a literal block; an indentation is named where the text does
not show it. -/
def literalHeader (cs : List Char) : List Char :=
  '|' :: (if cs.head?.any (fun c => isSpace c || isBreak c) then ['2'] else []) ++ chomping cs

/-- A string as a scalar, with its further lines at an indentation. -/
def scalar (indent : Nat) (s : String) : List Char :=
  let cs := s.toList
  match styleOf s with
  | .plain => cs
  | .single => '\'' :: singleBody indent false cs ++ ['\'']
  | .double => '"' :: cs.flatMap doubleChar ++ ['"']
  | .literal => literalHeader cs ++ '\n' :: literalBody indent true cs

/-- What ends the line of a scalar: a literal block may have ended it already. -/
def lineEnd (s : String) : List Char :=
  if styleOf s = .literal && s.toList.getLast?.any isBreak then [] else ['\n']

end ScriptureText.Yaml
