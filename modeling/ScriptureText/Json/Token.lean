/-
ScriptureText.Json.Token — a JSON text as tokens. A string or a number may be
faulty in itself: strings with half a surrogate pair and numbers out of range
are faults for whoever wants the value, and none for whoever passes over it. A
token that cannot be read to its end ends the list.
-/
import ScriptureText.Decimal.Radix
import ScriptureText.Json.Number

namespace ScriptureText.Json

/-- A token. -/
inductive Token where
  | openArray | closeArray | openObject | closeObject | comma | colon
  | null
  | bool (b : Bool)
  /-- A number, or none if it exceeds the finite range. -/
  | number (n : Option Number)
  /-- A string, or why it has no value. -/
  | string (s : Except Cause String)
  /-- A token without an end, or a stray character: why it cannot be read, and
  why it cannot be passed over. -/
  | broken (isString : Bool) (read skipped : Cause)

/-! ## §1 Strings -/

/-- A character in a string, or a UTF-16 unit given by its number. -/
inductive Piece where
  | char (c : Char)
  | unit (n : Nat)
  deriving DecidableEq, Repr

/-- The number written by four hexadecimal digits. -/
def hexUnit? (a b c d : Char) : Option Nat := Decimal.radixValue? 16 [a, b, c, d]

/-- What a letter after a backslash stands for. -/
def escaped? : Char → Option Char
  | '"' => some '"'
  | '\\' => some '\\'
  | '/' => some '/'
  | 'b' => some '\x08'
  | 'f' => some '\x0c'
  | 'n' => some '\n'
  | 'r' => some '\r'
  | 't' => some '\t'
  | _ => none

/-- Why a numbered escape with this text after `\u` fails: four bytes of text
have to follow. -/
def unitFault (rest : List Char) : Cause :=
  if (String.ofList (rest.take 4)).utf8ByteSize < 4 then .cutShort else .malformed

/-- A string after its opening quote: its pieces, and the text after the
closing quote or the fault that prevents one. -/
def scanString : List Char → List Piece × Except Cause (List Char)
  | [] => ([], .error .cutShort)
  | '"' :: rest => ([], .ok rest)
  | ['\\'] => ([], .error .cutShort)
  | '\\' :: 'u' :: rest =>
    match rest with
    | a :: b :: c :: d :: rest =>
      match hexUnit? a b c d with
      | some n =>
        let (pieces, after) := scanString rest
        (.unit n :: pieces, after)
      | none => ([], .error .malformed)
    | short => ([], .error (unitFault short))
  | '\\' :: e :: rest =>
    match escaped? e with
    | some c =>
      let (pieces, after) := scanString rest
      (.char c :: pieces, after)
    | none => ([], .error .malformed)
  | c :: rest =>
    if c.toNat < 0x20 then ([], .error .malformed)
    else
      let (pieces, after) := scanString rest
      (.char c :: pieces, after)

/-- Whether a unit is the first half of a pair. -/
def isHighSurrogate (n : Nat) : Bool := 0xd800 ≤ n && n ≤ 0xdbff

/-- Whether a unit is the second half of a pair. -/
def isLowSurrogate (n : Nat) : Bool := 0xdc00 ≤ n && n ≤ 0xdfff

/-- The characters of a string; halves of pairs have to follow each other, and
`ending` says whether the string itself is whole. -/
def joinPieces (ending : Except Cause Unit) : List Piece → Except Cause (List Char)
  | [] => ending.map fun _ => []
  | .char c :: rest => do return c :: (← joinPieces ending rest)
  | .unit n :: rest =>
    if isLowSurrogate n then .error .malformed
    else if isHighSurrogate n then
      match rest with
      | [] => do
        ending
        .error .malformed
      | .unit m :: rest =>
        if isLowSurrogate m then do
          return Char.ofNat (0x10000 + (n - 0xd800) * 0x400 + (m - 0xdc00)) ::
            (← joinPieces ending rest)
        else .error .malformed
      | .char _ :: _ => .error .malformed
    else do return Char.ofNat n :: (← joinPieces ending rest)

/-- A string token, and the text after it. -/
def stringToken (cs : List Char) : Token × List Char :=
  match scanString cs with
  | (pieces, .ok rest) => (.string ((joinPieces (.ok ()) pieces).map String.ofList), rest)
  | (pieces, .error fault) =>
    match joinPieces (.error fault) pieces with
    | .ok _ => (.broken true fault fault, [])
    | .error read => (.broken true read fault, [])

/-! ## §2 Numbers -/

/-- A number after its sign. A fault in it depends on where the text ends for a
reader only. -/
def numberToken (negative : Bool) (cs : List Char) : Token × List Char :=
  match takeNumeral negative cs with
  | .ok (l, rest) => (.number l.value?, rest)
  | .error c => (.broken false c .malformed, [])

/-! ## §3 Words -/

/-- A word of which the letters `expected` are still to come. -/
def wordToken (word : Token) : List Char → List Char → Token × List Char
  | [], rest => (word, rest)
  | _ :: _, [] => (.broken false .cutShort .cutShort, [])
  | e :: expected, c :: rest =>
    if c = e then wordToken word expected rest
    else (.broken false .malformed .malformed, [])

/-! ## §4 Texts -/

/-- Space between tokens. -/
def isSpace (c : Char) : Bool := c = ' ' || c = '\n' || c = '\t' || c = '\r'

/-- The token that starts with `c`, and the text after it. -/
def nextToken (c : Char) (rest : List Char) : Token × List Char :=
  match c with
  | '[' => (.openArray, rest)
  | ']' => (.closeArray, rest)
  | '\x7b' => (.openObject, rest)
  | '\x7d' => (.closeObject, rest)
  | ',' => (.comma, rest)
  | ':' => (.colon, rest)
  | '"' => stringToken rest
  | '-' => numberToken true rest
  | 'n' => wordToken .null ['u', 'l', 'l'] rest
  | 't' => wordToken (.bool true) ['r', 'u', 'e'] rest
  | 'f' => wordToken (.bool false) ['a', 'l', 's', 'e'] rest
  | c =>
    if c.isDigit then numberToken false (c :: rest)
    else (.broken false .malformed .malformed, [])

/-- The tokens of a text, as many as `fuel` allows. -/
def tokensWithin : Nat → List Char → List Token
  | 0, _ => []
  | _, [] => []
  | fuel + 1, c :: rest =>
    if isSpace c then tokensWithin fuel rest
    else
      let (t, rest) := nextToken c rest
      t :: tokensWithin fuel rest

/-- The tokens of a text; each takes at least one character. -/
def tokens (cs : List Char) : List Token := tokensWithin cs.length cs

end ScriptureText.Json
