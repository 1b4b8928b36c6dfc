/-
ScriptureText.Json.Basic — values of JSON as they are written: `Json.pretty`
puts every member and item on a line of its own, two spaces deeper than what
holds it, and escapes in strings what JSON requires and nothing else.
-/

namespace ScriptureText

/-- A JSON value; a number is kept as its text. -/
inductive Json where
  | null
  | bool (b : Bool)
  | number (text : String)
  | string (s : String)
  | array (items : List Json)
  | object (members : List (String × Json))

namespace Json

/-! ## §1 Strings -/

/-- A hexadecimal digit in lower case. -/
def hexDigit (n : Nat) : Char := Nat.digitChar n

/-- A character inside a string. -/
def escapeChar (c : Char) : List Char :=
  if c = '"' then ['\\', '"']
  else if c = '\\' then ['\\', '\\']
  else if c = '\x08' then ['\\', 'b']
  else if c = '\x0c' then ['\\', 'f']
  else if c = '\n' then ['\\', 'n']
  else if c = '\r' then ['\\', 'r']
  else if c = '\t' then ['\\', 't']
  else if c.toNat < 0x20 then
    ['\\', 'u', '0', '0', hexDigit (c.toNat / 16), hexDigit (c.toNat % 16)]
  else [c]

/-- A string with its quotes. -/
def stringChars (s : String) : List Char := '"' :: s.toList.flatMap escapeChar ++ ['"']

/-! ## §2 Values -/

/-- A new line at a depth of nesting. -/
def newline (depth : Nat) : List Char := '\n' :: List.replicate (2 * depth) ' '

mutual

/-- A value at a depth of nesting. -/
def prettyChars (depth : Nat) : Json → List Char
  | .null => "null".toList
  | .bool true => "true".toList
  | .bool false => "false".toList
  | .number text => text.toList
  | .string s => stringChars s
  | .array [] => "[]".toList
  | .array (item :: rest) =>
    '[' :: newline (depth + 1) ++ prettyChars (depth + 1) item ++ prettyItems depth rest
  | .object [] => "\x7b\x7d".toList
  | .object ((k, v) :: rest) =>
    '\x7b' :: newline (depth + 1) ++ stringChars k ++ [':', ' '] ++ prettyChars (depth + 1) v ++
      prettyMembers depth rest

/-- Further items of an array, to its end. -/
def prettyItems (depth : Nat) : List Json → List Char
  | [] => newline depth ++ [']']
  | item :: rest =>
    ',' :: newline (depth + 1) ++ prettyChars (depth + 1) item ++ prettyItems depth rest

/-- Further members of an object, to its end. -/
def prettyMembers (depth : Nat) : List (String × Json) → List Char
  | [] => newline depth ++ ['\x7d']
  | (k, v) :: rest =>
    ',' :: newline (depth + 1) ++ stringChars k ++ [':', ' '] ++ prettyChars (depth + 1) v ++
      prettyMembers depth rest

end

/-- The text of a value. -/
def pretty (j : Json) : String := String.ofList (prettyChars 0 j)

end Json

end ScriptureText
