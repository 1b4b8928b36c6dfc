/-
ScriptureText.Quoted — quoted strings in messages. A quoted string stands in
double quotes; a double quote, a backslash, NUL, tab, line feed and carriage
return are written with a backslash, and every other character that attaches
to the one before it or does not print is written by its code point in
lower-case hexadecimal digits.
-/
import ScriptureText.Unicode.Printable

namespace ScriptureText.Quoted

/-- A code point in lower-case hexadecimal digits, without padding. -/
def hexDigits (n : Nat) : List Char := Nat.toDigits 16 n

/-- The quoted form of one character. -/
def quoteChar (c : Char) : List Char :=
  if c = '"' then ['\\', '"']
  else if c = '\\' then ['\\', '\\']
  else if c = '\t' then ['\\', 't']
  else if c = '\r' then ['\\', 'r']
  else if c = '\n' then ['\\', 'n']
  else if c = '\x00' then ['\\', '0']
  else if Unicode.isGraphemeExtend c || !Unicode.isPrintable c then
    ['\\', 'u', '\x7b'] ++ hexDigits c.toNat ++ ['\x7d']
  else [c]

/-- The quoted form of a string. -/
def quote (s : String) : String :=
  String.ofList ('"' :: (s.toList.flatMap quoteChar ++ ['"']))

/-- Items in brackets, separated by a comma and a space. -/
def bracket (items : List String) : String :=
  "[" ++ ", ".intercalate items ++ "]"

/-- The quoted form of a list of strings. -/
def quoteList (items : List String) : String := bracket (items.map quote)

/-- A list of numbers in brackets. -/
def numberList (items : List Nat) : String := bracket (items.map toString)

end ScriptureText.Quoted
