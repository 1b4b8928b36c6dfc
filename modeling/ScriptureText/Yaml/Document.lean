/-
ScriptureText.Yaml.Document — values as block-style YAML. Members of an object
stand one below the other, an object in an object is indented by two more
spaces, and the items of an array stand at the indentation of its key.
-/
import ScriptureText.Json.Basic
import ScriptureText.Yaml.Scalar

namespace ScriptureText.Yaml

/-- Bytes of a key that may stand before its colon without a mark. -/
def maxSimpleKey : Nat := 128

/-- Whether a key may stand before its colon without a mark. -/
def isSimpleKey (k : String) : Bool := !isMultiline k.toList && k.utf8ByteSize ≤ maxSimpleKey

/-- A key with its colon, at an indentation; a key that is long or has several
lines is marked, and its colon starts a line. -/
def keyChars (indent : Nat) (k : String) : List Char :=
  if isSimpleKey k then scalar (indent + 2) k ++ [':']
  else ['?', ' '] ++ scalar (indent + 2) k ++ lineEnd k ++ spaces indent ++ [':']

mutual

/-- A value behind its key, to the end of its last line. -/
def valueChars (indent : Nat) : Json → List Char
  | .null => " null\n".toList
  | .bool true => " true\n".toList
  | .bool false => " false\n".toList
  | .number text => ' ' :: text.toList ++ ['\n']
  | .string s => ' ' :: scalar (indent + 2) s ++ lineEnd s
  | .array [] => " []\n".toList
  | .array items => '\n' :: itemsChars indent items
  | .object [] => " \x7b\x7d\n".toList
  | .object members => '\n' :: membersChars (indent + 2) members

/-- Members at an indentation. -/
def membersChars (indent : Nat) : List (String × Json) → List Char
  | [] => []
  | (k, v) :: rest =>
    spaces indent ++ keyChars indent k ++ valueChars indent v ++ membersChars indent rest

/-- Items at an indentation. -/
def itemsChars (indent : Nat) : List Json → List Char
  | [] => []
  | j :: rest => spaces indent ++ '-' :: itemChars indent j ++ itemsChars indent rest

/-- An item behind its dash; the first member of an object stands on the line
of the dash. -/
def itemChars (indent : Nat) : Json → List Char
  | .null => " null\n".toList
  | .bool true => " true\n".toList
  | .bool false => " false\n".toList
  | .number text => ' ' :: text.toList ++ ['\n']
  | .string s => ' ' :: scalar (indent + 2) s ++ lineEnd s
  | .array [] => " []\n".toList
  | .array (j :: rest) => " -".toList ++ itemChars (indent + 2) j ++ itemsChars (indent + 2) rest
  | .object [] => " \x7b\x7d\n".toList
  | .object ((k, v) :: rest) =>
    ' ' :: keyChars (indent + 2) k ++ valueChars (indent + 2) v ++ membersChars (indent + 2) rest

end

/-- A value as a document. -/
def document : Json → String
  | .object (m :: rest) => String.ofList (membersChars 0 (m :: rest))
  | .array (j :: rest) => String.ofList (itemsChars 0 (j :: rest))
  | j => String.ofList ((valueChars 0 j).drop 1)

end ScriptureText.Yaml
