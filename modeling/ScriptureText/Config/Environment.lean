/-
ScriptureText.Config.Environment — settings from environment variables. A
variable belongs to the library if its name starts with `BIBLE_TEXT__` in any
case; the rest of the name is the path, with two underscores for each point. The
value is a truth value, an integer, a floating-point number or a string, the
first of these that it can be read as.
-/
import ScriptureText.Config.Value

namespace ScriptureText.Config.Environment

/-- The start of the names of variables that are settings. -/
def namespaceName : String := "BIBLE_TEXT"

/-- A text without another at its start. -/
def dropStart? : List Char → List Char → Option (List Char)
  | [], cs => some cs
  | _ :: _, [] => none
  | e :: expected, c :: cs => if c = e then dropStart? expected cs else none

/-- A text with a point in place of every two underscores. -/
def pointed : List Char → List Char
  | '_' :: '_' :: rest => '.' :: pointed rest
  | c :: rest => c :: pointed rest
  | [] => []

/-- The key that a variable sets. -/
def key? (name : String) : Option String := do
  let start := Unicode.lowercase (namespaceName ++ "__")
  let rest ← dropStart? start.toList (Unicode.lowercase name).toList
  return String.ofList (pointed rest)

/-- An integer of 64 bits that makes up a whole text, after a sign or none. -/
def integer? (cs : List Char) : Option Int :=
  let (negative, ds) := Decimal.takeSign cs
  let n : Int := Decimal.digitsValue ds
  let n := if negative then -n else n
  if Decimal.isDigits ds && Decimal.isInt64 n then some n else none

/-- The value that a text is read as. -/
def scalar (text : String) : Scalar :=
  let word := Unicode.lowercase text
  if word = "true" then .bool true
  else if word = "false" then .bool false
  else
    match integer? text.toList, Decimal.Binary64.ofChars? text.toList with
    | some n, _ => .int n
    | none, some x => .float x
    | none, none => .string text

/-- The settings of variables. -/
def settings (vars : List (String × String)) : List (String × Value) :=
  vars.filterMap fun (name, text) =>
    (key? name).map fun key => (key, .scalar (some .environment) (scalar text))

end ScriptureText.Config.Environment
