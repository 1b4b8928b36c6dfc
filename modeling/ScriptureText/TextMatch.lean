/-
ScriptureText.TextMatch — what a text is expected to be, and the report when
it is not.
-/
import ScriptureText.Quoted

namespace ScriptureText

/-- Whether a list occurs within another. -/
def occursIn (part : List Char) : List Char → Bool
  | [] => part.isEmpty
  | c :: rest => part.isPrefixOf (c :: rest) || occursIn part rest

/-- An expectation on a text. -/
inductive TextMatch where
  | exact (expected : String)
  | startsWith (expected : String)
  | contains (expected : String)
  deriving DecidableEq, Repr

namespace TextMatch

/-- Whether a text is as expected. -/
def holds : TextMatch → String → Bool
  | .exact e, actual => actual == e
  | .startsWith e, actual => e.toList.isPrefixOf actual.toList
  | .contains e, actual => occursIn e.toList actual.toList

/-- The expectation in words. -/
def phrase : TextMatch → String
  | .exact e => "to be " ++ Quoted.quote e
  | .startsWith e => "to start with " ++ Quoted.quote e
  | .contains e => "to contain " ++ Quoted.quote e

/-- Success, or the report for a text found at `place`. -/
def check (m : TextMatch) (place actual : String) : Except String Unit :=
  if m.holds actual then .ok ()
  else .error
    (place ++ ": Expected text " ++ m.phrase ++ ", but got " ++ Quoted.quote actual)

end TextMatch

end ScriptureText
