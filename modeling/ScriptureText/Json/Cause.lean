/-
ScriptureText.Json.Cause — why a text is not JSON.
-/

namespace ScriptureText.Json

/-- Why a text is not JSON: a character that cannot stand where it does, or an
end that comes too soon. -/
inductive Cause where
  | malformed | cutShort
  deriving DecidableEq, Repr

/-- What is wrong at a place where some other text has to follow. -/
def Cause.ofRest (rest : List Char) : Cause := if rest.isEmpty then .cutShort else .malformed

end ScriptureText.Json
