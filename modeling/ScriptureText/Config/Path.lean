/-
ScriptureText.Config.Path — paths to settings. A path starts with a name; names
are made of ASCII letters, digits, spaces, underscores and hyphens. After it
come names behind points and numbers in brackets, which may have spaces and tabs
around them and are integers of 64 bits.
-/
import ScriptureText.Decimal.Scientific

namespace ScriptureText.Config

/-- A part of a path after its first name: an entry of a table by name, or an
item of a list by number. -/
inductive Part where
  | name (key : String)
  | index (i : Int)
  deriving DecidableEq, Repr

/-- A path to a setting. -/
structure Path where
  head : String
  parts : List Part
  deriving DecidableEq, Repr

/-- What is wrong with the text of a path: a name is missing at its start, a
number is missing in brackets or is too large, or some other character is in the
wrong place. -/
inductive PathFault where
  | noName | noNumber | largeNumber | character
  deriving DecidableEq, Repr

def PathFault.message : PathFault → String
  | .noName => "IsA"
  | .noNumber => "Digit"
  | .largeNumber => "Map on Result"
  | .character => "Char"

namespace Path

/-! ## §1 Parts -/

/-- A character of a name. -/
def isNameChar (c : Char) : Bool := c.isAlphanum || c = ' ' || c = '_' || c = '-'

/-- A space or a tab. -/
def isBlank (c : Char) : Bool := c = ' ' || c = '\t'

/-- A number and its closing bracket, and what follows them. -/
def takeIndex (cs : List Char) : Except PathFault (Int × List Char) :=
  let (negative, cs) := match cs.dropWhile isBlank with
    | '-' :: rest => (true, rest)
    | rest => (false, rest)
  match Decimal.takeDigits cs with
  | ([], _) => .error .noNumber
  | (ds, rest) =>
    let n : Int := Decimal.digitsValue ds
    let i := if negative then -n else n
    if !Decimal.isInt64 i then .error .largeNumber
    else match rest.dropWhile isBlank with
      | ']' :: rest => .ok (i, rest)
      | _ => .error .character

/-- One part, and what follows it. -/
def takePart : List Char → Except PathFault (Part × List Char)
  | '.' :: cs =>
    match cs.span isNameChar with
    | ([], _) => .error .character
    | (key, rest) => .ok (.name (String.ofList key), rest)
  | '[' :: cs => (takeIndex cs).map fun (i, rest) => (.index i, rest)
  | _ => .error .character

/-- The parts of a text, at most as many as `fuel`. -/
def partsWithin : Nat → List Char → Except PathFault (List Part)
  | _, [] => .ok []
  | 0, _ => .error .character
  | fuel + 1, cs => do
    let (part, rest) ← takePart cs
    return part :: (← partsWithin fuel rest)

/-! ## §2 Paths -/

/-- The path that a text writes; each part takes two characters at least. -/
def ofString (s : String) : Except PathFault Path :=
  match s.toList.span isNameChar with
  | ([], _) => .error .noName
  | (head, rest) => (partsWithin rest.length rest).map (⟨String.ofList head, ·⟩)

/-- The path of a single name, whatever its characters. -/
def single (key : String) : Path := ⟨key, []⟩

end Path

end ScriptureText.Config
