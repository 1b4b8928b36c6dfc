/-
ScriptureText.Serial — the types that are written as JSON and read back: the
enumerations, by name, the options of normalization, and snapshots. A value of
an enumeration may also stand as the only key of an object, over null.
-/
import ScriptureText.Normalization
import ScriptureText.Quoted
import ScriptureText.Snapshot.Serial

namespace ScriptureText

open Json

/-! ## §1 Enumerations -/

/-- The values of an enumeration and their names. -/
structure Enumeration (α : Type) where
  all : List α
  name : α → String

namespace Enumeration

variable {α : Type}

/-- The value with a name. -/
def ofName? (e : Enumeration α) (s : String) : Option α := e.all.find? (e.name · == s)

/-- A value by its name, or by a name over null. -/
def read (e : Enumeration α) : Tree → Reading α
  | .string (.ok s) => named s
  | .object [⟨.ok s, .null⟩] .closed => named s
  | t => .error t.mismatch
where
  named (s : String) : Reading α :=
    match e.ofName? s with
    | some a => .ok a
    | none => .error .misfit

/-- A name in backquotes. -/
def backquoted (s : String) : String := "`" ++ s ++ "`"

/-- The names that were expected. -/
def expected : List String → String
  | [] => "there are no variants"
  | [a] => "expected " ++ backquoted a
  | [a, b] => "expected " ++ backquoted a ++ " or " ++ backquoted b
  | names => "expected one of " ++ ", ".intercalate (names.map backquoted)

/-- The complaint about a name that no value has. -/
def complaint (e : Enumeration α) (s : String) : String :=
  "unknown variant " ++ backquoted s ++ ", " ++ expected (e.all.map e.name)

end Enumeration

/-! ## §2 Options of normalization -/

namespace NormalizeOptions

/-- Options as an object. -/
def toJson (o : NormalizeOptions) : Json := .object [("keep_whitespace", .bool o.keepWhitespace)]

/-- Options by name, each at most once; members of other names are passed over. -/
def readMembers (o : NormalizeOptions) (given : Bool) : List Member → Reading NormalizeOptions
  | [] => .ok o
  | ⟨key, value⟩ :: rest => do
    if (← readKey key) = "keep_whitespace" then
      if given then .error .misfit
      let b ← readBool value
      readMembers ⟨b⟩ true rest
    else
      skip value
      readMembers o given rest

/-- Options from an object, or from an array of them in order; what is missing
is as standard. -/
def read : Tree → Reading NormalizeOptions
  | .object members ending => do
    let o ← readMembers .standard false members
    ending.read
    return o
  | .array [] ending => do
    ending.read
    return .standard
  | .array [t] ending => do
    let b ← readBool t
    ending.read
    return ⟨b⟩
  | .array (t :: _ :: _) _ => do
    let _ ← readBool t
    .error .malformed
  | t => .error t.mismatch

end NormalizeOptions

/-! ## §3 Types by name -/

/-- A type that is written as JSON. -/
inductive SerialType where
  | book | formatKind | lineBreak | rawMode | priority | normalizeOptions | snapshot
  deriving DecidableEq, Repr

namespace SerialType

def books : Enumeration BookId := ⟨BookId.all, BookId.name⟩
def formatKinds : Enumeration FormatKind := ⟨FormatKind.all, FormatKind.name⟩
def lineBreaks : Enumeration LineBreak := ⟨LineBreak.all, LineBreak.name⟩
def rawModes : Enumeration RawMode := ⟨RawMode.all, RawMode.name⟩
def priorities : Enumeration Priority := ⟨Priority.all, Priority.name⟩

/-- A value read and written again. -/
def reread (type : SerialType) (t : Tree) : Reading Json :=
  match type with
  | .book => (books.read t).map (.string ·.name)
  | .formatKind => (formatKinds.read t).map (.string ·.name)
  | .lineBreak => (lineBreaks.read t).map (.string ·.name)
  | .rawMode => (rawModes.read t).map (.string ·.name)
  | .priority => (priorities.read t).map (.string ·.name)
  | .normalizeOptions => (NormalizeOptions.read t).map NormalizeOptions.toJson
  | .snapshot => (Snapshot.read maxDepth t).map Snapshot.toJson

/-- The complaint about a string where a structure is wanted. -/
def wantsStruct (name s : String) : String :=
  "invalid type: string " ++ Quoted.quote s ++ ", expected struct " ++ name

/-- The complaint about a string that cannot be read as a value. -/
def complaint (type : SerialType) (s : String) : String :=
  match type with
  | .book => books.complaint s
  | .formatKind => formatKinds.complaint s
  | .lineBreak => lineBreaks.complaint s
  | .rawMode => rawModes.complaint s
  | .priority => priorities.complaint s
  | .normalizeOptions => wantsStruct "NormalizeOptions" s
  | .snapshot => wantsStruct "TextSnapshot" s

end SerialType

end ScriptureText
