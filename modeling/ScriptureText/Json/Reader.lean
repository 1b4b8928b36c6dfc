/-
ScriptureText.Json.Reader — reading JSON trees as values of a given shape. A
reading ends at the first problem from left to right: a fault of the text, or a
value that does not fit.
-/
import ScriptureText.Json.Tree

namespace ScriptureText.Json

/-- Why a text gives no value: it is not JSON, it ends too soon, or it is JSON
of another shape. -/
inductive Problem where
  | malformed | cutShort | misfit
  deriving DecidableEq, Repr

/-- A fault of the text as a problem of its reader. -/
def Cause.problem : Cause → Problem
  | .malformed => .malformed
  | .cutShort => .cutShort

/-- The outcome of a reading. -/
abbrev Reading (α : Type) := Except Problem α

/-- A string of a tree, or a key. -/
def readKey : Except Cause String → Reading String
  | .ok s => .ok s
  | .error c => .error c.problem

/-- The problem with a tree where something else is wanted: a fault within a
word, a number or a string comes before the shape. -/
def Tree.mismatch : Tree → Problem
  | .number none => .malformed
  | .string (.error c) => c.problem
  | .broken c _ => c.problem
  | _ => .misfit

/-- A string. -/
def readString : Tree → Reading String
  | .string s => readKey s
  | t => .error t.mismatch

/-- A truth value. -/
def readBool : Tree → Reading Bool
  | .bool b => .ok b
  | t => .error t.mismatch

/-- The end of an array or object. -/
def Ending.read : Ending → Reading Unit
  | .closed => .ok ()
  | .cut c _ => .error c.problem

/-- The end of an array or object that is passed over. -/
def Ending.skip : Ending → Reading Unit
  | .closed => .ok ()
  | .cut _ c => .error c.problem

mutual

/-- Pass over a value of any shape, nested to any depth. -/
def skip : Tree → Reading Unit
  | .null | .bool _ | .number _ | .string _ => .ok ()
  | .array items ending => do
    skipItems items
    ending.skip
  | .object members ending => do
    skipMembers members
    ending.skip
  | .broken _ c => .error c.problem

/-- Pass over items. -/
def skipItems : List Tree → Reading Unit
  | [] => .ok ()
  | t :: rest => do
    skip t
    skipItems rest

/-- Pass over members. -/
def skipMembers : List Member → Reading Unit
  | [] => .ok ()
  | ⟨_, t⟩ :: rest => do
    skip t
    skipMembers rest

end

/-- Levels of arrays and objects that a reading may enter. -/
def maxDepth : Nat := 127

/-- Enter an array or object, with so many levels left. -/
def descend : Nat → Reading Nat
  | 0 => .error .malformed
  | depth + 1 => .ok depth

/-- Read a whole text. -/
def readText {α : Type} (read : Tree → Reading α) (text : String) : Reading α := do
  let (tree, more) := parse text
  let a ← read tree
  if more then .error .malformed else .ok a

end ScriptureText.Json
