/-
ScriptureText.Error — why an operation fails, and the wording of each cause.
A field can be malformed, a tree can be in the wrong state, a finished tree can
break a structural rule, and an extra attribute can demand support that a
consumer lacks. A reference to a verse that no Bible in use has is not an
error: it is collected as a `DanglingReference`.
-/
import ScriptureText.BookId
import ScriptureText.Field
import ScriptureText.Quoted

namespace ScriptureText

/-! ## §1 Fields -/

/-- What a field value fails to satisfy. -/
inductive Constraint where
  | pattern (p : Pattern)
  | between (lo hi : Nat)
  | nonempty
  | positive
  | needsRmac
  | lengthOfStrongs
  | unreserved
  | knownCode
  deriving DecidableEq, Repr

/-- The wording of a constraint. -/
def Constraint.message : Constraint → String
  | .pattern p => "must match " ++ p.anchored
  | .between lo hi => "must be between " ++ toString lo ++ " and " ++ toString hi
  | .nonempty => "may not be empty"
  | .positive => "must be positive"
  | .needsRmac => "may not be present if rmac is missing"
  | .lengthOfStrongs => "must have the same length as strongs"
  | .unreserved => "use grammar information for Strongs and/or RMAC"
  | .knownCode => "unknown formatting code"

/-! ## §2 Lifecycle -/

/-- An operation that needs an open tree. -/
inductive Mutation where
  | append | remove | finish | normalize
  deriving DecidableEq, Repr

/-- The operation as a verb phrase. -/
def Mutation.phrase : Mutation → String
  | .append => "append to"
  | .remove => "remove elements from"
  | .finish => "finish"
  | .normalize => "normalize"

/-- An operation that needs a finished tree. -/
inductive Inspection where
  | validation | signature
  deriving DecidableEq, Repr

/-- The operation as a noun phrase. -/
def Inspection.phrase : Inspection → String
  | .validation => "validation"
  | .signature => "computing its signature"

/-- Why an operation is out of place. -/
inductive StateFault where
  | finished (attempt : Mutation)
  | unfinished (attempt : Inspection)
  | refused (refuser : String)
  deriving DecidableEq, Repr

/-- The wording of a fault. -/
def StateFault.message : StateFault → String
  | .finished m => "cannot " ++ m.phrase ++ " formatted text that is already finished"
  | .unfinished r => "formatted text must be finished before " ++ r.phrase
  | .refused who => who ++ " refused"

/-! ## §3 Structure -/

/-- A structural rule that a finished tree breaks. -/
inductive Violation where
  | whitespaceAdjacentToWhitespace | leadingWhitespace | whitespaceBeforeLineBreak
  | whitespaceBeforeHeadline | trailingWhitespace | emptyElement
  | verseSeparatorOutsideVerse | lineBreakOutsideBlock | nestedHeadline
  | headlineDepthOrder | nestedFootnote | nestedCrossReference
  | crossReferenceOutsideFootnote | crossReferenceRangeOrder
  deriving DecidableEq, Repr

namespace Violation

/-- The wording of a rule's breach. -/
def message : Violation → String
  | .whitespaceAdjacentToWhitespace => "Whitespace adjacent to whitespace found"
  | .leadingWhitespace => "No whitespace allowed at beginning or after line breaks or headlines"
  | .whitespaceBeforeLineBreak => "No whitespace allowed before line breaks"
  | .whitespaceBeforeHeadline => "No whitespace allowed before headlines"
  | .trailingWhitespace => "No whitespace allowed at end of element"
  | .emptyElement => "Element is empty"
  | .verseSeparatorOutsideVerse => "Verse separators are only allowed in verses"
  | .lineBreakOutsideBlock => "Line breaks only allowed in block context or footnotes"
  | .nestedHeadline => "Invalid nested headline"
  | .headlineDepthOrder => "Invalid headline depth order"
  | .nestedFootnote => "Invalid nested footnote"
  | .nestedCrossReference => "Invalid nested cross reference"
  | .crossReferenceOutsideFootnote => "Cross references may only appear inside footnotes"
  | .crossReferenceRangeOrder => "First xref verse is after last xref verse"

/-- The five rules that concern spaces. -/
def isWhitespace : Violation → Bool
  | .whitespaceAdjacentToWhitespace | .leadingWhitespace | .whitespaceBeforeLineBreak
  | .whitespaceBeforeHeadline | .trailingWhitespace => true
  | _ => false

end Violation

/-! ## §4 Errors -/

/-- Why an operation on formatted text fails. -/
inductive Error where
  | invalidField (field : Field) (value : String) (constraint : Constraint)
  | illegalState (fault : StateFault)
  | structural (violation : Violation)
  | unhandledExtra (category : String)
  deriving DecidableEq, Repr

/-- The wording of an error. -/
def Error.message : Error → String
  | .invalidField f v c => "Invalid " ++ f.name ++ " " ++ Quoted.quote v ++ ": " ++ c.message
  | .illegalState fault => "Illegal state: " ++ fault.message
  | .structural v => v.message
  | .unhandledExtra category => "Unhandled extra attribute of category " ++ category

/-- A value that may break a rule of its field. -/
def Field.require (f : Field) (value : String) (c : Constraint) (holds : Bool) :
    Except Error Unit :=
  if holds then .ok () else .error (.invalidField f value c)

/-- A string that has to match a pattern. -/
def Field.checkString (f : Field) (value : String) (p : Pattern) : Except Error Unit :=
  f.require value (.pattern p) (p.accepts value)

/-- A number that has to lie within bounds. -/
def Field.checkNumber (f : Field) (value lo hi : Nat) : Except Error Unit :=
  f.require (toString value) (.between lo hi) (lo ≤ value && value ≤ hi)

/-- An endpoint of a cross reference that no book, chapter or verse answers to. -/
structure DanglingReference where
  abbreviation : String
  book : BookId
  chapter : Nat
  verse : String
  deriving DecidableEq, Repr

/-- A reference as shown in reports. -/
def DanglingReference.display (r : DanglingReference) : String :=
  r.abbreviation ++ "(" ++ r.book.osisId ++ ") " ++ toString r.chapter ++ ":" ++ r.verse

end ScriptureText
