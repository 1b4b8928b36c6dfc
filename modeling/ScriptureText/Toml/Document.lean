/-
ScriptureText.Toml.Document — reading a TOML document. Its statements are
carried out one after the other, each key in the table of the last header.
-/
import ScriptureText.Toml.Statement

namespace ScriptureText.Toml

/-- What is read of a document: the header that keys belong to, and all entries. -/
structure Progress where
  header : List String
  entries : Entries

/-- Carry out one statement. -/
def Progress.step (p : Progress) : Statement → Option Progress
  | .table header => do return ⟨header, ← p.entries.addTable header⟩
  | .element header => do return ⟨header, ← p.entries.addElement header⟩
  | .set key v => do return ⟨p.header, ← p.entries.setUnder v key p.header⟩

/-- A text without a byte order mark at its start. -/
def dropMark : List Char → List Char
  | '\ufeff' :: rest => rest
  | cs => cs

/-- A text with line feeds in place of line breaks of two characters. -/
def unifyBreaks : List Char → List Char
  | '\r' :: '\n' :: rest => '\n' :: unifyBreaks rest
  | c :: rest => c :: unifyBreaks rest
  | [] => []

/-- The top-level entries of a document; none if the text is not TOML, or a
table in it stands for a date or time and holds none, or the document as a whole
stands for one. -/
def document? (text : String) : Option (List (String × Value)) := do
  let statements ← statements? (unifyBreaks (dropMark text.toList))
  let p ← statements.foldlM Progress.step ⟨[], []⟩
  match ← (Value.table (entryValues p.entries)).resolve? with
  | .table es => some es
  | _ => none

end ScriptureText.Toml
