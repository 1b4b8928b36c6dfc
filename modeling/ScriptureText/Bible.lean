/-
ScriptureText.Bible — books, chapters and verse labels that cross references
point to. `Bible.verseIndex` resolves one endpoint: the book is found by
abbreviation and identifier, the chapter by its number from 1, and the verse by
its label.
-/
import ScriptureText.BookId

namespace ScriptureText

/-- A chapter: its verse labels in order. -/
structure Chapter where
  verses : List String
  deriving DecidableEq, Repr

namespace Chapter

/-- The chapter with verses `1` to `count`. -/
def numbered (count : Nat) : Chapter := ⟨(List.range count).map fun i => toString (i + 1)⟩

/-- Position of the first verse with the given label, from 0. -/
def verseIndex? (c : Chapter) (label : String) : Option Nat := c.verses.findIdx? (· == label)

end Chapter

/-- A book under one abbreviation: its chapters in order. -/
structure Book where
  abbreviation : String
  id : BookId
  chapters : List Chapter
  deriving DecidableEq, Repr

/-- The chapter with the given number, from 1. -/
def Book.chapter? (b : Book) (number : Nat) : Option Chapter :=
  if number = 0 then none else b.chapters[number - 1]?

/-- A collection of books. -/
structure Bible where
  books : List Book
  deriving DecidableEq, Repr

namespace Bible

/-- The Bible without books. -/
def empty : Bible := ⟨[]⟩

/-- The first book with the given abbreviation and identifier. -/
def book? (b : Bible) (abbreviation : String) (id : BookId) : Option Book :=
  b.books.find? fun k => k.id == id && k.abbreviation == abbreviation

/-- Position of a verse in its chapter, from 0; none if the book is unknown,
has no such chapter, or the chapter has no such verse. -/
def verseIndex (b : Bible) (abbreviation : String) (id : BookId) (chapter : Nat)
    (verse : String) : Option Nat := do
  let book ← b.book? abbreviation id
  let found ← book.chapter? chapter
  found.verseIndex? verse

end Bible

/-- A way to resolve endpoints of cross references. -/
abbrev VerseLookup := String → BookId → Nat → String → Option Nat

end ScriptureText
