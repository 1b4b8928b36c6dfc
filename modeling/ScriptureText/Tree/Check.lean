/-
ScriptureText.Tree.Check — what the fields of an element may hold. `Leaf.check`
and `Tag.check` test the fields in their order and report the first that is
malformed.
-/
import ScriptureText.Error
import ScriptureText.Tree.Basic

namespace ScriptureText

/-- The largest chapter number. -/
def maxChapter : Nat := 4294967295

/-- The first malformed field of a leaf. -/
def Leaf.check : Leaf → Except Error Unit
  | .text s => Field.text.checkString s Pattern.spacedText
  | .rawHtml _ raw => Field.raw.checkString raw Pattern.words
  | .verseSeparator => .ok ()
  | .lineBreak _ => .ok ()

/-- The abbreviation, both chapters in order, and both verse labels. -/
def Passage.check (p : Passage) : Except Error Unit := do
  Field.bookAbbr.checkString p.abbreviation Pattern.abbreviation
  Field.firstChapter.checkNumber p.firstChapter 1 maxChapter
  Field.firstVerse.checkString p.firstVerse Pattern.verse
  Field.lastChapter.checkNumber p.lastChapter p.firstChapter maxChapter
  Field.lastVerse.checkString p.lastVerse Pattern.verse

namespace Grammar

/-- At least one Strong's number, all positive. -/
def checkStrongs (strongs : List Nat) : Except Error Unit := do
  Field.strongs.require "[]" .nonempty !strongs.isEmpty
  match strongs.find? (· == 0) with
  | some n => .error (.invalidField .strongs (toString n) .positive)
  | none => .ok ()

/-- Source indices go with morphology codes, one per Strong's number. -/
def checkIndices (count : Nat) (indices : List Nat) : Except Error Unit := do
  Field.sourceIndices.require (Quoted.numberList indices) .lengthOfStrongs
    (indices.length == count)
  indices.forM fun i => Field.sourceIndices.checkNumber i 1 100

/-- Strong's numbers; then morphology codes, one per number; then source indices. -/
def check (g : Grammar) : Except Error Unit := do
  checkStrongs g.strongs
  match g.rmac, g.sourceIndices with
  | none, none => .ok ()
  | none, some indices =>
    .error (.invalidField .sourceIndices (Quoted.numberList indices) .needsRmac)
  | some codes, indices =>
    Field.rmac.require (Quoted.quoteList codes) .lengthOfStrongs
      (codes.length == g.strongs.length)
    codes.forM fun code => Field.rmac.checkString code Pattern.rmac
    (indices.map (checkIndices g.strongs.length)).getD (.ok ())

end Grammar

/-- Strong's numbers and morphology codes have an element of their own, so
their names are not those of a dictionary. -/
def checkDictionary (name entry : String) : Except Error Unit := do
  Field.dictionary.checkString name Pattern.alnum
  Field.dictionary.require name .unreserved
    (name != "strongs" && name != "rmac")
  Field.entry.checkString entry Pattern.alnumHyphen

/-- At least one variation. -/
def checkVariations (variations : List String) : Except Error Unit := do
  Field.variations.require "[]" .nonempty !variations.isEmpty
  variations.forM fun v => Field.variation.checkString v Pattern.alnumHyphen

/-- Category, key and value of an extra attribute. -/
def ExtraAttribute.check (x : ExtraAttribute) : Except Error Unit := do
  Field.category.checkString x.category Pattern.lowerAlnum
  Field.key.checkString x.key Pattern.lowerAlnumHyphen
  Field.value.checkString x.value Pattern.alnumHyphen

/-- The first malformed field of a container. -/
def Tag.check : Tag → Except Error Unit
  | .headline depth => Field.depth.checkNumber depth 1 9
  | .footnote => .ok ()
  | .crossReference p => p.check
  | .format _ => .ok ()
  | .css style => Field.css.checkString style Pattern.css
  | .grammar g => g.check
  | .dictionary name entry => checkDictionary name entry
  | .variation variations => checkVariations variations
  | .extra x => x.check

/-! ## Single values -/

/-- The kind that a letter stands for. -/
def FormatKind.ofCode (c : Char) : Except Error FormatKind :=
  match FormatKind.ofCode? c with
  | some k => .ok k
  | none => .error (.invalidField .kind c.toString .knownCode)

/-- What a consumer without support for `category` does with an attribute's content. -/
def Priority.resolve (p : Priority) (category : String) : Except Error Handling :=
  match p with
  | .keepContent => .ok .keepContent
  | .skip => .ok .skipContent
  | .error => .error (.unhandledExtra category)

end ScriptureText
