/-
ScriptureText.Field — the fields that elements carry and the patterns their
strings have to match. The central one is `Pattern.spacedText`: text without
control characters in which single spaces separate words, with at most one
space at either end.
-/
import ScriptureText.Pattern

namespace ScriptureText

/-- A checked field of an element, or the code of a formatting kind. -/
inductive Field where
  | text | raw | depth | bookAbbr | firstChapter | firstVerse | lastChapter | lastVerse
  | css | strongs | rmac | sourceIndices | dictionary | entry | variations | variation
  | category | key | value | kind
  deriving DecidableEq, Repr

namespace Field

/-- The name of a field in messages. -/
def name : Field → String
  | .text => "text"
  | .raw => "raw"
  | .depth => "depth"
  | .bookAbbr => "bookAbbr"
  | .firstChapter => "firstChapter"
  | .firstVerse => "firstVerse"
  | .lastChapter => "lastChapter"
  | .lastVerse => "lastVerse"
  | .css => "css"
  | .strongs => "strongs"
  | .rmac => "rmac"
  | .sourceIndices => "sourceIndices"
  | .dictionary => "dictionary"
  | .entry => "entry"
  | .variations => "variations"
  | .variation => "variation"
  | .category => "category"
  | .key => "key"
  | .value => "value"
  | .kind => "kind"

end Field

namespace Pattern

/-! ## §1 Text -/

/-- A character that is neither a space nor a control character. -/
def ink : Pattern := oneOf ⟨[.char ' ', .category .control], true⟩

/-- Words separated by single spaces. -/
def words : Pattern := oneOrMore ink ++ many (word " " ++ oneOrMore ink)

/-- Words with at most one space before and after them, or a lone space. -/
def spacedText : Pattern :=
  word " " ||| opt (word " ") ++ words ++ opt (word " ")

/-- Inline style without control characters, quotes, angle brackets and ampersands. -/
def css : Pattern :=
  many (oneOf ⟨[.category .control, .char '"', .char '<', .char '>', .char '&'], true⟩)

/-! ## §2 References -/

/-- A book abbreviation: an upper-case letter or a digit, then letters and digits. -/
def abbreviation : Pattern :=
  oneOf ⟨[.category .uppercase, .category .titlecase, .range '0' '9'], false⟩ ++
    many (oneOf ⟨[.category .letter, .range '0' '9'], false⟩)

/-- A number without leading zeros, with an optional letter. -/
def versePart : Pattern :=
  range '1' '9' ++ many (range '0' '9') ++ opt (oneOf ⟨[.range 'a' 'z', .char 'G'], false⟩)

/-- A verse label: one part, such as `5a`, or two, such as `5.1`. -/
def verse : Pattern :=
  versePart ++ opt (chars ".,/" ++ versePart)

/-! ## §3 Morphology -/

/-- Words that do not inflect. -/
def indeclinable : Pattern :=
  anyOf ["ADV", "CONJ", "COND", "PRT", "PREP", "INJ", "ARAM", "HEB", "N-PRI", "A-NUI",
    "N-LI", "N-OI"] ++
    opt (word "-" ++ times 3 (range 'A' 'Z'))

/-- Nouns, adjectives, pronouns and articles. -/
def nominal : Pattern :=
  chars "NARCDTKIXQFSP" ++
    opt (word "-" ++ opt (chars "123") ++ chars "NVGDA" ++ chars "SP" ++ opt (chars "MFN")) ++
    opt (word "-" ++ anyOf ["S", "C", "ABB", "I", "N", "K", "ATT", "ARAM", "HEB"])

/-- Verbs. -/
def verb : Pattern :=
  word "V-" ++ (chars "PIFARLX" ||| word "2" ++ chars "FARL") ++ chars "AMPEDONQX" ++
    chars "ISOMNP" ++
    opt (word "-" ++ (chars "123" ++ chars "SP" ||| chars "NGDAV" ++ chars "SPD" ++ chars "MFN")) ++
    opt (anyOf ["-ATT", "-ARAM", "-HEB"])

/-- Robinson's morphological analysis codes. -/
def rmac : Pattern := indeclinable ||| nominal ||| verb

/-! ## §4 Identifiers -/

/-- ASCII letters and digits. -/
def alnum : Pattern :=
  oneOrMore (oneOf ⟨[.range 'A' 'Z', .range 'a' 'z', .range '0' '9'], false⟩)

/-- ASCII letters, digits and hyphens. -/
def alnumHyphen : Pattern :=
  oneOrMore (oneOf ⟨[.range 'A' 'Z', .range 'a' 'z', .range '0' '9', .char '-'], false⟩)

/-- ASCII lower-case letters and digits. -/
def lowerAlnum : Pattern :=
  oneOrMore (oneOf ⟨[.range 'a' 'z', .range '0' '9'], false⟩)

/-- ASCII lower-case letters, digits and hyphens. -/
def lowerAlnumHyphen : Pattern :=
  oneOrMore (oneOf ⟨[.range 'a' 'z', .range '0' '9', .char '-'], false⟩)

end Pattern

end ScriptureText
