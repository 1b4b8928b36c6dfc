/-
ScriptureText.Kinds — the closed enumerations that elements carry: kinds of
formatting and of line breaks, where raw HTML applies, and what a consumer
does with an extra attribute it has no support for. Every enumeration has a
serialized name per value, and `all` lists its values in declaration order.
-/

namespace ScriptureText

/-! ## §1 Formatting -/

/-- Kind of a formatting instruction. A `footnoteLink` contains a footnote;
the rest of its content is the text the note refers to. -/
inductive FormatKind where
  | bold | italic | underline | link | footnoteLink | subscript | superscript
  | divineName | strikeThrough | wordsOfJesus
  deriving DecidableEq, Repr, Inhabited

namespace FormatKind

/-- All kinds in declaration order. -/
def all : List FormatKind :=
  [.bold, .italic, .underline, .link, .footnoteLink, .subscript, .superscript,
   .divineName, .strikeThrough, .wordsOfJesus]

/-- Serialized name. -/
def name : FormatKind → String
  | .bold => "bold"
  | .italic => "italic"
  | .underline => "underline"
  | .link => "link"
  | .footnoteLink => "footnote-link"
  | .subscript => "subscript"
  | .superscript => "superscript"
  | .divineName => "divine-name"
  | .strikeThrough => "strike-through"
  | .wordsOfJesus => "words-of-jesus"

/-- The lower-case letter that stands for a kind in compact encodings. -/
def code : FormatKind → Char
  | .bold => 'b'
  | .italic => 'i'
  | .underline => 'u'
  | .link => 'l'
  | .footnoteLink => 'f'
  | .subscript => 's'
  | .superscript => 'p'
  | .divineName => 'd'
  | .strikeThrough => 't'
  | .wordsOfJesus => 'w'

/-- The HTML element without attributes that renders a kind, if there is one. -/
def htmlTag? : FormatKind → Option String
  | .bold => some "b"
  | .italic => some "i"
  | .underline => some "u"
  | .subscript => some "sub"
  | .superscript => some "sup"
  | _ => none

/-- Inline style that renders a kind. -/
def css : FormatKind → String
  | .bold => "font-weight: bold;"
  | .italic => "font-style: italic;"
  | .underline => "text-decoration: underline;"
  | .link | .footnoteLink => "color: blue;"
  | .subscript => "font-size: .83em; vertical-align: sub;"
  | .superscript => "font-size: .83em; vertical-align: super;"
  | .divineName => "font-variant: small-caps;"
  | .strikeThrough => "text-decoration: line-through;"
  | .wordsOfJesus => "color: red;"

/-- The kind a serialized name stands for. -/
def ofName? (s : String) : Option FormatKind := all.find? (·.name == s)

/-- The kind a letter stands for. -/
def ofCode? (c : Char) : Option FormatKind := all.find? (·.code == c)

/-- Reading a code gives back the kind that was written. -/
theorem ofCode?_code (k : FormatKind) : ofCode? k.code = some k := by
  cases k <;> decide

end FormatKind

/-! ## §2 Line breaks and raw HTML -/

/-- Kind of a line break. -/
inductive LineBreak where
  | paragraph | newline | newlineWithIndent
  deriving DecidableEq, Repr, Inhabited

namespace LineBreak

/-- All kinds in declaration order. -/
def all : List LineBreak := [.paragraph, .newline, .newlineWithIndent]

/-- Serialized name. -/
def name : LineBreak → String
  | .paragraph => "paragraph"
  | .newline => "newline"
  | .newlineWithIndent => "newline-with-indent"

/-- The kind a serialized name stands for. -/
def ofName? (s : String) : Option LineBreak := all.find? (·.name == s)

end LineBreak

/-- Where a raw HTML fragment applies. -/
inductive RawMode where
  | online | offline | both
  deriving DecidableEq, Repr, Inhabited

namespace RawMode

/-- All modes in declaration order. -/
def all : List RawMode := [.online, .offline, .both]

/-- Serialized name. -/
def name : RawMode → String
  | .online => "online"
  | .offline => "offline"
  | .both => "both"

/-- The mode a serialized name stands for. -/
def ofName? (s : String) : Option RawMode := all.find? (·.name == s)

end RawMode

/-! ## §3 Extra attributes -/

/-- What a consumer without support for an extra attribute does with it: keep
its content as if the attribute were not there, drop both, or refuse. -/
inductive Priority where
  | keepContent | skip | error
  deriving DecidableEq, Repr, Inhabited

namespace Priority

/-- All priorities in declaration order. -/
def all : List Priority := [.keepContent, .skip, .error]

/-- Serialized name. -/
def name : Priority → String
  | .keepContent => "keep-content"
  | .skip => "skip"
  | .error => "error"

/-- The priority a serialized name stands for. -/
def ofName? (s : String) : Option Priority := all.find? (·.name == s)

end Priority

/-- What becomes of the content of an attribute without support. -/
inductive Handling where
  | keepContent | skipContent
  deriving DecidableEq, Repr

end ScriptureText
