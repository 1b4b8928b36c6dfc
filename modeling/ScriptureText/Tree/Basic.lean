/-
ScriptureText.Tree.Basic — formatted text as a tree. A node holds a run of
headlines followed by a body run; a body element is a leaf or a container with
a node of its own. Fields are plain data here: what a field may hold is said in
`Tree.Check`, and which trees arise from building in `Tree.Reachable`.
-/
import ScriptureText.BookId
import ScriptureText.Kinds

namespace ScriptureText

/-! ## §1 Elements without their content -/

/-- An element without content. -/
inductive Leaf where
  | text (s : String)
  | verseSeparator
  | lineBreak (kind : LineBreak)
  | rawHtml (mode : RawMode) (raw : String)
  deriving DecidableEq, Repr

/-- A range of verses in one book, under the abbreviation used in the text. -/
structure Passage where
  abbreviation : String
  book : BookId
  firstChapter : Nat
  firstVerse : String
  lastChapter : Nat
  lastVerse : String
  deriving DecidableEq, Repr

/-- Text at the start of a footnote that marks it as a list of cross references. -/
def crossReferenceMarker : String := "\u2118 "

/-- Strong's numbers, with the morphology of each and its place in the source
text where they are known. -/
structure Grammar where
  strongs : List Nat
  rmac : Option (List String)
  sourceIndices : Option (List Nat)
  deriving DecidableEq, Repr

/-- Data of one format that other consumers treat according to its priority. -/
structure ExtraAttribute where
  priority : Priority
  category : String
  key : String
  value : String
  deriving DecidableEq, Repr

/-- A container without its content. -/
inductive Tag where
  | headline (depth : Nat)
  | footnote
  | crossReference (passage : Passage)
  | format (kind : FormatKind)
  | css (style : String)
  | grammar (info : Grammar)
  | dictionary (name entry : String)
  | variation (variations : List String)
  | extra (data : ExtraAttribute)
  deriving DecidableEq, Repr

/-! ## §2 Nodes -/

mutual

/-- A node: headlines, then body elements; `finished` once it may no longer change. -/
structure Node where
  headlines : List Headline
  body : List Element
  finished : Bool

/-- An entry of a headline run. -/
structure Headline where
  depth : Nat
  content : Node

/-- An entry of a body run. -/
inductive Element where
  | leaf (leaf : Leaf)
  | container (tag : Tag) (content : Node)

end

instance : Inhabited Node := ⟨⟨[], [], false⟩⟩

namespace Leaf

/-- The name of a leaf's type. -/
def typeName : Leaf → String
  | .text _ => "Text"
  | .verseSeparator => "VerseSeparator"
  | .lineBreak _ => "LineBreak"
  | .rawHtml _ _ => "RawHTML"

/-- The text of a text leaf. -/
def text? : Leaf → Option String
  | .text s => some s
  | _ => none

end Leaf

namespace Tag

/-- The name of a container's type. -/
def typeName : Tag → String
  | .headline _ => "Headline"
  | .footnote => "Footnote"
  | .crossReference _ => "CrossReference"
  | .format _ => "FormattingInstruction"
  | .css _ => "CSSFormatting"
  | .grammar _ => "GrammarInformation"
  | .dictionary _ _ => "DictionaryEntry"
  | .variation _ => "VariationText"
  | .extra _ => "ExtraAttribute"

end Tag

namespace Headline

/-- A headline as a body element. -/
def toElement (h : Headline) : Element := .container (.headline h.depth) h.content

end Headline

namespace Element

/-- The name of an element's type. -/
def typeName : Element → String
  | .leaf l => l.typeName
  | .container t _ => t.typeName

/-- The node inside a container. -/
def content? : Element → Option Node
  | .leaf _ => none
  | .container _ c => some c

/-- Whether an element has a node of its own. -/
def isContainer (e : Element) : Bool := e.content?.isSome

/-- The text of a text leaf. -/
def text? : Element → Option String
  | .leaf l => l.text?
  | .container _ _ => none

/-- Whether an element is a text leaf. -/
def isText (e : Element) : Bool := e.text?.isSome

/-- An element as an entry of a headline run. -/
def headline? : Element → Option Headline
  | .container (.headline d) c => some ⟨d, c⟩
  | _ => none

/-- Whether an element is a headline. -/
def isHeadline (e : Element) : Bool := e.headline?.isSome

/-- Line breaks and headlines end a line of running text. -/
def isBlockBoundary : Element → Bool
  | .leaf (.lineBreak _) => true
  | .container (.headline _) _ => true
  | _ => false

end Element

namespace Node

/-- The open node without children. -/
def empty : Node := ⟨[], [], false⟩

/-- Whether neither run holds anything. -/
def isEmpty (n : Node) : Bool := n.headlines.isEmpty && n.body.isEmpty

/-- The children in document order: the headline run, then the body run. -/
def children (n : Node) : List Element := n.headlines.map Headline.toElement ++ n.body

end Node

/-! ## §3 Equality -/

mutual

/-- Equality of nodes, finished flags included. -/
def Node.beq : Node → Node → Bool
  | ⟨hs, b, f⟩, ⟨hs', b', f'⟩ => f == f' && Headline.beqRun hs hs' && Element.beqRun b b'
termination_by structural n => n

/-- Equality of headline runs. -/
def Headline.beqRun : List Headline → List Headline → Bool
  | [], [] => true
  | ⟨d, c⟩ :: r, ⟨d', c'⟩ :: r' => d == d' && c.beq c' && Headline.beqRun r r'
  | _, _ => false
termination_by structural hs => hs

/-- Equality of body runs. -/
def Element.beqRun : List Element → List Element → Bool
  | [], [] => true
  | .leaf l :: r, .leaf l' :: r' => l == l' && Element.beqRun r r'
  | .container t c :: r, .container t' c' :: r' => t == t' && c.beq c' && Element.beqRun r r'
  | _, _ => false
termination_by structural es => es

end

instance : BEq Node := ⟨Node.beq⟩

end ScriptureText
