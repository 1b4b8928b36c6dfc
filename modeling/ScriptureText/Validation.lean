/-
ScriptureText.Validation — the structural rules of finished trees. A validator
reads the tree once; the first rule that is broken ends the reading. Endpoints
of cross references that the Bible in use lacks break no rule: they are added
to a list of dangling references.

Spaces may not start a node nor follow another space, a line break or a
headline, and may not end a node nor precede a line break or a headline.
Headlines stand outside headlines, footnotes and cross references, and
consecutive ones get deeper. Footnotes do not nest. Cross references stand in
footnotes, and their first verse does not come after their last in a chapter.
Verse separators stand in verses, line breaks in verses, normal text and
footnotes. No node is empty.
-/
import ScriptureText.Bible
import ScriptureText.Signature
import ScriptureText.Text
import ScriptureText.Tree.Check
import ScriptureText.Tree.Lifecycle

namespace ScriptureText

/-! ## §1 Contexts -/

/-- Where a node stands, from the least to the most restrictive. -/
inductive Context where
  | verse | normalText | headline | footnote | crossReference
  deriving DecidableEq, Repr, Inhabited

namespace Context

/-- All contexts in order. -/
def all : List Context := [.verse, .normalText, .headline, .footnote, .crossReference]

/-- Rank in the order of restriction. -/
def rank : Context → Nat
  | .verse => 0
  | .normalText => 1
  | .headline => 2
  | .footnote => 3
  | .crossReference => 4

instance : LE Context := ⟨fun a b => a.rank ≤ b.rank⟩
instance : LT Context := ⟨fun a b => a.rank < b.rank⟩
instance (a b : Context) : Decidable (a ≤ b) := inferInstanceAs (Decidable (a.rank ≤ b.rank))
instance (a b : Context) : Decidable (a < b) := inferInstanceAs (Decidable (a.rank < b.rank))
instance : Ord Context := ⟨fun a b => compare a.rank b.rank⟩

/-- The name of a context. -/
def name : Context → String
  | .verse => "Verse"
  | .normalText => "NormalText"
  | .headline => "Headline"
  | .footnote => "Footnote"
  | .crossReference => "CrossReference"

/-- The context a name stands for. -/
def ofName? (s : String) : Option Context := all.find? (·.name == s)

end Context

/-! ## §2 The validator -/

namespace Validator

/-- What a validator knows of the node it reads, and the dangling references so
far, oldest first. -/
structure State where
  context : Context
  /-- Depth of the headline directly before, and 0 if there is none. -/
  lastHeadline : Nat
  /-- Whether text may start with a space here. -/
  spaceMayLead : Bool
  /-- Whether a space was read last. -/
  spaceTrails : Bool
  isEmpty : Bool
  dangling : List DanglingReference

/-- A validator at the start of a node. -/
def State.fresh (context : Context) (dangling : List DanglingReference) : State :=
  ⟨context, 0, false, false, true, dangling⟩

/-- The state after an element within a line. -/
def State.afterInline (s : State) : State :=
  { s with lastHeadline := 0, spaceMayLead := true, spaceTrails := false, isEmpty := false }

/-- A step of a validator. -/
abbrev Step (α : Type) := EStateM Error State α

/-- The end of the reading. -/
def violated {α : Type} (v : Violation) : Step α := throw (.structural v)

/-- The state for the content of a container. -/
def inside (context : Context) : Step (Option State) := do
  return some (.fresh context (← get).dangling)

/-- The position of a verse; a verse that is not found is noted. -/
def resolve (lookup : VerseLookup) (abbreviation : String) (book : BookId) (chapter : Nat)
    (verse : String) : Step (Option Nat) := do
  let position := lookup abbreviation book chapter verse
  if position.isNone then
    modify fun s => { s with dangling := s.dangling ++ [⟨abbreviation, book, chapter, verse⟩] }
  return position

/-- Text. -/
def onText (t : String) : Step Unit := do
  modify fun s => { s with lastHeadline := 0, isEmpty := false }
  let s ← get
  if Text.startsWithSpace t then
    if s.spaceTrails then violated .whitespaceAdjacentToWhitespace
    if !s.spaceMayLead then violated .leadingWhitespace
  set { s with spaceTrails := Text.endsWithSpace t }

/-- A line break. -/
def onLineBreak : Step Unit := do
  let s ← get
  if s.spaceTrails then violated .whitespaceBeforeLineBreak
  if Context.headline ≤ s.context ∧ s.context ≠ .footnote then violated .lineBreakOutsideBlock
  set { s with lastHeadline := 0, spaceMayLead := false, isEmpty := false }

/-- A verse separator. -/
def onVerseSeparator : Step Unit := do
  if (← get).context ≠ .verse then violated .verseSeparatorOutsideVerse
  modify State.afterInline

/-- A leaf of any kind. -/
def onLeaf : Leaf → Step Unit
  | .text t => onText t
  | .lineBreak _ => onLineBreak
  | .verseSeparator => onVerseSeparator
  | .rawHtml _ _ => modify State.afterInline

/-- A headline; depth 9 counts as 8. -/
def onHeadline (depth : Nat) : Step (Option State) := do
  let s ← get
  if Context.headline ≤ s.context then violated .nestedHeadline
  let depth := min depth 8
  if depth ≤ s.lastHeadline then violated .headlineDepthOrder
  if s.spaceTrails then violated .whitespaceBeforeHeadline
  set { s with lastHeadline := depth, spaceMayLead := false, isEmpty := false }
  inside .headline

/-- A footnote. -/
def onFootnote : Step (Option State) := do
  if Context.footnote ≤ (← get).context then violated .nestedFootnote
  modify State.afterInline
  inside .footnote

/-- A cross reference; its endpoints are ordered only where both are found in
one chapter. -/
def onCrossReference (lookup : VerseLookup) (p : Passage) : Step (Option State) := do
  let s ← get
  if Context.crossReference ≤ s.context then violated .nestedCrossReference
  if s.context < .footnote then violated .crossReferenceOutsideFootnote
  modify State.afterInline
  let first ← resolve lookup p.abbreviation p.book p.firstChapter p.firstVerse
  let last ← resolve lookup p.abbreviation p.book p.lastChapter p.lastVerse
  match first, last with
  | some i, some j =>
    if p.firstChapter = p.lastChapter ∧ j < i then violated .crossReferenceRangeOrder
  | _, _ => pure ()
  inside .crossReference

/-- An extra attribute: one to be skipped changes nothing but that the node is
not empty, and one to be refused counts as an element of unknown content. -/
def onExtra : Priority → Step (Option State)
  | .keepContent => do
    modify State.afterInline
    inside (← get).context
  | .error => do
    modify State.afterInline
    return none
  | .skip => do
    modify fun s => { s with isEmpty := false }
    return none

/-- A container of any kind. -/
def onTag (lookup : VerseLookup) : Tag → Step (Option State)
  | .headline depth => onHeadline depth
  | .footnote => onFootnote
  | .crossReference p => onCrossReference lookup p
  | .extra x => onExtra x.priority
  | .format _ | .css _ | .grammar _ | .dictionary _ _ | .variation _ => do
    modify State.afterInline
    inside (← get).context

/-- The end of a node. -/
def onFinish : Step Unit := do
  let s ← get
  if s.spaceTrails then violated .trailingWhitespace
  if s.isEmpty then violated .emptyElement

/-- The consumer that validates. -/
def consumer (lookup : VerseLookup) : Consumer Error State where
  leaf := onLeaf
  enter := onTag lookup
  leave _ s inside := { s with dangling := inside.dangling }
  start := pure ()
  finish := onFinish

end Validator

/-! ## §3 Validation of trees -/

namespace Node

/-- Validate a finished node that stands in `context`; the dangling references
found are added to `dangling`, also when a rule is broken. -/
def validateIn (n : Node) (lookup : VerseLookup) (context : Context)
    (dangling : List DanglingReference) : Except Error Unit × List DanglingReference :=
  match n.requireFinished .validation with
  | .error e => (.error e, dangling)
  | .ok () =>
    match n.feed (Validator.consumer lookup) (.fresh context dangling) with
    | .ok _ s => (.ok (), s.dangling)
    | .error e s => (.error e, s.dangling)

/-- Validate a finished node as normal text. -/
def validate (n : Node) (lookup : VerseLookup) (dangling : List DanglingReference) :
    Except Error Unit × List DanglingReference :=
  n.validateIn lookup .normalText dangling

/-- Validate a finished node as the text of a verse. -/
def validateVerse (n : Node) (lookup : VerseLookup) (dangling : List DanglingReference) :
    Except Error Unit × List DanglingReference :=
  n.validateIn lookup .verse dangling

end Node

end ScriptureText
