/-
ScriptureText.Assertion — expectations on a tree, followed from a node into
its children. Every report starts with the place that was reached, such as
`text.elements[1].content.elements[0]`, and the first failure ends a chain.
-/
import ScriptureText.Signature
import ScriptureText.TextMatch

namespace ScriptureText

/-! ## §1 Chains -/

mutual

/-- Expectations on a node, in order. -/
inductive NodeChain where
  | done
  | headlineCount (n : Nat) (next : NodeChain)
  | elementCount (n : Nat) (next : NodeChain)
  | isFinished (next : NodeChain)
  | signature (depth : Nat) (expected : String) (next : NodeChain)
  | headline (index : Nat) (inside : HeadlineChain) (next : NodeChain)
  | element (index : Nat) (inside : ElementChain) (next : NodeChain)

/-- Expectations on a headline; going on to its content ends them. -/
inductive HeadlineChain where
  | done
  | depth (n : Nat) (next : HeadlineChain)
  | content (inside : NodeChain)

/-- Expectations on an element; all but those on its type end the chain. -/
inductive ElementChain where
  | done
  | elementType (expected : String) (next : ElementChain)
  | text (inside : List TextMatch)
  | headline (inside : HeadlineChain)
  | footnote (inside : NodeChain)
  | crossReference (inside : PassageChain)
  | lineBreak (kind : LineBreak)
  | verseSeparator
  | content (inside : NodeChain)

/-- Expectations on a cross reference; going on to its content ends them. -/
inductive PassageChain where
  | done
  | book (abbreviation : String) (id : BookId) (next : PassageChain)
  | range (firstChapter : Nat) (firstVerse : String) (lastChapter : Nat) (lastVerse : String)
      (next : PassageChain)
  | content (inside : NodeChain)

end

/-! ## §2 Reports -/

namespace Assertion

/-- Success, or a report at a place. -/
def expect (place : String) (holds : Bool) (report : String) : Except String Unit :=
  if holds then .ok () else .error (place ++ ": " ++ report)

/-- The report for an element of another type. -/
def mismatch (place expected : String) (e : Element) : Except String Unit :=
  .error (place ++ ": Expected " ++ expected ++ ", found " ++ e.typeName)

/-- A body run in one line. -/
def summary (run : List Element) : String :=
  ", ".intercalate (run.map fun e =>
    match e.text? with
    | some s => "Text(" ++ Quoted.quote s ++ ")"
    | none => e.typeName)

/-- A place within a run. -/
def entry (place run : String) (index : Nat) : String :=
  place ++ "." ++ run ++ "[" ++ toString index ++ "]"

/-- The place of an element's content. -/
def contentOf (place : String) : String := place ++ ".content"

/-- The signature of a node is as expected. -/
def checkSignature (place : String) (n : Node) (depth : Nat) (expected : String) :
    Except String Unit :=
  match n.elementTypes depth with
  | .error e => .error (place ++ ": Cannot compute signature: " ++ e.message)
  | .ok actual => expect place (actual == expected)
    ("Expected signature " ++ Quoted.quote expected ++ " at depth " ++ toString depth ++
      ", got " ++ Quoted.quote actual)

end Assertion

open Assertion

mutual

/-- Follow a chain from a node at a place. -/
def NodeChain.check : NodeChain → String → Node → Except String Unit
  | .done, _, _ => .ok ()
  | .headlineCount expected next, place, n => do
    expect place (n.headlines.length == expected)
      ("Expected " ++ toString expected ++ " headlines in the headline run, found " ++
        toString n.headlines.length)
    next.check place n
  | .elementCount expected next, place, n => do
    expect place (n.body.length == expected)
      ("Expected " ++ toString expected ++ " elements, found " ++ toString n.body.length ++
        ": [" ++ summary n.body ++ "]")
    next.check place n
  | .isFinished next, place, n => do
    expect place n.finished "Expected formatted text to be finished"
    next.check place n
  | .signature depth expected next, place, n => do
    checkSignature place n depth expected
    next.check place n
  | .headline index inside next, place, n => do
    match n.headlines[index]? with
    | none => expect place false ("Headline index " ++ toString index ++ " out of bounds (" ++
        toString n.headlines.length ++ " headlines)")
    | some h => inside.check (entry place "headlines" index) h
    next.check place n
  | .element index inside next, place, n => do
    match n.body[index]? with
    | none => expect place false ("Element index " ++ toString index ++ " out of bounds (" ++
        toString n.body.length ++ " elements)")
    | some e => inside.check (entry place "elements" index) e
    next.check place n

/-- Follow a chain from a headline at a place. -/
def HeadlineChain.check : HeadlineChain → String → Headline → Except String Unit
  | .done, _, _ => .ok ()
  | .depth expected next, place, h => do
    expect place (h.depth == expected) "Unexpected headline depth"
    next.check place h
  | .content inside, place, h => inside.check (contentOf place) h.content

/-- Follow a chain from an element at a place. -/
def ElementChain.check : ElementChain → String → Element → Except String Unit
  | .done, _, _ => .ok ()
  | .elementType expected next, place, e => do
    expect place (e.typeName == expected) "Unexpected element type"
    next.check place e
  | .text inside, place, e =>
    match e.text? with
    | some s => inside.forM fun m => m.check place s
    | none => mismatch place "Text" e
  | .headline inside, place, e =>
    match e.headline? with
    | some h => inside.check place h
    | none => mismatch place "Headline" e
  | .footnote inside, place, e =>
    match e with
    | .container .footnote c => inside.check (contentOf place) c
    | _ => mismatch place "Footnote" e
  | .crossReference inside, place, e =>
    match e with
    | .container (.crossReference p) c => inside.check place p c
    | _ => mismatch place "CrossReference" e
  | .lineBreak kind, place, e =>
    match e with
    | .leaf (.lineBreak actual) => expect place (actual == kind) "Unexpected line break kind"
    | _ => mismatch place "LineBreak" e
  | .verseSeparator, place, e =>
    match e with
    | .leaf .verseSeparator => .ok ()
    | _ => mismatch place "VerseSeparator" e
  | .content inside, place, e =>
    match e.content? with
    | some c => inside.check (contentOf place) c
    | none => mismatch place "a container element" e

/-- Follow a chain from a cross reference, given by its passage and content, at
a place. -/
def PassageChain.check : PassageChain → String → Passage → Node → Except String Unit
  | .done, _, _, _ => .ok ()
  | .book abbreviation id next, place, p, c => do
    expect place (p.abbreviation == abbreviation && p.book == id)
      "Unexpected cross reference book"
    next.check place p c
  | .range firstChapter firstVerse lastChapter lastVerse next, place, p, c => do
    expect place
      (p.firstChapter == firstChapter && p.firstVerse == firstVerse &&
        p.lastChapter == lastChapter && p.lastVerse == lastVerse)
      "Unexpected cross reference range"
    next.check place p c
  | .content inside, place, _, c => inside.check (contentOf place) c

end

/-- Follow a chain from a tree. -/
def Node.assertChain (n : Node) (chain : NodeChain) : Except String Unit :=
  chain.check "text" n

end ScriptureText
