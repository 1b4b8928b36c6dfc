/-
ScriptureText.Traversal.Consumer — reading a tree once, in document order. A
consumer is offered the headline run, then the start of the body, the body run
and the end of the node. For a container it may ask to be offered the content:
it then gives a state for the inside and takes what came of it back in `leave`.
Building, validation, signatures and snapshots are consumers.
-/
import ScriptureText.Tree.Basic

namespace ScriptureText

/-- A state machine that reads a node. Each step may fail, and keeps the state
it reached when it does. -/
structure Consumer (ε σ : Type) where
  /-- An element without content. -/
  leaf : Leaf → EStateM ε σ Unit
  /-- A container; the state for its content, or none to pass over it. -/
  enter : Tag → EStateM ε σ (Option σ)
  /-- The state outside, after the content left the state inside. -/
  leave : Tag → σ → σ → σ
  /-- The end of the headline run. -/
  start : EStateM ε σ Unit
  /-- The end of the node. -/
  finish : EStateM ε σ Unit

namespace Consumer

variable {ε σ : Type}

/-- A container whose content, if asked for, is read by `inside`. Also when
that fails, what came of the content is taken back. -/
def within (c : Consumer ε σ) (t : Tag) (inside : EStateM ε σ Unit) : EStateM ε σ Unit :=
  fun s =>
    match c.enter t s with
    | .error e s => .error e s
    | .ok none s => .ok () s
    | .ok (some child) s =>
      match inside child with
      | .ok _ child => .ok () (c.leave t s child)
      | .error e child => .error e (c.leave t s child)

/-- The state that a run without possible failure ends in. -/
def finalState {α : Type} : EStateM.Result Empty σ α → σ
  | .ok _ s => s

end Consumer

variable {ε σ : Type}

mutual

/-- Offer a node to a consumer. -/
def Node.feed (c : Consumer ε σ) : Node → EStateM ε σ Unit
  | ⟨hs, b, _⟩ => do
    Headline.feedRun c hs
    c.start
    Element.feedRun c b
    c.finish

/-- Offer a headline run to a consumer. -/
def Headline.feedRun (c : Consumer ε σ) : List Headline → EStateM ε σ Unit
  | [] => pure ()
  | ⟨d, content⟩ :: rest => do
    c.within (.headline d) (content.feed c)
    Headline.feedRun c rest

/-- Offer a body run to a consumer. -/
def Element.feedRun (c : Consumer ε σ) : List Element → EStateM ε σ Unit
  | [] => pure ()
  | .leaf l :: rest => do
    c.leaf l
    Element.feedRun c rest
  | .container t content :: rest => do
    c.within t (content.feed c)
    Element.feedRun c rest

end

/-- Offer one element to a consumer. -/
def Element.feed (c : Consumer ε σ) (e : Element) : EStateM ε σ Unit :=
  Element.feedRun c [e]

end ScriptureText
