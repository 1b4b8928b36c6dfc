/-
ScriptureText.Traversal.Visitor — the full traversal protocol. Before it reads
a node a visitor may ask for the node's signature, to one depth after another,
and at the end of the node it may ask to read the node again. How long that
goes on is up to the visitor, so a traversal has a limit on the rounds it
spends at each node; one that stays within it does not depend on the limit.
-/
import ScriptureText.Signature

namespace ScriptureText

/-! ## §1 Visitors -/

/-- A state machine that steers how a node is read. -/
structure Visitor (ε σ : Type) where
  /-- A signature that was asked for, or none at the outset; the reply is the
  depth of the next signature wanted, and 0 for no more. -/
  elementTypes : Option String → EStateM ε σ Nat
  /-- An element without content. -/
  leaf : Leaf → EStateM ε σ Unit
  /-- A container; the state for its content, or none to pass over it. -/
  enter : Tag → EStateM ε σ (Option σ)
  /-- The state outside, after the content left the state inside. -/
  leave : Tag → σ → σ → σ
  /-- The end of the headline run. -/
  start : EStateM ε σ Unit
  /-- The end of the node; the reply is whether to read it again. -/
  finish : EStateM ε σ Bool

/-- A consumer asks for no signature and reads each node once. -/
def Consumer.toVisitor {ε σ : Type} (c : Consumer ε σ) : Visitor ε σ where
  elementTypes _ := pure 0
  leaf := c.leaf
  enter := c.enter
  leave := c.leave
  start := c.start
  finish := do c.finish; pure false

/-- The visitor that takes no notice of anything. -/
def Visitor.idle (ε σ : Type) : Visitor ε σ where
  elementTypes _ := pure 0
  leaf _ := pure ()
  enter _ := pure none
  leave _ s _ := s
  start := pure ()
  finish := pure false

/-! ## §2 Bounded runs -/

/-- A run that may use up its limit, in which case there is no result. -/
def Run (ε σ α : Type) : Type := σ → Option (EStateM.Result ε σ α)

namespace Run

variable {ε σ α β : Type}

/-- A run of one step. -/
def step (x : EStateM ε σ α) : Run ε σ α := fun s => some (x s)

/-- A run that has used up its limit. -/
def exhausted : Run ε σ α := fun _ => none

/-- One run after another; a failure ends both. -/
def bind (x : Run ε σ α) (f : α → Run ε σ β) : Run ε σ β := fun s =>
  match x s with
  | none => none
  | some (.error e s) => some (.error e s)
  | some (.ok a s) => f a s

instance : Monad (Run ε σ) where
  pure a := step (pure a)
  bind := bind

/-- Repeat a run for as long as it says so, at most `limit` times. -/
def repeatWhile : Nat → Run ε σ Bool → Run ε σ Unit
  | 0, _ => exhausted
  | limit + 1, x => do if ← x then repeatWhile limit x

end Run

/-! ## §3 Traversal -/

namespace Visitor

variable {ε σ : Type}

/-- A container whose content, if asked for, is read by `inside`. Also when
that fails, what came of the content is taken back. -/
def within (v : Visitor ε σ) (t : Tag) (inside : Run ε σ Unit) : Run ε σ Unit := fun s =>
  match v.enter t s with
  | .error e s => some (.error e s)
  | .ok none s => some (.ok () s)
  | .ok (some child) s =>
    match inside child with
    | none => none
    | some (.ok _ child) => some (.ok () (v.leave t s child))
    | some (.error e child) => some (.error e (v.leave t s child))

/-- Give the signatures of a node that are asked for, from `asked` on, at most
`limit` times. -/
def negotiate (v : Visitor ε σ) (signature : Nat → String) : Nat → Option String → Run ε σ Unit
  | 0, _ => Run.exhausted
  | limit + 1, asked => do
    let depth ← Run.step (v.elementTypes asked)
    if depth = 0 then pure () else negotiate v signature limit (some (signature depth))

end Visitor

variable {ε σ : Type}

mutual

/-- Take a visitor through a node, with at most `limit` readings of any node
and at most `limit` requests for signatures before each. -/
def Node.accept (v : Visitor ε σ) (limit : Nat) : Node → Run ε σ Unit
  | ⟨hs, b, f⟩ => Run.repeatWhile limit (do
      v.negotiate (Node.signature ⟨hs, b, f⟩) limit none
      Headline.acceptRun v limit hs
      Run.step v.start
      Element.acceptRun v limit b
      Run.step v.finish)

/-- Take a visitor through a headline run. -/
def Headline.acceptRun (v : Visitor ε σ) (limit : Nat) : List Headline → Run ε σ Unit
  | [] => pure ()
  | ⟨d, content⟩ :: rest => do
    v.within (.headline d) (content.accept v limit)
    Headline.acceptRun v limit rest

/-- Take a visitor through a body run. -/
def Element.acceptRun (v : Visitor ε σ) (limit : Nat) : List Element → Run ε σ Unit
  | [] => pure ()
  | .leaf l :: rest => do
    Run.step (v.leaf l)
    Element.acceptRun v limit rest
  | .container t content :: rest => do
    v.within t (content.accept v limit)
    Element.acceptRun v limit rest

end

/-- Take a visitor through one element. -/
def Element.accept (v : Visitor ε σ) (limit : Nat) (e : Element) : Run ε σ Unit :=
  Element.acceptRun v limit [e]

end ScriptureText
