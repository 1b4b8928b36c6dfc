/-
ScriptureText.Traversal.Decoration — visitors around visitors. A decoration
acts before every element and on every text that the visitor inside is offered;
it has a state of its own and says what that is in the content of a container,
and what is kept of it afterwards. A `Stack` is a visitor under any number of
decorations.
-/
import ScriptureText.Traversal.Visitor

namespace ScriptureText

/-- What is done around a visitor. -/
structure Decoration (ε δ : Type) where
  /-- Before every element. A failure keeps the element from the visitor inside. -/
  before : EStateM ε δ Unit
  /-- Text as the visitor inside gets it. -/
  rewrite : δ → String → String
  /-- The state for the content of a container. -/
  descend : δ → δ
  /-- The state after a container, from the states outside and inside it. -/
  rejoin : δ → δ → δ

variable {ε δ σ : Type}

namespace Visitor

/-- A step of the visitor inside. -/
def inner {α : Type} (x : EStateM ε σ α) : EStateM ε (δ × σ) α := fun (d, s) =>
  match x s with
  | .ok a s => .ok a (d, s)
  | .error e s => .error e (d, s)

/-- A step of the decoration. -/
def outer {α : Type} (x : EStateM ε δ α) : EStateM ε (δ × σ) α := fun (d, s) =>
  match x d with
  | .ok a d => .ok a (d, s)
  | .error e d => .error e (d, s)

/-- A visitor with a decoration around it. -/
def decorate (v : Visitor ε σ) (k : Decoration ε δ) : Visitor ε (δ × σ) where
  elementTypes types := inner (v.elementTypes types)
  leaf l := do
    outer k.before
    let (d, _) ← get
    match l with
    | .text s => inner (v.leaf (.text (k.rewrite d s)))
    | _ => inner (v.leaf l)
  enter t := do
    outer k.before
    let (d, _) ← get
    let child ← inner (v.enter t)
    return child.map fun c => (k.descend d, c)
  leave t outside inside := (k.rejoin outside.1 inside.1, v.leave t outside.2 inside.2)
  start := inner v.start
  finish := inner v.finish

end Visitor

/-! ## §1 Kinds of decoration -/

namespace Decoration

/-- A decoration that passes everything on. -/
def plain : Decoration ε Unit where
  before := pure ()
  rewrite _ s := s
  descend d := d
  rejoin d _ := d

/-- A hook that runs before every element at every depth, on one state that all
depths share. -/
def descending (hook : EStateM ε δ Unit) : Decoration ε δ where
  before := hook
  rewrite _ s := s
  descend d := d
  rejoin _ d := d

/-- A hook that runs before every element of the outermost node. -/
def shallow (hook : EStateM ε δ Unit) : Decoration ε (Option δ) where
  before := fun
    | none => .ok () none
    | some d =>
      match hook d with
      | .ok _ d => .ok () (some d)
      | .error e d => .error e (some d)
  rewrite _ s := s
  descend _ := none
  rejoin d _ := d

/-- ASCII letters in upper case. -/
def upper (s : String) : String := s.map Char.toUpper

/-- Text in upper case while the state says so; in content it does as told. -/
def shouting (nested : Bool) : Decoration ε Bool where
  before := pure ()
  rewrite loud s := if loud then upper s else s
  descend _ := nested
  rejoin d _ := d

end Decoration

/-- A hook that counts elements, the one it refuses included, and refuses all
beyond a limit. -/
def countingHook (limit : Option Nat) : EStateM Error Nat Unit := do
  modify (· + 1)
  let count ← get
  if limit.any (· < count) then throw (.illegalState (.refused "hook"))

/-! ## §2 Stacks -/

/-- A visitor over a state that holds the state of a target. -/
structure Stack (ε τ : Type) where
  State : Type
  visitor : Visitor ε State
  /-- The state around a state of the target. -/
  embed : τ → State
  /-- The state of the target inside. -/
  target : State → τ

namespace Stack

variable {τ : Type}

/-- A visitor without decorations. -/
def bare (v : Visitor ε τ) : Stack ε τ := ⟨τ, v, id, id⟩

/-- A stack under one more decoration, which starts in `d`. -/
def add (s : Stack ε τ) (k : Decoration ε δ) (d : δ) : Stack ε τ where
  State := δ × s.State
  visitor := s.visitor.decorate k
  embed t := (d, s.embed t)
  target w := s.target w.2

end Stack

/-- A decoration by name. `shout` acts on the text of the outermost node,
`shoutNested` on all other text, and the other two on nothing. -/
inductive Decorator where
  | forward | plainAdapter | shout | shoutNested
  deriving DecidableEq, Repr

/-- A stack under a decoration given by name. -/
def Decorator.addTo {τ : Type} (s : Stack ε τ) : Decorator → Stack ε τ
  | .forward => s.add Decoration.plain ()
  | .plainAdapter => s.add Decoration.plain ()
  | .shout => s.add (Decoration.shouting false) true
  | .shoutNested => s.add (Decoration.shouting true) false

end ScriptureText
