/-
ScriptureText.Traversal.Recorder — the log of a traversal. A recorded visitor
notes every call it receives, with its depth below the outermost node, before
it acts on it. A `Script` is a visitor that replies as laid down beforehand.
-/
import ScriptureText.Traversal.Visitor

namespace ScriptureText

variable {ε σ : Type}

/-! ## §1 Logs -/

/-- A call as its receiver sees it. -/
inductive Event where
  | elementTypes (types : Option String)
  | leaf (leaf : Leaf)
  | enter (tag : Tag)
  | start
  | finish
  deriving DecidableEq, Repr

/-- A call and the level of the visitor that received it, 0 for the outermost. -/
structure Entry where
  level : Nat
  event : Event
  deriving DecidableEq, Repr

/-- A visitor's state with the log so far, newest entry first. -/
structure Recorded (σ : Type) where
  level : Nat
  log : List Entry
  state : σ

namespace Visitor

/-- A step that is noted first. -/
def noting {α : Type} (e : Event) (x : EStateM ε σ α) : EStateM ε (Recorded σ) α := fun r =>
  let log := ⟨r.level, e⟩ :: r.log
  match x r.state with
  | .ok a s => .ok a ⟨r.level, log, s⟩
  | .error err s => .error err ⟨r.level, log, s⟩

/-- A visitor with a log of its calls. -/
def recorded (v : Visitor ε σ) : Visitor ε (Recorded σ) where
  elementTypes types := noting (.elementTypes types) (v.elementTypes types)
  leaf l := noting (.leaf l) (v.leaf l)
  enter t := do
    let child ← noting (.enter t) (v.enter t)
    let r ← get
    return child.map fun s => ⟨r.level + 1, r.log, s⟩
  leave t outside inside := ⟨outside.level, inside.log, v.leave t outside.state inside.state⟩
  start := noting .start v.start
  finish := noting .finish v.finish

end Visitor

/-! ## §2 Scripts -/

/-- Replies laid down beforehand. -/
structure Script where
  /-- Depths of the signatures to ask for at each node, in order. -/
  negotiate : List Nat
  /-- Containers to pass over. -/
  skips : Tag → Bool
  /-- How often a visitor at each level asks to read its node again. -/
  replay : List Nat
  /-- The call, counted from 0 over the whole traversal, that fails. -/
  failAt : Option Nat

namespace Script

/-- How far a script has got: calls served at all levels, the level, signatures
asked for at this node, and readings of this node that have ended. -/
structure Progress where
  served : Nat
  level : Nat
  asked : Nat
  ended : Nat

/-- A script at its start. -/
def Progress.start : Progress := ⟨0, 0, 0, 0⟩

/-- Count a call, and fail if it is the one to fail. -/
def serve (k : Script) : EStateM Error Progress Unit := do
  let p ← get
  set { p with served := p.served + 1 }
  if k.failAt == some p.served then throw (.illegalState (.refused "recorder"))

/-- The visitor that follows a script. -/
def visitor (k : Script) : Visitor Error Progress where
  elementTypes types := do
    k.serve
    if types.isNone then modify fun p => { p with asked := 0 }
    let p ← get
    set { p with asked := p.asked + 1 }
    return k.negotiate.getD p.asked 0
  leaf _ := k.serve
  enter t := do
    k.serve
    let p ← get
    return if k.skips t then none else some ⟨p.served, p.level + 1, 0, 0⟩
  leave _ outside inside := { outside with served := inside.served }
  start := k.serve
  finish := do
    k.serve
    let p ← get
    set { p with ended := p.ended + 1 }
    return p.ended < k.replay.getD p.level 0

/-- Rounds at any node that a script can ask for: a list of signatures ends
with the reply 0, and readings with the reply that no other is wanted. -/
def limit (k : Script) : Nat := 1 + k.negotiate.length + k.replay.foldl max 0

end Script

end ScriptureText
