/-
ScriptureText.Traversal.Call — calls made on a visitor one by one, without a
tree. The calls of a container's content are made on the state inside, if there
is one, and calls go on after one has failed.
-/
import ScriptureText.Traversal.Visitor

namespace ScriptureText

/-- A call on a visitor. -/
inductive Call where
  | leaf (leaf : Leaf)
  | container (tag : Tag) (content : List Call)
  | start
  | finish
  | elementTypes (types : Option String)

/-- What comes of a call: nothing but success, the outcomes of the calls inside
a container, a container passed over, whether to read again, the depth of the
signature wanted, or a failure. -/
inductive Outcome (ε : Type) where
  | done
  | content (outcomes : List (Outcome ε))
  | passedOver
  | again (wanted : Bool)
  | depth (wanted : Nat)
  | failed (error : ε)

namespace Visitor

variable {ε σ : Type}

/-- One step as a call with an outcome. -/
def outcome {α : Type} (x : EStateM ε σ α) (f : α → Outcome ε) (s : σ) : Outcome ε × σ :=
  match x s with
  | .ok a s => (f a, s)
  | .error e s => (.failed e, s)

mutual

/-- Make one call. -/
def perform (v : Visitor ε σ) : Call → σ → Outcome ε × σ
  | .leaf l, s => outcome (v.leaf l) (fun _ => .done) s
  | .start, s => outcome v.start (fun _ => .done) s
  | .finish, s => outcome v.finish .again s
  | .elementTypes types, s => outcome (v.elementTypes types) .depth s
  | .container t content, s =>
    match v.enter t s with
    | .error e s => (.failed e, s)
    | .ok none s => (.passedOver, s)
    | .ok (some child) s =>
      let (outcomes, child) := performAll v content child
      (.content outcomes, v.leave t s child)

/-- Make calls in order. -/
def performAll (v : Visitor ε σ) : List Call → σ → List (Outcome ε) × σ
  | [], s => ([], s)
  | c :: rest, s =>
    let (first, s) := perform v c s
    let (others, s) := performAll v rest s
    (first :: others, s)

end

end Visitor

end ScriptureText
