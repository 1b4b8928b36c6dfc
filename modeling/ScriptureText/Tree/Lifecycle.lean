/-
ScriptureText.Tree.Lifecycle — finishing. A node is open until it is finished,
which marks every node below it; from then on an operation that would change it
fails. A `SealedText` is a finished tree that no operation is offered for.
-/
import ScriptureText.Error
import ScriptureText.Tree.Basic

namespace ScriptureText

mutual

/-- A node with every node in it marked as finished. -/
def Node.seal : Node → Node
  | ⟨hs, b, _⟩ => ⟨Headline.sealRun hs, Element.sealRun b, true⟩

/-- A headline run with every node in it marked as finished. -/
def Headline.sealRun : List Headline → List Headline
  | [] => []
  | ⟨d, c⟩ :: rest => ⟨d, c.seal⟩ :: Headline.sealRun rest

/-- A body run with every node in it marked as finished. -/
def Element.sealRun : List Element → List Element
  | [] => []
  | .leaf l :: rest => .leaf l :: Element.sealRun rest
  | .container t c :: rest => .container t c.seal :: Element.sealRun rest

end

namespace Node

/-- A node that may be changed. -/
def requireOpen (n : Node) (attempt : Mutation) : Except Error Unit :=
  if n.finished then .error (.illegalState (.finished attempt)) else .ok ()

/-- A node that may no longer be changed. -/
def requireFinished (n : Node) (attempt : Inspection) : Except Error Unit :=
  if n.finished then .ok () else .error (.illegalState (.unfinished attempt))

/-- Finish a node and every node below it. -/
def finish (n : Node) : Except Error Node := do
  n.requireOpen .finish
  return n.seal

/-- Take the last body element off, if there is one. -/
def removeLast (n : Node) : Except Error (Option Element × Node) := do
  n.requireOpen .remove
  return (n.body.getLast?, { n with body := n.body.dropLast })

end Node

/-- A finished tree, to be shared and read. -/
structure SealedText where
  node : Node
  finished : node.finished = true

/-- Finish a tree and keep it for reading. -/
def Node.intoSealed (n : Node) : Except Error SealedText :=
  if n.finished then .error (.illegalState (.finished .finish))
  else .ok ⟨n.seal, by cases n; rfl⟩

end ScriptureText
