/-
ScriptureText.Tree.Reachable — the trees that arise from building. A tree starts
without children; while it is open, calls are made on a builder for it, with
calls inside their containers and whether or not they fail, its last element is
taken off, and its whitespace is normalized. Finishing ends all that.
-/
import ScriptureText.Builder
import ScriptureText.Normalization
import ScriptureText.Traversal.Call

namespace ScriptureText

/-- A tree that operations on an empty tree lead to. -/
inductive Reachable : Node → Prop where
  | empty : Reachable .empty
  | perform {n : Node} (calls : List Call) (h : Reachable n) (isOpen : n.finished = false) :
      Reachable (Builder.consumer.toVisitor.performAll calls n).2
  | removeLast {n n' : Node} {e : Option Element} (h : Reachable n)
      (removed : n.removeLast = .ok (e, n')) : Reachable n'
  | trimWhitespace {n n' : Node} {options : NormalizeOptions} (h : Reachable n)
      (trimmed : n.trimWhitespace options = .ok n') : Reachable n'
  | finish {n n' : Node} (h : Reachable n) (finished : n.finish = .ok n') : Reachable n'

end ScriptureText
