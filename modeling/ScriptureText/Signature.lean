/-
ScriptureText.Signature — the shape of a node as a string. Each child is one
letter; down to a given depth, a container's letter is followed by the
signature of its content in angle brackets, so a footnote that holds text reads
`f` at depth 1 and `f<t>` at depth 2.
-/
import ScriptureText.Error
import ScriptureText.Traversal.Consumer
import ScriptureText.Tree.Lifecycle

namespace ScriptureText

/-- The letter of a leaf. -/
def Leaf.code : Leaf → Char
  | .text _ => 't'
  | .verseSeparator => '/'
  | .lineBreak _ => 'b'
  | .rawHtml _ _ => 'H'

/-- The letter of a container. -/
def Tag.code : Tag → Char
  | .headline _ => 'h'
  | .footnote => 'f'
  | .crossReference _ => 'x'
  | .format _ => 'F'
  | .css _ => 'c'
  | .grammar _ => 'g'
  | .dictionary _ _ => 'd'
  | .variation _ => 'o'
  | .extra _ => 'X'

namespace Signature

/-- A signature in writing: what is written, how many levels remain, and what
closes this level. -/
structure Writer where
  out : String
  depth : Nat
  closing : String

/-- A writer at the outermost level, after `out`. -/
def Writer.start (out : String) (depth : Nat) : Writer := ⟨out, depth, ""⟩

/-- A writer with more text. -/
def Writer.put (w : Writer) (s : String) : Writer := { w with out := w.out ++ s }

/-- The consumer that writes signatures. A container is opened as long as more
than one level remains. -/
def consumer : Consumer Empty Writer where
  leaf l := modify (·.put l.code.toString)
  enter t := do
    modify (·.put t.code.toString)
    let w ← get
    if w.depth > 1 then
      return some ⟨w.out ++ "<", w.depth - 1, ">"⟩
    else
      return none
  leave _ w inside := { w with out := inside.out }
  start := pure ()
  finish := modify fun w => w.put w.closing

end Signature

/-- The signature of a node to a depth, whether or not it is finished. -/
def Node.signature (n : Node) (depth : Nat) : String :=
  if depth = 0 then "" else (Consumer.finalState (n.feed Signature.consumer (.start "" depth))).out

/-- The signature of a finished node to a depth. -/
def Node.elementTypes (n : Node) (depth : Nat) : Except Error String := do
  n.requireFinished .signature
  return n.signature depth

end ScriptureText
