/-
ScriptureText.Builder — building a tree from the calls of a traversal. Each
element offered is appended: a headline goes to the headline run as long as the
body run is empty, and text that follows a text leaf is merged into it. A call
with a malformed field leaves the node as it was.
-/
import ScriptureText.Text
import ScriptureText.Traversal.Consumer
import ScriptureText.Tree.Check
import ScriptureText.Tree.Lifecycle

namespace ScriptureText

namespace Node

/-- A node with one more body element. -/
def push (n : Node) (e : Element) : Node := { n with body := n.body ++ [e] }

/-- A node with one more container; a headline belongs to the headline run
until there is a body. -/
def addContainer (n : Node) (t : Tag) (content : Node) : Node :=
  match t with
  | .headline d =>
    if n.body.isEmpty then { n with headlines := n.headlines ++ [⟨d, content⟩] }
    else n.push (.container t content)
  | _ => n.push (.container t content)

/-- A node with more text; empty text leaves no trace. -/
def addText (n : Node) (s : String) : Except Error Node :=
  if s.isEmpty then .ok n
  else
    match n.body.getLast? with
    | some (.leaf (.text previous)) => do
      let merged := Text.merge previous s
      (Leaf.text merged).check
      return { n with body := n.body.dropLast ++ [.leaf (.text merged)] }
    | _ => do
      (Leaf.text s).check
      return n.push (.leaf (.text s))

/-- A node with one more leaf, or with more text. -/
def addLeaf (n : Node) (l : Leaf) : Except Error Node :=
  match l with
  | .text s => n.addText s
  | _ => do
    l.check
    return n.push (.leaf l)

end Node

namespace Builder

/-- The consumer that builds a node. -/
def consumer : Consumer Error Node where
  leaf l := fun n =>
    match n.addLeaf l with
    | .ok n' => .ok () n'
    | .error e => .error e n
  enter t := fun n =>
    match t.check with
    | .ok () => .ok (some Node.empty) n
    | .error e => .error e n
  leave t n content := n.addContainer t content
  start := pure ()
  finish := pure ()

/-- The node that a run of the builder on a fresh node ends in. -/
def run (x : EStateM Error Node Unit) : Except Error Node :=
  match x Node.empty with
  | .ok _ n => .ok n
  | .error e _ => .error e

end Builder

namespace Node

/-- A copy of a node, built from its traversal; the copy is open. -/
def copy (n : Node) : Except Error Node := Builder.run (n.feed Builder.consumer)

/-- The piece that one child gives: a node with the child in it, or with what
the child contains. -/
def piece (e : Element) (inner : Bool) : Except Error Node :=
  if inner then
    match e.content? with
    | some content => content.copy
    | none => .ok Node.empty
  else Builder.run (e.feed Builder.consumer)

/-- One open node per child, headlines of the headline run only if asked for. -/
def split (n : Node) (includeHeadlines inner : Bool) : Except Error (List Node) :=
  let headlines := if includeHeadlines then n.headlines.map Headline.toElement else []
  (headlines ++ n.body).mapM (piece · inner)

end Node

end ScriptureText
