/-
ScriptureText.Json.Tree — the value of a JSON text as far as it can be read. A
text that is not JSON gives a tree that is broken at the place of the fault, so
whoever reads the tree from left to right meets the first problem of the text,
be it a fault in the text or a value of the wrong shape.
-/
import ScriptureText.Json.Basic
import ScriptureText.Json.Token

namespace ScriptureText.Json

/-! ## §1 Trees -/

/-- How an array or object ends: with its bracket, or with a fault behind its
last item, which is a fault for readers and for those who pass over it. -/
inductive Ending where
  | closed
  | cut (read skipped : Cause)
  deriving DecidableEq, Repr

mutual

/-- A value as far as it can be read. -/
inductive Tree where
  | null
  | bool (b : Bool)
  | number (n : Option Number)
  | string (s : Except Cause String)
  | array (items : List Tree) (ending : Ending)
  | object (members : List Member) (ending : Ending)
  /-- No value; why none can be read, and why none can be passed over. -/
  | broken (read skipped : Cause)

/-- A member of an object. -/
structure Member where
  key : Except Cause String
  value : Tree

end

instance : Inhabited Tree := ⟨.null⟩

/-! ## §2 Trees of tokens -/

/-- A place where the text ends too soon. -/
def Tree.cutShort : Tree := .broken .cutShort .cutShort

/-- A place where the text goes on wrongly. -/
def Tree.malformed : Tree := .broken .malformed .malformed

mutual

/-- The value that tokens start with, and the tokens after it. -/
def takeValue : Nat → List Token → Tree × List Token
  | 0, _ => (.cutShort, [])
  | _, [] => (.cutShort, [])
  | fuel + 1, t :: rest =>
    match t with
    | .null => (.null, rest)
    | .bool b => (.bool b, rest)
    | .number n => (.number n, rest)
    | .string s => (.string s, rest)
    | .openArray =>
      match rest with
      | .closeArray :: rest => (.array [] .closed, rest)
      | [] => (.array [] (.cut .cutShort .cutShort), [])
      | rest =>
        let (items, ending, rest) := takeItems fuel rest
        (.array items ending, rest)
    | .openObject =>
      match rest with
      | .closeObject :: rest => (.object [] .closed, rest)
      | rest =>
        let (members, ending, rest) := takeMembers fuel rest
        (.object members ending, rest)
    | .broken _ read skipped => (.broken read skipped, [])
    | .closeArray | .closeObject | .comma | .colon => (.malformed, [])

/-- The items of an array, from one item on. After a comma another item is
looked for. -/
def takeItems : Nat → List Token → List Tree × Ending × List Token
  | 0, _ => ([], .cut .cutShort .cutShort, [])
  | fuel + 1, ts =>
    let (item, rest) := takeValue fuel ts
    match rest with
    | .comma :: rest =>
      let (items, ending, rest) := takeItems fuel rest
      (item :: items, ending, rest)
    | .closeArray :: rest => ([item], .closed, rest)
    | [] => ([item], .cut .cutShort .cutShort, [])
    | _ => ([item], .cut .malformed .malformed, [])

/-- The members of an object, from one key on. -/
def takeMembers : Nat → List Token → List Member × Ending × List Token
  | 0, _ => ([], .cut .cutShort .cutShort, [])
  | _, [] => ([], .cut .cutShort .cutShort, [])
  | fuel + 1, .string k :: .colon :: ts =>
    let (value, rest) := takeValue fuel ts
    match rest with
    | .comma :: rest =>
      let (members, ending, rest) := takeMembers fuel rest
      (⟨k, value⟩ :: members, ending, rest)
    | .closeObject :: rest => ([⟨k, value⟩], .closed, rest)
    | [] => ([⟨k, value⟩], .cut .cutShort .cutShort, [])
    | _ => ([⟨k, value⟩], .cut .malformed .malformed, [])
  | _, [.string k] => ([⟨k, .cutShort⟩], .cut .cutShort .cutShort, [])
  | _, .string k :: _ => ([⟨k, .malformed⟩], .cut .malformed .malformed, [])
  | _, .broken true read skipped :: _ => ([], .cut read skipped, [])
  | _, _ => ([], .cut .malformed .malformed, [])

end

/-- A text as a tree, and whether more than space follows the value. -/
def parse (text : String) : Tree × Bool :=
  let ts := tokens text.toList
  let (tree, rest) := takeValue (2 * ts.length + 1) ts
  (tree, !rest.isEmpty)

/-! ## §3 Values as trees -/

mutual

/-- The tree of a value. -/
def tree : Json → Tree
  | .null => .null
  | .bool b => .bool b
  | .number text => .number (Number.ofText? text)
  | .string s => .string (.ok s)
  | .array items => .array (trees items) .closed
  | .object members => .object (memberTrees members) .closed

/-- The trees of values. -/
def trees : List Json → List Tree
  | [] => []
  | j :: rest => tree j :: trees rest

/-- The trees of members. -/
def memberTrees : List (String × Json) → List Member
  | [] => []
  | (k, j) :: rest => ⟨.ok k, tree j⟩ :: memberTrees rest

end

end ScriptureText.Json
