/-
ScriptureText.Snapshot.Serial — snapshots as JSON and YAML. A snapshot is written as an
object in which a label, attributes and children that are empty are left out,
and read from such an object, with members of other names passed over, or from
an array of the five parts in order, of which the last may be missing.
-/
import ScriptureText.Json.Reader
import ScriptureText.Snapshot.Basic
import ScriptureText.Yaml.Document

namespace ScriptureText.Snapshot

open Json

/-! ## §1 Writing -/

/-- Attributes as an object. -/
def attributesJson (a : Attributes) : Json :=
  .object (a.entries.map fun e => (e.1, .string e.2))

/-- A member that is left out when there is nothing to say. -/
def present (wanted : Bool) (name : String) (value : Json) : List (String × Json) :=
  if wanted then [(name, value)] else []

mutual

/-- A snapshot as an object. -/
def toJson : Snapshot → Json
  | ⟨nodeType, label, attributes, headlines, children⟩ =>
    .object
      (("node_type", .string nodeType) ::
        (present (!label.isEmpty) "label" (.string label) ++
          present (!attributes.entries.isEmpty) "attributes" (attributesJson attributes) ++
          present (!headlines.isEmpty) "headlines" (.array (toJsons headlines)) ++
          present (!children.isEmpty) "children" (.array (toJsons children))))

/-- Snapshots as objects. -/
def toJsons : List Snapshot → List Json
  | [] => []
  | s :: rest => toJson s :: toJsons rest

end

/-- A snapshot as JSON text. -/
def jsonText (s : Snapshot) : String := s.toJson.pretty

/-- A snapshot as YAML text. -/
def yamlText (s : Snapshot) : String := Yaml.document s.toJson

/-! ## §2 Reading -/

/-- Strings under keys; of values under one key the last is kept. -/
def readAttributes (depth : Nat) : Tree → Reading Attributes
  | .object members ending => do
    let _ ← descend depth
    let entries ← members.mapM fun m => do
      let k ← readKey m.key
      let v ← readString m.value
      return (k, v)
    ending.read
    return .ofList entries
  | t => .error t.mismatch

/-- The parts of a snapshot that have been read. -/
structure Parts where
  nodeType : Option String
  label : Option String
  attributes : Option Attributes
  headlines : Option (List Snapshot)
  children : Option (List Snapshot)

/-- Nothing read so far. -/
def Parts.none : Parts := ⟨.none, .none, .none, .none, .none⟩

/-- The snapshot of the parts; all but the type may be missing. -/
def Parts.snapshot (p : Parts) : Reading Snapshot :=
  match p.nodeType with
  | some t => .ok ⟨t, p.label.getD "", p.attributes.getD .empty, p.headlines.getD [],
      p.children.getD []⟩
  | .none => .error .misfit

/-- A part may be given once. -/
def once {α : Type} : Option α → Reading Unit
  | .none => .ok ()
  | some _ => .error .misfit

mutual

/-- A snapshot. -/
def read (depth : Nat) : Tree → Reading Snapshot
  | .object members ending => do
    let depth ← descend depth
    let parts ← readMembers depth .none members
    ending.read
    parts.snapshot
  | .array items ending => do
    let depth ← descend depth
    let parts ← readParts depth ending 0 .none items
    parts.snapshot
  | t => .error t.mismatch

/-- An array of snapshots. -/
def readList (depth : Nat) : Tree → Reading (List Snapshot)
  | .array items ending => do
    let depth ← descend depth
    let snapshots ← readItems depth items
    ending.read
    return snapshots
  | t => .error t.mismatch

/-- Snapshots in a row. -/
def readItems (depth : Nat) : List Tree → Reading (List Snapshot)
  | [] => .ok []
  | t :: rest => do
    let s ← read depth t
    let others ← readItems depth rest
    return s :: others

/-- Parts by name. -/
def readMembers (depth : Nat) (p : Parts) : List Member → Reading Parts
  | [] => .ok p
  | ⟨key, value⟩ :: rest => do
    match ← readKey key with
    | "node_type" => do
      once p.nodeType
      let s ← readString value
      readMembers depth { p with nodeType := some s } rest
    | "label" => do
      once p.label
      let s ← readString value
      readMembers depth { p with label := some s } rest
    | "attributes" => do
      once p.attributes
      let a ← readAttributes depth value
      readMembers depth { p with attributes := some a } rest
    | "headlines" => do
      once p.headlines
      let hs ← readList depth value
      readMembers depth { p with headlines := some hs } rest
    | "children" => do
      once p.children
      let cs ← readList depth value
      readMembers depth { p with children := some cs } rest
    | _ => do
      skip value
      readMembers depth p rest

/-- Parts in order, from a position on; nothing may follow the last. -/
def readParts (depth : Nat) (ending : Ending) : Nat → Parts → List Tree → Reading Parts
  | _, p, [] => do
    ending.read
    return p
  | 0, p, t :: rest => do
    let s ← readString t
    readParts depth ending 1 { p with nodeType := some s } rest
  | 1, p, t :: rest => do
    let s ← readString t
    readParts depth ending 2 { p with label := some s } rest
  | 2, p, t :: rest => do
    let a ← readAttributes depth t
    readParts depth ending 3 { p with attributes := some a } rest
  | 3, p, t :: rest => do
    let hs ← readList depth t
    readParts depth ending 4 { p with headlines := some hs } rest
  | 4, p, t :: rest => do
    let cs ← readList depth t
    readParts depth ending 5 { p with children := some cs } rest
  | _, _, _ :: _ => .error .malformed

end

/-- A snapshot from a text. -/
def ofText (text : String) : Reading Snapshot := readText (read maxDepth) text

end ScriptureText.Snapshot
