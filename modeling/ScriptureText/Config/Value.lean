/-
ScriptureText.Config.Value — settings as trees of tables and lists, with the
origin of each value. Setting a table merges it entry by entry into what is
there; setting anything else replaces what is there. Names are compared in lower
case, and what stands in the way of a path gives way to a table or a list.
-/
import ScriptureText.Config.Path
import ScriptureText.Decimal.Shortest
import ScriptureText.Quoted
import ScriptureText.Toml.Document
import ScriptureText.Unicode.Lowercase

namespace ScriptureText.Config

/-- Where a value was written. -/
inductive Origin where
  | file | environment
  deriving DecidableEq, Repr

/-- A value without parts. -/
inductive Scalar where
  | nil
  | bool (b : Bool)
  | int (n : Int)
  | float (x : Decimal.Binary64)
  | string (s : String)
  deriving DecidableEq, Repr

/-- A value; it has no origin when it was set by the program, or was made on the
way to another one. -/
inductive Value where
  | scalar (origin : Option Origin) (s : Scalar)
  | list (origin : Option Origin) (items : List Value)
  | table (origin : Option Origin) (entries : List (String × Value))

namespace Scalar

/-- A value as a complaint names it. -/
def description : Scalar → String
  | .nil => "unit value"
  | .bool true => "boolean `true`"
  | .bool false => "boolean `false`"
  | .int n => "integer `" ++ toString n ++ "`"
  | .float x => "floating point `" ++ x.text ++ "`"
  | .string s => "string " ++ Quoted.quote s

end Scalar

namespace Value

/-- No value. -/
def nil : Value := .scalar none .nil

/-- The table without entries. -/
def empty : Value := .table none []

def origin : Value → Option Origin
  | .scalar o _ => o
  | .list o _ => o
  | .table o _ => o

/-! ## §1 Tables and lists -/

/-- Put under a key what `f` makes of what is there. -/
def alter (key : String) (f : Option Value → Value) : List (String × Value) → List (String × Value)
  | [] => [(key, f none)]
  | (k, v) :: rest => if k = key then (k, f (some v)) :: rest else (k, v) :: alter key f rest

/-- What is put under a key stands there. -/
theorem lookup_alter_self (key : String) (f : Option Value → Value)
    (entries : List (String × Value)) :
    (alter key f entries).lookup key = some (f (entries.lookup key)) := by
  induction entries with
  | nil => simp [alter]
  | cons entry rest ih =>
    obtain ⟨k, v⟩ := entry
    by_cases h : k = key
    · subst h
      simp [alter]
    · have h' : (key == k) = false := by simpa using Ne.symm h
      simp [alter, h, List.lookup_cons, h', ih]

/-- The other entries of a table stay as they are. -/
theorem lookup_alter_of_ne {key other : String} (h : other ≠ key) (f : Option Value → Value)
    (entries : List (String × Value)) :
    (alter key f entries).lookup other = entries.lookup other := by
  have h' : (other == key) = false := by simpa using h
  induction entries with
  | nil => simp [alter, List.lookup_cons, h']
  | cons entry rest ih =>
    obtain ⟨k, v⟩ := entry
    by_cases hk : k = key
    · subst hk
      simp [alter, List.lookup_cons, h']
    · simp [alter, hk, List.lookup_cons, ih]

/-- The value of an entry. -/
def find? (key : String) : Value → Option Value
  | .table _ entries => entries.lookup key
  | _ => none

/-- Change one entry of a table; what is no table gives way to one. -/
def alterEntry (name : String) (f : Option Value → Value) : Value → Value
  | .table o entries => .table o (alter (Unicode.lowercase name) f entries)
  | _ => .table none (alter (Unicode.lowercase name) f [])

/-- The position in a list of so many items that a number means; negative
numbers count from the end. -/
def position (i : Int) (length : Nat) : Nat := if 0 ≤ i then i.toNat else length - i.natAbs

/-- Change one item of a list; what is no list gives way to one, and a list that
is too short is filled up. -/
def alterItem (i : Int) (f : Value → Value) (v : Value) : Value :=
  let (o, items) := match v with
    | .list o items => (o, items)
    | _ => (none, [])
  let k := position i items.length
  .list o ((items ++ List.replicate (k + 1 - items.length) nil).modify k f)

/-! ## §2 Setting -/

mutual

/-- Set an entry of a table. -/
def put (name : String) : Value → Value → Value
  | .table _ entries, root => root.alterEntry name fun old => putAll entries (old.getD empty)
  | v, root => root.alterEntry name fun _ => v

/-- Set entries one after the other. -/
def putAll : List (String × Value) → Value → Value
  | [], root => root
  | (name, v) :: rest, root => putAll rest (put name v root)

end

/-- Set what the parts of a path lead to. -/
def putAt (v : Value) : Part → List Part → Value → Value
  | .name key, [], root => put key v root
  | .index i, [], root => root.alterItem i fun _ => v
  | .name key, p :: rest, root => root.alterEntry key fun old => putAt v p rest (old.getD nil)
  | .index i, p :: rest, root => root.alterItem i fun old => putAt v p rest old

/-- Set what a path leads to. -/
def assign (root : Value) (path : Path) (v : Value) : Value :=
  putAt v (.name path.head) path.parts root

/-- Set what a key leads to: a path, or a name if it is none. -/
def assignKey (root : Value) (key : String) (v : Value) : Value :=
  match Path.ofString key with
  | .ok path => root.assign path v
  | .error _ => root.assign (.single key) v

/-- Set entries under their keys. -/
def assignAll (root : Value) (entries : List (String × Value)) : Value :=
  entries.foldl (fun root (key, v) => root.assignKey key v) root

/-- The entries of a table. -/
def entries : Value → List (String × Value)
  | .table _ entries => entries
  | _ => []

/-! ## §3 Values of files -/

mutual

/-- A value of a TOML file; dates and times are text. -/
def ofToml : Toml.Value → Value
  | .string s => .scalar (some .file) (.string s)
  | .integer n => .scalar (some .file) (.int n)
  | .float x => .scalar (some .file) (.float x)
  | .boolean b => .scalar (some .file) (.bool b)
  | .datetime d => .scalar (some .file) (.string d.text)
  | .array items => .list (some .file) (ofTomlItems items)
  | .table entries => .table (some .file) (ofTomlEntries entries)

/-- The items of an array. -/
def ofTomlItems : List Toml.Value → List Value
  | [] => []
  | v :: rest => ofToml v :: ofTomlItems rest

/-- The entries of a table. -/
def ofTomlEntries : List (String × Toml.Value) → List (String × Value)
  | [] => []
  | (key, v) :: rest => (key, ofToml v) :: ofTomlEntries rest

end

end Value

end ScriptureText.Config
