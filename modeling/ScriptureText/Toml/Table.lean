/-
ScriptureText.Toml.Table — tables while a document is read. A table is made by
its own header, as the parent of one that has a header, or by a dotted key, and
how it was made decides what may still be added: a header may complete a table
that was only a parent, a dotted key may go on with tables made by dotted keys,
and no key is set twice.
-/
import ScriptureText.Toml.Value

namespace ScriptureText.Toml

/-- How a table was made. -/
inductive Making where
  | header | parent | dotted
  deriving DecidableEq, Repr

/-- What stands under a key: a value, a table, or an array of tables, of which
the last one is open to additions. -/
inductive Item where
  | value (v : Value)
  | table (making : Making) (entries : List (String × Item))
  | tables (closed : List (List (String × Item))) (last : List (String × Item))

/-- The entries of a table. -/
abbrev Entries := List (String × Item)

namespace Entries

/-! ## §1 Additions -/

/-- Put under a key what `f` makes of what stands there, if it allows anything. -/
def update (key : String) (f : Option Item → Option Item) : Entries → Option Entries
  | [] => (f none).map fun item => [(key, item)]
  | (k, item) :: rest =>
    if k = key then (f (some item)).map fun item => (k, item) :: rest
    else (update key f rest).map ((k, item) :: ·)

/-- Go from a header's path into the table under its next key, which is made if
there is none. -/
def enter (f : Entries → Option Entries) : Option Item → Option Item
  | none => (f []).map (.table .parent)
  | some (.table making es) => (f es).map (.table making)
  | some (.tables closed last) => (f last).map (.tables closed)
  | some (.value _) => none

/-- Entries without that of a key. -/
def erase (key : String) (es : Entries) : Entries := es.filter (·.1 != key)

/-- Make the table of a header, behind the other entries; a table that was only
a parent takes its entries there. -/
def addTable : List String → Entries → Option Entries
  | [], _ => none
  | [key], es =>
    match es.lookup key with
    | none => some (es ++ [(key, .table .header [])])
    | some (.table .parent inner) => some (es.erase key ++ [(key, .table .header inner)])
    | some _ => none
  | key :: path, es => es.update key (enter (addTable path))

/-- Make the next table of an array of tables. -/
def addElement : List String → Entries → Option Entries
  | [], _ => none
  | [key], es => es.update key fun
    | none => some (.tables [] [])
    | some (.tables closed last) => some (.tables (closed ++ [last]) [])
    | some _ => none
  | key :: path, es => es.update key (enter (addElement path))

/-- Set a dotted key. The table that takes the value has to be made by dotted
keys, and the tables on the way must not have a header. -/
def set (v : Value) : List String → Entries → Option Entries
  | [], _ => none
  | [key], es => es.update key fun
    | none => some (.value v)
    | some _ => none
  | key :: next :: path, es => es.update key fun
    | none => (set v (next :: path) []).map (.table .dotted)
    | some (.table making es) =>
      if making = .dotted ∨ making = .parent ∧ !path.isEmpty then
        (set v (next :: path) es).map (.table making)
      else none
    | some (.tables closed last) =>
      if path.isEmpty then none else (set v (next :: path) last).map (.tables closed)
    | some (.value _) => none

/-- Set a dotted key in the table of a header. -/
def setUnder (v : Value) (key : List String) : List String → Entries → Option Entries
  | [], es => es.set v key
  | name :: header, es => es.update name (enter (setUnder v key header))

end Entries

/-! ## §2 Values -/

mutual

/-- What stands under a key, as a value. -/
def Item.toValue : Item → Value
  | .value v => v
  | .table _ es => .table (entryValues es)
  | .tables closed last => .array (tableValues closed ++ [.table (entryValues last)])

/-- The entries of a table with their values. -/
def entryValues : Entries → List (String × Value)
  | [] => []
  | (key, item) :: rest => (key, item.toValue) :: entryValues rest

/-- Tables as values. -/
def tableValues : List Entries → List Value
  | [] => []
  | es :: rest => .table (entryValues es) :: tableValues rest

end

/-- The table of an inline list of keys and values. -/
def inlineTable? (pairs : List (List String × Value)) : Option Value := do
  let es ← pairs.foldlM (fun (es : Entries) (key, v) => es.set v key) []
  return .table (entryValues es)

end ScriptureText.Toml
