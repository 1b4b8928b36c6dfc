/-
ScriptureText.Proofs.SnapshotJson — snapshots that are written as JSON and read
again.

What is left out because it is empty is what a reader puts where nothing is
given, so that a snapshot is read back as it was (`Snapshot.ofText_jsonText`).
There is one thing that comes in between: a reader enters no more than a fixed
number of arrays and objects. Every step of the reading is therefore stated with
both of its outcomes, by what is nested in the value (`fitting`): a value that
fits is read, and one that does not gives the one failure. Steps put together
fit if each does (`fitting_bind`).
-/
import ScriptureText.Proofs.JsonText
import ScriptureText.Snapshot.Serial

namespace ScriptureText

/-! ## §1 Nesting -/

namespace Json

mutual

/-- The number of arrays and objects that stand inside one another in a value. -/
def nesting : Json → Nat
  | .array items => nestingItems items + 1
  | .object members => nestingMembers members + 1
  | _ => 0

/-- The nesting of the items of an array. -/
def nestingItems : List Json → Nat
  | [] => 0
  | item :: rest => max item.nesting (nestingItems rest)

/-- The nesting of the members of an object. -/
def nestingMembers : List (String × Json) → Nat
  | [] => 0
  | (_, v) :: rest => max v.nesting (nestingMembers rest)

end

theorem nestingMembers_append_le {a b : List (String × Json)} {depth : Nat} :
    nestingMembers (a ++ b) ≤ depth ↔ nestingMembers a ≤ depth ∧ nestingMembers b ≤ depth := by
  induction a with
  | nil => simp [nestingMembers]
  | cons m rest ih =>
    rw [List.cons_append, nestingMembers, nestingMembers, Nat.max_le, Nat.max_le, ih, and_assoc]

theorem numberlessMembers_append (a b : List (String × Json)) :
    numberlessMembers (a ++ b) = (numberlessMembers a && numberlessMembers b) := by
  induction a with
  | nil => rfl
  | cons m rest ih => simp [numberlessMembers, ih, Bool.and_assoc]

end Json

open Json

namespace Snapshot

theorem nestingMembers_present_le {wanted : Bool} {name : String} {value : Json} {depth : Nat} :
    nestingMembers (present wanted name value) ≤ depth ↔
      (wanted = true → value.nesting ≤ depth) := by
  cases wanted <;> simp [present, nestingMembers]

theorem numberlessMembers_present {wanted : Bool} {name : String} {value : Json}
    (h : numberless value = true) : numberlessMembers (present wanted name value) = true := by
  cases wanted <;> simp [present, numberlessMembers, h]

theorem nestingMembers_strings (es : List (String × String)) :
    nestingMembers (es.map fun e => (e.1, .string e.2)) = 0 := by
  induction es with
  | nil => rfl
  | cons e rest ih => simp [nestingMembers, nesting, ih]

theorem numberlessMembers_strings (es : List (String × String)) :
    numberlessMembers (es.map fun e => (e.1, .string e.2)) = true := by
  induction es with
  | nil => rfl
  | cons e rest ih => simp [numberlessMembers, numberless, ih]

mutual

/-- No number is written for a snapshot. -/
theorem numberless_toJson : ∀ s : Snapshot, numberless s.toJson = true
  | ⟨nodeType, label, attributes, headlines, children⟩ => by
    have text (t : String) : numberless (.string t) = true := rfl
    have entries : numberless (attributesJson attributes) = true := numberlessMembers_strings _
    have hs : numberless (.array (toJsons headlines)) = true := numberlessItems_toJsons headlines
    have cs : numberless (.array (toJsons children)) = true := numberlessItems_toJsons children
    rw [toJson, numberless, numberlessMembers]
    simp only [numberlessMembers_append, numberlessMembers_present (text label),
      numberlessMembers_present entries, numberlessMembers_present hs,
      numberlessMembers_present cs, text, Bool.and_self]

theorem numberlessItems_toJsons : ∀ ss : List Snapshot, numberlessItems (toJsons ss) = true
  | [] => rfl
  | s :: rest => by
    rw [toJsons, numberlessItems, numberless_toJson s, numberlessItems_toJsons rest]
    rfl

end

/-! ## §2 Outcomes -/

/-- The outcome of reading a value that may be nested too deep. -/
def fitting {α : Type} (fits : Prop) [Decidable fits] (a : α) : Reading α :=
  if fits then .ok a else .error .malformed

theorem fitting_congr {α : Type} {p q : Prop} [Decidable p] [Decidable q] (h : p ↔ q) (a : α) :
    fitting p a = fitting q a := by
  rw [fitting, fitting]
  simp only [h]

theorem fitting_bind {α β : Type} {p q : Prop} [Decidable p] [Decidable q] {x : Reading α}
    {f : α → Reading β} {a : α} {b : β} (first : x = fitting p a) (next : f a = fitting q b) :
    (x >>= f) = fitting (p ∧ q) b := by
  rw [first]
  by_cases hp : p
  · rw [fitting_congr (p := p ∧ q) (q := q) (by simp [hp]), ← next, fitting, if_pos hp]
    rfl
  · rw [fitting, fitting, if_neg hp, if_neg fun h => hp h.1]
    rfl

/-! ## §3 Attributes -/

/-- A key behind all others is put at the end. -/
theorem insertEntry_of_lt {k v : String} {es : List (String × String)} (h : ∀ e ∈ es, e.1 < k) :
    insertEntry k v es = es ++ [(k, v)] := by
  induction es with
  | nil => rfl
  | cons e rest ih =>
    obtain ⟨k', v'⟩ := e
    rw [List.forall_mem_cons] at h
    have asym : ¬ k < k' := fun lt => String.lt_irrefl k (String.lt_trans lt h.1)
    have ne : k ≠ k' := fun same => String.lt_irrefl k (same ▸ h.1)
    rw [insertEntry, if_neg asym, if_neg ne, ih h.2]
    rfl

/-- Entries in ascending order are put one behind the other. -/
theorem foldl_insert {es : List (String × String)} {a : Attributes}
    (sorted : (a.entries ++ es).Pairwise (·.1 < ·.1)) :
    (es.foldl (fun a e => a.insert e.1 e.2) a).entries = a.entries ++ es := by
  induction es generalizing a with
  | nil => exact (List.append_nil _).symm
  | cons e rest ih =>
    have behind : (a.insert e.1 e.2).entries = a.entries ++ [e] :=
      insertEntry_of_lt fun e' mem =>
        (List.pairwise_append.1 sorted).2.2 e' mem e List.mem_cons_self
    rw [List.foldl_cons, ih (by rw [behind, List.append_assoc]; exact sorted), behind,
      List.append_assoc]
    rfl

theorem ofList_entries (a : Attributes) : Attributes.ofList a.entries = a := by
  have same : (Attributes.ofList a.entries).entries = a.entries := foldl_insert a.sorted
  obtain ⟨es, sorted⟩ := a
  cases h : Attributes.ofList es
  rw [h] at same
  cases same
  rfl

theorem mapM_memberTrees (es : List (String × String)) :
    (memberTrees (es.map fun e => (e.1, .string e.2))).mapM (fun m => do
      let k ← readKey m.key
      let v ← readString m.value
      return (k, v) : Member → Reading (String × String)) = .ok es := by
  induction es with
  | nil => rfl
  | cons e rest ih =>
    rw [List.map_cons, memberTrees, List.mapM_cons, ih]
    rfl

/-- Attributes are one level of nesting. -/
theorem readAttributes_attributesJson (depth : Nat) (a : Attributes) :
    readAttributes depth (tree (attributesJson a)) = fitting (1 ≤ depth) a := by
  rw [attributesJson, tree, readAttributes]
  cases depth with
  | zero => rfl
  | succ depth =>
    rw [mapM_memberTrees]
    show Except.ok (Attributes.ofList a.entries) = _
    rw [ofList_entries, fitting, if_pos (Nat.le_add_left 1 depth)]

/-! ## §4 Members -/

/-- A member that may be left out. What is read for it goes to its part, and
nothing does if it was left out. -/
theorem readMembers_present {α : Type} {depth : Nat} {read : Tree → Reading α} {name : String}
    (part : Option α → Parts)
    (step : ∀ value rest, readMembers depth (part .none) (⟨.ok name, value⟩ :: rest) = do
      let a ← read value
      readMembers depth (part (some a)) rest)
    {wanted : Bool} {value : Json} {a : α} {rest : List (String × Json)} {parts : Parts}
    {fits others : Prop} [Decidable fits] [Decidable others]
    (own : read (tree value) = fitting fits a)
    (behind : readMembers depth (part (if wanted then some a else .none)) (memberTrees rest) =
      fitting others parts) :
    readMembers depth (part .none) (memberTrees (present wanted name value ++ rest)) =
      fitting ((wanted = true → fits) ∧ others) parts := by
  cases wanted with
  | false => exact behind.trans (fitting_congr (by simp) parts)
  | true =>
    show readMembers depth (part .none) (⟨.ok name, tree value⟩ :: memberTrees rest) = _
    rw [step, fitting_bind own behind]
    exact fitting_congr (by simp) parts

section Steps

variable (depth : Nat) (t : String) (value : Tree) (rest : List Member)

theorem readMembers_nodeType : readMembers depth .none (⟨.ok "node_type", .string (.ok t)⟩ :: rest) =
    readMembers depth ⟨some t, .none, .none, .none, .none⟩ rest := by
  rw [readMembers]
  rfl

theorem readMembers_label :
    readMembers depth ⟨some t, .none, .none, .none, .none⟩ (⟨.ok "label", value⟩ :: rest) = (do
      let l ← readString value
      readMembers depth ⟨some t, some l, .none, .none, .none⟩ rest) := by
  rw [readMembers]
  rfl

theorem readMembers_attributes (l : Option String) :
    readMembers depth ⟨some t, l, .none, .none, .none⟩ (⟨.ok "attributes", value⟩ :: rest) = (do
      let a ← readAttributes depth value
      readMembers depth ⟨some t, l, some a, .none, .none⟩ rest) := by
  rw [readMembers]
  rfl

theorem readMembers_headlines (l : Option String) (a : Option Attributes) :
    readMembers depth ⟨some t, l, a, .none, .none⟩ (⟨.ok "headlines", value⟩ :: rest) = (do
      let hs ← readList depth value
      readMembers depth ⟨some t, l, a, some hs, .none⟩ rest) := by
  rw [readMembers]
  rfl

theorem readMembers_children (l : Option String) (a : Option Attributes)
    (hs : Option (List Snapshot)) :
    readMembers depth ⟨some t, l, a, hs, .none⟩ (⟨.ok "children", value⟩ :: rest) = (do
      let cs ← readList depth value
      readMembers depth ⟨some t, l, a, hs, some cs⟩ rest) := by
  rw [readMembers]
  rfl

end Steps

/-! ## §5 Snapshots -/

/-- What is left out when it is empty is empty when it is missing. -/
theorem getD_present {α : Type} {isEmpty : Bool} {a empty : α} (h : isEmpty = true → a = empty) :
    (if !isEmpty then some a else none).getD empty = a := by
  cases isEmpty with
  | false => rfl
  | true => exact (h rfl).symm

/-- The parts that are read of the members for a snapshot. -/
def parts (s : Snapshot) : Parts :=
  ⟨some s.nodeType, if !s.label.isEmpty then some s.label else none,
    if !s.attributes.entries.isEmpty then some s.attributes else none,
    if !s.headlines.isEmpty then some s.headlines else none,
    if !s.children.isEmpty then some s.children else none⟩

theorem snapshot_parts (s : Snapshot) : s.parts.snapshot = .ok s := by
  obtain ⟨nodeType, label, attributes, headlines, children⟩ := s
  have noEntries : attributes.entries.isEmpty = true → attributes = .empty := by
    intro h
    obtain ⟨es, sorted⟩ := attributes
    cases List.isEmpty_iff.1 h
    rfl
  rw [parts, Parts.snapshot]
  simp only [getD_present String.isEmpty_iff.1, getD_present noEntries,
    getD_present List.isEmpty_iff.1]

/-- An array of snapshots, where the snapshots in it are read as they should be. -/
theorem readList_toJsons {depth : Nat} {ss : List Snapshot}
    (items : ∀ depth, readItems depth (trees (toJsons ss)) =
      fitting (nestingItems (toJsons ss) ≤ depth) ss) :
    readList depth (tree (.array (toJsons ss))) =
      fitting ((Json.array (toJsons ss)).nesting ≤ depth) ss := by
  rw [tree, readList, nesting]
  cases depth with
  | zero => rfl
  | succ depth =>
    refine (fitting_bind (q := True) (items depth) ?_).trans (fitting_congr ?_ ss)
    · rfl
    · rw [and_true, Nat.succ_le_succ_iff]

/-- The members that are written for a snapshot. -/
def members (s : Snapshot) : List (String × Json) :=
  ("node_type", .string s.nodeType) ::
    (present (!s.label.isEmpty) "label" (.string s.label) ++
      (present (!s.attributes.entries.isEmpty) "attributes" (attributesJson s.attributes) ++
        (present (!s.headlines.isEmpty) "headlines" (.array (toJsons s.headlines)) ++
          (present (!s.children.isEmpty) "children" (.array (toJsons s.children)) ++ []))))

theorem toJson_eq (s : Snapshot) : s.toJson = .object s.members := by
  obtain ⟨nodeType, label, attributes, headlines, children⟩ := s
  simp only [toJson, members, List.append_assoc, List.append_nil]

/-- What is nested in the members of a snapshot is nested in its attributes or in its runs. -/
theorem nestingMembers_members_le {s : Snapshot} {depth : Nat} :
    nestingMembers s.members ≤ depth ↔
      ((!s.attributes.entries.isEmpty) = true → 1 ≤ depth) ∧
        ((!s.headlines.isEmpty) = true → (Json.array (toJsons s.headlines)).nesting ≤ depth) ∧
          ((!s.children.isEmpty) = true → (Json.array (toJsons s.children)).nesting ≤ depth) := by
  have text (t : String) : (Json.string t).nesting = 0 := rfl
  have entries : (attributesJson s.attributes).nesting = 1 :=
    congrArg (· + 1) (nestingMembers_strings s.attributes.entries)
  simp only [members, nestingMembers, Nat.max_le, nestingMembers_append_le,
    nestingMembers_present_le, entries, text, Nat.zero_le, implies_true, and_true, true_and]

/-- The members of a snapshot are read as its parts, where the snapshots in its runs are read as
they should be. -/
theorem readMembers_members (depth : Nat) (s : Snapshot)
    (headlines : ∀ depth, readItems depth (trees (toJsons s.headlines)) =
      fitting (nestingItems (toJsons s.headlines) ≤ depth) s.headlines)
    (children : ∀ depth, readItems depth (trees (toJsons s.children)) =
      fitting (nestingItems (toJsons s.children) ≤ depth) s.children) :
    readMembers depth .none (memberTrees s.members) =
      fitting (nestingMembers s.members ≤ depth) s.parts := by
  -- from the last member to the first
  have done : readMembers depth s.parts (memberTrees []) = fitting True s.parts := by
    rw [memberTrees, readMembers]
    rfl
  have fourth := readMembers_present (fun cs => { s.parts with children := cs })
    (fun value rest => readMembers_children depth s.nodeType value rest _ _ _)
    (readList_toJsons children) done
  have third := readMembers_present
    (fun hs => { s.parts with headlines := hs, children := .none })
    (fun value rest => readMembers_headlines depth s.nodeType value rest _ _)
    (readList_toJsons headlines) fourth
  have second := readMembers_present
    (fun a => { s.parts with attributes := a, headlines := .none, children := .none })
    (fun value rest => readMembers_attributes depth s.nodeType value rest _)
    (readAttributes_attributesJson depth s.attributes) third
  have text : readString (tree (.string s.label)) = fitting True s.label := rfl
  have first := readMembers_present (fun l => ⟨some s.nodeType, l, .none, .none, .none⟩)
    (readMembers_label depth s.nodeType) text second
  rw [members, memberTrees, tree, readMembers_nodeType]
  refine first.trans (fitting_congr (Iff.trans ?_ nestingMembers_members_le.symm) s.parts)
  simp only [implies_true, true_and, and_true]

mutual

/-- A snapshot is read back if it is not nested too deep, and else not at all. -/
theorem read_toJson (depth : Nat) : ∀ s : Snapshot,
    read depth (tree s.toJson) = fitting (s.toJson.nesting ≤ depth) s
  | ⟨nodeType, label, attributes, headlines, children⟩ => by
    rw [toJson_eq, tree, read, nesting]
    cases depth with
    | zero => rfl
    | succ depth =>
      have parts := readMembers_members depth ⟨nodeType, label, attributes, headlines, children⟩
        (fun depth => readItems_toJsons depth headlines)
        fun depth => readItems_toJsons depth children
      refine (fitting_bind (q := True) parts ?_).trans (fitting_congr ?_ _)
      · exact snapshot_parts _
      · rw [and_true, Nat.succ_le_succ_iff]

theorem readItems_toJsons (depth : Nat) : ∀ ss : List Snapshot,
    readItems depth (trees (toJsons ss)) = fitting (nestingItems (toJsons ss) ≤ depth) ss
  | [] => rfl
  | s :: rest => by
    rw [toJsons, trees, readItems, nestingItems]
    refine (fitting_bind (read_toJson depth s) (fitting_bind (q := True)
      (readItems_toJsons depth rest) ?_)).trans (fitting_congr ?_ _)
    · rfl
    · rw [and_true, Nat.max_le]

end

/-! ## §6 Texts -/

/-- The text of a snapshot in which no more than 127 objects and arrays stand
inside one another is read as that snapshot, and any other is refused. -/
theorem ofText_jsonText (s : Snapshot) :
    ofText s.jsonText = if s.toJson.nesting ≤ 127 then .ok s else .error .malformed := by
  rw [ofText, jsonText, readText, parse_pretty (numberless_toJson s)]
  show (read 127 (tree s.toJson) >>= fun a => pure a) = _
  rw [read_toJson, bind_pure, fitting]

end Snapshot

end ScriptureText
