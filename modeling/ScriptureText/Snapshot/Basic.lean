/-
ScriptureText.Snapshot.Basic — plain copies of trees. A snapshot names the type
of a node or element, labels it with its main string, holds its other fields as
attributes in the order of their keys, and keeps the headline run apart from
the other children. `Node.snapshot` makes one by reading the tree.
-/
import ScriptureText.Traversal.Consumer

namespace ScriptureText

/-! ## §1 Attributes -/

/-- Put a value under a key of an ascending list, in place of an older value. -/
def insertEntry (k v : String) : List (String × String) → List (String × String)
  | [] => [(k, v)]
  | (k', v') :: rest =>
    if k < k' then (k, v) :: (k', v') :: rest
    else if k = k' then (k, v) :: rest
    else (k', v') :: insertEntry k v rest

theorem mem_insertEntry {k v : String} {es : List (String × String)} {e : String × String}
    (h : e ∈ insertEntry k v es) : e.1 = k ∨ e ∈ es := by
  fun_induction insertEntry k v es <;> grind

/-- An ascending list stays ascending. -/
theorem sorted_insertEntry {k v : String} {es : List (String × String)}
    (h : es.Pairwise (·.1 < ·.1)) : (insertEntry k v es).Pairwise (·.1 < ·.1) := by
  fun_induction insertEntry k v es with
  | case1 => simp
  | case2 k' v' rest hlt =>
    rw [List.pairwise_cons] at h ⊢
    refine ⟨?_, List.pairwise_cons.2 h⟩
    intro e he
    rcases List.mem_cons.1 he with rfl | he
    · exact hlt
    · exact String.lt_trans hlt (h.1 e he)
  | case3 v' rest hlt =>
    rw [List.pairwise_cons] at h ⊢
    exact h
  | case4 k' v' rest hlt hne ih =>
    rw [List.pairwise_cons] at h ⊢
    refine ⟨?_, ih h.2⟩
    intro e he
    rcases mem_insertEntry he with hk | he
    · rw [hk]
      rcases Decidable.em (k' < k) with hgt | hgt
      · exact hgt
      · exact absurd (String.le_antisymm (String.not_lt.1 hgt) (String.not_lt.1 hlt)) hne
    · exact h.1 e he

/-- Strings under distinct keys, in ascending order of the keys. -/
structure Attributes where
  entries : List (String × String)
  sorted : entries.Pairwise (·.1 < ·.1)
  deriving DecidableEq

namespace Attributes

/-- No attributes. -/
def empty : Attributes := ⟨[], .nil⟩

/-- Put a value under a key, in place of an older value. -/
def insert (a : Attributes) (k v : String) : Attributes :=
  ⟨insertEntry k v a.entries, sorted_insertEntry a.sorted⟩

/-- The attributes that result from putting values under keys in order. -/
def ofList (es : List (String × String)) : Attributes :=
  es.foldl (fun a e => a.insert e.1 e.2) empty

end Attributes

/-! ## §2 Snapshots -/

/-- A plain copy of a node or an element. -/
structure Snapshot where
  nodeType : String
  label : String
  attributes : Attributes
  headlines : List Snapshot
  children : List Snapshot

namespace Snapshot

/-- A snapshot without attributes and children. -/
def named (nodeType label : String) : Snapshot := ⟨nodeType, label, .empty, [], []⟩

/-- The snapshot without any text. -/
def blank : Snapshot := named "" ""

instance : Inhabited Snapshot := ⟨blank⟩

/-- A snapshot with one more attribute, in place of an older value. -/
def withAttribute (s : Snapshot) (k v : String) : Snapshot :=
  { s with attributes := s.attributes.insert k v }

mutual

/-- Equality of snapshots. -/
def beq : Snapshot → Snapshot → Bool
  | ⟨t, l, a, hs, cs⟩, ⟨t', l', a', hs', cs'⟩ =>
    t == t' && l == l' && a == a' && beqList hs hs' && beqList cs cs'
termination_by structural s => s

/-- Equality of lists of snapshots. -/
def beqList : List Snapshot → List Snapshot → Bool
  | [], [] => true
  | s :: rest, s' :: rest' => beq s s' && beqList rest rest'
  | _, _ => false
termination_by structural ss => ss

end

instance : BEq Snapshot := ⟨beq⟩

end Snapshot

/-! ## §3 Snapshots of elements -/

/-- Values in a row, separated by commas. -/
def commaJoined (values : List String) : String := ",".intercalate values

/-- The snapshot of a leaf. -/
def Leaf.snapshot : Leaf → Snapshot
  | .text s => .named "Text" s
  | .verseSeparator => .named "VerseSeparator" ""
  | .lineBreak k => (Snapshot.named "LineBreak" "").withAttribute "kind" k.name
  | .rawHtml mode raw => (Snapshot.named "RawHTML" raw).withAttribute "mode" mode.name

/-- A passage as `abbreviation chapter:verse-chapter:verse`. -/
def Passage.label (p : Passage) : String :=
  p.abbreviation ++ " " ++ toString p.firstChapter ++ ":" ++ p.firstVerse ++ "-" ++
    toString p.lastChapter ++ ":" ++ p.lastVerse

/-- The snapshot of grammar information; lists that are not known leave no attribute. -/
def Grammar.snapshot (g : Grammar) : Snapshot :=
  let s := (Snapshot.named "GrammarInformation" "").withAttribute "strongs"
    (commaJoined (g.strongs.map toString))
  let s := match g.rmac with
    | some codes => s.withAttribute "rmac" (commaJoined codes)
    | none => s
  match g.sourceIndices with
  | some indices => s.withAttribute "sourceIndices" (commaJoined (indices.map toString))
  | none => s

/-- The snapshot of a container without its content. -/
def Tag.snapshot : Tag → Snapshot
  | .headline depth => (Snapshot.named "Headline" "").withAttribute "depth" (toString depth)
  | .footnote => .named "Footnote" ""
  | .crossReference p =>
    (Snapshot.named "CrossReference" p.label).withAttribute "book" p.book.osisId
  | .format kind => (Snapshot.named "FormattingInstruction" "").withAttribute "kind" kind.name
  | .css style => .named "CSSFormatting" style
  | .grammar g => g.snapshot
  | .dictionary name entry =>
    (Snapshot.named "DictionaryEntry" entry).withAttribute "dictionary" name
  | .variation variations => .named "VariationText" (commaJoined variations)
  | .extra x =>
    (Snapshot.named "ExtraAttribute" "").withAttribute "priority" x.priority.name
      |>.withAttribute "category" x.category
      |>.withAttribute "key" x.key
      |>.withAttribute "value" x.value

/-! ## §4 Snapshots of trees -/

namespace Snapshot

/-- A snapshot in the making; containers go to the headline run until the body
has started. -/
structure Maker where
  snapshot : Snapshot
  started : Bool

/-- A maker with one more child. -/
def Maker.addChild (m : Maker) (child : Snapshot) : Maker :=
  { m with snapshot := { m.snapshot with children := m.snapshot.children ++ [child] } }

/-- A maker with one more container. -/
def Maker.addContainer (m : Maker) (child : Snapshot) : Maker :=
  if m.started then m.addChild child
  else { m with snapshot := { m.snapshot with headlines := m.snapshot.headlines ++ [child] } }

/-- The consumer that makes snapshots. -/
def consumer : Consumer Empty Maker where
  leaf l := modify (·.addChild l.snapshot)
  enter t := return some ⟨t.snapshot, false⟩
  leave _ m inside := m.addContainer inside.snapshot
  start := modify fun m => { m with started := true }
  finish := pure ()

end Snapshot

/-- The snapshot of a tree. -/
def Node.snapshot (n : Node) : Snapshot :=
  (Consumer.finalState (n.feed Snapshot.consumer ⟨.named "FormattedText" "", false⟩)).snapshot

end ScriptureText
