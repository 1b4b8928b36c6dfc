/-
ScriptureText.Proofs.Snapshot — a snapshot loses nothing of a tree but which
nodes are finished.

Names are told apart because no two values of an enumeration share one
(`injective_of_nodup`). Strings that hold several fields are told apart because
no field contains the separator behind it: a passage is split at the first
space, colon and hyphen in turn (`Passage.label_inj`), and a list at its commas
(`commaJoined_inj`). That the separators cannot occur is read off the patterns
of the fields, so that elements have to be checked; and a list that is joined
must not be empty, for it would look like a list of one empty string.

`Node.snapshot_eq` replaces the reading of a tree by two lists of snapshots, one
for each run; `snapshot_eq_iff` is then an induction over the tree.
-/
import ScriptureText.Proofs.Fields
import ScriptureText.Proofs.Sound
import ScriptureText.Proofs.Traversal
import ScriptureText.Snapshot.Basic
import Mathlib.Data.List.Nodup

namespace ScriptureText

/-! ## §1 Names -/

/-- Where all values are listed and no two names in the list are the same, names tell values
apart. -/
theorem injective_of_nodup {α : Type} {name : α → String} (all : List α)
    (complete : ∀ a, a ∈ all) (distinct : (all.map name).Nodup) : Function.Injective name :=
  fun a b h => List.inj_on_of_nodup_map distinct (complete a) (complete b) h

theorem FormatKind.name_injective : Function.Injective FormatKind.name :=
  injective_of_nodup all (by intro k; cases k <;> decide) (by decide)

theorem LineBreak.name_injective : Function.Injective LineBreak.name :=
  injective_of_nodup all (by intro k; cases k <;> decide) (by decide)

theorem RawMode.name_injective : Function.Injective RawMode.name :=
  injective_of_nodup all (by intro m; cases m <;> decide) (by decide)

theorem Priority.name_injective : Function.Injective Priority.name :=
  injective_of_nodup all (by intro p; cases p <;> decide) (by decide)

theorem BookId.osisId_injective : Function.Injective BookId.osisId :=
  injective_of_nodup all (by intro b; cases b <;> decide) (by decide +kernel)

/-! ## §2 Separators -/

/-- Text up to the first separator is told apart from what comes behind it. -/
theorem append_separator_inj {a : Char} {u v u' v' : List Char} (hu : a ∉ u) (hu' : a ∉ u')
    (h : u ++ a :: v = u' ++ a :: v') : u = u' ∧ v = v' := by
  induction u generalizing u' with
  | nil =>
    cases u' with
    | nil => exact ⟨rfl, (List.cons.inj h).2⟩
    | cons c u' =>
      rw [List.nil_append, List.cons_append, List.cons.injEq] at h
      exact absurd (List.mem_cons.2 (.inl h.1)) hu'
  | cons c u ih =>
    rw [List.cons_append] at h
    cases u' with
    | nil =>
      rw [List.nil_append, List.cons.injEq] at h
      exact absurd (List.mem_cons.2 (.inl h.1.symm)) hu
    | cons c' u' =>
      rw [List.cons_append, List.cons.injEq] at h
      obtain ⟨rfl, h⟩ := h
      obtain ⟨rfl, rfl⟩ := ih (List.not_mem_of_not_mem_cons hu) (List.not_mem_of_not_mem_cons hu') h
      exact ⟨rfl, rfl⟩

theorem toString_nat_injective : Function.Injective (toString : Nat → String) := by
  intro m n h
  rw [Nat.toString_eq_repr, Nat.toString_eq_repr] at h
  have digits := congrArg String.toList h
  rw [Nat.toList_repr, Nat.toList_repr] at digits
  rw [← Nat.ofDigitChars_toDigits (n := m) (by decide : 1 < 10) (le_refl 10), digits,
    Nat.ofDigitChars_toDigits (by decide) (le_refl 10)]

/-- What is no digit does not occur in a number. -/
theorem not_mem_toString_nat {c : Char} (h : c.isDigit = false) (n : Nat) :
    c ∉ (toString n).toList := by
  rw [Nat.toString_eq_repr, Nat.toList_repr]
  intro mem
  rw [Nat.isDigit_of_mem_toDigits (by decide) (le_refl 10) mem] at h
  cases h

/-- Lists of strings without commas are told apart when they are joined, unless one is empty. -/
theorem commaJoined_inj {xs ys : List String} (hx : xs ≠ []) (hy : ys ≠ [])
    (cx : ∀ x ∈ xs, ',' ∉ x.toList) (cy : ∀ y ∈ ys, ',' ∉ y.toList)
    (h : commaJoined xs = commaJoined ys) : xs = ys := by
  have splits {zs : List String} (hz : zs ≠ []) (cz : ∀ z ∈ zs, ',' ∉ z.toList) :
      (commaJoined zs).toList.splitOn ',' = zs.map String.toList := by
    rw [commaJoined, String.toList_intercalate]
    exact List.splitOn_intercalate ',' (by simpa using cz) (by simpa using hz)
  have lists : xs.map String.toList = ys.map String.toList := by
    rw [← splits hx cx, h, splits hy cy]
  exact List.map_injective_iff.2 (fun _ _ => String.toList_inj.1) lists

theorem commaJoined_numbers_inj {xs ys : List Nat} (hx : xs ≠ []) (hy : ys ≠ [])
    (h : commaJoined (xs.map toString) = commaJoined (ys.map toString)) : xs = ys := by
  have noComma (zs : List Nat) : ∀ z ∈ zs.map toString, ',' ∉ z.toList := by
    intro z mem
    obtain ⟨n, -, rfl⟩ := List.mem_map.1 mem
    exact not_mem_toString_nat (by decide) n
  have strings := commaJoined_inj (by simpa using hx) (by simpa using hy) (noComma xs) (noComma ys) h
  exact List.map_injective_iff.2 toString_nat_injective strings

/-! ## §3 Passages -/

theorem Passage.toList_label (p : Passage) : p.label.toList =
    p.abbreviation.toList ++ ' ' :: ((toString p.firstChapter).toList ++ ':' ::
      (p.firstVerse.toList ++ '-' :: ((toString p.lastChapter).toList ++ ':' ::
        p.lastVerse.toList))) := by
  simp [label]

/-- The label and the book tell passages apart. -/
theorem Passage.label_inj {p q : Passage} (hp : p.InOrder) (hq : q.InOrder)
    (label : p.label = q.label) (book : p.book = q.book) : p = q := by
  have noSpace {r : Passage} (hr : r.InOrder) : ' ' ∉ r.abbreviation.toList :=
    hr.abbreviation.not_mem (by decide)
  have noHyphen {r : Passage} (hr : r.InOrder) : '-' ∉ r.firstVerse.toList :=
    hr.firstVerse.not_mem (by decide)
  have noColon (n : Nat) : ':' ∉ (toString n).toList := not_mem_toString_nat (by decide) n
  have chars := congrArg String.toList label
  rw [toList_label, toList_label] at chars
  obtain ⟨abbreviation, chars⟩ := append_separator_inj (noSpace hp) (noSpace hq) chars
  obtain ⟨firstChapter, chars⟩ := append_separator_inj (noColon _) (noColon _) chars
  obtain ⟨firstVerse, chars⟩ := append_separator_inj (noHyphen hp) (noHyphen hq) chars
  obtain ⟨lastChapter, lastVerse⟩ := append_separator_inj (noColon _) (noColon _) chars
  obtain ⟨a, b, c, v, d, w⟩ := p
  obtain ⟨a', b', c', v', d', w'⟩ := q
  rw [String.toList_inj] at abbreviation firstChapter firstVerse lastChapter lastVerse
  obtain rfl : c = c' := toString_nat_injective firstChapter
  obtain rfl : d = d' := toString_nat_injective lastChapter
  subst book abbreviation firstVerse lastVerse
  rfl

/-! ## §4 Attributes -/

theorem lookup_insertEntry (k v : String) (es : List (String × String)) (key : String) :
    (insertEntry k v es).lookup key = if key = k then some v else es.lookup key := by
  have first (k v : String) (rest : List (String × String)) :
      List.lookup key ((k, v) :: rest) = if key = k then some v else rest.lookup key := by
    rw [List.lookup_cons]
    by_cases h : key = k
    · simp [h]
    · rw [beq_eq_false_iff_ne.2 h, if_neg h]
  fun_induction insertEntry k v es with
  | case1 => rw [first]
  | case2 => rw [first]
  | case3 v' rest =>
    rw [first, first]
    split <;> rfl
  | case4 k' v' rest _ hne ih =>
    rw [first, first, ih]
    by_cases hk : key = k
    · subst hk
      rw [if_pos rfl, if_pos rfl, if_neg hne]
    · rw [if_neg hk, if_neg hk]

namespace Snapshot

/-- The value under a key. -/
def attribute? (s : Snapshot) (key : String) : Option String := s.attributes.entries.lookup key

@[simp] theorem attribute?_named (nodeType label key : String) :
    (named nodeType label).attribute? key = none := rfl

@[simp] theorem attribute?_withAttribute (s : Snapshot) (k v key : String) :
    (s.withAttribute k v).attribute? key = if key = k then some v else s.attribute? key :=
  lookup_insertEntry k v s.attributes.entries key

theorem withAttribute_inj {s s' : Snapshot} {k v v' : String}
    (h : s.withAttribute k v = s'.withAttribute k v') : v = v' := by
  have value := congrArg (·.attribute? k) h
  simpa using value

/-- A snapshot without the runs of its content. -/
structure Bare (s : Snapshot) : Prop where
  headlines : s.headlines = []
  children : s.children = []

theorem Bare.named (nodeType label : String) : (Snapshot.named nodeType label).Bare := ⟨rfl, rfl⟩

theorem Bare.ext {s s' : Snapshot} (h : s.Bare) (h' : s'.Bare) (nodeType : s.nodeType = s'.nodeType)
    (label : s.label = s'.label) (attributes : s.attributes = s'.attributes) : s = s' := by
  have headlines := h.headlines.trans h'.headlines.symm
  have children := h.children.trans h'.children.symm
  cases s
  cases s'
  simp_all

end Snapshot

theorem Grammar.attribute?_snapshot (g : Grammar) :
    g.snapshot.attribute? "strongs" = some (commaJoined (g.strongs.map toString)) ∧
      g.snapshot.attribute? "rmac" = g.rmac.map commaJoined ∧
      g.snapshot.attribute? "sourceIndices" =
        g.sourceIndices.map fun indices => commaJoined (indices.map toString) := by
  obtain ⟨strongs, rmac, indices⟩ := g
  cases rmac <;> cases indices <;> simp [Grammar.snapshot]

/-- Optional lists are told apart where the lists are. -/
theorem option_map_inj {α : Type} {f : α → String} {x y : Option α}
    (values : ∀ a ∈ x, ∀ b ∈ y, f a = f b → a = b) (h : x.map f = y.map f) : x = y := by
  cases x with
  | none =>
    cases y with
    | none => rfl
    | some b => cases h
  | some a =>
    cases y with
    | none => cases h
    | some b => rw [values a rfl b rfl (Option.some.inj h)]

theorem Grammar.snapshot_inj {g g' : Grammar} (hg : g.InOrder) (hg' : g'.InOrder)
    (h : g.snapshot = g'.snapshot) : g = g' := by
  obtain ⟨strongs, rmac, indices⟩ := g.attribute?_snapshot
  obtain ⟨strongs', rmac', indices'⟩ := g'.attribute?_snapshot
  rw [← h] at strongs' rmac' indices'
  have sameStrongs : g.strongs = g'.strongs :=
    commaJoined_numbers_inj hg.nonempty hg'.nonempty (Option.some.inj (strongs.symm.trans strongs'))
  -- the lists that may be missing are as long as that of Strong's numbers, so not empty
  have filled {g : Grammar} (hg : g.InOrder) {α : Type} {xs : List α}
      (length : xs.length = g.strongs.length) : xs ≠ [] := by
    rintro rfl
    exact hg.nonempty (List.length_eq_zero_iff.1 length.symm)
  have noComma {g : Grammar} (hg : g.InOrder) {codes : List String} (mem : codes ∈ g.rmac) :
      ∀ code ∈ codes, ',' ∉ code.toList :=
    fun code hcode => ((hg.rmac codes mem).2 code hcode).not_mem (by decide)
  have sameRmac : g.rmac = g'.rmac := by
    refine option_map_inj (fun a ha b hb => ?_) (rmac.symm.trans rmac')
    exact commaJoined_inj (filled hg (hg.rmac a ha).1) (filled hg' (hg'.rmac b hb).1)
      (noComma hg ha) (noComma hg' hb)
  have sameIndices : g.sourceIndices = g'.sourceIndices := by
    refine option_map_inj (fun a ha b hb => ?_) (indices.symm.trans indices')
    exact commaJoined_numbers_inj (filled hg (hg.sourceIndices a ha).1)
      (filled hg' (hg'.sourceIndices b hb).1)
  obtain ⟨s, r, i⟩ := g
  obtain ⟨s', r', i'⟩ := g'
  subst sameStrongs sameRmac sameIndices
  rfl

/-! ## §5 Elements -/

namespace Leaf

theorem nodeType_snapshot (l : Leaf) : l.snapshot.nodeType = l.typeName := by cases l <;> rfl

theorem snapshot_injective : Function.Injective Leaf.snapshot := by
  intro l l' h
  have types : l.typeName = l'.typeName := by rw [← nodeType_snapshot, h, nodeType_snapshot]
  have label : l.snapshot.label = l'.snapshot.label := by rw [h]
  cases l with
  | text s =>
    cases l' with
    | text s' => exact congrArg Leaf.text label
    | _ => simp [typeName] at types
  | verseSeparator =>
    cases l' with
    | verseSeparator => rfl
    | _ => simp [typeName] at types
  | lineBreak k =>
    cases l' with
    | lineBreak k' => rw [LineBreak.name_injective (Snapshot.withAttribute_inj h)]
    | _ => simp [typeName] at types
  | rawHtml mode raw =>
    cases l' with
    | rawHtml mode' raw' =>
      obtain rfl := RawMode.name_injective (Snapshot.withAttribute_inj h)
      exact congrArg (Leaf.rawHtml _) label
    | _ => simp [typeName] at types

end Leaf

namespace Tag

theorem nodeType_snapshot (t : Tag) : t.snapshot.nodeType = t.typeName := by
  cases t with
  | grammar g =>
    obtain ⟨strongs, rmac, indices⟩ := g
    cases rmac <;> cases indices <;> rfl
  | _ => rfl

theorem bare_snapshot (t : Tag) : t.snapshot.Bare := by
  cases t with
  | grammar g =>
    obtain ⟨strongs, rmac, indices⟩ := g
    cases rmac <;> cases indices <;> exact ⟨rfl, rfl⟩
  | _ => exact ⟨rfl, rfl⟩

/-- The snapshot of a container tells apart its kind and its fields, provided that these are in
order. -/
theorem snapshot_inj {t t' : Tag} (checked : t.check = .ok ()) (checked' : t'.check = .ok ())
    (h : t.snapshot = t'.snapshot) : t = t' := by
  have types : t.typeName = t'.typeName := by rw [← nodeType_snapshot, h, nodeType_snapshot]
  have label : t.snapshot.label = t'.snapshot.label := by rw [h]
  cases t with
  | headline d =>
    cases t' with
    | headline d' => rw [toString_nat_injective (Snapshot.withAttribute_inj h)]
    | _ => simp [typeName] at types
  | footnote =>
    cases t' with
    | footnote => rfl
    | _ => simp [typeName] at types
  | crossReference p =>
    cases t' with
    | crossReference p' =>
      have book := BookId.osisId_injective (Snapshot.withAttribute_inj h)
      rw [Passage.label_inj (Passage.check_eq_ok.1 checked) (Passage.check_eq_ok.1 checked') label
        book]
    | _ => simp [typeName] at types
  | format k =>
    cases t' with
    | format k' => rw [FormatKind.name_injective (Snapshot.withAttribute_inj h)]
    | _ => simp [typeName] at types
  | css style =>
    cases t' with
    | css style' => exact congrArg Tag.css label
    | _ => simp [typeName] at types
  | grammar g =>
    cases t' with
    | grammar g' =>
      rw [Grammar.snapshot_inj (Grammar.check_eq_ok.1 checked) (Grammar.check_eq_ok.1 checked') h]
    | _ => simp [typeName] at types
  | dictionary name entry =>
    cases t' with
    | dictionary name' entry' =>
      obtain rfl : name = name' := Snapshot.withAttribute_inj h
      exact congrArg (Tag.dictionary _) label
    | _ => simp [typeName] at types
  | variation variations =>
    cases t' with
    | variation variations' =>
      have noComma {vs : List String} (hvs : ∀ v ∈ vs, Pattern.alnumHyphen.Matches v.toList) :
          ∀ v ∈ vs, ',' ∉ v.toList := fun v mem => (hvs v mem).not_mem (by decide)
      obtain ⟨filled, letters⟩ := checkVariations_eq_ok.1 checked
      obtain ⟨filled', letters'⟩ := checkVariations_eq_ok.1 checked'
      rw [commaJoined_inj filled filled' (noComma letters) (noComma letters') label]
    | _ => simp [typeName] at types
  | extra x =>
    cases t' with
    | extra x' =>
      have values (key : String) :
          (extra x).snapshot.attribute? key = (extra x').snapshot.attribute? key := by rw [h]
      have priority := values "priority"
      have category := values "category"
      have key := values "key"
      have value := values "value"
      simp only [snapshot, Snapshot.attribute?_withAttribute, String.reduceEq, if_true, if_false,
        Option.some.injEq] at priority category key value
      obtain ⟨p, c, k, v⟩ := x
      obtain ⟨p', c', k', v'⟩ := x'
      obtain rfl := Priority.name_injective priority
      subst category key value
      rfl
    | _ => simp [typeName] at types

end Tag

theorem Leaf.typeName_ne (l : Leaf) (t : Tag) : l.typeName ≠ t.typeName := by
  cases l <;> cases t <;> simp [Leaf.typeName, Tag.typeName]

/-- The snapshot of an element: that of a container has the runs of its content. -/
def Element.snapshot : Element → Snapshot
  | .leaf l => l.snapshot
  | .container t c =>
    { t.snapshot with headlines := c.snapshot.headlines, children := c.snapshot.children }

/-! ## §6 Trees -/

namespace Snapshot

/-- What a maker is to make of some contents: their own runs, under any name. -/
def Copies (c : Node) : Prop := ∀ s : Snapshot, s.Bare → c.feed consumer ⟨s, false⟩ =
  .ok () ⟨{ s with headlines := c.snapshot.headlines, children := c.snapshot.children }, true⟩

theorem feed_container {t : Tag} {c : Node} (copies : Copies c) (m : Maker) :
    (Element.container t c).feed consumer m =
      .ok () (m.addContainer (Element.container t c).snapshot) := by
  rw [Element.feed_container, Consumer.within_eq_ok]
  exact .inr ⟨_, m, _, rfl, copies t.snapshot t.bare_snapshot, rfl⟩

/-- Before the start of the body, headlines join the headlines. -/
theorem feedRun_headlines (hs : List Headline) (contents : ∀ h ∈ hs, Copies h.content)
    (s : Snapshot) : Element.feedRun consumer (hs.map Headline.toElement) ⟨s, false⟩ =
      .ok () ⟨{ s with headlines := s.headlines ++ hs.map (·.toElement.snapshot) }, false⟩ := by
  induction hs generalizing s with
  | nil =>
    cases s
    rw [List.map_nil, List.map_nil, List.append_nil, Element.feedRun_nil]
    rfl
  | cons h rest ih =>
    rw [List.forall_mem_cons] at contents
    rw [List.map_cons, Element.feedRun_cons, Consumer.bind_eq_ok]
    refine ⟨(), _, feed_container contents.1 _, ?_⟩
    show Element.feedRun consumer _ ⟨_, false⟩ = _
    rw [ih contents.2, List.append_assoc]
    rfl

/-- After it, everything joins the children. -/
theorem feedRun_body (es : List Element) (contents : ∀ t c, .container t c ∈ es → Copies c)
    (s : Snapshot) : Element.feedRun consumer es ⟨s, true⟩ =
      .ok () ⟨{ s with children := s.children ++ es.map Element.snapshot }, true⟩ := by
  induction es generalizing s with
  | nil =>
    cases s
    rw [List.map_nil, List.append_nil, Element.feedRun_nil]
    rfl
  | cons e rest ih =>
    have first : e.feed consumer ⟨s, true⟩ =
        .ok () ⟨{ s with children := s.children ++ [e.snapshot] }, true⟩ := by
      cases e with
      | leaf l => rfl
      | container t c => exact feed_container (contents t c List.mem_cons_self) _
    rw [Element.feedRun_cons, Consumer.bind_eq_ok]
    refine ⟨(), _, first, ?_⟩
    rw [ih fun t c mem => contents t c (List.mem_cons_of_mem e mem), List.append_assoc]
    rfl

end Snapshot

namespace Node

open Snapshot

theorem feed_snapshot (n : Node) (contents : ∀ t c, .container t c ∈ n.children → Copies c)
    {s : Snapshot} (bare : s.Bare) : n.feed consumer ⟨s, false⟩ =
      .ok () ⟨{ s with
        headlines := n.headlines.map (·.toElement.snapshot)
        children := n.body.map Element.snapshot }, true⟩ := by
  obtain ⟨nodeType, label, attributes, hs, cs⟩ := s
  obtain rfl : hs = [] := bare.headlines
  obtain rfl : cs = [] := bare.children
  rw [feed_eq]
  simp only [Consumer.bind_eq_ok]
  refine ⟨(), _, feedRun_headlines n.headlines ?_ _, (), _, rfl, (), _,
    feedRun_body n.body ?_ _, rfl⟩
  · exact fun h mem => contents _ _ (mem_children.2 (.inl ⟨h, mem, rfl⟩))
  · exact fun t c mem => contents t c (mem_children.2 (.inr mem))

theorem copies (n : Node) : Copies n := by
  induction n using childrenInduction with
  | step n ih =>
    intro s bare
    rw [feed_snapshot n ih bare, snapshot, feed_snapshot n ih (.named _ _)]
    rfl

/-- The snapshot of a tree keeps the runs apart and has a snapshot for each element. -/
theorem snapshot_eq (n : Node) : n.snapshot = ⟨"FormattedText", "", .empty,
    n.headlines.map (·.toElement.snapshot), n.body.map Element.snapshot⟩ := by
  rw [snapshot, feed_snapshot n (fun _ c _ => c.copies) (.named _ _)]
  rfl

theorem snapshot_ext {n n' : Node} (headlines : n.snapshot.headlines = n'.snapshot.headlines)
    (children : n.snapshot.children = n'.snapshot.children) : n.snapshot = n'.snapshot := by
  rw [snapshot_eq, snapshot_eq] at headlines children ⊢
  rw [Snapshot.mk.injEq]
  exact ⟨rfl, rfl, rfl, headlines, children⟩

/-- Which nodes are finished does not show in a snapshot. -/
theorem snapshot_mapRuns_id (k : Bool → Bool) (n : Node) :
    (n.mapRuns id k).snapshot = n.snapshot := by
  rw [snapshot, feed_mapRuns_id, snapshot]

theorem snapshot_reopened (n : Node) : n.reopened.snapshot = n.snapshot :=
  n.snapshot_mapRuns_id fun _ => false

end Node

/-- Two maps that tell the same items of two lists apart. -/
theorem map_eq_map_of_imp {α β γ : Type} {f : α → β} {g : α → γ} {xs ys : List α}
    (imp : ∀ x ∈ xs, ∀ y ∈ ys, f x = f y → g x = g y) (h : xs.map f = ys.map f) :
    xs.map g = ys.map g := by
  induction xs generalizing ys with
  | nil =>
    rw [List.map_nil, eq_comm, List.map_eq_nil_iff] at h
    rw [h]
  | cons x xs ih =>
    cases ys with
    | nil => cases h
    | cons y ys =>
      rw [List.map_cons, List.map_cons, List.cons.injEq] at h
      rw [List.map_cons, List.map_cons, imp x List.mem_cons_self y List.mem_cons_self h.1,
        ih (fun x hx y hy => imp x (List.mem_cons_of_mem _ hx) y (List.mem_cons_of_mem _ hy)) h.2]

/-- The snapshot of an element tells apart what the snapshots of contents do. -/
theorem Element.snapshot_inj {e e' : Element} (checked : e.check = .ok ())
    (checked' : e'.check = .ok ())
    (contents : ∀ t c, e = .container t c → ∀ t' c', e' = .container t' c' →
      c.snapshot = c'.snapshot → c.reopened = c'.reopened)
    (h : e.snapshot = e'.snapshot) : e.mapContent Node.reopened = e'.mapContent Node.reopened := by
  have types := congrArg Snapshot.nodeType h
  cases e with
  | leaf l =>
    cases e' with
    | leaf l' => rw [Leaf.snapshot_injective h]
    | container t' c' =>
      exact absurd (l.nodeType_snapshot.symm.trans (types.trans t'.nodeType_snapshot))
        (l.typeName_ne t')
  | container t c =>
    cases e' with
    | leaf l' =>
      exact absurd (l'.nodeType_snapshot.symm.trans (types.symm.trans t.nodeType_snapshot))
        (l'.typeName_ne t)
    | container t' c' =>
      rw [snapshot, snapshot, Snapshot.mk.injEq] at h
      obtain ⟨nodeType, label, attributes, headlines, children⟩ := h
      have tags := t.bare_snapshot.ext t'.bare_snapshot nodeType label attributes
      have inside : c.snapshot = c'.snapshot := Node.snapshot_ext headlines children
      rw [Tag.snapshot_inj checked checked' tags, mapContent_container, mapContent_container,
        contents t c rfl t' c' rfl inside]

/-- Two trees whose elements are all in order have the same snapshot exactly if they are the same
tree but for the marks that say which nodes are finished. -/
theorem snapshot_eq_snapshot_iff {n n' : Node} (checked : n.Everywhere Node.Checked)
    (checked' : n'.Everywhere Node.Checked) :
    n.snapshot = n'.snapshot ↔ n.reopened = n'.reopened := by
  constructor
  · induction n using Node.childrenInduction generalizing n' with
    | step n ih =>
      intro h
      obtain ⟨own, inside⟩ := Node.everywhere_iff.1 checked
      obtain ⟨own', inside'⟩ := Node.everywhere_iff.1 checked'
      have elements : ∀ e ∈ n.children, ∀ e' ∈ n'.children, e.snapshot = e'.snapshot →
          e.mapContent Node.reopened = e'.mapContent Node.reopened := by
        intro e mem e' mem'
        refine Element.snapshot_inj (own e mem) (own' e' mem') fun t c he t' c' he' => ?_
        subst he he'
        exact ih t c mem (inside t c mem) (inside' t' c' mem')
      rw [Node.snapshot_eq, Node.snapshot_eq, Snapshot.mk.injEq] at h
      obtain ⟨-, -, -, headlines, body⟩ := h
      have sameHeadlines : n.headlines.map (Headline.mapContent Node.reopened) =
          n'.headlines.map (Headline.mapContent Node.reopened) := by
        refine map_eq_map_of_imp (fun hd mem hd' mem' same => ?_) headlines
        have := elements _ (Node.mem_children.2 (.inl ⟨hd, mem, rfl⟩)) _
          (Node.mem_children.2 (.inl ⟨hd', mem', rfl⟩)) same
        simpa [Headline.toElement, Headline.mapContent] using this
      have sameBody : n.body.map (Element.mapContent Node.reopened) =
          n'.body.map (Element.mapContent Node.reopened) :=
        map_eq_map_of_imp (fun e mem e' mem' => elements e (Node.mem_children.2 (.inr mem)) e'
          (Node.mem_children.2 (.inr mem'))) body
      rw [Node.reopened, Node.reopened, Node.mapRuns_eq, Node.mapRuns_eq n']
      rw [Node.mk.injEq]
      exact ⟨sameHeadlines, sameBody, rfl⟩
  · intro same
    rw [← n.snapshot_reopened, same, n'.snapshot_reopened]

/-- A footnote with a reference has the same snapshot before and after it is finished, and another
one where a digit belongs to the other side of a separator. -/
theorem snapshot_eq_snapshot_iff_reference :
    let note (p : Passage) (f : Bool) : Node := ⟨[], [.container .footnote ⟨[],
      [.container (.crossReference p) ⟨[], [.leaf (.text "creation")], f⟩], f⟩], f⟩
    let p : Passage := ⟨"Gen", .genesis, 1, "2", 34, "5"⟩
    let q : Passage := ⟨"Gen", .genesis, 1, "23", 4, "5"⟩
    (note p false).snapshot = (note p true).snapshot ∧
      (note p false).snapshot ≠ (note q false).snapshot := by
  intro note p q
  refine ⟨(snapshot_eq_snapshot_iff (by decide) (by decide)).2 rfl, fun same => ?_⟩
  have trees := (snapshot_eq_snapshot_iff (by decide) (by decide)).1 same
  simp [note, p, q, Node.reopened, Node.mapRuns, Element.mapRuns] at trees

end ScriptureText
