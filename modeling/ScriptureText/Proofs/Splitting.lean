/-
ScriptureText.Proofs.Splitting — a tree in pieces, and back.

A piece is built by a fresh builder from one child. Such a builder has no text to
merge anything into and puts a headline into the headline run, so that the piece
holds the child and nothing else (`Node.piece_child`). Adding a piece to a node
adds its only child (`Node.joined_piece`), whichever run the piece has it in: what
decides about the run is the node that it is added to. So all pieces of a tree,
added one after the other, are its children added one after the other, and that is
the copy of the tree.
-/
import ScriptureText.Proofs.Accept
import ScriptureText.Proofs.Appending

namespace ScriptureText

open Builder (consumer)

namespace Node

/-! ## §1 Pieces -/

/-- The children for which splitting gives pieces. -/
def splitChildren (n : Node) (includeHeadlines : Bool) : List Element :=
  (if includeHeadlines then n.headlines.map Headline.toElement else []) ++ n.body

theorem mem_children_of_split {n : Node} {includeHeadlines : Bool} {e : Element}
    (mem : e ∈ n.splitChildren includeHeadlines) : e ∈ n.children := by
  rw [children]
  cases includeHeadlines with
  | true => exact mem
  | false => exact List.mem_append_right _ mem

theorem children_add_empty (e : Element) :
    (Node.empty.add e).children = [e.mapContent reopened] := by
  cases e with
  | leaf l =>
    have first : ∀ x ∈ Node.empty.body.getLast?, Element.NotBothText x (.leaf l) := by
      intro x hx
      cases hx
    rw [add_leaf first, children_push]
    rfl
  | container t c =>
    rw [add, children_addContainer]
    rfl

/-- What is needed of a child for a piece: fields in order, and content that can be copied. -/
def ChildCopyable (e : Element) : Prop :=
  e.check = .ok () ∧ ∀ t c, e = .container t c → c.Everywhere Copyable

theorem childCopyable {n : Node} (h : n.Everywhere Copyable) {e : Element} (mem : e ∈ n.children) :
    ChildCopyable e := by
  obtain ⟨own, inside⟩ := everywhere_iff.1 h
  exact ⟨own.checked e mem, fun t c he => inside t c (he ▸ mem)⟩

/-- The piece with a child in it is the child, added to an empty node. -/
theorem piece_child {e : Element} (h : ChildCopyable e) :
    piece e false = .ok (Node.empty.add e) ∧ (Node.empty.add e).Everywhere Copyable ∧
      (Node.empty.add e).Everywhere fun m => m.finished = false := by
  have step := (feed_add sound_empty h.1 fun t c he => feed_builder (h.2 t c he)).1
  refine ⟨?_, ?_, ?_⟩
  · show Builder.run (e.feed consumer) = _
    rw [Builder.run, step]
  · exact kept_copyable.feedElement (fun t c _ {_ _} => kept_copyable.feed c)
      (everywhere_empty.2 kept_copyable.empty) step
  · exact keptOpen_open.feedElement (fun t c _ {_ _} => keptOpen_open.feed c)
      (everywhere_empty.2 rfl) step

/-- The content of an element, open; a leaf has none. -/
def innerPiece (e : Element) : Node := e.content?.elim .empty reopened

/-- The piece with what a child contains is a copy of that. -/
theorem piece_inner {e : Element} (h : ChildCopyable e) :
    piece e true = .ok (innerPiece e) ∧
      (innerPiece e).Everywhere fun m => m.finished = false := by
  cases e with
  | leaf l => exact ⟨rfl, everywhere_empty.2 rfl⟩
  | container t c =>
    have content := h.2 t c rfl
    exact ⟨copy_eq content, keptOpen_open.feed c (everywhere_empty.2 rfl) (feed_builder content)⟩

/-- Steps that all succeed, each with a known result. -/
theorem mapM_eq_map {α β ε : Type} {f : α → Except ε β} {g : α → β} {xs : List α}
    (h : ∀ x ∈ xs, f x = .ok (g x)) : xs.mapM f = .ok (xs.map g) := by
  induction xs with
  | nil => rfl
  | cons x rest ih =>
    rw [List.forall_mem_cons] at h
    rw [List.mapM_cons, h.1, ih h.2]
    rfl

/-! ## §2 Pieces put together -/

/-- Adding a piece adds the child. -/
theorem joined_piece (n : Node) (e : Element) : n.joined (Node.empty.add e) = n.add e := by
  rw [joined_add n sound_empty]
  rfl

/-- A builder that takes one piece after the other adds one child after the other. -/
theorem accept_pieces {n : Node} (h : n.Everywhere Copyable) {es : List Element}
    (good : ∀ e ∈ es, ChildCopyable e) (limit : Nat) :
    ((es.map Node.empty.add).forM fun p => p.accept consumer.toVisitor (limit + 1)) n =
      some (.ok () (es.foldl add n)) := by
  induction es generalizing n with
  | nil => rfl
  | cons e rest ih =>
    rw [List.forall_mem_cons] at good
    have copyable := (piece_child good.1).2.1
    have step := feed_joined h copyable
    have first : (Node.empty.add e).accept consumer.toVisitor (limit + 1) n =
        some (.ok () (n.add e)) := by
      rw [accept_toVisitor, Run.step, step, joined_piece]
    have next : (n.add e).Everywhere Copyable := by
      rw [← joined_piece]
      exact kept_copyable.feed _ h step
    exact (Run.bind_ok first).trans (ih next good.2)

/-- Splitting a tree succeeds, and all pieces are open. A piece with a child in it has that child
only, and the pieces of all children, taken by one builder in order, make the tree again. A piece
with what a child contains is a copy of that, and empty for a leaf. -/
theorem split_and_replay {n : Node} (checked : n.Everywhere Checked)
    (apart : n.Everywhere TextsApart) (leads : n.Everywhere BodyLeads) :
    (∀ includeHeadlines inner, ∃ pieces, n.split includeHeadlines inner = .ok pieces ∧
      ∀ p ∈ pieces, p.Everywhere fun m => m.finished = false) ∧
    (∃ pieces, n.split true false = .ok pieces ∧
      pieces.map children = n.children.map (fun e => [e.mapContent reopened]) ∧
      ∀ limit, (pieces.forM fun p => p.accept consumer.toVisitor (limit + 1)) .empty =
        some (.ok () n.reopened)) ∧
    ∀ includeHeadlines, n.split includeHeadlines true =
      .ok (((if includeHeadlines then n.headlines.map Headline.toElement else []) ++ n.body).map
        fun e => e.content?.elim .empty reopened) := by
  have copyable : n.Everywhere Copyable := fun m hm => ⟨checked m hm, apart m hm, leads m hm⟩
  have good (h : Bool) (e : Element) (mem : e ∈ n.splitChildren h) : ChildCopyable e :=
    childCopyable copyable (mem_children_of_split mem)
  have whole (h : Bool) : n.split h false = .ok ((n.splitChildren h).map Node.empty.add) :=
    mapM_eq_map fun e mem => (piece_child (good h e mem)).1
  have inner (h : Bool) : n.split h true = .ok ((n.splitChildren h).map innerPiece) :=
    mapM_eq_map fun e mem => (piece_inner (good h e mem)).1
  refine ⟨fun h i => ?_, ⟨_, whole true, ?_, fun limit => ?_⟩, inner⟩
  · cases i with
    | false =>
      exact ⟨_, whole h, List.forall_mem_map.2 fun e mem => (piece_child (good h e mem)).2.2⟩
    | true =>
      exact ⟨_, inner h, List.forall_mem_map.2 fun e mem => (piece_inner (good h e mem)).2⟩
  · rw [List.map_map]
    exact List.map_congr_left fun e _ => children_add_empty e
  · rw [accept_pieces (everywhere_empty.2 kept_copyable.empty) (good true),
      ← empty_joined copyable]
    rfl

/-- A verse with headlines in both runs and a footnote, after it has been finished. -/
theorem split_and_replay_verse :
    let headline (d : Nat) (s : String) : Headline := ⟨d, ⟨[], [.leaf (.text s)], true⟩⟩
    let note : Node := ⟨[], [.leaf (.text "Or "),
      .container (.format .bold) ⟨[], [.leaf (.text "earth")], true⟩], true⟩
    let n : Node := ⟨[headline 2 "Creation"], [.leaf (.text "the land"), .container .footnote note,
      (headline 3 "Light").toElement], true⟩
    (n.Everywhere Checked ∧ n.Everywhere TextsApart ∧ n.Everywhere BodyLeads) ∧
    (∃ pieces, n.split true false = .ok pieces ∧ pieces.length = 4 ∧
      (pieces.forM fun p => p.accept consumer.toVisitor 1) .empty = some (.ok () n.reopened)) ∧
    n.split false true =
      .ok [.empty, note.reopened, ⟨[], [.leaf (.text "Light")], false⟩] := by
  intro headline note n
  have built := copyable_built [.container (.headline 2) [.leaf (.text "Creation")],
    .leaf (.text "the "), .leaf (.text " land"),
    .container .footnote [.leaf (.text "Or "), .container (.format .bold) [.leaf (.text "earth")]],
    .container (.headline 3) [.leaf (.text "Light")]]
  have copyable : n.Everywhere Copyable := kept_copyable.mapFlags built fun _ => true
  have checked : n.Everywhere Checked := copyable.mono fun _ h => h.checked
  have apart : n.Everywhere TextsApart := copyable.mono fun _ h => h.apart
  have leads : n.Everywhere BodyLeads := copyable.mono fun _ h => h.leads
  obtain ⟨-, ⟨pieces, split, held, replay⟩, inner⟩ := split_and_replay checked apart leads
  refine ⟨⟨checked, apart, leads⟩, ⟨pieces, split, ?_, replay 0⟩, inner false⟩
  have counted := congrArg List.length held
  rwa [List.length_map, List.length_map] at counted

end Node

end ScriptureText
