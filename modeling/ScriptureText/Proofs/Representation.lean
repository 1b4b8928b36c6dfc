/-
ScriptureText.Proofs.Representation — what all trees have in common.

`Node.WellFormed` collects what holds of every node of a tree: no two texts are
adjacent, the fields are as the checks ask, and all nodes agree on whether they
are finished. `representation_invariant` says so of every reachable tree.

The pieces of a split tree need no invariant of their own. A piece is built on
an empty node by the calls of a traversal, so that it is a reachable tree as
well (`split_ok`); and the calls succeed, because the elements of a sound
tree are checked and its texts are apart (`feedRun_ok`).
-/
import ScriptureText.Proofs.Copy
import ScriptureText.Proofs.Fields
import ScriptureText.Proofs.Reachable
import ScriptureText.Proofs.Transcript

namespace ScriptureText

open Builder (consumer)

namespace Node

/-! ## §1 One node -/

/-- What holds of every node of a tree that is finished or open. -/
structure WellFormed (finished : Bool) (n : Node) : Prop extends n.Sound where
  texts : ∀ s, Element.leaf (.text s) ∈ n.body → Pattern.spacedText.accepts s = true
  depths : ∀ d c, Element.container (.headline d) c ∈ n.children → 1 ≤ d ∧ d ≤ 9
  chapters : ∀ p c, Element.container (.crossReference p) c ∈ n.children →
    1 ≤ p.firstChapter ∧ p.firstChapter ≤ p.lastChapter
  lengths : ∀ g c, Element.container (.grammar g) c ∈ n.children →
    (∀ codes ∈ g.rmac, codes.length = g.strongs.length) ∧
      ∀ indices ∈ g.sourceIndices, indices.length = g.strongs.length
  flag : n.finished = finished

theorem Sound.wellFormed {n : Node} (h : n.Sound) : n.WellFormed n.finished where
  toSound := h
  texts s mem := by
    rw [Pattern.accepts_iff, ← Field.checkString_eq_ok (f := .text)]
    exact h.checked.body _ mem
  depths _ _ mem := Tag.check_headline_eq_ok.1 (h.checked _ mem)
  chapters _ _ mem := by
    have order := Passage.check_eq_ok.1 (h.checked _ mem)
    exact ⟨order.firstChapter, order.chapters⟩
  lengths _ _ mem := by
    have order := Grammar.check_eq_ok.1 (h.checked _ mem)
    exact ⟨fun codes hc => (order.rmac codes hc).1, fun is hi => (order.sourceIndices is hi).1⟩
  flag := rfl

end Node

/-! ## §2 Building from a sound tree -/

/-- The calls for checked elements succeed on a builder as long as no two texts meet. -/
theorem Builder.feedRun_ok (es : List Element) (n : Node)
    (apart : es.IsChain Element.NotBothText)
    (first : ∀ x ∈ n.body.getLast?, ∀ y ∈ es.head?, Element.NotBothText x y)
    (checked : ∀ e ∈ es, e.check = .ok ())
    (contents : ∀ t c, .container t c ∈ es → ∃ k, c.feed consumer .empty = .ok () k) :
    ∃ n', Element.feedRun consumer es n = .ok () n' := by
  induction es generalizing n with
  | nil => exact ⟨n, rfl⟩
  | cons e rest ih =>
    rw [List.forall_mem_cons] at checked
    have next := List.isChain_cons.1 apart
    have added : ∃ m, e.feed consumer n = .ok () m ∧
        ∀ x ∈ m.body.getLast?, ∀ y ∈ rest.head?, Element.NotBothText x y := by
      cases e with
      | leaf l =>
        refine ⟨n.push (.leaf l), ?_, ?_⟩
        · rw [Element.feed_leaf]
          exact leaf_eq checked.1 fun x hx => first x hx _ rfl
        · intro x hx
          obtain rfl : .leaf l = x := by simpa [Node.push] using hx
          exact next.1
      | container t c =>
        obtain ⟨k, content⟩ := contents t c List.mem_cons_self
        refine ⟨n.addContainer t k, container_eq checked.1 content, ?_⟩
        intro x hx y _ both
        rcases Node.addContainer_cases n t k with ⟨d, -, body, h⟩ | ⟨-, h⟩
        · rw [h, body] at hx
          cases hx
        · obtain rfl : .container t k = x := by simpa [h, Node.push] using hx
          cases both.1
    obtain ⟨m, step, first'⟩ := added
    obtain ⟨n', others⟩ := ih m next.2 first' checked.2
      fun t c mem => contents t c (List.mem_cons_of_mem e mem)
    exact ⟨n', by rw [Element.feedRun_cons, Consumer.bind_eq_ok]; exact ⟨(), m, step, others⟩⟩

namespace Node

/-- A fresh builder takes every sound tree, also one with a headline that will change its run. -/
theorem Sound.feed_ok {n : Node} (h : n.Everywhere Sound) :
    ∃ k, n.feed consumer .empty = .ok () k := by
  induction n using childrenInduction with
  | step n ih =>
    obtain ⟨own, inside⟩ := everywhere_iff.1 h
    rw [feed_eq_children _ rfl]
    obtain ⟨k, run⟩ := Builder.feedRun_ok n.children .empty own.apart.children nofun own.checked
      fun t c mem => ih t c mem (inside t c mem)
    exact ⟨k, Consumer.bind_eq_ok.2 ⟨(), k, run, rfl⟩⟩

/-! ## §3 Pieces -/

/-- The piece for a child of a sound node is there, and is built by calls on an empty node. -/
theorem piece_ok {n : Node} (h : n.Everywhere Sound) {e : Element} (mem : e ∈ n.children)
    (inner : Bool) :
    ∃ calls, piece e inner = .ok (consumer.toVisitor.performAll calls .empty).2 := by
  obtain ⟨own, inside⟩ := everywhere_iff.1 h
  have contents (t : Tag) (c : Node) (he : e = .container t c) :
      ∃ k, c.feed consumer .empty = .ok () k := by
    rw [he] at mem
    exact Sound.feed_ok (inside t c mem)
  cases inner with
  | true =>
    cases e with
    | leaf l => exact ⟨[], rfl⟩
    | container t c =>
      obtain ⟨k, content⟩ := contents t c rfl
      refine ⟨c.calls, ?_⟩
      rw [performAll_calls rfl rfl content]
      show Builder.run (c.feed consumer) = .ok k
      rw [Builder.run, content]
  | false =>
    have first : ∀ x ∈ Node.empty.body.getLast?, ∀ y ∈ [e].head?, Element.NotBothText x y := by
      intro x hx
      cases hx
    obtain ⟨k, run⟩ := Builder.feedRun_ok [e] .empty (.singleton e) first
      (List.forall_mem_singleton.2 (own.checked e mem))
      fun t c hc => contents t c (List.mem_singleton.1 hc).symm
    refine ⟨[e.call], ?_⟩
    have calls := Element.performAll_call
      (fun t c _ {_ _} step => performAll_calls rfl rfl step) run
    rw [List.map_singleton] at calls
    rw [calls]
    show Builder.run (Element.feedRun consumer [e]) = .ok k
    rw [Builder.run, run]

/-- A list of steps that all succeed, with results of one kind. -/
theorem mapM_ok {α β ε : Type} {f : α → Except ε β} {P : β → Prop} {xs : List α}
    (h : ∀ x ∈ xs, ∃ y, f x = .ok y ∧ P y) : ∃ ys, xs.mapM f = .ok ys ∧ ∀ y ∈ ys, P y := by
  induction xs with
  | nil => exact ⟨[], rfl, by simp⟩
  | cons x rest ih =>
    rw [List.forall_mem_cons] at h
    obtain ⟨⟨y, first, hy⟩, others⟩ := h
    obtain ⟨ys, run, hys⟩ := ih others
    refine ⟨y :: ys, ?_, List.forall_mem_cons.2 ⟨hy, hys⟩⟩
    rw [List.mapM_cons, first]
    show (rest.mapM f >>= fun ys => pure (y :: ys)) = _
    rw [run]
    rfl

/-- Splitting a sound tree succeeds, and every piece is built by calls on an empty node. -/
theorem split_ok {n : Node} (h : n.Everywhere Sound) (includeHeadlines inner : Bool) :
    ∃ pieces, n.split includeHeadlines inner = .ok pieces ∧
      ∀ p ∈ pieces, ∃ calls, p = (consumer.toVisitor.performAll calls .empty).2 := by
  refine mapM_ok fun e mem => ?_
  have child : e ∈ n.children := by
    rw [Node.children]
    refine (List.mem_append.1 mem).elim (fun mem => ?_) (List.mem_append_right _)
    cases includeHeadlines with
    | true => exact List.mem_append_left _ mem
    | false => cases mem
  obtain ⟨calls, built⟩ := piece_ok h child inner
  exact ⟨_, built, calls, rfl⟩

end Node

/-! ## §4 Trees -/

theorem Reachable.wellFormed {n : Node} (h : Reachable n) :
    n.Everywhere (Node.WellFormed n.finished) := by
  intro m hm
  have own := (h.sound m hm).wellFormed
  rwa [h.oneFlag m hm] at own

/-- A tree built by calls on an empty node is reachable, and open. -/
theorem Reachable.built (calls : List Call) :
    Reachable (consumer.toVisitor.performAll calls .empty).2 ∧
      (consumer.toVisitor.performAll calls .empty).2.finished = false :=
  ⟨.perform calls .empty rfl,
    Node.keptOpen_open.performAll calls (Node.everywhere_empty.2 rfl) _ (.self _)⟩

/-- Every node of a reachable tree is well-formed, and finished or not as the whole tree is.
Splitting the tree succeeds, and every piece is a reachable tree that is open, with nodes that
are well-formed. -/
theorem representation_invariant {n : Node} (reachable : Reachable n) :
    n.Everywhere (Node.WellFormed n.finished) ∧
      ∀ includeHeadlines inner, ∃ pieces, n.split includeHeadlines inner = .ok pieces ∧
        ∀ p ∈ pieces, Reachable p ∧ p.finished = false ∧ p.Everywhere (Node.WellFormed false) := by
  refine ⟨reachable.wellFormed, fun includeHeadlines inner => ?_⟩
  obtain ⟨pieces, split, built⟩ := Node.split_ok reachable.sound includeHeadlines inner
  refine ⟨pieces, split, fun p mem => ?_⟩
  obtain ⟨calls, rfl⟩ := built p mem
  obtain ⟨piece, isOpen⟩ := Reachable.built calls
  have inside := piece.wellFormed
  rw [isOpen] at inside
  exact ⟨piece, isOpen, inside⟩

/-- A verse after merging, a call that fails, trimming and finishing, and its pieces. -/
theorem representation_invariant_verse :
    let note : Node := ⟨[], [.container (.crossReference ⟨"Ps", .psalms, 33, "6", 33, "9a"⟩)
      ⟨[], [.leaf (.text "Ps 33")], true⟩], true⟩
    let n : Node := ⟨[⟨2, ⟨[], [.leaf (.text "Day one")], true⟩⟩],
      [.leaf (.text "And "),
        .container (.grammar ⟨[430], some ["N-NSM"], some [3]⟩) ⟨[], [.leaf (.text "God")], true⟩,
        .container .footnote note], true⟩
    Reachable n ∧ n.Everywhere (Node.WellFormed true) ∧
      ∃ pieces, n.split true true = .ok pieces ∧ ∀ p ∈ pieces, p.Everywhere (Node.WellFormed false) := by
  intro note n
  have built := Reachable.perform [.container (.headline 2) [.leaf (.text "Day one ")],
    .leaf (.text "And "), .leaf (.text " "), .leaf (.text "\t"),
    .container (.grammar ⟨[430], some ["N-NSM"], some [3]⟩) [.leaf (.text "God")],
    .container .footnote [.container (.crossReference ⟨"Ps", .psalms, 33, "6", 33, "9a"⟩)
      [.leaf (.text "Ps 33")]]] .empty rfl
  have trims := Node.trimWhitespace_standard built.sound rfl
  have reachable : Reachable n := .finish (.trimWhitespace built trims) rfl
  obtain ⟨inside, split⟩ := representation_invariant reachable
  obtain ⟨pieces, succeeds, invariant⟩ := split true true
  exact ⟨reachable, inside, pieces, succeeds, fun p mem => (invariant p mem).2.2⟩

end ScriptureText
