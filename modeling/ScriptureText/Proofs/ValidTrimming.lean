/-
ScriptureText.Proofs.ValidTrimming — normalization leaves valid trees valid.

A tree that passes validation need not be one that normalization leaves alone:
the content of attributes to be skipped or refused is not visited, so that
anything may stand there, and it is normalized like any other content. What a
validator gets to see of a tree is the tree with that content taken out
(`Node.redacted`). Two facts carry the result. Reading a tree and reading what is
seen of it are the same (`feed_redacted`), and a tree whose visited nodes have
nothing to trim is seen as before once it is trimmed (`redacted_trimmed`).

Nothing is assumed of the content that is not visited: changes there do not
reach the rest of the tree, for trimming a run does not look into containers.
-/
import ScriptureText.Proofs.WhitespaceAgreement

namespace ScriptureText

open Normalization Validator

/-! ## §1 What is seen of a tree -/

mutual

/-- A tree with nothing in the containers whose content is not visited. -/
def Node.redacted : Node → Node
  | ⟨hs, b, f⟩ => ⟨Headline.redactedRun hs, Element.redactedRun b, f⟩

/-- A headline run with what is seen of each content. -/
def Headline.redactedRun : List Headline → List Headline
  | [] => []
  | ⟨d, c⟩ :: rest => ⟨d, c.redacted⟩ :: Headline.redactedRun rest

/-- A body run with what is seen of each content. -/
def Element.redactedRun : List Element → List Element
  | [] => []
  | .leaf l :: rest => .leaf l :: Element.redactedRun rest
  | .container t c :: rest =>
    .container t (if t.isVisited then c.redacted else .empty) :: Element.redactedRun rest

end

/-- What is seen of an element. -/
def Element.redacted : Element → Element
  | .leaf l => .leaf l
  | .container t c => .container t (if t.isVisited then c.redacted else .empty)

theorem Headline.redactedRun_eq (hs : List Headline) :
    Headline.redactedRun hs = hs.map (Headline.mapContent Node.redacted) := by
  induction hs with
  | nil => rfl
  | cons h rest ih =>
    obtain ⟨d, c⟩ := h
    rw [Headline.redactedRun, ih]
    rfl

theorem Element.redactedRun_eq (es : List Element) :
    Element.redactedRun es = es.map Element.redacted := by
  induction es with
  | nil => rfl
  | cons e rest ih => cases e <;> simp [redactedRun, redacted, ih]

namespace Node

theorem redacted_eq (n : Node) : n.redacted =
    ⟨n.headlines.map (Headline.mapContent redacted), n.body.map Element.redacted, n.finished⟩ := by
  obtain ⟨hs, b, f⟩ := n
  rw [redacted, Headline.redactedRun_eq, Element.redactedRun_eq]

/-- The content of headlines is always visited. -/
theorem children_redacted (n : Node) : n.redacted.children = n.children.map Element.redacted := by
  rw [redacted_eq, children, children, List.map_append, List.map_map, List.map_map]
  rfl

end Node

/-! ## §2 Reading what is seen -/

/-- A validator takes no notice of content that it does not visit. -/
theorem Validator.within_of_not_isVisited {t : Tag} (h : t.isVisited = false)
    (lookup : VerseLookup) (x y : Step Unit) :
    (consumer lookup).within t x = (consumer lookup).within t y := by
  cases t with
  | extra a =>
    funext s
    rw [Tag.isVisited, beq_eq_false_iff_ne] at h
    cases ha : a.priority with
    | keepContent => exact absurd ha h
    | _ => simp [Consumer.within, consumer, onTag, onExtra, ha]
  | _ => cases h

namespace Node

/-- Reading a tree is reading what is seen of it. -/
theorem feed_redacted (lookup : VerseLookup) (n : Node) :
    n.redacted.feed (consumer lookup) = n.feed (consumer lookup) := by
  induction n using childrenInduction with
  | step n ih =>
    rw [feed_eq_children _ rfl, feed_eq_children _ rfl, children_redacted,
      Element.feedRun_map _ fun e mem => ?_]
    cases e with
    | leaf l => rfl
    | container t c =>
      rw [Element.redacted, Element.feed_container, Element.feed_container]
      cases visited : t.isVisited with
      | true => rw [if_pos rfl, ih t c mem]
      | false => exact within_of_not_isVisited visited lookup _ _

/-- Two finished trees that are read in the same way get the same verdict. -/
theorem validateIn_congr {m n : Node} (hm : m.finished = true) (hn : n.finished = true)
    {lookup : VerseLookup} (same : m.feed (consumer lookup) = n.feed (consumer lookup))
    (ctx : Context) (dangling : List DanglingReference) :
    m.validateIn lookup ctx dangling = n.validateIn lookup ctx dangling := by
  rw [validateIn, validateIn, requireFinished, requireFinished, hm, hn, same]

/-- The flags of a tree do not change what is read. -/
theorem feed_seal {ε σ : Type} (c : Consumer ε σ) (n : Node) : n.seal.feed c = n.feed c := by
  rw [seal_eq_mapRuns, feed_mapRuns_id]

/-! ## §3 Trimming what is seen -/

/-- Where no visited node has anything to trim, trimming changes nothing that is seen. -/
theorem redacted_trimmed {n : Node} {ctx : Context}
    (runs : ∀ d m, Visited ctx n d m → m.IsTrimmed) : n.trimmed.redacted = n.redacted := by
  induction n using childrenInduction generalizing ctx with
  | step n ih =>
    have inside (t : Tag) (c : Node) (mem : Element.container t c ∈ n.children)
        (visited : t.isVisited = true) : c.trimmed.redacted = c.redacted := by
      rw [← t.isSome_inner? ctx] at visited
      obtain ⟨inner, entered⟩ := Option.isSome_iff_exists.1 visited
      exact ih t c mem fun d m hm => runs d m (.inside mem entered hm)
    have body : n.trimmed.body = n.body.map (Element.mapContent trimmed) := by
      rw [body_trimmed, runs ctx n (.root ctx n)]
    rw [redacted_eq, redacted_eq, body, finished_trimmed, trimmed, headlines_mapRuns, List.map_map,
      List.map_map]
    congr 1
    · refine List.map_congr_left fun h mem => ?_
      show (⟨h.depth, h.content.trimmed.redacted⟩ : Headline) = ⟨h.depth, h.content.redacted⟩
      rw [inside (.headline h.depth) h.content (mem_children.2 (.inl ⟨h, mem, rfl⟩)) rfl]
    · refine List.map_congr_left fun e mem => ?_
      cases e with
      | leaf l => rfl
      | container t c =>
        show Element.container t _ = .container t _
        cases visited : t.isVisited with
        | true => rw [if_pos rfl, if_pos rfl, inside t c (mem_children.2 (.inr mem)) visited]
        | false => rfl

end Node

/-- What is visited in a tree is visited in it with other flags. -/
theorem Visited.mapFlags {ctx d : Context} {n m : Node} (h : Visited ctx n d m)
    (k : Bool → Bool) : Visited ctx (n.mapRuns id k) d (m.mapRuns id k) := by
  induction h with
  | root => exact .root _ _
  | inside mem entered _ ih =>
    refine .inside ?_ entered ih
    rw [Node.children_mapRuns_id, Element.container_mem_map]
    exact ⟨_, mem, rfl⟩

/-- A tree that is open at every depth has nothing to trim at the nodes that are visited if it
passes validation once it is sealed. -/
theorem Node.isTrimmed_of_validateIn {n : Node} (isOpen : n.Everywhere fun m => m.finished = false)
    (sound : n.Everywhere Sound) {lookup : VerseLookup} {ctx : Context}
    {dangling : List DanglingReference}
    (passes : (n.seal.validateIn lookup ctx dangling).1 = .ok ()) :
    ∀ d m, Visited ctx n d m → m.IsTrimmed := by
  intro d m visited
  have clean := (validateIn_eq_ok_iff (finished_seal n)).1 passes
  have sealed : Visited ctx n.seal d m.seal := by
    rw [seal_eq_mapRuns, seal_eq_mapRuns]
    exact visited.mapFlags _
  have conforms := conforms_of_not_breaks fun v broken => clean v ⟨d, m.seal, sealed, broken⟩
  have soundSealed : m.seal.Sound := by
    rw [seal_eq_mapRuns]
    exact kept_sound.flags (sound m visited.within) _
  -- the flags are those of an open tree again after reopening
  rw [← reopened_seal (Everywhere.of_within isOpen visited.within)]
  exact (conforms.toWellSpaced.isTrimmed soundSealed).mapFlags _

/-! ## §4 Validity -/

/-- Sealing a reachable open tree, and normalizing and then sealing it, both
succeed. If the former passes validation, nothing that is seen was changed, and
the latter passes with the same dangling references. -/
theorem trimming_keeps_validity {n : Node} (reachable : Reachable n) (isOpen : n.finished = false)
    (options : NormalizeOptions) :
    ∃ n' t t', n.finish = .ok n' ∧ n.trimWhitespace options = .ok t ∧ t.finish = .ok t' ∧
      ∀ lookup ctx dangling found, n'.validateIn lookup ctx dangling = (.ok (), found) →
        t.redacted = n.redacted ∧ t'.validateIn lookup ctx dangling = (.ok (), found) := by
  have finishes := Node.finish_of_open isOpen
  obtain ⟨keepWhitespace⟩ := options
  cases keepWhitespace with
  | true =>
    have kept : n.trimWhitespace ⟨true⟩ = .ok n := by
      rw [Node.trimWhitespace, Node.requireOpen, isOpen]
      rfl
    exact ⟨n.seal, n, n.seal, finishes, kept, finishes, fun _ _ _ _ passes => ⟨rfl, passes⟩⟩
  | false =>
    have trims := Node.trimWhitespace_standard reachable.sound isOpen
    have finishesTrimmed : n.trimmed.finish = .ok n.trimmed.seal :=
      Node.finish_of_open ((Node.finished_trimmed n).trans isOpen)
    refine ⟨n.seal, n.trimmed, n.trimmed.seal, finishes, trims, finishesTrimmed,
      fun lookup ctx dangling found passes => ?_⟩
    have runs := Node.isTrimmed_of_validateIn (reachable.oneFlag.of_open isOpen) reachable.sound
      (congrArg Prod.fst passes)
    have seen := Node.redacted_trimmed runs
    refine ⟨seen, ?_⟩
    rw [← passes]
    refine Node.validateIn_congr (Node.finished_seal _) (Node.finished_seal _) ?_ ctx dangling
    rw [Node.feed_seal, Node.feed_seal, ← Node.feed_redacted, seen, Node.feed_redacted]

/-- Content to be skipped is trimmed all the same; the verdict stays, and so do
the references that are reported. -/
theorem trimming_keeps_validity_footnote :
    let skipped (s : String) : Element :=
      .container (.extra ⟨.skip, "osis", "k", "v"⟩) ⟨[], [.leaf (.text s)], false⟩
    let note : Element := .container .footnote
      ⟨[], [.container (.crossReference ⟨"Joh", .john, 3, "16", 3, "17"⟩)
        ⟨[], [.leaf (.text "John 3")], false⟩], false⟩
    let n : Node := ⟨[], [.leaf (.text "life"), skipped " a ", note], false⟩
    let t : Node := ⟨[], [.leaf (.text "life"), skipped "a", note], false⟩
    let missing (verse : String) : DanglingReference := ⟨"Joh", .john, 3, verse⟩
    n.trimWhitespace .standard = .ok t ∧ t.redacted = n.redacted ∧
      n.seal.validateIn Bible.empty.verseIndex .normalText [] =
        (.ok (), [missing "16", missing "17"]) ∧
      t.seal.validateIn Bible.empty.verseIndex .normalText [] =
        (.ok (), [missing "16", missing "17"]) := by
  intro skipped note n t missing
  have built : Reachable n := .perform [.leaf (.text "life"),
    .container (.extra ⟨.skip, "osis", "k", "v"⟩) [.leaf (.text " a ")],
    .container .footnote [.container (.crossReference ⟨"Joh", .john, 3, "16", 3, "17"⟩)
      [.leaf (.text "John 3")]]] .empty rfl
  have passes : n.seal.validateIn Bible.empty.verseIndex .normalText [] =
      (.ok (), [missing "16", missing "17"]) := rfl
  obtain ⟨n', t', t'', finishes, trims, finishesTrimmed, valid⟩ :=
    trimming_keeps_validity built rfl .standard
  cases finishes
  obtain ⟨seen, found⟩ := valid _ _ _ _ passes
  -- what trimming comes to is known
  have same : n.trimWhitespace .standard = .ok t := by
    rw [Node.trimWhitespace_standard built.sound rfl]
    rfl
  cases trims.symm.trans same
  cases finishesTrimmed
  exact ⟨trims, seen, passes, found⟩

end ScriptureText
