/-
ScriptureText.Proofs.Copy — copying a tree through the traversal protocol.

A traversal into a fresh builder gives back the tree, with every node open
(`accept_builder`). The builder decides from its own state what becomes of an
element: a text joins the text before it, and a headline joins the headline
run while there is no body. The tree has to agree with both, so the conditions
are that no two texts are adjacent and that no body starts with a headline;
the fields have to pass the checks that the builder makes again.

The invariant of the run is that the builder's body is what has been read of
the body, with copied contents (`feedRun_body`).
-/
import ScriptureText.Proofs.Sound
import ScriptureText.Proofs.Text
import ScriptureText.Proofs.Traversal

namespace ScriptureText

open Builder (consumer)

namespace Builder

/-! ## §1 One element -/

/-- A leaf that is in order and is not to be merged becomes the last element. -/
theorem leaf_eq {n : Node} {l : Leaf} (checked : l.check = .ok ())
    (apart : ∀ e ∈ n.body.getLast?, Element.NotBothText e (.leaf l)) :
    consumer.leaf l n = .ok () (n.push (.leaf l)) := by
  have added : n.addLeaf l = .ok (n.push (.leaf l)) := by
    cases l with
    | text s =>
      have hs : ¬ s.isEmpty = true := by
        rw [String.isEmpty_iff]
        exact Text.ne_empty_of_check checked
      rw [Node.addLeaf, Node.addText, if_neg hs]
      split
      · rename_i previous hlast
        exact absurd ⟨rfl, rfl⟩ (apart _ hlast)
      · rw [checked]
        rfl
    | _ =>
      rw [Node.addLeaf, checked]
      · rfl
      · intro s hs
        cases hs
  simp only [consumer, added]

/-- A container that is in order is added with a copy of its content. -/
theorem container_eq {n c k : Node} {t : Tag} (checked : t.check = .ok ())
    (content : c.feed consumer .empty = .ok () k) :
    (Element.container t c).feed consumer n = .ok () (n.addContainer t k) := by
  rw [Element.feed_container, Consumer.within_eq_ok]
  refine .inr ⟨.empty, n, k, ?_, content, rfl⟩
  simp only [consumer, checked]

/-! ## §2 Runs -/

/-- Headlines go to the headline run while there is no body. -/
theorem feedRun_headlines (hs before : List Headline) (f : Bool)
    (checked : ∀ h ∈ hs, (Tag.headline h.depth).check = .ok ())
    (contents : ∀ h ∈ hs, h.content.feed consumer .empty = .ok () h.content.reopened) :
    Element.feedRun consumer (hs.map Headline.toElement) ⟨before, [], f⟩ =
      .ok () ⟨before ++ hs.map (Headline.mapContent Node.reopened), [], f⟩ := by
  induction hs generalizing before with
  | nil => simp [pure, EStateM.pure]
  | cons h rest ih =>
    rw [List.forall_mem_cons] at checked contents
    rw [List.map_cons, Element.feedRun_cons, Consumer.bind_eq_ok]
    refine ⟨(), _, container_eq checked.1 contents.1, ?_⟩
    have := ih (before ++ [h.mapContent Node.reopened]) checked.2 contents.2
    rw [List.append_assoc] at this
    exact this

/-- What follows in the body goes to the body, as long as no headline comes first in it and no
two texts meet. -/
theorem feedRun_body (es before : List Element) (hs : List Headline) (f : Bool)
    (first : before = [] → ∀ e ∈ es.head?, e.isHeadline = false)
    (apart : (before.getLast?.toList ++ es).IsChain Element.NotBothText)
    (checked : ∀ e ∈ es, e.check = .ok ())
    (contents : ∀ t c, Element.container t c ∈ es →
      c.feed consumer .empty = .ok () c.reopened) :
    Element.feedRun consumer es ⟨hs, before, f⟩ =
      .ok () ⟨hs, before ++ es.map (Element.mapContent Node.reopened), f⟩ := by
  induction es generalizing before with
  | nil => simp [pure, EStateM.pure]
  | cons e rest ih =>
    rw [List.forall_mem_cons] at checked
    have added : e.feed consumer ⟨hs, before, f⟩ =
        .ok () ⟨hs, before ++ [e.mapContent Node.reopened], f⟩ := by
      cases e with
      | leaf l =>
        rw [Element.feed_leaf]
        refine leaf_eq checked.1 fun x hx => ?_
        exact (List.isChain_append.1 apart).2.2 x (by rw [hx]; rfl) _ rfl
      | container t c =>
        rw [container_eq checked.1 (contents t c List.mem_cons_self)]
        rcases Node.addContainer_cases ⟨hs, before, f⟩ t c.reopened with
          ⟨d, rfl, hb, -⟩ | ⟨-, heq⟩
        · cases first hb _ rfl
        · rw [heq]
          rfl
    rw [Element.feedRun_cons, Consumer.bind_eq_ok]
    refine ⟨(), _, added, ?_⟩
    rw [ih (before ++ [e.mapContent Node.reopened]) (by simp) ?_ checked.2
      fun t c mem => contents t c (List.mem_cons_of_mem e mem)]
    · simp
    · have h := List.isChain_cons.1 (List.isChain_append.1 apart).2.1
      simp only [List.getLast?_append, List.getLast?_singleton, Option.some_or, Option.toList_some]
      refine List.isChain_append.2 ⟨.singleton _, h.2, ?_⟩
      intro x hx y hy
      cases hx
      simpa [Element.NotBothText] using h.1 y hy

end Builder

/-! ## §3 Trees -/

namespace Node

/-- What a copy needs of a node to come out the same. -/
structure Copyable (n : Node) : Prop where
  checked : n.Checked
  apart : n.TextsApart
  leads : n.BodyLeads

/-- A fresh builder that is offered a tree ends as that tree, open. -/
theorem feed_builder {n : Node} (h : n.Everywhere Copyable) :
    n.feed consumer .empty = .ok () n.reopened := by
  induction n using childrenInduction with
  | step n ih =>
    obtain ⟨own, inside⟩ := everywhere_iff.1 h
    have contents (t : Tag) (c : Node) (mem : Element.container t c ∈ n.children) :
        c.feed consumer .empty = .ok () c.reopened := ih t c mem (inside t c mem)
    have headlines := Builder.feedRun_headlines n.headlines [] false
      (fun h mem => own.checked.headline mem)
      fun h mem => contents _ _ (mem_children.2 (.inl ⟨h, mem, rfl⟩))
    have body := Builder.feedRun_body n.body [] (n.headlines.map (Headline.mapContent reopened))
      false (fun _ => own.leads) own.apart own.checked.body
      fun t c mem => contents t c (mem_children.2 (.inr mem))
    rw [feed_eq_children _ rfl, children, Element.feedRun_append]
    simp only [Consumer.bind_eq_ok]
    refine ⟨(), _, ⟨(), _, headlines, body⟩, ?_⟩
    rw [reopened, mapRuns_eq]
    rfl

theorem copy_eq {n : Node} (h : n.Everywhere Copyable) : n.copy = .ok n.reopened := by
  rw [copy, Builder.run, feed_builder h]

/-- Copying through the traversal protocol gives the tree back, except that
every node of the copy is open; once both are finished they are equal. -/
theorem accept_builder {n : Node} (checked : n.Everywhere Checked)
    (apart : n.Everywhere TextsApart) (leads : n.Everywhere BodyLeads) (limit : Nat) :
    n.accept consumer.toVisitor (limit + 1) .empty = some (.ok () n.reopened) ∧
      ((n.Everywhere fun m => m.finished = false) → n.reopened = n) ∧
      n.reopened.finish = .ok n.seal ∧
      (n.finished = false → n.finish = .ok n.seal) ∧
      ((n.Everywhere fun m => m.finished = true) → n.seal = n) := by
  have copyable : n.Everywhere Copyable :=
    fun m hm => ⟨checked m hm, apart m hm, leads m hm⟩
  have sealed : n.reopened.finish = .ok n.seal := by
    rw [finish, requireOpen, reopened, finished_mapRuns, ← reopened, seal_reopened]
    rfl
  refine ⟨?_, ?_, sealed, ?_, ?_⟩
  · rw [accept_toVisitor, Run.step, feed_builder copyable]
  · intro isOpen
    exact mapRuns_id_eq_self (isOpen.mono fun m hm => hm.symm)
  · intro isOpen
    rw [finish, requireOpen, isOpen]
    rfl
  · intro isFinished
    rw [seal_eq_mapRuns]
    exact mapRuns_id_eq_self (isFinished.mono fun m hm => hm.symm)

/-- A finished tree with a headline in each run, and a footnote with markup in it. -/
theorem accept_builder_footnote :
    let note : Node := ⟨[], [.leaf (.text "Or "),
      .container (.format .bold) ⟨[], [.leaf (.text "earth")], true⟩], true⟩
    let n : Node := ⟨[⟨2, ⟨[], [.leaf (.text "Creation")], true⟩⟩],
      [.leaf (.text "the land"), .container .footnote note, .leaf (.lineBreak .paragraph),
        .container (.headline 3) ⟨[], [.leaf (.text "Light")], true⟩], true⟩
    n.accept consumer.toVisitor 1 .empty = some (.ok () n.reopened) ∧
      n.reopened.finish = .ok n := by
  intro note n
  have h := accept_builder (n := n) (by decide) (by decide) (by decide) 0
  have same : n.seal = n := h.2.2.2.2 (by decide)
  exact ⟨h.1, by rw [h.2.2.1, same]⟩

end Node

end ScriptureText
