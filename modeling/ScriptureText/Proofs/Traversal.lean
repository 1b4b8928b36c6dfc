/-
ScriptureText.Proofs.Traversal — what a consumer is offered, as one list.

`Node.feed` recurses over headline runs and body runs separately. Both come
down to `Element.feedRun` over elements (`Headline.feedRun_eq`), and for a
consumer that takes no notice of the start of the body a node is its children,
one after the other, and then its end (`Node.feed_eq_children`).

`Node.accept_toVisitor` ties the full protocol to this: a consumer asks for no
signature and reads once, so that its traversal needs a limit of one round and
is the feeding.
-/
import ScriptureText.Proofs.Tree
import ScriptureText.Traversal.Visitor

namespace ScriptureText

variable {ε σ : Type}

/-! ## §1 Steps that succeed or fail -/

namespace Consumer

variable {α β : Type} {s s' : σ} {e : ε}

/-- Two steps succeed if both do. -/
theorem bind_eq_ok {x : EStateM ε σ α} {f : α → EStateM ε σ β} {b : β} :
    (x >>= f) s = .ok b s' ↔ ∃ a m, x s = .ok a m ∧ f a m = .ok b s' := by
  simp only [bind, EStateM.bind]
  cases x s <;> simp [and_assoc]

/-- Two steps fail if the first does, or the second after the first. -/
theorem bind_eq_error {x : EStateM ε σ α} {f : α → EStateM ε σ β} :
    (x >>= f) s = .error e s' ↔ x s = .error e s' ∨ ∃ a m, x s = .ok a m ∧ f a m = .error e s' := by
  simp only [bind, EStateM.bind]
  cases x s <;> simp [and_assoc]

/-- A container is passed over, or its content is read with success. -/
theorem within_eq_ok {c : Consumer ε σ} {t : Tag} {inside : EStateM ε σ Unit} :
    c.within t inside s = .ok () s' ↔ c.enter t s = .ok none s' ∨
      ∃ child m r, c.enter t s = .ok (some child) m ∧ inside child = .ok () r ∧
        s' = c.leave t m r := by
  simp only [within]
  rcases c.enter t s with ⟨_ | child, m⟩ | ⟨e, m⟩
  · simp
  · cases h : inside child <;> simp [h, eq_comm, and_assoc]
  · simp

/-- A container is refused, or its content is. -/
theorem within_eq_error {c : Consumer ε σ} {t : Tag} {inside : EStateM ε σ Unit} :
    c.within t inside s = .error e s' ↔ c.enter t s = .error e s' ∨
      ∃ child m r, c.enter t s = .ok (some child) m ∧ inside child = .error e r ∧
        s' = c.leave t m r := by
  simp only [within]
  rcases c.enter t s with ⟨_ | child, m⟩ | ⟨e, m⟩
  · simp
  · cases h : inside child <;> simp [h, eq_comm, and_assoc]
  · simp

end Consumer

/-! ## §2 Runs -/

namespace Element

@[simp] theorem feedRun_nil (c : Consumer ε σ) : feedRun c [] = pure () := rfl

theorem feedRun_cons (c : Consumer ε σ) (e : Element) (rest : List Element) :
    feedRun c (e :: rest) = (do e.feed c; feedRun c rest) := by
  cases e <;> simp [feed, feedRun]

theorem feed_leaf (c : Consumer ε σ) (l : Leaf) : (Element.leaf l).feed c = c.leaf l := by
  simp [feed, feedRun]

theorem feed_container (c : Consumer ε σ) (t : Tag) (n : Node) :
    (Element.container t n).feed c = c.within t (n.feed c) := by
  simp [feed, feedRun]

theorem feedRun_append (c : Consumer ε σ) (a b : List Element) :
    feedRun c (a ++ b) = (do feedRun c a; feedRun c b) := by
  induction a with
  | nil => simp
  | cons e rest ih => simp [feedRun_cons, ih]

end Element

/-- A headline run is offered as its headlines would be in a body run. -/
theorem Headline.feedRun_eq (c : Consumer ε σ) (hs : List Headline) :
    Headline.feedRun c hs = Element.feedRun c (hs.map Headline.toElement) := by
  induction hs with
  | nil => rfl
  | cons h rest ih =>
    obtain ⟨d, content⟩ := h
    simp only [Headline.feedRun, List.map_cons, Element.feedRun_cons, Headline.toElement,
      Element.feed_container, ih]

namespace Node

theorem feed_eq (c : Consumer ε σ) (n : Node) :
    n.feed c = (do
      Element.feedRun c (n.headlines.map Headline.toElement)
      c.start
      Element.feedRun c n.body
      c.finish) := by
  obtain ⟨hs, b, f⟩ := n
  rw [feed, Headline.feedRun_eq]

/-- Where the start of the body makes no difference, a node is its children and its end. -/
theorem feed_eq_children (c : Consumer ε σ) (h : c.start = pure ()) (n : Node) :
    n.feed c = (do Element.feedRun c n.children; c.finish) := by
  rw [feed_eq, children, Element.feedRun_append, h]
  simp

end Node

/-- Elements that are offered in the same way one by one are so in a row. -/
theorem Element.feedRun_map (c : Consumer ε σ) {g : Element → Element} {es : List Element}
    (h : ∀ e ∈ es, (g e).feed c = e.feed c) : feedRun c (es.map g) = feedRun c es := by
  induction es with
  | nil => rfl
  | cons e rest ih =>
    rw [List.forall_mem_cons] at h
    rw [List.map_cons, feedRun_cons, feedRun_cons, h.1, ih h.2]

/-- What a consumer is offered of some elements does not depend on contents beyond what it is
offered of them. -/
theorem Element.feedRun_mapContent (c : Consumer ε σ) {k : Node → Node} {es : List Element}
    (h : ∀ t n, Element.container t n ∈ es → (k n).feed c = n.feed c) :
    feedRun c (es.map (mapContent k)) = feedRun c es := by
  refine feedRun_map c fun e mem => ?_
  cases e with
  | leaf l => rfl
  | container t n => rw [mapContent_container, feed_container, feed_container, h t n mem]

/-- Flags are not offered. -/
theorem Node.feed_mapRuns_id (c : Consumer ε σ) (k : Bool → Bool) (n : Node) :
    (n.mapRuns id k).feed c = n.feed c := by
  induction n using childrenInduction with
  | step n ih =>
    have headlines : (n.mapRuns id k).headlines.map Headline.toElement =
        (n.headlines.map Headline.toElement).map (Element.mapContent (mapRuns id k)) := by
      simp [Function.comp_def, Headline.toElement_mapContent]
    rw [feed_eq, feed_eq, headlines, body_mapRuns, id,
      Element.feedRun_mapContent c fun t m mem => ih t m (List.mem_append_left _ mem),
      Element.feedRun_mapContent c fun t m mem => ih t m (List.mem_append_right _ mem)]

/-! ## §3 Consumers as visitors -/

namespace Run

variable {α β : Type}

theorem step_bind (x : EStateM ε σ α) (f : α → EStateM ε σ β) :
    step (x >>= f) = (step x >>= fun a => step (f a) : Run ε σ β) := by
  funext s
  show some (EStateM.bind x f s) = bind (step x) (fun a => step (f a)) s
  simp only [EStateM.bind, bind, step]
  cases x s <;> rfl

theorem pure_bind (a : α) (f : α → Run ε σ β) : (pure a >>= f : Run ε σ β) = f a := rfl

/-- A round that does not ask for another is the only one. -/
theorem repeatWhile_step (x : EStateM ε σ Unit) (limit : Nat) :
    repeatWhile (limit + 1) (step (do x; pure false)) = step x := by
  funext s
  show bind (step (do x; pure false)) (fun b => if b then repeatWhile limit _ else pure ()) s = _
  simp only [bind, step, Bind.bind, EStateM.bind]
  cases x s <;> rfl

end Run

theorem Visitor.within_toVisitor (c : Consumer ε σ) (t : Tag) (x : EStateM ε σ Unit) :
    c.toVisitor.within t (Run.step x) = Run.step (c.within t x) := by
  funext s
  simp only [Visitor.within, Consumer.within, Run.step, Consumer.toVisitor]
  cases c.enter t s with
  | error e s => rfl
  | ok child s =>
    cases child with
    | none => rfl
    | some child => simp only []; cases x child <;> rfl

theorem Visitor.negotiate_toVisitor (c : Consumer ε σ) (signature : Nat → String) (limit : Nat) :
    c.toVisitor.negotiate signature (limit + 1) none = pure () := rfl

mutual

/-- The traversal of a node by a consumer is its feeding, whatever the limit on rounds. -/
theorem Node.accept_toVisitor (c : Consumer ε σ) (limit : Nat) : ∀ n : Node,
    n.accept c.toVisitor (limit + 1) = Run.step (n.feed c)
  | ⟨hs, b, f⟩ => by
    rw [← Run.repeatWhile_step (Node.feed c ⟨hs, b, f⟩) limit, Node.accept,
      Visitor.negotiate_toVisitor, Headline.acceptRun_toVisitor c limit hs,
      Element.acceptRun_toVisitor c limit b, Node.feed]
    simp only [Run.pure_bind, bind_assoc, Run.step_bind, Consumer.toVisitor]

theorem Headline.acceptRun_toVisitor (c : Consumer ε σ) (limit : Nat) : ∀ hs : List Headline,
    Headline.acceptRun c.toVisitor (limit + 1) hs = Run.step (Headline.feedRun c hs)
  | [] => rfl
  | ⟨d, content⟩ :: rest => by
    rw [Headline.acceptRun, Node.accept_toVisitor c limit content, Visitor.within_toVisitor,
      Headline.acceptRun_toVisitor c limit rest, Headline.feedRun, Run.step_bind]

theorem Element.acceptRun_toVisitor (c : Consumer ε σ) (limit : Nat) : ∀ es : List Element,
    Element.acceptRun c.toVisitor (limit + 1) es = Run.step (Element.feedRun c es)
  | [] => rfl
  | .leaf l :: rest => by
    rw [Element.acceptRun, Element.acceptRun_toVisitor c limit rest, Element.feedRun,
      Run.step_bind]
    rfl
  | .container t content :: rest => by
    rw [Element.acceptRun, Node.accept_toVisitor c limit content, Visitor.within_toVisitor,
      Element.acceptRun_toVisitor c limit rest, Element.feedRun, Run.step_bind]

end

end ScriptureText
