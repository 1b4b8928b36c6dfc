/-
ScriptureText.Proofs.Accept — a traversal by any visitor, element by element.

`Node.accept` recurses over headline runs and body runs separately, and reads a
node as often as the visitor asks. Both runs come down to `Element.acceptRun`
over elements (`Headline.acceptRun_eq`), so that a traversal is a number of
readings, each the same steps over two lists of elements (`Node.accept_eq`).

Two traversals of one tree that agree step by step agree as a whole, whatever
agreement means (`Node.accept_related`). One case of this is that a traversal
which stays within its limit does not depend on the limit (`Node.accept_mono`);
another, that a visitor behaves the same when something is added to its state
that it takes no notice of (`Node.accept_seenThrough`).
-/
import ScriptureText.Proofs.Traversal

namespace ScriptureText

variable {ε σ τ : Type}

/-! ## §1 Runs -/

namespace Run

variable {α β : Type}

theorem bind_ok {x : Run ε σ α} {f : α → Run ε σ β} {a : α} {s s' : σ}
    (h : x s = some (.ok a s')) : (x >>= f) s = f a s' := by
  show bind x f s = _
  rw [bind, h]

theorem bind_error {x : Run ε σ α} {f : α → Run ε σ β} {e : ε} {s s' : σ}
    (h : x s = some (.error e s')) : (x >>= f) s = some (.error e s') := by
  show bind x f s = _
  rw [bind, h]

theorem bind_none {x : Run ε σ α} {f : α → Run ε σ β} {s : σ} (h : x s = none) :
    (x >>= f) s = none := by
  show bind x f s = _
  rw [bind, h]

instance : LawfulMonad (Run ε σ) := by
  refine .mk' (Run ε σ) ?_ ?_ ?_
  · intro α x
    funext s
    show (x >>= fun a => pure a) s = x s
    rcases h : x s with _ | ⟨a, s'⟩ | ⟨e, s'⟩
    · rw [bind_none h]
    · rw [bind_ok h]
      rfl
    · rw [bind_error h]
  · intro α β a f
    rfl
  · intro α β γ x f g
    funext s
    rcases h : x s with _ | ⟨a, s'⟩ | ⟨e, s'⟩
    · rw [bind_none h, bind_none (bind_none h)]
    · rw [bind_ok h]
      show bind (bind x f) g s = bind (f a) g s'
      have first : bind x f s = f a s' := bind_ok h
      rw [bind, first, bind]
    · rw [bind_error h, bind_error (bind_error h)]

end Run

/-! ## §2 Elements -/

namespace Element

variable (v : Visitor ε σ) (limit : Nat)

theorem acceptRun_cons (e : Element) (rest : List Element) :
    acceptRun v limit (e :: rest) = (do e.accept v limit; acceptRun v limit rest) := by
  cases e <;> simp [Element.accept, acceptRun]

theorem accept_leaf (l : Leaf) : (Element.leaf l).accept v limit = Run.step (v.leaf l) := by
  simp [Element.accept, acceptRun]

theorem accept_container (t : Tag) (c : Node) :
    (Element.container t c).accept v limit = v.within t (c.accept v limit) := by
  simp [Element.accept, acceptRun]

end Element

/-- A headline run is read as its headlines would be in a body run. -/
theorem Headline.acceptRun_eq (v : Visitor ε σ) (limit : Nat) (hs : List Headline) :
    Headline.acceptRun v limit hs = Element.acceptRun v limit (hs.map Headline.toElement) := by
  induction hs with
  | nil => rfl
  | cons h rest ih =>
    obtain ⟨d, content⟩ := h
    simp only [Headline.acceptRun, List.map_cons, Element.acceptRun_cons, Headline.toElement,
      Element.accept_container, ih]

namespace Node

/-- One reading of a node; the result is whether another is wanted. -/
def reading (v : Visitor ε σ) (limit : Nat) (n : Node) : Run ε σ Bool := do
  v.negotiate n.signature limit none
  Element.acceptRun v limit (n.headlines.map Headline.toElement)
  Run.step v.start
  Element.acceptRun v limit n.body
  Run.step v.finish

theorem accept_eq (v : Visitor ε σ) (limit : Nat) (n : Node) :
    n.accept v limit = Run.repeatWhile limit (n.reading v limit) := by
  obtain ⟨hs, b, f⟩ := n
  rw [accept, Headline.acceptRun_eq, reading]

end Node

/-! ## §3 Flags -/

/-- What a visitor is offered of some elements does not depend on contents beyond what it is
offered of them. -/
theorem Element.acceptRun_mapContent (v : Visitor ε σ) (limit : Nat) {k : Node → Node}
    {es : List Element}
    (h : ∀ t n, Element.container t n ∈ es → (k n).accept v limit = n.accept v limit) :
    acceptRun v limit (es.map (mapContent k)) = acceptRun v limit es := by
  induction es with
  | nil => rfl
  | cons e rest ih =>
    rw [List.map_cons, acceptRun_cons, acceptRun_cons,
      ih fun t n mem => h t n (List.mem_cons_of_mem e mem)]
    cases e with
    | leaf l => rfl
    | container t n =>
      rw [mapContent_container, accept_container, accept_container, h t n List.mem_cons_self]

namespace Node

/-- Signatures do not show flags. -/
theorem signature_mapRuns_id (k : Bool → Bool) (n : Node) :
    (n.mapRuns id k).signature = n.signature := by
  funext depth
  rw [signature, signature, feed_mapRuns_id]

/-- No visitor sees flags. -/
theorem accept_mapRuns_id (v : Visitor ε σ) (limit : Nat) (k : Bool → Bool) (n : Node) :
    (n.mapRuns id k).accept v limit = n.accept v limit := by
  induction n using childrenInduction with
  | step n ih =>
    have headlines : (n.mapRuns id k).headlines.map Headline.toElement =
        (n.headlines.map Headline.toElement).map (Element.mapContent (mapRuns id k)) := by
      simp [Function.comp_def, Headline.toElement_mapContent]
    rw [accept_eq, accept_eq, reading, reading, signature_mapRuns_id, headlines, body_mapRuns, id,
      Element.acceptRun_mapContent v limit fun t m mem => ih t m (List.mem_append_left _ mem),
      Element.acceptRun_mapContent v limit fun t m mem => ih t m (List.mem_append_right _ mem)]

end Node

/-! ## §4 Traversals that agree step by step -/

/-- Two visitors, each with a limit, whose steps agree, where agreement of runs is kept by putting
runs together. -/
structure Visitor.Related (R : ⦃α : Type⦄ → Run ε σ α → Run ε τ α → Prop) (v : Visitor ε σ)
    (limit : Nat) (w : Visitor ε τ) (limit' : Nat) : Prop where
  pure {α : Type} (a : α) : R (Pure.pure a) (Pure.pure a)
  bind {α β : Type} {x : Run ε σ α} {y : Run ε τ α} {f : α → Run ε σ β} {g : α → Run ε τ β}
    (h : R x y) (next : ∀ a, R (f a) (g a)) : R (x >>= f) (y >>= g)
  negotiate (signature : Nat → String) :
    R (v.negotiate signature limit none) (w.negotiate signature limit' none)
  leaf (l : Leaf) : R (.step (v.leaf l)) (.step (w.leaf l))
  within {x : Run ε σ Unit} {y : Run ε τ Unit} (t : Tag) (h : R x y) :
    R (v.within t x) (w.within t y)
  start : R (.step v.start) (.step w.start)
  finish : R (.step v.finish) (.step w.finish)
  repeatWhile {x : Run ε σ Bool} {y : Run ε τ Bool} (h : R x y) :
    R (.repeatWhile limit x) (.repeatWhile limit' y)

section Related

variable {R : ⦃α : Type⦄ → Run ε σ α → Run ε τ α → Prop} {v : Visitor ε σ} {w : Visitor ε τ}
  {limit limit' : Nat}

theorem Element.acceptRun_related (h : Visitor.Related R v limit w limit') {es : List Element}
    (contents : ∀ t c, .container t c ∈ es → R (c.accept v limit) (c.accept w limit')) :
    R (Element.acceptRun v limit es) (Element.acceptRun w limit' es) := by
  induction es with
  | nil => exact h.pure ()
  | cons e rest ih =>
    rw [acceptRun_cons, acceptRun_cons]
    refine h.bind ?_ fun _ => ih fun t c mem => contents t c (List.mem_cons_of_mem e mem)
    cases e with
    | leaf l =>
      rw [accept_leaf, accept_leaf]
      exact h.leaf l
    | container t c =>
      rw [accept_container, accept_container]
      exact h.within t (contents t c List.mem_cons_self)

theorem Node.accept_related (h : Visitor.Related R v limit w limit') (n : Node) :
    R (n.accept v limit) (n.accept w limit') := by
  induction n using childrenInduction with
  | step n ih =>
    rw [accept_eq, accept_eq]
    refine h.repeatWhile ?_
    refine h.bind (h.negotiate _) fun _ => ?_
    refine h.bind (Element.acceptRun_related h fun t c mem => ?_) fun _ => ?_
    · exact ih t c (List.mem_append_left _ mem)
    refine h.bind h.start fun _ => ?_
    refine h.bind (Element.acceptRun_related h fun t c mem => ?_) fun _ => h.finish
    exact ih t c (List.mem_append_right _ mem)

end Related

/-! ## §5 Limits -/

namespace Run

variable {α β : Type}

/-- A run that gives the results of another, and perhaps some where the other has none. -/
def Extends (y x : Run ε σ α) : Prop := ∀ s r, x s = some r → y s = some r

theorem Extends.bind {x y : Run ε σ α} {f g : α → Run ε σ β} (h : y.Extends x)
    (next : ∀ a, (g a).Extends (f a)) : (y >>= g).Extends (x >>= f) := by
  intro s r hr
  rcases hx : x s with _ | ⟨a, m⟩ | ⟨e, m⟩
  · rw [bind_none hx] at hr
    cases hr
  · rw [bind_ok hx] at hr
    rw [bind_ok (h s _ hx)]
    exact next a m r hr
  · rw [bind_error hx] at hr
    rw [bind_error (h s _ hx)]
    exact hr

theorem Extends.repeatWhile {x y : Run ε σ Bool} (h : y.Extends x) {limit limit' : Nat}
    (le : limit ≤ limit') : (Run.repeatWhile limit' y).Extends (Run.repeatWhile limit x) := by
  induction limit generalizing limit' with
  | zero => exact nofun
  | succ limit ih =>
    obtain ⟨limit', rfl⟩ : ∃ k, limit' = k + 1 := ⟨limit' - 1, by omega⟩
    refine h.bind fun again => ?_
    cases again with
    | false => exact fun _ _ hr => hr
    | true => exact ih (by omega)

end Run

namespace Visitor

theorem negotiate_extends (v : Visitor ε σ) (signature : Nat → String) {limit limit' : Nat}
    (le : limit ≤ limit') (asked : Option String) :
    (v.negotiate signature limit' asked).Extends (v.negotiate signature limit asked) := by
  induction limit generalizing limit' asked with
  | zero => exact nofun
  | succ limit ih =>
    obtain ⟨limit', rfl⟩ : ∃ k, limit' = k + 1 := ⟨limit' - 1, by omega⟩
    refine Run.Extends.bind (fun _ _ hr => hr) fun depth => ?_
    by_cases hd : depth = 0
    · rw [if_pos hd, if_pos hd]
      exact fun _ _ hr => hr
    · rw [if_neg hd, if_neg hd]
      exact ih (by omega) _

theorem within_extends (v : Visitor ε σ) (t : Tag) {x y : Run ε σ Unit} (h : y.Extends x) :
    (v.within t y).Extends (v.within t x) := by
  intro s r hr
  unfold within at hr ⊢
  rcases he : v.enter t s with ⟨_ | child, m⟩ | ⟨e, m⟩
  · rw [he] at hr
    exact hr
  · rw [he] at hr
    cases hx : x child with
    | none =>
      simp only [hx] at hr
      cases hr
    | some inside =>
      simp only [hx] at hr
      simp only [h child inside hx]
      exact hr
  · rw [he] at hr
    exact hr

theorem related_extends (v : Visitor ε σ) {limit limit' : Nat} (le : limit ≤ limit') :
    Related (fun _ x y => y.Extends x) v limit v limit' where
  pure _ := fun _ _ hr => hr
  bind h next := h.bind next
  negotiate signature := v.negotiate_extends signature le none
  leaf _ := fun _ _ hr => hr
  within t h := v.within_extends t h
  start := fun _ _ hr => hr
  finish := fun _ _ hr => hr
  repeatWhile h := h.repeatWhile le

end Visitor

/-- A traversal that stays within its limit is the same under any greater limit. -/
theorem Node.accept_mono (v : Visitor ε σ) {limit limit' : Nat} (le : limit ≤ limit') (n : Node) :
    (n.accept v limit').Extends (n.accept v limit) := n.accept_related (v.related_extends le)

/-! ## §6 Additions to the state -/

/-- A result with its value and its state seen through functions. -/
def seenResult {α β : Type} (f : α → β) (φ : τ → σ) : EStateM.Result ε τ α → EStateM.Result ε σ β
  | .ok a t => .ok (f a) (φ t)
  | .error e t => .error e (φ t)

/-- A visitor that behaves, as far as its state is seen through a function, like another. -/
structure Visitor.SeenThrough (φ : τ → σ) (w : Visitor ε τ) (v : Visitor ε σ) : Prop where
  elementTypes (types : Option String) (t : τ) :
    seenResult id φ (w.elementTypes types t) = v.elementTypes types (φ t)
  leaf (l : Leaf) (t : τ) : seenResult id φ (w.leaf l t) = v.leaf l (φ t)
  enter (tag : Tag) (t : τ) : seenResult (Option.map φ) φ (w.enter tag t) = v.enter tag (φ t)
  leave (tag : Tag) (outside inside : τ) :
    φ (w.leave tag outside inside) = v.leave tag (φ outside) (φ inside)
  start (t : τ) : seenResult id φ (w.start t) = v.start (φ t)
  finish (t : τ) : seenResult id φ (w.finish t) = v.finish (φ t)

namespace Run

variable {α β : Type}

/-- A run that gives, as far as the state is seen through a function, what another gives. -/
def SeenThrough (φ : τ → σ) (y : Run ε τ α) (x : Run ε σ α) : Prop :=
  ∀ t, (y t).map (seenResult id φ) = x (φ t)

variable {φ : τ → σ}

theorem SeenThrough.step {y : EStateM ε τ α} {x : EStateM ε σ α}
    (h : ∀ t, seenResult id φ (y t) = x (φ t)) : SeenThrough φ (Run.step y) (Run.step x) :=
  fun t => congrArg some (h t)

theorem SeenThrough.bind {y : Run ε τ α} {x : Run ε σ α} {g : α → Run ε τ β} {f : α → Run ε σ β}
    (h : SeenThrough φ y x) (next : ∀ a, SeenThrough φ (g a) (f a)) :
    SeenThrough φ (y >>= g) (x >>= f) := by
  intro t
  have first := h t
  rcases hy : y t with _ | ⟨a, m⟩ | ⟨e, m⟩
  · rw [hy] at first
    rw [bind_none hy, bind_none first.symm]
    rfl
  · rw [hy] at first
    rw [bind_ok hy, bind_ok first.symm]
    exact next a m
  · rw [hy] at first
    rw [bind_error hy, bind_error first.symm]
    rfl

theorem SeenThrough.repeatWhile {y : Run ε τ Bool} {x : Run ε σ Bool} (h : SeenThrough φ y x)
    (limit : Nat) : SeenThrough φ (Run.repeatWhile limit y) (Run.repeatWhile limit x) := by
  induction limit with
  | zero => exact fun _ => rfl
  | succ limit ih =>
    refine h.bind fun again => ?_
    cases again with
    | false => exact fun _ => rfl
    | true => exact ih

end Run

namespace Visitor.SeenThrough

variable {φ : τ → σ} {w : Visitor ε τ} {v : Visitor ε σ}

theorem negotiate (h : SeenThrough φ w v) (signature : Nat → String) (limit : Nat)
    (asked : Option String) : Run.SeenThrough φ (w.negotiate signature limit asked)
      (v.negotiate signature limit asked) := by
  induction limit generalizing asked with
  | zero => exact fun _ => rfl
  | succ limit ih =>
    refine Run.SeenThrough.bind (.step (h.elementTypes asked)) fun depth => ?_
    by_cases hd : depth = 0
    · rw [if_pos hd, if_pos hd]
      exact fun _ => rfl
    · rw [if_neg hd, if_neg hd]
      exact ih _

theorem within (h : SeenThrough φ w v) (t : Tag) {y : Run ε τ Unit} {x : Run ε σ Unit}
    (inside : Run.SeenThrough φ y x) : Run.SeenThrough φ (w.within t y) (v.within t x) := by
  intro s
  have entered := h.enter t s
  unfold Visitor.within
  rcases he : w.enter t s with ⟨_ | child, m⟩ | ⟨e, m⟩
  · rw [he] at entered
    rw [← entered]
    rfl
  · rw [he] at entered
    have content := inside child
    rw [← entered]
    simp only [seenResult, Option.map_some]
    rcases hy : y child with _ | ⟨⟨⟩, r⟩ | ⟨e, r⟩
    · rw [hy] at content
      rw [← content]
      rfl
    · rw [hy] at content
      rw [← content]
      simp only [Option.map_some, seenResult, h.leave, id]
    · rw [hy] at content
      rw [← content]
      simp only [Option.map_some, seenResult, h.leave]
  · rw [he] at entered
    rw [← entered]
    rfl

theorem related (h : SeenThrough φ w v) (limit : Nat) :
    Related (fun _ y x => Run.SeenThrough φ y x) w limit v limit where
  pure _ := fun _ => rfl
  bind h next := h.bind next
  negotiate signature := h.negotiate signature limit none
  leaf l := .step (h.leaf l)
  within t inside := h.within t inside
  start := .step h.start
  finish := .step h.finish
  repeatWhile h := h.repeatWhile limit

end Visitor.SeenThrough

/-- What a visitor takes no notice of makes no difference to a traversal. -/
theorem Node.accept_seenThrough {φ : τ → σ} {w : Visitor ε τ} {v : Visitor ε σ}
    (h : w.SeenThrough φ v) (limit : Nat) (n : Node) (t : τ) :
    (n.accept w limit t).map (seenResult id φ) = n.accept v limit (φ t) :=
  n.accept_related (h.related limit) t

end ScriptureText
