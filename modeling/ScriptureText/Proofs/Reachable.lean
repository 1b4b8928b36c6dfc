/-
ScriptureText.Proofs.Reachable — invariants of all trees that operations lead to.

A property of one node is an invariant of building when no step of a builder
breaks it and taking off the last element does not (`KeptOpen`). Then it holds
at every depth after any calls, inside containers as well
(`KeptOpen.performAll`), and after any traversal into a builder
(`KeptOpen.feed`). If finishing does not break it either it is `Kept`.

What is left is normalization, the one operation that rewrites runs. It is
therefore singled out in `ReachableTrimming`, which allows it only on some
trees, and of which `Reachable` is the case of all trees. Every reachable tree
is sound throughout (`Reachable.sound`), and its nodes agree on whether it is
finished (`Reachable.oneFlag`).
-/
import ScriptureText.Proofs.Normalization
import ScriptureText.Proofs.Traversal
import ScriptureText.Tree.Reachable

namespace ScriptureText

/-! ## §1 Steps on a tree -/

/-- What no step on an open tree breaks that leaves the runs below a node as they are. -/
structure KeptOpen (P : Node → Prop) : Prop where
  empty : P .empty
  leaf {n n' : Node} {l : Leaf} (h : P n) (step : n.addLeaf l = .ok n') : P n'
  container {n : Node} {t : Tag} (h : P n) (checked : t.check = .ok ()) (c : Node) :
    P (n.addContainer t c)
  dropLast {n : Node} (h : P n) : P { n with body := n.body.dropLast }

/-- What finishing does not break either. -/
structure Kept (P : Node → Prop) : Prop extends KeptOpen P where
  flags {n : Node} (h : P n) (k : Bool → Bool) : P (n.mapRuns id k)

/-- Taking off the last element leaves the rest of an open tree as it was. -/
theorem Node.removeLast_cases {n n' : Node} {e : Option Element} (h : n.removeLast = .ok (e, n')) :
    n.finished = false ∧ n' = { n with body := n.body.dropLast } := by
  rw [removeLast, requireOpen] at h
  split at h
  · cases h
  · rename_i isOpen
    cases h
    exact ⟨Bool.eq_false_iff.2 isOpen, rfl⟩

/-- An open tree can be finished. -/
theorem Node.finish_of_open {n : Node} (isOpen : n.finished = false) : n.finish = .ok n.seal := by
  rw [finish, requireOpen, isOpen]
  rfl

/-- Finishing seals an open tree. -/
theorem Node.finish_cases {n n' : Node} (h : n.finish = .ok n') :
    n.finished = false ∧ n' = n.seal := by
  rw [finish, requireOpen] at h
  split at h
  · cases h
  · rename_i isOpen
    cases h
    exact ⟨Bool.eq_false_iff.2 isOpen, rfl⟩

namespace KeptOpen

variable {P : Node → Prop}

theorem addLeaf (kept : KeptOpen P) {n n' : Node} {l : Leaf} (h : n.Everywhere P)
    (step : n.addLeaf l = .ok n') : n'.Everywhere P := by
  rw [Node.everywhere_iff] at h ⊢
  exact ⟨kept.leaf h.1 step, fun t c mem => h.2 t c ((Node.container_mem_addLeaf step).1 mem)⟩

theorem addContainer (kept : KeptOpen P) {n c : Node} {t : Tag} (h : n.Everywhere P)
    (checked : t.check = .ok ()) (hc : c.Everywhere P) : (n.addContainer t c).Everywhere P := by
  rw [Node.everywhere_iff] at h ⊢
  refine ⟨kept.container h.1 checked c, fun t' c' mem => ?_⟩
  rw [Node.children_addContainer, List.mem_append, List.mem_singleton] at mem
  rcases mem with mem | mem
  · exact h.2 t' c' mem
  · cases mem
    exact hc

theorem removeLast (kept : KeptOpen P) {n n' : Node} {e : Option Element} (h : n.Everywhere P)
    (step : n.removeLast = .ok (e, n')) : n'.Everywhere P := by
  obtain ⟨-, rfl⟩ := Node.removeLast_cases step
  rw [Node.everywhere_iff] at h ⊢
  refine ⟨kept.dropLast h.1, fun t c mem => h.2 t c ?_⟩
  rw [Node.mem_children] at mem ⊢
  exact mem.imp_right fun mem => List.dropLast_subset _ mem

end KeptOpen

namespace Kept

variable {P : Node → Prop}

theorem and {Q : Node → Prop} (hp : Kept P) (hq : Kept Q) : Kept fun n => P n ∧ Q n where
  empty := ⟨hp.empty, hq.empty⟩
  leaf h step := ⟨hp.leaf h.1 step, hq.leaf h.2 step⟩
  container h checked c := ⟨hp.container h.1 checked c, hq.container h.2 checked c⟩
  dropLast h := ⟨hp.dropLast h.1, hq.dropLast h.2⟩
  flags h k := ⟨hp.flags h.1 k, hq.flags h.2 k⟩

theorem mapFlags (kept : Kept P) {n : Node} (h : n.Everywhere P) (k : Bool → Bool) :
    (n.mapRuns id k).Everywhere P :=
  (Node.everywhere_mapRuns fun _ _ _ => Iff.rfl).2 (h.mono fun _ hm => kept.flags hm k)

theorem finish (kept : Kept P) {n n' : Node} (h : n.Everywhere P) (step : n.finish = .ok n') :
    n'.Everywhere P := by
  obtain ⟨-, rfl⟩ := Node.finish_cases step
  rw [Node.seal_eq_mapRuns]
  exact kept.mapFlags h _

end Kept

/-! ## §2 Calls and traversals -/

namespace Builder

/-- What a builder enters is checked, and starts empty. -/
theorem enter_cases {t : Tag} {n n' : Node} {r : Option Node}
    (h : consumer.enter t n = .ok r n') : t.check = .ok () ∧ r = some .empty ∧ n' = n := by
  simp only [consumer] at h
  split at h
  · rename_i hc
    cases h
    exact ⟨hc, rfl, rfl⟩
  · cases h

/-- A refused container leaves the node as it was. -/
theorem enter_error {t : Tag} {n n' : Node} {e : Error}
    (h : consumer.enter t n = .error e n') : n' = n := by
  simp only [consumer] at h
  split at h
  · cases h
  · cases h
    rfl

end Builder

namespace KeptOpen

variable {P : Node → Prop}

mutual

/-- One call, and all calls inside its container. -/
theorem perform (kept : KeptOpen P) : ∀ (call : Call) {n : Node}, n.Everywhere P →
    (Builder.consumer.toVisitor.perform call n).2.Everywhere P
  | .leaf l, n, h => by
    show (Visitor.outcome (Builder.consumer.leaf l) _ n).2.Everywhere P
    simp only [Visitor.outcome, Builder.consumer]
    cases hl : n.addLeaf l with
    | error e => exact h
    | ok n' => exact kept.addLeaf h hl
  | .start, _, h => h
  | .finish, _, h => h
  | .elementTypes _, _, h => h
  | .container t content, n, h => by
    rw [Visitor.perform]
    cases he : Builder.consumer.toVisitor.enter t n with
    | error e n' =>
      obtain rfl : n' = n := Builder.enter_error he
      exact h
    | ok r n' =>
      obtain ⟨hc, rfl, rfl⟩ := Builder.enter_cases he
      exact kept.addContainer h hc (kept.performAll content (Node.everywhere_empty.2 kept.empty))

/-- Calls in a row, whether or not they fail. -/
theorem performAll (kept : KeptOpen P) : ∀ (calls : List Call) {n : Node}, n.Everywhere P →
    (Builder.consumer.toVisitor.performAll calls n).2.Everywhere P
  | [], _, h => h
  | call :: rest, _, h => by
    rw [Visitor.performAll]
    exact kept.performAll rest (kept.perform call h)

end

/-- One element, whose content is harmless by itself. -/
theorem feedElement (kept : KeptOpen P) {e : Element} (content : ∀ t c, e = .container t c →
    ∀ {m m' : Node}, m.Everywhere P → c.feed Builder.consumer m = .ok () m' → m'.Everywhere P)
    {n n' : Node} (h : n.Everywhere P) (step : e.feed Builder.consumer n = .ok () n') :
    n'.Everywhere P := by
  cases e with
  | leaf l =>
    rw [Element.feed_leaf] at step
    simp only [Builder.consumer] at step
    cases hl : n.addLeaf l with
    | error e =>
      rw [hl] at step
      cases step
    | ok m =>
      rw [hl] at step
      cases step
      exact kept.addLeaf h hl
  | container t c =>
    rw [Element.feed_container, Consumer.within_eq_ok] at step
    rcases step with he | ⟨child, m, r, he, inside, rfl⟩
    · obtain ⟨-, hr, -⟩ := Builder.enter_cases he
      cases hr
    · obtain ⟨hc, hr, rfl⟩ := Builder.enter_cases he
      cases hr
      exact kept.addContainer h hc (content t c rfl (Node.everywhere_empty.2 kept.empty) inside)

/-- A traversal of any tree into a builder, provided that it succeeds. -/
theorem feed (kept : KeptOpen P) (source : Node) {n n' : Node} (h : n.Everywhere P)
    (step : source.feed Builder.consumer n = .ok () n') : n'.Everywhere P := by
  induction source using Node.childrenInduction generalizing n n' with
  | step source ih =>
    rw [Node.feed_eq_children _ rfl, Consumer.bind_eq_ok] at step
    obtain ⟨_, m, run, last⟩ := step
    cases last
    have content : ∀ e ∈ source.children, ∀ t c, e = .container t c → ∀ {m m' : Node},
        m.Everywhere P → c.feed Builder.consumer m = .ok () m' → m'.Everywhere P := by
      intro e mem t c he
      rw [he] at mem
      exact ih t c mem
    generalize source.children = es at run content
    induction es generalizing n with
    | nil =>
      cases run
      exact h
    | cons e rest ihRest =>
      rw [List.forall_mem_cons] at content
      rw [Element.feedRun_cons, Consumer.bind_eq_ok] at run
      obtain ⟨_, m, first, others⟩ := run
      exact ihRest (kept.feedElement content.1 h first) others content.2

end KeptOpen

/-! ## §3 Reachable trees -/

/-- A tree that operations on an empty tree lead to, where whitespace is
normalized only in trees of which `ok` holds. -/
inductive ReachableTrimming (ok : Node → Prop) : Node → Prop where
  | empty : ReachableTrimming ok .empty
  | perform {n : Node} (calls : List Call) (h : ReachableTrimming ok n)
      (isOpen : n.finished = false) :
      ReachableTrimming ok (Builder.consumer.toVisitor.performAll calls n).2
  | removeLast {n n' : Node} {e : Option Element} (h : ReachableTrimming ok n)
      (removed : n.removeLast = .ok (e, n')) : ReachableTrimming ok n'
  | trimWhitespace {n n' : Node} {options : NormalizeOptions} (h : ReachableTrimming ok n)
      (allowed : options.keepWhitespace = false → ok n)
      (trimmed : n.trimWhitespace options = .ok n') : ReachableTrimming ok n'
  | finish {n n' : Node} (h : ReachableTrimming ok n) (finished : n.finish = .ok n') :
      ReachableTrimming ok n'

/-- Without a condition these are the reachable trees. -/
theorem reachable_iff {n : Node} : Reachable n ↔ ReachableTrimming (fun _ => True) n := by
  constructor
  · intro h
    induction h with
    | empty => exact .empty
    | perform calls _ isOpen ih => exact .perform calls ih isOpen
    | removeLast _ removed ih => exact .removeLast ih removed
    | trimWhitespace _ trimmed ih => exact .trimWhitespace ih (fun _ => trivial) trimmed
    | finish _ finished ih => exact .finish ih finished
  · intro h
    induction h with
    | empty => exact .empty
    | perform calls _ isOpen ih => exact .perform calls ih isOpen
    | removeLast _ removed ih => exact .removeLast ih removed
    | trimWhitespace _ _ trimmed ih => exact .trimWhitespace ih trimmed
    | finish _ finished ih => exact .finish ih finished

/-- Normalization either leaves a tree alone or normalizes its runs. -/
theorem Node.trimWhitespace_cases {n n' : Node} {options : NormalizeOptions}
    (h : n.trimWhitespace options = .ok n') :
    options.keepWhitespace = true ∧ n' = n ∨
      options.keepWhitespace = false ∧ n.normalizeRuns = .ok n' := by
  rw [trimWhitespace, requireOpen] at h
  cases hf : n.finished with
  | true =>
    rw [hf] at h
    cases h
  | false =>
    cases hk : options.keepWhitespace with
    | true =>
      rw [hf, hk] at h
      cases h
      exact .inl ⟨rfl, rfl⟩
    | false =>
      rw [hf, hk] at h
      exact .inr ⟨rfl, h⟩

/-- What building keeps and normalization keeps where it is allowed holds of every node of every
tree reached. -/
theorem ReachableTrimming.everywhere {ok P : Node → Prop} (kept : Kept P)
    (trims : ∀ {n n' : Node}, n.Everywhere P → ok n → n.normalizeRuns = .ok n' → n'.Everywhere P)
    {n : Node} (h : ReachableTrimming ok n) : n.Everywhere P := by
  induction h with
  | empty => exact Node.everywhere_empty.2 kept.empty
  | perform calls _ _ ih => exact kept.performAll calls ih
  | removeLast _ removed ih => exact kept.removeLast ih removed
  | trimWhitespace _ allowed trimmed ih =>
    rcases Node.trimWhitespace_cases trimmed with ⟨-, rfl⟩ | ⟨hk, hn⟩
    · exact ih
    · exact trims ih (allowed hk) hn
  | finish _ finished ih => exact kept.finish ih finished

/-! ## §4 Soundness -/

namespace Node

theorem kept_sound : Kept Sound where
  empty := sound_empty
  leaf := Sound.addLeaf
  container := Sound.addContainer
  dropLast := Sound.dropLast
  flags h k := h.mapRuns (fun _ checked => checked) (fun _ apart => apart) k

end Node

/-- Every reachable tree is sound at every depth. -/
theorem Reachable.sound {n : Node} (h : Reachable n) : n.Everywhere Node.Sound := by
  refine (reachable_iff.1 h).everywhere Node.kept_sound ?_
  intro n n' sound _ hn
  rw [Node.normalizeRuns_eq sound] at hn
  cases hn
  exact Node.everywhere_sound_trimmed sound

/-! ## §5 Flags -/

namespace Node

theorem finished_addLeaf {n n' : Node} {l : Leaf} (step : n.addLeaf l = .ok n') :
    n'.finished = n.finished := by
  rcases addLeaf_cases step with ⟨-, rfl⟩ | ⟨_, _, _, -, -, -, -, rfl⟩ | ⟨-, -, rfl⟩ <;> rfl

theorem finished_addContainer (n : Node) (t : Tag) (c : Node) :
    (n.addContainer t c).finished = n.finished := by
  rcases addContainer_cases n t c with ⟨_, -, -, h⟩ | ⟨-, h⟩
  · rw [h]
  · rw [h]
    rfl

/-- Steps on an open tree leave all of it open. -/
theorem keptOpen_open : KeptOpen fun n => n.finished = false where
  empty := rfl
  leaf h step := (finished_addLeaf step).trans h
  container h _ c := (finished_addContainer _ _ c).trans h
  dropLast h := h

theorem everywhere_finished_seal (n : Node) : n.seal.Everywhere fun m => m.finished = true := by
  rw [seal_eq_mapRuns, everywhere_mapRuns (g := id) fun _ _ _ => Iff.rfl]
  exact fun m _ => finished_mapRuns m

/-- Whether a node is finished is the same for all nodes inside it. -/
def OneFlag (n : Node) : Prop := n.Everywhere fun m => m.finished = n.finished

theorem OneFlag.of_forall {n : Node} {b : Bool} (h : n.Everywhere fun m => m.finished = b) :
    n.OneFlag := fun m hm => (h m hm).trans (h n (.self n)).symm

theorem OneFlag.of_open {n : Node} (h : n.OneFlag) (isOpen : n.finished = false) :
    n.Everywhere fun m => m.finished = false := fun m hm => (h m hm).trans isOpen

end Node

/-- A reachable tree is open at every depth, or finished at every depth. -/
theorem Reachable.oneFlag {n : Node} (h : Reachable n) : n.OneFlag := by
  induction h with
  | empty => exact Node.everywhere_empty.2 rfl
  | perform calls _ isOpen ih =>
    exact .of_forall (Node.keptOpen_open.performAll calls (ih.of_open isOpen))
  | removeLast _ removed ih =>
    have isOpen := (Node.removeLast_cases removed).1
    exact .of_forall (Node.keptOpen_open.removeLast (ih.of_open isOpen) removed)
  | trimWhitespace reachable trimmed ih =>
    rcases Node.trimWhitespace_cases trimmed with ⟨-, rfl⟩ | ⟨-, runs⟩
    · exact ih
    · rw [Node.normalizeRuns_eq reachable.sound] at runs
      cases runs
      rw [Node.OneFlag, Node.finished_trimmed, Node.everywhere_trimmed]
      exact fun m hm => (Node.finished_trimmed m).trans (ih m hm)
  | finish _ finished _ =>
    obtain ⟨-, rfl⟩ := Node.finish_cases finished
    exact .of_forall (Node.everywhere_finished_seal _)

end ScriptureText
