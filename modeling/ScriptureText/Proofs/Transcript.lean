/-
ScriptureText.Proofs.Transcript — the calls that a traversal makes.

A transcript is what a visitor is offered that enters every container: the
elements of a tree as calls, each container with the calls of its content. The
start and the end of a node and requests for signatures are left out.

The calls of a node are those of its children, in order (`Node.calls_eq`), and
making them one by one on a consumer that takes no notice of what is left out
does what the traversal does (`Node.performAll_calls`).
-/
import ScriptureText.Proofs.Traversal
import ScriptureText.Traversal.Call

namespace ScriptureText

/-! ## §1 Transcripts -/

/-- The consumer that takes down the elements that it is offered. -/
def Transcript.consumer : Consumer Empty (List Call) where
  leaf l := modify (· ++ [.leaf l])
  enter _ := return some []
  leave t calls inside := calls ++ [.container t inside]
  start := pure ()
  finish := pure ()

/-- The calls that a traversal of a node makes. -/
def Node.calls (n : Node) : List Call := Consumer.finalState (n.feed Transcript.consumer [])

/-- The call that offers an element, with the calls for its content. -/
def Element.call : Element → Call
  | .leaf l => .leaf l
  | .container t c => .container t c.calls

theorem Element.feedRun_transcript (es : List Element)
    (contents : ∀ t c, .container t c ∈ es → c.feed Transcript.consumer [] = .ok () c.calls)
    (before : List Call) :
    Element.feedRun Transcript.consumer es before = .ok () (before ++ es.map Element.call) := by
  induction es generalizing before with
  | nil => simp [pure, EStateM.pure]
  | cons e rest ih =>
    have first : e.feed Transcript.consumer before = .ok () (before ++ [e.call]) := by
      cases e with
      | leaf l => rfl
      | container t c =>
        rw [Element.feed_container, Consumer.within_eq_ok]
        exact .inr ⟨[], before, c.calls, rfl, contents t c List.mem_cons_self, rfl⟩
    rw [Element.feedRun_cons, Consumer.bind_eq_ok]
    refine ⟨(), _, first, ?_⟩
    rw [ih fun t c mem => contents t c (List.mem_cons_of_mem e mem), List.append_assoc]
    rfl

namespace Node

theorem feed_transcript (n : Node) :
    n.feed Transcript.consumer [] = .ok () (n.children.map Element.call) := by
  induction n using childrenInduction with
  | step n ih =>
    have contents (t : Tag) (c : Node) (mem : .container t c ∈ n.children) :
        c.feed Transcript.consumer [] = .ok () c.calls := by
      rw [calls, ih t c mem]
      rfl
    rw [feed_eq_children _ rfl, Consumer.bind_eq_ok]
    exact ⟨(), _, Element.feedRun_transcript n.children contents [], rfl⟩

/-- The calls for a node are the calls for its children. -/
theorem calls_eq (n : Node) : n.calls = n.children.map Element.call := by
  rw [calls, feed_transcript]
  rfl

/-- The full protocol makes the same calls, whatever its limit on rounds. -/
theorem accept_transcript (n : Node) (limit : Nat) :
    n.accept Transcript.consumer.toVisitor (limit + 1) [] = some (.ok () n.calls) := by
  rw [accept_toVisitor, Run.step, feed_transcript, calls_eq]

end Node

/-! ## §2 Making the calls of a traversal -/

variable {ε σ : Type} {k : Consumer ε σ} {s s' : σ}

theorem Element.performAll_call {es : List Element}
    (contents : ∀ t c, .container t c ∈ es → ∀ {s s' : σ}, c.feed k s = .ok () s' →
      (k.toVisitor.performAll c.calls s).2 = s')
    (h : Element.feedRun k es s = .ok () s') :
    (k.toVisitor.performAll (es.map Element.call) s).2 = s' := by
  induction es generalizing s with
  | nil =>
    cases h
    rfl
  | cons e rest ih =>
    rw [Element.feedRun_cons, Consumer.bind_eq_ok] at h
    obtain ⟨⟨⟩, m, first, others⟩ := h
    have one : (k.toVisitor.perform e.call s).2 = m := by
      cases e with
      | leaf l =>
        rw [Element.feed_leaf] at first
        show (Visitor.outcome (k.leaf l) (fun _ => Outcome.done) s).2 = m
        rw [Visitor.outcome, first]
      | container t c =>
        rw [Element.feed_container, Consumer.within_eq_ok] at first
        rw [Element.call, Visitor.perform]
        rcases first with passed | ⟨child, m', r, entered, inside, rfl⟩
        · have : k.toVisitor.enter t s = .ok none m := passed
          rw [this]
        · have : k.toVisitor.enter t s = .ok (some child) m' := entered
          rw [this]
          show k.leave t m' (k.toVisitor.performAll c.calls child).2 = k.leave t m' r
          rw [contents t c List.mem_cons_self inside]
    rw [List.map_cons, Visitor.performAll]
    show (k.toVisitor.performAll (rest.map Element.call) (k.toVisitor.perform e.call s).2).2 = s'
    rw [one]
    exact ih (fun t c mem => contents t c (List.mem_cons_of_mem e mem)) others

/-- A traversal that succeeds does what its calls do one by one. -/
theorem Node.performAll_calls (start : k.start = pure ()) (finish : k.finish = pure ()) {n : Node}
    (h : n.feed k s = .ok () s') : (k.toVisitor.performAll n.calls s).2 = s' := by
  induction n using childrenInduction generalizing s s' with
  | step n ih =>
    rw [feed_eq_children _ start, finish, Consumer.bind_eq_ok] at h
    obtain ⟨⟨⟩, m, run, last⟩ := h
    cases last
    rw [calls_eq]
    exact Element.performAll_call (fun t c mem => ih t c mem) run

end ScriptureText
