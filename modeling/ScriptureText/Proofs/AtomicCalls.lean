/-
ScriptureText.Proofs.AtomicCalls — a call on a builder succeeds by its own
fields, and fails without a trace.

A builder that is given text behind a text checks what the two are joined to,
not what it was given. It comes to the same, since the text in the tree is in
order (`addLeaf_ok_iff`): so no call depends on what the node already holds.

Builders stand inside each other while a container is being filled. A builder
is therefore seen with what surrounds it, the unfinished containers from the
inside outwards, each with the node it will belong to (`Builder.Obtained`), and
the whole tree is what is there once all of them are left (`Builder.tree`).
-/
import ScriptureText.Proofs.CanonicalCalls
import ScriptureText.Proofs.Reachable
import ScriptureText.Proofs.Text

namespace ScriptureText

open Builder (consumer)

/-! ## §1 Calls by themselves -/

/-- What a builder takes: a leaf that is in order, or empty text. -/
def Leaf.Accepted (l : Leaf) : Prop := l = .text "" ∨ l.check = .ok ()

instance : DecidablePred Leaf.Accepted := fun l =>
  inferInstanceAs (Decidable (l = .text "" ∨ l.check = .ok ()))

namespace Call

mutual

/-- A call without the calls inside it that are not in order, and nothing if it is not in order
itself. -/
def accepted : Call → List Call
  | .leaf l => if l.Accepted then [.leaf l] else []
  | .container t content => if t.check = .ok () then [.container t (allAccepted content)] else []
  | _ => []

/-- The elements among calls that are in order. -/
def allAccepted : List Call → List Call
  | [] => []
  | c :: rest => accepted c ++ allAccepted rest

end

end Call

/-! ## §2 One call -/

namespace Node

/-- Whether a leaf is taken does not depend on the node, though text may be checked together with
the text before it. -/
theorem addLeaf_ok_iff {n : Node} (h : n.Sound) (l : Leaf) :
    (∃ n', n.addLeaf l = .ok n') ↔ l.Accepted := by
  have after_check (x : Except Error Unit) (m : Node) :
      (∃ n', (do x; return m) = Except.ok n') ↔ x = .ok () := by
    cases x with
    | ok => exact ⟨fun _ => rfl, fun _ => ⟨m, rfl⟩⟩
    | error e => exact ⟨nofun, nofun⟩
  cases l with
  | text s =>
    rw [addLeaf, addText, Leaf.Accepted, Leaf.text.injEq]
    by_cases hs : s = ""
    · simp [hs]
    · rw [if_neg (by simpa using hs), or_iff_right hs]
      split
      · rename_i previous last
        have before : Text.Spaced previous.toList :=
          Text.check_text_iff.1 (h.checked.body _ (List.mem_of_getLast? last))
        have same : (Leaf.text (Text.merge previous s)).check = .ok () ↔
            (Leaf.text s).check = .ok () := by
          rw [Text.check_text_iff, Text.spaced_merge_iff before, or_iff_right hs,
            Text.check_text_iff]
        exact (after_check _ _).trans same
      · exact after_check _ _
  | _ =>
    rw [addLeaf, Leaf.Accepted, or_iff_right (by simp)]
    · exact after_check _ _
    · simp

end Node

namespace Builder

/-- A leaf is taken by what it is, and otherwise nothing happens. -/
theorem leaf_cases {n : Node} (h : n.Sound) (l : Leaf) :
    l.Accepted ∧ (∃ n', consumer.leaf l n = .ok () n') ∨
      ¬ l.Accepted ∧ ∃ e, consumer.leaf l n = .error e n := by
  rw [← Node.addLeaf_ok_iff h l]
  simp only [consumer]
  cases n.addLeaf l with
  | ok n' => exact .inl ⟨⟨n', rfl⟩, n', rfl⟩
  | error e => exact .inr ⟨by simp, e, rfl⟩

/-- A container is entered by what its fields are, and otherwise nothing happens. -/
theorem enter_eq (t : Tag) (n : Node) :
    t.check = .ok () ∧ consumer.enter t n = .ok (some .empty) n ∨
      t.check ≠ .ok () ∧ ∃ e, consumer.enter t n = .error e n := by
  simp only [consumer]
  cases t.check with
  | ok => exact .inl ⟨rfl, rfl⟩
  | error e => exact .inr ⟨by simp, e, rfl⟩

end Builder

/-! ## §3 Calls in a row -/

theorem Visitor.performAll_append {ε σ : Type} (v : Visitor ε σ) (a b : List Call) (s : σ) :
    (v.performAll (a ++ b) s).2 = (v.performAll b (v.performAll a s).2).2 := by
  induction a generalizing s with
  | nil => rfl
  | cons c rest ih => exact ih _

namespace Builder

mutual

/-- A call and all calls inside it: those that succeed are those that are in order, and alone they
do the same. -/
theorem perform_accepted : ∀ (c : Call) {n : Node}, n.Everywhere Node.Sound →
    c.succeeded (consumer.toVisitor.perform c n).1 = c.accepted ∧
      (consumer.toVisitor.perform c n).2 = (consumer.toVisitor.performAll c.accepted n).2
  | .leaf l, n, h => by
    have step : consumer.toVisitor.perform (.leaf l) n =
        Visitor.outcome (consumer.leaf l) (fun _ => .done) n := rfl
    rw [step, Visitor.outcome, Call.accepted]
    rcases leaf_cases (h n (.self n)) l with ⟨accepted, n', taken⟩ | ⟨refused, e, failed⟩
    · rw [if_pos accepted, taken]
      refine ⟨rfl, ?_⟩
      show n' = (Visitor.outcome (consumer.leaf l) (fun _ => Outcome.done) n).2
      rw [Visitor.outcome, taken]
    · rw [if_neg refused, failed]
      exact ⟨rfl, rfl⟩
  | .start, _, _ => ⟨rfl, rfl⟩
  | .finish, _, _ => ⟨rfl, rfl⟩
  | .elementTypes _, _, _ => ⟨rfl, rfl⟩
  | .container t content, n, _ => by
    rw [Visitor.perform, Call.accepted]
    rcases enter_eq t n with ⟨checked, entered⟩ | ⟨refused, e, failed⟩
    · have entered' : consumer.toVisitor.enter t n = .ok (some .empty) n := entered
      obtain ⟨outcomes, inside⟩ :=
        performAll_accepted content (Node.everywhere_empty.2 Node.sound_empty)
      rw [if_pos checked, entered']
      constructor
      · show [Call.container t (Call.allSucceeded content _)] = _
        rw [outcomes]
      · show consumer.leave t n (consumer.toVisitor.performAll content .empty).2 =
          (consumer.toVisitor.perform (.container t (Call.allAccepted content)) n).2
        rw [inside, Visitor.perform, entered']
        rfl
    · have failed' : consumer.toVisitor.enter t n = .error e n := failed
      rw [if_neg refused, failed']
      exact ⟨rfl, rfl⟩

/-- Calls in a row, whether or not they fail. -/
theorem performAll_accepted : ∀ (calls : List Call) {n : Node}, n.Everywhere Node.Sound →
    Call.allSucceeded calls (consumer.toVisitor.performAll calls n).1 = Call.allAccepted calls ∧
      (consumer.toVisitor.performAll calls n).2 =
        (consumer.toVisitor.performAll (Call.allAccepted calls) n).2
  | [], _, _ => ⟨rfl, rfl⟩
  | c :: rest, n, h => by
    obtain ⟨first, after⟩ := perform_accepted c h
    obtain ⟨others, last⟩ :=
      performAll_accepted rest (Node.kept_sound.perform c h)
    rw [Call.allAccepted, Visitor.performAll_append, ← after, ← last, ← first, ← others]
    exact ⟨rfl, rfl⟩

end

/-! ## §4 Builders inside a tree -/

/-- The whole tree, given the node that a builder appends to and the containers that are being
filled around it, innermost first, each with the node that it will belong to. -/
def tree : List (Tag × Node) → Node → Node
  | [], n => n
  | (t, outside) :: around, n => tree around (consumer.leave t outside n)

/-- `Obtained around n`: a builder for `n`, inside `around`, can be had from an open tree. It is
the builder of a reachable tree, or it is given for a container by a builder that has been had; and
calls have been made on it since. What calls do that enter a container and leave it again is part
of the node. -/
inductive Obtained : List (Tag × Node) → Node → Prop where
  | append {n : Node} (reachable : Reachable n) (isOpen : n.requireOpen .append = .ok ()) :
      Obtained [] n
  | enter {around : List (Tag × Node)} {n n' child : Node} {t : Tag} (h : Obtained around n)
      (entered : consumer.enter t n = .ok (some child) n') (calls : List Call) :
      Obtained ((t, n') :: around) (consumer.toVisitor.performAll calls child).2

namespace Obtained

variable {around : List (Tag × Node)} {n : Node}

theorem sound (h : Obtained around n) : n.Everywhere Node.Sound := by
  cases h with
  | append reachable _ => exact reachable.sound
  | enter _ entered calls =>
    obtain ⟨-, hchild, -⟩ := enter_cases entered
    cases hchild
    exact Node.kept_sound.performAll calls (Node.everywhere_empty.2 Node.sound_empty)

/-- Whatever calls are made next, the whole tree is one that arises from building, and is open. -/
theorem reachable_tree (h : Obtained around n) (calls : List Call) :
    Reachable (tree around (consumer.toVisitor.performAll calls n).2) ∧
      (tree around (consumer.toVisitor.performAll calls n).2).finished = false := by
  induction h generalizing calls with
  | @append n reachable isOpen =>
    have flag : n.finished = false := by
      cases hf : n.finished with
      | false => rfl
      | true =>
        rw [Node.requireOpen, hf] at isOpen
        cases isOpen
    have inside := Node.keptOpen_open.performAll calls (reachable.oneFlag.of_open flag)
    exact ⟨.perform calls reachable flag, inside _ (.self _)⟩
  | @enter around n n' child t _ entered before ih =>
    obtain ⟨-, hchild, rfl⟩ := enter_cases entered
    cases hchild
    -- seen from outside, all calls inside the container are one call
    have outside := ih [.container t (before ++ calls)]
    have one : (consumer.toVisitor.performAll [.container t (before ++ calls)] n').2 =
        consumer.leave t n' (consumer.toVisitor.performAll (before ++ calls) .empty).2 := by
      show (consumer.toVisitor.perform (.container t (before ++ calls)) n').2 = _
      have entered' : consumer.toVisitor.enter t n' = .ok (some .empty) n' := entered
      rw [Visitor.perform, entered']
      rfl
    rwa [one, Visitor.performAll_append] at outside

end Obtained

/-- A builder at any depth of an open tree takes exactly the elements whose own fields are in order,
and empty text; an element that it does not take leaves the whole tree as it was. Hence of any
calls in a row, with calls inside their containers, those succeed that are in order, and the others
might as well not have been made. -/
theorem calls_atomic {around : List (Tag × Node)} {n : Node} (h : Obtained around n) :
    (Reachable (tree around n) ∧ (tree around n).finished = false) ∧
    (∀ l, ((∃ n', consumer.leaf l n = .ok () n') ↔ l = .text "" ∨ l.check = .ok ()) ∧
      ∀ e n', consumer.leaf l n = .error e n' → tree around n' = tree around n) ∧
    (∀ t, ((∃ child n', consumer.enter t n = .ok (some child) n') ↔ t.check = .ok ()) ∧
      ∀ e n', consumer.enter t n = .error e n' → tree around n' = tree around n) ∧
    ∀ calls, let made := consumer.toVisitor.performAll calls n
      Call.allSucceeded calls made.1 = Call.allAccepted calls ∧
      tree around made.2 =
        tree around (consumer.toVisitor.performAll (Call.allAccepted calls) n).2 := by
  refine ⟨h.reachable_tree [], fun l => ?_, fun t => ?_, fun calls => ?_⟩
  · rcases leaf_cases (h.sound n (.self n)) l with ⟨accepted, n', taken⟩ | ⟨refused, e, failed⟩
    · rw [taken]
      exact ⟨⟨fun _ => accepted, fun _ => ⟨n', rfl⟩⟩, nofun⟩
    · rw [failed]
      refine ⟨⟨nofun, fun accepted => absurd accepted refused⟩, fun _ _ same => ?_⟩
      cases same
      rfl
  · rcases enter_eq t n with ⟨checked, entered⟩ | ⟨refused, e, failed⟩
    · rw [entered]
      exact ⟨⟨fun _ => checked, fun _ => ⟨_, _, rfl⟩⟩, nofun⟩
    · rw [failed]
      refine ⟨⟨nofun, fun checked => absurd checked refused⟩, fun _ _ same => ?_⟩
      cases same
      rfl
  · obtain ⟨outcomes, state⟩ := performAll_accepted calls h.sound
    exact ⟨outcomes, congrArg (tree around) state⟩

/-- A footnote that is being filled behind a text, while text is given to it. -/
theorem calls_atomic_footnote :
    let verse : Node := ⟨[], [.leaf (.text "the land ")], false⟩
    let note : Node := ⟨[], [.leaf (.text "Or ")], false⟩
    let calls : List Call := [.leaf (.text "\tsea"), .leaf (.text " earth"),
      .container (.css "<") [.leaf (.text "x")], .leaf .verseSeparator]
    Obtained [(.footnote, verse)] note ∧
      tree [(.footnote, verse)] (consumer.toVisitor.performAll calls note).2 =
        tree [(.footnote, verse)] (consumer.toVisitor.performAll
          [.leaf (.text " earth"), .leaf .verseSeparator] note).2 := by
  intro verse note calls
  have built : Reachable verse := .perform [.leaf (.text "the land ")] .empty rfl
  have entered : consumer.enter .footnote verse = .ok (some .empty) verse := rfl
  have obtained : Obtained [(.footnote, verse)] note :=
    .enter (.append built rfl) entered [.leaf (.text "Or ")]
  obtain ⟨-, -, -, run⟩ := calls_atomic obtained
  have kept : Call.allAccepted calls = [.leaf (.text " earth"), .leaf .verseSeparator] := rfl
  obtain ⟨-, state⟩ := run calls
  rw [kept] at state
  exact ⟨obtained, state⟩

end Builder

end ScriptureText
