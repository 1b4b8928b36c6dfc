/-
ScriptureText.Proofs.CanonicalCalls — a traversal of what a builder has built
makes the calls that the builder was given, in canonical form.

Calls that fail leave no trace, and neither does empty text. Texts that follow
each other are one text in the tree, so that a traversal offers them as one; and
everything else comes back as it went in (`Call.canonicalRun`).

The proof is about `Builder.Fills`, which says what the calls that succeed do to
a node, one case for each kind of step. That a builder does nothing else is
shown once (`Builder.performAll_fills`). What a traversal offers, which
headlines are in the headline run, and which calls filled which inner node are
then inductions over the steps.
-/
import Mathlib.Data.List.Forall2
import ScriptureText.Proofs.Reachable
import ScriptureText.Proofs.Transcript

namespace ScriptureText

/-! ## §1 Calls in canonical form -/

namespace Call

mutual

/-- A call without the calls inside it that failed, and nothing if it failed itself. -/
def succeeded {ε : Type} : Call → Outcome ε → List Call
  | .leaf l, .done => [.leaf l]
  | .container t content, .content outcomes => [.container t (allSucceeded content outcomes)]
  | _, _ => []

/-- The elements among calls that succeeded, given what came of each call. -/
def allSucceeded {ε : Type} : List Call → List (Outcome ε) → List Call
  | c :: rest, o :: outcomes => succeeded c o ++ allSucceeded rest outcomes
  | _, _ => []

end

/-- The call for a text, if there is any. -/
def ofText (s : String) : List Call := if s = "" then [] else [.leaf (.text s)]

mutual

/-- A call with the calls inside it in canonical form. -/
def canonical : Call → Call
  | .container t content => .container t (canonicalRun "" content)
  | c => c

/-- Calls in canonical form after the text `merged`: adjacent texts become one, and empty text
goes. -/
def canonicalRun (merged : String) : List Call → List Call
  | [] => ofText merged
  | .leaf (.text s) :: rest => canonicalRun (Text.merge merged s) rest
  | c :: rest => ofText merged ++ c.canonical :: canonicalRun "" rest

end

/-- Whether a call offers a headline. -/
def isHeadline : Call → Bool
  | .container (.headline _) _ => true
  | _ => false

/-- Whether a call offers empty text. -/
def isEmptyText : Call → Bool
  | .leaf (.text s) => s.isEmpty
  | _ => false

/-- The headlines before the first call that is neither a headline nor empty text. -/
def leadingHeadlines (cs : List Call) : List Call :=
  (cs.takeWhile fun c => c.isHeadline || c.isEmptyText).filter isHeadline

/-- A call for a container, as its tag and the calls inside. -/
def container? : Call → Option (Tag × List Call)
  | .container t content => some (t, content)
  | _ => none

/-- The containers among calls, in order. -/
def containers (cs : List Call) : List (Tag × List Call) := cs.filterMap container?

@[simp] theorem ofText_empty : ofText "" = [] := rfl

theorem ofText_of_ne {s : String} (h : s ≠ "") : ofText s = [.leaf (.text s)] := if_neg h

theorem canonicalRun_text (merged s : String) (rest : List Call) :
    canonicalRun merged (.leaf (.text s) :: rest) = canonicalRun (Text.merge merged s) rest := by
  rw [canonicalRun]

theorem canonicalRun_leaf {l : Leaf} (h : l.text? = none) (merged : String) (rest : List Call) :
    canonicalRun merged (.leaf l :: rest) =
      ofText merged ++ .leaf l :: canonicalRun "" rest := by
  cases l with
  | text s => cases h
  | _ => rw [canonicalRun, canonical] <;> simp

theorem canonicalRun_container (merged : String) (t : Tag) (content rest : List Call) :
    canonicalRun merged (.container t content :: rest) =
      ofText merged ++ .container t (canonicalRun "" content) :: canonicalRun "" rest := by
  rw [canonicalRun, canonical]
  simp

end Call

/-! ## §2 What calls do to a node -/

namespace Builder

/-- `Fills n made n'`: calls that succeed, `made`, lead from the node `n` to `n'`. -/
inductive Fills : Node → List Call → Node → Prop where
  | done (n : Node) : Fills n [] n
  | emptyText {n n' : Node} {made : List Call} (rest : Fills n made n') :
      Fills n (.leaf (.text "") :: made) n'
  | merged {n n' : Node} {made : List Call} {before : List Element} {previous s : String}
      (last : n.body = before ++ [.leaf (.text previous)])
      (rest : Fills { n with body := before ++ [.leaf (.text (Text.merge previous s))] } made n') :
      Fills n (.leaf (.text s) :: made) n'
  | leaf {n n' : Node} {made : List Call} {l : Leaf} (checked : l.check = .ok ())
      (apart : ∀ e ∈ n.body.getLast?, Element.NotBothText e (.leaf l))
      (rest : Fills (n.push (.leaf l)) made n') : Fills n (.leaf l :: made) n'
  | container {n n' c : Node} {made content : List Call} {t : Tag} (inside : Fills .empty content c)
      (rest : Fills (n.addContainer t c) made n') : Fills n (.container t content :: made) n'

mutual

/-- One call: what succeeds of it comes before what later calls do. -/
theorem perform_fills : ∀ (call : Call) {n n' : Node} {made : List Call},
    Fills (consumer.toVisitor.perform call n).2 made n' →
    Fills n (call.succeeded (consumer.toVisitor.perform call n).1 ++ made) n'
  | .leaf l, n, n', made, h => by
    have step : consumer.toVisitor.perform (.leaf l) n =
        Visitor.outcome (consumer.leaf l) (fun _ => .done) n := rfl
    rw [step, Visitor.outcome] at h ⊢
    cases hl : n.addLeaf l with
    | error e =>
      simp only [consumer, hl] at h ⊢
      exact h
    | ok m =>
      simp only [consumer, hl] at h ⊢
      show Fills n (.leaf l :: made) n'
      rcases Node.addLeaf_cases hl with ⟨rfl, rfl⟩ | ⟨s, before, previous, rfl, -, hb, -, rfl⟩ |
        ⟨checked, apart, rfl⟩
      · exact .emptyText h
      · exact .merged hb h
      · exact .leaf checked apart h
  | .start, _, _, _, h => h
  | .finish, _, _, _, h => h
  | .elementTypes _, _, _, _, h => h
  | .container t content, n, n', made, h => by
    rw [Visitor.perform] at h ⊢
    cases he : consumer.toVisitor.enter t n with
    | error e m =>
      obtain rfl : m = n := enter_error he
      rw [he] at h
      exact h
    | ok r m =>
      obtain ⟨-, rfl, rfl⟩ := enter_cases he
      rw [he] at h
      exact .container (performAll_fills content .empty) h

/-- Calls in a row, whether or not they fail. -/
theorem performAll_fills : ∀ (calls : List Call) (n : Node),
    Fills n (Call.allSucceeded calls (consumer.toVisitor.performAll calls n).1)
      (consumer.toVisitor.performAll calls n).2
  | [], n => .done n
  | call :: rest, _ => perform_fills call (performAll_fills rest _)

end

end Builder

/-! ## §3 What a traversal offers -/

namespace Node

/-- A node ends in the text `merged`, if that is not empty, and in no text otherwise; `before` are
the calls for what comes before it. -/
structure Ends (n : Node) (before : List Call) (merged : String) : Prop where
  calls : n.calls = before ++ Call.ofText merged
  last : ∀ s, n.body.getLast? = some (.leaf (.text s)) ↔ s = merged ∧ s ≠ ""

theorem ends_empty : Node.empty.Ends [] "" :=
  ⟨calls_eq _, fun s => by simp [Node.empty]⟩

theorem calls_push (n : Node) (e : Element) : (n.push e).calls = n.calls ++ [e.call] := by
  rw [calls_eq, calls_eq, children_push, List.map_append]
  rfl

theorem Ends.of_text {n : Node} {before : List Call} {read : List Element} {s : String}
    (hne : s ≠ "") (body : n.body = read ++ [.leaf (.text s)])
    (calls : n.calls = before ++ [.leaf (.text s)]) : n.Ends before s := by
  refine ⟨by rw [calls, Call.ofText_of_ne hne], fun s' => ?_⟩
  rw [body, List.getLast?_concat, Option.some.injEq, Element.leaf.injEq, Leaf.text.injEq]
  exact ⟨fun heq => ⟨heq.symm, heq ▸ hne⟩, fun both => both.1.symm⟩

theorem Ends.of_not_text {n : Node} {before : List Call}
    (last : ∀ e ∈ n.body.getLast?, e.isText = false) (calls : n.calls = before) :
    n.Ends before "" := by
  refine ⟨by rw [calls, Call.ofText_empty, List.append_nil], fun s => iff_of_false (fun h => ?_) ?_⟩
  · have := last _ h
    cases this
  · rintro ⟨rfl, hne⟩
    exact hne rfl

/-- Text that is merged into the text at the end. -/
theorem Ends.merge {n : Node} {before : List Call} {merged previous s : String}
    {read : List Element} (h : n.Ends before merged)
    (last : n.body = read ++ [.leaf (.text previous)]) :
    Node.Ends { n with body := read ++ [.leaf (.text (Text.merge previous s))] } before
      (Text.merge merged s) := by
  obtain ⟨rfl, hne⟩ := (h.last previous).1 (by simp [last])
  refine .of_text (Text.merge_ne_empty hne s) rfl ?_
  have own := h.calls
  rw [calls_eq, children, last, Call.ofText_of_ne hne, ← List.append_assoc, List.map_append] at own
  have same := List.append_inj_left' own rfl
  rw [calls_eq, children, ← List.append_assoc, List.map_append, same]
  rfl

/-- Text that starts behind something else. -/
theorem Ends.pushText {n : Node} {before : List Call} {merged s : String} (h : n.Ends before merged)
    (hne : s ≠ "") (apart : ∀ e ∈ n.body.getLast?, Element.NotBothText e (.leaf (.text s))) :
    merged = "" ∧ (n.push (.leaf (.text s))).Ends before s := by
  have none : merged = "" := by
    by_contra some
    exact apart _ ((h.last merged).2 ⟨rfl, some⟩) ⟨rfl, rfl⟩
  subst none
  refine ⟨rfl, .of_text hne rfl ?_⟩
  rw [calls_push, h.calls, Call.ofText_empty, List.append_nil]
  rfl

/-- Anything else that joins the body. -/
theorem Ends.push {n : Node} {before : List Call} {merged : String} {e : Element}
    (h : n.Ends before merged) (he : e.isText = false) :
    (n.push e).Ends (before ++ Call.ofText merged ++ [e.call]) "" := by
  refine .of_not_text (fun x hx => ?_) (by rw [calls_push, h.calls])
  rw [Node.push, List.getLast?_concat] at hx
  cases hx
  exact he

/-- A container, whichever run it joins. -/
theorem Ends.addContainer {n : Node} {before : List Call} {merged : String} (h : n.Ends before merged)
    (t : Tag) (c : Node) : (n.addContainer t c).Ends
      (before ++ Call.ofText merged ++ [.container t c.calls]) "" := by
  rcases addContainer_cases n t c with ⟨d, rfl, hb, heq⟩ | ⟨-, heq⟩
  · refine .of_not_text (fun e he => ?_) ?_
    · rw [heq, hb] at he
      cases he
    · rw [calls_eq, children_addContainer, List.map_append, ← calls_eq, h.calls]
      rfl
  · rw [heq]
    exact h.push rfl

end Node

/-- What a traversal offers after calls that succeed: what it offered before, up to the text at the
end, and then the calls. -/
theorem Builder.Fills.calls {n n' : Node} {made : List Call} (h : Fills n made n')
    {before : List Call} {merged : String} (ends : n.Ends before merged) :
    n'.calls = before ++ Call.canonicalRun merged made := by
  induction h generalizing before merged with
  | done n => rw [ends.calls, Call.canonicalRun]
  | emptyText _ ih => rw [ih ends, Call.canonicalRun_text, Text.merge_empty]
  | merged last _ ih => rw [ih (ends.merge last), Call.canonicalRun_text]
  | @leaf n n' made l checked apart _ ih =>
    cases hl : l.text? with
    | some s =>
      obtain rfl : l = .text s := by
        cases l with
        | text => exact congrArg _ (Option.some.inj hl)
        | _ => cases hl
      obtain ⟨rfl, ends'⟩ := ends.pushText (Text.ne_empty_of_check checked) apart
      rw [ih ends', Call.canonicalRun_text, Text.empty_merge]
    | none =>
      have he : (Element.leaf l).isText = false := congrArg Option.isSome hl
      rw [ih (ends.push he), Call.canonicalRun_leaf hl, List.append_assoc, List.append_assoc]
      rfl
  | container _ _ ihInside ih =>
    rw [ih (ends.addContainer _ _), ihInside Node.ends_empty, Call.canonicalRun_container,
      List.append_assoc, List.append_assoc]
    rfl

/-! ## §4 Headlines -/

namespace Call

theorem leadingHeadlines_headline {d : Nat} {content rest : List Call} :
    leadingHeadlines (.container (.headline d) content :: rest) =
      .container (.headline d) content :: leadingHeadlines rest := rfl

theorem leadingHeadlines_emptyText {rest : List Call} :
    leadingHeadlines (.leaf (.text "") :: rest) = leadingHeadlines rest := rfl

theorem leadingHeadlines_of_not {c : Call} (headline : c.isHeadline = false)
    (empty : c.isEmptyText = false) (rest : List Call) : leadingHeadlines (c :: rest) = [] := by
  simp [leadingHeadlines, headline, empty]

end Call

/-- Headlines join the headline run until something joins the body. -/
theorem Builder.Fills.headlines {n n' : Node} {made : List Call} (h : Fills n made n') :
    n'.headlines.map (·.toElement.call) = n.headlines.map (·.toElement.call) ++
      (if n.body = [] then Call.leadingHeadlines made else []).map Call.canonical := by
  induction h with
  | done n => simp [Call.leadingHeadlines]
  | emptyText _ ih => rw [ih, Call.leadingHeadlines_emptyText]
  | merged last _ ih => simp [ih, last]
  | @leaf n n' made l checked _ _ ih =>
    have filled : (Call.leaf l).isEmptyText = false := by
      cases l with
      | text s => simpa [Call.isEmptyText] using Text.ne_empty_of_check checked
      | _ => rfl
    simp [ih, Node.push, Call.leadingHeadlines_of_not rfl filled]
  | @container n n' c made content t inside _ _ ih =>
    have same : c.calls = Call.canonicalRun "" content := inside.calls Node.ends_empty
    rcases Node.addContainer_cases n t c with ⟨d, rfl, hb, heq⟩ | ⟨headline, heq⟩
    · rw [ih, heq, if_pos hb, if_pos hb, Call.leadingHeadlines_headline]
      simp [Call.canonical, Element.call, Headline.toElement, same]
    · have none : n.body = [] → Call.leadingHeadlines (.container t content :: made) = [] := by
        intro hb
        refine Call.leadingHeadlines_of_not ?_ rfl made
        have := headline hb
        cases t with
        | headline d => cases this
        | _ => rfl
      rw [ih, heq]
      simpa [Node.push] using none

/-! ## §5 The nodes inside -/

/-- A container, as its tag and its content. -/
def Element.container? : Element → Option (Tag × Node)
  | .leaf _ => none
  | .container t c => some (t, c)

/-- The containers among the children, in order. -/
def Node.containers (n : Node) : List (Tag × Node) := n.children.filterMap Element.container?

/-- The nodes inside a node, each with the calls that stand in its place: the calls inside the
first container belong to the node in the first container, and so on. -/
inductive SamePlace (n : Node) (made : List Call) : Node → List Call → Prop where
  | root : SamePlace n made n made
  | inside {m c : Node} {cs content : List Call} {t : Tag} (h : SamePlace n made m cs)
      (pair : ((t, c), (t, content)) ∈ m.containers.zip (Call.containers cs)) :
      SamePlace n made c content

theorem SamePlace.trans {n c m : Node} {made content cs : List Call} (h : SamePlace c content m cs)
    (outer : SamePlace n made c content) : SamePlace n made m cs := by
  induction h with
  | root => exact outer
  | inside _ pair ih => exact .inside ih pair

theorem Node.mem_containers {n c : Node} {t : Tag} :
    (t, c) ∈ n.containers ↔ .container t c ∈ n.children := by
  rw [containers, List.mem_filterMap]
  constructor
  · rintro ⟨e, mem, he⟩
    cases e with
    | leaf l => cases he
    | container => cases he; exact mem
  · exact fun mem => ⟨_, mem, rfl⟩

theorem Node.containers_addContainer (n : Node) (t : Tag) (c : Node) :
    (n.addContainer t c).containers = n.containers ++ [(t, c)] := by
  rw [containers, children_addContainer, List.filterMap_append]
  rfl

namespace Builder

/-- A container and a call for it, where the calls inside filled the container. -/
def Filled (child : Tag × Node) (call : Tag × List Call) : Prop :=
  child.1 = call.1 ∧ Fills .empty call.2 child.2

/-- Calls add one container for each container among them, and the calls inside fill it. -/
theorem Fills.containers {n n' : Node} {made : List Call} (h : Fills n made n') :
    ∃ added, n'.containers = n.containers ++ added ∧
      List.Forall₂ Filled added (Call.containers made) := by
  induction h with
  | done n => exact ⟨[], by simp, .nil⟩
  | emptyText _ ih => exact ih
  | @merged n _ _ before previous s last _ ih =>
    obtain ⟨added, heq, filled⟩ := ih
    refine ⟨added, ?_, filled⟩
    rw [heq]
    simp only [Node.containers, Node.children, last, List.filterMap_append]
    rfl
  | @leaf n _ _ l _ _ _ ih =>
    obtain ⟨added, heq, filled⟩ := ih
    refine ⟨added, ?_, filled⟩
    rw [heq]
    simp [Node.containers, Node.children_push, Element.container?]
  | @container n _ c _ content t inside _ _ ih =>
    obtain ⟨added, heq, filled⟩ := ih
    refine ⟨(t, c) :: added, ?_, .cons ⟨rfl, inside⟩ filled⟩
    rw [heq, Node.containers_addContainer, List.append_assoc]
    rfl

/-- The containers of a node that calls have filled are those among the calls. -/
theorem Fills.forall₂_containers {n : Node} {made : List Call} (h : Fills .empty made n) :
    List.Forall₂ Filled n.containers (Call.containers made) := by
  obtain ⟨added, heq, filled⟩ := h.containers
  rwa [heq]

/-- What stands in the place of a node filled it. -/
theorem Fills.inner {n m : Node} {made cs : List Call} (h : Fills .empty made n)
    (place : SamePlace n made m cs) : Fills .empty cs m := by
  induction place with
  | root => exact h
  | inside _ pair ih => exact ((List.forall₂_iff_zip.1 ih.forall₂_containers).2 pair).2

/-- Every node inside has calls in its place. -/
theorem Fills.exists_samePlace {n m : Node} (within : m.Within n) {made : List Call}
    (h : Fills .empty made n) : ∃ cs, SamePlace n made m cs := by
  induction within generalizing made with
  | self => exact ⟨made, .root⟩
  | @inside n c t mem _ ih =>
    obtain ⟨same, filled⟩ := List.forall₂_iff_zip.1 h.forall₂_containers
    have child : (t, c) ∈ (n.containers.zip (Call.containers made)).map Prod.fst := by
      rw [List.map_fst_zip same.le]
      exact Node.mem_containers.2 mem
    obtain ⟨⟨_, t', content⟩, pair, rfl⟩ := List.mem_map.1 child
    obtain ⟨rfl, inside⟩ := filled pair
    obtain ⟨cs, place⟩ := ih inside
    exact ⟨cs, place.trans (.inside .root pair)⟩

end Builder

/-! ## §6 Building and traversing -/

/-- Calls made on a builder for a fresh node, whether or not they fail: the
traversal of what was built offers those that succeeded, in canonical form; and
the headline run of every node in it consists of the headlines before the first
call in the node's place that is neither a headline nor empty text. -/
theorem built_calls_canonical (calls : List Call) :
    let built := Builder.consumer.toVisitor.performAll calls .empty
    let made := Call.allSucceeded calls built.1
    (∀ limit, built.2.accept Transcript.consumer.toVisitor (limit + 1) [] =
      some (.ok () (Call.canonicalRun "" made))) ∧
    (∀ m, m.Within built.2 → ∃ cs, SamePlace built.2 made m cs) ∧
    ∀ m cs, SamePlace built.2 made m cs →
      m.headlines.map (·.toElement.call) = (Call.leadingHeadlines cs).map Call.canonical := by
  intro built made
  have fills : Builder.Fills .empty made built.2 := Builder.performAll_fills calls .empty
  refine ⟨fun limit => ?_, fun m within => fills.exists_samePlace within, fun m cs place => ?_⟩
  · rw [Node.accept_transcript, fills.calls Node.ends_empty, List.nil_append]
  · rw [(fills.inner place).headlines]
    rfl

/-- A headline that is refused does not keep the texts around it apart; of the spaces where they
meet one is dropped. -/
example :
    let calls := [.leaf (.text "a "), .container (.headline 0) [.leaf (.text "b")],
      .leaf (.text " c"), .leaf .verseSeparator]
    (Builder.consumer.toVisitor.performAll calls .empty).2.calls =
      [.leaf (.text "a c"), .leaf .verseSeparator] := by rfl

end ScriptureText
