/-
ScriptureText.Proofs.Dangling — which references a validator reports.

What validation adds to the list of dangling references can be said without a
validator: of the endpoints of all cross references in a tree, in document order
(`Node.endpoints`), those that the lookup does not find.

No step of a validator touches what was on the list before. A step that succeeds
adds all that its element gives, and one that fails a part of it from the front
on (`Adds`). Steps put together do the same (`Adds.bind`), so that it holds of a
whole reading, wherever in the tree that ends.
-/
import ScriptureText.Proofs.Validator

namespace ScriptureText

/-! ## §1 References of a tree -/

/-- The endpoints that a container itself has. -/
def Tag.endpoints : Tag → List DanglingReference
  | .crossReference p => p.endpoints
  | _ => []

mutual

/-- The endpoints of the cross references in a node, in document order. Content
that is not visited is left out. -/
def Node.endpoints : Node → List DanglingReference
  | ⟨hs, b, _⟩ => Headline.endpointsRun hs ++ Element.endpointsRun b

/-- The endpoints in a headline run. -/
def Headline.endpointsRun : List Headline → List DanglingReference
  | [] => []
  | ⟨_, c⟩ :: rest => c.endpoints ++ Headline.endpointsRun rest

/-- The endpoints in a body run; those of a container come before those in its
content. -/
def Element.endpointsRun : List Element → List DanglingReference
  | [] => []
  | .leaf _ :: rest => Element.endpointsRun rest
  | .container t c :: rest =>
    t.endpoints ++ (if t.isVisited then c.endpoints else []) ++ Element.endpointsRun rest

end

/-- The endpoints of an element. -/
def Element.endpoints : Element → List DanglingReference
  | .leaf _ => []
  | .container t c => t.endpoints ++ if t.isVisited then c.endpoints else []

theorem Element.endpointsRun_eq (es : List Element) :
    endpointsRun es = es.flatMap Element.endpoints := by
  induction es with
  | nil => rfl
  | cons e rest ih => cases e <;> simp [endpointsRun, endpoints, ih]

theorem Headline.endpointsRun_eq (hs : List Headline) :
    Headline.endpointsRun hs = (hs.map Headline.toElement).flatMap Element.endpoints := by
  induction hs with
  | nil => rfl
  | cons h rest ih =>
    obtain ⟨d, c⟩ := h
    simp [Headline.endpointsRun, ih, Element.endpoints, Headline.toElement, Tag.endpoints,
      Tag.isVisited]

/-- The endpoints in a node are those of its children. -/
theorem Node.endpoints_eq (n : Node) : n.endpoints = n.children.flatMap Element.endpoints := by
  obtain ⟨hs, b, f⟩ := n
  rw [endpoints, Headline.endpointsRun_eq, Element.endpointsRun_eq, children, List.flatMap_append]

theorem VerseLookup.missing_append (lookup : VerseLookup) (a b : List DanglingReference) :
    lookup.missing (a ++ b) = lookup.missing a ++ lookup.missing b := List.filter_append ..

/-! ## §2 Steps of a validator -/

namespace Validator

variable {α β : Type} {lookup : VerseLookup} {s : State}

/-- What a step does to the list of dangling references: `refs` are added if it
succeeds, and a part of them from the front on if it fails. -/
def Adds (refs : List DanglingReference) (s : State) : EStateM.Result Error State α → Prop
  | .ok _ s' => s'.dangling = s.dangling ++ refs
  | .error _ s' => ∃ part, part <+: refs ∧ s'.dangling = s.dangling ++ part

/-- A failure before some references are reached. -/
theorem Adds.append_of_error {e : Error} {s' : State} {a : List DanglingReference}
    (h : Adds a s (.error e s' : EStateM.Result Error State α)) (b : List DanglingReference) :
    Adds (a ++ b) s (.error e s' : EStateM.Result Error State β) := by
  obtain ⟨part, front, h⟩ := h
  exact ⟨part, front.trans (List.prefix_append a b), h⟩

/-- What is added to a list to which something was added before. -/
theorem Adds.of_added {m : State} {a b : List DanglingReference}
    (before : m.dangling = s.dangling ++ a) {r : EStateM.Result Error State α} (h : Adds b m r) :
    Adds (a ++ b) s r := by
  cases r with
  | ok _ s' =>
    show s'.dangling = _
    rw [h, before, List.append_assoc]
  | error e s' =>
    obtain ⟨part, front, h⟩ := h
    refine ⟨a ++ part, (List.prefix_append_right_inj a).2 front, ?_⟩
    rw [h, before, List.append_assoc]

/-- One step after another adds what the two add, in order. -/
theorem Adds.bind {x : Step α} {f : α → Step β} {a b : List DanglingReference}
    (first : Adds a s (x s)) (next : ∀ r s', Adds b s' (f r s')) :
    Adds (a ++ b) s ((x >>= f) s) := by
  rw [bind_apply]
  cases hx : x s with
  | error e s' =>
    rw [hx] at first
    exact first.append_of_error b
  | ok r s' =>
    rw [hx] at first
    exact .of_added first (next r s')

/-- No leaf gives a reference. -/
theorem onLeaf_adds (l : Leaf) : Adds [] s (onLeaf l s) := by
  cases l with
  | text t =>
    cases hs : Text.startsWithSpace t <;> cases ht : s.spaceTrails <;>
      cases hl : s.spaceMayLead <;> simp [onLeaf, onText, Adds, hs, ht, hl]
  | verseSeparator =>
    by_cases hc : s.context = .verse <;>
      simp [onLeaf, onVerseSeparator, Adds, State.afterInline, hc]
  | lineBreak k =>
    by_cases hc : Context.headline ≤ s.context ∧ s.context ≠ .footnote <;>
      cases ht : s.spaceTrails <;> simp [onLeaf, onLineBreak, Adds, hc, ht]
  | rawHtml mode raw => simp [onLeaf, Adds, State.afterInline]

/-- What a container does to the list before its content is read: its own
endpoints that are not found are added, and reading of the content, if it is
visited, starts with the list as it is then. -/
def AddsOwn (lookup : VerseLookup) (t : Tag) (s : State) :
    EStateM.Result Error State (Option State) → Prop
  | .ok child s' => child.isSome = t.isVisited ∧ (∀ c ∈ child, c.dangling = s'.dangling) ∧
      s'.dangling = s.dangling ++ lookup.missing t.endpoints
  | .error _ s' => ∃ part, part <+: lookup.missing t.endpoints ∧
      s'.dangling = s.dangling ++ part

theorem onTag_adds (t : Tag) : AddsOwn lookup t s (onTag lookup t s) := by
  have none : lookup.missing [] = [] := rfl
  cases t with
  | headline d =>
    rw [onTag, onHeadline_apply]
    split_ifs <;> simp [AddsOwn, Tag.isVisited, Tag.endpoints, State.fresh, none]
  | footnote =>
    by_cases hc : Context.footnote ≤ s.context <;>
      simp [onTag, onFootnote, AddsOwn, Tag.isVisited, Tag.endpoints,
        State.afterInline, State.fresh, hc, none]
  | crossReference p =>
    by_cases hc : Context.crossReference ≤ s.context
    · simp [onTag, onCrossReference, AddsOwn, hc]
    · by_cases hf : s.context < .footnote
      · simp [onTag, onCrossReference, AddsOwn, hc, hf]
      · rw [onTag, onCrossReference_apply lookup p s hc hf]
        cases endsBeforeStart lookup p <;>
          simp [AddsOwn, Tag.isVisited, Tag.endpoints, State.fresh]
  | extra x =>
    cases hx : x.priority <;>
      simp [onTag, onExtra, AddsOwn, Tag.isVisited, Tag.endpoints,
        State.afterInline, State.fresh, hx, none]
  | _ =>
    simp [onTag, AddsOwn, Tag.isVisited, Tag.endpoints, State.afterInline,
      State.fresh, none]

/-- The end of a node gives no reference. -/
theorem onFinish_adds : Adds [] s (onFinish s) := by
  cases ht : s.spaceTrails <;> cases he : s.isEmpty <;> simp [onFinish, Adds, ht, he]

/-! ## §3 Readings -/

/-- One element, where the content of a container adds what it should. -/
theorem feedElement_adds {e : Element}
    (content : ∀ t c, e = .container t c → ∀ s,
      Adds (lookup.missing c.endpoints) s (c.feed (consumer lookup) s)) :
    Adds (lookup.missing e.endpoints) s (e.feed (consumer lookup) s) := by
  cases e with
  | leaf l =>
    rw [Element.feed_leaf]
    exact onLeaf_adds l
  | container t c =>
    have entry : AddsOwn lookup t s ((consumer lookup).enter t s) := onTag_adds t
    rw [Element.feed_container, Element.endpoints, lookup.missing_append, Consumer.within]
    rcases h : (consumer lookup).enter t s with ⟨_ | child, m⟩ | ⟨e, m⟩
    · rw [h] at entry
      obtain ⟨closed, -, added⟩ := entry
      rw [← closed]
      exact .of_added added (List.append_nil _).symm
    · rw [h] at entry
      obtain ⟨visited, same, added⟩ := entry
      have inside := content t c rfl child
      rw [← visited]
      -- the list is handed to the reading of the content and taken back from it
      have handed : child.dangling = s.dangling ++ lookup.missing t.endpoints :=
        (same child rfl).trans added
      have taken := Adds.of_added handed inside
      dsimp only
      cases hr : c.feed (consumer lookup) child with
      | ok _ r =>
        rw [hr] at taken
        exact taken
      | error e r =>
        rw [hr] at taken
        exact taken
    · rw [h] at entry
      have added : Adds (lookup.missing t.endpoints) s
          (.error e m : EStateM.Result Error State Unit) := entry
      exact added.append_of_error _

/-- A run of elements. -/
theorem feedRun_adds {es : List Element}
    (contents : ∀ t c, .container t c ∈ es → ∀ s,
      Adds (lookup.missing c.endpoints) s (c.feed (consumer lookup) s)) :
    Adds (lookup.missing (es.flatMap Element.endpoints)) s
      (Element.feedRun (consumer lookup) es s) := by
  induction es generalizing s with
  | nil => exact (List.append_nil _).symm
  | cons e rest ih =>
    rw [Element.feedRun_cons, List.flatMap_cons, lookup.missing_append]
    refine Adds.bind (feedElement_adds fun t c he => ?_) fun _ _ => ?_
    · exact contents t c (by rw [he]; exact List.mem_cons_self)
    · exact ih fun t c mem => contents t c (List.mem_cons_of_mem e mem)

/-- A whole node, read in any state. -/
theorem feed_adds (n : Node) :
    Adds (lookup.missing n.endpoints) s (n.feed (consumer lookup) s) := by
  induction n using Node.childrenInduction generalizing s with
  | step n ih =>
    rw [Node.feed_eq_children _ rfl, Node.endpoints_eq, ← List.append_nil (lookup.missing _)]
    exact (feedRun_adds fun t c mem s => ih t c mem).bind fun _ _ => onFinish_adds

end Validator

/-! ## §4 Reports -/

open Validator

/-- What validation of a finished tree comes to is read off the state in which the reading ends. -/
theorem Node.validateIn_of_finished {n : Node} (finished : n.finished = true)
    (lookup : VerseLookup) (ctx : Context) (dangling : List DanglingReference) :
    n.validateIn lookup ctx dangling =
      match n.feed (consumer lookup) (.fresh ctx dangling) with
      | .ok _ s => (.ok (), s.dangling)
      | .error e s => (.error e, s.dangling) := by
  rw [validateIn, requireFinished, finished]
  rfl

/-- What was reported before stays in front. -/
theorem Node.dangling_prefix_validateIn (n : Node) (lookup : VerseLookup) (ctx : Context)
    (dangling : List DanglingReference) : dangling <+: (n.validateIn lookup ctx dangling).2 := by
  cases hf : n.finished with
  | false =>
    rw [validateIn, requireFinished, hf]
    exact List.prefix_refl _
  | true =>
    have added : Adds (lookup.missing n.endpoints) (.fresh ctx dangling)
      (n.feed (consumer lookup) (.fresh ctx dangling)) := feed_adds n
    rw [validateIn_of_finished hf]
    generalize n.feed (consumer lookup) _ = r at added
    cases r with
    | ok _ s => exact ⟨_, added.symm⟩
    | error e s =>
      obtain ⟨part, -, added⟩ := added
      exact ⟨part, added.symm⟩

/-- A finished tree that passes has all endpoints reported that are not found, in any context. -/
theorem Node.validateIn_of_ok {n : Node} (finished : n.finished = true) {lookup : VerseLookup}
    {ctx : Context} {dangling : List DanglingReference}
    (passes : (n.validateIn lookup ctx dangling).1 = .ok ()) :
    n.validateIn lookup ctx dangling = (.ok (), dangling ++ lookup.missing n.endpoints) := by
  have added : Adds (lookup.missing n.endpoints) (.fresh ctx dangling)
    (n.feed (consumer lookup) (.fresh ctx dangling)) := feed_adds n
  rw [validateIn_of_finished finished] at passes ⊢
  cases h : n.feed (consumer lookup) (.fresh ctx dangling) with
  | ok _ s =>
    rw [h] at added
    exact congrArg (Prod.mk _) added
  | error e s =>
    rw [h] at passes
    cases passes

/-- What validation adds to a list of references are endpoints of visited cross
references that are not found, in document order and each for itself: all of
them if the tree passes, and a part of them from the front on if it fails. An
open tree adds nothing. -/
theorem Node.validateIn_reports (n : Node) (lookup : VerseLookup) (ctx : Context)
    (dangling : List DanglingReference) :
    ((n.validateIn lookup ctx dangling).1 = .ok () →
      (n.validateIn lookup ctx dangling).2 = dangling ++ lookup.missing n.endpoints) ∧
    (∃ part, part <+: lookup.missing n.endpoints ∧
      (n.validateIn lookup ctx dangling).2 = dangling ++ part) ∧
    (n.finished = false → (n.validateIn lookup ctx dangling).2 = dangling) := by
  rw [validateIn, requireFinished]
  cases n.finished with
  | false =>
    refine ⟨?_, ⟨[], List.nil_prefix, (List.append_nil _).symm⟩, fun _ => rfl⟩
    intro passes
    cases passes
  | true =>
    have added : Adds (lookup.missing n.endpoints) (.fresh ctx dangling)
      (n.feed (consumer lookup) (.fresh ctx dangling)) := feed_adds n
    rw [if_pos rfl]
    dsimp only
    cases h : n.feed (consumer lookup) (.fresh ctx dangling) with
    | ok _ s =>
      rw [h] at added
      refine ⟨fun _ => added, ⟨_, List.prefix_refl _, added⟩, ?_⟩
      intro isOpen
      cases isOpen
    | error e s =>
      rw [h] at added
      refine ⟨?_, added, ?_⟩
      · intro passes
        cases passes
      · intro isOpen
        cases isOpen

/-- A passage of one verse that is not found is reported for both of its
endpoints, behind what was reported before; and so it is in a tree that fails
behind it, where a later passage is not. -/
theorem Node.validateIn_reports_footnote :
    let verse (v : String) : Node :=
      ⟨[], [.container (.crossReference ⟨"Joh", .john, 3, v, 3, v⟩)
        ⟨[], [.leaf (.text "John 3")], true⟩], true⟩
    let passes : Node := ⟨[], [.leaf (.text "life"), .container .footnote (verse "16")], true⟩
    let fails : Node := ⟨[], [.container .footnote (verse "16"), .leaf .verseSeparator,
      .container .footnote (verse "17")], true⟩
    let earlier : DanglingReference := ⟨"Gen", .genesis, 1, "1"⟩
    let missing : DanglingReference := ⟨"Joh", .john, 3, "16"⟩
    (passes.validateIn Bible.empty.verseIndex .normalText [earlier]).2 =
        [earlier, missing, missing] ∧
      (∃ part, part <+: [missing, missing, ⟨"Joh", .john, 3, "17"⟩, ⟨"Joh", .john, 3, "17"⟩] ∧
        (fails.validateIn Bible.empty.verseIndex .normalText [earlier]).2 = earlier :: part) ∧
      (Node.empty.validateIn Bible.empty.verseIndex .normalText [earlier]).2 = [earlier] := by
  intro verse passes fails earlier missing
  exact ⟨(passes.validateIn_reports Bible.empty.verseIndex .normalText [earlier]).1 rfl,
    (fails.validateIn_reports Bible.empty.verseIndex .normalText [earlier]).2.1,
    (Node.empty.validateIn_reports Bible.empty.verseIndex .normalText [earlier]).2.2 rfl⟩

end ScriptureText
