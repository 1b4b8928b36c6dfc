/-
ScriptureText.Proofs.RangeOrder — what the Bible in use has to do with the
verdict.

Two validators read the same tree, and one of them finds every verse that the
other finds (`VerseLookup.Extends`). They go in step: whatever is read, their
states are the same but for the list of dangling references, where the first has
a part of what the second has (`InStep`). No step looks at that list, and only a
cross reference looks anything up. There the first validator may stop because
both endpoints are found and in the wrong order; apart from that each step has
the same outcome for both, and they are in step again (`Lockstep`). Steps put
together do the same, so that it holds of whole trees (`feed_lockstep`).

A Bible in which nothing is found is the least in this order, and it never gives
endpoints in the wrong order.
-/
import ScriptureText.Proofs.Dangling

namespace ScriptureText

/-! ## §1 Lookups -/

/-- A lookup that finds all that another finds, at the same places. -/
def VerseLookup.Extends (more less : VerseLookup) : Prop :=
  ∀ abbreviation book chapter verse i, less abbreviation book chapter verse = some i →
    more abbreviation book chapter verse = some i

/-- A lookup that finds no verse at all. -/
def VerseLookup.FindsNothing (lookup : VerseLookup) : Prop :=
  ∀ abbreviation book chapter verse, lookup abbreviation book chapter verse = none

theorem VerseLookup.FindsNothing.extended {nothing : VerseLookup} (h : nothing.FindsNothing)
    (lookup : VerseLookup) : lookup.Extends nothing := by
  intro abbreviation book chapter verse i found
  rw [h] at found
  cases found

/-- Endpoints that are not found are not in the wrong order. -/
theorem VerseLookup.FindsNothing.endsBeforeStart {nothing : VerseLookup} (h : nothing.FindsNothing)
    (p : Passage) : Validator.endsBeforeStart nothing p = false := by
  simp [Validator.endsBeforeStart, h p.abbreviation]

namespace VerseLookup.Extends

variable {more less : VerseLookup}

/-- What is not found by the one is not found by the other. -/
theorem missing (h : more.Extends less) (refs : List DanglingReference) :
    (more.missing refs).Sublist (less.missing refs) := by
  refine List.monotone_filter_right refs fun r none => ?_
  rw [Option.isNone_iff_eq_none] at none ⊢
  cases found : less r.abbreviation r.book r.chapter r.verse with
  | none => rfl
  | some i =>
    rw [h _ _ _ _ _ found] at none
    cases none

theorem endsBeforeStart (h : more.Extends less) {p : Passage}
    (order : Validator.endsBeforeStart less p = true) : Validator.endsBeforeStart more p = true := by
  unfold Validator.endsBeforeStart at order
  split at order
  · rename_i i j first last
    rw [Validator.endsBeforeStart, h _ _ _ _ _ first, h _ _ _ _ _ last]
    exact order
  · cases order

end VerseLookup.Extends

namespace Validator

/-! ## §2 Two validators in step -/

/-- The same state but for the references so far, of which the first has a part of those of the
second, in the same order. -/
def InStep (s t : State) : Prop :=
  t = { s with dangling := t.dangling } ∧ s.dangling.Sublist t.dangling

/-- Of the content of a container only the references found in it are kept. -/
theorem InStep.leave {s t inside inside' : State} (outside : InStep s t)
    (left : InStep inside inside') :
    InStep { s with dangling := inside.dangling } { t with dangling := inside'.dangling } := by
  obtain ⟨same, -⟩ := outside
  rw [same]
  exact ⟨rfl, left.2⟩

/-- What comes of a step for two validators: the same, so that they are in step after it, unless
the first stops for endpoints in the wrong order. Nothing is said of the second then. -/
inductive Lockstep {α β : Type} (R : α → β → Prop) :
    EStateM.Result Error State α → EStateM.Result Error State β → Prop where
  | ok {a : α} {b : β} {s t : State} (value : R a b) (state : InStep s t) :
      Lockstep R (.ok a s) (.ok b t)
  | error {s t : State} (e : Error) (state : InStep s t) : Lockstep R (.error e s) (.error e t)
  | rangeOrder (s : State) (r : EStateM.Result Error State β) :
      Lockstep R (.error (.structural .crossReferenceRangeOrder) s) r

section Lockstep

variable {α β : Type} {R : α → β → Prop} {more less : VerseLookup} {s t : State}

@[simp] theorem lockstep_ok {a : α} {b : β} :
    Lockstep R (.ok a s) (.ok b t) ↔ R a b ∧ InStep s t := by
  constructor
  · rintro ⟨value, state⟩
    exact ⟨value, state⟩
  · rintro ⟨value, state⟩
    exact .ok value state

@[simp] theorem lockstep_violated {v : Violation} :
    Lockstep R (.error (.structural v) s) (.error (.structural v) t) ↔
      InStep s t ∨ v = .crossReferenceRangeOrder := by
  constructor
  · intro h
    cases h with
    | error _ state => exact .inl state
    | rangeOrder => exact .inr rfl
  · rintro (state | rfl)
    · exact .error _ state
    · exact .rangeOrder _ _

/-- One step after another. -/
theorem Lockstep.bind {x y : Step Unit} {f g : Unit → Step Unit}
    (first : Lockstep Eq (x s) (y t))
    (next : ∀ s t, InStep s t → Lockstep Eq (f () s) (g () t)) :
    Lockstep Eq ((x >>= f) s) ((y >>= g) t) := by
  rw [bind_apply, bind_apply]
  generalize x s = r, y t = r' at first
  cases first with
  | ok _ state => exact next _ _ state
  | error e state => exact .error e state
  | rangeOrder s _ => exact .rangeOrder s _

/-! ## §3 Steps -/

theorem onLeaf_lockstep (l : Leaf) (h : InStep s t) : Lockstep Eq (onLeaf l s) (onLeaf l t) := by
  obtain ⟨same, fewer⟩ := h
  rw [same]
  cases l with
  | text x =>
    cases hs : Text.startsWithSpace x <;> cases ht : s.spaceTrails <;>
      cases hl : s.spaceMayLead <;> simp [onLeaf, onText, InStep, hs, ht, hl, fewer]
  | verseSeparator =>
    by_cases hc : s.context = .verse <;>
      simp [onLeaf, onVerseSeparator, InStep, State.afterInline, hc, fewer]
  | lineBreak k =>
    by_cases hc : Context.headline ≤ s.context ∧ s.context ≠ .footnote <;>
      cases ht : s.spaceTrails <;> simp [onLeaf, onLineBreak, InStep, hc, ht, fewer]
  | rawHtml mode raw => simp [onLeaf, InStep, State.afterInline, fewer]

theorem onFinish_lockstep (h : InStep s t) : Lockstep Eq (onFinish s) (onFinish t) := by
  obtain ⟨same, fewer⟩ := h
  rw [same]
  cases ht : s.spaceTrails <;> cases he : s.isEmpty <;>
    simp [onFinish, InStep, ht, he, fewer]

theorem onCrossReference_lockstep (h : more.Extends less) (p : Passage) (state : InStep s t) :
    Lockstep (Option.Rel InStep) (onCrossReference more p s) (onCrossReference less p t) := by
  obtain ⟨same, fewer⟩ := state
  rw [same]
  by_cases hc : Context.crossReference ≤ s.context
  · simp [onCrossReference, InStep, hc, fewer]
  by_cases hf : s.context < .footnote
  · simp [onCrossReference, InStep, hc, hf, fewer]
  -- both look up the endpoints, and the first may now stop
  rw [onCrossReference_apply more p s hc hf,
    onCrossReference_apply less p { s with dangling := t.dangling } hc hf]
  cases order : endsBeforeStart more p with
  | true => exact .rangeOrder _ _
  | false =>
    have orderToo : endsBeforeStart less p = false :=
      Bool.eq_false_iff.2 fun wrong => by simp [h.endsBeforeStart wrong] at order
    have reported := fewer.append (h.missing p.endpoints)
    simp [InStep, State.fresh, State.afterInline, orderToo, reported]

theorem onTag_lockstep (h : more.Extends less) (tag : Tag) (state : InStep s t) :
    Lockstep (Option.Rel InStep) (onTag more tag s) (onTag less tag t) := by
  obtain ⟨same, fewer⟩ := state
  rw [same]
  cases tag with
  | crossReference p => exact onCrossReference_lockstep h p ⟨rfl, fewer⟩
  | headline d =>
    rw [onTag, onTag, onHeadline_apply, onHeadline_apply]
    split_ifs <;> simp [InStep, State.fresh, fewer]
  | footnote =>
    by_cases hc : Context.footnote ≤ s.context <;>
      simp [onTag, onFootnote, InStep, State.afterInline, State.fresh, hc, fewer]
  | extra x =>
    cases hx : x.priority <;>
      simp [onTag, onExtra, InStep, State.afterInline, State.fresh, hx, fewer]
  | _ => simp [onTag, InStep, State.afterInline, State.fresh, fewer]

/-! ## §4 Readings -/

/-- A container, whose content the validators read in step if they do not pass it over. -/
theorem within_lockstep (h : more.Extends less) {tag : Tag} {x y : Step Unit}
    (content : ∀ s t, InStep s t → Lockstep Eq (x s) (y t)) (state : InStep s t) :
    Lockstep Eq ((consumer more).within tag x s) ((consumer less).within tag y t) := by
  have entry : Lockstep (Option.Rel InStep) ((consumer more).enter tag s)
    ((consumer less).enter tag t) := onTag_lockstep h tag state
  rw [Consumer.within, Consumer.within]
  generalize (consumer more).enter tag s = r, (consumer less).enter tag t = r' at entry
  cases entry with
  | error e state => exact .error e state
  | rangeOrder s _ => exact .rangeOrder s _
  | @ok child child' s t children state =>
    cases children with
    | none => exact .ok rfl state
    | @some child child' inside =>
      -- the lists go into the content, and come back from it
      have read := content child child' inside
      dsimp only
      generalize x child = r, y child' = r' at read
      cases read with
      | ok _ left => exact .ok rfl (state.leave left)
      | error e left => exact .error e (state.leave left)
      | rangeOrder s _ => exact .rangeOrder _ _

/-- A run of elements. -/
theorem feedRun_lockstep (h : more.Extends less) {es : List Element}
    (contents : ∀ tag c, .container tag c ∈ es → ∀ s t, InStep s t →
      Lockstep Eq (c.feed (consumer more) s) (c.feed (consumer less) t)) (state : InStep s t) :
    Lockstep Eq (Element.feedRun (consumer more) es s) (Element.feedRun (consumer less) es t) := by
  induction es generalizing s t with
  | nil => exact .ok rfl state
  | cons e rest ih =>
    rw [Element.feedRun_cons, Element.feedRun_cons]
    refine .bind ?_ fun _ _ => ih fun tag c mem => contents tag c (List.mem_cons_of_mem e mem)
    cases e with
    | leaf l =>
      rw [Element.feed_leaf, Element.feed_leaf]
      exact onLeaf_lockstep l state
    | container tag c =>
      rw [Element.feed_container, Element.feed_container]
      exact within_lockstep h (contents tag c List.mem_cons_self) state

/-- A whole tree. -/
theorem feed_lockstep (h : more.Extends less) (n : Node) (state : InStep s t) :
    Lockstep Eq (n.feed (consumer more) s) (n.feed (consumer less) t) := by
  induction n using Node.childrenInduction generalizing s t with
  | step n ih =>
    rw [Node.feed_eq_children _ rfl, Node.feed_eq_children _ rfl]
    exact .bind (feedRun_lockstep h (fun tag c mem s t => ih tag c mem) state)
      fun _ _ => onFinish_lockstep

end Lockstep

/-- Endpoints in the wrong order have to be found. -/
theorem endsBeforeStart_of_fault? {lookup : VerseLookup} {ctx : Context} {before : List Element}
    {e : Element} (fault : fault? lookup ctx before e = some .crossReferenceRangeOrder) :
    ∃ p, endsBeforeStart lookup p = true := by
  cases e with
  | leaf l =>
    cases l with
    | rawHtml mode raw => cases fault
    | _ =>
      simp only [fault?] at fault
      split_ifs at fault <;> cases fault
  | container tag c =>
    cases tag with
    | crossReference p =>
      refine ⟨p, ?_⟩
      rw [← Bool.not_eq_false]
      intro order
      simp only [fault?, order, Bool.false_eq_true, if_false] at fault
      split_ifs at fault <;> cases fault
    | headline d =>
      simp only [fault?] at fault
      split_ifs at fault <;> cases fault
    | footnote =>
      simp only [fault?] at fault
      split_ifs at fault
      cases fault
    | _ => cases fault

end Validator

open Validator

/-! ## §5 Verdicts -/

/-- With a Bible in which more is found the verdict is the same, and what is reported is a part of
what was, unless endpoints are now found to be in the wrong order. -/
theorem Node.validateIn_of_extends {more less : VerseLookup} (h : more.Extends less) {n : Node}
    (finished : n.finished = true) (ctx : Context) (dangling : List DanglingReference) :
    ((n.validateIn more ctx dangling).1 = (n.validateIn less ctx dangling).1 ∧
      (n.validateIn more ctx dangling).2.Sublist (n.validateIn less ctx dangling).2) ∨
    (n.validateIn more ctx dangling).1 = .error (.structural .crossReferenceRangeOrder) := by
  have start : InStep (.fresh ctx dangling) (.fresh ctx dangling) := ⟨rfl, .refl _⟩
  have read := feed_lockstep h n start
  rw [validateIn_of_finished finished, validateIn_of_finished finished]
  generalize n.feed (consumer more) _ = r, n.feed (consumer less) _ = r' at read
  cases read with
  | ok _ state => exact .inl ⟨rfl, state.2⟩
  | error e state => exact .inl ⟨rfl, state.2⟩
  | rangeOrder s _ => exact .inr rfl

/-- Where nothing is found, validation does not fail for the order of endpoints. -/
theorem Node.validateIn_ne_rangeOrder {nothing : VerseLookup} (h : nothing.FindsNothing) {n : Node}
    (finished : n.finished = true) (ctx : Context) (dangling : List DanglingReference) :
    (n.validateIn nothing ctx dangling).1 ≠ .error (.structural .crossReferenceRangeOrder) := by
  intro failed
  obtain ⟨d, m, -, broken⟩ := faulty_of_validateIn finished failed
  cases broken with
  | child _ fault =>
    obtain ⟨p, order⟩ := endsBeforeStart_of_fault? fault
    rw [h.endsBeforeStart p] at order
    cases order
  | last fault =>
    unfold endFault? at fault
    split_ifs at fault <;> cases fault

/-- Against a Bible in which nothing is found, validation of a finished tree does not fail for the
order of endpoints. Against any other the verdict is the same, unless it is that endpoints are in
the wrong order; and where it is the same, what is reported is reported also where nothing is
found, in the same order. -/
theorem Node.validateIn_against_nothing {n : Node} (finished : n.finished = true)
    (lookup : VerseLookup) {nothing : VerseLookup} (h : nothing.FindsNothing) (ctx : Context)
    (dangling : List DanglingReference) :
    (n.validateIn nothing ctx dangling).1 ≠ .error (.structural .crossReferenceRangeOrder) ∧
    ((n.validateIn lookup ctx dangling).1 = (n.validateIn nothing ctx dangling).1 ∨
      (n.validateIn lookup ctx dangling).1 = .error (.structural .crossReferenceRangeOrder)) ∧
    ((n.validateIn lookup ctx dangling).1 = (n.validateIn nothing ctx dangling).1 →
      ∃ found all, (n.validateIn lookup ctx dangling).2 = dangling ++ found ∧
        (n.validateIn nothing ctx dangling).2 = dangling ++ all ∧ found.Sublist all) := by
  have inOrder := validateIn_ne_rangeOrder h finished ctx dangling
  have outcome := validateIn_of_extends (h.extended lookup) finished ctx dangling
  refine ⟨inOrder, outcome.imp_left And.left, fun same => ?_⟩
  obtain ⟨found, hfound⟩ := n.dangling_prefix_validateIn lookup ctx dangling
  obtain ⟨all, hall⟩ := n.dangling_prefix_validateIn nothing ctx dangling
  refine ⟨found, all, hfound.symm, hall.symm, ?_⟩
  rcases outcome with ⟨-, reported⟩ | wrong
  · rw [← hfound, ← hall] at reported
    exact (List.append_sublist_append_left dangling).1 reported
  · exact absurd (same.symm.trans wrong) inOrder

/-- Of two passages in a note one is not in the Bible in use, and is reported against any. The other
is in it, and is rejected if its endpoints are in the wrong order, which passes where it is not
found. -/
theorem Node.validateIn_against_nothing_footnote :
    let bible : Bible := ⟨[⟨"Joh", .john, [⟨["1", "2", "3"]⟩]⟩]⟩
    let reference (p : Passage) : Element :=
      .container (.crossReference p) ⟨[], [.leaf (.text "See")], true⟩
    let verse (first last : String) : Node := ⟨[], [.leaf (.text "life"), .container .footnote
      ⟨[], [reference ⟨"Gen", .genesis, 1, "1", 1, "3"⟩,
        reference ⟨"Joh", .john, 1, first, 1, last⟩], true⟩], true⟩
    let rejected : Except Error Unit := .error (.structural .crossReferenceRangeOrder)
    (((verse "3" "1").validateIn bible.verseIndex .normalText []).1 = rejected ∧
      ((verse "3" "1").validateIn Bible.empty.verseIndex .normalText []).1 ≠ rejected) ∧
    ∃ found all, (verse "1" "3").validateIn bible.verseIndex .normalText [] = (.ok (), found) ∧
      (verse "1" "3").validateIn Bible.empty.verseIndex .normalText [] = (.ok (), all) ∧
      found.Sublist all := by
  intro bible reference verse rejected
  have nothing : VerseLookup.FindsNothing Bible.empty.verseIndex := fun _ _ _ _ => rfl
  constructor
  · exact ⟨rfl, (validateIn_against_nothing (n := verse "3" "1") rfl bible.verseIndex nothing
      .normalText []).1⟩
  · obtain ⟨found, all, hfound, hall, reported⟩ := (validateIn_against_nothing (n := verse "1" "3")
      rfl bible.verseIndex nothing .normalText []).2.2 rfl
    exact ⟨found, all, Prod.ext rfl hfound, Prod.ext rfl hall, reported⟩

end ScriptureText
