/-
ScriptureText.Proofs.StricterContexts — what passes in a strict context passes
in a less strict one.

Contexts are ordered by how much they forbid, and footnotes are the exception:
they allow cross references, which nothing else does, and line breaks, which
headlines do not. One context can therefore stand in for another only if it is
no stricter and, in place of a footnote, a footnote itself (`Context.Relaxes`).

That is kept on the way down into a tree. A headline, footnote or cross
reference puts the same or the stricter of two contexts in place of each, and
other containers leave both as they are (`Relaxes.inner?`). The nodes that are
visited are thus the same from either context, each in a context that stands in
for the other (`Visited.relax`), and where one element passes in the stricter of
two such contexts it passes in the other (`Relaxes.fault?_eq_none`). What is
reported depends on no context.
-/
import ScriptureText.Proofs.Dangling
import ScriptureText.Proofs.StructuralRules

namespace ScriptureText

open Validator

/-! ## §1 Contexts that stand in for others -/

/-- A context that allows all that another does: it is no stricter, and what stands in for a
footnote is a footnote. -/
structure Context.Relaxes (c d : Context) : Prop where
  le : c ≤ d
  footnote : d = .footnote → c = .footnote

namespace Context

instance (c d : Context) : Decidable (c.Relaxes d) :=
  decidable_of_iff (c ≤ d ∧ (d = .footnote → c = .footnote))
    ⟨fun h => ⟨h.1, h.2⟩, fun h => ⟨h.le, h.footnote⟩⟩

variable {c d : Context}

/-- A headline, a footnote or a cross reference may be put in the place of both contexts, where it
is the stricter one. -/
theorem Relaxes.max (h : c.Relaxes d) {k : Context} (hk : Context.headline ≤ k) :
    (max c k).Relaxes (max d k) := by
  revert h hk
  cases c <;> cases d <;> cases k <;> decide

theorem Relaxes.verse (h : c.Relaxes d) (hd : d = .verse) : c = .verse := by
  revert h hd
  cases c <;> cases d <;> decide

theorem Relaxes.lineBreaks (h : c.Relaxes d)
    (hd : d = .verse ∨ d = .normalText ∨ d = .footnote) :
    c = .verse ∨ c = .normalText ∨ c = .footnote := by
  revert h hd
  cases c <;> cases d <;> decide

/-- The contexts that a container makes of two contexts are related as those are. -/
theorem Relaxes.inner? (h : c.Relaxes d) {t : Tag} {c' : Context} (entered : t.inner? c = some c') :
    ∃ d', t.inner? d = some d' ∧ c'.Relaxes d' := by
  cases t with
  | headline depth =>
    cases entered
    exact ⟨_, rfl, h.max (by decide)⟩
  | footnote =>
    cases entered
    exact ⟨_, rfl, h.max (by decide)⟩
  | crossReference p =>
    cases entered
    exact ⟨_, rfl, h.max (by decide)⟩
  | extra x =>
    rw [Tag.inner?] at entered
    split_ifs at entered with kept
    cases entered
    exact ⟨d, if_pos kept, h⟩
  | _ =>
    cases entered
    exact ⟨d, rfl, h⟩

/-- An element that breaks no rule in a context breaks none in one that stands in for it. -/
theorem Relaxes.fault?_eq_none (h : c.Relaxes d) {lookup : VerseLookup} {before : List Element}
    {e : Element} (clean : fault? lookup d before e = none) : fault? lookup c before e = none := by
  have below {k : Context} (hd : d < k) : c < k := Nat.lt_of_le_of_lt h.le hd
  rcases e with (s | _ | k | _) | ⟨t, content⟩
  · exact clean
  · have hd : d = .verse := by simpa [fault?] using clean
    simpa [fault?] using h.verse hd
  · obtain ⟨space, hd⟩ := fault?_lineBreak_eq_none.1 clean
    exact fault?_lineBreak_eq_none.2 ⟨space, h.lineBreaks hd⟩
  · rfl
  · cases t with
    | headline depth =>
      obtain ⟨hd, rest⟩ := fault?_headline_eq_none.1 clean
      exact fault?_headline_eq_none.2 ⟨below hd, rest⟩
    | footnote => exact fault?_footnote_eq_none.2 (below (fault?_footnote_eq_none.1 clean))
    | crossReference p =>
      obtain ⟨hd, order⟩ := fault?_crossReference_eq_none.1 clean
      exact fault?_crossReference_eq_none.2 ⟨h.footnote hd, order⟩
    | _ => rfl

end Context

/-! ## §2 Trees -/

variable {c d : Context}

/-- The same nodes are visited from a context that stands in for another. -/
theorem Visited.relax {c' : Context} {n m : Node} (visited : Visited c n c' m)
    (h : c.Relaxes d) : ∃ d', Visited d n d' m ∧ c'.Relaxes d' := by
  induction visited generalizing d with
  | root c n => exact ⟨d, .root d n, h⟩
  | inside mem entered _ ih =>
    obtain ⟨inner, entered', hinner⟩ := h.inner? entered
    obtain ⟨d', visited', hd⟩ := ih hinner
    exact ⟨d', .inside mem entered' visited', hd⟩

/-- A tree in which no rule is broken in a context has none broken in one that stands in for it. -/
theorem Context.Relaxes.not_faulty (h : c.Relaxes d) {lookup : VerseLookup} {n : Node}
    (clean : ∀ v, ¬ Faulty lookup d n v) (v : Violation) : ¬ Faulty lookup c n v := by
  rintro ⟨c', m, visited, broken⟩
  obtain ⟨d', visited', h'⟩ := visited.relax h
  obtain ⟨places, last⟩ := not_breaks_iff.1 fun v broken => clean v ⟨d', m, visited', broken⟩
  refine not_breaks_iff.2 ⟨fun before e after split => ?_, last⟩ v broken
  exact h'.fault?_eq_none (places before e after split)

/-- A tree that passes validation in a context other than a footnote passes it in every context
that is no stricter, and the same references are reported. -/
theorem Node.validateIn_of_stricter {n : Node} (finished : n.finished = true) {c d : Context}
    (order : c ≤ d) (notFootnote : d ≠ .footnote) (lookup : VerseLookup)
    (dangling : List DanglingReference) (passes : (n.validateIn lookup d dangling).1 = .ok ()) :
    ∃ found, n.validateIn lookup d dangling = (.ok (), dangling ++ found) ∧
      n.validateIn lookup c dangling = (.ok (), dangling ++ found) := by
  have relaxes : c.Relaxes d := ⟨order, fun hd => absurd hd notFootnote⟩
  have clean := (validateIn_eq_ok_iff finished).1 passes
  have passesToo : (n.validateIn lookup c dangling).1 = .ok () :=
    (validateIn_eq_ok_iff finished).2 (relaxes.not_faulty clean)
  exact ⟨lookup.missing n.endpoints, validateIn_of_ok finished passes,
    validateIn_of_ok finished passesToo⟩

/-- The content of a cross reference that passes as such passes everywhere, and that of a headline
as normal text and as a verse. -/
theorem Node.validateIn_of_stricter_headline :
    let reference : Node := ⟨[], [.leaf (.text "John "),
      .container (.format .italic) ⟨[], [.leaf (.text "3:16")], true⟩], true⟩
    let headline : Node := ⟨[], [.leaf (.text "The Light"), .container .footnote
      ⟨[], [.container (.crossReference ⟨"Joh", .john, 1, "4", 1, "9"⟩) reference], true⟩], true⟩
    let missing (verse : String) : DanglingReference := ⟨"Joh", .john, 1, verse⟩
    (∀ ctx, (reference.validateIn Bible.empty.verseIndex ctx []).1 = .ok ()) ∧
      ∀ ctx ∈ [Context.verse, .normalText], headline.validateIn Bible.empty.verseIndex ctx [] =
        (.ok (), [missing "4", missing "9"]) := by
  intro reference headline missing
  constructor
  · intro ctx
    have order : ctx ≤ .crossReference := by cases ctx <;> decide
    obtain ⟨found, -, passes⟩ := validateIn_of_stricter (n := reference) rfl order (by decide)
      Bible.empty.verseIndex [] rfl
    rw [passes]
  · intro ctx mem
    have order : ctx ≤ .headline := by
      revert ctx
      decide
    obtain ⟨found, strict, loose⟩ := validateIn_of_stricter (n := headline) rfl order (by decide)
      Bible.empty.verseIndex [] rfl
    -- what is reported is read off the stricter context
    rw [loose, ← strict]
    rfl

/-- Footnotes are an exception: the content of one may pass as such and not as normal text. -/
example :
    let note : Node := ⟨[], [.container (.crossReference ⟨"Joh", .john, 3, "16", 3, "16"⟩)
      ⟨[], [.leaf (.text "John 3")], true⟩], true⟩
    (note.validateIn Bible.empty.verseIndex .footnote []).1 = .ok () ∧
      (note.validateIn Bible.empty.verseIndex .normalText []).1 =
        .error (.structural .crossReferenceOutsideFootnote) := ⟨rfl, rfl⟩

end ScriptureText
