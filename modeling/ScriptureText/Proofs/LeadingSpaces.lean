/-
ScriptureText.Proofs.LeadingSpaces — where a space that starts a text is
rejected for leading.

A validator remembers whether a line has started, and a text does not start one.
That goes unnoticed as long as texts stand apart: what comes before a text is
then no text, and a space is rejected where nothing of its line comes before it
(`LineStarts`). An attribute to be skipped keeps two texts apart without being
seen. Behind it a text that goes on in the line of another is rejected for a
leading space all the same, unless something else has started the line
(`TextGoesOn`).

`leading_whitespace_places` shows that there are no other places, and that at
these validation fails.
-/
import ScriptureText.Proofs.TrimmedValidation

namespace ScriptureText

/-! ## §1 Places -/

/-- Behind these elements of a node a line starts: there are none, or the last is a line break or
a headline, where attributes to be skipped do not count. -/
def LineStarts (before : List Element) : Prop :=
  ∀ e ∈ (unskipped before).getLast?, e.isBlockBoundary = true

instance (before : List Element) : Decidable (LineStarts before) :=
  inferInstanceAs (Decidable (∀ e ∈ (unskipped before).getLast?, e.isBlockBoundary = true))

/-- Behind these elements of a node the line of a text goes on: attributes to be skipped come last,
and before them a text that does not end with a space. Before that there is nothing in the line
but texts and attributes to be skipped. -/
inductive TextGoesOn (before : List Element) : Prop where
  | behind {earlier skipped : List Element} {t : String}
      (split : before = earlier ++ .leaf (.text t) :: skipped)
      (noSpace : Text.endsWithSpace t = false) (some : skipped ≠ [])
      (all : ∀ e ∈ skipped, e.isSkipped = true)
      (onlyTexts : ∀ x ∈ ((unskipped earlier).filter (!·.isText)).getLast?,
        x.isBlockBoundary = true)

namespace Validator

variable {lookup : VerseLookup} {ctx : Context} {before after : List Element}

theorem lineStarted_eq_false {es : List Element} : lineStarted es = false ↔
    ∀ x ∈ ((unskipped es).filter (!·.isText)).getLast?, x.isBlockBoundary = true := by
  simp [lineStarted, Option.any_eq_false]

/-- What is said of a text that starts with a space. -/
theorem fault?_of_startsWithSpace {e : Element} (h : e.startsWithSpace = true) :
    fault? lookup ctx before e =
      if spaceRead before then some .whitespaceAdjacentToWhitespace
      else if lineStarted before then none else some .leadingWhitespace := by
  obtain ⟨s, rfl, hs⟩ := Element.startsWithSpace_iff.1 h
  simp only [fault?, if_pos hs]

/-- Nothing is rejected for the space that it starts with unless it starts with one. -/
theorem startsWithSpace_of_fault? {e : Element} {v : Violation}
    (fault : fault? lookup ctx before e = some v)
    (h : v = .whitespaceAdjacentToWhitespace ∨ v = .leadingWhitespace) :
    e.startsWithSpace = true := by
  rcases e with (s | _ | k | _) | ⟨t, c⟩
  · simp only [fault?] at fault
    split_ifs at fault with hs
    all_goals exact hs
  · simp only [fault?] at fault
    split_ifs at fault
    cases fault
    simp at h
  · simp only [fault?] at fault
    split_ifs at fault <;> cases fault <;> simp at h
  · cases fault
  · cases t with
    | headline d =>
      simp only [fault?] at fault
      split_ifs at fault <;> cases fault <;> simp at h
    | footnote =>
      simp only [fault?] at fault
      split_ifs at fault
      cases fault
      simp at h
    | crossReference p =>
      simp only [fault?] at fault
      split_ifs at fault <;> cases fault <;> simp at h
    | _ => cases fault

/-- An element is rejected for a leading space if it is a text that starts with one, no space was
read before, and no line has started. -/
theorem fault?_eq_leadingWhitespace {e : Element} :
    fault? lookup ctx before e = some .leadingWhitespace ↔
      e.startsWithSpace = true ∧ spaceRead before = false ∧ lineStarted before = false := by
  constructor
  · intro fault
    have starts := startsWithSpace_of_fault? fault (.inr rfl)
    rw [fault?_of_startsWithSpace starts] at fault
    split_ifs at fault with hr hl
    · cases fault
    · exact ⟨starts, Bool.eq_false_iff.2 hr, Bool.eq_false_iff.2 hl⟩
  · rintro ⟨starts, hr, hl⟩
    simp [fault?_of_startsWithSpace starts, hr, hl]

/-- Only such a text breaks the rule on leading spaces at a node. -/
theorem breaks_leadingWhitespace_iff {n : Node} : Breaks lookup ctx n .leadingWhitespace ↔
    ∃ before s after, n.children = before ++ .leaf (.text s) :: after ∧
      Text.startsWithSpace s = true ∧ spaceRead before = false ∧ lineStarted before = false := by
  constructor
  · intro broken
    cases broken with
    | child split fault =>
      obtain ⟨space, place⟩ := fault?_eq_leadingWhitespace.1 fault
      obtain ⟨s, rfl, hs⟩ := Element.startsWithSpace_iff.1 space
      exact ⟨_, s, _, split, hs, place⟩
    | last fault =>
      unfold endFault? at fault
      split_ifs at fault <;> cases fault
  · rintro ⟨before, s, after, split, space, place⟩
    exact .child split (fault?_eq_leadingWhitespace.2 ⟨space, place⟩)

/-! ## §2 What a validator remembers of a place -/

/-- Elements are followed up to the last that is not to be skipped. -/
theorem eq_nil_or_last (es : List Element) :
    unskipped es = [] ∨ ∃ earlier x skipped, es = earlier ++ x :: skipped ∧ x.isSkipped = false ∧
      ∀ e ∈ skipped, e.isSkipped = true := by
  cases hlast : (unskipped es).getLast? with
  | none => exact .inl (List.getLast?_eq_none_iff.1 hlast)
  | some x =>
    obtain ⟨read, hread⟩ := List.getLast?_eq_some_iff.1 hlast
    obtain ⟨earlier, skipped, split, hx, -, none⟩ := exists_split hread
    exact .inr ⟨earlier, x, skipped, split, hx, Node.unskipped_eq_nil.1 none⟩

variable {earlier skipped : List Element} {x : Element}

theorem unskipped_behind (hx : x.isSkipped = false) (all : ∀ e ∈ skipped, e.isSkipped = true) :
    unskipped (earlier ++ x :: skipped) = unskipped (earlier ++ [x]) := by
  rw [unskipped_append, unskipped_cons hx, Node.unskipped_eq_nil.2 all, unskipped_concat hx]

theorem lineStarts_behind (hx : x.isSkipped = false) (all : ∀ e ∈ skipped, e.isSkipped = true) :
    LineStarts (earlier ++ x :: skipped) ↔ x.isBlockBoundary = true := by
  rw [LineStarts, unskipped_behind hx all, unskipped_concat hx, List.getLast?_concat]
  simp

theorem spaceRead_behind (hx : x.isSkipped = false) (all : ∀ e ∈ skipped, e.isSkipped = true) :
    spaceRead (earlier ++ x :: skipped) = x.endsWithSpace := by
  rw [spaceRead, unskipped_behind hx all]
  exact spaceRead_concat hx

theorem lineStarted_behind (hx : x.isSkipped = false) (all : ∀ e ∈ skipped, e.isSkipped = true) :
    lineStarted (earlier ++ x :: skipped) = lineStarted (earlier ++ [x]) := by
  rw [lineStarted, unskipped_behind hx all, lineStarted]

/-- Where a line starts, no line has started and no space was read. -/
theorem LineStarts.place (h : LineStarts before) :
    spaceRead before = false ∧ lineStarted before = false := by
  rcases eq_nil_or_last before with none | ⟨earlier, x, skipped, rfl, hx, all⟩
  · simp [spaceRead, lineStarted, none]
  · have boundary := (lineStarts_behind hx all).1 h
    have ht : x.isText = false := by
      rcases Normalization.text_or_not x with ⟨s, rfl⟩ | ht
      · cases boundary
      · exact ht
    rw [spaceRead_behind hx all, lineStarted_behind hx all, lineStarted_concat hx ht, boundary]
    exact ⟨Element.endsWithSpace_of_not ht, rfl⟩

/-- Where the line of a text goes on, neither. -/
theorem TextGoesOn.place (h : TextGoesOn before) :
    spaceRead before = false ∧ lineStarted before = false := by
  obtain ⟨rfl, noSpace, -, all, onlyTexts⟩ := h
  rw [spaceRead_behind rfl all, lineStarted_behind rfl all, lineStarted_concat_text]
  exact ⟨noSpace, lineStarted_eq_false.2 onlyTexts⟩

/-- There are no other such places before a text, provided that texts stand apart. -/
theorem place_cases {n : Node} {s : String} (apart : n.TextsApart)
    (split : n.children = before ++ .leaf (.text s) :: after) (noSpace : spaceRead before = false)
    (notStarted : lineStarted before = false) : LineStarts before ∨ TextGoesOn before := by
  rcases eq_nil_or_last before with none | ⟨earlier, x, skipped, rfl, hx, all⟩
  · -- nothing is seen before the text
    left
    simp [LineStarts, none]
  rw [spaceRead_behind hx all] at noSpace
  rw [lineStarted_behind hx all] at notStarted
  rcases Normalization.text_or_not x with ⟨t, rfl⟩ | ht
  · rw [lineStarted_concat_text, lineStarted_eq_false] at notStarted
    refine .inr (.behind rfl noSpace ?_ all notStarted)
    -- two texts would stand next to each other
    rintro rfl
    have chain := apart.children
    rw [split] at chain
    cases Node.previous_not_text chain
  · rw [lineStarted_concat hx ht] at notStarted
    exact .inl ((lineStarts_behind hx all).2 (by simpa using notStarted))

end Validator

open Validator

/-! ## §3 Trees -/

/-- Validation of a finished tree fails for a leading space only if at some node that is visited a
text starts with a space where a line starts, or where the line of a text goes on. Where such a
text is visited it fails, for the space or for another rule that is broken. -/
theorem leading_whitespace_places {n : Node} (reachable : Reachable n)
    (finished : n.finished = true) (lookup : VerseLookup) (ctx : Context)
    (dangling : List DanglingReference) :
    ((n.validateIn lookup ctx dangling).1 = .error (.structural .leadingWhitespace) →
      ∃ d m before s after, Visited ctx n d m ∧ m.children = before ++ .leaf (.text s) :: after ∧
        Text.startsWithSpace s = true ∧ (LineStarts before ∨ TextGoesOn before)) ∧
    ∀ d m before s after, Visited ctx n d m → m.children = before ++ .leaf (.text s) :: after →
      Text.startsWithSpace s = true → LineStarts before ∨ TextGoesOn before →
      ∃ v, (n.validateIn lookup ctx dangling).1 = .error (.structural v) ∧
        Faulty lookup ctx n v := by
  have outcome := Node.validateIn_cases finished lookup ctx dangling
  constructor
  · intro failed
    rcases outcome with ⟨-, passes⟩ | ⟨v, ⟨d, m, visited, broken⟩, fails⟩
    · rw [passes] at failed
      cases failed
    · rw [fails] at failed
      cases failed
      obtain ⟨before, s, after, split, space, noSpace, notStarted⟩ :=
        breaks_leadingWhitespace_iff.1 broken
      have apart := (reachable.sound m visited.within).apart
      exact ⟨d, m, before, s, after, visited, split, space,
        place_cases apart split noSpace notStarted⟩
  · intro d m before s after visited split space place
    have broken : Breaks lookup d m .leadingWhitespace :=
      breaks_leadingWhitespace_iff.2 ⟨before, s, after, split, space,
        place.elim LineStarts.place TextGoesOn.place⟩
    rcases outcome with ⟨clean, -⟩ | ⟨v, faulty, fails⟩
    · exact absurd ⟨d, m, visited, broken⟩ (clean _)
    · exact ⟨v, fails, faulty⟩

/-- A space behind a line break is rejected, so that such a place is visited. -/
theorem leading_whitespace_places_line :
    let n : Node := ⟨[], [.leaf (.text "life"), .leaf (.lineBreak .newline),
      .leaf (.text " was")], true⟩
    (n.validateIn Bible.empty.verseIndex .normalText []).1 =
        .error (.structural .leadingWhitespace) ∧
      ∃ d m before s after, Visited .normalText n d m ∧
        m.children = before ++ .leaf (.text s) :: after ∧
        Text.startsWithSpace s = true ∧ (LineStarts before ∨ TextGoesOn before) := by
  intro n
  have built : Reachable n := .finish (.perform [.leaf (.text "life"),
    .leaf (.lineBreak .newline), .leaf (.text " was")] .empty rfl) rfl
  have fails : (n.validateIn Bible.empty.verseIndex .normalText []).1 =
      .error (.structural .leadingWhitespace) := rfl
  exact ⟨fails, (leading_whitespace_places built rfl Bible.empty.verseIndex .normalText []).1 fails⟩

/-- A text is rejected for a leading space although it goes on in the line of another, which an
attribute to be skipped keeps apart from it: nowhere is there a space where a line starts. -/
theorem text_behind_skip_rejected :
    let n : Node := ⟨[], [.leaf (.text "a"),
      .container (.extra ⟨.skip, "osis", "k", "v"⟩) ⟨[], [], true⟩, .leaf (.text " b")], true⟩
    Reachable n ∧
      (n.validateIn Bible.empty.verseIndex .normalText []).1 =
        .error (.structural .leadingWhitespace) ∧
      ∀ d m before s after, Visited .normalText n d m →
        m.children = before ++ .leaf (.text s) :: after → Text.startsWithSpace s = true →
        ¬ LineStarts before := by
  intro n
  have built : Reachable n := .finish (.perform [.leaf (.text "a"),
    .container (.extra ⟨.skip, "osis", "k", "v"⟩) [], .leaf (.text " b")] .empty rfl) rfl
  refine ⟨built, rfl, ?_⟩
  intro d m before s after visited split space
  have whole : m = n := by
    cases visited with
    | root => rfl
    | inside mem entered =>
      -- the content of the attribute is not visited
      have hidden : ∀ t c, Element.container t c ∈ n.children → t.inner? .normalText = none := by
        simp [n, Node.children, Tag.inner?]
      rw [hidden _ _ mem] at entered
      cases entered
  subst whole
  rcases before with _ | ⟨x, _ | ⟨y, _ | ⟨z, rest⟩⟩⟩
  · cases split
    exact absurd space (by decide)
  · cases split
  · cases split
    decide
  · have := congrArg List.length split
    simp [n, Node.children] at this

end ScriptureText
