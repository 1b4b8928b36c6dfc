/-
ScriptureText.Proofs.AdjacentSpaces — where a space is rejected for following
another space.

In a reachable tree no two texts stand next to each other: a builder merges a
text into the one before it, and normalization does the same where it takes out
what stood between two. A space can follow another only where a validator does
not see what is between them, and that is so for attributes to be skipped and
for nothing else (`SpacesMeet`).

A node breaks the rule exactly where spaces meet in it
(`breaks_whitespaceAdjacent_iff`); only for the direction from a broken rule to a
place is it used that texts stand apart.
-/
import ScriptureText.Proofs.LeadingSpaces

namespace ScriptureText

/-! ## §1 Places -/

/-- Among these elements a text that ends with a space is followed by one that starts with a space,
with attributes to be skipped between them, of which there is at least one, and nothing else. -/
inductive SpacesMeet (es : List Element) : Prop where
  | across {before skipped after : List Element} {s t : String}
      (split : es = before ++ .leaf (.text s) :: skipped ++ .leaf (.text t) :: after)
      (ends : Text.endsWithSpace s = true) (starts : Text.startsWithSpace t = true)
      (some : skipped ≠ []) (all : ∀ e ∈ skipped, e.isSkipped = true)

/-- Where nothing is to be skipped no spaces meet. -/
theorem SpacesMeet.exists_isSkipped {es : List Element} (h : SpacesMeet es) :
    ∃ e ∈ es, e.isSkipped = true := by
  obtain ⟨rfl, -, -, some, all⟩ := h
  obtain ⟨e, mem⟩ := List.exists_mem_of_ne_nil _ some
  exact ⟨e, by simp [mem], all e mem⟩

namespace Validator

variable {lookup : VerseLookup} {ctx : Context} {before : List Element}

/-- An element is rejected for following a space if it is a text that starts with a space, and a
space was read before. -/
theorem fault?_eq_whitespaceAdjacent {e : Element} :
    fault? lookup ctx before e = some .whitespaceAdjacentToWhitespace ↔
      e.startsWithSpace = true ∧ spaceRead before = true := by
  constructor
  · intro fault
    have starts := startsWithSpace_of_fault? fault (.inl rfl)
    rw [fault?_of_startsWithSpace starts] at fault
    split_ifs at fault with hr hl
    · exact ⟨starts, hr⟩
    · cases fault
  · rintro ⟨starts, hr⟩
    rw [fault?_of_startsWithSpace starts, if_pos hr]

/-- A space was read last if a text that ends with one stands before attributes to be skipped. -/
theorem spaceRead_iff_behind : spaceRead before = true ↔ ∃ earlier s skipped,
    before = earlier ++ .leaf (.text s) :: skipped ∧ Text.endsWithSpace s = true ∧
      ∀ e ∈ skipped, e.isSkipped = true := by
  constructor
  · intro space
    rcases eq_nil_or_last before with none | ⟨earlier, x, skipped, rfl, hx, all⟩
    · simp [spaceRead, none] at space
    · rw [spaceRead_behind hx all] at space
      obtain ⟨s, rfl, hs⟩ := Element.endsWithSpace_iff.1 space
      exact ⟨earlier, s, skipped, rfl, hs, all⟩
  · rintro ⟨earlier, s, skipped, rfl, hs, all⟩
    rw [spaceRead_behind rfl all]
    exact hs

/-- A node in which texts stand apart breaks the rule on adjacent spaces exactly if spaces meet
in it. -/
theorem breaks_whitespaceAdjacent_iff {n : Node} (apart : n.TextsApart) :
    Breaks lookup ctx n .whitespaceAdjacentToWhitespace ↔ SpacesMeet n.children := by
  constructor
  · intro broken
    cases broken with
    | child split fault =>
      obtain ⟨starts, space⟩ := fault?_eq_whitespaceAdjacent.1 fault
      obtain ⟨t, rfl, ht⟩ := Element.startsWithSpace_iff.1 starts
      obtain ⟨earlier, s, skipped, rfl, hs, all⟩ := spaceRead_iff_behind.1 space
      refine .across split hs ht ?_ all
      -- two texts would stand next to each other
      rintro rfl
      have chain := apart.children
      rw [split] at chain
      cases Node.previous_not_text chain
    | last fault =>
      unfold endFault? at fault
      split_ifs at fault <;> cases fault
  · rintro ⟨split, ends, starts, -, all⟩
    refine .child split (fault?_eq_whitespaceAdjacent.2 ⟨starts, ?_⟩)
    exact spaceRead_iff_behind.2 ⟨_, _, _, rfl, ends, all⟩

end Validator

open Validator

/-! ## §2 Trees -/

/-- Validation of a finished tree fails for adjacent spaces only if they meet across attributes to
be skipped at some node that is visited, and so never for a tree without such attributes. Where
spaces meet at a node that is visited, validation does not succeed. -/
theorem adjacent_spaces_across_skipped {n : Node} (reachable : Reachable n)
    (finished : n.finished = true) (lookup : VerseLookup) (ctx : Context)
    (dangling : List DanglingReference) :
    ((n.validateIn lookup ctx dangling).1 = .error (.structural .whitespaceAdjacentToWhitespace) →
      ∃ d m, Visited ctx n d m ∧ SpacesMeet m.children) ∧
    ((n.Everywhere fun m => ∀ e ∈ m.children, e.isSkipped = false) →
      (n.validateIn lookup ctx dangling).1 ≠
        .error (.structural .whitespaceAdjacentToWhitespace)) ∧
    ∀ d m, Visited ctx n d m → SpacesMeet m.children →
      (n.validateIn lookup ctx dangling).1 ≠ .ok () := by
  have apart {d : Context} {m : Node} (visited : Visited ctx n d m) : m.TextsApart :=
    (reachable.sound m visited.within).apart
  have meet : (n.validateIn lookup ctx dangling).1 =
      .error (.structural .whitespaceAdjacentToWhitespace) →
      ∃ d m, Visited ctx n d m ∧ SpacesMeet m.children := by
    intro failed
    obtain ⟨d, m, visited, broken⟩ := Node.faulty_of_validateIn finished failed
    exact ⟨d, m, visited, (breaks_whitespaceAdjacent_iff (apart visited)).1 broken⟩
  refine ⟨meet, ?_, ?_⟩
  · intro none failed
    obtain ⟨d, m, visited, place⟩ := meet failed
    obtain ⟨e, mem, skipped⟩ := place.exists_isSkipped
    rw [none m visited.within e mem] at skipped
    cases skipped
  · intro d m visited place passes
    have clean := (Node.validateIn_eq_ok_iff finished).1 passes
    exact clean _ ⟨d, m, visited, (breaks_whitespaceAdjacent_iff (apart visited)).2 place⟩

/-- Two spaces in a footnote that are an attribute to be skipped apart are rejected, so that they
meet at a node that is visited. With a verse between them instead they are not. -/
theorem adjacent_spaces_across_skipped_footnote :
    let note (between : Element) : Node :=
      ⟨[], [.leaf (.text "Or "), between, .leaf (.text " earth")], true⟩
    let verse (between : Element) : Node :=
      ⟨[], [.leaf (.text "land"), .container .footnote (note between)], true⟩
    let skipped : Element := .container (.extra ⟨.skip, "osis", "k", "v"⟩) ⟨[], [], true⟩
    let raw : Element := .leaf (.rawHtml .both "<br>")
    ((verse skipped).validateIn Bible.empty.verseIndex .normalText []).1 =
        .error (.structural .whitespaceAdjacentToWhitespace) ∧
      (∃ d m, Visited .normalText (verse skipped) d m ∧ SpacesMeet m.children) ∧
      ((verse raw).validateIn Bible.empty.verseIndex .normalText []).1 ≠
        .error (.structural .whitespaceAdjacentToWhitespace) := by
  intro note verse skipped raw
  have builtSkipped : Reachable (verse skipped) := .finish (.perform [.leaf (.text "land"),
    .container .footnote [.leaf (.text "Or "),
      .container (.extra ⟨.skip, "osis", "k", "v"⟩) [], .leaf (.text " earth")]] .empty rfl) rfl
  have builtRaw : Reachable (verse raw) := .finish (.perform [.leaf (.text "land"),
    .container .footnote [.leaf (.text "Or "), .leaf (.rawHtml .both "<br>"),
      .leaf (.text " earth")]] .empty rfl) rfl
  have fails : ((verse skipped).validateIn Bible.empty.verseIndex .normalText []).1 =
      .error (.structural .whitespaceAdjacentToWhitespace) := rfl
  exact ⟨fails,
    (adjacent_spaces_across_skipped builtSkipped rfl Bible.empty.verseIndex .normalText []).1 fails,
    (adjacent_spaces_across_skipped builtRaw rfl Bible.empty.verseIndex .normalText []).2.1
      (by decide)⟩

end ScriptureText
