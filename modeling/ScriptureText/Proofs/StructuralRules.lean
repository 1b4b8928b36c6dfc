/-
ScriptureText.Proofs.StructuralRules — validation as a set of rules.

`Node.Conforms` states the rules of a node over its children and their
neighbours, without a machine that reads them: what may stand in a context, how
headlines follow each other, and where spaces may stand. Neighbours are those
among the children that are not attributes to be skipped, for a validator does
not see those.

`validateIn_ok_iff` says that a finished tree passes validation exactly if the
rules hold at every node that is visited. One rule is not about neighbours
alone: a space may start a text only if the nearest element before it that is no
text stands within a line (`leading`), because a text does not make a validator
forget what came before it.
-/
import ScriptureText.Proofs.Validator

namespace ScriptureText

/-! ## §1 The rules -/

/-- What may stand in a node in a context. -/
structure Node.WellPlaced (lookup : VerseLookup) (ctx : Context) (n : Node) : Prop where
  nonempty : n.children ≠ []
  headlines : ∀ d c, Element.container (.headline d) c ∈ n.children → ctx < .headline
  footnotes : ∀ c, Element.container .footnote c ∈ n.children → ctx < .footnote
  crossReferences : ∀ p c, Element.container (.crossReference p) c ∈ n.children → ctx = .footnote
  verseSeparators : Element.leaf .verseSeparator ∈ n.children → ctx = .verse
  lineBreaks : ∀ k, Element.leaf (.lineBreak k) ∈ n.children →
    ctx = .verse ∨ ctx = .normalText ∨ ctx = .footnote
  /-- Headlines that follow each other get deeper, where depth 9 counts as 8. -/
  deepening : ∀ d c d' c', [Element.container (.headline d) c, .container (.headline d') c'] <:+:
    unskipped n.children → min d 8 < min d' 8
  /-- Endpoints that are both found in one chapter are in order. -/
  ranges : ∀ p c i j, Element.container (.crossReference p) c ∈ n.children →
    lookup p.abbreviation p.book p.firstChapter p.firstVerse = some i →
    lookup p.abbreviation p.book p.lastChapter p.lastVerse = some j →
    p.firstChapter = p.lastChapter → i ≤ j

/-- Where spaces may stand in a node. -/
structure Node.WellSpaced (n : Node) : Prop where
  /-- No space stands at the end. -/
  trailing : ∀ e ∈ (unskipped n.children).getLast?, e.endsWithSpace = false
  /-- No space stands before a line break, a headline or another space. -/
  adjacent : ∀ a b, [a, b] <:+: unskipped n.children → a.endsWithSpace = true →
    b.isBlockBoundary = false ∧ b.startsWithSpace = false
  /-- A space starts a text only where there is something before the text in its line that is
  no text. -/
  leading : ∀ read e rest, unskipped n.children = read ++ e :: rest → e.startsWithSpace = true →
    ∃ x ∈ (read.filter (!·.isText)).getLast?, x.isBlockBoundary = false

/-- What validation asks of one node in a context. -/
structure Node.Conforms (lookup : VerseLookup) (ctx : Context) (n : Node) : Prop
    extends n.WellPlaced lookup ctx, n.WellSpaced

/-! ## §2 Neighbours -/

theorem unskipped_split {es before after : List Element} {e : Element}
    (split : es = before ++ e :: after) (h : e.isSkipped = false) :
    unskipped es = unskipped before ++ e :: unskipped after := by
  rw [split, unskipped_append, unskipped_cons h]

/-- A place among the elements that are not skipped is a place among all elements. -/
theorem exists_split {es read rest : List Element} {e : Element}
    (h : unskipped es = read ++ e :: rest) :
    ∃ before after, es = before ++ e :: after ∧ e.isSkipped = false ∧ unskipped before = read ∧
      unskipped after = rest := by
  obtain ⟨l₁, l₂, rfl, h₁, h₂⟩ := List.filter_eq_append_iff.1 h
  obtain ⟨skipped, after, rfl, hskip, he, hrest⟩ := List.filter_eq_cons_iff.1 h₂
  refine ⟨l₁ ++ skipped, after, by simp, by simpa using he, ?_, hrest⟩
  have none : unskipped skipped = [] := List.filter_eq_nil_iff.2 hskip
  rw [unskipped_append, none, List.append_nil]
  exact h₁

/-- Two elements are neighbours if the one is the last before the other. -/
theorem neighbours_iff {es : List Element} {a b : Element} : [a, b] <:+: unskipped es ↔
    ∃ before after, es = before ++ b :: after ∧ b.isSkipped = false ∧
      (unskipped before).getLast? = some a := by
  constructor
  · rintro ⟨read, rest, h⟩
    have h' : unskipped es = (read ++ [a]) ++ b :: rest := by
      rw [← h]
      simp
    obtain ⟨before, after, split, hb, hread, -⟩ := exists_split h'
    exact ⟨before, after, split, hb, by rw [hread]; simp⟩
  · rintro ⟨before, after, split, hb, hlast⟩
    obtain ⟨read, hread⟩ := List.getLast?_eq_some_iff.1 hlast
    refine ⟨read, unskipped after, ?_⟩
    rw [unskipped_split split hb, hread]
    simp

namespace Validator

variable {lookup : VerseLookup} {ctx : Context} {before : List Element}

theorem spaceRead_eq_true {es : List Element} :
    spaceRead es = true ↔ ∃ a, (unskipped es).getLast? = some a ∧ a.endsWithSpace = true := by
  simp [spaceRead, Option.any_eq_true]

theorem lineStarted_eq_true {es : List Element} : lineStarted es = true ↔
    ∃ x ∈ ((unskipped es).filter (!·.isText)).getLast?, x.isBlockBoundary = false := by
  simp [lineStarted, Option.any_eq_true]

/-! ## §3 Elements that break no rule -/

theorem fault?_text_eq_none {s : String} : fault? lookup ctx before (.leaf (.text s)) = none ↔
    (Text.startsWithSpace s = true → spaceRead before = false ∧ lineStarted before = true) := by
  simp only [fault?]
  cases Text.startsWithSpace s <;> cases spaceRead before <;> cases lineStarted before <;> simp

theorem fault?_lineBreak_eq_none {k : LineBreak} :
    fault? lookup ctx before (.leaf (.lineBreak k)) = none ↔
      spaceRead before = false ∧ (ctx = .verse ∨ ctx = .normalText ∨ ctx = .footnote) := by
  simp only [fault?]
  cases spaceRead before <;> cases ctx <;> simp <;> decide

theorem fault?_headline_eq_none {d : Nat} {c : Node} :
    fault? lookup ctx before (.container (.headline d) c) = none ↔
      ctx < .headline ∧ depthRead before < min d 8 ∧ spaceRead before = false := by
  have order : ¬ Context.headline ≤ ctx ↔ ctx < .headline := by cases ctx <;> decide
  rw [← order, ← Nat.not_le]
  simp only [fault?]
  split_ifs with hc hd hs <;> simp_all

theorem fault?_footnote_eq_none {c : Node} :
    fault? lookup ctx before (.container .footnote c) = none ↔ ctx < .footnote := by
  simp only [fault?]
  cases ctx <;> decide

theorem fault?_crossReference_eq_none {p : Passage} {c : Node} :
    fault? lookup ctx before (.container (.crossReference p) c) = none ↔
      ctx = .footnote ∧ endsBeforeStart lookup p = false := by
  simp only [fault?]
  cases endsBeforeStart lookup p <;> cases ctx <;> decide

theorem endsBeforeStart_eq_false {p : Passage} : endsBeforeStart lookup p = false ↔
    ∀ i j, lookup p.abbreviation p.book p.firstChapter p.firstVerse = some i →
      lookup p.abbreviation p.book p.lastChapter p.lastVerse = some j →
      p.firstChapter = p.lastChapter → i ≤ j := by
  simp only [endsBeforeStart]
  cases lookup p.abbreviation p.book p.firstChapter p.firstVerse with
  | none => simp
  | some i =>
    cases lookup p.abbreviation p.book p.lastChapter p.lastVerse with
    | none => simp
    | some j => simp

theorem endFault?_eq_none {es : List Element} :
    endFault? es = none ↔ spaceRead es = false ∧ es ≠ [] := by
  simp only [endFault?]
  cases spaceRead es <;> simp

/-- Before a line break, a headline or a space that breaks no rule no space was read. -/
theorem spaceRead_eq_false {e : Element} (h : fault? lookup ctx before e = none)
    (he : e.isBlockBoundary = true ∨ e.startsWithSpace = true) : spaceRead before = false := by
  rcases e with (s | _ | k | _) | ⟨t, c⟩
  · have hs : Text.startsWithSpace s = true := he.resolve_left nofun
    exact (fault?_text_eq_none.1 h hs).1
  · exact absurd he (by decide)
  · exact (fault?_lineBreak_eq_none.1 h).1
  · exact absurd he (by simp [Element.isBlockBoundary, Element.startsWithSpace])
  · cases t with
    | headline d => exact (fault?_headline_eq_none.1 h).2.2
    | _ => exact absurd he (by simp [Element.isBlockBoundary, Element.startsWithSpace])

/-- A node breaks no rule if none of its children does at its place, and its end does not. -/
theorem not_breaks_iff {n : Node} : (∀ v, ¬ Breaks lookup ctx n v) ↔
    (∀ before e after, n.children = before ++ e :: after → fault? lookup ctx before e = none) ∧
      endFault? n.children = none := by
  constructor
  · intro h
    refine ⟨fun before e after split => ?_, ?_⟩
    · rw [Option.eq_none_iff_forall_ne_some]
      exact fun v fault => h v (.child split fault)
    · rw [Option.eq_none_iff_forall_ne_some]
      exact fun v fault => h v (.last fault)
  · intro ⟨places, last⟩ v broken
    cases broken with
    | child split fault =>
      rw [places _ _ _ split] at fault
      cases fault
    | last fault =>
      rw [last] at fault
      cases fault

/-! ## §4 Nodes -/

/-- Where nothing is broken the rules hold. -/
theorem conforms_of_not_breaks {n : Node} (h : ∀ v, ¬ Breaks lookup ctx n v) :
    n.Conforms lookup ctx := by
  obtain ⟨places, last⟩ := not_breaks_iff.1 h
  obtain ⟨noSpace, nonempty⟩ := endFault?_eq_none.1 last
  have at_mem {e : Element} (mem : e ∈ n.children) :
      ∃ before, fault? lookup ctx before e = none := by
    obtain ⟨before, after, split⟩ := List.append_of_mem mem
    exact ⟨before, places _ _ _ split⟩
  exact {
    nonempty := nonempty
    headlines := by
      intro d c mem
      obtain ⟨before, h⟩ := at_mem mem
      exact (fault?_headline_eq_none.1 h).1
    footnotes := by
      intro c mem
      obtain ⟨before, h⟩ := at_mem mem
      exact fault?_footnote_eq_none.1 h
    crossReferences := by
      intro p c mem
      obtain ⟨before, h⟩ := at_mem mem
      exact (fault?_crossReference_eq_none.1 h).1
    verseSeparators := by
      intro mem
      obtain ⟨before, h⟩ := at_mem mem
      simpa [fault?] using h
    lineBreaks := by
      intro k mem
      obtain ⟨before, h⟩ := at_mem mem
      exact (fault?_lineBreak_eq_none.1 h).2
    deepening := by
      intro d c d' c' pair
      obtain ⟨before, after, split, -, hlast⟩ := neighbours_iff.1 pair
      have h := (fault?_headline_eq_none.1 (places _ _ _ split)).2.1
      rwa [depthRead, hlast] at h
    trailing := by
      intro e he
      rw [spaceRead, he] at noSpace
      exact noSpace
    adjacent := by
      intro a b pair ha
      obtain ⟨before, after, split, -, hlast⟩ := neighbours_iff.1 pair
      have hr : spaceRead before = true := spaceRead_eq_true.2 ⟨a, hlast, ha⟩
      have not_both := mt (spaceRead_eq_false (places _ _ _ split)) (by simp [hr])
      simpa using not_both
    leading := by
      intro read e rest split' he
      obtain ⟨before, after, split, -, rfl, -⟩ := exists_split split'
      obtain ⟨s, rfl, hs⟩ := Element.startsWithSpace_iff.1 he
      exact lineStarted_eq_true.1 (fault?_text_eq_none.1 (places _ _ _ split) hs).2
    ranges := by
      intro p c i j mem
      obtain ⟨before, h⟩ := at_mem mem
      exact endsBeforeStart_eq_false.1 (fault?_crossReference_eq_none.1 h).2 i j
  }

theorem depth_pos {d : Nat} {c : Node} (h : (Element.container (.headline d) c).check = .ok ()) :
    0 < d := by
  simp only [Element.check, Tag.check, Field.checkNumber, Field.require] at h
  split at h
  · rename_i hd
    simp at hd
    omega
  · cases h

/-- A headline is deeper than what was read last, if that was a headline. -/
theorem depthRead_lt {n c : Node} {d : Nat} {after : List Element} (hd : 0 < d)
    (h : n.WellPlaced lookup ctx)
    (split : n.children = before ++ .container (.headline d) c :: after) :
    depthRead before < min d 8 := by
  have first : 0 < min d 8 := by omega
  rw [depthRead]
  cases hlast : (unskipped before).getLast? with
  | none => exact first
  | some a =>
    rcases Element.headlineRank_cases a with ⟨d', c', rfl⟩ | hrank
    · exact h.deepening d' c' d c (neighbours_iff.2 ⟨before, after, split, rfl, hlast⟩)
    · show a.headlineRank < min d 8
      rw [hrank]
      exact first

/-- In a node where nothing is out of place, only rules on spaces are broken. -/
theorem isWhitespace_of_breaks {n : Node} {v : Violation} (checked : n.Checked)
    (h : n.WellPlaced lookup ctx) (broken : Breaks lookup ctx n v) : v.isWhitespace = true := by
  cases broken with
  | last fault =>
    unfold endFault? at fault
    split_ifs at fault with hs he
    · cases fault
      rfl
    · exact absurd (List.isEmpty_iff.1 he) h.nonempty
  | @child before after e v split fault =>
    have mem : e ∈ n.children := by
      rw [split]
      simp
    rcases e with (s | _ | k | _) | ⟨t, c⟩
    · simp only [fault?] at fault
      split_ifs at fault <;> cases fault <;> rfl
    · simp [fault?, h.verseSeparators mem] at fault
    · have hctx : ¬ (Context.headline ≤ ctx ∧ ctx ≠ .footnote) := by
        rcases h.lineBreaks k mem with rfl | rfl | rfl <;> decide
      simp only [fault?, if_neg hctx] at fault
      split_ifs at fault
      cases fault
      rfl
    · cases fault
    · cases t with
      | headline d =>
        have hctx : ¬ Context.headline ≤ ctx := by
          have := h.headlines d c mem
          revert this
          cases ctx <;> decide
        have deeper := depthRead_lt (depth_pos (checked _ mem)) h split
        simp only [fault?, if_neg hctx, if_neg (Nat.not_le.2 deeper)] at fault
        split_ifs at fault
        cases fault
        rfl
      | footnote =>
        rw [fault?_footnote_eq_none.2 (h.footnotes c mem)] at fault
        cases fault
      | crossReference p =>
        rw [fault?_crossReference_eq_none.2 ⟨h.crossReferences p c mem,
          endsBeforeStart_eq_false.2 fun i j => h.ranges p c i j mem⟩] at fault
        cases fault
      | _ => cases fault

/-- In a node with all spaces where they may stand, no rule on spaces is broken. -/
theorem not_isWhitespace_of_breaks {n : Node} {v : Violation} (h : n.WellSpaced)
    (broken : Breaks lookup ctx n v) : v.isWhitespace = false := by
  cases broken with
  | last fault =>
    have noSpace : ¬ spaceRead n.children = true := by
      intro hr
      obtain ⟨a, hlast, ha⟩ := spaceRead_eq_true.1 hr
      rw [h.trailing a hlast] at ha
      cases ha
    simp only [endFault?, if_neg noSpace] at fault
    split_ifs at fault
    cases fault
    rfl
  | @child before after e v split fault =>
    have noSpace (hskip : e.isSkipped = false)
        (he : e.isBlockBoundary = true ∨ e.startsWithSpace = true) : ¬ spaceRead before = true := by
      intro hr
      obtain ⟨a, hlast, ha⟩ := spaceRead_eq_true.1 hr
      have := h.adjacent a e (neighbours_iff.2 ⟨before, after, split, hskip, hlast⟩) ha
      simp [this] at he
    rcases e with (s | _ | k | _) | ⟨t, c⟩
    · have clean : fault? lookup ctx before (.leaf (.text s)) = none := by
        refine fault?_text_eq_none.2 fun hs => ⟨?_, lineStarted_eq_true.2 ?_⟩
        · exact Bool.eq_false_iff.2 (noSpace rfl (.inr hs))
        · exact h.leading _ _ _ (unskipped_split split rfl) hs
      rw [clean] at fault
      cases fault
    · simp only [fault?] at fault
      split_ifs at fault
      cases fault
      rfl
    · simp only [fault?, if_neg (noSpace rfl (.inl rfl))] at fault
      split_ifs at fault
      cases fault
      rfl
    · cases fault
    · cases t with
      | headline d =>
        simp only [fault?, if_neg (noSpace rfl (.inl rfl))] at fault
        split_ifs at fault <;> cases fault <;> rfl
      | footnote =>
        simp only [fault?] at fault
        split_ifs at fault
        cases fault
        rfl
      | crossReference p =>
        simp only [fault?] at fault
        split_ifs at fault <;> cases fault <;> rfl
      | _ => cases fault

/-- Where the rules hold nothing is broken. -/
theorem not_breaks_of_conforms {n : Node} (checked : n.Checked) (h : n.Conforms lookup ctx)
    (v : Violation) : ¬ Breaks lookup ctx n v := by
  intro broken
  have whitespace := isWhitespace_of_breaks checked h.toWellPlaced broken
  rw [not_isWhitespace_of_breaks h.toWellSpaced broken] at whitespace
  cases whitespace

end Validator

open Validator

/-! ## §5 Trees -/

/-- A finished tree passes validation exactly if the rules hold at every node
that is visited in it, each in the context that it has there. -/
theorem Node.validateIn_ok_iff {n : Node} (checked : n.Everywhere Checked)
    (finished : n.finished = true) (lookup : VerseLookup) (ctx : Context)
    (dangling : List DanglingReference) :
    (n.validateIn lookup ctx dangling).1 = .ok () ↔
      ∀ d m, Visited ctx n d m → m.Conforms lookup d := by
  constructor
  · intro h d m visited
    rcases validateIn_cases finished lookup ctx dangling with ⟨clean, -⟩ | ⟨v, -, failed⟩
    · exact conforms_of_not_breaks fun v broken => clean v ⟨d, m, visited, broken⟩
    · rw [h] at failed
      cases failed
  · intro conforms
    rcases validateIn_cases finished lookup ctx dangling with ⟨-, h⟩ | ⟨v, ⟨d, m, visited, broken⟩, -⟩
    · exact h
    · exact absurd broken
        (not_breaks_of_conforms (checked m visited.within) (conforms d m visited) v)

/-- A verse with a footnote passes, so that the rules hold at the verse and at the note; and a
text that starts with a space behind an attribute to be skipped breaks one. -/
theorem Node.validateIn_ok_iff_footnote :
    let note : Node := ⟨[], [.leaf (.text "Or earth")], true⟩
    let verse : Node := ⟨[], [.leaf (.text "the land"), .container .footnote note,
      .leaf (.text " appeared"), .leaf .verseSeparator], true⟩
    let marked : Node := ⟨[], [.leaf (.text "the land"),
      .container (.extra ⟨.skip, "osis", "k", "v"⟩) ⟨[], [], true⟩, .leaf (.text " appeared")], true⟩
    (∀ d m, Visited .verse verse d m → m.Conforms Bible.empty.verseIndex d) ∧
      ¬ ∀ d m, Visited .verse marked d m → m.Conforms Bible.empty.verseIndex d := by
  intro note verse marked
  constructor
  · exact (validateIn_ok_iff (n := verse) (by decide) rfl _ _ []).1 rfl
  · intro h
    have passes := (validateIn_ok_iff (n := marked) (by decide) rfl _ _ []).2 h
    have fails : (marked.validateIn Bible.empty.verseIndex .verse []).1 =
        .error (.structural .leadingWhitespace) := rfl
    rw [fails] at passes
    cases passes

end ScriptureText
