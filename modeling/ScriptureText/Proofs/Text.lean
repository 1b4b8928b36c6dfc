/-
ScriptureText.Proofs.Text — the texts that a leaf may hold, and trimming them.

The pattern of text is a nested repetition. `check_text_iff` replaces it by
what one can see at a glance: a text is accepted when it is not empty, has no
control character, and has no two spaces in a row (`Spaced`).

What is said here of one leaf carries normalization: a clipped text is empty or
accepted again (`clip_cases`), and clipping it once more changes nothing
(`clip_clip`). And it carries the merging of leaves: a text that is joined to an
accepted one is accepted with it exactly if it is accepted by itself
(`spaced_merge_iff`), and of several texts it does not matter which are joined
first (`merge_assoc`).
-/
import ScriptureText.Proofs.Pattern
import ScriptureText.Text
import ScriptureText.Tree.Check
import Mathlib.Data.List.Chain

namespace ScriptureText.Text

open Pattern

/-! ## §1 Words -/

/-- A character that is neither a space nor a control character. -/
def Ink (c : Char) : Prop := c ≠ ' ' ∧ Unicode.isControl c = false

/-- Two characters of which at most one is a space. -/
def NotBothSpaces (a b : Char) : Prop := ¬ (a = ' ' ∧ b = ' ')

/-- Text that is not empty, without control characters, and without two spaces in a row. -/
structure Spaced (cs : List Char) : Prop where
  nonempty : cs ≠ []
  printable : ∀ c ∈ cs, Unicode.isControl c = false
  single : cs.IsChain NotBothSpaces

/-- What may follow the first word of a text: nothing, or a space and more, up to a word's end. -/
structure Continued (cs : List Char) : Prop where
  printable : ∀ c ∈ cs, Unicode.isControl c = false
  single : cs.IsChain NotBothSpaces
  start : ∀ c ∈ cs.head?, c = ' '
  stop : ∀ c ∈ cs.getLast?, c ≠ ' '

theorem space_not_control : Unicode.isControl ' ' = false := by decide

theorem isChain_of_ink {cs : List Char} (h : ∀ c ∈ cs, Ink c) : cs.IsChain NotBothSpaces := by
  rw [List.isChain_iff_forall_rel_of_append_cons_cons]
  rintro a b l₁ l₂ rfl ⟨rfl, -⟩
  exact (h ' ' (by simp)).1 rfl

/-- Spaces cannot meet at a seam when the text before it does not end with one. -/
theorem isChain_append_of_stop {u v : List Char} (hu : u.IsChain NotBothSpaces)
    (hv : v.IsChain NotBothSpaces) (stop : ∀ c ∈ u.getLast?, c ≠ ' ') :
    (u ++ v).IsChain NotBothSpaces :=
  List.isChain_append.2 ⟨hu, hv, fun c hc _ _ h => stop c hc h.1⟩

theorem stop_append {u v : List Char} (hu : ∀ c ∈ u.getLast?, c ≠ ' ')
    (hv : ∀ c ∈ v.getLast?, c ≠ ' ') : ∀ c ∈ (u ++ v).getLast?, c ≠ ' ' := by
  intro c hc
  rw [List.getLast?_append] at hc
  cases h : v.getLast? with
  | none =>
    rw [h, Option.none_or] at hc
    exact hu c hc
  | some d =>
    rw [h, Option.some_or] at hc
    exact hv c (h.trans hc)

theorem stop_of_ink {u : List Char} (h : ∀ c ∈ u, Ink c) : ∀ c ∈ u.getLast?, c ≠ ' ' :=
  fun c hc => (h c (List.mem_of_getLast? hc)).1

theorem matches_ink {w : List Char} : Matches ink w ↔ ∃ c, w = [c] ∧ Ink c := by
  have contains_iff (c : Char) :
      CharClass.contains ⟨[.char ' ', .category .control], true⟩ c = true ↔ Ink c := by
    simp [CharClass.contains, ClassItem.contains, Category.contains, Ink, @eq_comm _ c]
  constructor
  · intro h
    cases h with
    | oneOf h => exact ⟨_, rfl, (contains_iff _).1 h⟩
  · rintro ⟨c, rfl, h⟩
    exact .oneOf ((contains_iff c).2 h)

theorem matches_many_ink {w : List Char} : Matches (.many ink) w ↔ ∀ c ∈ w, Ink c := by
  induction w with
  | nil => simp [Matches.manyNil]
  | cons c rest ih =>
    simp only [matches_many_cons, matches_ink, List.forall_mem_cons]
    constructor
    · rintro ⟨u, v, rfl, ⟨d, hd, hink⟩, hm⟩
      obtain ⟨rfl, rfl⟩ := List.cons.inj hd
      exact ⟨hink, ih.1 hm⟩
    · rintro ⟨hink, hrest⟩
      exact ⟨[], rest, rfl, ⟨c, rfl, hink⟩, ih.2 hrest⟩

theorem matches_word {w : List Char} :
    Matches (.oneOrMore ink) w ↔ w ≠ [] ∧ ∀ c ∈ w, Ink c := by
  rw [matches_oneOrMore]
  constructor
  · rintro ⟨u, v, rfl, hu, hv⟩
    obtain ⟨c, rfl, hink⟩ := matches_ink.1 hu
    exact ⟨by simp, by simpa using ⟨hink, matches_many_ink.1 hv⟩⟩
  · rintro ⟨hne, hink⟩
    obtain ⟨c, rest, rfl⟩ := List.exists_cons_of_ne_nil hne
    rw [List.forall_mem_cons] at hink
    exact ⟨[c], rest, rfl, matches_ink.2 ⟨c, rfl, hink.1⟩, matches_many_ink.2 hink.2⟩

/-- A word with the space before it. -/
theorem matches_next_word {w : List Char} : Matches (word " " ++ oneOrMore ink) w ↔
    ∃ u, w = ' ' :: u ∧ u ≠ [] ∧ ∀ c ∈ u, Ink c := by
  show Matches (.seq (.literal [' ']) (.oneOrMore ink)) w ↔ _
  simp only [matches_seq, matches_literal, matches_word]
  constructor
  · rintro ⟨_, u, rfl, rfl, h⟩
    exact ⟨u, rfl, h⟩
  · rintro ⟨u, rfl, h⟩
    exact ⟨[' '], u, rfl, rfl, h⟩

theorem Continued.of_matches {w : List Char}
    (h : Matches (.many (word " " ++ oneOrMore ink)) w) : Continued w := by
  generalize hp : Pattern.many (word " " ++ oneOrMore ink) = p at h
  induction h with
  | manyNil => exact ⟨by simp, .nil, by simp, by simp⟩
  | @manyCons a u v ha hm _ ih =>
    cases hp
    obtain ⟨x, rfl, hne, hink⟩ := matches_next_word.1 ha
    have hv := ih rfl
    have hstop : ∀ c ∈ (' ' :: x).getLast?, c ≠ ' ' := by
      obtain ⟨d, rest, rfl⟩ := List.exists_cons_of_ne_nil hne
      rw [List.getLast?_cons_cons]
      exact stop_of_ink hink
    refine ⟨?_, isChain_append_of_stop ?_ hv.single hstop, by simp, stop_append hstop hv.stop⟩
    · intro d hd
      rw [List.cons_append, List.mem_cons, List.mem_append] at hd
      rcases hd with rfl | hd | hd
      · exact space_not_control
      · exact (hink d hd).2
      · exact hv.printable d hd
    · exact List.isChain_cons.2
        ⟨fun d hd h => (hink d (List.mem_of_head? hd)).1 h.2, isChain_of_ink hink⟩
  | _ => cases hp

/-- A text that does not end with a space is the rest of a word and what follows that. -/
theorem exists_word_append {cs : List Char} (printable : ∀ c ∈ cs, Unicode.isControl c = false)
    (single : cs.IsChain NotBothSpaces) (stop : ∀ c ∈ cs.getLast?, c ≠ ' ') :
    ∃ u v, cs = u ++ v ∧ (∀ c ∈ u, Ink c) ∧ Matches (.many (word " " ++ oneOrMore ink)) v := by
  induction cs with
  | nil => exact ⟨[], [], rfl, by simp, .manyNil _⟩
  | cons c rest ih =>
    rw [List.forall_mem_cons] at printable
    have stop' : ∀ d ∈ rest.getLast?, d ≠ ' ' := by
      intro d hd
      refine stop d ?_
      rw [List.getLast?_cons, hd]
      rfl
    obtain ⟨u, v, rfl, hu, hv⟩ := ih printable.2 single.tail stop'
    by_cases hc : c = ' '
    · -- a space: the word after it is complete, and it is not empty
      subst hc
      have hne : u ≠ [] := by
        rintro rfl
        cases v with
        | nil => exact stop ' ' rfl rfl
        | cons d v =>
          have := (Continued.of_matches hv).start d rfl
          exact (List.isChain_cons_cons.1 single).1 ⟨rfl, this⟩
      exact ⟨[], ' ' :: (u ++ v), rfl, by simp,
        .manyCons (u := ' ' :: u) (matches_next_word.2 ⟨u, rfl, hne, hu⟩) hv⟩
    · exact ⟨c :: u, v, rfl, List.forall_mem_cons.2 ⟨⟨hc, printable.1⟩, hu⟩, hv⟩

/-- Words: text with no space at either end. -/
theorem matches_words {w : List Char} : Matches words w ↔
    Spaced w ∧ (∀ c ∈ w.head?, c ≠ ' ') ∧ ∀ c ∈ w.getLast?, c ≠ ' ' := by
  show Matches (.seq (.oneOrMore ink) (.many (word " " ++ oneOrMore ink))) w ↔ _
  simp only [matches_seq, matches_word]
  constructor
  · rintro ⟨u, v, rfl, ⟨hne, hu⟩, hv⟩
    have hv := Continued.of_matches hv
    refine ⟨⟨by simp [hne], ?_, ?_⟩, ?_, stop_append (stop_of_ink hu) hv.stop⟩
    · intro d hd
      rcases List.mem_append.1 hd with hd | hd
      · exact (hu d hd).2
      · exact hv.printable d hd
    · exact isChain_append_of_stop (isChain_of_ink hu) hv.single (stop_of_ink hu)
    · rw [List.head?_append_of_ne_nil _ hne]
      exact fun d hd => (hu d (List.mem_of_head? hd)).1
  · rintro ⟨hs, start, stop⟩
    obtain ⟨u, v, rfl, hu, hv⟩ := exists_word_append hs.printable hs.single stop
    refine ⟨u, v, rfl, ⟨?_, hu⟩, hv⟩
    rintro rfl
    cases v with
    | nil => exact hs.nonempty rfl
    | cons d v => exact start d rfl ((Continued.of_matches hv).start d rfl)

/-! ## §2 Text leaves -/

theorem Spaced.space : Spaced [' '] :=
  ⟨by simp, by simpa using space_not_control, .singleton _⟩

/-- A part of a text is a text, unless it is empty. -/
theorem Spaced.part {u w : List Char} (h : Spaced w) (inside : u <:+: w) (hne : u ≠ []) : Spaced u :=
  ⟨hne, fun c hc => h.printable c (inside.subset hc), List.IsChain.infix h.single inside⟩

/-- After a leading space comes no other. -/
theorem Spaced.start_tail {w : List Char} (h : Spaced (' ' :: w)) : ∀ c ∈ w.head?, c ≠ ' ' := by
  intro c hc heq
  exact (List.isChain_cons.1 h.single).1 c hc ⟨rfl, heq⟩

/-- Before a trailing space comes no other. -/
theorem Spaced.stop_init {w : List Char} (h : Spaced (w ++ [' '])) : ∀ c ∈ w.getLast?, c ≠ ' ' := by
  intro c hc heq
  exact (List.isChain_append.1 h.single).2.2 c hc ' ' rfl ⟨heq, rfl⟩

theorem matches_optional_space {w : List Char} :
    Matches (.opt (word " ")) w ↔ w = [] ∨ w = [' '] := by
  rw [matches_opt]
  exact or_congr_right matches_literal

/-- A space may be put before words. -/
theorem Spaced.cons_space {w : List Char} (h : Spaced w) (start : ∀ c ∈ w.head?, c ≠ ' ') :
    Spaced (' ' :: w) where
  nonempty := by simp
  printable := List.forall_mem_cons.2 ⟨space_not_control, h.printable⟩
  single := List.isChain_cons.2 ⟨fun c hc heq => start c hc heq.2, h.single⟩

/-- A space may be put after words. -/
theorem Spaced.append_space {w : List Char} (h : Spaced w) (stop : ∀ c ∈ w.getLast?, c ≠ ' ') :
    Spaced (w ++ [' ']) where
  nonempty := by simp
  printable := by
    intro c hc
    rcases List.mem_append.1 hc with hc | hc
    · exact h.printable c hc
    · rw [List.mem_singleton.1 hc]
      exact space_not_control
  single := isChain_append_of_stop h.single (.singleton _) stop

/-- A text without leading space matches as words and perhaps a space. -/
theorem matches_words_append {w : List Char} (h : Spaced w) (start : ∀ c ∈ w.head?, c ≠ ' ') :
    ∃ u v, w = u ++ v ∧ Matches words u ∧ Matches (.opt (word " ")) v := by
  rcases List.eq_nil_or_concat w with rfl | ⟨u, c, rfl⟩
  · exact absurd rfl h.nonempty
  by_cases hc : c = ' '
  · subst hc
    have hne : u ≠ [] := by
      rintro rfl
      exact start ' ' rfl rfl
    rw [List.concat_eq_append] at h start ⊢
    rw [List.head?_append_of_ne_nil _ hne] at start
    exact ⟨u, [' '], rfl,
      matches_words.2 ⟨h.part (List.prefix_append _ _).isInfix hne, start, h.stop_init⟩,
      matches_optional_space.2 (.inr rfl)⟩
  · refine ⟨u.concat c, [], by simp, matches_words.2 ⟨h, start, ?_⟩, .absent _⟩
    rintro d hd rfl
    simp at hd
    exact hc hd

/-- The pattern of text, in terms of its characters. -/
theorem matches_spacedText {w : List Char} : Matches spacedText w ↔ Spaced w := by
  show Matches (.either (.literal [' ']) (.seq (.seq (.opt (word " ")) words) (.opt (word " ")))) w ↔ _
  simp only [matches_either, matches_literal, matches_seq, matches_optional_space]
  constructor
  · rintro (rfl | ⟨_, v, rfl, ⟨u, x, rfl, hu, hx⟩, hv⟩)
    · exact .space
    · obtain ⟨hs, start, stop⟩ := matches_words.1 hx
      have left : Spaced (u ++ x) ∧ ∀ c ∈ (u ++ x).getLast?, c ≠ ' ' := by
        rcases hu with rfl | rfl
        · exact ⟨hs, stop⟩
        · refine ⟨hs.cons_space start, ?_⟩
          rwa [List.getLast?_append_of_ne_nil _ hs.nonempty]
      rcases hv with rfl | rfl
      · simpa using left.1
      · exact left.1.append_space left.2
  · intro h
    obtain ⟨c, rest, rfl⟩ := List.exists_cons_of_ne_nil h.nonempty
    by_cases hc : c = ' '
    · subst hc
      by_cases hrest : rest = []
      · exact .inl (by rw [hrest])
      · obtain ⟨u, v, rfl, hu, hv⟩ := matches_words_append
          (h.part (List.suffix_cons _ _).isInfix hrest) h.start_tail
        exact .inr ⟨' ' :: u, v, rfl, ⟨[' '], u, rfl, .inr rfl, hu⟩, matches_optional_space.1 hv⟩
    · obtain ⟨u, v, hw, hu, hv⟩ := matches_words_append h (by rintro d ⟨⟩; exact hc)
      exact .inr ⟨u, v, hw, ⟨[], u, rfl, .inl rfl, hu⟩, matches_optional_space.1 hv⟩

/-- A text leaf is accepted exactly when its characters are in order. -/
theorem check_text_iff {s : String} : (Leaf.text s).check = .ok () ↔ Spaced s.toList := by
  rw [← matches_spacedText, ← accepts_iff, Leaf.check, Field.checkString, Field.require]
  split <;> simp_all

theorem ne_empty_of_check {s : String} (h : (Leaf.text s).check = .ok ()) : s ≠ "" := by
  intro hs
  rw [hs] at h
  exact (check_text_iff.1 h).nonempty rfl

/-! ## §3 Trimming -/

/-- A text without the space at the start, at the end, or at both. -/
def clip (start stop : Bool) (s : String) : String :=
  let s := if start then trimStart s else s
  if stop then trimEnd s else s

theorem startsWithSpace_iff {s : String} :
    startsWithSpace s = true ↔ ∃ w, s = String.ofList (' ' :: w) := by
  rw [startsWithSpace, beq_iff_eq, List.head?_eq_some_iff]
  exact exists_congr fun w => by rw [← String.toList_inj, String.toList_ofList]

theorem endsWithSpace_iff {s : String} :
    endsWithSpace s = true ↔ ∃ w, s = String.ofList (w ++ [' ']) := by
  rw [endsWithSpace, beq_iff_eq, List.getLast?_eq_some_iff]
  exact exists_congr fun w => by rw [← String.toList_inj, String.toList_ofList]

theorem startsWithSpace_eq_false {s : String} :
    startsWithSpace s = false ↔ ∀ c ∈ s.toList.head?, c ≠ ' ' := by
  rw [startsWithSpace]
  cases s.toList.head? <;> simp

theorem endsWithSpace_eq_false {s : String} :
    endsWithSpace s = false ↔ ∀ c ∈ s.toList.getLast?, c ≠ ' ' := by
  rw [endsWithSpace]
  cases s.toList.getLast? <;> simp

theorem trimStart_of_not {s : String} (h : startsWithSpace s = false) : trimStart s = s := by
  simp [trimStart, h]

theorem trimEnd_of_not {s : String} (h : endsWithSpace s = false) : trimEnd s = s := by
  simp [trimEnd, h]

theorem trimStart_cons (w : List Char) :
    trimStart (String.ofList (' ' :: w)) = String.ofList w := by
  simp [trimStart, startsWithSpace]

theorem trimEnd_append (w : List Char) :
    trimEnd (String.ofList (w ++ [' '])) = String.ofList w := by
  simp [trimEnd, endsWithSpace]

/-- A text trimmed at the start was a lone space, or has no leading space any more. -/
theorem trimStart_cases {s : String} (h : Spaced s.toList) :
    s = " " ∧ trimStart s = "" ∨
      Spaced (trimStart s).toList ∧ startsWithSpace (trimStart s) = false := by
  cases hs : startsWithSpace s with
  | false => exact .inr (by rw [trimStart_of_not hs]; exact ⟨h, hs⟩)
  | true =>
    obtain ⟨w, rfl⟩ := startsWithSpace_iff.1 hs
    rw [String.toList_ofList] at h
    rw [trimStart_cons, startsWithSpace_eq_false, String.toList_ofList]
    by_cases hw : w = []
    · exact .inl (by subst hw; exact ⟨rfl, rfl⟩)
    · exact .inr ⟨h.part (List.suffix_cons _ _).isInfix hw, h.start_tail⟩

/-- A text trimmed at the end was a lone space, or has no trailing space any more; its start is
as it was. -/
theorem trimEnd_cases {s : String} (h : Spaced s.toList) :
    s = " " ∧ trimEnd s = "" ∨ Spaced (trimEnd s).toList ∧ endsWithSpace (trimEnd s) = false ∧
      startsWithSpace (trimEnd s) = startsWithSpace s := by
  cases hs : endsWithSpace s with
  | false => exact .inr (by rw [trimEnd_of_not hs]; exact ⟨h, hs, rfl⟩)
  | true =>
    obtain ⟨w, rfl⟩ := endsWithSpace_iff.1 hs
    rw [String.toList_ofList] at h
    rw [trimEnd_append, endsWithSpace_eq_false, String.toList_ofList]
    by_cases hw : w = []
    · exact .inl (by subst hw; exact ⟨rfl, rfl⟩)
    · refine .inr ⟨h.part (List.prefix_append _ _).isInfix hw, h.stop_init, ?_⟩
      simp only [startsWithSpace, String.toList_ofList, List.head?_append_of_ne_nil _ hw]

/-- What clipping leaves of a text: nothing of a lone space, and of any other text a text
without spaces where they were to go. -/
theorem clip_cases {s : String} (h : Spaced s.toList) (start stop : Bool) :
    s = " " ∧ (start = true ∨ stop = true) ∧ clip start stop s = "" ∨
      Spaced (clip start stop s).toList ∧
        (start = true → startsWithSpace (clip start stop s) = false) ∧
        (stop = true → endsWithSpace (clip start stop s) = false) := by
  cases start with
  | false =>
    cases stop with
    | false => exact .inr ⟨h, nofun, nofun⟩
    | true =>
      rcases trimEnd_cases h with ⟨rfl, he⟩ | ⟨hs, he, -⟩
      · exact .inl ⟨rfl, .inr rfl, he⟩
      · exact .inr ⟨hs, nofun, fun _ => he⟩
  | true =>
    cases stop with
    | false =>
      rcases trimStart_cases h with ⟨rfl, he⟩ | ⟨hs, he⟩
      · exact .inl ⟨rfl, .inl rfl, he⟩
      · exact .inr ⟨hs, fun _ => he, nofun⟩
    | true =>
      rcases trimStart_cases h with ⟨rfl, he⟩ | ⟨hs, he⟩
      · exact .inl ⟨rfl, .inl rfl, by simp only [clip, if_true, he]; rfl⟩
      · rcases trimEnd_cases hs with ⟨hsp, -⟩ | ⟨hs', he', heq⟩
        · rw [hsp] at he
          cases he
        · exact .inr ⟨hs', fun _ => heq.trans he, fun _ => he'⟩

/-- Clipping leaves alone what has no space to lose. -/
theorem clip_of_not {start stop : Bool} {s : String} (hs : start = true → startsWithSpace s = false)
    (he : stop = true → endsWithSpace s = false) : clip start stop s = s := by
  have h1 : (if start then trimStart s else s) = s := by
    split
    · exact trimStart_of_not (hs ‹_›)
    · rfl
  simp only [clip, h1]
  split
  · exact trimEnd_of_not (he ‹_›)
  · rfl

/-- Clipping twice is clipping once. -/
theorem clip_clip {s : String} (h : Spaced s.toList) (start stop : Bool) :
    clip start stop (clip start stop s) = clip start stop s := by
  rcases clip_cases h start stop with ⟨-, -, he⟩ | ⟨-, hs, he⟩
  · rw [he]
    exact clip_of_not (fun _ => rfl) fun _ => rfl
  · exact clip_of_not hs he

/-- A text that clipping leaves alone has no spaces where they were to go. -/
theorem of_clip_eq_self {start stop : Bool} {s : String} (h : Spaced s.toList)
    (heq : clip start stop s = s) : (start = true → startsWithSpace s = false) ∧
      (stop = true → endsWithSpace s = false) := by
  rcases clip_cases h start stop with ⟨rfl, -, he⟩ | ⟨-, hs, he⟩
  · rw [he] at heq
    exact absurd heq (by decide)
  · rw [heq] at hs he
    exact ⟨hs, he⟩

/-! ## §4 Joining -/

theorem merge_empty (s : String) : merge s "" = s := by
  rw [merge, trimStart_of_not rfl, ite_self, String.append_empty]

theorem empty_merge (s : String) : merge "" s = s := String.empty_append

theorem merge_ne_empty {s : String} (h : s ≠ "") (t : String) : merge s t ≠ "" := by
  rw [merge, ne_eq, String.append_eq_empty_iff]
  exact fun both => h both.1

/-- A text in front of a text: at the seam there is at most one space. -/
theorem Spaced.append_iff {u v : List Char} (h : Spaced u) : Spaced (u ++ v) ↔
    (∀ c ∈ v, Unicode.isControl c = false) ∧ v.IsChain NotBothSpaces ∧
      ∀ a ∈ u.getLast?, ∀ b ∈ v.head?, NotBothSpaces a b := by
  constructor
  · intro both
    have single := List.isChain_append.1 both.single
    exact ⟨fun c hc => both.printable c (List.mem_append_right u hc), single.2⟩
  · rintro ⟨printable, single, seam⟩
    refine ⟨by simp [h.nonempty], fun c hc => ?_, List.isChain_append.2 ⟨h.single, single, seam⟩⟩
    exact (List.mem_append.1 hc).elim (h.printable c) (printable c)

/-- Either a space of the second text is dropped, or no two spaces meet. -/
theorem merge_cases (s t : String) :
    (∃ w, t = String.ofList (' ' :: w) ∧ endsWithSpace s = true ∧ merge s t = s ++ String.ofList w) ∨
      ((∀ a ∈ s.toList.getLast?, ∀ b ∈ t.toList.head?, NotBothSpaces a b) ∧ merge s t = s ++ t) := by
  cases hs : endsWithSpace s with
  | false =>
    refine .inr ⟨fun a ha _ _ both => endsWithSpace_eq_false.1 hs a ha both.1, ?_⟩
    rw [merge, hs]
    rfl
  | true =>
    rw [merge, hs, if_pos rfl]
    cases ht : startsWithSpace t with
    | false =>
      refine .inr ⟨fun _ _ b hb both => startsWithSpace_eq_false.1 ht b hb both.2, ?_⟩
      rw [trimStart_of_not ht]
    | true =>
      obtain ⟨w, rfl⟩ := startsWithSpace_iff.1 ht
      exact .inl ⟨w, rfl, rfl, by rw [trimStart_cons]⟩

/-- What is joined to an accepted text decides by itself whether the result is accepted. -/
theorem spaced_merge_iff {s : String} (h : Spaced s.toList) (t : String) :
    Spaced (merge s t).toList ↔ t = "" ∨ Spaced t.toList := by
  rcases merge_cases s t with ⟨w, rfl, hs, heq⟩ | ⟨seam, heq⟩
  · -- the space that is dropped is the one at the end of `s`
    obtain ⟨u, rfl⟩ := endsWithSpace_iff.1 hs
    rw [heq, String.toList_append, h.append_iff]
    simp only [String.toList_ofList]
    have dropped : Spaced (' ' :: w) ↔ (∀ c ∈ w, Unicode.isControl c = false) ∧
        w.IsChain NotBothSpaces ∧ ∀ b ∈ w.head?, NotBothSpaces ' ' b := by
      rw [← List.singleton_append, Spaced.space.append_iff]
      simp
    rw [dropped]
    simp [String.ext_iff]
  · rw [heq, String.toList_append, h.append_iff]
    constructor
    · rintro ⟨printable, single, -⟩
      by_cases ht : t = ""
      · exact .inl ht
      · exact .inr ⟨by simpa using ht, printable, single⟩
    · rintro (rfl | ht)
      · simp
      · exact ⟨ht.printable, ht.single, seam⟩

theorem startsWithSpace_append {s : String} (h : s ≠ "") (t : String) :
    startsWithSpace (s ++ t) = startsWithSpace s := by
  have hs : s.toList ≠ [] := by simpa using h
  rw [startsWithSpace, String.toList_append, List.head?_append_of_ne_nil _ hs, startsWithSpace]

theorem trimStart_append {s : String} (h : s ≠ "") (t : String) :
    trimStart (s ++ t) = trimStart s ++ t := by
  cases hs : startsWithSpace s with
  | false => rw [trimStart_of_not hs, trimStart_of_not ((startsWithSpace_append h t).trans hs)]
  | true =>
    obtain ⟨w, rfl⟩ := startsWithSpace_iff.1 hs
    have both : String.ofList (' ' :: w) ++ t = String.ofList (' ' :: (w ++ t.toList)) := by
      rw [← String.toList_inj]
      simp
    rw [both, trimStart_cons, trimStart_cons, ← String.toList_inj]
    simp

theorem endsWithSpace_append (s : String) {t : String} (h : t ≠ "") :
    endsWithSpace (s ++ t) = endsWithSpace t := by
  have ht : t.toList ≠ [] := by simpa using h
  rw [endsWithSpace, String.toList_append, List.getLast?_append_of_ne_nil _ ht, endsWithSpace]

/-- Joined texts end as the second does, even if nothing is left of it. -/
theorem endsWithSpace_merge (s : String) {t : String} (h : t ≠ "") :
    endsWithSpace (merge s t) = endsWithSpace t := by
  rcases merge_cases s t with ⟨w, rfl, hs, heq⟩ | ⟨-, heq⟩
  · rw [heq]
    by_cases hw : w = []
    · subst hw
      simpa [endsWithSpace] using hs
    · have last : (' ' :: w).getLast? = w.getLast? := List.getLast?_append_of_ne_nil [' '] hw
      rw [endsWithSpace_append s (by simpa using hw)]
      simp only [endsWithSpace, String.toList_ofList, last]
  · rw [heq, endsWithSpace_append s h]

/-- Text may be joined from either side, unless it is empty. -/
theorem merge_assoc (s : String) {t : String} (h : t ≠ "") (r : String) :
    merge (merge s t) r = merge s (merge t r) := by
  have seam : trimStart (merge t r) = trimStart t ++ if endsWithSpace t then trimStart r else r :=
    trimStart_append h _
  calc merge (merge s t) r
    _ = s ++ (if endsWithSpace s then trimStart t else t) ++
        (if endsWithSpace t then trimStart r else r) := by
      rw [merge, endsWithSpace_merge s h, merge]
    _ = s ++ (if endsWithSpace s then trimStart (merge t r) else merge t r) := by
      rw [String.append_assoc, seam, merge]
      split <;> rfl
    _ = merge s (merge t r) := rfl

/-- A leading space may be dropped before or after joining, unless nothing else is left. -/
theorem trimStart_merge {s : String} (h : trimStart s ≠ "") (t : String) :
    trimStart (merge s t) = merge (trimStart s) t := by
  have hs : s ≠ "" := by
    rintro rfl
    exact h rfl
  have ends : endsWithSpace (trimStart s) = endsWithSpace s := by
    cases lead : startsWithSpace s with
    | false => rw [trimStart_of_not lead]
    | true =>
      obtain ⟨w, rfl⟩ := startsWithSpace_iff.1 lead
      rw [trimStart_cons] at h ⊢
      have both : String.ofList (' ' :: w) = " " ++ String.ofList w := by
        rw [← String.toList_inj]
        simp
      rw [both, endsWithSpace_append _ h]
  rw [merge, trimStart_append hs, merge, ends]

/-- A lone space in front of a text does not outlast trimming. -/
theorem trimStart_space_merge (t : String) : trimStart (merge " " t) = trimStart t := by
  have joined : merge " " t = " " ++ trimStart t := rfl
  rw [joined, trimStart_append (by decide)]
  exact String.empty_append

/-- A leading space of the first of several texts may be dropped before or after joining. -/
theorem trimStart_foldl_merge {s : String} (h : trimStart s ≠ "") (ts : List String) :
    trimStart (ts.foldl merge s) = ts.foldl merge (trimStart s) := by
  induction ts generalizing s with
  | nil => rfl
  | cons t ts ih =>
    have first := trimStart_merge h t
    rw [List.foldl_cons, List.foldl_cons, ← first]
    refine ih ?_
    rw [first]
    exact merge_ne_empty h t

end ScriptureText.Text
