/-
ScriptureText.Proofs.TextLanguage — which strings are texts, and what keeps them so.

The pattern of text is a repetition of repetitions, with a lone space as an
alternative of its own. What it rules out can be seen from two characters at a
time: `check_text_eq_ok` says that a text is any string that is not empty, has
no control character and nowhere two spaces in a row. A raw fragment is a text
without a space at either end (`check_rawHtml_eq_ok`).

Since the condition is about neighbours, only the seam of two texts and the
ends of one matter. Two texts joined are a text, namely their concatenation
with its runs of spaces collapsed; and a text from which a space is taken at the
start, at the end, or at both is a text, unless it was that space.
-/
import ScriptureText.Proofs.Fields
import ScriptureText.Proofs.Fragments

namespace ScriptureText.Text

/-! ## §1 The language -/

/-- Spaces are apart from each other if nowhere two of them stand in a row. -/
theorem isChain_iff_not_infix {cs : List Char} :
    cs.IsChain NotBothSpaces ↔ ¬ [' ', ' '] <:+: cs := by
  rw [List.isChain_iff_forall_rel_of_append_cons_cons]
  constructor
  · rintro apart ⟨u, v, rfl⟩
    have seam : NotBothSpaces ' ' ' ' := apart (by rw [List.append_assoc]; rfl)
    exact seam ⟨rfl, rfl⟩
  · rintro single a b u v rfl ⟨rfl, rfl⟩
    exact single ⟨u, v, by simp⟩

/-- The strings that a text leaf takes. -/
theorem check_text_eq_ok {s : String} : (Leaf.text s).check = .ok () ↔
    s ≠ "" ∧ (∀ c ∈ s.toList, Unicode.isControl c = false) ∧ ¬ [' ', ' '] <:+: s.toList := by
  rw [check_text_iff, ← isChain_iff_not_infix]
  constructor
  · intro h
    exact ⟨by simpa using h.nonempty, h.printable, h.single⟩
  · rintro ⟨nonempty, printable, single⟩
    exact ⟨by simpa using nonempty, printable, single⟩

/-- A no-break space is no space, so that two of them may stand in a row. -/
example : (Leaf.text "a\u00a0\u00a0b").check = .ok () := rfl

/-- The strings that a raw fragment takes: texts without a space at either end. -/
theorem check_rawHtml_eq_ok {mode : RawMode} {s : String} :
    (Leaf.rawHtml mode s).check = .ok () ↔
      (Leaf.text s).check = .ok () ∧ startsWithSpace s = false ∧ endsWithSpace s = false := by
  rw [check_text_iff, startsWithSpace_eq_false, endsWithSpace_eq_false, ← matches_words]
  exact Field.checkString_eq_ok

/-! ## §2 Closure -/

variable {s t : String}

theorem check_merge (hs : (Leaf.text s).check = .ok ()) (ht : (Leaf.text t).check = .ok ()) :
    (Leaf.text (merge s t)).check = .ok () := by
  rw [check_text_iff] at hs ht ⊢
  exact (spaced_merge_iff hs t).2 (.inr ht)

theorem check_clip (hs : (Leaf.text s).check = .ok ()) (start stop : Bool) :
    s = " " ∧ clip start stop s = "" ∨ (Leaf.text (clip start stop s)).check = .ok () := by
  rcases clip_cases (check_text_iff.1 hs) start stop with ⟨lone, -, nothing⟩ | ⟨left, -⟩
  · exact .inl ⟨lone, nothing⟩
  · exact .inr (check_text_iff.2 left)

/-- The language of texts and of raw fragments, in terms of characters, and what one can do within
it. Texts are joined to texts; joining is concatenation with one space in place of every run of
spaces, and it does not matter which texts are joined first. A text without the space at its start,
at its end, or at both is a text, or nothing is left of a lone space. -/
theorem text_language :
    (∀ s, (Leaf.text s).check = .ok () ↔
      s ≠ "" ∧ (∀ c ∈ s.toList, Unicode.isControl c = false) ∧ ¬ [' ', ' '] <:+: s.toList) ∧
    (∀ mode s, (Leaf.rawHtml mode s).check = .ok () ↔
      (Leaf.text s).check = .ok () ∧ startsWithSpace s = false ∧ endsWithSpace s = false) ∧
    ∀ s, (Leaf.text s).check = .ok () →
      (∀ t, (Leaf.text t).check = .ok () →
        (Leaf.text (merge s t)).check = .ok () ∧ merge s t = collapse (s ++ t) ∧
          ∀ r, merge (merge s t) r = merge s (merge t r)) ∧
      ∀ start stop,
        s = " " ∧ clip start stop s = "" ∨ (Leaf.text (clip start stop s)).check = .ok () := by
  refine ⟨fun s => check_text_eq_ok, fun mode s => check_rawHtml_eq_ok, fun s hs => ⟨?_, ?_⟩⟩
  · intro t ht
    have collapsed : merge s t = collapse (s ++ t) :=
      merge_eq_collapse (check_text_iff.1 hs).single (check_text_iff.1 ht).single
    exact ⟨check_merge hs ht, collapsed, merge_assoc s (ne_empty_of_check ht)⟩
  · exact check_clip hs

/-- Texts with a space at both ends, and a lone space between them. -/
theorem text_language_beginning :
    (Leaf.text "In the ").check = .ok () ∧ (Leaf.text " ").check = .ok () ∧
    (Leaf.text " beginning ").check = .ok () ∧ (Leaf.rawHtml .both "In the ").check ≠ .ok () ∧
    (Leaf.text (merge "In the " " ")).check = .ok () ∧
    merge (merge "In the " " ") " beginning " = merge "In the " (merge " " " beginning ") ∧
    merge "In the " " beginning " = "In the beginning " ∧
    (Leaf.text (clip true true " beginning ")).check = .ok () := by
  obtain ⟨-, raw, closed⟩ := text_language
  have first : (Leaf.text "In the ").check = .ok () := rfl
  have lone : (Leaf.text " ").check = .ok () := rfl
  have last : (Leaf.text " beginning ").check = .ok () := rfl
  obtain ⟨joined, -, assoc⟩ := (closed _ first).1 _ lone
  obtain ⟨-, collapsed, -⟩ := (closed _ first).1 _ last
  refine ⟨first, lone, last, ?_, joined, assoc _, ?_, ?_⟩
  · rw [ne_eq, raw]
    decide
  · rw [collapsed]
    decide
  · exact ((closed _ last).2 true true).resolve_left (by decide)

end ScriptureText.Text
