/-
ScriptureText.Proofs.Fields — what the checks of an element's fields establish.

A check reports the first field that is malformed, so that it succeeds exactly
if every field is in order. Each `check_eq_ok` below spells that out for one
kind of container, with the strings described by the language of their pattern.

What one can use of a string in the language of a pattern is mostly which
characters are not in it (`Matches.not_mem`).
-/
import ScriptureText.Proofs.Pattern
import ScriptureText.Tree.Check

namespace ScriptureText

/-! ## §1 Characters of a pattern -/

namespace Pattern

/-- Whether a character may occur in what a pattern stands for. -/
def mentions : Pattern → Char → Bool
  | .literal cs, c => cs.contains c
  | .oneOf k, c => k.contains c
  | .seq a b, c => a.mentions c || b.mentions c
  | .either a b, c => a.mentions c || b.mentions c
  | .opt a, c => a.mentions c
  | .many a, c => a.mentions c
  | .oneOrMore a, c => a.mentions c
  | .times _ a, c => a.mentions c

variable {p : Pattern} {w : List Char}

/-- A text of the language has no characters but those of the pattern. -/
theorem Matches.mentions (h : Matches p w) {c : Char} (mem : c ∈ w) : p.mentions c = true := by
  induction h with
  | literal cs => simpa [Pattern.mentions] using mem
  | oneOf hk =>
    rw [List.mem_singleton.1 mem]
    exact hk
  | seq _ _ iha ihb =>
    rw [Pattern.mentions, Bool.or_eq_true]
    exact (List.mem_append.1 mem).imp iha ihb
  | left _ ih => simp [Pattern.mentions, ih mem]
  | right _ ih => simp [Pattern.mentions, ih mem]
  | absent => cases mem
  | present _ ih => exact ih mem
  | manyNil => cases mem
  | manyCons _ _ iha ihm => exact (List.mem_append.1 mem).elim iha ihm
  | oneOrMore _ _ iha ihm => exact (List.mem_append.1 mem).elim iha ihm
  | timesZero => cases mem
  | timesSucc _ _ iha ihm => exact (List.mem_append.1 mem).elim iha ihm

theorem Matches.not_mem (h : Matches p w) {c : Char} (absent : p.mentions c = false) : c ∉ w := by
  intro mem
  rw [h.mentions mem] at absent
  cases absent

end Pattern

/-! ## §2 Single checks -/

section Checks

variable {f : Field} {s : String} {p : Pattern}

theorem Field.require_eq_ok {c : Constraint} {holds : Bool} :
    f.require s c holds = .ok () ↔ holds = true := by
  cases holds <;> simp [Field.require]

theorem Field.checkString_eq_ok : f.checkString s p = .ok () ↔ p.Matches s.toList := by
  rw [Field.checkString, Field.require_eq_ok, Pattern.accepts_iff]

theorem Field.checkNumber_eq_ok {n lo hi : Nat} :
    f.checkNumber n lo hi = .ok () ↔ lo ≤ n ∧ n ≤ hi := by
  simp [Field.checkNumber, Field.require_eq_ok]

/-- Two checks in a row. -/
theorem check_bind_eq_ok {x : Except Error Unit} {y : Unit → Except Error Unit} :
    (x >>= y) = .ok () ↔ x = .ok () ∧ y () = .ok () := by
  cases x <;> simp [bind, Except.bind]

/-- One check for each item of a list. -/
theorem check_forM_eq_ok {α : Type} {check : α → Except Error Unit} {xs : List α} :
    xs.forM check = .ok () ↔ ∀ x ∈ xs, check x = .ok () := by
  induction xs with
  | nil => simp [pure, Except.pure]
  | cons x rest ih =>
    rw [List.forM_eq_forM] at ih ⊢
    rw [List.forM_cons, check_bind_eq_ok, ih, List.forall_mem_cons]

end Checks

/-! ## §3 Containers -/

theorem Tag.check_headline_eq_ok {d : Nat} :
    (Tag.headline d).check = .ok () ↔ 1 ≤ d ∧ d ≤ 9 := Field.checkNumber_eq_ok

/-- What a check asks of a passage. -/
structure Passage.InOrder (p : Passage) : Prop where
  abbreviation : Pattern.abbreviation.Matches p.abbreviation.toList
  firstChapter : 1 ≤ p.firstChapter
  firstVerse : Pattern.verse.Matches p.firstVerse.toList
  chapters : p.firstChapter ≤ p.lastChapter
  lastChapter : p.lastChapter ≤ maxChapter
  lastVerse : Pattern.verse.Matches p.lastVerse.toList

theorem Passage.check_eq_ok {p : Passage} : p.check = .ok () ↔ p.InOrder := by
  simp only [Passage.check, check_bind_eq_ok, Field.checkString_eq_ok, Field.checkNumber_eq_ok]
  constructor
  · rintro ⟨abbreviation, ⟨first, -⟩, firstVerse, ⟨chapters, last⟩, lastVerse⟩
    exact ⟨abbreviation, first, firstVerse, chapters, last, lastVerse⟩
  · rintro ⟨abbreviation, first, firstVerse, chapters, last, lastVerse⟩
    exact ⟨abbreviation, ⟨first, Nat.le_trans chapters last⟩, firstVerse, ⟨chapters, last⟩, lastVerse⟩

/-- What a check asks of grammar information. -/
structure Grammar.InOrder (g : Grammar) : Prop where
  nonempty : g.strongs ≠ []
  positive : ∀ n ∈ g.strongs, n ≠ 0
  rmac : ∀ codes ∈ g.rmac, codes.length = g.strongs.length ∧
    ∀ code ∈ codes, Pattern.rmac.Matches code.toList
  needsRmac : g.sourceIndices.isSome → g.rmac.isSome
  sourceIndices : ∀ indices ∈ g.sourceIndices, indices.length = g.strongs.length ∧
    ∀ i ∈ indices, 1 ≤ i ∧ i ≤ 100

theorem Grammar.checkStrongs_eq_ok {strongs : List Nat} :
    checkStrongs strongs = .ok () ↔ strongs ≠ [] ∧ ∀ n ∈ strongs, n ≠ 0 := by
  rw [checkStrongs, check_bind_eq_ok, Field.require_eq_ok]
  refine and_congr (by simp) ?_
  cases hz : strongs.find? (· == 0) with
  | none => simpa using hz
  | some n =>
    have zero : n = 0 := by simpa using List.find?_some hz
    have mem := List.mem_of_find?_eq_some hz
    exact iff_of_false nofun fun h => h n mem zero

theorem Grammar.checkIndices_eq_ok {count : Nat} {indices : List Nat} :
    checkIndices count indices = .ok () ↔
      indices.length = count ∧ ∀ i ∈ indices, 1 ≤ i ∧ i ≤ 100 := by
  simp only [checkIndices, check_bind_eq_ok, Field.require_eq_ok, check_forM_eq_ok,
    Field.checkNumber_eq_ok, beq_iff_eq]

theorem Grammar.check_eq_ok {g : Grammar} : g.check = .ok () ↔ g.InOrder := by
  obtain ⟨strongs, rmac, indices⟩ := g
  rw [Grammar.check, check_bind_eq_ok, checkStrongs_eq_ok]
  constructor
  · rintro ⟨⟨nonempty, positive⟩, h⟩
    cases rmac with
    | none =>
      cases indices with
      | none => exact ⟨nonempty, positive, by simp, by simp, by simp⟩
      | some is => cases h
    | some codes =>
      simp only [check_bind_eq_ok, Field.require_eq_ok, check_forM_eq_ok, Field.checkString_eq_ok,
        beq_iff_eq] at h
      refine ⟨nonempty, positive, by simpa using ⟨h.1, h.2.1⟩, by simp, ?_⟩
      cases indices with
      | none => simp
      | some is => simpa [checkIndices_eq_ok] using h.2.2
  · rintro ⟨nonempty, positive, hr, hn, hi⟩
    refine ⟨⟨nonempty, positive⟩, ?_⟩
    cases rmac with
    | none =>
      cases indices with
      | none => rfl
      | some is => simp at hn
    | some codes =>
      obtain ⟨length, codes_match⟩ := hr codes rfl
      simp only [check_bind_eq_ok, Field.require_eq_ok, check_forM_eq_ok, Field.checkString_eq_ok,
        beq_iff_eq]
      refine ⟨length, codes_match, ?_⟩
      cases indices with
      | none => rfl
      | some is => exact checkIndices_eq_ok.2 (hi is rfl)

theorem checkVariations_eq_ok {variations : List String} :
    checkVariations variations = .ok () ↔
      variations ≠ [] ∧ ∀ v ∈ variations, Pattern.alnumHyphen.Matches v.toList := by
  rw [checkVariations, check_bind_eq_ok, Field.require_eq_ok, check_forM_eq_ok]
  simp only [Field.checkString_eq_ok, Bool.not_eq_true', List.isEmpty_eq_false_iff]

end ScriptureText
