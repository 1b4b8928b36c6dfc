/-
ScriptureText.Proofs.Lowercase — lower case of lower case.

What the table of letters puts in place of a capital is itself not in the table,
so that lower case stays as it is (`lowercase_lowercase`). This is a fact about
the table as data: it is checked run by run (`isSettled_lowerShifts`), where a
run of partners has to miss every run of capitals, and carried from there to
characters and to texts.
-/
import ScriptureText.Unicode.Lowercase
import Mathlib.Data.List.Basic

namespace ScriptureText.Unicode

/-! ## §1 The table -/

/-- The code points of a run. -/
def Span.points (s : Span) : List Nat := List.range' s.lo ((s.hi - s.lo) / s.step + 1) s.step

theorem Span.contains_iff {s : Span} {n : Nat} :
    s.contains n = true ↔ s.lo ≤ n ∧ n ≤ s.hi ∧ (n - s.lo) % s.step = 0 := by
  simp [Span.contains, and_assoc]

theorem Span.mem_points {s : Span} {n : Nat} (h : s.contains n = true) : n ∈ s.points := by
  obtain ⟨lo, hi, mod⟩ := Span.contains_iff.1 h
  have whole := Nat.div_add_mod (n - s.lo) s.step
  refine List.mem_range'.2 ⟨(n - s.lo) / s.step, ?_, by omega⟩
  exact Nat.lt_succ_of_le (Nat.div_le_div_right (by omega))

/-- No code point of a run is in an ascending table. -/
def Span.misses (a : Span) : List CaseShift → Bool
  | [] => true
  | t :: rest =>
    a.hi.blt t.span.lo ||
      (t.span.hi.blt a.lo || a.points.all fun n => !t.span.contains n) && a.misses rest

theorem Span.shiftOf_of_misses {a : Span} {n : Nat} (h : a.contains n = true) :
    ∀ {table : List CaseShift}, a.misses table = true → shiftOf table n = 0
  | [], _ => rfl
  | t :: rest, missed => by
    obtain ⟨lo, hi, -⟩ := Span.contains_iff.1 h
    simp only [Span.misses, Bool.or_eq_true, Bool.and_eq_true, Nat.blt_eq] at missed
    rw [shiftOf]
    split
    · rfl
    · have behind : ¬ a.hi < t.span.lo := by omega
      obtain ⟨apart, missed⟩ := missed.resolve_left behind
      have outside : t.span.contains n = false := by
        rcases apart with below | none
        · rw [← Bool.not_eq_true, Span.contains_iff]
          omega
        · simpa using List.all_eq_true.1 none n (Span.mem_points h)
      rw [outside, if_neg Bool.false_ne_true]
      exact shiftOf_of_misses h missed

/-- What a table adds to a code point is nothing, or stands in an entry for it. -/
theorem shiftOf_cases (table : List CaseShift) (n : Nat) : shiftOf table n = 0 ∨
    ∃ s ∈ table, s.span.contains n = true ∧ shiftOf table n = s.offset := by
  induction table with
  | nil => exact .inl rfl
  | cons s rest ih =>
    rw [shiftOf]
    split_ifs with hlo hs
    · exact .inl rfl
    · exact .inr ⟨s, List.mem_cons_self, hs, rfl⟩
    · rcases ih with h | ⟨t, mem, ht, h⟩
      · exact .inl h
      · exact .inr ⟨t, List.mem_cons_of_mem s mem, ht, h⟩

/-- The partners of the code points of an entry. -/
def CaseShift.image (s : CaseShift) : Span :=
  ⟨(s.span.lo + s.offset).toNat, (s.span.hi + s.offset).toNat, s.span.step⟩

/-- The partners of an entry are characters, they have no partners, and the capital I with a dot is
none of them. -/
def CaseShift.isSettled (s : CaseShift) : Bool :=
  0 ≤ s.span.lo + s.offset && s.image.misses lowerShifts && !s.image.contains 0x130 &&
    (s.image.hi < 0xd800 || 0xdfff < s.image.lo && s.image.hi < 0x110000)

theorem isSettled_lowerShifts : lowerShifts.all CaseShift.isSettled = true := by decide +kernel

theorem CaseShift.contains_image {s : CaseShift} {n : Nat} (h : s.span.contains n = true)
    (start : 0 ≤ s.span.lo + s.offset) : s.image.contains (n + s.offset).toNat = true := by
  obtain ⟨lo, hi, mod⟩ := Span.contains_iff.1 h
  have same : (n + s.offset).toNat - s.image.lo = n - s.span.lo := by
    simp only [image]
    omega
  refine Span.contains_iff.2 ⟨by simp only [image]; omega, by simp only [image]; omega, ?_⟩
  rw [same]
  exact mod

/-- The partner of a capital is a character, it has no partner, and it is no capital I with a
dot. -/
theorem partner_settled {n : Nat} (h : shiftOf lowerShifts n ≠ 0) :
    let m := (n + shiftOf lowerShifts n).toNat
    m.isValidChar ∧ shiftOf lowerShifts m = 0 ∧ m ≠ 0x130 := by
  intro m
  obtain ⟨s, mem, hs, offset⟩ := (shiftOf_cases lowerShifts n).resolve_left h
  have settled := List.all_eq_true.1 isSettled_lowerShifts s mem
  simp only [CaseShift.isSettled, Bool.and_eq_true, Bool.or_eq_true, decide_eq_true_eq,
    Bool.not_eq_true'] at settled
  obtain ⟨⟨⟨start, missed⟩, dotted⟩, valid⟩ := settled
  have inside : s.image.contains m = true := by
    show s.image.contains (n + shiftOf lowerShifts n).toNat = true
    rw [offset]
    exact CaseShift.contains_image hs start
  obtain ⟨lo, hi, -⟩ := Span.contains_iff.1 inside
  refine ⟨?_, Span.shiftOf_of_misses inside missed, ?_⟩
  · rw [Nat.isValidChar]
    omega
  · intro same
    rw [same, dotted] at inside
    cases inside

/-! ## §2 Characters -/

/-- A character that is its own lower case in every place. -/
structure IsLower (c : Char) : Prop where
  dotted : c ≠ '\u0130'
  sigma : c ≠ '\u03a3'
  same : lowerChar c = c

instance : DecidablePred IsLower := fun c =>
  decidable_of_iff (c ≠ '\u0130' ∧ c ≠ '\u03a3' ∧ lowerChar c = c)
    ⟨fun ⟨h₁, h₂, h₃⟩ => ⟨h₁, h₂, h₃⟩, fun ⟨h₁, h₂, h₃⟩ => ⟨h₁, h₂, h₃⟩⟩

theorem lowerChar_of_shiftOf {c : Char} (h : shiftOf lowerShifts c.toNat = 0) :
    lowerChar c = c := by
  rw [lowerChar, h, Int.add_zero, Int.toNat_natCast, Char.ofNat_toNat]

theorem toNat_lowerChar {c : Char} (h : shiftOf lowerShifts c.toNat ≠ 0) :
    (lowerChar c).toNat = (c.toNat + shiftOf lowerShifts c.toNat).toNat := by
  rw [lowerChar, Char.ofNat, dif_pos (partner_settled h).1]
  rfl

theorem isLower_lowerChar {c : Char} (dotted : c ≠ '\u0130') (sigma : c ≠ '\u03a3') :
    IsLower (lowerChar c) := by
  by_cases h : shiftOf lowerShifts c.toNat = 0
  · have same := lowerChar_of_shiftOf h
    rw [same]
    exact ⟨dotted, sigma, same⟩
  · obtain ⟨-, settled, notDotted⟩ := partner_settled h
    rw [← toNat_lowerChar h] at settled notDotted
    refine ⟨?_, ?_, lowerChar_of_shiftOf settled⟩
    · intro same
      rw [same] at notDotted
      exact notDotted rfl
    · intro same
      rw [same] at settled
      revert settled
      decide

/-! ## §3 Texts -/

theorem isLower_lowerBetween (before : List Char) (c : Char) (after : List Char) :
    ∀ d ∈ lowerBetween before c after, IsLower d := by
  rw [lowerBetween]
  split_ifs with dotted sigma
  · have letter : IsLower 'i' := by decide
    have dot : IsLower '\u0307' := by decide
    simp [letter, dot]
  · have final : IsLower '\u03c2' := by decide
    simpa using final
  · have small : IsLower '\u03c3' := by decide
    simpa using small
  · simpa using isLower_lowerChar dotted sigma

theorem isLower_lowerAfter (before cs : List Char) : ∀ d ∈ lowerAfter before cs, IsLower d := by
  induction cs generalizing before with
  | nil => exact nofun
  | cons c after ih =>
    rw [lowerAfter, List.forall_mem_append]
    exact ⟨isLower_lowerBetween before c after, ih _⟩

theorem lowerAfter_of_isLower {cs : List Char} (h : ∀ c ∈ cs, IsLower c) (before : List Char) :
    lowerAfter before cs = cs := by
  induction cs generalizing before with
  | nil => rfl
  | cons c after ih =>
    obtain ⟨⟨dotted, sigma, same⟩, h⟩ := List.forall_mem_cons.1 h
    rw [lowerAfter, ih h, lowerBetween, if_neg dotted, if_neg sigma, same]
    rfl

/-- Lower case stays as it is. -/
@[simp] theorem lowercase_lowercase (s : String) : lowercase (lowercase s) = lowercase s := by
  rw [lowercase, lowercase, String.toList_ofList,
    lowerAfter_of_isLower (isLower_lowerAfter [] s.toList)]

end ScriptureText.Unicode
