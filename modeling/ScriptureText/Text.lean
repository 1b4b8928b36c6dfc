/-
ScriptureText.Text — joining and trimming of text. Where two texts meet with a
space on both sides, one of the two spaces is dropped.
-/

namespace ScriptureText.Text

/-! ## §1 Spaces at the ends -/

/-- Whether a text starts with a space. -/
def startsWithSpace (s : String) : Bool := s.toList.head? == some ' '

/-- Whether a text ends with a space. -/
def endsWithSpace (s : String) : Bool := s.toList.getLast? == some ' '

/-- A text without one leading space. -/
def trimStart (s : String) : String :=
  if startsWithSpace s then String.ofList s.toList.tail else s

/-- A text without one trailing space. -/
def trimEnd (s : String) : String :=
  if endsWithSpace s then String.ofList s.toList.dropLast else s

/-! ## §2 Joining -/

/-- Two texts in sequence; one of two spaces at the seam is dropped. -/
def merge (previous next : String) : String :=
  previous ++ if endsWithSpace previous then trimStart next else next

/-! ## §3 Lengths -/

/-- Trimming at the start shortens what it changes. -/
theorem length_trimStart (s : String) : trimStart s = s ∨ (trimStart s).length < s.length := by
  unfold trimStart
  split
  next h =>
    right
    have : s.toList ≠ [] := by intro e; simp [startsWithSpace, e] at h
    have := List.length_pos_iff.2 this
    rw [String.length_ofList, List.length_tail, ← String.length_toList]
    omega
  next => exact Or.inl rfl

/-- Trimming at the end shortens what it changes. -/
theorem length_trimEnd (s : String) : trimEnd s = s ∨ (trimEnd s).length < s.length := by
  unfold trimEnd
  split
  next h =>
    right
    have : s.toList ≠ [] := by intro e; simp [endsWithSpace, e] at h
    have := List.length_pos_iff.2 this
    rw [String.length_ofList, List.length_dropLast, ← String.length_toList]
    omega
  next => exact Or.inl rfl

/-- Joining adds no characters. -/
theorem length_merge (a b : String) : (merge a b).length ≤ a.length + b.length := by
  unfold merge
  rw [String.length_append]
  split
  · rcases length_trimStart b with h | h
    · have := congrArg String.length h
      omega
    · omega
  · exact Nat.le_refl _

end ScriptureText.Text
