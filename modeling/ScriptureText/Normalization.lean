/-
ScriptureText.Normalization — removing spaces that validation would reject. In
every body run, adjacent text leaves become one, a space at the start of the
run or after a line break or headline goes, a space at the end of the run or
before a line break or headline goes, and text left empty goes. A pass over a
run may leave work for another, so passes are repeated until one changes
nothing; each that changes something makes the run lighter (`weight_scan`).
-/
import ScriptureText.Text
import ScriptureText.Tree.Check
import ScriptureText.Tree.Lifecycle

namespace ScriptureText

/-- How whitespace is normalized. -/
structure NormalizeOptions where
  /-- Leave everything as it was built. -/
  keepWhitespace : Bool
  deriving DecidableEq, Repr, Inhabited

/-- Whitespace is normalized unless told otherwise. -/
def NormalizeOptions.standard : NormalizeOptions := ⟨false⟩

namespace Normalization

/-! ## §1 One pass over a run -/

/-- Text without the spaces that its neighbours do not allow. -/
def trimmed (left right : Option Element) (s : String) : String :=
  let atStart := left.all (·.isBlockBoundary)
  let atEnd := right.all (·.isBlockBoundary)
  let s := if atStart then Text.trimStart s else s
  if atEnd then Text.trimEnd s else s

/-- The result of a pass that has changed something. -/
def noted (result : Except Error (List Element × Bool)) : Except Error (List Element × Bool) :=
  result.map fun r => (r.1, true)

/-- A pass over `rest`; what it has left behind is `done`, in reverse. Text
after a text is merged into it, and other text is trimmed. The result says
whether anything changed. -/
def scan : List Element → List Element → Except Error (List Element × Bool)
  | done, [] => .ok (done.reverse, false)
  | .leaf (.text previous) :: before, .leaf (.text s) :: rest =>
    match (Leaf.text (Text.merge previous s)).check with
    | .error e => .error e
    | .ok () => noted (scan (.leaf (.text (Text.merge previous s)) :: before) rest)
  | done, .leaf (.text s) :: rest =>
    let t := trimmed done.head? rest.head? s
    if t = s then scan (.leaf (.text s) :: done) rest
    else if t.isEmpty then noted (scan done rest)
    else
      match (Leaf.text t).check with
      | .error e => .error e
      | .ok () => noted (scan (.leaf (.text t) :: done) rest)
  | done, e :: rest => scan (e :: done) rest

/-- One pass over a run. -/
def pass (run : List Element) : Except Error (List Element × Bool) := scan [] run

/-! ## §2 Weight -/

/-- One for each element, and one for each character of text. -/
def weight : List Element → Nat
  | [] => 0
  | e :: rest => 1 + (e.text?.map (·.length)).getD 0 + weight rest

theorem weight_append (a b : List Element) : weight (a ++ b) = weight a + weight b := by
  induction a with
  | nil => simp [weight]
  | cons e rest ih => simp [weight, ih]; omega

theorem weight_reverse (a : List Element) : weight a.reverse = weight a := by
  induction a with
  | nil => rfl
  | cons e rest ih => simp [weight_append, weight, ih]; omega

theorem weight_text (s : String) (run : List Element) :
    weight (.leaf (.text s) :: run) = 1 + s.length + weight run := rfl

/-- Trimming by neighbours shortens what it changes. -/
theorem length_trimmed (left right : Option Element) (s : String) :
    trimmed left right s = s ∨ (trimmed left right s).length < s.length := by
  unfold trimmed
  by_cases hl : left.all (·.isBlockBoundary) <;> by_cases hr : right.all (·.isBlockBoundary) <;>
    simp only [hl, hr, if_true, if_false, Bool.false_eq_true]
  · rcases Text.length_trimStart s with h | h
    · rw [h]; exact Text.length_trimEnd s
    · rcases Text.length_trimEnd (Text.trimStart s) with h' | h'
      · rw [h']; exact Or.inr h
      · right; omega
  · exact Text.length_trimStart s
  · exact Text.length_trimEnd s
  · exact Or.inl trivial

theorem of_noted {result : Except Error (List Element × Bool)} {run : List Element}
    {changed : Bool} (h : noted result = .ok (run, changed)) :
    changed = true ∧ ∃ c, result = .ok (run, c) := by
  cases result with
  | error e => cases h
  | ok r =>
    obtain ⟨run', c⟩ := r
    cases h
    exact ⟨rfl, c, rfl⟩

/-- A pass makes a run no heavier, and lighter when it changes something. -/
theorem weight_scan {done rest run : List Element} {changed : Bool}
    (h : scan done rest = .ok (run, changed)) :
    weight run + changed.toNat ≤ weight done + weight rest := by
  fun_induction scan done rest generalizing run changed with
  | case1 done =>
    cases h
    simp [weight_reverse, weight]
  | case2 => cases h
  | case3 previous before s rest _ ih =>
    obtain ⟨rfl, c, h⟩ := of_noted h
    have := ih h
    have := Text.length_merge previous s
    simp only [weight_text, Bool.toNat_true] at *
    omega
  | case4 =>
    rename_i done s rest _ t ht ih
    have := ih h
    simp only [weight_text] at *
    omega
  | case5 =>
    rename_i done s rest _ t ht he ih
    obtain ⟨rfl, c, h⟩ := of_noted h
    have := ih h
    simp only [weight_text, Bool.toNat_true] at *
    omega
  | case6 => cases h
  | case7 =>
    rename_i done s rest _ t ht he hc ih
    obtain ⟨rfl, c, h⟩ := of_noted h
    have := ih h
    have := (length_trimmed done.head? rest.head? s).resolve_left ht
    simp only [weight_text, Bool.toNat_true, t] at *
    omega
  | case8 done e rest _ _ ih =>
    have := ih h
    simp only [weight] at *
    omega

theorem weight_pass {run run' : List Element} (h : pass run = .ok (run', true)) :
    weight run' < weight run := by
  have := weight_scan h
  simp only [weight, Bool.toNat_true] at this
  omega

/-! ## §3 All passes -/

/-- Passes over a run until one changes nothing, with the number of those that
changed something. -/
def settle (run : List Element) : Except Error (List Element × Nat) :=
  match h : pass run with
  | .error e => .error e
  | .ok (run', false) => .ok (run', 0)
  | .ok (run', true) => (settle run').map fun r => (r.1, r.2 + 1)
termination_by weight run
decreasing_by exact weight_pass h

/-- A run after all passes. -/
def settled (run : List Element) : Except Error (List Element) := (settle run).map (·.1)

end Normalization

/-! ## §4 Trees -/

mutual

/-- A node with its whitespace normalized, from the inside outwards. -/
def Node.normalizeRuns : Node → Except Error Node
  | ⟨hs, b, f⟩ => do
    let hs ← Headline.normalizeContents hs
    let b ← Element.normalizeContents b
    let b ← Normalization.settled b
    return ⟨hs, b, f⟩

/-- A headline run with the content of each headline normalized. -/
def Headline.normalizeContents : List Headline → Except Error (List Headline)
  | [] => .ok []
  | ⟨d, c⟩ :: rest => do
    let c ← c.normalizeRuns
    let rest ← Headline.normalizeContents rest
    return ⟨d, c⟩ :: rest

/-- A body run with the content of each container normalized. -/
def Element.normalizeContents : List Element → Except Error (List Element)
  | [] => .ok []
  | .leaf l :: rest => do
    let rest ← Element.normalizeContents rest
    return .leaf l :: rest
  | .container t c :: rest => do
    let c ← c.normalizeRuns
    let rest ← Element.normalizeContents rest
    return .container t c :: rest

end

/-- An open node with its whitespace normalized at every depth. -/
def Node.trimWhitespace (n : Node) (options : NormalizeOptions) : Except Error Node := do
  n.requireOpen .normalize
  if options.keepWhitespace then return n else n.normalizeRuns

end ScriptureText
