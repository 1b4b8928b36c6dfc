/-
ScriptureText.Proofs.WhitespaceAgreement — normalization has nothing to do
exactly where validation finds no fault with a space.

Attributes to be skipped or refused are what sets the two apart: a validator
neither sees the former nor looks into either. In a tree that keeps the content
of every extra attribute the neighbours of a text are the same for both, and
every node is visited (`Within.exists_visited`). Over such a node the rules on
spaces say what it is for a run not to be changed by trimming
(`WellSpaced.isTrimmed`, with `IsTrimmed.wellSpaced_iff` for the converse), and
a tree is left as it is when none of its runs is changed (`trimmed_eq_self_iff`).

Validation may still fail for something that is not a space, which normalization
does not look at; so the agreement is not an equivalence with passing.
-/
import ScriptureText.Proofs.TrimmedValidation

namespace ScriptureText

open Normalization Validator

/-! ## §1 Attributes whose content is kept -/

/-- Whether an element is other than an attribute whose content is to be skipped or refused. -/
def Element.keepsContent : Element → Bool
  | .container (.extra x) _ => x.priority == .keepContent
  | _ => true

/-- Every extra attribute among the children asks for its content to be kept. -/
def Node.KeepsExtras (n : Node) : Prop := ∀ e ∈ n.children, e.keepsContent = true

instance : DecidablePred Node.KeepsExtras := fun n =>
  inferInstanceAs (Decidable (∀ e ∈ n.children, e.keepsContent = true))

theorem Element.exists_inner {t : Tag} {c : Node} (h : (Element.container t c).keepsContent = true)
    (ctx : Context) : ∃ inner, t.inner? ctx = some inner := by
  cases t with
  | extra x => exact ⟨ctx, if_pos (beq_iff_eq.1 h)⟩
  | _ => exact ⟨_, rfl⟩

theorem Element.isSkipped_of_keepsContent {e : Element} (h : e.keepsContent = true) :
    e.isSkipped = false := by
  rcases e with l | ⟨t, c⟩
  · rfl
  · cases t with
    | extra x => simp [isSkipped, beq_iff_eq.1 h]
    | _ => rfl

theorem Element.keepsContent_mapContent (k : Node → Node) (e : Element) :
    (e.mapContent k).keepsContent = e.keepsContent := by
  cases e with
  | leaf l => rfl
  | container t c => cases t <;> rfl

namespace Node

/-- In a tree that keeps all contents every node is visited. -/
theorem Within.exists_visited {m n : Node} (h : m.Within n) (kept : n.Everywhere KeepsExtras)
    (ctx : Context) : ∃ d, Visited ctx n d m := by
  induction h generalizing ctx with
  | self => exact ⟨ctx, .root ctx _⟩
  | @inside n c t mem _ ih =>
    obtain ⟨own, contents⟩ := everywhere_iff.1 kept
    obtain ⟨inner, entered⟩ := Element.exists_inner (own _ mem) ctx
    obtain ⟨d, visited⟩ := ih (contents t c mem) inner
    exact ⟨d, .inside mem entered visited⟩

theorem KeepsExtras.isSkipped {n : Node} (h : n.KeepsExtras) {e : Element}
    (mem : e ∈ n.children) : e.isSkipped = false := Element.isSkipped_of_keepsContent (h e mem)

theorem KeepsExtras.mapFlags {n : Node} (h : n.KeepsExtras) (k : Bool → Bool) :
    (n.mapRuns id k).KeepsExtras := by
  intro e mem
  rw [children_mapRuns_id, List.mem_map] at mem
  obtain ⟨e', mem', rfl⟩ := mem
  rw [Element.keepsContent_mapContent]
  exact h e' mem'

theorem KeepsExtras.not_spaceAtSkip {n : Node} (h : n.KeepsExtras) : ¬ n.SpaceAtSkip := by
  intro skip
  obtain ⟨e, mem, skipped⟩ := skip.exists_isSkipped
  rw [h.isSkipped mem] at skipped
  cases skipped

/-! ## §2 Runs that are left as they are -/

/-- Where the rules on spaces hold there is nothing to trim. Attributes to be skipped make no
difference here: a text has the more to fear from what it stands next to without them. -/
theorem WellSpaced.isTrimmed {n : Node} (h : n.WellSpaced) (sound : n.Sound) : n.IsTrimmed := by
  refine trimRun_eq_self sound.checked.body fun before s after split => ⟨fun space => ?_,
    fun space => ?_⟩
  · have place : n.children =
        (n.headlines.map Headline.toElement ++ before) ++ .leaf (.text s) :: after := by
      rw [children, split, List.append_assoc]
    obtain ⟨x, last, line⟩ := h.leading _ _ _ (unskipped_split place rfl) space
    rcases List.eq_nil_or_concat before with rfl | ⟨earlier, y, rfl⟩
    · -- the rule speaks of a headline of the headline run
      obtain ⟨hd, -, rfl⟩ : ∃ hd ∈ n.headlines, hd.toElement = x := by
        have := List.mem_of_getLast? last
        simp only [unskipped, List.append_nil, List.mem_filter, List.mem_map] at this
        exact this.1.1
      cases line
    · rw [List.concat_eq_append] at split last ⊢
      have apart := sound.apart
      rw [TextsApart, split] at apart
      have hy : y.isText = false := previous_not_text apart
      rw [List.getLast?_concat]
      cases hskip : y.isSkipped with
      | true => exact Bool.eq_false_iff.2 fun hb => by simp [Element.isSkipped_eq_false (.inl hb)] at hskip
      | false =>
        rw [← List.append_assoc, unskipped_concat hskip] at last
        obtain rfl : y = x := by simpa [hy] using last
        exact line
  · cases after with
    | nil =>
      have place : n.children =
          (n.headlines.map Headline.toElement ++ before) ++ [.leaf (.text s)] := by
        rw [children, split, List.append_assoc]
      have := h.trailing (.leaf (.text s)) (by rw [place, unskipped_concat rfl]; simp)
      rw [Element.endsWithSpace, space] at this
      cases this
    | cons y after =>
      show y.isBlockBoundary = false
      rw [Bool.eq_false_iff]
      intro hb
      have hskip : y.isSkipped = false := Element.isSkipped_eq_false (.inl hb)
      have pair : [.leaf (.text s), y] <:+: unskipped n.children := by
        refine neighbours_iff.2
          ⟨n.headlines.map Headline.toElement ++ before ++ [.leaf (.text s)], after, ?_, hskip, ?_⟩
        · simp [children, split]
        · rw [unskipped_concat rfl, List.getLast?_concat]
      rw [(h.adjacent _ _ pair space).1] at hb
      cases hb

/-- Trimming leaves a sound tree as it is when it leaves every run as it is. -/
theorem trimmed_eq_self_iff {n : Node} (sound : n.Everywhere Sound) :
    n.trimmed = n ↔ n.Everywhere IsTrimmed := by
  constructor
  · intro same
    rw [← same, everywhere_trimmed]
    exact sound.mono fun _ => isTrimmed_trimmed
  · intro runs
    exact mapRuns_eq_self (runs.mono fun _ run => ⟨run, rfl⟩)

/-- A tree that passes validation has nothing to trim, provided that it keeps all contents. -/
theorem everywhere_isTrimmed_of_validateIn {n : Node} (finished : n.finished = true)
    (sound : n.Everywhere Sound) (kept : n.Everywhere KeepsExtras) {lookup : VerseLookup}
    {ctx : Context} {dangling : List DanglingReference}
    (passes : (n.validateIn lookup ctx dangling).1 = .ok ()) : n.Everywhere IsTrimmed := by
  intro m hm
  have clean := (validateIn_eq_ok_iff finished).1 passes
  obtain ⟨d, visited⟩ := hm.exists_visited kept ctx
  have conforms := conforms_of_not_breaks fun v broken => clean v ⟨d, m, visited, broken⟩
  exact conforms.toWellSpaced.isTrimmed (sound m hm)

end Node

/-! ## §3 Agreement -/

/-- For an open tree that keeps the content of every extra attribute: if the
finished tree passes validation, normalization changes nothing at any depth; and
if normalization changes nothing, the finished tree breaks no rule on spaces. -/
theorem validation_agrees_with_normalization {n : Node} (reachable : Reachable n)
    (isOpen : n.finished = false) (kept : n.Everywhere Node.KeepsExtras) :
    ∃ n', n.finish = .ok n' ∧ ∀ lookup ctx dangling,
      ((n'.validateIn lookup ctx dangling).1 = .ok () →
        ∀ options, n.trimWhitespace options = .ok n) ∧
      (n.trimWhitespace .standard = .ok n → ∀ v, v.isWhitespace = true →
        (n'.validateIn lookup ctx dangling).1 ≠ .error (.structural v)) := by
  have sound := reachable.sound
  have trims := Node.trimWhitespace_standard sound isOpen
  have keptSealed : n.seal.Everywhere Node.KeepsExtras := by
    rw [Node.seal_eq_mapRuns, Node.everywhere_mapRuns (g := id) fun _ _ _ => Iff.rfl]
    exact fun m hm => (kept m hm).mapFlags _
  have finishes := Node.finish_of_open isOpen
  refine ⟨n.seal, finishes, fun lookup ctx dangling => ⟨fun passes options => ?_, ?_⟩⟩
  · have soundSealed := Node.kept_sound.finish sound finishes
    have runs := Node.everywhere_isTrimmed_of_validateIn (Node.finished_seal n) soundSealed
      keptSealed passes
    -- the flags are those of an open tree again after reopening
    have same : n.trimmed = n := by
      rw [Node.trimmed_eq_self_iff sound,
        ← Node.reopened_seal (reachable.oneFlag.of_open isOpen), Node.reopened,
        Node.everywhere_mapRuns (g := id) fun _ _ _ => Iff.rfl]
      exact fun m hm => (runs m hm).mapFlags _
    obtain ⟨keepWhitespace⟩ := options
    cases keepWhitespace with
    | true =>
      rw [Node.trimWhitespace, Node.requireOpen, isOpen]
      rfl
    | false => exact trims.trans (congrArg _ same)
  · intro unchanged v whitespace failed
    rw [trims, Except.ok.injEq] at unchanged
    have nodes := Node.everywhere_isTrimmed sound
    rw [unchanged] at nodes
    rcases Node.validateIn_cases (Node.finished_seal n) lookup ctx dangling with
      ⟨-, passes⟩ | ⟨v', ⟨d, m, visited, broken⟩, fails⟩
    · rw [passes] at failed
      cases failed
    · rw [fails] at failed
      cases failed
      obtain ⟨soundNode, run⟩ := nodes m visited.within
      have spaced := (run.wellSpaced_iff soundNode).2
        (keptSealed m visited.within).not_spaceAtSkip
      rw [not_isWhitespace_of_breaks spaced broken] at whitespace
      cases whitespace

/-- A verse with an attribute in the middle passes, so that nothing in it is trimmed; and hence
no space in it is rejected, wherever it stands. -/
theorem validation_agrees_with_normalization_verse :
    let n : Node := ⟨[], [.leaf (.text "Let there "),
      .container (.extra ⟨.keepContent, "osis", "k", "v"⟩) ⟨[], [.leaf (.text "be")], false⟩,
      .leaf (.text " light"), .leaf .verseSeparator], false⟩
    ∃ n', n.finish = .ok n' ∧ (∀ options, n.trimWhitespace options = .ok n) ∧
      ∀ lookup ctx dangling v, v.isWhitespace = true →
        (n'.validateIn lookup ctx dangling).1 ≠ .error (.structural v) := by
  intro n
  have built : Reachable n := .perform [.leaf (.text "Let there "),
    .container (.extra ⟨.keepContent, "osis", "k", "v"⟩) [.leaf (.text "be")],
    .leaf (.text " light"), .leaf .verseSeparator] .empty rfl
  have kept : n.Everywhere Node.KeepsExtras := by decide
  obtain ⟨n', finishes, agree⟩ := validation_agrees_with_normalization built rfl kept
  have passes : (n'.validateIn Bible.empty.verseIndex .verse []).1 = .ok () := by
    cases finishes
    rfl
  have unchanged := (agree Bible.empty.verseIndex .verse []).1 passes
  exact ⟨n', finishes, unchanged, fun lookup ctx dangling =>
    (agree lookup ctx dangling).2 (unchanged .standard)⟩

end ScriptureText
