/-
ScriptureText.Proofs.TrimmedValidation — normalized trees and the rules on
spaces.

Normalization and validation agree on where a line starts and ends, except for
one thing: a validator does not see attributes to be skipped, and normalization
does. A space that such attributes separate from the start or the end of its
line, or from another space, is therefore kept by the one and rejected by the
other (`SpaceAtSkip`).

`whitespace_rules_after_trimming` shows that this is the only way in which a
normalized tree breaks a rule on spaces, and that a tree with such a space never
passes: it fails for the space, unless it fails for something out of place before.
-/
import ScriptureText.Proofs.Reachable
import ScriptureText.Proofs.StructuralRules

namespace ScriptureText

open Normalization Validator

/-! ## §1 Places of spaces -/

theorem Normalization.elim_getLast?_cons (b : Bool) (x : Element) (before : List Element) :
    (x :: before).getLast?.elim b Element.isBlockBoundary =
      before.getLast?.elim x.isBlockBoundary Element.isBlockBoundary := by
  cases before with
  | nil => rfl
  | cons y before =>
    rw [List.getLast?_cons_cons, List.getLast?_eq_some_getLast (List.cons_ne_nil y before)]
    rfl

/-- What trimming does not change has spaces only within a line: behind an element, and before
one. -/
theorem Normalization.of_trimRun_eq_self {run before after : List Element} {s : String} {b : Bool}
    (checked : ∀ e ∈ run, e.check = .ok ()) (h : trimRun b run = run)
    (split : run = before ++ .leaf (.text s) :: after) :
    (Text.startsWithSpace s = true → before.getLast?.elim b Element.isBlockBoundary = false) ∧
      (Text.endsWithSpace s = true → lineEnds after = false) := by
  induction before generalizing run b with
  | nil =>
    subst split
    rw [List.nil_append] at checked h
    have spaced := Text.check_text_iff.1 (List.forall_mem_cons.1 checked).1
    obtain ⟨start, stop⟩ := Text.of_clip_eq_self spaced (of_trimRun_text_eq h).1
    constructor
    · intro hs
      show b = false
      rw [Bool.eq_false_iff]
      intro hb
      rw [start hb] at hs
      cases hs
    · intro hs
      rw [Bool.eq_false_iff]
      intro hb
      rw [stop hb] at hs
      cases hs
  | cons x before ih =>
    subst split
    rw [List.cons_append] at checked h
    rw [List.forall_mem_cons] at checked
    rw [elim_getLast?_cons]
    rcases text_or_not x with ⟨t, rfl⟩ | hx
    · exact ih checked.2 (of_trimRun_text_eq h).2 rfl
    · rw [trimRun_cons hx] at h
      exact ih checked.2 (List.cons.inj h).2 rfl

/-- Conversely, where spaces stand within a line nothing is trimmed. -/
theorem Normalization.trimRun_eq_self {run : List Element} {b : Bool}
    (checked : ∀ e ∈ run, e.check = .ok ())
    (within : ∀ before s after, run = before ++ .leaf (.text s) :: after →
      (Text.startsWithSpace s = true → before.getLast?.elim b Element.isBlockBoundary = false) ∧
        (Text.endsWithSpace s = true → lineEnds after = false)) : trimRun b run = run := by
  induction run generalizing b with
  | nil => exact trimRun_nil b
  | cons x rest ih =>
    rw [List.forall_mem_cons] at checked
    have behind : trimRun x.isBlockBoundary rest = rest := by
      refine ih checked.2 fun before s after split => ?_
      have place := within (x :: before) s after (by rw [split, List.cons_append])
      rwa [elim_getLast?_cons] at place
    rcases text_or_not x with ⟨s, rfl⟩ | hx
    · obtain ⟨start, stop⟩ := within [] s rest rfl
      have whole : Text.clip b (lineEnds rest) s = s := by
        refine Text.clip_of_not (fun hb => ?_) fun ends => ?_
        · exact Bool.eq_false_iff.2 fun hs => Bool.noConfusion (hb.symm.trans (start hs))
        · exact Bool.eq_false_iff.2 fun hs => Bool.noConfusion (ends.symm.trans (stop hs))
      rw [trimRun_text, whole, if_neg (Text.ne_empty_of_check checked.1)]
      exact congrArg _ behind
    · rw [trimRun_cons hx, behind]

namespace Node

/-- In the body of a node nothing is left to trim. -/
def IsTrimmed (n : Node) : Prop := trimRun true n.body = n.body

theorem isTrimmed_trimmed {n : Node} (h : n.Sound) : n.trimmed.IsTrimmed := by
  rw [IsTrimmed, body_trimmed, trimRun_map,
    trimRun_trimRun h.apart fun e mem _ => h.checked.body e mem]

theorem IsTrimmed.mapFlags {n : Node} (h : n.IsTrimmed) (k : Bool → Bool) :
    (n.mapRuns id k).IsTrimmed := by
  rw [IsTrimmed, body_mapRuns, id, trimRun_map, h]

/-- A leaf among the children stands in the body. -/
theorem body_split {n : Node} {before after : List Element} {l : Leaf}
    (split : n.children = before ++ .leaf l :: after) :
    ∃ read, before = n.headlines.map Headline.toElement ++ read ∧ n.body = read ++ .leaf l :: after := by
  rw [children, List.append_eq_append_iff] at split
  rcases split with ⟨read, hb, hbody⟩ | ⟨read, hh, hrest⟩
  · exact ⟨read, hb, hbody⟩
  · cases read with
    | nil => exact ⟨[], by simpa using hh.symm, by simpa using hrest.symm⟩
    | cons x read =>
      cases hrest
      have mem : Element.leaf l ∈ n.headlines.map Headline.toElement := by
        rw [hh]
        simp
      obtain ⟨h, -, heq⟩ := List.mem_map.1 mem
      cases heq

/-- After a space that is left at the end of a text there is more in its line. -/
theorem IsTrimmed.next {n : Node} (h : n.IsTrimmed) (sound : n.Sound) {s : String}
    {before after : List Element} (split : n.children = before ++ .leaf (.text s) :: after)
    (space : Text.endsWithSpace s = true) :
    ∃ x ∈ after.head?, x.isBlockBoundary = false ∧ x.isText = false := by
  obtain ⟨read, -, hbody⟩ := body_split split
  have more := (of_trimRun_eq_self sound.checked.body h hbody).2 space
  have apart := sound.apart
  rw [TextsApart, hbody] at apart
  cases after with
  | nil => cases more
  | cons x after =>
    exact ⟨x, rfl, more, next_not_text (List.isChain_append.1 apart).2.1 x rfl⟩

/-- Before a text comes no text. -/
theorem previous_not_text {before after : List Element} {x : Element} {s : String}
    (h : (before ++ [x] ++ .leaf (.text s) :: after).IsChain Element.NotBothText) :
    x.isText = false := by
  have := (List.isChain_append.1 h).2.2 x (by simp) _ rfl
  simpa [Element.NotBothText, Element.isText_leaf_text] using this

/-- Before a space that is left at the start of a text there is more in its line. -/
theorem IsTrimmed.previous {n : Node} (h : n.IsTrimmed) (sound : n.Sound) {s : String}
    {before after : List Element} (split : n.children = before ++ .leaf (.text s) :: after)
    (space : Text.startsWithSpace s = true) :
    ∃ read x, before = read ++ [x] ∧ x.isBlockBoundary = false ∧ x.isText = false := by
  obtain ⟨read, rfl, hbody⟩ := body_split split
  have more := (of_trimRun_eq_self sound.checked.body h hbody).1 space
  have apart := sound.apart
  rw [TextsApart, hbody] at apart
  rcases List.eq_nil_or_concat read with rfl | ⟨read, x, rfl⟩
  · cases more
  · rw [List.concat_eq_append] at more apart ⊢
    exact ⟨n.headlines.map Headline.toElement ++ read, x, by simp, by simpa using more,
      previous_not_text apart⟩

/-! ## §2 Spaces next to attributes to be skipped -/

/-- A space that only attributes to be skipped separate from where it may not stand. -/
inductive SpaceAtSkip (n : Node) : Prop where
  /-- The space ends a text; then come attributes to be skipped, and then the end of the node, a
  line break, a headline or another space. -/
  | trailing {before skipped after : List Element} {s : String}
      (split : n.children = before ++ .leaf (.text s) :: (skipped ++ after))
      (space : Text.endsWithSpace s = true) (some : skipped ≠ [])
      (all : ∀ e ∈ skipped, e.isSkipped = true)
      (next : ∀ e ∈ after.head?, e.isBlockBoundary = true ∨ e.startsWithSpace = true)
  /-- The space starts a text; before it come attributes to be skipped, and before these there is
  nothing in its line but texts and attributes to be skipped. -/
  | leading {before skipped after : List Element} {s : String}
      (split : n.children = before ++ (skipped ++ .leaf (.text s) :: after))
      (space : Text.startsWithSpace s = true) (some : skipped ≠ [])
      (all : ∀ e ∈ skipped, e.isSkipped = true)
      (previous : ∀ x ∈ ((unskipped before).filter (!·.isText)).getLast?, x.isBlockBoundary = true)

theorem unskipped_eq_nil {es : List Element} :
    unskipped es = [] ↔ ∀ e ∈ es, e.isSkipped = true := by
  simp [unskipped, List.filter_eq_nil_iff]

/-- Such a space breaks a rule. -/
theorem SpaceAtSkip.not_wellSpaced {n : Node} (h : n.SpaceAtSkip) : ¬ n.WellSpaced := by
  intro spaced
  cases h with
  | @trailing before skipped after s split space some all next =>
    have seen := unskipped_split split rfl
    rw [unskipped_append, unskipped_eq_nil.2 all, List.nil_append] at seen
    cases after with
    | nil =>
      have := spaced.trailing (.leaf (.text s)) (by rw [seen]; simp [unskipped])
      rw [Element.endsWithSpace, space] at this
      cases this
    | cons e after =>
      have he := next e rfl
      have hskip : e.isSkipped = false := Element.isSkipped_eq_false he
      have pair : [.leaf (.text s), e] <:+: unskipped n.children :=
        ⟨unskipped before, unskipped after, by rw [seen, unskipped_cons hskip]; simp⟩
      have := spaced.adjacent _ _ pair space
      simp [this] at he
  | @leading before skipped after s split space some all previous =>
    rw [← List.append_assoc] at split
    obtain ⟨x, hx, hb⟩ := spaced.leading _ _ _ (unskipped_split split rfl) space
    rw [unskipped_append, unskipped_eq_nil.2 all, List.append_nil] at hx
    rw [previous x hx] at hb
    cases hb

theorem SpaceAtSkip.exists_isSkipped {n : Node} (h : n.SpaceAtSkip) :
    ∃ e ∈ n.children, e.isSkipped = true := by
  cases h with
  | trailing split space some all next =>
    obtain ⟨e, mem⟩ := List.exists_mem_of_ne_nil _ some
    exact ⟨e, by rw [split]; simp [mem], all e mem⟩
  | leading split space some all previous =>
    obtain ⟨e, mem⟩ := List.exists_mem_of_ne_nil _ some
    exact ⟨e, by rw [split]; simp [mem], all e mem⟩

/-- In a trimmed node a space at the end of a text is well placed unless attributes to be skipped
stand behind it. -/
theorem IsTrimmed.spaceAtSkip {n : Node} (h : n.IsTrimmed) (sound : n.Sound) {s : String}
    {before skipped after : List Element}
    (split : n.children = before ++ .leaf (.text s) :: (skipped ++ after))
    (space : Text.endsWithSpace s = true) (none : unskipped skipped = [])
    (next : ∀ e ∈ after.head?, e.isBlockBoundary = true ∨ e.startsWithSpace = true) :
    n.SpaceAtSkip := by
  refine .trailing split space ?_ (unskipped_eq_nil.1 none) next
  rintro rfl
  obtain ⟨x, hx, hb, ht⟩ := h.next sound split space
  rcases next x hx with hb' | hs
  · rw [hb] at hb'
    cases hb'
  · obtain ⟨t, rfl, -⟩ := Element.startsWithSpace_iff.1 hs
    cases ht

/-- A trimmed node breaks a rule on spaces only where there are attributes to be skipped. -/
theorem IsTrimmed.wellSpaced {n : Node} (h : n.IsTrimmed) (sound : n.Sound)
    (noSkip : ¬ n.SpaceAtSkip) : n.WellSpaced where
  trailing := by
    intro e he
    rw [Bool.eq_false_iff]
    intro hs
    obtain ⟨s, rfl, space⟩ := Element.endsWithSpace_iff.1 hs
    obtain ⟨read, hread⟩ := List.getLast?_eq_some_iff.1 he
    obtain ⟨before, skipped, split, -, -, none⟩ := exists_split hread
    rw [← List.append_nil skipped] at split
    exact noSkip (h.spaceAtSkip sound split space none (by simp))
  adjacent := by
    intro a b pair ha
    obtain ⟨s, rfl, space⟩ := Element.endsWithSpace_iff.1 ha
    obtain ⟨read, rest, hpair⟩ := pair
    have seen : unskipped n.children = read ++ .leaf (.text s) :: (b :: rest) := by
      rw [← hpair]
      simp
    obtain ⟨before, behind, split, -, -, hbehind⟩ := exists_split seen
    rw [← List.nil_append (b :: rest)] at hbehind
    obtain ⟨skipped, after, rfl, -, none, -⟩ := exists_split hbehind
    have next : ¬ (b.isBlockBoundary = true ∨ b.startsWithSpace = true) := fun hb =>
      noSkip (h.spaceAtSkip sound split space none (by simpa using hb))
    simpa using next
  leading := by
    intro read e rest seen he
    obtain ⟨s, rfl, space⟩ := Element.startsWithSpace_iff.1 he
    obtain ⟨before, after, split, -, rfl, -⟩ := exists_split seen
    obtain ⟨earlier, x, rfl, hb, ht⟩ := h.previous sound split space
    cases hskip : x.isSkipped with
    | false =>
      refine ⟨x, ?_, hb⟩
      simp [unskipped_concat hskip, ht]
    | true =>
      have same : unskipped (earlier ++ [x]) = unskipped earlier := by
        rw [unskipped_append, unskipped_cons_of_isSkipped hskip]
        exact List.append_nil _
      rw [same]
      by_contra nothing
      have place : n.children = earlier ++ ([x] ++ .leaf (.text s) :: after) := by
        simpa using split
      refine noSkip (.leading place space (List.cons_ne_nil _ _) (by simpa using hskip)
        fun y hy => ?_)
      rw [← Bool.not_eq_false]
      exact fun hy' => nothing ⟨y, hy, hy'⟩

/-- Over a trimmed node the rules on spaces come down to attributes to be skipped. -/
theorem IsTrimmed.wellSpaced_iff {n : Node} (h : n.IsTrimmed) (sound : n.Sound) :
    n.WellSpaced ↔ ¬ n.SpaceAtSkip :=
  ⟨fun spaced skip => skip.not_wellSpaced spaced, h.wellSpaced sound⟩

/-! ## §3 Normalized trees -/

theorem everywhere_isTrimmed {n : Node} (h : n.Everywhere Sound) :
    n.trimmed.seal.Everywhere fun m => m.Sound ∧ m.IsTrimmed := by
  rw [seal_eq_mapRuns, everywhere_mapRuns (g := id) fun _ _ _ => Iff.rfl, everywhere_trimmed]
  intro m hm
  have sound := h m hm
  exact ⟨sound.trimmed.mapRuns (fun _ checked => checked) (fun _ apart => apart) _,
    (isTrimmed_trimmed sound).mapFlags _⟩

end Node

/-- Normalizing and finishing an open tree succeeds. Validation of the result
breaks a rule on spaces only if at some node that is visited attributes to be
skipped separate a space from where it may not stand; and then it fails, with a
rule on spaces unless something is out of place in the tree. -/
theorem whitespace_rules_after_trimming {n : Node} (reachable : Reachable n)
    (isOpen : n.finished = false) :
    ∃ n' n'', n.trimWhitespace .standard = .ok n' ∧ n'.finish = .ok n'' ∧
      ∀ lookup ctx dangling,
        (∀ v, v.isWhitespace = true →
          (n''.validateIn lookup ctx dangling).1 = .error (.structural v) →
          ∃ d m, Visited ctx n'' d m ∧ m.SpaceAtSkip) ∧
        ((∃ d m, Visited ctx n'' d m ∧ m.SpaceAtSkip) →
          ∃ v, (n''.validateIn lookup ctx dangling).1 = .error (.structural v) ∧
            (v.isWhitespace = true ∨ ∃ d m, Visited ctx n'' d m ∧ ¬ m.WellPlaced lookup d)) := by
  have finishes : n.trimmed.finish = .ok n.trimmed.seal := by
    rw [Node.finish, Node.requireOpen, Node.finished_trimmed, isOpen]
    rfl
  refine ⟨n.trimmed, n.trimmed.seal, Node.trimWhitespace_standard reachable.sound isOpen,
    finishes, fun lookup ctx dangling => ?_⟩
  have nodes := Node.everywhere_isTrimmed reachable.sound
  have outcome := Node.validateIn_cases (Node.finished_seal n.trimmed) lookup ctx dangling
  constructor
  · intro v whitespace failed
    rcases outcome with ⟨-, h⟩ | ⟨v', ⟨d, m, visited, broken⟩, h⟩
    · rw [h] at failed
      cases failed
    · rw [h] at failed
      cases failed
      obtain ⟨sound, trimmed⟩ := nodes m visited.within
      refine ⟨d, m, visited, ?_⟩
      by_contra noSkip
      have spaced := (trimmed.wellSpaced_iff sound).2 noSkip
      rw [not_isWhitespace_of_breaks spaced broken] at whitespace
      cases whitespace
  · intro found
    obtain ⟨d, m, visited, skip⟩ := found
    rcases outcome with ⟨clean, -⟩ | ⟨v, ⟨d', m', visited', broken⟩, h⟩
    · have conforms := conforms_of_not_breaks fun v broken => clean v ⟨d, m, visited, broken⟩
      exact absurd conforms.toWellSpaced skip.not_wellSpaced
    · refine ⟨v, h, ?_⟩
      by_cases placed : m'.WellPlaced lookup d'
      · exact .inl (isWhitespace_of_breaks (nodes m' visited'.within).1.checked placed broken)
      · exact .inr ⟨d', m', visited', placed⟩

/-- Without attributes to be skipped, no rule on spaces is broken after normalization. -/
theorem whitespace_rules_after_trimming_line :
    let n : Node := ⟨[], [.leaf (.text " Or "),
      .container (.format .bold) ⟨[], [.leaf (.text "earth ")], false⟩,
      .leaf (.lineBreak .newline), .leaf (.text " dry land")], false⟩
    ∃ n' n'', n.trimWhitespace .standard = .ok n' ∧ n'.finish = .ok n'' ∧
      ∀ lookup ctx dangling v, v.isWhitespace = true →
        (n''.validateIn lookup ctx dangling).1 ≠ .error (.structural v) := by
  intro n
  have built : Reachable n := .perform [.leaf (.text " Or "),
    .container (.format .bold) [.leaf (.text "earth ")], .leaf (.lineBreak .newline),
    .leaf (.text " dry land")] .empty rfl
  obtain ⟨n', n'', trims, finishes, h⟩ := whitespace_rules_after_trimming built rfl
  refine ⟨n', n'', trims, finishes, fun lookup ctx dangling v whitespace failed => ?_⟩
  obtain ⟨d, m, visited, skip⟩ := (h lookup ctx dangling).1 v whitespace failed
  obtain ⟨e, mem, skipped⟩ := skip.exists_isSkipped
  -- the result is known, and it has no such attributes
  have same : n'' = n.trimmed.seal := by
    rw [Node.trimWhitespace_standard built.sound rfl] at trims
    cases trims
    cases finishes
    rfl
  have none : n.trimmed.seal.Everywhere fun m => ∀ e ∈ m.children, e.isSkipped = false := by decide
  rw [← same] at none
  rw [none m visited.within e mem] at skipped
  cases skipped

/-- A space before an attribute to be skipped at the end of a node stays, and is rejected. -/
theorem space_before_skip_rejected :
    let n : Node := ⟨[], [.leaf (.text "a "),
      .container (.extra ⟨.skip, "osis", "k", "v"⟩) .empty], false⟩
    Reachable n ∧ n.trimWhitespace .standard = .ok n ∧ n.finish = .ok n.seal ∧
      (n.seal.validateIn Bible.empty.verseIndex .normalText []).1 =
        .error (.structural .trailingWhitespace) := by
  intro n
  have built : Reachable n := .perform [.leaf (.text "a "),
    .container (.extra ⟨.skip, "osis", "k", "v"⟩) []] .empty rfl
  have trims : n.trimWhitespace .standard = .ok n := by
    rw [Node.trimWhitespace_standard built.sound rfl]
    rfl
  exact ⟨built, trims, rfl, rfl⟩

end ScriptureText
