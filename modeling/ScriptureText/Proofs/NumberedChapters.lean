/-
ScriptureText.Proofs.NumberedChapters — verse ranges in numbered chapters.

The verses of a numbered chapter have numerals for labels, and a verse is found
by comparing labels. Decimal numerals of different numbers differ, so that a
label is found exactly if it is the numeral of a verse, and at the place that
the number says (`Chapter.verseIndex?_numbered`): ranges are in the order of the
numbers and not in that of the labels, in which `10` comes before `9`.

A validator looks up the endpoints when it enters a cross reference. Whatever
its content is, nothing is looked up in there (`feed_silent`): the context does
not become less restrictive, and a cross reference is refused before its
endpoints are looked up. What is reported and whether the range is in order
therefore depends on the endpoints only (`Node.validateIn_reference`).
-/
import ScriptureText.Proofs.Dangling
import ScriptureText.Proofs.Snapshot

namespace ScriptureText

/-! ## §1 Labels -/

/-- The decimal numeral of a number from 1 to `count`. -/
def IsNumeral (count : Nat) (label : String) : Prop :=
  ∃ k, k ≤ count ∧ 1 ≤ k ∧ label = toString k

instance (count : Nat) (label : String) : Decidable (IsNumeral count label) :=
  inferInstanceAs (Decidable (∃ k, k ≤ count ∧ 1 ≤ k ∧ label = toString k))

/-- In a numbered chapter a verse stands where its label says. -/
theorem Chapter.verseIndex?_numbered {count i : Nat} {label : String} :
    (numbered count).verseIndex? label = some i ↔ i < count ∧ label = toString (i + 1) := by
  rw [verseIndex?, List.findIdx?_eq_some_iff_getElem]
  simp only [numbered, List.length_map, List.length_range, List.getElem_map, List.getElem_range,
    beq_iff_eq]
  constructor
  · rintro ⟨inside, same, -⟩
    exact ⟨inside, same.symm⟩
  · rintro ⟨inside, rfl⟩
    refine ⟨inside, rfl, fun j before same => ?_⟩
    have numbers := toString_nat_injective same
    omega

theorem Chapter.verseIndex?_numbered_eq_none_iff {count : Nat} {label : String} :
    (numbered count).verseIndex? label = none ↔ ¬ IsNumeral count label := by
  rw [← not_iff_not, not_not, ← ne_eq, Option.ne_none_iff_exists']
  simp only [verseIndex?_numbered]
  constructor
  · rintro ⟨i, inside, rfl⟩
    exact ⟨i + 1, inside, by omega, rfl⟩
  · rintro ⟨k, inside, positive, rfl⟩
    exact ⟨k - 1, by omega, by rw [Nat.sub_add_cancel positive]⟩

/-! ## §2 Inside a cross reference -/

namespace Validator

variable {α β : Type} {lookup : VerseLookup} {s : State}

/-- What may come of a step inside a cross reference: it does not leave the context, reports
nothing, and does not fail for the order of endpoints. -/
def Silent (s : State) : EStateM.Result Error State α → Prop
  | .ok _ s' => s'.context = .crossReference ∧ s'.dangling = s.dangling
  | .error e s' => e ≠ .structural .crossReferenceRangeOrder ∧ s'.dangling = s.dangling

theorem Silent.bind {x : Step α} {f : α → Step β} (first : Silent s (x s))
    (next : ∀ a s', s'.context = .crossReference → Silent s' (f a s')) :
    Silent s ((x >>= f) s) := by
  rw [bind_apply]
  cases hx : x s with
  | error e s' =>
    rw [hx] at first
    exact first
  | ok a s' =>
    rw [hx] at first
    have after := next a s' first.1
    dsimp only
    cases hf : f a s' with
    | error e r =>
      rw [hf] at after
      exact ⟨after.1, after.2.trans first.2⟩
    | ok b r =>
      rw [hf] at after
      exact ⟨after.1, after.2.trans first.2⟩

theorem onLeaf_silent (l : Leaf) (within : s.context = .crossReference) :
    Silent s (onLeaf l s) := by
  cases l with
  | text t =>
    cases hs : Text.startsWithSpace t <;> cases ht : s.spaceTrails <;>
      cases hl : s.spaceMayLead <;> simp [onLeaf, onText, Silent, hs, ht, hl, within]
  | verseSeparator => simp [onLeaf, onVerseSeparator, Silent, within]
  | lineBreak k =>
    have refused : Context.headline ≤ .crossReference := by decide
    cases ht : s.spaceTrails <;> simp [onLeaf, onLineBreak, Silent, within, ht, refused]
  | rawHtml mode raw => simp [onLeaf, Silent, State.afterInline, within]

theorem onFinish_silent (within : s.context = .crossReference) : Silent s (onFinish s) := by
  cases ht : s.spaceTrails <;> cases he : s.isEmpty <;> simp [onFinish, Silent, ht, he, within]

/-- What may come of entering a container inside a cross reference: content that is read at all is
in the cross reference, too. -/
def SilentEntry (s : State) : EStateM.Result Error State (Option State) → Prop
  | .ok child s' => s'.context = .crossReference ∧ s'.dangling = s.dangling ∧
      ∀ c ∈ child, c = .fresh .crossReference s.dangling
  | .error e s' => e ≠ .structural .crossReferenceRangeOrder ∧ s'.dangling = s.dangling

theorem onTag_silent (t : Tag) (within : s.context = .crossReference) :
    SilentEntry s (onTag lookup t s) := by
  cases t with
  | headline d =>
    have refused : Context.headline ≤ .crossReference := by decide
    simp [onTag, onHeadline_apply, SilentEntry, within, refused]
  | footnote =>
    have refused : Context.footnote ≤ .crossReference := by decide
    simp [onTag, onFootnote, SilentEntry, within, refused]
  | crossReference p =>
    have refused : Context.crossReference ≤ .crossReference := by decide
    simp [onTag, onCrossReference, SilentEntry, within, refused]
  | extra x =>
    cases hx : x.priority <;>
      simp [onTag, onExtra, SilentEntry, State.afterInline, hx, within]
  | _ => simp [onTag, SilentEntry, State.afterInline, within]

/-- One element, where the content of a container is silent. -/
theorem feedElement_silent {e : Element} (within : s.context = .crossReference)
    (content : ∀ t c, e = .container t c → ∀ s : State, s.context = .crossReference →
      Silent s (c.feed (consumer lookup) s)) : Silent s (e.feed (consumer lookup) s) := by
  cases e with
  | leaf l =>
    rw [Element.feed_leaf]
    exact onLeaf_silent l within
  | container t c =>
    have entry : SilentEntry s ((consumer lookup).enter t s) := onTag_silent t within
    rw [Element.feed_container, Consumer.within]
    rcases h : (consumer lookup).enter t s with ⟨_ | child, m⟩ | ⟨e, m⟩
    · rw [h] at entry
      exact ⟨entry.1, entry.2.1⟩
    · rw [h] at entry
      obtain ⟨inside, -, fresh⟩ := entry
      have read := content t c rfl child (by rw [fresh child rfl]; rfl)
      have handed : child.dangling = s.dangling := by rw [fresh child rfl]; rfl
      dsimp only
      cases hr : c.feed (consumer lookup) child with
      | ok _ r =>
        rw [hr] at read
        exact ⟨inside, read.2.trans handed⟩
      | error e r =>
        rw [hr] at read
        exact ⟨read.1, read.2.trans handed⟩
    · rw [h] at entry
      exact entry

/-- A run of elements. -/
theorem feedRun_silent {es : List Element} (within : s.context = .crossReference)
    (contents : ∀ t c, .container t c ∈ es → ∀ s : State, s.context = .crossReference →
      Silent s (c.feed (consumer lookup) s)) :
    Silent s (Element.feedRun (consumer lookup) es s) := by
  induction es generalizing s with
  | nil => exact ⟨within, rfl⟩
  | cons e rest ih =>
    rw [Element.feedRun_cons]
    refine Silent.bind (feedElement_silent within fun t c he => ?_) fun _ _ within => ?_
    · exact contents t c (by rw [he]; exact List.mem_cons_self)
    · exact ih within fun t c mem => contents t c (List.mem_cons_of_mem e mem)

/-- The whole content of a cross reference. -/
theorem feed_silent (n : Node) (within : s.context = .crossReference) :
    Silent s (n.feed (consumer lookup) s) := by
  induction n using Node.childrenInduction generalizing s with
  | step n ih =>
    rw [Node.feed_eq_children _ rfl]
    exact (feedRun_silent within fun t c mem s => ih t c mem).bind fun _ _ => onFinish_silent

end Validator

open Validator

/-! ## §3 Ranges -/

/-- A node with nothing but a container in it is read like the container, up to its end. -/
theorem Node.feed_only {ε σ : Type} (reader : Consumer ε σ) (h : reader.start = pure ()) (t : Tag)
    (content : Node) (finished : Bool) :
    (⟨[], [.container t content], finished⟩ : Node).feed reader =
      (do reader.within t (content.feed reader); reader.finish) := by
  rw [feed_eq_children _ h]
  simp [children, Element.feedRun_cons, Element.feed_container, Element.feedRun]

/-- The state behind a cross reference that comes first in a footnote. -/
def Validator.State.behindReference (dangling : List DanglingReference) : State :=
  (State.fresh .footnote dangling).afterInline

/-- A cross reference that comes first in a footnote has its endpoints looked up, and its content is
read unless they are in the wrong order. -/
theorem Validator.enter_reference (lookup : VerseLookup) (p : Passage)
    (dangling : List DanglingReference) :
    (consumer lookup).enter (.crossReference p) (.fresh .footnote dangling) =
      (if endsBeforeStart lookup p then violated .crossReferenceRangeOrder
        else inside .crossReference : Step (Option State))
        (.behindReference (dangling ++ lookup.missing p.endpoints)) := by
  have allowed : ¬ Context.crossReference ≤ .footnote ∧ ¬ Context.footnote < .footnote := by
    decide
  exact onCrossReference_apply lookup p (.fresh .footnote dangling) allowed.1 allowed.2

/-- What is reported of a cross reference in a footnote, and whether it is rejected for the order of
its endpoints, is up to the endpoints; its content has no say in it. -/
theorem Node.validateIn_reference (lookup : VerseLookup) (p : Passage) (content : Node)
    (dangling : List DanglingReference) :
    let n : Node := ⟨[], [.container (.crossReference p) content], true⟩
    (n.validateIn lookup .footnote dangling).2 = dangling ++ lookup.missing p.endpoints ∧
    ((n.validateIn lookup .footnote dangling).1 = .error (.structural .crossReferenceRangeOrder) ↔
      endsBeforeStart lookup p = true) := by
  intro n
  have entry := enter_reference lookup p dangling
  rw [validateIn_of_finished rfl, feed_only _ rfl, bind_apply]
  generalize dangling ++ lookup.missing p.endpoints = reported at entry ⊢
  cases order : endsBeforeStart lookup p with
  | true =>
    rw [order, if_pos rfl] at entry
    rw [Consumer.within_eq_error.2 (.inl entry)]
    exact ⟨rfl, by simp⟩
  | false =>
    rw [order, if_neg (by simp), inside_apply] at entry
    have inside : Silent (.fresh .crossReference reported) (content.feed (consumer lookup) _) :=
      feed_silent content rfl
    -- the list comes back from the content as it went in
    cases result : content.feed (consumer lookup) (.fresh .crossReference reported) with
    | ok _ s =>
      rw [result] at inside
      have ended : (consumer lookup).finish ((consumer lookup).leave (.crossReference p)
        (.behindReference reported) s) = .ok () (.behindReference s.dangling) := rfl
      rw [Consumer.within_eq_ok.2 (.inr ⟨_, _, _, entry, result, rfl⟩)]
      exact ⟨inside.2, by simp [ended]⟩
    | error e s =>
      rw [result] at inside
      rw [Consumer.within_eq_error.2 (.inr ⟨_, _, _, entry, result, rfl⟩)]
      exact ⟨inside.2, by simpa using inside.1⟩

variable {bible : Bible} {abbreviation : String} {id : BookId} {book : Book} {chapter count : Nat}

/-- In a numbered chapter a lookup goes by numerals. -/
theorem Bible.verseIndex_numbered (found : bible.book? abbreviation id = some book)
    (numbered : book.chapter? chapter = some (.numbered count)) (label : String) :
    bible.verseIndex abbreviation id chapter label =
      (Chapter.numbered count).verseIndex? label := by
  simp [verseIndex, found, numbered]

/-- Of a range in a numbered chapter the endpoints are not found that are no numerals in it. -/
theorem Bible.missing_numbered (found : bible.book? abbreviation id = some book)
    (numbered : book.chapter? chapter = some (.numbered count)) (v w : String) :
    VerseLookup.missing bible.verseIndex
        (Passage.endpoints ⟨abbreviation, id, chapter, v, chapter, w⟩) =
      ([v, w].filter fun label => ¬ IsNumeral count label).map
        fun label => ⟨abbreviation, id, chapter, label⟩ := by
  have unfound (label : String) : (bible.verseIndex abbreviation id chapter label).isNone =
      decide (¬ IsNumeral count label) := by
    rw [Bool.eq_iff_iff, Option.isNone_iff_eq_none, verseIndex_numbered found numbered,
      Chapter.verseIndex?_numbered_eq_none_iff, decide_eq_true_iff]
  have both : Passage.endpoints ⟨abbreviation, id, chapter, v, chapter, w⟩ =
      [v, w].map fun label => ⟨abbreviation, id, chapter, label⟩ := rfl
  rw [both, VerseLookup.missing, List.filter_map]
  congr 2
  exact funext unfound

/-- A range in a numbered chapter ends before it starts if the numbers do. -/
theorem Bible.endsBeforeStart_numbered (found : bible.book? abbreviation id = some book)
    (numbered : book.chapter? chapter = some (.numbered count)) (v w : String) :
    endsBeforeStart bible.verseIndex ⟨abbreviation, id, chapter, v, chapter, w⟩ = true ↔
      ∃ a b, 1 ≤ b ∧ b < a ∧ a ≤ count ∧ v = toString a ∧ w = toString b := by
  have positions :
      endsBeforeStart bible.verseIndex ⟨abbreviation, id, chapter, v, chapter, w⟩ = true ↔
      ∃ i j, (Chapter.numbered count).verseIndex? v = some i ∧
        (Chapter.numbered count).verseIndex? w = some j ∧ j < i := by
    simp only [endsBeforeStart, verseIndex_numbered found numbered]
    cases (Chapter.numbered count).verseIndex? v <;>
      cases (Chapter.numbered count).verseIndex? w <;> simp
  rw [positions]
  simp only [Chapter.verseIndex?_numbered]
  constructor
  · rintro ⟨i, j, ⟨inside, rfl⟩, ⟨-, rfl⟩, before⟩
    exact ⟨i + 1, j + 1, by omega, by omega, inside, rfl, rfl⟩
  · rintro ⟨a, b, positive, before, inside, rfl, rfl⟩
    refine ⟨a - 1, b - 1, ⟨by omega, ?_⟩, ⟨by omega, ?_⟩, by omega⟩
    · rw [Nat.sub_add_cancel (by omega)]
    · rw [Nat.sub_add_cancel positive]

/-- A cross reference to a range of verses in a numbered chapter, in a footnote: an endpoint is
reported if and only if it is not the numeral of a verse in the chapter, and the range is rejected
for its order if and only if both are and the numbers descend. -/
theorem Node.validateIn_numbered_chapter (found : bible.book? abbreviation id = some book)
    (numbered : book.chapter? chapter = some (.numbered count)) (v w : String) (content : Node)
    (dangling : List DanglingReference) :
    let reference : Node :=
      ⟨[], [.container (.crossReference ⟨abbreviation, id, chapter, v, chapter, w⟩) content], true⟩
    let outcome := reference.validateIn bible.verseIndex .footnote dangling
    outcome.2 = dangling ++ ([v, w].filter fun label => ¬ IsNumeral count label).map
      (fun label => ⟨abbreviation, id, chapter, label⟩) ∧
    (outcome.1 = .error (.structural .crossReferenceRangeOrder) ↔
      ∃ a b, 1 ≤ b ∧ b < a ∧ a ≤ count ∧ v = toString a ∧ w = toString b) := by
  intro reference outcome
  obtain ⟨reported, order⟩ := validateIn_reference bible.verseIndex
    ⟨abbreviation, id, chapter, v, chapter, w⟩ content dangling
  rw [Bible.missing_numbered found numbered] at reported
  rw [Bible.endsBeforeStart_numbered found numbered] at order
  exact ⟨reported, order⟩

/-- In the third chapter of a book, 36 verses long, which is the first with its abbreviation: 10
comes after 9, though not in the order of labels; 37 and a label with a leading zero are not
found. -/
theorem Node.validateIn_numbered_chapter_john :
    let bible : Bible := ⟨[⟨"Joh", .john, [.numbered 51, .numbered 25, .numbered 36]⟩,
      ⟨"Joh", .john, []⟩]⟩
    let reference (v w : String) : Node := ⟨[],
      [.container (.crossReference ⟨"Joh", .john, 3, v, 3, w⟩) ⟨[], [.leaf (.text "v.")], true⟩],
      true⟩
    let rejected : Except Error Unit := .error (.structural .crossReferenceRangeOrder)
    (bible.book? "Joh" .john = some ⟨"Joh", .john, [.numbered 51, .numbered 25, .numbered 36]⟩ ∧
      Book.chapter? ⟨"Joh", .john, [.numbered 51, .numbered 25, .numbered 36]⟩ 3 =
        some (.numbered 36)) ∧
    ((reference "10" "9").validateIn bible.verseIndex .footnote []).1 = rejected ∧
    ((reference "9" "10").validateIn bible.verseIndex .footnote []).1 ≠ rejected ∧
    ((reference "37" "09").validateIn bible.verseIndex .footnote []).2 =
      [⟨"Joh", .john, 3, "37"⟩, ⟨"Joh", .john, 3, "09"⟩] := by
  intro bible reference rejected
  have found : bible.book? "Joh" .john =
      some ⟨"Joh", .john, [.numbered 51, .numbered 25, .numbered 36]⟩ := by decide
  have numbered : Book.chapter? ⟨"Joh", .john, [.numbered 51, .numbered 25, .numbered 36]⟩ 3 =
      some (.numbered 36) := rfl
  have outcome (v w : String) :=
    validateIn_numbered_chapter found numbered v w ⟨[], [.leaf (.text "v.")], true⟩ []
  refine ⟨⟨found, numbered⟩, ?_, ?_, ?_⟩
  · exact (outcome "10" "9").2.2 ⟨10, 9, by decide, by decide, by decide, rfl, rfl⟩
  · intro failed
    obtain ⟨a, b, -, before, -, first, last⟩ := (outcome "9" "10").2.1 failed
    rw [toString_nat_injective (first.symm.trans rfl : toString a = toString 9)] at before
    rw [toString_nat_injective (last.symm.trans rfl : toString b = toString 10)] at before
    omega
  · refine (outcome "37" "09").1.trans ?_
    decide

end ScriptureText
