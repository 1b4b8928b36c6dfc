/-
ScriptureText.Proofs.Validator — where a validator stops.

The state of a validator is a function of what it has read of a node
(`State.after`): the invariant that ties each flag to the elements before, with
the attributes to be skipped left out. Whether it accepts the next element can
therefore be said of the elements before (`fault?`), and each step is taken
apart once, as a leaf (`onLeaf_after`), a container (`onTag_after`) and the end
of a node (`onFinish_after`).

`Node.validateIn_cases` is what comes of it for a whole tree: either validation
succeeds and no rule is broken at any node that is visited, or it fails with a
rule that is broken at such a node. `validateIn_eq_ok_iff` and
`faulty_of_validateIn` say it of either outcome by itself.
-/
import ScriptureText.Proofs.Sound
import ScriptureText.Proofs.Traversal
import ScriptureText.Validation

namespace ScriptureText

/-! ## §1 Contexts -/

namespace Context

instance : Max Context := maxOfLe

/-- A context that is less restrictive than another gives way to it. -/
theorem max_eq_right_of_lt {a b : Context} (h : ¬ b ≤ a) : max a b = b := by
  cases a <;> cases b <;> first | rfl | exact absurd (by decide) h

end Context

/-- The context of a container's content, if the content is visited at all. -/
def Tag.inner? (ctx : Context) : Tag → Option Context
  | .headline _ => some (max ctx .headline)
  | .footnote => some (max ctx .footnote)
  | .crossReference _ => some (max ctx .crossReference)
  | .extra x => if x.priority = .keepContent then some ctx else none
  | .format _ | .css _ | .grammar _ | .dictionary _ _ | .variation _ => some ctx

/-- Whether a container's content is visited. -/
def Tag.isVisited : Tag → Bool
  | .extra x => x.priority == .keepContent
  | _ => true

/-- The context has no say in whether content is visited. -/
theorem Tag.isSome_inner? (ctx : Context) (t : Tag) : (t.inner? ctx).isSome = t.isVisited := by
  cases t with
  | extra x => cases hx : x.priority <;> simp [inner?, isVisited, hx]
  | _ => rfl

/-- The nodes that a validator visits in a tree that stands in a context, each
with the context that it has there. -/
inductive Visited : Context → Node → Context → Node → Prop where
  | root (ctx : Context) (n : Node) : Visited ctx n ctx n
  | inside {ctx inner d : Context} {n c m : Node} {t : Tag}
      (mem : Element.container t c ∈ n.children) (entered : t.inner? ctx = some inner)
      (h : Visited inner c d m) : Visited ctx n d m

theorem Visited.within {ctx d : Context} {n m : Node} (h : Visited ctx n d m) : m.Within n := by
  induction h with
  | root => exact .self _
  | inside mem _ _ ih => exact .inside mem ih

/-! ## §2 What has been read -/

/-- Both endpoints of a passage, the first before the last. -/
def Passage.endpoints (p : Passage) : List DanglingReference :=
  [⟨p.abbreviation, p.book, p.firstChapter, p.firstVerse⟩,
    ⟨p.abbreviation, p.book, p.lastChapter, p.lastVerse⟩]

/-- The references that a lookup does not find. -/
def VerseLookup.missing (lookup : VerseLookup) (refs : List DanglingReference) :
    List DanglingReference :=
  refs.filter fun r => (lookup r.abbreviation r.book r.chapter r.verse).isNone

namespace Element

/-- An extra attribute that a validator takes for granted. -/
def isSkipped : Element → Bool
  | .container (.extra x) _ => x.priority == .skip
  | _ => false

/-- The depth of a headline, where 9 counts as 8, and 0 for anything else. -/
def headlineRank : Element → Nat
  | .container (.headline d) _ => min d 8
  | _ => 0

/-- Whether an element is a text that starts with a space. -/
def startsWithSpace : Element → Bool
  | .leaf (.text s) => Text.startsWithSpace s
  | _ => false

/-- Whether an element is a text that ends with a space. -/
def endsWithSpace : Element → Bool
  | .leaf (.text s) => Text.endsWithSpace s
  | _ => false

theorem startsWithSpace_iff {e : Element} : e.startsWithSpace = true ↔
    ∃ s, e = .leaf (.text s) ∧ Text.startsWithSpace s = true := by
  rcases e with l | ⟨t, c⟩
  · cases l <;> simp [startsWithSpace]
  · simp [startsWithSpace]

theorem endsWithSpace_iff {e : Element} : e.endsWithSpace = true ↔
    ∃ s, e = .leaf (.text s) ∧ Text.endsWithSpace s = true := by
  rcases e with l | ⟨t, c⟩
  · cases l <;> simp [endsWithSpace]
  · simp [endsWithSpace]

/-- Attributes to be skipped neither end a line nor are they spaces. -/
theorem isSkipped_eq_false {e : Element}
    (h : e.isBlockBoundary = true ∨ e.startsWithSpace = true) : e.isSkipped = false := by
  rcases e with l | ⟨t, c⟩
  · rfl
  · cases t with
    | extra x => simp [isBlockBoundary, startsWithSpace] at h
    | _ => rfl

theorem headlineRank_cases (e : Element) :
    (∃ d c, e = .container (.headline d) c) ∨ e.headlineRank = 0 := by
  unfold headlineRank
  split
  · exact .inl ⟨_, _, rfl⟩
  · exact .inr rfl

theorem headlineRank_of_not {e : Element} (h : e.isBlockBoundary = false) : e.headlineRank = 0 := by
  rcases headlineRank_cases e with ⟨d, c, rfl⟩ | hrank
  · cases h
  · exact hrank

theorem endsWithSpace_of_not {e : Element} (h : e.isText = false) : e.endsWithSpace = false := by
  unfold endsWithSpace
  split
  · cases h
  · rfl

end Element

/-- Elements without the attributes to be skipped. -/
def unskipped (es : List Element) : List Element := es.filter (!·.isSkipped)

theorem unskipped_append (a b : List Element) : unskipped (a ++ b) = unskipped a ++ unskipped b :=
  List.filter_append ..

theorem unskipped_cons_of_isSkipped {e : Element} (h : e.isSkipped = true) (es : List Element) :
    unskipped (e :: es) = unskipped es := by simp [unskipped, h]

theorem unskipped_cons {e : Element} (h : e.isSkipped = false) (es : List Element) :
    unskipped (e :: es) = e :: unskipped es := by simp [unskipped, h]

namespace Validator

/-- The depth of the headline that was read last, and 0 if it was no headline. -/
def depthRead (es : List Element) : Nat := (unskipped es).getLast?.elim 0 Element.headlineRank

/-- Whether a space was read last. -/
def spaceRead (es : List Element) : Bool := (unskipped es).getLast?.any Element.endsWithSpace

/-- Whether a text may start with a space: the last element before it that is
no text stands within a line. -/
def lineStarted (es : List Element) : Bool :=
  ((unskipped es).filter (!·.isText)).getLast?.any (!·.isBlockBoundary)

/-- The state of a validator that has read some elements of a node. -/
def State.after (ctx : Context) (es : List Element) (dangling : List DanglingReference) : State :=
  ⟨ctx, depthRead es, lineStarted es, spaceRead es, es.isEmpty, dangling⟩

theorem State.after_nil (ctx : Context) (dangling : List DanglingReference) :
    State.after ctx [] dangling = .fresh ctx dangling := rfl

section Concat

variable {es : List Element} {e : Element}

theorem unskipped_concat (h : e.isSkipped = false) : unskipped (es ++ [e]) = unskipped es ++ [e] := by
  rw [unskipped_append, unskipped_cons h]
  rfl

theorem depthRead_concat (h : e.isSkipped = false) : depthRead (es ++ [e]) = e.headlineRank := by
  rw [depthRead, unskipped_concat h, List.getLast?_concat]
  rfl

theorem spaceRead_concat (h : e.isSkipped = false) : spaceRead (es ++ [e]) = e.endsWithSpace := by
  rw [spaceRead, unskipped_concat h, List.getLast?_concat]
  rfl

theorem lineStarted_concat (h : e.isSkipped = false) (ht : e.isText = false) :
    lineStarted (es ++ [e]) = !e.isBlockBoundary := by
  simp [lineStarted, unskipped_concat h, ht]

theorem lineStarted_concat_text (s : String) :
    lineStarted (es ++ [.leaf (.text s)]) = lineStarted es := by
  simp [lineStarted, unskipped_concat (e := .leaf (.text s)) rfl, Element.isText_leaf_text]

/-- Nothing but emptiness changes with an attribute to be skipped. -/
theorem State.after_concat_skipped (h : e.isSkipped = true) (ctx : Context)
    (dangling : List DanglingReference) : State.after ctx (es ++ [e]) dangling =
      { State.after ctx es dangling with isEmpty := false } := by
  have same : unskipped (es ++ [e]) = unskipped es := by
    rw [unskipped_append, unskipped_cons_of_isSkipped h]
    exact List.append_nil _
  simp [State.after, depthRead, spaceRead, lineStarted, same]

/-- Whatever is no text and within a line leaves the same state. -/
theorem State.after_concat_inline (h : e.isSkipped = false) (ht : e.isText = false)
    (hb : e.isBlockBoundary = false) (ctx : Context) (dangling : List DanglingReference) :
    State.after ctx (es ++ [e]) dangling = (State.after ctx es dangling).afterInline := by
  rw [State.after, depthRead_concat h, spaceRead_concat h, lineStarted_concat h ht,
    Element.headlineRank_of_not hb, Element.endsWithSpace_of_not ht, hb]
  simp [State.after, State.afterInline]

end Concat

/-! ## §3 Faults -/

/-- Whether both endpoints of a passage are found in one chapter, the last before the first. -/
def endsBeforeStart (lookup : VerseLookup) (p : Passage) : Bool :=
  match lookup p.abbreviation p.book p.firstChapter p.firstVerse,
    lookup p.abbreviation p.book p.lastChapter p.lastVerse with
  | some i, some j => p.firstChapter == p.lastChapter && decide (j < i)
  | _, _ => false

/-- The rule that an element breaks after some others, in a context. -/
def fault? (lookup : VerseLookup) (ctx : Context) (before : List Element) :
    Element → Option Violation
  | .leaf (.text s) =>
    if Text.startsWithSpace s then
      if spaceRead before then some .whitespaceAdjacentToWhitespace
      else if lineStarted before then none else some .leadingWhitespace
    else none
  | .leaf (.lineBreak _) =>
    if spaceRead before then some .whitespaceBeforeLineBreak
    else if Context.headline ≤ ctx ∧ ctx ≠ .footnote then some .lineBreakOutsideBlock
    else none
  | .leaf .verseSeparator => if ctx = .verse then none else some .verseSeparatorOutsideVerse
  | .container (.headline d) _ =>
    if Context.headline ≤ ctx then some .nestedHeadline
    else if min d 8 ≤ depthRead before then some .headlineDepthOrder
    else if spaceRead before then some .whitespaceBeforeHeadline
    else none
  | .container .footnote _ => if Context.footnote ≤ ctx then some .nestedFootnote else none
  | .container (.crossReference p) _ =>
    if Context.crossReference ≤ ctx then some .nestedCrossReference
    else if ctx < .footnote then some .crossReferenceOutsideFootnote
    else if endsBeforeStart lookup p then some .crossReferenceRangeOrder
    else none
  | _ => none

/-- The rule that a node breaks with its end. -/
def endFault? (es : List Element) : Option Violation :=
  if spaceRead es then some .trailingWhitespace
  else if es.isEmpty then some .emptyElement
  else none

/-! ## §4 Steps -/

section Apply

variable {α β : Type} (s : State)

@[simp] theorem bind_apply (x : Step α) (f : α → Step β) : (x >>= f) s =
    match x s with
    | .ok a s => f a s
    | .error e s => .error e s := by
  show EStateM.bind x f s = _
  unfold EStateM.bind
  cases x s <;> rfl

@[simp] theorem pure_apply (a : α) : (pure a : Step α) s = .ok a s := rfl

@[simp] theorem get_apply : (get : Step State) s = .ok s s := rfl

@[simp] theorem set_apply (t : State) : (set t : Step PUnit) s = .ok () t := rfl

@[simp] theorem modify_apply (f : State → State) : (modify f : Step PUnit) s = .ok () (f s) := rfl

@[simp] theorem violated_apply (v : Violation) :
    (violated v : Step α) s = .error (.structural v) s := rfl

@[simp] theorem inside_apply (ctx : Context) :
    inside ctx s = .ok (some (.fresh ctx s.dangling)) s := rfl

end Apply

variable {lookup : VerseLookup} {ctx : Context} {es : List Element} {v : Violation}

theorem State.after_concat_text (s : String) (dangling : List DanglingReference) :
    State.after ctx (es ++ [.leaf (.text s)]) dangling =
      { State.after ctx es dangling with
        lastHeadline := 0, spaceTrails := Text.endsWithSpace s, isEmpty := false } := by
  rw [State.after, depthRead_concat rfl, spaceRead_concat rfl, lineStarted_concat_text]
  simp [State.after, Element.headlineRank, Element.endsWithSpace]

/-- After a line break, where no space was read before. -/
theorem State.after_concat_lineBreak (k : LineBreak) (h : spaceRead es = false)
    (dangling : List DanglingReference) :
    State.after ctx (es ++ [.leaf (.lineBreak k)]) dangling =
      { State.after ctx es dangling with
        lastHeadline := 0, spaceMayLead := false, isEmpty := false } := by
  rw [State.after, depthRead_concat rfl, spaceRead_concat rfl, lineStarted_concat rfl rfl]
  simp [State.after, Element.headlineRank, Element.endsWithSpace, Element.isBlockBoundary, h]

/-- After a headline, where no space was read before. -/
theorem State.after_concat_headline (d : Nat) (c : Node) (h : spaceRead es = false)
    (dangling : List DanglingReference) :
    State.after ctx (es ++ [.container (.headline d) c]) dangling =
      { State.after ctx es dangling with
        lastHeadline := min d 8, spaceMayLead := false, isEmpty := false } := by
  rw [State.after, depthRead_concat rfl, spaceRead_concat rfl, lineStarted_concat rfl rfl]
  simp [State.after, Element.headlineRank, Element.endsWithSpace, Element.isBlockBoundary, h]

/-- A leaf is read if it breaks no rule, and else ends the reading with the rule it breaks. -/
theorem onLeaf_after (lookup : VerseLookup) (ctx : Context) (es : List Element) (l : Leaf)
    (dangling : List DanglingReference) :
    (fault? lookup ctx es (.leaf l) = none ∧
      onLeaf l (.after ctx es dangling) = .ok () (.after ctx (es ++ [.leaf l]) dangling)) ∨
    ∃ v s, fault? lookup ctx es (.leaf l) = some v ∧
      onLeaf l (.after ctx es dangling) = .error (.structural v) s := by
  cases l with
  | text t =>
    rw [State.after_concat_text]
    by_cases hs : Text.startsWithSpace t = true
    · by_cases hr : spaceRead es = true
      · right
        simp [fault?, onLeaf, onText, State.after, hs, hr]
      · by_cases hl : lineStarted es = true
        · left
          simp [fault?, onLeaf, onText, State.after, hs, hr, hl]
        · right
          simp [fault?, onLeaf, onText, State.after, hs, hr, hl]
    · left
      simp [fault?, onLeaf, onText, State.after, hs]
  | lineBreak k =>
    by_cases hr : spaceRead es = true
    · right
      simp [fault?, onLeaf, onLineBreak, State.after, hr]
    · by_cases hc : Context.headline ≤ ctx ∧ ctx ≠ .footnote
      · right
        simp [fault?, onLeaf, onLineBreak, State.after, hr, hc]
      · left
        rw [State.after_concat_lineBreak k (by simpa using hr)]
        simp [fault?, onLeaf, onLineBreak, State.after, hr, hc]
  | verseSeparator =>
    by_cases hc : ctx = .verse
    · left
      rw [State.after_concat_inline rfl rfl rfl]
      simp [fault?, onLeaf, onVerseSeparator, State.after, hc]
    · right
      simp [fault?, onLeaf, onVerseSeparator, State.after, hc]
  | rawHtml mode raw =>
    left
    rw [State.after_concat_inline rfl rfl rfl]
    simp [fault?, onLeaf]

/-- Looking up a verse adds its reference if it is not found, and changes nothing else. -/
theorem resolve_apply (lookup : VerseLookup) (abbreviation : String) (book : BookId)
    (chapter : Nat) (verse : String) (s : State) :
    resolve lookup abbreviation book chapter verse s =
      .ok (lookup abbreviation book chapter verse) { s with
        dangling := s.dangling ++ lookup.missing [⟨abbreviation, book, chapter, verse⟩] } := by
  unfold resolve
  cases h : lookup abbreviation book chapter verse <;> simp [VerseLookup.missing, h]

/-- A cross reference in a footnote is entered unless its endpoints are in the wrong order. -/
theorem onCrossReference_apply (lookup : VerseLookup) (p : Passage) (s : State)
    (hc : ¬ Context.crossReference ≤ s.context) (hf : ¬ s.context < .footnote) :
    onCrossReference lookup p s =
      (if endsBeforeStart lookup p then violated .crossReferenceRangeOrder
        else inside .crossReference : Step (Option State))
        { s.afterInline with dangling := s.dangling ++ lookup.missing p.endpoints } := by
  have both : lookup.missing p.endpoints =
      lookup.missing [⟨p.abbreviation, p.book, p.firstChapter, p.firstVerse⟩] ++
        lookup.missing [⟨p.abbreviation, p.book, p.lastChapter, p.lastVerse⟩] :=
    List.filter_append (p := fun _ => _) [_] [_]
  rw [both, ← List.append_assoc]
  cases hi : lookup p.abbreviation p.book p.firstChapter p.firstVerse with
  | none =>
    have order : endsBeforeStart lookup p = false := by simp [endsBeforeStart, hi]
    simp [onCrossReference, hc, hf, resolve_apply, hi, order, State.afterInline]
  | some i =>
    cases hj : lookup p.abbreviation p.book p.lastChapter p.lastVerse with
    | none =>
      have order : endsBeforeStart lookup p = false := by simp [endsBeforeStart, hi, hj]
      simp [onCrossReference, hc, hf, resolve_apply, hi, hj, order, State.afterInline]
    | some j =>
      by_cases h : p.firstChapter = p.lastChapter ∧ j < i
      · have order : endsBeforeStart lookup p = true := by simpa [endsBeforeStart, hi, hj] using h
        simp [onCrossReference, hc, hf, resolve_apply, hi, hj, State.afterInline, if_pos h, order]
      · have order : endsBeforeStart lookup p = false := by simpa [endsBeforeStart, hi, hj] using h
        simp [onCrossReference, hc, hf, resolve_apply, hi, hj, State.afterInline, if_neg h, order]

theorem onHeadline_apply (d : Nat) (s : State) : onHeadline d s =
    if Context.headline ≤ s.context then .error (.structural .nestedHeadline) s
    else if min d 8 ≤ s.lastHeadline then .error (.structural .headlineDepthOrder) s
    else if s.spaceTrails then .error (.structural .whitespaceBeforeHeadline) s
    else .ok (some (.fresh .headline s.dangling))
      { s with lastHeadline := min d 8, spaceMayLead := false, isEmpty := false } := by
  unfold onHeadline
  -- the rank is opaque here, so that no lemma on minima takes the comparison apart
  generalize min d 8 = rank
  by_cases hc : Context.headline ≤ s.context
  · simp [hc]
  · by_cases hd : rank ≤ s.lastHeadline
    · simp [hc, hd]
    · cases hr : s.spaceTrails <;> simp [hc, hd, hr]

/-- A container is entered in the context that it gives if it breaks no rule, and else ends the
reading with the rule it breaks. -/
def Enters (lookup : VerseLookup) (ctx : Context) (es : List Element) (t : Tag) (c : Node) : Prop :=
  ∀ dangling, (fault? lookup ctx es (.container t c) = none ∧
      ∃ dangling', onTag lookup t (.after ctx es dangling) =
        .ok ((t.inner? ctx).map (State.fresh · dangling'))
          (.after ctx (es ++ [.container t c]) dangling')) ∨
    ∃ v s, fault? lookup ctx es (.container t c) = some v ∧
      onTag lookup t (.after ctx es dangling) = .error (.structural v) s

theorem headline_enters (d : Nat) (c : Node) : Enters lookup ctx es (.headline d) c := by
  intro dangling
  have step := onHeadline_apply d (.after ctx es dangling)
  by_cases hc : Context.headline ≤ ctx
  · right
    exact ⟨_, _, by rw [fault?, if_pos hc], step.trans (if_pos hc)⟩
  · replace step := step.trans (if_neg hc)
    by_cases hd : min d 8 ≤ depthRead es
    · right
      exact ⟨_, _, by rw [fault?, if_neg hc, if_pos hd], step.trans (if_pos hd)⟩
    · replace step := step.trans (if_neg hd)
      by_cases hr : spaceRead es = true
      · right
        exact ⟨_, _, by rw [fault?, if_neg hc, if_neg hd, if_pos hr], step.trans (if_pos hr)⟩
      · replace step := step.trans (if_neg hr)
        refine .inl ⟨by rw [fault?, if_neg hc, if_neg hd, if_neg hr], dangling, ?_⟩
        rw [State.after_concat_headline d c (by simpa using hr), onTag, step, Tag.inner?,
          Context.max_eq_right_of_lt hc]
        rfl

theorem footnote_enters (c : Node) : Enters lookup ctx es .footnote c := by
  intro dangling
  by_cases hc : Context.footnote ≤ ctx
  · right
    simp [fault?, onTag, onFootnote, State.after, hc]
  · refine .inl ⟨by simp [fault?, hc], dangling, ?_⟩
    rw [State.after_concat_inline rfl rfl rfl]
    simp [onTag, onFootnote, State.after, hc, Tag.inner?, Context.max_eq_right_of_lt hc,
      State.afterInline]

theorem crossReference_enters (p : Passage) (c : Node) :
    Enters lookup ctx es (.crossReference p) c := by
  intro dangling
  by_cases hc : Context.crossReference ≤ ctx
  · right
    simp [fault?, onTag, onCrossReference, State.after, hc]
  · by_cases hf : ctx < .footnote
    · right
      simp [fault?, onTag, onCrossReference, State.after, hc, hf]
    · have step := onCrossReference_apply lookup p (.after ctx es dangling) hc hf
      cases order : endsBeforeStart lookup p with
      | false =>
        refine .inl ⟨by simp [fault?, hc, hf, order], dangling ++ lookup.missing p.endpoints, ?_⟩
        rw [State.after_concat_inline rfl rfl rfl, onTag, step, order]
        simp [Tag.inner?, Context.max_eq_right_of_lt hc, State.afterInline, State.after]
      | true =>
        right
        simp [fault?, hc, hf, order, onTag, step]

/-- An extra attribute breaks no rule, and its content is visited only if it is to be kept. -/
theorem extra_enters (x : ExtraAttribute) (c : Node) : Enters lookup ctx es (.extra x) c := by
  intro dangling
  refine .inl ⟨rfl, dangling, ?_⟩
  cases hx : x.priority with
  | skip =>
    have skipped : (Element.container (.extra x) c).isSkipped = true := by
      simp [Element.isSkipped, hx]
    rw [State.after_concat_skipped skipped]
    simp [onTag, onExtra, hx, Tag.inner?]
  | keepContent =>
    have seen : (Element.container (.extra x) c).isSkipped = false := by
      simp [Element.isSkipped, hx]
    rw [State.after_concat_inline seen rfl rfl]
    simp [onTag, onExtra, hx, Tag.inner?, State.afterInline, State.after]
  | error =>
    have seen : (Element.container (.extra x) c).isSkipped = false := by
      simp [Element.isSkipped, hx]
    rw [State.after_concat_inline seen rfl rfl]
    simp [onTag, onExtra, hx, Tag.inner?]

theorem onTag_after (lookup : VerseLookup) (ctx : Context) (es : List Element) (t : Tag)
    (c : Node) : Enters lookup ctx es t c := by
  cases t with
  | headline d => exact headline_enters d c
  | footnote => exact footnote_enters c
  | crossReference p => exact crossReference_enters p c
  | extra x => exact extra_enters x c
  | _ =>
    intro dangling
    refine .inl ⟨rfl, dangling, ?_⟩
    rw [State.after_concat_inline rfl rfl rfl]
    simp [onTag, Tag.inner?, State.after, State.afterInline]

/-- The end of a node is reached if nothing is wrong with the node as a whole. -/
theorem onFinish_after (ctx : Context) (es : List Element) (dangling : List DanglingReference) :
    (endFault? es = none ∧
      onFinish (.after ctx es dangling) = .ok () (.after ctx es dangling)) ∨
    ∃ v s, endFault? es = some v ∧
      onFinish (.after ctx es dangling) = .error (.structural v) s := by
  by_cases hr : spaceRead es = true
  · right
    simp [endFault?, onFinish, State.after, hr]
  · by_cases he : es.isEmpty = true
    · right
      simp [endFault?, onFinish, State.after, hr, he]
    · left
      simp [endFault?, onFinish, State.after, hr, he]

/-! ## §5 Runs -/

/-- A rule that one node breaks, with one of its children or with its end. -/
inductive Breaks (lookup : VerseLookup) (ctx : Context) (n : Node) : Violation → Prop where
  | child {before after : List Element} {e : Element} {v : Violation}
      (split : n.children = before ++ e :: after) (fault : fault? lookup ctx before e = some v) :
      Breaks lookup ctx n v
  | last {v : Violation} (fault : endFault? n.children = some v) : Breaks lookup ctx n v

/-- A rule that some node visited in a tree breaks. -/
def Faulty (lookup : VerseLookup) (ctx : Context) (n : Node) (v : Violation) : Prop :=
  ∃ d m, Visited ctx n d m ∧ Breaks lookup d m v

/-- A rule that an element breaks after some others, or that is broken inside it. -/
def ElementFaulty (lookup : VerseLookup) (ctx : Context) (before : List Element) (e : Element)
    (v : Violation) : Prop :=
  fault? lookup ctx before e = some v ∨
    ∃ t c inner, e = .container t c ∧ t.inner? ctx = some inner ∧ Faulty lookup inner c v

/-- A rule that is broken in a run after some elements. -/
def RunFaulty (lookup : VerseLookup) (ctx : Context) (before es : List Element) (v : Violation) :
    Prop :=
  ∃ read e rest, es = read ++ e :: rest ∧ ElementFaulty lookup ctx (before ++ read) e v

theorem not_runFaulty_nil {before : List Element} : ¬ RunFaulty lookup ctx before [] v := by
  rintro ⟨read, e, rest, h, -⟩
  simp at h

theorem runFaulty_cons {before : List Element} {e : Element} :
    RunFaulty lookup ctx before (e :: es) v ↔
      ElementFaulty lookup ctx before e v ∨ RunFaulty lookup ctx (before ++ [e]) es v := by
  constructor
  · rintro ⟨read, x, rest, h, fault⟩
    cases read with
    | nil =>
      cases h
      left
      simpa using fault
    | cons y read =>
      cases h
      right
      exact ⟨read, x, rest, rfl, by simpa using fault⟩
  · rintro (fault | ⟨read, x, rest, rfl, fault⟩)
    · exact ⟨[], e, es, rfl, by simpa using fault⟩
    · exact ⟨e :: read, x, rest, rfl, by simpa using fault⟩

/-- A node is faulty by its children, or by its end. -/
theorem faulty_iff {n : Node} : Faulty lookup ctx n v ↔
    RunFaulty lookup ctx [] n.children v ∨ endFault? n.children = some v := by
  constructor
  · rintro ⟨d, m, visited, broken⟩
    cases visited with
    | root =>
      cases broken with
      | child split fault => exact .inl ⟨_, _, _, split, .inl fault⟩
      | last fault => exact .inr fault
    | inside mem entered h =>
      obtain ⟨read, rest, split⟩ := List.append_of_mem mem
      exact .inl ⟨read, _, rest, split, .inr ⟨_, _, _, rfl, entered, d, m, h, broken⟩⟩
  · rintro (⟨read, e, rest, split, fault | ⟨t, c, inner, rfl, entered, d, m, h, broken⟩⟩ | fault)
    · exact ⟨ctx, n, .root ctx n, .child split fault⟩
    · exact ⟨d, m, .inside (by rw [split]; simp) entered h, broken⟩
    · exact ⟨ctx, n, .root ctx n, .last fault⟩

/-- What validation of a node comes to: success, and nothing is wrong, or a failure with a rule
that is broken. -/
def Settles (lookup : VerseLookup) (ctx : Context) (n : Node) : Prop :=
  ∀ dangling, ((∀ v, ¬ Faulty lookup ctx n v) ∧
      ∃ s, n.feed (consumer lookup) (.fresh ctx dangling) = .ok () s) ∨
    ∃ v s, Faulty lookup ctx n v ∧
      n.feed (consumer lookup) (.fresh ctx dangling) = .error (.structural v) s

/-- One element, inside of which the validator succeeds or fails as it should. -/
theorem feed_after (lookup : VerseLookup) (ctx : Context) (before : List Element) (e : Element)
    (contents : ∀ t c, e = .container t c → ∀ inner, Settles lookup inner c)
    (dangling : List DanglingReference) :
    ((∀ v, ¬ ElementFaulty lookup ctx before e v) ∧
      ∃ dangling', e.feed (consumer lookup) (.after ctx before dangling) =
        .ok () (.after ctx (before ++ [e]) dangling')) ∨
    ∃ v s, ElementFaulty lookup ctx before e v ∧
      e.feed (consumer lookup) (.after ctx before dangling) = .error (.structural v) s := by
  cases e with
  | leaf l =>
    rw [Element.feed_leaf]
    rcases onLeaf_after lookup ctx before l dangling with ⟨none, h⟩ | ⟨v, s, some, h⟩
    · refine .inl ⟨fun v hv => ?_, dangling, h⟩
      rcases hv with hv | ⟨t, c, inner, heq, -⟩
      · rw [none] at hv
        cases hv
      · cases heq
    · exact .inr ⟨v, s, .inl some, h⟩
  | container t c =>
    rw [Element.feed_container]
    rcases onTag_after lookup ctx before t c dangling with ⟨none, d, h⟩ | ⟨v, s, some, h⟩
    · cases hi : t.inner? ctx with
      | none =>
        rw [hi] at h
        refine .inl ⟨fun v hv => ?_, d, Consumer.within_eq_ok.2 (.inl h)⟩
        rcases hv with hv | ⟨t', c', inner, heq, entered, -⟩
        · rw [none] at hv
          cases hv
        · cases heq
          rw [hi] at entered
          cases entered
      | some inner =>
        rw [hi] at h
        rcases contents t c rfl inner d with ⟨clean, s, inside⟩ | ⟨v, s, faulty, inside⟩
        · refine .inl ⟨fun v hv => ?_, s.dangling, Consumer.within_eq_ok.2 (.inr ?_)⟩
          · rcases hv with hv | ⟨t', c', inner', heq, entered, faulty⟩
            · rw [none] at hv
              cases hv
            · cases heq
              rw [hi] at entered
              cases entered
              exact clean v faulty
          · exact ⟨_, _, _, h, inside, rfl⟩
        · exact .inr ⟨v, _, .inr ⟨t, c, inner, rfl, hi, faulty⟩,
            Consumer.within_eq_error.2 (.inr ⟨_, _, _, h, inside, rfl⟩)⟩
    · exact .inr ⟨v, s, .inl some, Consumer.within_eq_error.2 (.inl h)⟩

/-- A run of elements. The invariant is that the state is that after what has been read. -/
theorem feedRun_after (lookup : VerseLookup) (ctx : Context) (before es : List Element)
    (contents : ∀ t c, Element.container t c ∈ es → ∀ inner, Settles lookup inner c)
    (dangling : List DanglingReference) :
    ((∀ v, ¬ RunFaulty lookup ctx before es v) ∧
      ∃ dangling', Element.feedRun (consumer lookup) es (.after ctx before dangling) =
        .ok () (.after ctx (before ++ es) dangling')) ∨
    ∃ v s, RunFaulty lookup ctx before es v ∧
      Element.feedRun (consumer lookup) es (.after ctx before dangling) =
        .error (.structural v) s := by
  induction es generalizing before dangling with
  | nil =>
    refine .inl ⟨fun v => not_runFaulty_nil, dangling, ?_⟩
    rw [List.append_nil]
    rfl
  | cons e rest ih =>
    rw [Element.feedRun_cons]
    rcases feed_after lookup ctx before e
      (fun t c heq => contents t c (by rw [heq]; exact List.mem_cons_self)) dangling with
      ⟨clean, d, first⟩ | ⟨v, s, faulty, first⟩
    · rcases ih (before ++ [e])
        (fun t c mem => contents t c (List.mem_cons_of_mem e mem)) d with
        ⟨cleanRest, d', others⟩ | ⟨v, s, faulty, others⟩
      · refine .inl ⟨fun v hv => ?_, d', Consumer.bind_eq_ok.2 ⟨(), _, first, ?_⟩⟩
        · rcases runFaulty_cons.1 hv with hv | hv
          · exact clean v hv
          · exact cleanRest v hv
        · rw [others, List.append_assoc]
          rfl
      · exact .inr ⟨v, s, runFaulty_cons.2 (.inr faulty),
          Consumer.bind_eq_error.2 (.inr ⟨(), _, first, others⟩)⟩
    · exact .inr ⟨v, s, runFaulty_cons.2 (.inl faulty), Consumer.bind_eq_error.2 (.inl first)⟩

/-- Validation of a node succeeds exactly if nothing is wrong at a node visited in it. -/
theorem settles (n : Node) : Settles lookup ctx n := by
  induction n using Node.childrenInduction generalizing ctx with
  | step n ih =>
    intro dangling
    rw [Node.feed_eq_children _ rfl, ← State.after_nil]
    rcases feedRun_after lookup ctx [] n.children
      (fun t c mem inner => ih t c mem) dangling with ⟨clean, d, run⟩ | ⟨v, s, faulty, run⟩
    · rcases onFinish_after ctx n.children d with ⟨none, last⟩ | ⟨v, s, some, last⟩
      · refine .inl ⟨fun v hv => ?_, _, Consumer.bind_eq_ok.2 ⟨(), _, run, last⟩⟩
        rcases faulty_iff.1 hv with hv | hv
        · exact clean v hv
        · rw [none] at hv
          cases hv
      · exact .inr ⟨v, s, faulty_iff.2 (.inr some),
          Consumer.bind_eq_error.2 (.inr ⟨(), _, run, last⟩)⟩
    · exact .inr ⟨v, s, faulty_iff.2 (.inl faulty), Consumer.bind_eq_error.2 (.inl run)⟩

end Validator

open Validator

/-- What validation of a finished tree comes to. -/
theorem Node.validateIn_cases {n : Node} (finished : n.finished = true) (lookup : VerseLookup)
    (ctx : Context) (dangling : List DanglingReference) :
    ((∀ v, ¬ Faulty lookup ctx n v) ∧ (n.validateIn lookup ctx dangling).1 = .ok ()) ∨
      ∃ v, Faulty lookup ctx n v ∧
        (n.validateIn lookup ctx dangling).1 = .error (.structural v) := by
  rw [validateIn, requireFinished, finished, if_pos rfl]
  rcases settles n dangling with ⟨clean, s, h⟩ | ⟨v, s, faulty, h⟩
  · exact .inl ⟨clean, by rw [h]⟩
  · exact .inr ⟨v, faulty, by rw [h]⟩

/-- A finished tree passes exactly if no rule is broken at a node that is visited. -/
theorem Node.validateIn_eq_ok_iff {n : Node} (finished : n.finished = true) {lookup : VerseLookup}
    {ctx : Context} {dangling : List DanglingReference} :
    (n.validateIn lookup ctx dangling).1 = .ok () ↔ ∀ v, ¬ Faulty lookup ctx n v := by
  rcases validateIn_cases finished lookup ctx dangling with ⟨clean, passes⟩ | ⟨v, faulty, fails⟩
  · simp [clean, passes]
  · rw [fails]
    exact ⟨nofun, fun clean => absurd faulty (clean v)⟩

/-- The rule for which a finished tree fails is broken at a node that is visited. -/
theorem Node.faulty_of_validateIn {n : Node} (finished : n.finished = true) {lookup : VerseLookup}
    {ctx : Context} {dangling : List DanglingReference} {v : Violation}
    (failed : (n.validateIn lookup ctx dangling).1 = .error (.structural v)) :
    Faulty lookup ctx n v := by
  rcases validateIn_cases finished lookup ctx dangling with ⟨-, passes⟩ | ⟨v', faulty, fails⟩
  · rw [passes] at failed
    cases failed
  · rw [fails] at failed
    cases failed
    exact faulty

end ScriptureText
