/-
ScriptureText.Proofs.NormalForm — the order-free form of what normalization does.

A pass trims a text before it merges what follows into it, merges without
looking at the result again, and drops elements while it goes on. What all
passes together come to can nevertheless be said without any order
(`normalForm`): merge each maximal group of adjacent texts, and then clip every
text between its neighbours in the merged run.

`scan_merges` is the step that carries this. Whatever a pass has made of a group
so far, the group that is still to be merged has the same trimmed form as the
group as it was: a space that is dropped early at the start of a line would have
been dropped in the end (`trimRun_clipped`, `trimRun_dropped`). A pass leaves no
texts next to each other, so that one more finishes the work, and after that
nothing changes.
-/
import ScriptureText.Proofs.Reachable
import Mathlib.Data.List.SplitBy

namespace ScriptureText

namespace Normalization

/-! ## §1 The form -/

/-- A group of adjacent texts as one text, and any other group as it is. -/
def mergedGroup : List Element → List Element
  | .leaf (.text s) :: rest =>
    [.leaf (.text ((rest.filterMap Element.text?).foldl Text.merge s))]
  | group => group

/-- A run with each maximal group of adjacent texts merged. -/
def mergeTexts (run : List Element) : List Element :=
  (run.splitBy fun a b => a.isText && b.isText).flatMap mergedGroup

/-- What is left of an element between its neighbours: a text loses a space at
the start of a line and one at the end, and goes if nothing else is in it. -/
def clipBetween (left right : Option Element) : Element → Option Element
  | .leaf (.text s) =>
    let t := Text.clip (left.all (·.isBlockBoundary)) (right.all (·.isBlockBoundary)) s
    if t = "" then none else some (.leaf (.text t))
  | e => some e

/-- A run behind `left` with every element clipped between its neighbours in that run. -/
def clipAfter (left : Option Element) : List Element → List Element
  | [] => []
  | e :: rest => (clipBetween left rest.head? e).toList ++ clipAfter (some e) rest

/-- A run with its texts merged and then clipped. -/
def normalForm (run : List Element) : List Element := clipAfter none (mergeTexts run)

/-! ## §2 Groups -/

/-- Texts in a row. -/
def textRun (ts : List String) : List Element := ts.map fun s => .leaf (.text s)

/-- A run starts with a group of texts, which may be empty. -/
theorem exists_textRun (run : List Element) :
    ∃ ts rest, run = textRun ts ++ rest ∧ ∀ e ∈ rest.head?, e.isText = false := by
  induction run with
  | nil => exact ⟨[], [], rfl, nofun⟩
  | cons e rest ih =>
    rcases text_or_not e with ⟨s, rfl⟩ | he
    · obtain ⟨ts, after, rfl, h⟩ := ih
      exact ⟨s :: ts, after, rfl, h⟩
    · exact ⟨[], e :: rest, rfl, by simpa using he⟩

/-- Induction over a run group by group. -/
theorem groupInduction {P : List Element → Prop} (nil : P [])
    (other : ∀ e rest, e.isText = false → P rest → P (e :: rest))
    (texts : ∀ s ts rest, (∀ e ∈ rest.head?, e.isText = false) → P rest →
      P (textRun (s :: ts) ++ rest)) (run : List Element) : P run := by
  induction h : run.length using Nat.strongRecOn generalizing run with
  | ind n ih =>
    obtain ⟨ts, rest, rfl, hrest⟩ := exists_textRun run
    cases ts with
    | nil =>
      cases rest with
      | nil => exact nil
      | cons e rest => exact other e rest (hrest e rfl) (ih _ (by simp [← h, textRun]) rest rfl)
    | cons s ts =>
      have shorter : rest.length < n := by
        rw [← h, textRun, List.length_append, List.length_map, List.length_cons]
        omega
      exact texts s ts rest hrest (ih _ shorter rest rfl)

theorem filterMap_text?_textRun (ts : List String) :
    (textRun ts).filterMap Element.text? = ts := by
  rw [textRun, List.filterMap_map]
  exact List.filterMap_some

/-- A group of texts is merged from the left. -/
theorem mergeTexts_textRun (s : String) (ts : List String) {rest : List Element}
    (h : ∀ e ∈ rest.head?, e.isText = false) : mergeTexts (textRun (s :: ts) ++ rest) =
      .leaf (.text (ts.foldl Text.merge s)) :: mergeTexts rest := by
  have group : (textRun (s :: ts)).splitBy (fun a b => a.isText && b.isText) =
      [textRun (s :: ts)] := by
    refine List.splitBy_of_isChain (by simp [textRun]) ?_
    rw [textRun, List.isChain_map]
    exact (List.pairwise_of_forall fun _ _ => rfl).isChain
  rw [mergeTexts, List.splitBy_append, group, mergeTexts, List.flatMap_append]
  · have merged := filterMap_text?_textRun ts
    simp only [textRun] at merged
    simp [mergedGroup, textRun, merged]
  · intro x _ y hy
    rw [h y hy, Bool.and_false]

theorem mergedGroup_other {e : Element} (he : e.isText = false) : mergedGroup [e] = [e] := by
  rw [mergedGroup]
  rintro s rest ⟨rfl, -⟩
  rw [Element.isText_leaf_text] at he
  cases he

/-- An element that stands apart from texts stays where it is. -/
theorem mergeTexts_cons {e : Element} {rest : List Element}
    (h : ∀ x ∈ rest.head?, Element.NotBothText e x) :
    mergeTexts (e :: rest) = e :: mergeTexts rest := by
  have single : mergedGroup [e] = [e] := by
    rcases text_or_not e with ⟨s, rfl⟩ | he
    · rfl
    · exact mergedGroup_other he
  have split : (e :: rest).splitBy (fun a b => a.isText && b.isText) =
      [e] :: rest.splitBy fun a b => a.isText && b.isText := by
    refine List.splitBy_append (l := [e]) (m := rest) fun x hx y hy => ?_
    obtain rfl : e = x := by simpa using hx
    rw [← Bool.not_eq_true, Bool.and_eq_true]
    exact h y hy
  rw [mergeTexts, split, List.flatMap_cons, single, mergeTexts]
  rfl

theorem mergeTexts_other {e : Element} (he : e.isText = false) (rest : List Element) :
    mergeTexts (e :: rest) = e :: mergeTexts rest :=
  mergeTexts_cons fun x _ hboth => by
    rw [he] at hboth
    cases hboth.1

/-- Two texts may be merged before the rest of their group is. -/
theorem mergeTexts_merge (s t : String) (rest : List Element) :
    mergeTexts (.leaf (.text s) :: .leaf (.text t) :: rest) =
      mergeTexts (.leaf (.text (Text.merge s t)) :: rest) := by
  obtain ⟨ts, after, rfl, h⟩ := exists_textRun rest
  exact (mergeTexts_textRun s (t :: ts) h).trans (mergeTexts_textRun (Text.merge s t) ts h).symm

theorem head?_mergeTexts {run : List Element} (h : ∀ e ∈ run.head?, e.isText = false) :
    (mergeTexts run).head? = run.head? := by
  cases run with
  | nil => rfl
  | cons e rest => rw [mergeTexts_other (h e rfl)]; rfl

/-- After merging no two texts are adjacent. -/
theorem apart_mergeTexts (run : List Element) :
    (mergeTexts run).IsChain Element.NotBothText := by
  induction run using groupInduction with
  | nil => exact .nil
  | other e rest he ih =>
    rw [mergeTexts_other he]
    refine List.isChain_cons.2 ⟨fun x _ hboth => ?_, ih⟩
    rw [he] at hboth
    cases hboth.1
  | texts s ts rest h ih =>
    rw [mergeTexts_textRun s ts h]
    refine List.isChain_cons.2 ⟨fun x hx hboth => ?_, ih⟩
    rw [head?_mergeTexts h] at hx
    rw [h x hx] at hboth
    cases hboth.2

/-- Where no two texts are adjacent there is nothing to merge. -/
theorem mergeTexts_eq_self {run : List Element} (apart : run.IsChain Element.NotBothText) :
    mergeTexts run = run := by
  induction run with
  | nil => rfl
  | cons e rest ih => rw [mergeTexts_cons (List.isChain_cons.1 apart).1, ih apart.tail]

/-- Merging leaves all other elements as they are, in order. -/
theorem filter_mergeTexts (run : List Element) :
    (mergeTexts run).filter (!·.isText) = run.filter (!·.isText) := by
  induction run using groupInduction with
  | nil => rfl
  | other e rest he ih => rw [mergeTexts_other he, List.filter_cons, List.filter_cons, ih]
  | texts s ts rest h ih =>
    have none : (textRun (s :: ts)).filter (!·.isText) = [] := by
      rw [List.filter_eq_nil_iff]
      intro e mem
      obtain ⟨t, -, rfl⟩ := List.mem_map.1 mem
      rw [Element.isText_leaf_text]
      decide
    rw [mergeTexts_textRun s ts h, List.filter_append, none, List.filter_cons, ih]
    rfl

/-! ## §3 Clipping -/

theorem clipBetween_text (left : Option Element) (s : String) (rest : List Element) :
    clipBetween left rest.head? (.leaf (.text s)) =
      if Text.clip (left.all (·.isBlockBoundary)) (lineEnds rest) s = "" then none
      else some (.leaf (.text (Text.clip (left.all (·.isBlockBoundary)) (lineEnds rest) s))) := rfl

theorem clipBetween_other {e : Element} (he : e.isText = false) (left right : Option Element) :
    clipBetween left right e = some e := by
  rw [clipBetween]
  rintro s rfl
  rw [Element.isText_leaf_text] at he
  cases he

/-- Where a line starts makes no difference to what is no text. -/
theorem trimRun_congr {rest : List Element} (h : ∀ e ∈ rest.head?, e.isText = false)
    (b b' : Bool) : trimRun b rest = trimRun b' rest := by
  cases rest with
  | nil => rw [trimRun_nil, trimRun_nil]
  | cons e rest => rw [trimRun_cons (h e rfl), trimRun_cons (h e rfl)]

/-- Where no two texts are adjacent, clipping between the neighbours in the run is trimming,
although that looks at the elements that are left. -/
theorem clipAfter_eq {run : List Element} (apart : run.IsChain Element.NotBothText)
    (left : Option Element) :
    clipAfter left run = trimRun (left.all (·.isBlockBoundary)) run := by
  induction run generalizing left with
  | nil => rw [clipAfter, trimRun_nil]
  | cons e rest ih =>
    rw [clipAfter, ih apart.tail]
    rcases text_or_not e with ⟨s, rfl⟩ | he
    · have behind := trimRun_congr (next_not_text apart) (left.all (·.isBlockBoundary)) false
      rw [trimRun_text, behind, clipBetween_text]
      split <;> rfl
    · rw [trimRun_cons he, clipBetween_other he]
      rfl

/-- The normal form is the merged run, trimmed. -/
theorem normalForm_eq (run : List Element) : normalForm run = trimRun true (mergeTexts run) :=
  clipAfter_eq (apart_mergeTexts run) none

theorem filter_trimRun (b : Bool) (run : List Element) :
    (trimRun b run).filter (!·.isText) = run.filter (!·.isText) := by
  induction run generalizing b with
  | nil => rw [trimRun_nil]
  | cons e rest ih =>
    rcases text_or_not e with ⟨s, rfl⟩ | he
    · rw [trimRun_text]
      split
      · rw [ih]
        rfl
      · rw [List.filter_cons, List.filter_cons, ih]
        rfl
    · rw [trimRun_cons he, List.filter_cons, List.filter_cons, ih]

/-- In the normal form all elements but texts are as they were, in order. -/
theorem filter_normalForm (run : List Element) :
    (normalForm run).filter (!·.isText) = run.filter (!·.isText) := by
  rw [normalForm_eq, filter_trimRun, filter_mergeTexts]

theorem container_mem_normalForm (run : List Element) (t : Tag) (c : Node) :
    Element.container t c ∈ normalForm run ↔ Element.container t c ∈ run := by
  have same := congrArg (Element.container t c ∈ ·) (filter_normalForm run)
  simpa [Element.isText, Element.text?] using same

/-! ## §4 A pass over a run with adjacent texts -/

theorem lineEnds_mergeTexts {run : List Element} (h : ∀ e ∈ run.head?, e.isText = false) :
    lineEnds (mergeTexts run) = lineEnds run := by
  rw [lineEnds, head?_mergeTexts h, lineEnds]

/-- Clipping the start of a text twice is clipping it once, whatever is done at the end. -/
theorem clip_true_trimStart {s t : String} (h : Text.trimStart s = Text.trimStart t) (stop : Bool) :
    Text.clip true stop s = Text.clip true stop t := by
  simp only [Text.clip, if_true, h]

/-- A text may be clipped before the texts behind it are merged into it, unless nothing is left
of it. -/
theorem trimRun_clipped {b : Bool} {s : String} {rest : List Element}
    (accepted : Text.Spaced s.toList) (h : Text.clip b (lineEnds rest) s ≠ "") :
    trimRun b (mergeTexts (.leaf (.text (Text.clip b (lineEnds rest) s)) :: rest)) =
      trimRun b (mergeTexts (.leaf (.text s) :: rest)) := by
  obtain ⟨ts, after, rfl, hafter⟩ := exists_textRun rest
  have merged (t : String) : mergeTexts (.leaf (.text t) :: (textRun ts ++ after)) =
      .leaf (.text (ts.foldl Text.merge t)) :: mergeTexts after := mergeTexts_textRun t ts hafter
  rw [merged, merged, trimRun_text, trimRun_text, lineEnds_mergeTexts hafter]
  cases ts with
  | nil =>
    have same := Text.clip_clip accepted b (lineEnds after)
    simp only [textRun, List.map_nil, List.nil_append, List.foldl_nil]
    rw [same]
    rfl
  | cons u us =>
    -- the line goes on, so that only the start may be clipped
    have goesOn : lineEnds (textRun (u :: us) ++ after) = false := rfl
    rw [goesOn] at h ⊢
    cases b with
    | false => rfl
    | true =>
      have whole : Text.clip true false s = Text.trimStart s := rfl
      rw [whole] at h ⊢
      have again : Text.trimStart (Text.trimStart s) = Text.trimStart s :=
        Text.clip_clip accepted true false
      have same : Text.trimStart ((u :: us).foldl Text.merge (Text.trimStart s)) =
          Text.trimStart ((u :: us).foldl Text.merge s) := by
        rw [Text.trimStart_foldl_merge (by rwa [again]), again, Text.trimStart_foldl_merge h]
      rw [clip_true_trimStart same]

/-- A lone space of which clipping leaves nothing may be dropped before the texts behind it are
merged into it. -/
theorem trimRun_dropped {b : Bool} {s : String} {rest : List Element}
    (accepted : Text.Spaced s.toList)
    (acceptedRest : ∀ e ∈ rest, e.isText = true → e.check = .ok ())
    (h : Text.clip b (lineEnds rest) s = "") :
    trimRun b (mergeTexts rest) = trimRun b (mergeTexts (.leaf (.text s) :: rest)) := by
  obtain ⟨rfl, place⟩ : s = " " ∧ (b = true ∨ lineEnds rest = true) := by
    rcases Text.clip_cases accepted b (lineEnds rest) with ⟨hs, place, -⟩ | ⟨left, -⟩
    · exact ⟨hs, place⟩
    · rw [h] at left
      exact absurd rfl left.nonempty
  obtain ⟨ts, after, rfl, hafter⟩ := exists_textRun rest
  cases ts with
  | nil =>
    have alone : mergeTexts (.leaf (.text " ") :: (textRun [] ++ after)) =
        .leaf (.text " ") :: mergeTexts after := mergeTexts_textRun " " [] hafter
    rw [alone, trimRun_text, lineEnds_mergeTexts hafter]
    exact (if_pos h).symm
  | cons u us =>
    have goesOn : lineEnds (textRun (u :: us) ++ after) = false := rfl
    obtain rfl : b = true := place.resolve_right (by rw [goesOn]; exact Bool.false_ne_true)
    have merged := mergeTexts_textRun u us hafter
    have more : mergeTexts (.leaf (.text " ") :: (textRun (u :: us) ++ after)) =
        .leaf (.text (us.foldl Text.merge (Text.merge " " u))) :: mergeTexts after :=
      mergeTexts_textRun " " (u :: us) hafter
    have same : Text.trimStart (us.foldl Text.merge u) =
        Text.trimStart (us.foldl Text.merge (Text.merge " " u)) := by
      have first := Text.trimStart_space_merge u
      rcases Text.trimStart_cases (Text.check_text_iff.1 (acceptedRest (.leaf (.text u)) (by
        simp [textRun]) rfl)) with ⟨rfl, -⟩ | ⟨left, -⟩
      · rfl
      · have hne : Text.trimStart u ≠ "" := by
          intro he
          rw [he] at left
          exact left.nonempty rfl
        rw [Text.trimStart_foldl_merge hne, Text.trimStart_foldl_merge (by rwa [first]), first]
    rw [merged, more, trimRun_text, trimRun_text, clip_true_trimStart same]

/-- The text that a pass has left behind last, into which a text that comes next is merged. -/
def held : List Element → List Element
  | .leaf (.text s) :: _ => [.leaf (.text s)]
  | _ => []

/-- What a pass has left behind for good, in reverse. -/
def placed : List Element → List Element
  | .leaf (.text _) :: before => before
  | done => done

theorem placed_held (done : List Element) :
    done.reverse = (placed done).reverse ++ held done := by
  unfold placed held
  split <;> simp

theorem held_of_not {done : List Element}
    (h : ∀ s before, done = .leaf (.text s) :: before → False) :
    held done = [] ∧ placed done = done := by
  unfold placed held
  split
  · exact (h _ _ rfl).elim
  · exact ⟨rfl, rfl⟩

theorem held_other {e : Element} (he : e.isText = false) (before : List Element) :
    held (e :: before) = [] ∧ placed (e :: before) = e :: before := by
  refine held_of_not fun s before h => ?_
  cases h
  cases he

theorem held_text_ne {s : String} {before : List Element} :
    held (.leaf (.text s) :: before) ≠ [] := List.cons_ne_nil _ _

theorem held_cases (done : List Element) :
    held done = [] ∨ ∃ s, held done = [.leaf (.text s)] := by
  unfold held
  split
  · exact .inr ⟨_, rfl⟩
  · exact .inl rfl

/-- Behind what is no text, whatever is held is apart from what follows. -/
theorem apart_held {e : Element} {done run : List Element} (he : e.isText = false)
    (apart : run.IsChain Element.NotBothText) :
    (held done ++ e :: run).IsChain Element.NotBothText := by
  have first : (e :: run).IsChain Element.NotBothText :=
    List.isChain_cons.2 ⟨fun x _ => by simp [Element.NotBothText, he], apart⟩
  rcases held_cases done with none | ⟨s, some⟩
  · rwa [none]
  · rw [some]
    exact List.isChain_cons.2 ⟨by simp [Element.NotBothText, he], first⟩

theorem acceptedHeld_text {s : String} {before : List Element} (h : (Leaf.text s).check = .ok ()) :
    ∀ e ∈ held (.leaf (.text s) :: before), e.isText = true → e.check = .ok () := by
  intro e mem _
  obtain rfl := List.mem_singleton.1 mem
  exact h

/-- What a pass in the middle of a run makes of the group that is being merged and the rest. -/
structure Merges (done rest run : List Element) (changed : Bool) : Prop where
  accepted : ∀ e ∈ run, e.isText = true → e.check = .ok ()
  apart : run.IsChain Element.NotBothText
  /-- The result has the trimmed form of what was there; a group that is being merged has it
  wherever it stands. -/
  trims : ∀ b, (held done = [] → b = done.head?.all (·.isBlockBoundary)) →
    trimRun b run = trimRun b (mergeTexts (held done ++ rest))
  unchanged : changed = false → (held done ++ rest).IsChain Element.NotBothText

namespace Merges

variable {done before rest run : List Element} {s : String} {changed : Bool}

/-- At the end of a run. -/
theorem finished (accepted : ∀ e ∈ held done, e.isText = true → e.check = .ok ()) :
    Merges done [] (held done) false := by
  have apart : (held done).IsChain Element.NotBothText := by
    rcases held_cases done with none | ⟨s, some⟩
    · rw [none]
      exact .nil
    · rw [some]
      exact .singleton _
  refine ⟨accepted, apart, fun b _ => ?_, fun _ => ?_⟩
  · rw [List.append_nil, mergeTexts_eq_self apart]
  · rwa [List.append_nil]

/-- A text is merged into the one before it. -/
theorem absorb {previous : String}
    (h : Merges (.leaf (.text (Text.merge previous s)) :: before) rest run changed) :
    Merges (.leaf (.text previous) :: before) (.leaf (.text s) :: rest) run true where
  accepted := h.accepted
  apart := h.apart
  trims b _ := by
    rw [h.trims b fun nothing => absurd nothing held_text_ne]
    exact congrArg (trimRun b) (mergeTexts_merge previous s rest).symm
  unchanged := Bool.noConfusion

/-- A text is left as it is. -/
theorem keep (none : held done = []) (h : Merges (.leaf (.text s) :: done) rest run changed) :
    Merges done (.leaf (.text s) :: rest) run changed where
  accepted := h.accepted
  apart := h.apart
  trims b _ := by
    rw [h.trims b fun nothing => absurd nothing held_text_ne, none]
    rfl
  unchanged hc := by
    rw [none]
    exact h.unchanged hc

/-- Nothing is left of a text. -/
theorem drop (none : held done = []) (accepted : Text.Spaced s.toList)
    (acceptedRest : ∀ e ∈ rest, e.isText = true → e.check = .ok ())
    (empty : Text.clip (done.head?.all (·.isBlockBoundary)) (lineEnds rest) s = "")
    (h : Merges done rest run changed) : Merges done (.leaf (.text s) :: rest) run true where
  accepted := h.accepted
  apart := h.apart
  trims b hb := by
    obtain rfl := hb none
    rw [h.trims _ fun _ => rfl, none]
    exact trimRun_dropped accepted acceptedRest empty
  unchanged := Bool.noConfusion

/-- A text is clipped. -/
theorem clip (none : held done = []) (accepted : Text.Spaced s.toList)
    (left : Text.clip (done.head?.all (·.isBlockBoundary)) (lineEnds rest) s ≠ "")
    (h : Merges (.leaf (.text (Text.clip (done.head?.all (·.isBlockBoundary)) (lineEnds rest) s)) ::
      done) rest run changed) : Merges done (.leaf (.text s) :: rest) run true where
  accepted := h.accepted
  apart := h.apart
  trims b hb := by
    obtain rfl := hb none
    rw [h.trims _ fun nothing => absurd nothing held_text_ne, none]
    exact trimRun_clipped accepted left
  unchanged := Bool.noConfusion

/-- What is no text ends the group before it. -/
theorem other {e : Element} (he : e.isText = false)
    (acceptedHeld : ∀ x ∈ held done, x.isText = true → x.check = .ok ())
    (h : Merges (e :: done) rest run changed) :
    Merges done (e :: rest) (held done ++ e :: run) changed := by
  have none := (held_other he done).1
  have behind : trimRun e.isBlockBoundary run = trimRun e.isBlockBoundary (mergeTexts rest) := by
    have := h.trims e.isBlockBoundary fun _ => rfl
    rwa [none, List.nil_append] at this
  refine ⟨fun x mem => ?_, apart_held he h.apart, fun b _ => ?_, fun hc => apart_held he ?_⟩
  · rcases List.mem_append.1 mem with mem | mem
    · exact acceptedHeld x mem
    · rcases List.mem_cons.1 mem with rfl | mem
      · exact fun ht => Bool.noConfusion (he.symm.trans ht)
      · exact h.accepted x mem
  · rcases held_cases done with none | ⟨s, some⟩
    · rw [none, List.nil_append, List.nil_append, mergeTexts_other he, trimRun_cons he,
        trimRun_cons he, behind]
    · have apart : ∀ x ∈ (e :: rest).head?, Element.NotBothText (.leaf (.text s)) x := by
        simp [Element.NotBothText, he]
      rw [some]
      show trimRun b (.leaf (.text s) :: e :: run) =
        trimRun b (mergeTexts (.leaf (.text s) :: e :: rest))
      rw [mergeTexts_cons apart, mergeTexts_other he, trimRun_text, trimRun_text,
        trimRun_cons he, trimRun_cons he, trimRun_cons he, trimRun_cons he, behind]
      rfl
  · have := h.unchanged hc
    rwa [none, List.nil_append] at this

end Merges

/-- A pass in the middle of a run, with the invariant that the text it may still add to is
accepted. -/
theorem scan_merges (done rest : List Element)
    (acceptedHeld : ∀ e ∈ held done, e.isText = true → e.check = .ok ())
    (accepted : ∀ e ∈ rest, e.isText = true → e.check = .ok ()) :
    ∃ run changed, scan done rest = .ok ((placed done).reverse ++ run, changed) ∧
      Merges done rest run changed := by
  fun_induction scan done rest with
  | case1 done => exact ⟨held done, false, by rw [placed_held], .finished acceptedHeld⟩
  | case2 previous before s rest e hc =>
    -- what is merged would be accepted
    exfalso
    rw [List.forall_mem_cons] at accepted
    have first := Text.check_text_iff.1 (acceptedHeld (.leaf (.text previous)) (by simp [held]) rfl)
    have second := Text.check_text_iff.1 (accepted.1 rfl)
    have := (Text.check_text_iff.2 ((Text.spaced_merge_iff first s).2 (.inr second))).symm.trans hc
    cases this
  | case3 previous before s rest hc ih =>
    rw [List.forall_mem_cons] at accepted
    obtain ⟨run, changed, hscan, h⟩ := ih (acceptedHeld_text hc) accepted.2
    exact ⟨run, true, by rw [hscan]; rfl, h.absorb⟩
  | case4 done s rest hnot _ ht ih =>
    rw [List.forall_mem_cons] at accepted
    obtain ⟨none, all⟩ := held_of_not hnot
    obtain ⟨run, changed, hscan, h⟩ := ih (acceptedHeld_text (accepted.1 rfl)) accepted.2
    rw [all]
    exact ⟨run, changed, hscan, h.keep none⟩
  | case5 done s rest hnot _ ht he ih =>
    rw [List.forall_mem_cons] at accepted
    obtain ⟨none, -⟩ := held_of_not hnot
    obtain ⟨run, changed, hscan, h⟩ := ih acceptedHeld accepted.2
    exact ⟨run, true, by rw [hscan]; rfl, h.drop none (Text.check_text_iff.1 (accepted.1 rfl))
      accepted.2 (String.isEmpty_iff.1 he)⟩
  | case6 done s rest hnot _ ht he e hc =>
    -- what is left would be accepted
    exfalso
    rw [List.forall_mem_cons] at accepted
    rcases Text.clip_cases (Text.check_text_iff.1 (accepted.1 rfl))
      (done.head?.all (·.isBlockBoundary)) (lineEnds rest) with ⟨-, -, h⟩ | ⟨h, -⟩
    · exact he (String.isEmpty_iff.2 h)
    · have := (Text.check_text_iff.2 h).symm.trans hc
      cases this
  | case7 done s rest hnot _ ht he hc ih =>
    rw [List.forall_mem_cons] at accepted
    obtain ⟨none, all⟩ := held_of_not hnot
    obtain ⟨run, changed, hscan, h⟩ := ih (acceptedHeld_text hc) accepted.2
    rw [all]
    exact ⟨run, true, by rw [hscan]; rfl, h.clip none (Text.check_text_iff.1 (accepted.1 rfl))
      fun empty => he (String.isEmpty_iff.2 empty)⟩
  | case8 done e rest _ hnot ih =>
    have he : e.isText = false := by
      rcases text_or_not e with ⟨s, hs⟩ | he
      · exact absurd hs (hnot s)
      · exact he
    rw [List.forall_mem_cons] at accepted
    obtain ⟨none, all⟩ := held_other he done
    obtain ⟨run, changed, hscan, h⟩ := ih (by rw [none]; exact List.forall_mem_nil _) accepted.2
    refine ⟨held done ++ e :: run, changed, ?_, h.other he acceptedHeld⟩
    rw [hscan, all, List.reverse_cons, placed_held done]
    simp

/-- All passes over a run together. The first leaves no texts next to each other, so that at
most one more changes anything. -/
theorem settle_normalForm {run : List Element}
    (accepted : ∀ e ∈ run, e.isText = true → e.check = .ok ()) :
    ∃ passes ≤ 2, settle run = .ok (normalForm run, passes) ∧
      (run.IsChain Element.NotBothText → passes ≤ 1) := by
  obtain ⟨run', changed, hscan, h⟩ := scan_merges [] run nofun accepted
  have hpass : pass run = .ok (run', changed) := hscan
  have whole : trimRun true run' = normalForm run := by
    rw [normalForm_eq]
    exact h.trims true fun _ => rfl
  have direct (apart : run.IsChain Element.NotBothText) :
      ∃ passes ≤ 1, settle run = .ok (normalForm run, passes) := by
    obtain ⟨passes, most, hsettle⟩ := settle_eq apart accepted
    rw [normalForm_eq, mergeTexts_eq_self apart]
    exact ⟨passes, most, hsettle⟩
  by_cases apart : run.IsChain Element.NotBothText
  · obtain ⟨passes, most, hsettle⟩ := direct apart
    exact ⟨passes, Nat.le_succ_of_le most, hsettle, fun _ => most⟩
  · obtain rfl : changed = true := by
      by_contra hne
      exact apart (h.unchanged (by simpa using hne))
    obtain ⟨passes, most, hsettle⟩ := settle_eq h.apart h.accepted
    refine ⟨passes + 1, Nat.succ_le_succ most, ?_, fun h => absurd h apart⟩
    rw [settle]
    split <;> rename_i h' <;> rw [hpass] at h' <;> cases h'
    rw [hsettle, whole]
    rfl

/-- What a run comes to, as the trimmed form of a run that the first pass leaves. -/
theorem exists_normalForm_eq {run : List Element}
    (accepted : ∀ e ∈ run, e.isText = true → e.check = .ok ()) :
    ∃ run', normalForm run = trimRun true run' ∧ run'.IsChain Element.NotBothText ∧
      ∀ e ∈ run', e.isText = true → e.check = .ok () := by
  obtain ⟨run', _, -, h⟩ := scan_merges [] run nofun accepted
  refine ⟨run', ?_, h.apart, h.accepted⟩
  rw [normalForm_eq]
  exact (h.trims true fun _ => rfl).symm

theorem accepted_normalForm {run : List Element}
    (accepted : ∀ e ∈ run, e.isText = true → e.check = .ok ()) :
    ∀ e ∈ normalForm run, e.isText = true → e.check = .ok () := by
  obtain ⟨run', h, -, accepted'⟩ := exists_normalForm_eq accepted
  rw [h]
  exact accepted_trimRun accepted'

/-- The normal form is its own normal form. -/
theorem normalForm_normalForm {run : List Element}
    (accepted : ∀ e ∈ run, e.isText = true → e.check = .ok ()) :
    normalForm (normalForm run) = normalForm run := by
  obtain ⟨run', h, apart, accepted'⟩ := exists_normalForm_eq accepted
  rw [h, normalForm_eq, mergeTexts_eq_self (apart_trimRun apart), trimRun_trimRun apart accepted']

end Normalization

/-! ## §5 Trees -/

open Normalization

namespace Node

/-- A node in whose body every text is accepted. -/
def TextsAccepted (n : Node) : Prop := ∀ e ∈ n.body, e.isText = true → e.check = .ok ()

instance : DecidablePred TextsAccepted := fun n =>
  inferInstanceAs (Decidable (∀ e ∈ n.body, e.isText = true → e.check = .ok ()))

/-- Over a tree of accepted texts normalization does not fail, and brings every body run into
its normal form. -/
theorem normalizeRuns_normalForm {n : Node} (h : n.Everywhere TextsAccepted) :
    n.normalizeRuns = .ok (n.mapRuns normalForm id) := by
  refine normalizeRuns_of_settled (fun m accepted k => ?_) h
  obtain ⟨passes, -, run, -⟩ := settle_normalForm (accepted_map k accepted)
  rw [settled, run]
  rfl

/-- Trimming an open tree of accepted texts. -/
theorem trimWhitespace_normalForm {n : Node} (h : n.Everywhere TextsAccepted)
    (isOpen : n.finished = false) : n.trimWhitespace .standard = .ok (n.mapRuns normalForm id) := by
  rw [trimWhitespace, requireOpen, isOpen]
  exact normalizeRuns_normalForm h

/-- A tree in normal form is left alone by bringing it into normal form. -/
theorem mapRuns_normalForm_again {n : Node} (h : n.Everywhere TextsAccepted) :
    (n.mapRuns normalForm id).mapRuns normalForm id = n.mapRuns normalForm id := by
  refine mapRuns_eq_self ((everywhere_mapRuns container_mem_normalForm).2 fun m hm => ⟨?_, rfl⟩)
  rw [body_mapRuns]
  exact normalForm_normalForm (accepted_map _ (h m hm))

theorem everywhere_textsAccepted_mapRuns {n : Node} (h : n.Everywhere TextsAccepted) :
    (n.mapRuns normalForm id).Everywhere TextsAccepted := by
  refine (everywhere_mapRuns container_mem_normalForm).2 fun m hm => ?_
  intro e mem
  rw [body_mapRuns] at mem
  exact accepted_normalForm (accepted_map _ (h m hm)) e mem

theorem Sound.textsAccepted {n : Node} (h : n.Sound) : n.TextsAccepted :=
  fun e mem _ => h.checked.body e mem

end Node

/-- The closed form of normalization. Over a run of accepted texts at most two passes change
something, and at most one if no two texts are adjacent; they come to the normal form of the run,
which has all other elements as they were, in order. Over a tree this is done to every body,
inside the headlines of a headline run and inside the containers of a body as well. -/
theorem normalization_closed_form :
    (∀ run : List Element, (∀ e ∈ run, e.isText = true → e.check = .ok ()) →
      (∃ passes, settle run = .ok (normalForm run, passes) ∧ passes ≤ 2 ∧
        (run.IsChain Element.NotBothText → passes ≤ 1)) ∧
      (normalForm run).filter (!·.isText) = run.filter (!·.isText)) ∧
    ∀ n : Node, n.Everywhere Node.TextsAccepted →
      n.normalizeRuns = .ok (n.mapRuns normalForm id) ∧
      (n.finished = false → n.trimWhitespace .standard = .ok (n.mapRuns normalForm id)) := by
  refine ⟨fun run accepted => ⟨?_, filter_normalForm run⟩,
    fun n accepted => ⟨?_, fun isOpen => ?_⟩⟩
  · obtain ⟨passes, most, hsettle, apart⟩ := settle_normalForm accepted
    exact ⟨passes, hsettle, most, apart⟩
  · exact Node.normalizeRuns_normalForm accepted
  · exact Node.trimWhitespace_normalForm accepted isOpen

/-- Spaces around a line break, in groups of texts: the first pass drops a lone space and clips
the start of the text behind it, and merges the lone space at the end of the line. -/
theorem normalization_closed_form_line :
    let run : List Element := [.leaf (.text " "), .leaf (.text " life"), .leaf (.text " "),
      .leaf (.lineBreak .newline), .leaf (.text " was "), .leaf (.text " the"),
      .container .footnote ⟨[], [.leaf (.text " light ")], false⟩, .leaf (.text " of")]
    let settledRun : List Element := [.leaf (.text "life"), .leaf (.lineBreak .newline),
      .leaf (.text "was the"), .container .footnote ⟨[], [.leaf (.text " light ")], false⟩,
      .leaf (.text " of")]
    (∃ passes, settle run = .ok (settledRun, passes) ∧ passes ≤ 2) ∧
      Node.trimWhitespace ⟨[], run, false⟩ .standard = .ok ⟨[], [.leaf (.text "life"),
        .leaf (.lineBreak .newline), .leaf (.text "was the"),
        .container .footnote ⟨[], [.leaf (.text "light")], false⟩,
        .leaf (.text " of")], false⟩ := by
  intro run settledRun
  have accepted : ∀ e ∈ run, e.isText = true → e.check = .ok () := by decide
  have inTree : (⟨[], run, false⟩ : Node).Everywhere Node.TextsAccepted := by decide
  obtain ⟨runs, trees⟩ := normalization_closed_form
  obtain ⟨⟨passes, hsettle, most, -⟩, -⟩ := runs run accepted
  exact ⟨⟨passes, hsettle, most⟩, (trees _ inTree).2 rfl⟩

/-! ## §6 Reachable trees -/

/-- Normalizing a reachable open tree does not fail, and normalizing it again with the same
options changes nothing at any depth. It comes to an end: at every depth the contents are
normalized first, and then at most one pass changes anything. -/
theorem trimming_settles {n : Node} (reachable : Reachable n) (isOpen : n.finished = false)
    (options : NormalizeOptions) :
    (∃ n', n.trimWhitespace options = .ok n' ∧ n'.trimWhitespace options = .ok n') ∧
      ∀ m : Node, m.Within n → ∃ contents run passes,
        Element.normalizeContents m.body = .ok contents ∧
          settle contents = .ok (run, passes) ∧ passes ≤ 1 := by
  have accepted : n.Everywhere Node.TextsAccepted :=
    reachable.sound.mono fun _ => Node.Sound.textsAccepted
  refine ⟨?_, fun m hm => ?_⟩
  · obtain ⟨keepWhitespace⟩ := options
    cases keepWhitespace with
    | true =>
      have kept : n.trimWhitespace ⟨true⟩ = .ok n := by
        rw [Node.trimWhitespace, Node.requireOpen, isOpen]
        rfl
      exact ⟨n, kept, kept⟩
    | false =>
      have again := Node.trimWhitespace_normalForm (Node.everywhere_textsAccepted_mapRuns accepted)
        ((Node.finished_mapRuns n).trans isOpen)
      rw [Node.mapRuns_normalForm_again accepted] at again
      exact ⟨_, Node.trimWhitespace_normalForm accepted isOpen, again⟩
  · have sound := reachable.sound m hm
    obtain ⟨-, inside⟩ := Node.everywhere_iff.1 (accepted.of_within hm)
    have contents := Element.normalizeContents_eq fun t c mem =>
      Node.normalizeRuns_normalForm (inside t c (Node.mem_children.2 (.inr mem)))
    obtain ⟨passes, -, hsettle, most⟩ := settle_normalForm
      (accepted_map (Node.mapRuns normalForm id) sound.textsAccepted)
    exact ⟨_, _, passes, contents, hsettle, most (Element.isChain_map_mapContent.2 sound.apart)⟩

/-- A tree with spaces at the ends of its lines, also inside a footnote. -/
theorem trimming_settles_footnote :
    let n : Node := ⟨[], [.leaf (.text " life "), .leaf (.lineBreak .newline),
      .leaf (.text " "), .container .footnote ⟨[], [.leaf (.text " light ")], false⟩], false⟩
    let t : Node := ⟨[], [.leaf (.text "life"), .leaf (.lineBreak .newline),
      .container .footnote ⟨[], [.leaf (.text "light")], false⟩], false⟩
    n.trimWhitespace .standard = .ok t ∧ t.trimWhitespace .standard = .ok t ∧
      ∃ contents run passes, Element.normalizeContents n.body = .ok contents ∧
        settle contents = .ok (run, passes) ∧ passes ≤ 1 := by
  intro n t
  have built : Reachable n := .perform [.leaf (.text " life "), .leaf (.lineBreak .newline),
    .leaf (.text " "), .container .footnote [.leaf (.text " light ")]] .empty rfl
  obtain ⟨⟨n', trims, again⟩, settles⟩ := trimming_settles built rfl .standard
  -- what trimming comes to is known
  have same : n.trimWhitespace .standard = .ok t := by
    rw [Node.trimWhitespace_standard built.sound rfl]
    rfl
  cases trims.symm.trans same
  exact ⟨trims, again, settles n (.self n)⟩

end ScriptureText
