/-
ScriptureText.Proofs.Fragments — text that arrives in fragments.

A builder joins a text to the text before it and drops one of two spaces where
they meet. It looks at the seam only. That no space too many is left anywhere
else rests on one invariant: what stands in the node is the text taken so far
with every run of spaces collapsed, so that a further text meets at most one
space, and brings at most one (`merge_eq_collapse`). Where a run of spaces was
cut does therefore not matter, nor does text that is refused in between; a lone
space may leave no trace at all.
-/
import Mathlib.Data.List.Destutter
import ScriptureText.Proofs.AtomicCalls

namespace ScriptureText

open Builder (consumer)

namespace Text

/-! ## §1 Runs of spaces -/

section Destutter

variable {α : Type} {R : α → α → Prop} [DecidableRel R]

theorem exists_destutter'_eq_cons (a : α) (l : List α) : ∃ rest, l.destutter' R a = a :: rest := by
  induction l with
  | nil => exact ⟨[], rfl⟩
  | cons b l ih =>
    by_cases h : R a b
    · exact ⟨_, List.destutter'_cons_pos l h⟩
    · rwa [List.destutter'_cons_neg l h]

/-- What comes first may be thinned out beforehand. -/
theorem destutter_destutter'_append (a : α) (l m : List α) :
    (l.destutter' R a ++ m).destutter R = (a :: (l ++ m)).destutter R := by
  induction l generalizing a with
  | nil => rfl
  | cons b l ih =>
    rw [List.cons_append, List.destutter_cons_cons]
    by_cases h : R a b
    · obtain ⟨rest, kept⟩ := exists_destutter'_eq_cons (R := R) b l
      have inside : (b :: (rest ++ m)).destutter R = (b :: (l ++ m)).destutter R := by
        rw [← ih b, kept, List.cons_append]
      rw [List.destutter'_cons_pos l h, if_pos h, kept, List.cons_append, List.cons_append,
        List.destutter_cons_cons, if_pos h]
      exact congrArg (a :: ·) inside
    · rw [List.destutter'_cons_neg l h, if_neg h, ih a, List.destutter_cons']

theorem destutter_append_left (l m : List α) :
    (l.destutter R ++ m).destutter R = (l ++ m).destutter R := by
  cases l with
  | nil => rfl
  | cons a l => exact destutter_destutter'_append a l m

/-- An element that may not follow itself is not kept twice in a row. -/
theorem destutter_append_repeated {a : α} (h : ¬ R a a) (u v : List α) :
    (u ++ a :: a :: v).destutter R = (u ++ a :: v).destutter R := by
  have after (c : α) (u : List α) :
      (u ++ a :: a :: v).destutter' R c = (u ++ a :: v).destutter' R c := by
    induction u generalizing c with
    | nil => by_cases hc : R c a <;> simp [hc, h]
    | cons b u ih => simp only [List.cons_append, List.destutter'_cons, ih]
  cases u with
  | nil => rw [List.nil_append, List.destutter_cons_cons, if_neg h]; rfl
  | cons c u => exact after c u

end Destutter

instance : DecidableRel NotBothSpaces := fun a b =>
  inferInstanceAs (Decidable ¬ (a = ' ' ∧ b = ' '))

/-- A text with one space in place of every run of spaces. -/
def collapse (s : String) : String := String.ofList (s.toList.destutter NotBothSpaces)

theorem toList_collapse (s : String) : (collapse s).toList = s.toList.destutter NotBothSpaces :=
  String.toList_ofList

theorem collapse_eq_self_iff {s : String} :
    collapse s = s ↔ s.toList.IsChain NotBothSpaces := by
  rw [← String.toList_inj, toList_collapse, List.destutter_eq_self_iff]

theorem collapse_eq_empty_iff {s : String} : collapse s = "" ↔ s = "" := by
  rw [← String.toList_inj, toList_collapse, ← String.toList_inj]
  exact List.destutter_eq_nil _

/-- Collapsing first what comes first changes nothing. -/
theorem collapse_append_left (s t : String) : collapse (collapse s ++ t) = collapse (s ++ t) := by
  rw [← String.toList_inj]
  simp only [toList_collapse, String.toList_append, destutter_append_left]

/-- What is left of printable text is a text, if it is anything. -/
theorem spaced_collapse {s : String} (printable : ∀ c ∈ s.toList, Unicode.isControl c = false) :
    collapse s = "" ∨ Spaced (collapse s).toList := by
  rw [or_iff_not_imp_left]
  intro filled
  rw [collapse_eq_empty_iff] at filled
  refine ⟨?_, fun c hc => printable c ?_, ?_⟩ <;> rw [toList_collapse] at *
  · rw [ne_eq, List.destutter_eq_nil]
    simpa using filled
  · exact (List.destutter_sublist _ _).subset hc
  · exact List.isChain_destutter _ _

/-- Two texts without repeated spaces have one at most where they meet, and it is dropped. -/
theorem merge_eq_collapse {s t : String} (hs : s.toList.IsChain NotBothSpaces)
    (ht : t.toList.IsChain NotBothSpaces) : merge s t = collapse (s ++ t) := by
  rcases merge_cases s t with ⟨w, rfl, ends, joined⟩ | ⟨seam, joined⟩
  · obtain ⟨u, rfl⟩ := endsWithSpace_iff.1 ends
    rw [String.toList_ofList] at hs ht
    have single : (u ++ ' ' :: w).IsChain NotBothSpaces := by
      simpa using hs.append_overlap ht (by simp)
    rw [joined, ← String.toList_inj, toList_collapse]
    simp only [String.toList_append, String.toList_ofList, List.append_assoc,
      List.singleton_append]
    rw [destutter_append_repeated (by simp [NotBothSpaces]), List.destutter_of_isChain _ _ single]
  · rw [joined, eq_comm, collapse_eq_self_iff, String.toList_append]
    exact List.isChain_append.2 ⟨hs, ht, seam⟩

end Text

/-- The texts that a builder takes: no control character, and no two spaces in a row. -/
theorem Leaf.accepted_text_iff {s : String} : (Leaf.text s).Accepted ↔
    (∀ c ∈ s.toList, Unicode.isControl c = false) ∧ s.toList.IsChain Text.NotBothSpaces := by
  rw [Leaf.Accepted, Leaf.text.injEq, Text.check_text_iff]
  constructor
  · rintro (rfl | spaced)
    · exact ⟨by simp, .nil⟩
    · exact ⟨spaced.printable, spaced.single⟩
  · rintro ⟨printable, single⟩
    by_cases hs : s = ""
    · exact .inl hs
    · exact .inr ⟨by simpa using hs, printable, single⟩

namespace Node

/-! ## §2 Fragments at the end of a node -/

/-- A node with a text behind it, if there is any text. -/
def withText (n : Node) (s : String) : Node := if s = "" then n else n.push (.leaf (.text s))

/-- What has been taken of fragments, one after the other. -/
def taken (fragments : List String) : String :=
  String.join (fragments.filter fun s => (Leaf.text s).Accepted)

theorem taken_cons (s : String) (rest : List String) :
    taken (s :: rest) = (if (Leaf.text s).Accepted then s else "") ++ taken rest := by
  by_cases h : (Leaf.text s).Accepted <;> simp [taken, h]

variable {n : Node}

/-- Text joins the text behind a node, or it is the first. -/
theorem addText_withText (start : ∀ e ∈ n.body.getLast?, e.isText = false) (t s : String) :
    (n.withText t).addText s = if s = "" then .ok (n.withText t) else do
      (Leaf.text (Text.merge t s)).check
      return n.withText (Text.merge t s) := by
  by_cases hs : s = ""
  · simp [addText, hs]
  rw [addText, if_neg (by simpa using hs), if_neg hs]
  by_cases ht : t = ""
  · subst ht
    rw [Text.empty_merge, withText, if_pos rfl, withText, if_neg hs]
    split
    · rename_i previous last
      cases start _ last
    · rfl
  · have filled := Text.merge_ne_empty ht s
    simp [withText, ht, filled, push]

/-- What is joined to collapsed text is checked by itself. -/
theorem check_merge_iff {t : String} (printable : ∀ c ∈ t.toList, Unicode.isControl c = false)
    {s : String} (h : s ≠ "") : (Leaf.text (Text.merge (Text.collapse t) s)).check = .ok () ↔
      (Leaf.text s).Accepted := by
  rcases Text.spaced_collapse printable with nothing | spaced
  · rw [nothing, Text.empty_merge, Leaf.Accepted, Leaf.text.injEq, or_iff_right h]
  · rw [Text.check_text_iff, Text.spaced_merge_iff spaced, Leaf.Accepted, Leaf.text.injEq,
      Text.check_text_iff]

/-- One fragment: it is taken and the text behind the node is collapsed again, or it is refused and
the node stays as it was. -/
theorem perform_text (start : ∀ e ∈ n.body.getLast?, e.isText = false) {t : String}
    (printable : ∀ c ∈ t.toList, Unicode.isControl c = false) (s : String) :
    (consumer.toVisitor.perform (.leaf (.text s)) (n.withText (Text.collapse t))).2 =
      n.withText (Text.collapse (t ++ if (Leaf.text s).Accepted then s else "")) := by
  have step : consumer.toVisitor.perform (.leaf (.text s)) (n.withText (Text.collapse t)) =
      Visitor.outcome (consumer.leaf (.text s)) (fun _ => .done) (n.withText (Text.collapse t)) :=
    rfl
  rw [step, Visitor.outcome]
  simp only [consumer, addLeaf, addText_withText start]
  by_cases hs : s = ""
  · simp [hs]
  rw [if_neg hs]
  have decided := check_merge_iff printable hs
  split_ifs with accepted
  · have collapsed : (Text.collapse t).toList.IsChain Text.NotBothSpaces := by
      rw [Text.toList_collapse]
      exact List.isChain_destutter _ _
    rw [decided.2 accepted, Text.merge_eq_collapse collapsed (Leaf.accepted_text_iff.1 accepted).2,
      Text.collapse_append_left]
    rfl
  · cases checked : (Leaf.text (Text.merge (Text.collapse t) s)).check with
    | ok => exact absurd (decided.1 checked) accepted
    | error e => rw [String.append_empty]; rfl

/-- All fragments, one after the other. -/
theorem performAll_texts (start : ∀ e ∈ n.body.getLast?, e.isText = false)
    (fragments : List String) {t : String}
    (printable : ∀ c ∈ t.toList, Unicode.isControl c = false) :
    (consumer.toVisitor.performAll (fragments.map fun s => .leaf (.text s))
        (n.withText (Text.collapse t))).2 = n.withText (Text.collapse (t ++ taken fragments)) := by
  induction fragments generalizing t with
  | nil => rw [taken, List.filter_nil, String.join_nil, String.append_empty]; rfl
  | cons s rest ih =>
    have printable' : ∀ c ∈ (t ++ if (Leaf.text s).Accepted then s else "").toList,
        Unicode.isControl c = false := by
      intro c hc
      rw [String.toList_append, List.mem_append] at hc
      refine hc.elim (printable c) fun hc => ?_
      split_ifs at hc with accepted
      · exact (Leaf.accepted_text_iff.1 accepted).1 c hc
      · simp at hc
    rw [taken_cons, ← String.append_assoc, ← ih printable', ← perform_text start printable]
    rfl

/-- Text given to a builder in any number of fragments, of which some may be empty or refused. If
there is no text behind the node yet, the node gains one text, in which every run of spaces in what
has been taken is one space; it gains nothing if nothing has been taken. Where the text was cut does
not matter, nor what was refused in between. -/
theorem texts_fragmented (start : ∀ e ∈ n.body.getLast?, e.isText = false)
    (fragments : List String) :
    let given (fragments : List String) : Node :=
      (consumer.toVisitor.performAll (fragments.map fun s => .leaf (.text s)) n).2
    (taken fragments = "" → given fragments = n) ∧
    (taken fragments ≠ "" →
      given fragments = n.push (.leaf (.text (Text.collapse (taken fragments))))) ∧
    ∀ others, Text.collapse (taken fragments) = Text.collapse (taken others) →
      given fragments = given others := by
  intro given
  have all (fragments : List String) :
      given fragments = n.withText (Text.collapse (taken fragments)) := by
    have run := performAll_texts start fragments (t := "") (by simp)
    rwa [String.empty_append] at run
  refine ⟨fun nothing => ?_, fun something => ?_, fun others same => ?_⟩
  · rw [all, nothing]
    rfl
  · rw [all, withText, if_neg (Text.collapse_eq_empty_iff.not.2 something)]
  · rw [all, all, same]

/-- Lone spaces, an empty text and two texts that are refused, behind a verse separator. -/
theorem texts_fragmented_verse :
    let verse : Node := ⟨[], [.leaf (.text "darkness "), .leaf .verseSeparator], false⟩
    let fragments := [" ", "the  land", " ", "", "over ", "\t", " the", " ", " deep", " "]
    (∀ e ∈ verse.body.getLast?, e.isText = false) ∧
    (consumer.toVisitor.performAll (fragments.map fun s => .leaf (.text s)) verse).2 =
      verse.push (.leaf (.text " over the deep ")) := by
  intro verse fragments
  have start : ∀ e ∈ verse.body.getLast?, e.isText = false := by decide
  obtain ⟨-, filled, -⟩ := texts_fragmented start fragments
  have collapsed : Text.collapse (taken fragments) = " over the deep " := by decide
  refine ⟨start, ?_⟩
  rw [← collapsed]
  exact filled (by decide)

end Node

end ScriptureText
