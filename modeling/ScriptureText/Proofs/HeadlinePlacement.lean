/-
ScriptureText.Proofs.HeadlinePlacement — in which run a headline stands.

A builder puts a headline into the body only behind another element, and no
operation but normalization can undo that. Normalization drops a text of which
nothing is left, and that text may be all that stands before the first headline
of a body: then the body starts with a headline, and a copy of the tree has the
headline in its headline run.

`headlines_stay_behind` gives the exact extent of this. The texts in question
are single spaces, since a text has no two spaces in a row.
-/
import ScriptureText.Proofs.Copy
import ScriptureText.Proofs.Reachable

namespace ScriptureText

open Builder (consumer)
open Normalization

namespace Node

/-! ## §1 What normalization does to the start of a body -/

/-- Whether the body starts with a single space and a headline. -/
def loneSpaceLeads (n : Node) : Bool :=
  match n.body with
  | .leaf (.text s) :: e :: _ => s == " " && e.isHeadline
  | _ => false

/-- The element that a trimmed run starts with: its first, or its second if the first is a
single space. -/
theorem head?_trimRun_text {s : String} {rest : List Element}
    (apart : (Element.leaf (.text s) :: rest).IsChain Element.NotBothText)
    (checked : (Leaf.text s).check = .ok ()) :
    s = " " ∧ (trimRun true (.leaf (.text s) :: rest)).head? = rest.head? ∨
      s ≠ " " ∧ ∃ t, (trimRun true (.leaf (.text s) :: rest)).head? = some (.leaf (.text t)) := by
  rw [trimRun_text]
  by_cases hs : s = " "
  · have gone : Text.clip true (lineEnds rest) s = "" := by
      rw [hs]
      cases lineEnds rest <;> decide
    rw [if_pos gone]
    exact .inl ⟨hs, head?_trimRun (next_not_text apart) true⟩
  · have stays : Text.clip true (lineEnds rest) s ≠ "" := by
      intro gone
      rcases Text.clip_cases (Text.check_text_iff.1 checked) true (lineEnds rest) with
        ⟨h, -, -⟩ | ⟨h, -, -⟩
      · exact hs h
      · rw [gone] at h
        exact h.nonempty rfl
    rw [if_neg stays]
    exact .inr ⟨hs, _, rfl⟩

/-- The body of a trimmed node starts with a headline if it did before, or a single space was all
that kept it from that. -/
theorem bodyLeads_trimmed_iff {n : Node} (h : n.Sound) :
    n.trimmed.BodyLeads ↔ n.BodyLeads ∧ n.loneSpaceLeads = false := by
  have checked := h.checked.body
  have apart := h.apart
  rw [TextsApart] at apart
  rw [BodyLeads, BodyLeads, body_trimmed, loneSpaceLeads, List.head?_map]
  generalize n.body = b at checked apart
  cases b with
  | nil => simp
  | cons e rest =>
    rw [List.forall_mem_cons] at checked
    rcases text_or_not e with ⟨s, rfl⟩ | he
    · have text : (Element.leaf (.text s)).isHeadline = false := rfl
      rcases head?_trimRun_text apart checked.1 with ⟨rfl, hd⟩ | ⟨hs, t, hd⟩
      · rw [hd]
        cases rest <;> simp [text]
      · rw [hd]
        have text' : (Element.leaf (.text t)).isHeadline = false := rfl
        cases rest <;> simp [text, text', hs]
    · rw [trimRun_cons he]
      rcases e with (_ | _ | _ | _) | ⟨t, c⟩
      · cases he
      all_goals simp [-Element.mapContent_container]

theorem bodyLeads_mapRuns_id {k : Bool → Bool} {n : Node} :
    (n.mapRuns id k).BodyLeads ↔ n.BodyLeads := by
  rw [BodyLeads, BodyLeads, body_mapRuns, id, List.head?_map]
  cases n.body <;> simp

/-! ## §2 Building and copying -/

theorem kept_bodyLeads : Kept BodyLeads where
  empty := bodyLeads_empty
  leaf := BodyLeads.addLeaf
  container h _ c := h.addContainer _ c
  dropLast := BodyLeads.dropLast
  flags h _ := bodyLeads_mapRuns_id.2 h

/-- A builder makes no tree with a body that starts with a headline, so a tree is
copied faithfully only if it is none. -/
theorem feed_builder_iff {n : Node} (sound : n.Everywhere Sound) :
    n.feed consumer .empty = .ok () n.reopened ↔ n.Everywhere BodyLeads := by
  constructor
  · intro h
    have leads := kept_bodyLeads.feed n (everywhere_empty.2 bodyLeads_empty) h
    rw [reopened, everywhere_mapRuns (g := id) fun _ _ _ => Iff.rfl] at leads
    exact leads.mono fun m hm => bodyLeads_mapRuns_id.1 hm
  · intro leads
    exact feed_builder fun m hm => ⟨(sound m hm).checked, (sound m hm).apart, leads m hm⟩

end Node

/-- Histories in which no tree is normalized that has a lone space before a headline. -/
theorem ReachableTrimming.bodyLeads {n : Node}
    (h : ReachableTrimming (fun m => m.Everywhere fun k => k.loneSpaceLeads = false) n) :
    n.Everywhere Node.BodyLeads := by
  have kept : Kept fun m => m.Sound ∧ m.BodyLeads := Node.kept_sound.and Node.kept_bodyLeads
  have both : n.Everywhere fun m => m.Sound ∧ m.BodyLeads := by
    refine h.everywhere kept ?_
    intro n n' hn lone step
    have sound : n.Everywhere Node.Sound := hn.mono fun _ hm => hm.1
    rw [Node.normalizeRuns_eq sound] at step
    cases step
    refine Node.everywhere_trimmed.2 fun m hm => ?_
    obtain ⟨hs, hl⟩ := hn m hm
    exact ⟨hs.trimmed, (Node.bodyLeads_trimmed_iff hs).2 ⟨hl, lone m hm⟩⟩
  exact both.mono fun _ hm => hm.2

/-! ## §3 The extent of the invariant -/

/-- In every tree reached without normalizing a tree that has, at any depth, a
lone space before a headline at the start of a body, no body starts with a
headline. Normalizing breaks that exactly for the trees excepted here, and a
reachable tree is copied faithfully exactly as long as it is not broken. -/
theorem headlines_stay_behind {n : Node} (reachable : Reachable n) :
    (ReachableTrimming (fun m => m.Everywhere fun k => k.loneSpaceLeads = false) n →
      n.Everywhere Node.BodyLeads) ∧
    (n.finished = false → ∃ n', n.trimWhitespace .standard = .ok n' ∧
      (n'.Everywhere Node.BodyLeads ↔
        n.Everywhere fun m => m.BodyLeads ∧ m.loneSpaceLeads = false)) ∧
    ∀ limit, n.accept consumer.toVisitor (limit + 1) .empty = some (.ok () n.reopened) ↔
      n.Everywhere Node.BodyLeads := by
  have sound := reachable.sound
  refine ⟨fun h => h.bodyLeads, fun isOpen => ?_, fun limit => ?_⟩
  · refine ⟨n.trimmed, Node.trimWhitespace_standard sound isOpen, ?_⟩
    rw [Node.everywhere_trimmed]
    constructor
    · intro leads m hm
      exact (Node.bodyLeads_trimmed_iff (sound m hm)).1 (leads m hm)
    · intro both m hm
      exact (Node.bodyLeads_trimmed_iff (sound m hm)).2 (both m hm)
  · rw [Node.accept_toVisitor, Run.step, ← Node.feed_builder_iff sound, Option.some.injEq]

/-- A text that is more than a space keeps the headline behind it in its place. -/
theorem headlines_stay_behind_text :
    let n : Node := ⟨[], [.leaf (.text "Light "),
      .container (.headline 2) ⟨[], [.leaf (.text "Day")], false⟩], false⟩
    (∃ n', n.trimWhitespace .standard = .ok n' ∧ n'.Everywhere Node.BodyLeads) ∧
      n.accept consumer.toVisitor 1 .empty = some (.ok () n.reopened) := by
  intro n
  have built : Reachable n := .perform
    [.leaf (.text "Light "), .container (.headline 2) [.leaf (.text "Day")]] .empty rfl
  have untrimmed : ReachableTrimming
      (fun m => m.Everywhere fun k => k.loneSpaceLeads = false) n := .perform
    [.leaf (.text "Light "), .container (.headline 2) [.leaf (.text "Day")]] .empty rfl
  obtain ⟨stay, trim, copy⟩ := headlines_stay_behind built
  obtain ⟨n', trims, unbroken⟩ := trim rfl
  exact ⟨⟨n', trims, unbroken.2 (by decide)⟩, (copy 0).2 (stay untrimmed)⟩

/-- A headline behind a lone space starts the body after normalization, and the
copy of the normalized tree has it in the headline run. -/
theorem headline_leads_after_lone_space :
    let headline : Headline := ⟨1, ⟨[], [.leaf (.text "x")], false⟩⟩
    let n : Node := ⟨[], [.leaf (.text " "), headline.toElement], false⟩
    let n' : Node := ⟨[], [headline.toElement], false⟩
    Reachable n ∧ n.trimWhitespace .standard = .ok n' ∧ Reachable n' ∧
      ¬ n'.Everywhere Node.BodyLeads ∧ n'.copy = .ok ⟨[headline], [], false⟩ := by
  intro headline n n'
  have built : Reachable n := .perform
    [.leaf (.text " "), .container (.headline 1) [.leaf (.text "x")]] .empty rfl
  have trimmed : n.trimWhitespace .standard = .ok n' := by
    rw [Node.trimWhitespace_standard built.sound rfl]
    rfl
  exact ⟨built, trimmed, .trimWhitespace built trimmed, by decide, rfl⟩

end ScriptureText
