/-
ScriptureText.Proofs.Sound — what building guarantees of one node.

Three properties of a node's own runs: its children's fields are in order
(`Checked`), no two text leaves stand next to each other (`TextsApart`), and its
body does not start with a headline (`BodyLeads`). The first two are `Sound`,
which no operation breaks; the third is what decides in which run a headline
stands.

Each step of a builder is taken apart once (`addLeaf_cases`,
`addContainer_cases`), and every preservation lemma is a case analysis on that.
-/
import ScriptureText.Builder
import ScriptureText.Proofs.Tree
import Mathlib.Data.List.Chain

namespace ScriptureText

/-! ## §1 Elements and nodes -/

namespace Element

/-- The first malformed field of an element itself; its content is not looked at. -/
def check : Element → Except Error Unit
  | .leaf l => l.check
  | .container t _ => t.check

@[simp] theorem check_mapContent (k : Node → Node) (e : Element) :
    (e.mapContent k).check = e.check := by cases e <;> rfl

/-- Two elements of which at most one is a text leaf. -/
def NotBothText (a b : Element) : Prop := ¬ (a.isText = true ∧ b.isText = true)

theorem isText_iff {e : Element} : e.isText = true ↔ ∃ s, e = .leaf (.text s) := by
  rcases e with l | ⟨t, c⟩
  · cases l <;> simp [isText, text?, Leaf.text?]
  · simp [isText, text?]

theorem isText_leaf_text (s : String) : (Element.leaf (.text s)).isText = true := rfl

/-- Whether texts are apart does not depend on what the containers contain. -/
theorem isChain_map_mapContent {k : Node → Node} {es : List Element} :
    (es.map (mapContent k)).IsChain NotBothText ↔ es.IsChain NotBothText := by
  simp only [List.isChain_map, NotBothText, isText_mapContent]
  rfl

end Element

namespace Node

/-- Every child's own fields are in order. -/
def Checked (n : Node) : Prop := ∀ e ∈ n.children, e.check = .ok ()

/-- No two text leaves stand next to each other. -/
def TextsApart (n : Node) : Prop := n.body.IsChain Element.NotBothText

/-- The body does not start with a headline. -/
def BodyLeads (n : Node) : Prop := ∀ e ∈ n.body.head?, e.isHeadline = false

instance : DecidableRel Element.NotBothText := fun a b =>
  inferInstanceAs (Decidable ¬ (a.isText = true ∧ b.isText = true))

instance : DecidablePred Checked := fun n =>
  inferInstanceAs (Decidable (∀ e ∈ n.children, e.check = .ok ()))

instance : DecidablePred TextsApart := fun n =>
  inferInstanceAs (Decidable (n.body.IsChain Element.NotBothText))

instance : DecidablePred BodyLeads := fun n =>
  inferInstanceAs (Decidable (∀ e ∈ n.body.head?, e.isHeadline = false))

/-- What no operation breaks. -/
structure Sound (n : Node) : Prop where
  checked : n.Checked
  apart : n.TextsApart

/-- Headlines in front of the body bring no texts together. -/
theorem TextsApart.children {n : Node} (h : n.TextsApart) :
    n.children.IsChain Element.NotBothText := by
  rw [Node.children]
  induction n.headlines with
  | nil => exact h
  | cons hd rest ih =>
    rw [List.map_cons, List.cons_append]
    refine List.isChain_cons.2 ⟨fun _ _ both => ?_, ih⟩
    cases both.1

theorem mem_children {n : Node} {e : Element} :
    e ∈ n.children ↔ (∃ h ∈ n.headlines, h.toElement = e) ∨ e ∈ n.body := by
  simp [children]

theorem Checked.body {n : Node} (h : n.Checked) : ∀ e ∈ n.body, e.check = .ok () :=
  fun e mem => h e (mem_children.2 (.inr mem))

theorem Checked.headline {n : Node} (h : n.Checked) {hd : Headline} (mem : hd ∈ n.headlines) :
    (Tag.headline hd.depth).check = .ok () :=
  h _ (mem_children.2 (.inl ⟨hd, mem, rfl⟩))

/-- The same headlines and a body from sound parts make a sound node. -/
theorem Sound.withBody {n : Node} {b : List Element} (h : n.Sound)
    (checked : ∀ e ∈ b, e.check = .ok ()) (apart : b.IsChain Element.NotBothText) :
    ({ n with body := b } : Node).Sound where
  checked := by
    intro e mem
    rcases mem_children.1 mem with mem | mem
    · exact h.checked e (mem_children.2 (.inl mem))
    · exact checked e mem
  apart := apart

theorem sound_empty : Node.empty.Sound := ⟨by simp [Checked, children, empty], .nil⟩

theorem bodyLeads_empty : Node.empty.BodyLeads := by simp [BodyLeads, empty]

/-! ## §2 Steps of a builder -/

/-- What a leaf does to a node: nothing, as empty text; it is merged into the text before it; or
it is added at the end. -/
theorem addLeaf_cases {n n' : Node} {l : Leaf} (h : n.addLeaf l = .ok n') :
    l = .text "" ∧ n' = n ∨
    (∃ s before previous, l = .text s ∧ s ≠ "" ∧ n.body = before ++ [.leaf (.text previous)] ∧
      (Leaf.text (Text.merge previous s)).check = .ok () ∧
      n' = { n with body := before ++ [.leaf (.text (Text.merge previous s))] }) ∨
    (l.check = .ok () ∧ (∀ e ∈ n.body.getLast?, Element.NotBothText e (.leaf l)) ∧
      n' = n.push (.leaf l)) := by
  have pushed {l : Leaf} (h : (do l.check; return n.push (.leaf l)) = .ok n') :
      l.check = .ok () ∧ n' = n.push (.leaf l) := by
    cases hl : l.check with
    | error e => rw [hl] at h; cases h
    | ok u => rw [hl] at h; cases h; exact ⟨rfl, rfl⟩
  cases l with
  | text s =>
    simp only [addLeaf, addText, String.isEmpty_iff] at h
    split at h
    · rename_i hs
      cases h
      exact .inl ⟨by rw [hs], rfl⟩
    · rename_i hs
      split at h
      · rename_i previous hlast
        obtain ⟨before, hb⟩ := List.getLast?_eq_some_iff.1 hlast
        cases hm : (Leaf.text (Text.merge previous s)).check with
        | error e => rw [hm] at h; cases h
        | ok u =>
          rw [hm] at h
          cases h
          exact .inr (.inl ⟨s, before, previous, rfl, hs, hb, hm, by simp [hb]⟩)
      · rename_i hlast
        obtain ⟨hc, hn⟩ := pushed h
        refine .inr (.inr ⟨hc, fun e he hboth => ?_, hn⟩)
        obtain ⟨p, rfl⟩ := Element.isText_iff.1 hboth.1
        exact hlast p he
  | _ =>
    obtain ⟨hc, hn⟩ := pushed h
    exact .inr (.inr ⟨hc, fun e _ hboth => (by simpa [Element.isText, Element.text?, Leaf.text?]
      using hboth.2), hn⟩)

/-- What a container does to a node: a headline joins the headline run while there is no body,
and every other container the body. -/
theorem addContainer_cases (n : Node) (t : Tag) (c : Node) :
    (∃ d, t = .headline d ∧ n.body = [] ∧
      n.addContainer t c = { n with headlines := n.headlines ++ [⟨d, c⟩] }) ∨
    ((n.body = [] → (Element.container t c).isHeadline = false) ∧
      n.addContainer t c = n.push (.container t c)) := by
  cases t with
  | headline d =>
    by_cases hb : n.body = []
    · exact .inl ⟨d, rfl, hb, by simp [addContainer, hb]⟩
    · exact .inr ⟨fun h => absurd h hb, by simp [addContainer, hb]⟩
  | _ => exact .inr ⟨fun _ => rfl, rfl⟩

theorem children_push (n : Node) (e : Element) : (n.push e).children = n.children ++ [e] := by
  simp [children, push]

/-- Whichever run a container joins, it is the last child. -/
theorem children_addContainer (n : Node) (t : Tag) (c : Node) :
    (n.addContainer t c).children = n.children ++ [.container t c] := by
  rcases addContainer_cases n t c with ⟨d, rfl, hb, h⟩ | ⟨-, h⟩
  · rw [h]
    simp [children, hb, Headline.toElement]
  · rw [h, children_push]

/-- A leaf brings no container. -/
theorem container_mem_addLeaf {n n' c : Node} {l : Leaf} {t : Tag} (h : n.addLeaf l = .ok n') :
    Element.container t c ∈ n'.children ↔ Element.container t c ∈ n.children := by
  rcases addLeaf_cases h with ⟨-, rfl⟩ | ⟨s, before, previous, -, -, hb, -, rfl⟩ | ⟨-, -, rfl⟩
  · rfl
  · simp [children, hb]
  · simp [children_push]

/-! ## §3 What the steps preserve -/

theorem Sound.push {n : Node} {e : Element} (h : n.Sound) (checked : e.check = .ok ())
    (apart : ∀ x ∈ n.body.getLast?, Element.NotBothText x e) : (n.push e).Sound := by
  refine h.withBody ?_ (List.isChain_append.2 ⟨h.apart, .singleton e, ?_⟩)
  · intro x mem
    rcases List.mem_append.1 mem with mem | mem
    · exact h.checked.body x mem
    · rw [List.mem_singleton.1 mem]
      exact checked
  · rintro x hx _ ⟨⟩
    exact apart x hx

theorem Sound.addLeaf {n n' : Node} {l : Leaf} (h : n.Sound) (step : n.addLeaf l = .ok n') :
    n'.Sound := by
  rcases addLeaf_cases step with ⟨-, rfl⟩ | ⟨s, before, previous, -, -, hb, hm, rfl⟩ | ⟨hc, ha, rfl⟩
  · exact h
  · have apart := h.apart
    rw [TextsApart, hb, List.isChain_append] at apart
    refine h.withBody ?_ (List.isChain_append.2 ⟨apart.1, .singleton _, ?_⟩)
    · intro x mem
      rcases List.mem_append.1 mem with mem | mem
      · exact h.checked.body x (by rw [hb]; exact List.mem_append_left _ mem)
      · rw [List.mem_singleton.1 mem]
        exact hm
    · rintro x hx _ ⟨⟩
      exact apart.2.2 x hx (.leaf (.text previous)) rfl
  · exact h.push hc ha

theorem Sound.addContainer {n : Node} {t : Tag} (h : n.Sound) (checked : t.check = .ok ())
    (c : Node) : (n.addContainer t c).Sound := by
  rcases addContainer_cases n t c with ⟨d, rfl, hb, heq⟩ | ⟨-, heq⟩
  · refine ⟨?_, by rw [heq]; exact h.apart⟩
    intro e mem
    rw [children_addContainer, List.mem_append, List.mem_singleton] at mem
    rcases mem with mem | rfl
    · exact h.checked e mem
    · exact checked
  · rw [heq]
    exact h.push checked fun x _ hboth => by simp [Element.isText, Element.text?] at hboth

theorem Sound.dropLast {n : Node} (h : n.Sound) :
    ({ n with body := n.body.dropLast } : Node).Sound :=
  h.withBody (fun e mem => h.checked.body e (List.dropLast_subset _ mem)) h.apart.dropLast

/-- A change of a whole tree keeps its nodes sound if it does so run by run. -/
theorem Sound.mapRuns {g : List Element → List Element} {n : Node} (h : n.Sound)
    (checked : ∀ run, (∀ e ∈ run, e.check = .ok ()) → ∀ e ∈ g run, e.check = .ok ())
    (apart : ∀ run, run.IsChain Element.NotBothText → (g run).IsChain Element.NotBothText)
    (k : Bool → Bool) : (n.mapRuns g k).Sound where
  checked := by
    intro e mem
    rcases mem_children.1 mem with ⟨_, hmem, rfl⟩ | hmem
    · rw [headlines_mapRuns] at hmem
      obtain ⟨hd, hd_mem, rfl⟩ := List.mem_map.1 hmem
      show (Tag.headline hd.depth).check = .ok ()
      exact h.checked.headline hd_mem
    · rw [body_mapRuns] at hmem
      refine checked _ (fun x hx => ?_) e hmem
      obtain ⟨y, hy, rfl⟩ := List.mem_map.1 hx
      rw [Element.check_mapContent]
      exact h.checked.body y hy
  apart := by
    rw [TextsApart, body_mapRuns]
    exact apart _ (Element.isChain_map_mapContent.2 h.apart)

theorem BodyLeads.push {n : Node} {e : Element} (h : n.BodyLeads)
    (first : n.body = [] → e.isHeadline = false) : (n.push e).BodyLeads := by
  intro x hx
  cases hb : n.body with
  | nil =>
    rw [Node.push, hb] at hx
    cases hx
    exact first hb
  | cons y rest =>
    rw [Node.push, hb] at hx
    exact h x (by rw [hb]; exact hx)

theorem BodyLeads.addLeaf {n n' : Node} {l : Leaf} (h : n.BodyLeads)
    (step : n.addLeaf l = .ok n') : n'.BodyLeads := by
  rcases addLeaf_cases step with ⟨-, rfl⟩ | ⟨s, before, previous, -, -, hb, -, rfl⟩ | ⟨-, -, rfl⟩
  · exact h
  · intro x hx
    cases before with
    | nil =>
      cases hx
      rfl
    | cons y rest => exact h x (by rw [hb]; exact hx)
  · exact h.push fun _ => rfl

theorem BodyLeads.addContainer {n : Node} (h : n.BodyLeads) (t : Tag) (c : Node) :
    (n.addContainer t c).BodyLeads := by
  rcases addContainer_cases n t c with ⟨d, -, -, heq⟩ | ⟨first, heq⟩
  · rw [heq]
    exact h
  · rw [heq]
    exact h.push first

theorem BodyLeads.dropLast {n : Node} (h : n.BodyLeads) :
    ({ n with body := n.body.dropLast } : Node).BodyLeads := by
  intro x hx
  refine h x ?_
  change x ∈ n.body.dropLast.head? at hx
  rw [List.head?_dropLast] at hx
  split at hx
  · exact hx
  · cases hx

end Node

end ScriptureText
