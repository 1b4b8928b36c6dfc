/-
ScriptureText.Proofs.Tree — what holds at every depth of a tree.

A property of one node, which looks at the node's own runs, is carried to the
whole tree by `Node.Everywhere`. `Node.childrenInduction` is the induction that
goes with it: what holds of a node as soon as it holds of the content of each
child holds of every node.

`Node.mapRuns` is the one way in which operations change a whole tree: the
contents first, then the body run, then the flag. Sealing, reopening and
trimming are cases of it, so that what they leave alone is said once
(`within_mapRuns`).
-/
import ScriptureText.Tree.Lifecycle

namespace ScriptureText

/-! ## §1 Depth -/

namespace Node

/-- The nodes inside a node at any depth, the node itself among them. -/
inductive Within : Node → Node → Prop where
  | self (n : Node) : Within n n
  | inside {m n c : Node} {t : Tag} (mem : Element.container t c ∈ n.children)
      (h : Within m c) : Within m n

/-- What holds of a node and of every node inside it. -/
def Everywhere (P : Node → Prop) (n : Node) : Prop := ∀ m, m.Within n → P m

theorem everywhere_iff {P : Node → Prop} {n : Node} :
    n.Everywhere P ↔ P n ∧ ∀ t c, Element.container t c ∈ n.children → c.Everywhere P := by
  constructor
  · intro h
    exact ⟨h n (.self n), fun t c mem m hm => h m (.inside mem hm)⟩
  · rintro ⟨hn, hc⟩ m hm
    cases hm with
    | self => exact hn
    | inside mem h => exact hc _ _ mem m h

theorem Everywhere.mono {P Q : Node → Prop} {n : Node} (h : n.Everywhere P)
    (imp : ∀ m, P m → Q m) : n.Everywhere Q := fun m hm => imp m (h m hm)

theorem Within.trans {k m n : Node} (h : k.Within m) (h' : m.Within n) : k.Within n := by
  induction h' with
  | self => exact h
  | inside mem _ ih => exact .inside mem ih

theorem Everywhere.of_within {P : Node → Prop} {m n : Node} (h : n.Everywhere P)
    (hm : m.Within n) : m.Everywhere P := fun k hk => h k (hk.trans hm)

theorem everywhere_empty {P : Node → Prop} : Node.empty.Everywhere P ↔ P Node.empty := by
  rw [everywhere_iff]
  simp [Node.empty, children]

/-- The contents of a node's containers are smaller than the node. -/
theorem sizeOf_lt_of_mem_children {n c : Node} {t : Tag}
    (mem : Element.container t c ∈ n.children) : sizeOf c < sizeOf n := by
  obtain ⟨hs, b, f⟩ := n
  simp only [children, List.mem_append, List.mem_map] at mem
  rcases mem with ⟨h, hmem, heq⟩ | hmem
  · have := List.sizeOf_lt_of_mem hmem
    obtain ⟨d, c'⟩ := h
    simp only [Headline.toElement, Element.container.injEq] at heq
    obtain ⟨-, rfl⟩ := heq
    simp only [Headline.mk.sizeOf_spec, Node.mk.sizeOf_spec] at *
    omega
  · have := List.sizeOf_lt_of_mem hmem
    simp only [Element.container.sizeOf_spec, Node.mk.sizeOf_spec] at *
    omega

/-- Induction over a tree: a node may use what is known of the content of its children. -/
theorem childrenInduction {P : Node → Prop}
    (step : ∀ n : Node, (∀ t c, Element.container t c ∈ n.children → P c) → P n) (n : Node) : P n :=
  step n fun _ c _mem => childrenInduction step c
termination_by sizeOf n
decreasing_by exact sizeOf_lt_of_mem_children _mem

end Node

mutual

/-- A test of a node and of every node inside it. -/
def Node.all (p : Node → Bool) : Node → Bool
  | ⟨hs, b, f⟩ => p ⟨hs, b, f⟩ && Headline.allRun p hs && Element.allRun p b

/-- A test of every node in a headline run. -/
def Headline.allRun (p : Node → Bool) : List Headline → Bool
  | [] => true
  | ⟨_, c⟩ :: rest => c.all p && Headline.allRun p rest

/-- A test of every node in a body run. -/
def Element.allRun (p : Node → Bool) : List Element → Bool
  | [] => true
  | .leaf _ :: rest => Element.allRun p rest
  | .container _ c :: rest => c.all p && Element.allRun p rest

end

theorem Headline.allRun_iff {p : Node → Bool} {hs : List Headline} :
    Headline.allRun p hs = true ↔
      ∀ t c, Element.container t c ∈ hs.map Headline.toElement → c.all p = true := by
  induction hs with
  | nil => simp [Headline.allRun]
  | cons h rest ih =>
    obtain ⟨d, c⟩ := h
    simp only [Headline.allRun, Bool.and_eq_true, ih, List.map_cons, List.mem_cons]
    constructor
    · intro h t c' mem
      rcases mem with heq | mem
      · cases heq
        exact h.1
      · exact h.2 t c' mem
    · intro h
      exact ⟨h (.headline d) c (.inl rfl), fun t c' mem => h t c' (.inr mem)⟩

theorem Element.allRun_iff {p : Node → Bool} {es : List Element} :
    Element.allRun p es = true ↔ ∀ t c, Element.container t c ∈ es → c.all p = true := by
  induction es with
  | nil => simp [Element.allRun]
  | cons e rest ih =>
    cases e with
    | leaf l => simp [Element.allRun, ih]
    | container t c =>
      simp only [Element.allRun, Bool.and_eq_true, ih, List.mem_cons]
      constructor
      · intro h t' c' mem
        rcases mem with heq | mem
        · cases heq
          exact h.1
        · exact h.2 t' c' mem
      · intro h
        exact ⟨h t c (.inl rfl), fun t' c' mem => h t' c' (.inr mem)⟩

namespace Node

theorem all_iff {p : Node → Bool} (n : Node) :
    n.all p = true ↔ n.Everywhere fun m => p m = true := by
  induction n using childrenInduction with
  | step n ih =>
    rw [everywhere_iff]
    have inside : (∀ t c, Element.container t c ∈ n.children → c.all p = true) ↔
        ∀ t c, Element.container t c ∈ n.children → c.Everywhere fun m => p m = true :=
      forall₃_congr ih
    rw [← inside]
    obtain ⟨hs, b, f⟩ := n
    simp only [all, children, Bool.and_eq_true, Headline.allRun_iff, Element.allRun_iff,
      List.mem_append, or_imp, forall_and, and_assoc]

instance {P : Node → Prop} [DecidablePred P] (n : Node) : Decidable (n.Everywhere P) :=
  decidable_of_iff (n.all fun m => decide (P m)) (by simp [all_iff])

end Node

/-! ## §2 Changing contents -/

namespace Element

/-- An element with its content changed. -/
def mapContent (k : Node → Node) : Element → Element
  | .leaf l => .leaf l
  | .container t c => .container t (k c)

@[simp] theorem mapContent_leaf (k : Node → Node) (l : Leaf) :
    mapContent k (.leaf l) = .leaf l := rfl

@[simp] theorem mapContent_container (k : Node → Node) (t : Tag) (c : Node) :
    mapContent k (.container t c) = .container t (k c) := rfl

@[simp] theorem isText_mapContent (k : Node → Node) (e : Element) :
    (e.mapContent k).isText = e.isText := by cases e <;> rfl

@[simp] theorem isHeadline_mapContent (k : Node → Node) (e : Element) :
    (e.mapContent k).isHeadline = e.isHeadline := by
  cases e with
  | leaf l => rfl
  | container t c => cases t <;> rfl

@[simp] theorem isBlockBoundary_mapContent (k : Node → Node) (e : Element) :
    (e.mapContent k).isBlockBoundary = e.isBlockBoundary := by
  cases e with
  | leaf l => rfl
  | container t c => cases t <;> rfl

@[simp] theorem mapContent_id : mapContent id = id := by
  funext e
  cases e <;> rfl

theorem mapContent_eq_container {k : Node → Node} {e : Element} {t : Tag} {c : Node} :
    e.mapContent k = .container t c ↔ ∃ c', e = .container t c' ∧ k c' = c := by
  cases e with
  | leaf l => simp
  | container t' c' =>
    simp only [mapContent_container, container.injEq]
    constructor
    · rintro ⟨rfl, rfl⟩
      exact ⟨c', ⟨rfl, rfl⟩, rfl⟩
    · rintro ⟨_, ⟨rfl, rfl⟩, rfl⟩
      exact ⟨rfl, rfl⟩

theorem mapContent_mapContent (j k : Node → Node) (e : Element) :
    (e.mapContent j).mapContent k = e.mapContent (k ∘ j) := by cases e <;> rfl

theorem container_mem_map {k : Node → Node} {es : List Element} {t : Tag} {c : Node} :
    .container t c ∈ es.map (mapContent k) ↔ ∃ c', .container t c' ∈ es ∧ k c' = c := by
  simp only [List.mem_map, mapContent_eq_container]
  constructor
  · rintro ⟨_, mem, c', rfl, rfl⟩
    exact ⟨c', mem, rfl⟩
  · rintro ⟨c', mem, rfl⟩
    exact ⟨_, mem, c', rfl, rfl⟩

end Element

namespace Headline

/-- A headline with its content changed. -/
def mapContent (k : Node → Node) (h : Headline) : Headline := ⟨h.depth, k h.content⟩

@[simp] theorem mapContent_id : mapContent id = id := by
  funext h
  cases h
  rfl

theorem toElement_mapContent (k : Node → Node) (h : Headline) :
    (h.mapContent k).toElement = h.toElement.mapContent k := rfl

end Headline

/-! ## §3 Changing a whole tree -/

mutual

/-- A tree with its runs changed from the inside outwards: `g` acts on every
body run, and `k` on every flag. -/
def Node.mapRuns (g : List Element → List Element) (k : Bool → Bool) : Node → Node
  | ⟨hs, b, f⟩ => ⟨Headline.mapRuns g k hs, g (Element.mapRuns g k b), k f⟩

/-- A headline run with every content changed. -/
def Headline.mapRuns (g : List Element → List Element) (k : Bool → Bool) :
    List Headline → List Headline
  | [] => []
  | ⟨d, c⟩ :: rest => ⟨d, c.mapRuns g k⟩ :: Headline.mapRuns g k rest

/-- A body run with every content changed. -/
def Element.mapRuns (g : List Element → List Element) (k : Bool → Bool) :
    List Element → List Element
  | [] => []
  | .leaf l :: rest => .leaf l :: Element.mapRuns g k rest
  | .container t c :: rest => .container t (c.mapRuns g k) :: Element.mapRuns g k rest

end

variable {g : List Element → List Element} {k : Bool → Bool}

theorem Headline.mapRuns_eq : ∀ hs : List Headline,
    Headline.mapRuns g k hs = hs.map (Headline.mapContent (Node.mapRuns g k))
  | [] => by simp [Headline.mapRuns]
  | ⟨d, c⟩ :: rest => by simp [Headline.mapRuns, Headline.mapContent, Headline.mapRuns_eq rest]

theorem Element.mapRuns_eq : ∀ es : List Element,
    Element.mapRuns g k es = es.map (Element.mapContent (Node.mapRuns g k))
  | [] => by simp [Element.mapRuns]
  | .leaf l :: rest => by simp [Element.mapRuns, Element.mapRuns_eq rest]
  | .container t c :: rest => by simp [Element.mapRuns, Element.mapRuns_eq rest]

namespace Node

theorem mapRuns_eq (n : Node) :
    n.mapRuns g k = ⟨n.headlines.map (Headline.mapContent (mapRuns g k)),
      g (n.body.map (Element.mapContent (mapRuns g k))), k n.finished⟩ := by
  obtain ⟨hs, b, f⟩ := n
  rw [mapRuns, Headline.mapRuns_eq, Element.mapRuns_eq]

@[simp] theorem headlines_mapRuns (n : Node) :
    (n.mapRuns g k).headlines = n.headlines.map (Headline.mapContent (mapRuns g k)) := by
  rw [mapRuns_eq]

@[simp] theorem body_mapRuns (n : Node) :
    (n.mapRuns g k).body = g (n.body.map (Element.mapContent (mapRuns g k))) := by
  rw [mapRuns_eq]

@[simp] theorem finished_mapRuns (n : Node) : (n.mapRuns g k).finished = k n.finished := by
  rw [mapRuns_eq]

/-- The children of a node after a change of flags. -/
theorem children_mapRuns_id (n : Node) :
    (n.mapRuns id k).children = n.children.map (Element.mapContent (mapRuns id k)) := by
  simp [children, Function.comp_def, Headline.toElement_mapContent]

/-- The containers of a changed tree, provided that `g` neither adds nor drops any. -/
theorem container_mem_children_mapRuns
    (hg : ∀ es t c, Element.container t c ∈ g es ↔ Element.container t c ∈ es)
    {n c : Node} {t : Tag} : Element.container t c ∈ (n.mapRuns g k).children ↔
      ∃ c', Element.container t c' ∈ n.children ∧ c'.mapRuns g k = c := by
  have hh : (n.headlines.map (Headline.mapContent (mapRuns g k))).map Headline.toElement =
      (n.headlines.map Headline.toElement).map (Element.mapContent (mapRuns g k)) := by
    simp only [List.map_map, Function.comp_def, Headline.toElement_mapContent]
  simp only [children, headlines_mapRuns, body_mapRuns, List.mem_append, hg, hh,
    Element.container_mem_map]
  constructor
  · rintro (⟨c', mem, rfl⟩ | ⟨c', mem, rfl⟩)
    · exact ⟨c', .inl mem, rfl⟩
    · exact ⟨c', .inr mem, rfl⟩
  · rintro ⟨c', mem | mem, rfl⟩
    · exact .inl ⟨c', mem, rfl⟩
    · exact .inr ⟨c', mem, rfl⟩

/-- The nodes of a changed tree are the nodes of the tree, changed. -/
theorem within_mapRuns (hg : ∀ es t c, Element.container t c ∈ g es ↔ Element.container t c ∈ es)
    {m n : Node} : m.Within (n.mapRuns g k) ↔ ∃ m' : Node, m'.Within n ∧ m'.mapRuns g k = m := by
  constructor
  · generalize hn : n.mapRuns g k = n'
    intro h
    induction h generalizing n with
    | self => exact ⟨n, .self n, hn⟩
    | inside mem _ ih =>
      subst hn
      obtain ⟨c', mem', hc⟩ := (container_mem_children_mapRuns hg).1 mem
      obtain ⟨m', hm', rfl⟩ := ih hc
      exact ⟨m', .inside mem' hm', rfl⟩
  · rintro ⟨m', h, rfl⟩
    induction h with
    | self => exact .self _
    | inside mem _ ih => exact .inside ((container_mem_children_mapRuns hg).2 ⟨_, mem, rfl⟩) ih

theorem everywhere_mapRuns
    (hg : ∀ es t c, Element.container t c ∈ g es ↔ Element.container t c ∈ es)
    {P : Node → Prop} {n : Node} :
    (n.mapRuns g k).Everywhere P ↔ n.Everywhere fun m => P (m.mapRuns g k) := by
  constructor
  · intro h m hm
    exact h _ ((within_mapRuns hg).2 ⟨m, hm, rfl⟩)
  · intro h m hm
    obtain ⟨m', hm', rfl⟩ := (within_mapRuns hg).1 hm
    exact h m' hm'

/-- Two changes that agree on the content of every child agree on the runs. -/
theorem map_children_congr {p q : Node → Node} {n : Node}
    (h : ∀ t c, Element.container t c ∈ n.children → p c = q c) :
    n.headlines.map (Headline.mapContent p) = n.headlines.map (Headline.mapContent q) ∧
      n.body.map (Element.mapContent p) = n.body.map (Element.mapContent q) := by
  constructor
  · refine List.map_congr_left fun hd mem => ?_
    have := h (.headline hd.depth) hd.content (List.mem_append_left _ (List.mem_map.2 ⟨hd, mem, rfl⟩))
    rw [Headline.mapContent, Headline.mapContent, this]
  · refine List.map_congr_left fun e mem => ?_
    cases e with
    | leaf l => rfl
    | container t c => simp [h t c (List.mem_append_right _ mem)]

/-- Two changes of flags after each other. -/
theorem mapRuns_id_mapRuns_id (j k : Bool → Bool) (n : Node) :
    (n.mapRuns id j).mapRuns id k = n.mapRuns id (k ∘ j) := by
  induction n using childrenInduction with
  | step n ih =>
    obtain ⟨hs, b⟩ := map_children_congr ih
    rw [mapRuns_eq n, mapRuns_eq (k := k ∘ j), mapRuns_eq, ← hs, ← b]
    simp [Headline.mapContent, Element.mapContent_mapContent, Function.comp_def]

/-- A change that changes no body run and no flag changes nothing. -/
theorem mapRuns_eq_self {n : Node}
    (h : n.Everywhere fun m => g m.body = m.body ∧ k m.finished = m.finished) :
    n.mapRuns g k = n := by
  induction n using childrenInduction with
  | step n ih =>
    obtain ⟨⟨run, flag⟩, inside⟩ := everywhere_iff.1 h
    obtain ⟨hs, b⟩ := map_children_congr (q := id) fun t c mem => ih t c mem (inside t c mem)
    have same : n.body.map (Element.mapContent id) = n.body := by simp
    rw [mapRuns_eq, hs, b, same, run, flag]
    cases n
    simp

/-- A change of flags that changes no flag changes nothing. -/
theorem mapRuns_id_eq_self {k : Bool → Bool} {n : Node}
    (h : n.Everywhere fun m => k m.finished = m.finished) : n.mapRuns id k = n :=
  mapRuns_eq_self (h.mono fun _ hm => ⟨rfl, hm⟩)

end Node

/-! ## §4 Flags -/

mutual

theorem Node.seal_eq_mapRuns : ∀ n : Node, n.seal = n.mapRuns id fun _ => true
  | ⟨hs, b, f⟩ => by
    rw [Node.seal, Node.mapRuns, Headline.sealRun_eq_mapRuns hs, Element.sealRun_eq_mapRuns b, id]

theorem Headline.sealRun_eq_mapRuns : ∀ hs : List Headline,
    Headline.sealRun hs = Headline.mapRuns id (fun _ => true) hs
  | [] => rfl
  | ⟨d, c⟩ :: rest => by
    rw [Headline.sealRun, Headline.mapRuns, Node.seal_eq_mapRuns c,
      Headline.sealRun_eq_mapRuns rest]

theorem Element.sealRun_eq_mapRuns : ∀ es : List Element,
    Element.sealRun es = Element.mapRuns id (fun _ => true) es
  | [] => rfl
  | .leaf l :: rest => by rw [Element.sealRun, Element.mapRuns, Element.sealRun_eq_mapRuns rest]
  | .container t c :: rest => by
    rw [Element.sealRun, Element.mapRuns, Node.seal_eq_mapRuns c, Element.sealRun_eq_mapRuns rest]

end

namespace Node

/-- A tree with every node in it open, and otherwise the same. -/
def reopened (n : Node) : Node := n.mapRuns id fun _ => false

/-- Sealing undoes reopening. -/
theorem seal_reopened (n : Node) : n.reopened.seal = n.seal := by
  rw [seal_eq_mapRuns, seal_eq_mapRuns, reopened, mapRuns_id_mapRuns_id]
  rfl

/-- Reopening undoes the sealing of a tree that is open at every depth. -/
theorem reopened_seal {n : Node} (isOpen : n.Everywhere fun m => m.finished = false) :
    n.seal.reopened = n := by
  rw [reopened, seal_eq_mapRuns, mapRuns_id_mapRuns_id]
  exact mapRuns_id_eq_self (isOpen.mono fun _ hm => hm.symm)

theorem finished_seal (n : Node) : n.seal.finished = true := by
  rw [seal_eq_mapRuns, finished_mapRuns]

end Node

end ScriptureText
