/-
ScriptureText.Proofs.Appending — one tree after another.

Appending `b` to `a` is a traversal of `b` by a builder for `a`. Two things
depend on what `a` ends with: a text joins the text before it, and a headline
joins the headline run as long as there is no body. Neither depends on where the
children of `b` came from, so that appending is a fold over them
(`Node.append_ok`), and adding an element to `b` before `b` is appended is the
same as adding it afterwards (`Node.joined_add`). That is all that associativity
takes; where three texts meet it comes down to that of `Text.merge`, which holds
because a text in a tree is not empty.

Finished flags are not appended: what comes from `b` is open.
-/
import ScriptureText.Proofs.AtomicCalls
import ScriptureText.Proofs.HeadlinePlacement

namespace ScriptureText

open Builder (consumer)

namespace Node

/-- An open tree with another tree appended, by a traversal of that tree. -/
def append (a b : Node) : Except Error Node := do
  a.requireOpen .append
  match b.feed consumer a with
  | .ok _ n => return n
  | .error e _ => throw e

/-! ## §1 One element -/

/-- A node with one more element in which everything is open; text joins the text before it. -/
def add (n : Node) : Element → Node
  | .leaf (.text s) =>
    match n.body.getLast? with
    | some (.leaf (.text previous)) =>
      { n with body := n.body.dropLast ++ [.leaf (.text (Text.merge previous s))] }
    | _ => n.push (.leaf (.text s))
  | .leaf l => n.push (.leaf l)
  | .container t c => n.addContainer t c.reopened

theorem add_text {n : Node} {before : List Element} {previous : String}
    (last : n.body = before ++ [.leaf (.text previous)]) (s : String) :
    n.add (.leaf (.text s)) =
      { n with body := before ++ [.leaf (.text (Text.merge previous s))] } := by
  simp [add, last]

theorem add_leaf {n : Node} {l : Leaf}
    (apart : ∀ e ∈ n.body.getLast?, Element.NotBothText e (.leaf l)) :
    n.add (.leaf l) = n.push (.leaf l) := by
  cases l with
  | text s =>
    rw [add]
    split
    · rename_i previous last
      exact absurd ⟨rfl, rfl⟩ (apart _ last)
    · rfl
  | _ => rfl

/-- A text meets a text at the end of a node, or two elements that are apart meet. -/
theorem meets_text_or_apart (n : Node) (l : Leaf) :
    (∃ before previous s, n.body = before ++ [.leaf (.text previous)] ∧ l = .text s) ∨
      ∀ e ∈ n.body.getLast?, Element.NotBothText e (.leaf l) := by
  by_cases apart : ∀ e ∈ n.body.getLast?, Element.NotBothText e (.leaf l)
  · exact .inr apart
  · simp only [not_forall, Element.NotBothText, not_not] at apart
    obtain ⟨e, last, first, second⟩ := apart
    obtain ⟨previous, rfl⟩ := Element.isText_iff.1 first
    obtain ⟨s, hs⟩ := Element.isText_iff.1 second
    obtain ⟨before, body⟩ := List.getLast?_eq_some_iff.1 last
    exact .inl ⟨before, previous, s, body, Element.leaf.inj hs⟩

/-- A builder does to its node what adding does. -/
theorem feed_add {n : Node} {e : Element} (sound : n.Sound) (checked : e.check = .ok ())
    (content : ∀ t c, e = .container t c → c.feed consumer .empty = .ok () c.reopened) :
    e.feed consumer n = .ok () (n.add e) ∧ (n.add e).Sound := by
  cases e with
  | leaf l =>
    obtain ⟨n', step⟩ := (addLeaf_ok_iff sound l).2 (.inr checked)
    have same : n' = n.add (.leaf l) := by
      rcases addLeaf_cases step with ⟨rfl, -⟩ | ⟨s, before, previous, rfl, -, last, -, rfl⟩ |
        ⟨-, apart, rfl⟩
      · exact absurd rfl (Text.ne_empty_of_check checked)
      · exact (add_text last s).symm
      · exact (add_leaf apart).symm
    rw [Element.feed_leaf, ← same]
    exact ⟨by simp only [consumer, step], sound.addLeaf step⟩
  | container t c =>
    exact ⟨Builder.container_eq checked (content t c rfl), sound.addContainer checked _⟩

theorem reopened_reopened (n : Node) : n.reopened.reopened = n.reopened := by
  rw [reopened, reopened, mapRuns_id_mapRuns_id]
  rfl

theorem add_mapContent_reopened (n : Node) (e : Element) :
    n.add (e.mapContent reopened) = n.add e := by
  cases e with
  | leaf l => rfl
  | container t c => rw [Element.mapContent_container, add, add, reopened_reopened]

/-- Text after text is one text, wherever the first was added. -/
theorem add_add_text (n : Node) {s : String} (h : s ≠ "") (t : String) :
    (n.add (.leaf (.text s))).add (.leaf (.text t)) = n.add (.leaf (.text (Text.merge s t))) := by
  rcases n.meets_text_or_apart (.text s) with ⟨before, previous, _, last, -⟩ | apart
  · rw [add_text last, add_text rfl, add_text last, Text.merge_assoc previous h]
  · have apart' : ∀ e ∈ n.body.getLast?, Element.NotBothText e (.leaf (.text (Text.merge s t))) :=
      apart
    rw [add_leaf apart, add_leaf apart', add_text rfl]
    rfl

/-! ## §2 All children -/

/-- A node with the children of another tree added. -/
def joined (a b : Node) : Node := b.children.foldl add a

/-- Adding an element before or after is the same. -/
theorem joined_add (a : Node) {b : Node} (sound : b.Sound) (e : Element) :
    a.joined (b.add e) = (a.joined b).add e := by
  cases e with
  | leaf l =>
    rcases b.meets_text_or_apart l with ⟨before, previous, s, last, rfl⟩ | apart
    · have filled : previous ≠ "" :=
        Text.ne_empty_of_check (sound.checked.body (.leaf (.text previous)) (by simp [last]))
      rw [add_text last]
      simp only [joined, children, last, List.foldl_append, List.foldl_cons, List.foldl_nil]
      exact (add_add_text _ filled s).symm
    · rw [add_leaf apart, joined, children_push, List.foldl_append]
      rfl
  | container t c =>
    rw [add, joined, children_addContainer, List.foldl_append]
    show (a.joined b).addContainer t c.reopened.reopened = _
    rw [reopened_reopened, add]

/-- Adding several elements before or after is the same. -/
theorem joined_foldl (a : Node) {b : Node} (sound : b.Sound) {es : List Element}
    (checked : ∀ e ∈ es, e.check = .ok ())
    (contents : ∀ t c, .container t c ∈ es → c.feed consumer .empty = .ok () c.reopened) :
    a.joined (es.foldl add b) = es.foldl add (a.joined b) := by
  induction es generalizing b with
  | nil => rfl
  | cons e rest ih =>
    rw [List.forall_mem_cons] at checked
    have content : ∀ t c, e = .container t c → c.feed consumer .empty = .ok () c.reopened :=
      fun t c he => contents t c (by simp [he])
    rw [List.foldl_cons, List.foldl_cons, ← joined_add a sound,
      ih (feed_add sound checked.1 content).2 checked.2
        fun t c mem => contents t c (List.mem_cons_of_mem e mem)]

theorem joined_reopened (a b : Node) : a.joined b.reopened = a.joined b := by
  rw [joined, reopened, children_mapRuns_id, List.foldl_map]
  exact congrArg (fun f => b.children.foldl f a)
    (funext fun n => funext fun e => n.add_mapContent_reopened e)

/-- A traversal by a builder adds the children one after the other. -/
theorem feedRun_joined {n : Node} {es : List Element} (sound : n.Sound)
    (checked : ∀ e ∈ es, e.check = .ok ())
    (contents : ∀ t c, .container t c ∈ es → c.feed consumer .empty = .ok () c.reopened) :
    Element.feedRun consumer es n = .ok () (es.foldl add n) := by
  induction es generalizing n with
  | nil => rfl
  | cons e rest ih =>
    rw [List.forall_mem_cons] at checked
    obtain ⟨step, sound'⟩ := feed_add sound checked.1 fun t c he => contents t c (by simp [he])
    rw [Element.feedRun_cons, Consumer.bind_eq_ok]
    exact ⟨(), _, step, ih sound' checked.2
      fun t c mem => contents t c (List.mem_cons_of_mem e mem)⟩

/-! ## §3 Trees that can be appended -/

theorem copyable_iff (n : Node) : n.Copyable ↔ n.Sound ∧ n.BodyLeads :=
  ⟨fun h => ⟨⟨h.checked, h.apart⟩, h.leads⟩, fun h => ⟨h.1.checked, h.1.apart, h.2⟩⟩

theorem kept_copyable : Kept Copyable := by
  have both := kept_sound.and kept_bodyLeads
  rwa [show Copyable = fun n : Node => n.Sound ∧ n.BodyLeads from
    funext fun n => propext n.copyable_iff]

/-- Trees that calls have built can be appended. -/
theorem copyable_built (calls : List Call) :
    (consumer.toVisitor.performAll calls .empty).2.Everywhere Copyable :=
  kept_copyable.performAll calls (everywhere_empty.2 kept_copyable.empty)

theorem feed_joined {a b : Node} (ha : a.Everywhere Copyable) (hb : b.Everywhere Copyable) :
    b.feed consumer a = .ok () (a.joined b) := by
  obtain ⟨own, inside⟩ := everywhere_iff.1 hb
  have root := ha a (.self a)
  rw [feed_eq_children _ rfl, Consumer.bind_eq_ok]
  exact ⟨(), _, feedRun_joined ⟨root.checked, root.apart⟩ own.checked
    fun t c mem => feed_builder (inside t c mem), rfl⟩

/-- Appending is adding the children, and gives a tree that can be appended. -/
theorem append_ok {a b : Node} (ha : a.Everywhere Copyable) (hb : b.Everywhere Copyable)
    (isOpen : a.finished = false) :
    a.append b = .ok (a.joined b) ∧ (a.joined b).Everywhere Copyable := by
  have step := feed_joined ha hb
  constructor
  · rw [append, requireOpen, isOpen, step]
    rfl
  · exact kept_copyable.feed b ha step

theorem finished_joined (a b : Node) : (a.joined b).finished = a.finished := by
  have step (n : Node) (e : Element) : (n.add e).finished = n.finished := by
    cases e with
    | leaf l =>
      rcases n.meets_text_or_apart l with ⟨before, previous, s, last, rfl⟩ | apart
      · rw [add_text last]
      · rw [add_leaf apart]
        rfl
    | container t c => exact finished_addContainer n t c.reopened
  rw [joined]
  induction b.children generalizing a with
  | nil => rfl
  | cons e rest ih => exact (ih (a.add e)).trans (step a e)

theorem joined_assoc (a : Node) {b c : Node} (hb : b.Everywhere Copyable)
    (hc : c.Everywhere Copyable) : a.joined (b.joined c) = (a.joined b).joined c := by
  obtain ⟨own, inside⟩ := everywhere_iff.1 hc
  have root := hb b (.self b)
  exact joined_foldl a ⟨root.checked, root.apart⟩ own.checked
    fun t d mem => feed_builder (inside t d mem)

theorem empty_joined {b : Node} (hb : b.Everywhere Copyable) :
    Node.empty.joined b = b.reopened := by
  have twice := feed_joined (everywhere_empty.2 kept_copyable.empty) hb
  rw [feed_builder hb] at twice
  exact (EStateM.Result.ok.inj twice).2.symm

/-- On trees with fields in order, no adjacent texts and no body that starts with a headline,
appending never fails, gives such a tree again, and is associative; the empty tree is its neutral
element on both sides. What was appended is open in the result. -/
theorem append_monoid {a b c : Node} (ha : a.Everywhere Copyable) (hb : b.Everywhere Copyable)
    (hc : c.Everywhere Copyable) (isOpen : a.finished = false) :
    ∃ ab b' bc abc, a.append b = .ok ab ∧
      (∀ limit, b.accept consumer.toVisitor (limit + 1) a = some (.ok () ab)) ∧
      (ab.Everywhere Checked ∧ ab.Everywhere TextsApart ∧ ab.Everywhere BodyLeads) ∧
      b.copy = .ok b' ∧ b'.append c = .ok bc ∧
      ab.append c = .ok abc ∧ a.append bc = .ok abc ∧
      Node.empty.append b = .ok b.reopened ∧ ∀ flag, a.append ⟨[], [], flag⟩ = .ok a := by
  have copied : b.reopened.Everywhere Copyable := kept_copyable.mapFlags hb _
  have copyIsOpen : b.reopened.finished = false := finished_mapRuns b
  obtain ⟨ab, good⟩ := append_ok ha hb isOpen
  obtain ⟨bc, good'⟩ := append_ok copied hc copyIsOpen
  obtain ⟨left, -⟩ := append_ok good hc ((finished_joined a b).trans isOpen)
  obtain ⟨right, -⟩ := append_ok ha good' isOpen
  obtain ⟨empty, -⟩ := append_ok (everywhere_empty.2 kept_copyable.empty) hb rfl
  refine ⟨a.joined b, b.reopened, b.reopened.joined c, (a.joined b).joined c, ab, fun limit => ?_,
    ⟨good.mono fun _ h => h.checked, good.mono fun _ h => h.apart, good.mono fun _ h => h.leads⟩,
    copy_eq hb, bc, left, ?_, ?_, fun flag => ?_⟩
  · rw [accept_toVisitor, Run.step, feed_joined ha hb]
  · rw [right, joined_assoc a copied hc, joined_reopened]
  · rw [empty, empty_joined hb]
  · rw [append, requireOpen, isOpen]
    rfl

/-- Three texts meet, the middle one a space alone; a headline and a footnote come along. -/
theorem append_monoid_footnote :
    let a : Node := ⟨[⟨2, ⟨[], [.leaf (.text "Creation")], false⟩⟩], [.leaf (.text "the land")],
      false⟩
    let b : Node := ⟨[], [.leaf (.text " ")], true⟩
    let note : Node := ⟨[], [.leaf (.text "Or "),
      .container (.format .bold) ⟨[], [.leaf (.text "lake")], true⟩], true⟩
    let c : Node := ⟨[], [.leaf (.text " sea"), .container .footnote note,
      .container (.headline 3) ⟨[], [.leaf (.text "Light")], true⟩], true⟩
    let abc : Node := ⟨a.headlines, [.leaf (.text "the land sea"),
      .container .footnote note.reopened,
      .container (.headline 3) ⟨[], [.leaf (.text "Light")], false⟩], false⟩
    (a.Everywhere Copyable ∧ b.Everywhere Copyable ∧ c.Everywhere Copyable ∧ a.finished = false) ∧
      (a.append b).bind (·.append c) = .ok abc ∧
      (b.copy.bind (·.append c)).bind a.append = .ok abc := by
  intro a b note c abc
  have ha : a.Everywhere Copyable := copyable_built
    [.container (.headline 2) [.leaf (.text "Creation")], .leaf (.text "the land")]
  have finishes {n : Node} (h : n.Everywhere Copyable) : n.seal.Everywhere Copyable := by
    rw [seal_eq_mapRuns]
    exact kept_copyable.mapFlags h _
  have hb : b.Everywhere Copyable := finishes (copyable_built [.leaf (.text " ")])
  have hc : c.Everywhere Copyable := finishes (copyable_built [.leaf (.text " sea"),
    .container .footnote [.leaf (.text "Or "), .container (.format .bold) [.leaf (.text "lake")]],
    .container (.headline 3) [.leaf (.text "Light")]])
  obtain ⟨ab, b', bc, sum, first, -, -, copied, second, left, right, -, -⟩ :=
    append_monoid ha hb hc rfl
  have value : (a.append b).bind (·.append c) = .ok abc := rfl
  have same : sum = abc := by
    rw [first] at value
    exact Except.ok.inj (left.symm.trans value)
  refine ⟨⟨ha, hb, hc, rfl⟩, value, ?_⟩
  rw [copied, Except.bind, second, Except.bind, right, same]

end Node

end ScriptureText
