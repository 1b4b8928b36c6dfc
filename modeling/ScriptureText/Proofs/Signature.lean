/-
ScriptureText.Proofs.Signature — signatures are uniquely decodable.

What a signature tells of a node is its shape (`Node.shape`): the kind of each
child, and for a container, as long as levels remain, the shape of its content.
An entry of a shape that is expanded is another than one that is not, also where
the content is empty.

A signature is its shape in writing (`Node.signature_eq`): a writer that is
offered a node appends what the shape reads and closes its level, whatever was
written before. And a written outline determines both itself and where it ends
in a longer text (`Outline.write_inj`). A letter tells the kind and a bracket
that follows it whether there is content; for that an outline may not be followed
by an opening bracket, nor a run of them by anything but a closing one, and both
hold of what follows them inside an outline.
-/
import Mathlib.Data.List.Nodup
import ScriptureText.Proofs.Traversal

namespace ScriptureText

/-! ## §1 Kinds -/

/-- The kind of an element. -/
inductive ElementKind where
  | headline | text | footnote | crossReference | format | css | verseSeparator | lineBreak
  | grammar | dictionary | rawHtml | variation | extra
  deriving DecidableEq, Repr

namespace ElementKind

/-- All kinds. -/
def all : List ElementKind :=
  [.headline, .text, .footnote, .crossReference, .format, .css, .verseSeparator, .lineBreak,
   .grammar, .dictionary, .rawHtml, .variation, .extra]

/-- The letter of a kind. -/
def code : ElementKind → Char
  | .headline => 'h'
  | .text => 't'
  | .footnote => 'f'
  | .crossReference => 'x'
  | .format => 'F'
  | .css => 'c'
  | .verseSeparator => '/'
  | .lineBreak => 'b'
  | .grammar => 'g'
  | .dictionary => 'd'
  | .rawHtml => 'H'
  | .variation => 'o'
  | .extra => 'X'

theorem mem_all (k : ElementKind) : k ∈ all := by cases k <;> decide

/-- No two kinds share a letter. -/
theorem code_injective : Function.Injective code := fun j k h =>
  List.inj_on_of_nodup_map (l := all) (by decide) (mem_all j) (mem_all k) h

theorem code_ne_open (k : ElementKind) : k.code ≠ '<' := by cases k <;> decide

theorem code_ne_close (k : ElementKind) : k.code ≠ '>' := by cases k <;> decide

end ElementKind

/-- The kind of a leaf. -/
def Leaf.kind : Leaf → ElementKind
  | .text _ => .text
  | .verseSeparator => .verseSeparator
  | .lineBreak _ => .lineBreak
  | .rawHtml _ _ => .rawHtml

/-- The kind of a container. -/
def Tag.kind : Tag → ElementKind
  | .headline _ => .headline
  | .footnote => .footnote
  | .crossReference _ => .crossReference
  | .format _ => .format
  | .css _ => .css
  | .grammar _ => .grammar
  | .dictionary _ _ => .dictionary
  | .variation _ => .variation
  | .extra _ => .extra

theorem Leaf.code_kind (l : Leaf) : l.kind.code = l.code := by cases l <;> rfl

theorem Tag.code_kind (t : Tag) : t.kind.code = t.code := by cases t <;> rfl

/-! ## §2 Shapes -/

/-- What is told of an element: its kind, and where it is expanded what is told of its children. -/
inductive Outline where
  | plain (kind : ElementKind)
  | expanded (kind : ElementKind) (content : List Outline)
  deriving Repr

mutual

/-- The shape of a node to a depth: an outline of each child, headlines first. Containers are
expanded as long as more than one level remains. -/
def Node.shape : Nat → Node → List Outline
  | depth, ⟨hs, b, _⟩ => Headline.shapeRun depth hs ++ Element.shapeRun depth b

/-- The outlines of a headline run. -/
def Headline.shapeRun : Nat → List Headline → List Outline
  | _, [] => []
  | depth, ⟨_, c⟩ :: rest =>
    (if depth > 1 then .expanded .headline (c.shape (depth - 1)) else .plain .headline) ::
      Headline.shapeRun depth rest

/-- The outlines of a body run. -/
def Element.shapeRun : Nat → List Element → List Outline
  | _, [] => []
  | depth, .leaf l :: rest => .plain l.kind :: Element.shapeRun depth rest
  | depth, .container t c :: rest =>
    (if depth > 1 then .expanded t.kind (c.shape (depth - 1)) else .plain t.kind) ::
      Element.shapeRun depth rest

end

/-- The outline of an element. -/
def Element.outline (depth : Nat) : Element → Outline
  | .leaf l => .plain l.kind
  | .container t c =>
    if depth > 1 then .expanded t.kind (c.shape (depth - 1)) else .plain t.kind

theorem Headline.shapeRun_eq (depth : Nat) (hs : List Headline) :
    Headline.shapeRun depth hs = (hs.map Headline.toElement).map (Element.outline depth) := by
  induction hs with
  | nil => rfl
  | cons h rest ih =>
    obtain ⟨d, c⟩ := h
    rw [Headline.shapeRun, ih]
    rfl

theorem Element.shapeRun_eq (depth : Nat) (es : List Element) :
    Element.shapeRun depth es = es.map (Element.outline depth) := by
  induction es with
  | nil => rfl
  | cons e rest ih => cases e <;> simp [shapeRun, outline, ih]

/-- The shape of a node is made of the outlines of its children. -/
theorem Node.shape_eq (depth : Nat) (n : Node) :
    n.shape depth = n.children.map (Element.outline depth) := by
  obtain ⟨hs, b, f⟩ := n
  rw [shape, Headline.shapeRun_eq, Element.shapeRun_eq, children, List.map_append]

/-! ## §3 Outlines in writing -/

mutual

/-- An outline in writing. -/
def Outline.write : Outline → List Char
  | .plain k => [k.code]
  | .expanded k content => k.code :: '<' :: (Outline.writeRun content ++ ['>'])

/-- Outlines in writing, one after the other. -/
def Outline.writeRun : List Outline → List Char
  | [] => []
  | o :: rest => o.write ++ Outline.writeRun rest

end

namespace Outline

/-- The kind of the element. -/
def kind : Outline → ElementKind
  | .plain k => k
  | .expanded k _ => k

/-- An outline is written with the letter of its kind first. -/
theorem head?_write (o : Outline) (r : List Char) : (o.write ++ r).head? = some o.kind.code := by
  cases o <;> rfl

/-- Behind a run of outlines nothing follows, or the end of a level. -/
def Closes (r : List Char) : Prop := ∀ c ∈ r.head?, c = '>'

theorem closes_nil : Closes [] := by simp [Closes]

theorem closes_cons (r : List Char) : Closes ('>' :: r) := by simp [Closes]

/-- What follows one of several outlines opens no level. -/
theorem head?_writeRun_ne_open {r : List Char} (h : Closes r) (os : List Outline) :
    ∀ c ∈ (writeRun os ++ r).head?, c ≠ '<' := by
  cases os with
  | nil =>
    intro c hc
    rw [h c hc]
    decide
  | cons o rest =>
    rw [writeRun, List.append_assoc, head?_write]
    intro c hc
    cases hc
    exact o.kind.code_ne_open

/-- No outline can be read where a run of them ends. -/
theorem not_closes_write (o : Outline) (r : List Char) : ¬ Closes (o.write ++ r) := by
  intro h
  exact o.kind.code_ne_close (h _ (head?_write o r))

mutual

/-- An outline in writing determines the outline, and where it ends. -/
theorem write_inj : ∀ {o p : Outline} {r s : List Char}, (∀ c ∈ r.head?, c ≠ '<') →
    (∀ c ∈ s.head?, c ≠ '<') → o.write ++ r = p.write ++ s → o = p ∧ r = s
  | .plain j, .plain k, r, s, _, _, h => by
    obtain ⟨codes, rest⟩ := List.cons.inj h
    exact ⟨congrArg plain (ElementKind.code_injective codes), rest⟩
  | .plain j, .expanded k content, r, s, hr, _, h => by
    obtain ⟨-, rfl⟩ := List.cons.inj h
    exact absurd rfl (hr '<' rfl)
  | .expanded j content, .plain k, r, s, _, hs, h => by
    obtain ⟨-, rfl⟩ := List.cons.inj h
    exact absurd rfl (hs '<' rfl)
  | .expanded j content, .expanded k content', r, s, _, _, h => by
    -- behind either content the level is closed, so that the contents can be told apart
    simp only [write, List.cons_append, List.append_assoc, List.nil_append, List.cons.injEq,
      true_and] at h
    obtain ⟨codes, inside⟩ := h
    obtain ⟨same, rest⟩ := writeRun_inj (closes_cons r) (closes_cons s) inside
    exact ⟨by rw [ElementKind.code_injective codes, same], (List.cons.inj rest).2⟩

/-- Outlines in writing determine the outlines, and where they end. -/
theorem writeRun_inj : ∀ {os ps : List Outline} {r s : List Char}, Closes r → Closes s →
    writeRun os ++ r = writeRun ps ++ s → os = ps ∧ r = s
  | [], [], _, _, _, _, h => ⟨rfl, h⟩
  | [], p :: ps, r, s, hr, _, h => by
    rw [writeRun, writeRun, List.nil_append, List.append_assoc] at h
    exact absurd (h ▸ hr) (not_closes_write p _)
  | o :: os, [], r, s, _, hs, h => by
    rw [writeRun, writeRun, List.nil_append, List.append_assoc] at h
    exact absurd (h ▸ hs) (not_closes_write o _)
  | o :: os, p :: ps, r, s, hr, hs, h => by
    rw [writeRun, writeRun, List.append_assoc, List.append_assoc] at h
    obtain ⟨first, rest⟩ :=
      write_inj (head?_writeRun_ne_open hr os) (head?_writeRun_ne_open hs ps) h
    obtain ⟨others, behind⟩ := writeRun_inj hr hs rest
    exact ⟨by rw [first, others], behind⟩

end

/-- A run of outlines as text. -/
def text (os : List Outline) : String := String.ofList (writeRun os)

theorem text_injective : Function.Injective text := by
  intro os ps h
  have chars : writeRun os = writeRun ps := String.ofList_injective h
  exact (writeRun_inj closes_nil closes_nil (by rw [chars])).1

theorem text_nil : text [] = "" := rfl

theorem text_cons (o : Outline) (os : List Outline) : text (o :: os) = text [o] ++ text os := by
  simp [text, writeRun]

theorem text_plain (k : ElementKind) : text [.plain k] = k.code.toString := by
  rw [text, writeRun, writeRun, write, Char.toString, String.singleton_eq_ofList]
  rfl

theorem text_expanded (k : ElementKind) (content : List Outline) :
    text [.expanded k content] = k.code.toString ++ "<" ++ text content ++ ">" := by
  rw [Char.toString, String.singleton_eq_ofList]
  apply String.toList_injective
  simp [text, writeRun, write]

end Outline

/-! ## §4 Writers -/

namespace Signature

open Outline (text)

theorem Writer.put_put (w : Writer) (a b : String) : (w.put a).put b = w.put (a ++ b) := by
  simp [Writer.put, String.append_assoc]

/-- A writer appends what it should to what was written before, and closes the level. -/
def Writes (n : Node) : Prop :=
  ∀ w : Writer, n.feed consumer w = .ok () (w.put (text (n.shape w.depth) ++ w.closing))

/-- A container's letter is written, and its level opened if more than one remains. -/
theorem enter_eq (t : Tag) (w : Writer) : consumer.enter t w =
    .ok (if w.depth > 1 then some ⟨w.out ++ t.code.toString ++ "<", w.depth - 1, ">"⟩ else none)
      (w.put t.code.toString) := by
  show (if w.depth > 1 then
      pure (some ⟨w.out ++ t.code.toString ++ "<", w.depth - 1, ">"⟩) else pure none :
    EStateM Empty Writer (Option Writer)) (w.put t.code.toString) = _
  split_ifs <;> rfl

/-- One element is written as its outline. -/
theorem feed_element {e : Element} (contents : ∀ t c, e = .container t c → Writes c) (w : Writer) :
    e.feed consumer w = .ok () (w.put (text [e.outline w.depth])) := by
  cases e with
  | leaf l =>
    rw [Element.feed_leaf, Element.outline, Outline.text_plain, l.code_kind]
    rfl
  | container t c =>
    rw [Element.feed_container, Element.outline]
    have entered := enter_eq t w
    by_cases more : w.depth > 1
    · rw [if_pos more] at entered ⊢
      -- one level less remains inside, and the end of the content closes it
      have inside := contents t c rfl ⟨w.out ++ t.code.toString ++ "<", w.depth - 1, ">"⟩
      refine Consumer.within_eq_ok.2 (.inr ⟨_, _, _, entered, inside, ?_⟩)
      rw [Outline.text_expanded, t.code_kind]
      simp only [consumer, Writer.put, String.append_assoc]
    · rw [if_neg more] at entered ⊢
      rw [Outline.text_plain, t.code_kind]
      exact Consumer.within_eq_ok.2 (.inl entered)

/-- A run of elements is written as their outlines. -/
theorem feedRun_writes {es : List Element}
    (contents : ∀ t c, .container t c ∈ es → Writes c) (w : Writer) :
    Element.feedRun consumer es w = .ok () (w.put (text (es.map (Element.outline w.depth)))) := by
  induction es generalizing w with
  | nil =>
    rw [List.map_nil, Outline.text_nil, Writer.put, String.append_empty]
    rfl
  | cons e rest ih =>
    have first := feed_element (e := e)
      (fun t c he => contents t c (by rw [he]; exact List.mem_cons_self)) w
    have others := ih (fun t c mem => contents t c (List.mem_cons_of_mem e mem))
      (w.put (text [e.outline w.depth]))
    rw [Element.feedRun_cons]
    refine Consumer.bind_eq_ok.2 ⟨(), _, first, others.trans ?_⟩
    rw [Writer.put_put, List.map_cons, Outline.text_cons _ (rest.map _)]
    rfl

/-- A node is written as its shape. -/
theorem feed_writes (n : Node) : Writes n := by
  induction n using Node.childrenInduction with
  | step n ih =>
    intro w
    rw [Node.feed_eq_children _ rfl, Node.shape_eq, ← Writer.put_put]
    exact Consumer.bind_eq_ok.2 ⟨(), _, feedRun_writes ih w, rfl⟩

end Signature

namespace Node

/-- A signature is the shape in writing. -/
theorem signature_eq (n : Node) {depth : Nat} (h : 1 ≤ depth) :
    n.signature depth = Outline.text (n.shape depth) := by
  have positive : depth ≠ 0 := by omega
  rw [signature, if_neg positive, Signature.feed_writes]
  simp [Consumer.finalState, Signature.Writer.put, Signature.Writer.start]

theorem elementTypes_of_finished {n : Node} (finished : n.finished = true) (depth : Nat) :
    n.elementTypes depth = .ok (n.signature depth) := by
  rw [elementTypes, requireFinished, finished]
  rfl

end Node

/-! ## §5 Unique decoding -/

/-- Two finished trees have signatures to every depth from 1 on, and these are equal exactly if the
trees have the same shape to that depth. -/
theorem Node.elementTypes_eq_iff {m n : Node} (hm : m.finished = true) (hn : n.finished = true)
    {depth : Nat} (h : 1 ≤ depth) :
    ∃ s t, m.elementTypes depth = .ok s ∧ n.elementTypes depth = .ok t ∧
      (s = t ↔ m.shape depth = n.shape depth) := by
  refine ⟨_, _, elementTypes_of_finished hm depth, elementTypes_of_finished hn depth, ?_⟩
  rw [signature_eq m h, signature_eq n h]
  exact Outline.text_injective.eq_iff

/-- The signature to depth 2 of a verse with a footnote does not tell what the text of the note is,
but it tells whether there is any; and a note without any is told from raw HTML. -/
theorem Node.elementTypes_eq_iff_footnote :
    let verse (e : Element) : Node := ⟨[], [.leaf (.text "life"), e], true⟩
    let note (c : List Element) : Element := .container .footnote ⟨[], c, true⟩
    let raw : Element := .leaf (.rawHtml .both "<br>")
    ∃ long short none html,
      (verse (note [.leaf (.text "Or breath")])).elementTypes 2 = .ok long ∧
      (verse (note [.leaf (.text "Gr")])).elementTypes 2 = .ok short ∧
      (verse (note [])).elementTypes 2 = .ok none ∧ (verse raw).elementTypes 2 = .ok html ∧
      long = short ∧ short ≠ none ∧ none ≠ html := by
  intro verse note raw
  obtain ⟨long, short, hlong, hshort, texts⟩ := elementTypes_eq_iff
    (m := verse (note [.leaf (.text "Or breath")])) (n := verse (note [.leaf (.text "Gr")]))
    rfl rfl (show 1 ≤ 2 by decide)
  obtain ⟨short', none, hshort', hnone, empty⟩ := elementTypes_eq_iff
    (m := verse (note [.leaf (.text "Gr")])) (n := verse (note [])) rfl rfl (show 1 ≤ 2 by decide)
  obtain ⟨none', html, hnone', hhtml, leaf⟩ := elementTypes_eq_iff
    (m := verse (note [])) (n := verse raw) rfl rfl (show 1 ≤ 2 by decide)
  cases hshort.symm.trans hshort'
  cases hnone.symm.trans hnone'
  refine ⟨long, short, none, html, hlong, hshort, hnone, hhtml, texts.2 rfl, ?_, ?_⟩
  · rw [Ne, empty]
    simp [verse, note, shape, Element.shapeRun, Headline.shapeRun]
  · rw [Ne, leaf]
    simp [verse, note, raw, shape, Element.shapeRun, Headline.shapeRun]

end ScriptureText
