/-
ScriptureText.Proofs.SignatureDepths — how signatures of different depths of one
tree are related.

Only the brackets of a signature are looked at here. Each character gets a level,
the number of bracket groups that it is in (`Signature.leveled`), and everything
is said in terms of levels: to delete the groups at a level is to keep what is at
lower levels, and the nesting is the highest level there is.

A signature is balanced, so that levels can be read off its parts
(`Balanced.leveled_append`). One level more of depth writes the same characters
and others at higher levels: an expanded container starts a group one level up,
and what is written in it stays there (`leveled_shape`). How high the levels go is
counted along the tree in the same way (`foldr_max_leveled_shape`).
-/
import Mathlib.Data.List.MinMax
import Mathlib.Order.Bounds.Basic
import ScriptureText.Proofs.Signature

namespace ScriptureText

/-! ## §1 Brackets -/

namespace Signature

/-- Text in which every bracket is one of a pair around balanced text. -/
inductive Balanced : List Char → Prop where
  | nil : Balanced []
  | letter {c : Char} {r : List Char} (notOpen : c ≠ '<') (notClose : c ≠ '>')
      (rest : Balanced r) : Balanced (c :: r)
  | group {a r : List Char} (inside : Balanced a) (rest : Balanced r) :
      Balanced ('<' :: (a ++ '>' :: r))

/-- Each character with its level: the number of bracket groups that it is in, where a bracket is in
its own group and `opened` groups are open at the start. -/
def leveled (opened : Nat) : List Char → List (Char × Nat)
  | [] => []
  | c :: r =>
    if c = '<' then (c, opened + 1) :: leveled (opened + 1) r
    else if c = '>' then (c, opened) :: leveled (opened - 1) r
    else (c, opened) :: leveled opened r

/-- A text without the bracket groups that are opened at a level, 1 being the outermost. -/
def withoutGroups (level : Nat) (s : String) : String :=
  String.ofList (((leveled 0 s.toList).filter (·.2 < level)).map Prod.fst)

/-- The largest number of bracket groups around any character. -/
def nesting (s : String) : Nat := ((leveled 0 s.toList).map Prod.snd).foldr max 0

theorem map_fst_leveled (opened : Nat) (cs : List Char) :
    (leveled opened cs).map Prod.fst = cs := by
  fun_induction leveled opened cs <;> simp_all

theorem leveled_open (opened : Nat) (r : List Char) :
    leveled opened ('<' :: r) = ('<', opened + 1) :: leveled (opened + 1) r := rfl

theorem leveled_close (opened : Nat) (r : List Char) :
    leveled opened ('>' :: r) = ('>', opened) :: leveled (opened - 1) r := rfl

theorem leveled_letter {c : Char} (notOpen : c ≠ '<') (notClose : c ≠ '>') (opened : Nat)
    (r : List Char) : leveled opened (c :: r) = (c, opened) :: leveled opened r := by
  rw [leveled, if_neg notOpen, if_neg notClose]

namespace Balanced

variable {a : List Char}

/-- Behind balanced text as many groups are open as before it. -/
theorem leveled_append (h : Balanced a) (opened : Nat) (r : List Char) :
    leveled opened (a ++ r) = leveled opened a ++ leveled opened r := by
  induction h generalizing opened r with
  | nil => rfl
  | letter notOpen notClose _ ih =>
    rw [List.cons_append, leveled_letter notOpen notClose, leveled_letter notOpen notClose, ih]
    rfl
  | @group a b _ _ ihInside ihRest =>
    rw [List.cons_append, List.append_assoc, List.cons_append, leveled_open, leveled_open,
      ihInside, ihInside, leveled_close, leveled_close, Nat.add_sub_cancel, ihRest]
    simp

/-- In balanced text no level is lower than at its start. -/
theorem le_of_mem_leveled (h : Balanced a) {opened : Nat} :
    ∀ x ∈ leveled opened a, opened ≤ x.2 := by
  induction h generalizing opened with
  | nil => simp [leveled]
  | letter notOpen notClose _ ih =>
    rw [leveled_letter notOpen notClose, List.forall_mem_cons]
    exact ⟨le_refl _, ih⟩
  | group inside rest ihInside ihRest =>
    rw [leveled_open, inside.leveled_append, leveled_close, Nat.add_sub_cancel]
    simp only [List.forall_mem_cons, List.forall_mem_append]
    exact ⟨by omega, fun x mem => Nat.le_of_succ_le (ihInside x mem), by omega, ihRest⟩

end Balanced

end Signature

open Signature

/-! ## §2 Levels of an outline -/

namespace Outline

mutual

/-- An outline in writing is balanced, and so is what it is written in front of. -/
theorem balanced_write_append : ∀ (o : Outline) {r : List Char}, Balanced r →
    Balanced (o.write ++ r)
  | .plain k, _, h => .letter k.code_ne_open k.code_ne_close h
  | .expanded k content, r, h => by
    have inside : Balanced (writeRun content) := by
      simpa using balanced_writeRun_append content .nil
    rw [write, List.cons_append, List.cons_append, List.append_assoc]
    exact .letter k.code_ne_open k.code_ne_close (.group inside h)

theorem balanced_writeRun_append : ∀ (os : List Outline) {r : List Char}, Balanced r →
    Balanced (writeRun os ++ r)
  | [], _, h => h
  | o :: rest, r, h => by
    rw [writeRun, List.append_assoc]
    exact balanced_write_append o (balanced_writeRun_append rest h)

end

theorem balanced_write (o : Outline) : Balanced o.write := by
  simpa using balanced_write_append o .nil

theorem balanced_writeRun (os : List Outline) : Balanced (writeRun os) := by
  simpa using balanced_writeRun_append os .nil

theorem leveled_plain (opened : Nat) (k : ElementKind) :
    leveled opened (plain k).write = [(k.code, opened)] :=
  leveled_letter k.code_ne_open k.code_ne_close opened []

/-- The content of an expanded container is a group, one level up. -/
theorem leveled_expanded (opened : Nat) (k : ElementKind) (content : List Outline) :
    leveled opened (expanded k content).write = (k.code, opened) :: ('<', opened + 1) ::
      (leveled (opened + 1) (writeRun content) ++ [('>', opened + 1)]) := by
  rw [write, leveled_letter k.code_ne_open k.code_ne_close, leveled_open,
    (balanced_writeRun content).leveled_append]
  rfl

theorem leveled_writeRun_cons (opened : Nat) (o : Outline) (os : List Outline) :
    leveled opened (writeRun (o :: os)) =
      leveled opened o.write ++ leveled opened (writeRun os) := by
  rw [writeRun, o.balanced_write.leveled_append]

end Outline

/-! ## §3 One level more -/

open Outline (writeRun)

/-- What is written of an element to a depth is what is written one level deeper, at levels up to
that depth. -/
theorem Element.leveled_outline {e : Element} {depth : Nat} (h : 1 ≤ depth)
    (contents : ∀ t c, e = .container t c → ∀ opened depth, 1 ≤ depth →
      leveled opened (writeRun (c.shape depth)) =
        (leveled opened (writeRun (c.shape (depth + 1)))).filter (·.2 < opened + depth))
    (opened : Nat) : leveled opened (e.outline depth).write =
      (leveled opened (e.outline (depth + 1)).write).filter (·.2 < opened + depth) := by
  cases e with
  | leaf l =>
    rw [outline, outline, Outline.leveled_plain]
    have kept : opened < opened + depth := by omega
    simp [kept]
  | container t c =>
    rw [outline, outline, if_pos (show depth + 1 > 1 by omega), Nat.add_sub_cancel,
      Outline.leveled_expanded]
    by_cases more : depth > 1
    · -- the group stays, and inside it one level less remains
      obtain ⟨less, rfl⟩ := Nat.exists_eq_add_of_le' h
      have inside := contents t c rfl (opened + 1) less (by omega)
      rw [if_pos more, Outline.leveled_expanded, Nat.add_sub_cancel, inside]
      have level : opened + 1 + less = opened + (less + 1) := by omega
      have kept : opened + 1 < opened + (less + 1) := by omega
      simp [level, kept, show opened < opened + (less + 1) by omega]
    · -- the group goes, with all that is in it
      obtain rfl : depth = 1 := by omega
      have gone : (leveled (opened + 1) (writeRun (c.shape 1))).filter
          (·.2 < opened + 1) = [] := by
        rw [List.filter_eq_nil_iff]
        intro x mem
        have := (Outline.balanced_writeRun (c.shape 1)).le_of_mem_leveled x mem
        simpa using this
      rw [if_neg more, Outline.leveled_plain]
      simp only [List.filter_cons, List.filter_append, gone]
      simp

/-- One level more of depth adds what is at that level, and nothing else. -/
theorem Node.leveled_shape (n : Node) : ∀ opened depth, 1 ≤ depth →
    leveled opened (writeRun (n.shape depth)) =
      (leveled opened (writeRun (n.shape (depth + 1)))).filter (·.2 < opened + depth) := by
  induction n using Node.childrenInduction with
  | step n ih =>
    intro opened depth h
    rw [shape_eq, shape_eq]
    generalize n.children = es at ih
    induction es with
    | nil => rfl
    | cons e rest ihRest =>
      have first := Element.leveled_outline (e := e) h
        (fun t c he => ih t c (by rw [he]; exact List.mem_cons_self)) opened
      rw [List.map_cons, List.map_cons, Outline.leveled_writeRun_cons,
        Outline.leveled_writeRun_cons, List.filter_append, ← first,
        ihRest fun t c mem => ih t c (List.mem_cons_of_mem e mem)]

/-! ## §4 The deepest container -/

/-- A container occurs in a node at a level; the node's own children are at level 1. -/
inductive Node.ContainerAt : Nat → Node → Prop where
  | child {n c : Node} {t : Tag} (mem : .container t c ∈ n.children) : ContainerAt 1 n
  | inside {level : Nat} {n c : Node} {t : Tag} (mem : .container t c ∈ n.children)
      (h : ContainerAt level c) : ContainerAt (level + 1) n

mutual

/-- The deepest level at which a container occurs in a node, and 0 if there is none. -/
def Node.containerDepth : Node → Nat
  | ⟨hs, b, _⟩ => max (Headline.containerDepthRun hs) (Element.containerDepthRun b)

/-- The deepest level of a container in a headline run. -/
def Headline.containerDepthRun : List Headline → Nat
  | [] => 0
  | ⟨_, c⟩ :: rest => max (c.containerDepth + 1) (Headline.containerDepthRun rest)

/-- The deepest level of a container in a body run. -/
def Element.containerDepthRun : List Element → Nat
  | [] => 0
  | .leaf _ :: rest => Element.containerDepthRun rest
  | .container _ c :: rest => max (c.containerDepth + 1) (Element.containerDepthRun rest)

end

theorem Element.containerDepthRun_append (a b : List Element) : containerDepthRun (a ++ b) =
    max (containerDepthRun a) (containerDepthRun b) := by
  induction a with
  | nil => simp [containerDepthRun]
  | cons e rest ih => cases e <;> simp [containerDepthRun, ih, Nat.max_assoc]

theorem Headline.containerDepthRun_eq (hs : List Headline) :
    Headline.containerDepthRun hs = Element.containerDepthRun (hs.map Headline.toElement) := by
  induction hs with
  | nil => rfl
  | cons h rest ih =>
    obtain ⟨d, c⟩ := h
    rw [Headline.containerDepthRun, ih, List.map_cons, Headline.toElement,
      Element.containerDepthRun]

theorem Node.containerDepth_eq (n : Node) :
    n.containerDepth = Element.containerDepthRun n.children := by
  obtain ⟨hs, b, f⟩ := n
  rw [containerDepth, Headline.containerDepthRun_eq, children, Element.containerDepthRun_append]

theorem Element.le_containerDepthRun_iff {level : Nat} (positive : 1 ≤ level) (es : List Element) :
    level ≤ containerDepthRun es ↔
      ∃ t c, .container t c ∈ es ∧ level ≤ c.containerDepth + 1 := by
  induction es with
  | nil =>
    simp only [containerDepthRun, List.not_mem_nil, false_and, exists_false, iff_false]
    omega
  | cons e rest ih =>
    cases e with
    | leaf l => simp [containerDepthRun, ih]
    | container t c =>
      rw [containerDepthRun, le_max_iff, ih]
      constructor
      · rintro (own | ⟨t', c', mem, deep⟩)
        · exact ⟨t, c, List.mem_cons_self, own⟩
        · exact ⟨t', c', List.mem_cons_of_mem _ mem, deep⟩
      · rintro ⟨t', c', mem, deep⟩
        rcases List.mem_cons.1 mem with same | mem
        · cases same
          exact .inl deep
        · exact .inr ⟨t', c', mem, deep⟩

/-- Containers occur at the levels from 1 to the deepest. -/
theorem Node.containerAt_iff {n : Node} {level : Nat} :
    n.ContainerAt level ↔ 1 ≤ level ∧ level ≤ n.containerDepth := by
  constructor
  · intro h
    induction h with
    | child mem =>
      rw [containerDepth_eq, Element.le_containerDepthRun_iff (le_refl 1)]
      exact ⟨le_refl 1, _, _, mem, by omega⟩
    | inside mem _ ih =>
      rw [containerDepth_eq, Element.le_containerDepthRun_iff (by omega)]
      exact ⟨by omega, _, _, mem, by omega⟩
  · induction n using childrenInduction generalizing level with
    | step n ih =>
      rintro ⟨positive, deep⟩
      rw [containerDepth_eq, Element.le_containerDepthRun_iff positive] at deep
      obtain ⟨t, c, mem, deep⟩ := deep
      by_cases own : level = 1
      · rw [own]
        exact .child mem
      · obtain ⟨above, rfl⟩ := Nat.exists_eq_add_of_le' positive
        exact .inside mem (ih t c mem ⟨by omega, by omega⟩)

/-- The depth of a node is the deepest level of a container, and 0 if there is none. -/
theorem Node.isGreatest_containerDepth (n : Node) :
    IsGreatest {level | level = 0 ∨ n.ContainerAt level} n.containerDepth := by
  constructor
  · rw [Set.mem_ofPred_eq, containerAt_iff]
    omega
  · rintro level (rfl | h)
    · exact Nat.zero_le _
    · exact (containerAt_iff.1 h).2

/-! ## §5 Nesting -/

/-- The highest level in what is written of an element. -/
theorem Element.foldr_max_leveled_outline {e : Element} {depth : Nat} (h : 1 ≤ depth)
    (contents : ∀ t c, e = .container t c → ∀ opened depth least, 1 ≤ depth → opened ≤ least →
      ((leveled opened (writeRun (c.shape depth))).map Prod.snd).foldr max least =
        max least (opened + min (depth - 1) c.containerDepth))
    {opened least : Nat} (start : opened ≤ least) :
    ((leveled opened (e.outline depth).write).map Prod.snd).foldr max least =
      max least (opened + min (depth - 1) (containerDepthRun [e])) := by
  cases e with
  | leaf l =>
    rw [outline, Outline.leveled_plain]
    simp only [List.map_cons, List.map_nil, List.foldr_cons, List.foldr_nil, containerDepthRun]
    omega
  | container t c =>
    rw [outline]
    by_cases more : depth > 1
    · have inside := contents t c rfl (opened + 1) (depth - 1) (max (opened + 1) least)
        (by omega) (by omega)
      rw [if_pos more, Outline.leveled_expanded]
      simp only [List.map_cons, List.map_append, List.map_nil, List.foldr_cons, List.foldr_append,
        List.foldr_nil, containerDepthRun, inside]
      omega
    · rw [if_neg more, Outline.leveled_plain]
      simp only [List.map_cons, List.map_nil, List.foldr_cons, List.foldr_nil]
      omega

/-- The highest level in a signature is where its depth or the tree ends. -/
theorem Node.foldr_max_leveled_shape (n : Node) : ∀ opened depth least, 1 ≤ depth →
    opened ≤ least → ((leveled opened (writeRun (n.shape depth))).map Prod.snd).foldr max least =
      max least (opened + min (depth - 1) n.containerDepth) := by
  induction n using Node.childrenInduction with
  | step n ih =>
    intro opened depth least h start
    rw [shape_eq, containerDepth_eq]
    generalize n.children = es at ih
    induction es generalizing least with
    | nil =>
      simp only [List.map_nil, writeRun, leveled, List.foldr_nil, Element.containerDepthRun]
      omega
    | cons e rest ihRest =>
      have others := ihRest least start fun t c mem => ih t c (List.mem_cons_of_mem e mem)
      have first := Element.foldr_max_leveled_outline (e := e) h
        (fun t c he => ih t c (by rw [he]; exact List.mem_cons_self))
        (le_max_of_le_left start (b := least) (c := opened + min (depth - 1)
          (Element.containerDepthRun rest)))
      have both : Element.containerDepthRun (e :: rest) =
          max (Element.containerDepthRun [e]) (Element.containerDepthRun rest) :=
        Element.containerDepthRun_append [e] rest
      rw [List.map_cons, Outline.leveled_writeRun_cons, List.map_append, List.foldr_append, others,
        first, both]
      omega

/-! ## §6 Signatures -/

namespace Node

theorem toList_signature (n : Node) {depth : Nat} (h : 1 ≤ depth) :
    (n.signature depth).toList = writeRun (n.shape depth) := by
  rw [signature_eq n h, Outline.text, String.toList_ofList]

theorem balanced_signature (n : Node) {depth : Nat} (h : 1 ≤ depth) :
    Balanced (n.signature depth).toList := by
  rw [toList_signature n h]
  exact Outline.balanced_writeRun _

theorem signature_eq_withoutGroups (n : Node) {depth : Nat} (h : 1 ≤ depth) :
    n.signature depth = withoutGroups depth (n.signature (depth + 1)) := by
  have levels := n.leveled_shape 0 depth h
  rw [Nat.zero_add] at levels
  rw [withoutGroups, toList_signature n (by omega), ← levels, map_fst_leveled,
    signature_eq n h, Outline.text]

theorem nesting_signature (n : Node) {depth : Nat} (h : 1 ≤ depth) :
    nesting (n.signature depth) = min (depth - 1) n.containerDepth := by
  rw [nesting, toList_signature n h, n.foldr_max_leveled_shape 0 depth 0 h (le_refl 0)]
  omega

/-- Where no group is at a level, there is nothing to delete. -/
theorem withoutGroups_of_nesting_lt {s : String} {level : Nat} (h : nesting s < level) :
    withoutGroups level s = s := by
  have all : (leveled 0 s.toList).filter (·.2 < level) = leveled 0 s.toList := by
    rw [List.filter_eq_self]
    intro x mem
    have low : x.2 ≤ nesting s := List.le_max_of_le' 0 (List.mem_map_of_mem mem) (le_refl x.2)
    exact decide_eq_true (Nat.lt_of_le_of_lt low h)
  rw [withoutGroups, all, map_fst_leveled, String.ofList_toList]

/-- Below the deepest container there is nothing to add. -/
theorem signature_succ (n : Node) {depth : Nat} (h : n.containerDepth < depth) :
    n.signature (depth + 1) = n.signature depth := by
  have low : nesting (n.signature (depth + 1)) < depth := by
    rw [nesting_signature n (by omega)]
    omega
  rw [signature_eq_withoutGroups n (show 1 ≤ depth by omega), withoutGroups_of_nesting_lt low]

theorem signature_eq_of_lt (n : Node) {depth depth' : Nat} (h : n.containerDepth < depth)
    (deeper : depth ≤ depth') : n.signature depth' = n.signature depth := by
  induction deeper with
  | refl => rfl
  | step deeper ih => rw [signature_succ n (Nat.lt_of_lt_of_le h deeper), ih]

/-- The signatures of a finished tree are balanced. Each is the one that is a level deeper without
the bracket groups at its own depth, and its brackets are nested as deep as its depth allows and the
tree has containers. Hence all that are deeper than the tree are the same. -/
theorem elementTypes_depths {n : Node} (finished : n.finished = true) :
    ∃ deepest, IsGreatest {level | level = 0 ∨ n.ContainerAt level} deepest ∧
      (∀ depth, 1 ≤ depth → ∃ s t, n.elementTypes depth = .ok s ∧
        n.elementTypes (depth + 1) = .ok t ∧ Balanced s.toList ∧ s = withoutGroups depth t ∧
        nesting s = min (depth - 1) deepest) ∧
      ∀ depth depth', deepest < depth → deepest < depth' →
        n.elementTypes depth = n.elementTypes depth' := by
  refine ⟨n.containerDepth, n.isGreatest_containerDepth, fun depth h => ?_, ?_⟩
  · exact ⟨_, _, elementTypes_of_finished finished depth,
      elementTypes_of_finished finished (depth + 1), n.balanced_signature h,
      n.signature_eq_withoutGroups h, n.nesting_signature h⟩
  · intro depth depth' h h'
    have least (d : Nat) (hd : n.containerDepth < d) :
        n.signature d = n.signature (n.containerDepth + 1) :=
      n.signature_eq_of_lt (Nat.lt_succ_self _) hd
    rw [elementTypes_of_finished finished, elementTypes_of_finished finished, least depth h,
      least depth' h']

/-- A headline, and a footnote with markup in it, whose signature is complete at depth 3. -/
theorem elementTypes_depths_footnote :
    let note : Node := ⟨[], [.leaf (.text "Or "),
      .container (.format .bold) ⟨[], [.leaf (.text "earth")], true⟩], true⟩
    let n : Node := ⟨[⟨2, ⟨[], [.leaf (.text "Creation")], true⟩⟩],
      [.leaf (.text "the land"), .container .footnote note], true⟩
    n.elementTypes 3 = .ok "h<t>tf<tF<t>>" ∧
      withoutGroups 2 "h<t>tf<tF<t>>" = "h<t>tf<tF>" ∧ nesting "h<t>tf<tF>" = 1 ∧
      n.elementTypes 18446744073709551615 = .ok "h<t>tf<tF<t>>" := by
  intro note n
  obtain ⟨deepest, greatest, step, same⟩ := elementTypes_depths (n := n) rfl
  obtain rfl : deepest = 2 := greatest.unique n.isGreatest_containerDepth
  have two : n.elementTypes 2 = .ok "h<t>tf<tF>" := rfl
  have three : n.elementTypes 3 = .ok "h<t>tf<tF<t>>" := rfl
  obtain ⟨s, t, hs, ht, -, deleted, nested⟩ := step 2 (by decide)
  cases two.symm.trans hs
  cases three.symm.trans ht
  exact ⟨three, deleted.symm, nested, (same _ 3 (by decide) (by decide)).trans three⟩

end Node

end ScriptureText
