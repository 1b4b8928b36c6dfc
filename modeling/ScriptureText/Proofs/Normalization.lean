/-
ScriptureText.Proofs.Normalization — what normalization does, without its passes.

On a run in which no two texts stand next to each other, one pass clips every
text where a line starts or ends and drops the texts of which nothing is left
(`trimRun`). A second pass finds nothing to do (`trimRun_trimRun`), so that all
passes together are `trimRun` (`settled_eq`), and they do not fail: what is left
of an accepted text is accepted. Over a sound tree normalization is therefore
`Node.trimmed`, a change of every body run (`normalizeRuns_eq`).

The invariant behind this is that nothing but text is ever dropped: the
neighbours of a text are no texts, so that they stay, and with them the places
where lines start and end.
-/
import ScriptureText.Normalization
import ScriptureText.Proofs.Sound
import ScriptureText.Proofs.Text

namespace ScriptureText

namespace Normalization

/-! ## §1 One run -/

/-- Whether a line ends before a run: the run is empty, or a boundary comes first in it. -/
def lineEnds (rest : List Element) : Bool := rest.head?.all (·.isBlockBoundary)

/-- A run with its texts clipped at the ends of lines, and without those that are empty then. -/
def trimRun : Bool → List Element → List Element
  | _, [] => []
  | atStart, .leaf (.text s) :: rest =>
    if Text.clip atStart (lineEnds rest) s = "" then trimRun atStart rest
    else .leaf (.text (Text.clip atStart (lineEnds rest) s)) :: trimRun false rest
  | _, e :: rest => e :: trimRun e.isBlockBoundary rest

@[simp] theorem trimRun_nil (b : Bool) : trimRun b [] = [] := by rw [trimRun]

theorem trimRun_text (b : Bool) (s : String) (rest : List Element) :
    trimRun b (.leaf (.text s) :: rest) =
      if Text.clip b (lineEnds rest) s = "" then trimRun b rest
      else .leaf (.text (Text.clip b (lineEnds rest) s)) :: trimRun false rest := by rw [trimRun]

theorem trimRun_cons {e : Element} (h : e.isText = false) (b : Bool) (rest : List Element) :
    trimRun b (e :: rest) = e :: trimRun e.isBlockBoundary rest := by
  rw [trimRun]
  rintro s rfl
  cases h

theorem text_or_not (e : Element) : (∃ s, e = .leaf (.text s)) ∨ e.isText = false := by
  rw [← Element.isText_iff]
  exact Bool.eq_false_or_eq_true _

/-- After a text comes no text. -/
theorem next_not_text {s : String} {rest : List Element}
    (h : (Element.leaf (.text s) :: rest).IsChain Element.NotBothText) :
    ∀ e ∈ rest.head?, e.isText = false := by
  intro e he
  have := (List.isChain_cons.1 h).1 e he
  simpa [Element.NotBothText, Element.isText_leaf_text] using this

/-- What does not start with text keeps its first element. -/
theorem head?_trimRun {rest : List Element} (h : ∀ e ∈ rest.head?, e.isText = false) (b : Bool) :
    (trimRun b rest).head? = rest.head? := by
  cases rest with
  | nil => rw [trimRun_nil]
  | cons e rest => rw [trimRun_cons (h e rfl)]; rfl

theorem lineEnds_trimRun {rest : List Element} (h : ∀ e ∈ rest.head?, e.isText = false)
    (b : Bool) : lineEnds (trimRun b rest) = lineEnds rest := by
  rw [lineEnds, head?_trimRun h, lineEnds]

/-- Nothing but text is dropped, and nothing is added. -/
theorem mem_trimRun_iff {e : Element} (h : e.isText = false) {b : Bool} {run : List Element} :
    e ∈ trimRun b run ↔ e ∈ run := by
  induction run generalizing b with
  | nil => simp
  | cons x rest ih =>
    rcases text_or_not x with ⟨s, rfl⟩ | hx
    · have hne : e ≠ .leaf (.text s) := by rintro rfl; cases h
      rw [trimRun_text, List.mem_cons]
      split
      · simp [ih, hne]
      · have hne' (t : String) : e ≠ .leaf (.text t) := by rintro rfl; cases h
        simp [ih, hne, hne']
    · rw [trimRun_cons hx, List.mem_cons, List.mem_cons, ih]

theorem container_mem_trimRun (b : Bool) (run : List Element) (t : Tag) (c : Node) :
    Element.container t c ∈ trimRun b run ↔ Element.container t c ∈ run := mem_trimRun_iff rfl

/-- What is left of accepted texts is accepted. -/
theorem accepted_trimRun {b : Bool} {run : List Element}
    (h : ∀ e ∈ run, e.isText = true → e.check = .ok ()) :
    ∀ e ∈ trimRun b run, e.isText = true → e.check = .ok () := by
  induction run generalizing b with
  | nil => simp
  | cons x rest ih =>
    rw [List.forall_mem_cons] at h
    rcases text_or_not x with ⟨s, rfl⟩ | hx
    · rw [trimRun_text]
      split
      · exact ih h.2
      · rename_i hne
        refine List.forall_mem_cons.2 ⟨fun _ => ?_, ih h.2⟩
        rcases Text.clip_cases (Text.check_text_iff.1 (h.1 rfl)) b (lineEnds rest) with
          ⟨-, -, he⟩ | ⟨hs, -⟩
        · exact absurd he hne
        · exact Text.check_text_iff.2 hs
    · rw [trimRun_cons hx]
      exact List.forall_mem_cons.2 ⟨h.1, ih h.2⟩

/-- Texts are the same whatever the containers contain. -/
theorem accepted_map (k : Node → Node) {run : List Element}
    (h : ∀ e ∈ run, e.isText = true → e.check = .ok ()) :
    ∀ e ∈ run.map (Element.mapContent k), e.isText = true → e.check = .ok () := by
  intro e mem ht
  obtain ⟨x, hx, rfl⟩ := List.mem_map.1 mem
  rw [Element.isText_mapContent] at ht
  rw [Element.check_mapContent]
  exact h x hx ht

/-- What is left of a run of checked elements is checked. -/
theorem checked_trimRun {b : Bool} {run : List Element} (h : ∀ e ∈ run, e.check = .ok ()) :
    ∀ e ∈ trimRun b run, e.check = .ok () := by
  intro e mem
  cases ht : e.isText with
  | true => exact accepted_trimRun (fun x hx _ => h x hx) e mem ht
  | false => exact h e ((mem_trimRun_iff ht).1 mem)

theorem apart_trimRun {b : Bool} {run : List Element} (h : run.IsChain Element.NotBothText) :
    (trimRun b run).IsChain Element.NotBothText := by
  induction run generalizing b with
  | nil => simp
  | cons x rest ih =>
    rcases text_or_not x with ⟨s, rfl⟩ | hx
    · rw [trimRun_text]
      split
      · exact ih h.tail
      · refine List.isChain_cons.2 ⟨fun y hy hboth => ?_, ih h.tail⟩
        rw [head?_trimRun (next_not_text h)] at hy
        rw [next_not_text h y hy] at hboth
        cases hboth.2
    · rw [trimRun_cons hx]
      refine List.isChain_cons.2 ⟨fun y _ hboth => ?_, ih h.tail⟩
      rw [hx] at hboth
      cases hboth.1

/-- Trimming once is enough. -/
theorem trimRun_trimRun {b : Bool} {run : List Element} (apart : run.IsChain Element.NotBothText)
    (accepted : ∀ e ∈ run, e.isText = true → e.check = .ok ()) :
    trimRun b (trimRun b run) = trimRun b run := by
  induction run generalizing b with
  | nil => simp
  | cons x rest ih =>
    rw [List.forall_mem_cons] at accepted
    rcases text_or_not x with ⟨s, rfl⟩ | hx
    · rw [trimRun_text]
      split
      · exact ih apart.tail accepted.2
      · rename_i hne
        rw [trimRun_text, lineEnds_trimRun (next_not_text apart),
          Text.clip_clip (Text.check_text_iff.1 (accepted.1 rfl)), if_neg hne,
          ih apart.tail accepted.2]
    · rw [trimRun_cons hx, trimRun_cons hx, ih apart.tail accepted.2]

theorem lineEnds_map (k : Node → Node) (rest : List Element) :
    lineEnds (rest.map (Element.mapContent k)) = lineEnds rest := by
  cases rest <;> simp [lineEnds]

/-- Trimming does not look into containers. -/
theorem trimRun_map (k : Node → Node) (b : Bool) (run : List Element) :
    trimRun b (run.map (Element.mapContent k)) = (trimRun b run).map (Element.mapContent k) := by
  induction run generalizing b with
  | nil => simp
  | cons x rest ih =>
    rcases text_or_not x with ⟨s, rfl⟩ | hx
    · simp only [List.map_cons, Element.mapContent_leaf, trimRun_text, lineEnds_map, ih]
      split <;> simp
    · rw [List.map_cons, trimRun_cons (by simpa using hx), trimRun_cons hx, ih, List.map_cons,
        Element.isBlockBoundary_mapContent]

theorem length_trimRun (b : Bool) (run : List Element) : (trimRun b run).length ≤ run.length := by
  induction run generalizing b with
  | nil => simp
  | cons x rest ih =>
    rcases text_or_not x with ⟨s, rfl⟩ | hx
    · rw [trimRun_text]
      split
      · exact Nat.le_succ_of_le (ih b)
      · exact Nat.succ_le_succ (ih false)
    · rw [trimRun_cons hx]
      exact Nat.succ_le_succ (ih _)

/-- A text that trimming leaves in front of what it was in front of has nothing to lose. -/
theorem of_trimRun_text_eq {b : Bool} {s : String} {rest : List Element}
    (h : trimRun b (.leaf (.text s) :: rest) = .leaf (.text s) :: rest) :
    Text.clip b (lineEnds rest) s = s ∧ trimRun false rest = rest := by
  rw [trimRun_text] at h
  split at h
  · have := congrArg List.length h
    have := length_trimRun b rest
    simp only [List.length_cons] at *
    omega
  · simpa using h

/-! ## §2 The passes -/

/-- What stands behind a text is apart from any other text in its place. -/
theorem apart_of_text {before rest : List Element} {s : String}
    (h : (before ++ .leaf (.text s) :: rest).IsChain Element.NotBothText) (t : String) :
    (Element.leaf (.text t) :: rest).IsChain Element.NotBothText := by
  have behind := (List.isChain_append.1 h).2.1
  refine List.isChain_cons.2 ⟨fun y hy hboth => ?_, behind.tail⟩
  rw [next_not_text behind y hy] at hboth
  cases hboth.2

/-- A pass in the middle of a run: what comes is trimmed, and the pass notes whether that
changed anything. -/
theorem scan_eq (done rest : List Element)
    (apart : (done.head?.toList ++ rest).IsChain Element.NotBothText)
    (accepted : ∀ e ∈ rest, e.isText = true → e.check = .ok ()) :
    ∃ changed, scan done rest =
      .ok (done.reverse ++ trimRun (done.head?.all (·.isBlockBoundary)) rest, changed) ∧
      (changed = false ↔ trimRun (done.head?.all (·.isBlockBoundary)) rest = rest) := by
  fun_induction scan done rest with
  | case1 done => exact ⟨false, by simp, by simp⟩
  | case2 => exact absurd ⟨rfl, rfl⟩ (List.isChain_cons_cons.1 apart).1
  | case3 => exact absurd ⟨rfl, rfl⟩ (List.isChain_cons_cons.1 apart).1
  | case4 done s rest _ _ ht ih =>
    -- nothing to clip
    rw [List.forall_mem_cons] at accepted
    obtain ⟨changed, hscan, hiff⟩ := ih (apart_of_text apart s) accepted.2
    change Text.clip _ (lineEnds rest) s = s at ht
    refine ⟨changed, ?_, ?_⟩
    · rw [hscan, trimRun_text, ht, if_neg (Text.ne_empty_of_check (accepted.1 rfl))]
      simp [Element.isBlockBoundary]
    · rw [hiff, trimRun_text, ht, if_neg (Text.ne_empty_of_check (accepted.1 rfl))]
      simp [Element.isBlockBoundary]
  | case5 done s rest _ _ ht he ih =>
    -- nothing is left: the next element is no text, and sees the same line start
    rw [List.forall_mem_cons] at accepted
    have apart' : (done.head?.toList ++ rest).IsChain Element.NotBothText := by
      have h := List.isChain_append.1 apart
      refine List.isChain_append.2 ⟨h.1, h.2.1.tail, fun x _ y hy hboth => ?_⟩
      rw [next_not_text h.2.1 y hy] at hboth
      cases hboth.2
    obtain ⟨changed, hscan, -⟩ := ih apart' accepted.2
    have he' : Text.clip _ (lineEnds rest) s = "" := String.isEmpty_iff.1 he
    refine ⟨true, ?_, ?_⟩
    · rw [hscan, trimRun_text, if_pos he']
      rfl
    · exact iff_of_false (by decide) fun h => ht (of_trimRun_text_eq h).1
  | case6 done s rest _ _ _ he e hc =>
    -- what is left would be accepted
    exfalso
    rw [List.forall_mem_cons] at accepted
    rcases Text.clip_cases (Text.check_text_iff.1 (accepted.1 rfl))
      (done.head?.all (·.isBlockBoundary)) (lineEnds rest) with ⟨-, -, h⟩ | ⟨h, -⟩
    · exact he (String.isEmpty_iff.2 h)
    · have := (Text.check_text_iff.2 h).symm.trans hc
      cases this
  | case7 done s rest _ _ ht he hc ih =>
    rw [List.forall_mem_cons] at accepted
    obtain ⟨changed, hscan, -⟩ := ih (apart_of_text apart _) accepted.2
    have he' : ¬ Text.clip _ (lineEnds rest) s = "" := fun h => he (String.isEmpty_iff.2 h)
    refine ⟨true, ?_, ?_⟩
    · rw [hscan, trimRun_text, if_neg he', List.reverse_cons, List.append_assoc]
      rfl
    · exact iff_of_false (by decide) fun h => ht (of_trimRun_text_eq h).1
  | case8 done e rest _ hnot ih =>
    have he : e.isText = false := by
      rcases text_or_not e with ⟨s, hs⟩ | he
      · exact absurd hs (hnot s)
      · exact he
    rw [List.forall_mem_cons] at accepted
    obtain ⟨changed, hscan, hiff⟩ := ih (List.isChain_append.1 apart).2.1 accepted.2
    refine ⟨changed, ?_, ?_⟩
    · rw [hscan, trimRun_cons he]
      simp
    · rw [hiff, trimRun_cons he]
      simp

/-- All passes over a run together; at most the first changes anything. -/
theorem settle_eq {run : List Element} (apart : run.IsChain Element.NotBothText)
    (accepted : ∀ e ∈ run, e.isText = true → e.check = .ok ()) :
    ∃ passes ≤ 1, settle run = .ok (trimRun true run, passes) := by
  have again : settle (trimRun true run) = .ok (trimRun true run, 0) := by
    obtain ⟨changed, hscan, hiff⟩ :=
      scan_eq [] (trimRun true run) (apart_trimRun apart) (accepted_trimRun accepted)
    have hsame := trimRun_trimRun (b := true) apart accepted
    obtain rfl := hiff.2 hsame
    have hpass : pass (trimRun true run) = .ok (trimRun true run, false) := by
      rw [pass, hscan]
      exact congrArg (fun r => Except.ok (r, false)) hsame
    rw [settle]
    split <;> rename_i h <;> rw [hpass] at h <;> cases h
    rfl
  obtain ⟨changed, hscan, hiff⟩ := scan_eq [] run apart accepted
  have hpass : pass run = .ok (trimRun true run, changed) := hscan
  rw [settle]
  split <;> rename_i h <;> rw [hpass] at h <;> cases h
  · exact ⟨0, Nat.zero_le 1, rfl⟩
  · rw [again]
    exact ⟨1, Nat.le_refl 1, rfl⟩

/-- What all passes over a run come to. -/
theorem settled_eq {run : List Element} (apart : run.IsChain Element.NotBothText)
    (accepted : ∀ e ∈ run, e.isText = true → e.check = .ok ()) :
    settled run = .ok (trimRun true run) := by
  obtain ⟨passes, -, h⟩ := settle_eq apart accepted
  rw [settled, h]
  rfl

end Normalization

/-! ## §3 Trees -/

open Normalization

/-- Contents that are normalized without failure, in a headline run. -/
theorem Headline.normalizeContents_eq {k : Node → Node} {hs : List Headline}
    (h : ∀ hd ∈ hs, hd.content.normalizeRuns = .ok (k hd.content)) :
    Headline.normalizeContents hs = .ok (hs.map (Headline.mapContent k)) := by
  induction hs with
  | nil => rw [Headline.normalizeContents, List.map_nil]
  | cons hd rest ih =>
    obtain ⟨d, c⟩ := hd
    rw [List.forall_mem_cons] at h
    rw [Headline.normalizeContents, h.1, ih h.2]
    rfl

/-- Contents that are normalized without failure, in a body run. -/
theorem Element.normalizeContents_eq {k : Node → Node} {es : List Element}
    (h : ∀ t c, Element.container t c ∈ es → c.normalizeRuns = .ok (k c)) :
    Element.normalizeContents es = .ok (es.map (Element.mapContent k)) := by
  induction es with
  | nil => rw [Element.normalizeContents, List.map_nil]
  | cons e rest ih =>
    have hrest := ih fun t c mem => h t c (List.mem_cons_of_mem e mem)
    cases e with
    | leaf l =>
      rw [Element.normalizeContents, hrest]
      rfl
    | container t c =>
      rw [Element.normalizeContents, h t c List.mem_cons_self, hrest]
      rfl

namespace Node

/-- A tree with every body run trimmed. -/
def trimmed (n : Node) : Node := n.mapRuns (trimRun true) id

theorem everywhere_trimmed {P : Node → Prop} {n : Node} :
    n.trimmed.Everywhere P ↔ n.Everywhere fun m => P m.trimmed :=
  everywhere_mapRuns fun run t c => container_mem_trimRun true run t c

/-- The body of a trimmed node is its own body, trimmed, up to what the containers contain. -/
theorem body_trimmed (n : Node) :
    n.trimmed.body = (trimRun true n.body).map (Element.mapContent trimmed) := by
  rw [trimmed, body_mapRuns, trimRun_map]
  rfl

theorem finished_trimmed (n : Node) : n.trimmed.finished = n.finished := finished_mapRuns n

/-- Where all passes over every body come to `g`, whatever its containers contain, normalization
is `g` on every body run. -/
theorem normalizeRuns_of_settled {g : List Element → List Element} {P : Node → Prop}
    (settles : ∀ m, P m → ∀ k : Node → Node,
      settled (m.body.map (Element.mapContent k)) = .ok (g (m.body.map (Element.mapContent k))))
    {n : Node} (h : n.Everywhere P) : n.normalizeRuns = .ok (n.mapRuns g id) := by
  induction n using childrenInduction with
  | step n ih =>
    obtain ⟨here, inside⟩ := everywhere_iff.1 h
    have contents (t : Tag) (c : Node) (mem : Element.container t c ∈ n.children) :
        c.normalizeRuns = .ok (c.mapRuns g id) := ih t c mem (inside t c mem)
    have hs : Headline.normalizeContents n.headlines =
        .ok (n.headlines.map (Headline.mapContent (mapRuns g id))) :=
      Headline.normalizeContents_eq fun hd mem =>
        contents _ _ (mem_children.2 (.inl ⟨hd, mem, rfl⟩))
    have b : Element.normalizeContents n.body =
        .ok (n.body.map (Element.mapContent (mapRuns g id))) :=
      Element.normalizeContents_eq fun t c mem => contents t c (mem_children.2 (.inr mem))
    have run := settles n here (mapRuns g id)
    obtain ⟨headlines, body, finished⟩ := n
    rw [normalizeRuns, hs, b]
    show (do let b ← settled (body.map (Element.mapContent (mapRuns g id))); return _) = _
    rw [run, mapRuns_eq]
    rfl

/-- Over a sound tree normalization does not fail, and trims every body run. -/
theorem normalizeRuns_eq {n : Node} (h : n.Everywhere Sound) :
    n.normalizeRuns = .ok n.trimmed := by
  refine normalizeRuns_of_settled (fun m sound k => ?_) h
  exact settled_eq (Element.isChain_map_mapContent.2 sound.apart)
    (accepted_map k fun e mem _ => sound.checked.body e mem)

/-- Trimming an open sound tree. -/
theorem trimWhitespace_standard {n : Node} (h : n.Everywhere Sound) (isOpen : n.finished = false) :
    n.trimWhitespace .standard = .ok n.trimmed := by
  rw [trimWhitespace, requireOpen, isOpen]
  exact normalizeRuns_eq h

/-- A trimmed sound node is sound. -/
theorem Sound.trimmed {n : Node} (h : n.Sound) : n.trimmed.Sound :=
  h.mapRuns (fun _ => checked_trimRun) (fun _ => apart_trimRun) id

theorem everywhere_sound_trimmed {n : Node} (h : n.Everywhere Sound) :
    n.trimmed.Everywhere Sound :=
  everywhere_trimmed.2 (h.mono fun _ => Sound.trimmed)

end Node

end ScriptureText
