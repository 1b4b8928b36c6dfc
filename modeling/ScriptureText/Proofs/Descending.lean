/-
ScriptureText.Proofs.Descending — hooks that run before every element.

A stack of adapters is one adapter with all hooks in its hook, and around a
consumer one adapter is a consumer again (`Consumer.hooked`), so that what is
left to look at is a reading.

A reading with a hook is the reading without it as long as the hook does not
fail (`Transparent`), and ends where the hook fails with what the calls up to
there have done (`StopsAt`). Both are kept by putting readings together, and so
they hold of trees.
-/
import ScriptureText.Proofs.Adapters
import ScriptureText.Proofs.Representation
import ScriptureText.Validation

namespace ScriptureText

open Visitor (inner outer)

variable {ε δ σ : Type}

/-! ## §1 Hooks in a row -/

/-- A hook a number of times in a row. -/
def repeated (hook : EStateM ε δ Unit) : Nat → EStateM ε δ Unit
  | 0 => pure ()
  | k + 1 => do hook; repeated hook k

theorem repeated_succ_eq_ok {hook : EStateM ε δ Unit} {k : Nat} {d d' : δ} :
    repeated hook (k + 1) d = .ok () d' ↔
      ∃ m, hook d = .ok () m ∧ repeated hook k m = .ok () d' := by
  rw [repeated, Consumer.bind_eq_ok]
  exact ⟨fun ⟨_, m, h⟩ => ⟨m, h⟩, fun ⟨m, h⟩ => ⟨(), m, h⟩⟩

theorem repeated_add_eq_ok {hook : EStateM ε δ Unit} {j k : Nat} {d d' : δ} :
    repeated hook (j + k) d = .ok () d' ↔
      ∃ m, repeated hook j d = .ok () m ∧ repeated hook k m = .ok () d' := by
  induction j generalizing d with
  | zero =>
    rw [Nat.zero_add]
    constructor
    · exact fun h => ⟨d, rfl, h⟩
    · rintro ⟨m, none, h⟩
      cases none
      exact h
  | succ j ih =>
    rw [Nat.succ_add, repeated_succ_eq_ok]
    constructor
    · rintro ⟨m, first, rest⟩
      obtain ⟨m', others, last⟩ := ih.1 rest
      exact ⟨m', repeated_succ_eq_ok.2 ⟨m, first, others⟩, last⟩
    · rintro ⟨m', others, last⟩
      obtain ⟨m, first, rest⟩ := repeated_succ_eq_ok.1 others
      exact ⟨m, first, ih.2 ⟨m', rest, last⟩⟩

/-- Hooks with states of their own do not get in each other's way. -/
theorem Adapters.repeated_round_own {H S : Type} {hook : EStateM ε δ Unit}
    {inside : Adapters ε σ H S} {k : Nat} {d d' : δ} {h h' : H} :
    repeated (own hook inside).round k (d, h) = .ok () (d', h') ↔
      repeated hook k d = .ok () d' ∧ repeated inside.round k h = .ok () h' := by
  have once {d : δ} {h : H} {r : δ × H} : (own hook inside).round (d, h) = .ok () r ↔
      hook d = .ok () r.1 ∧ inside.round h = .ok () r.2 := by
    obtain ⟨d', h'⟩ := r
    rw [round, Consumer.bind_eq_ok, Visitor.outer_apply]
    cases own : hook d <;> cases others : inside.round h <;>
      simp [Visitor.inner_apply, others]
  induction k generalizing d h with
  | zero => simp [repeated, pure, EStateM.pure]
  | succ k ih =>
    simp only [repeated_succ_eq_ok]
    constructor
    · rintro ⟨⟨m, n⟩, first, rest⟩
      obtain ⟨own, others⟩ := once.1 first
      obtain ⟨ownRest, othersRest⟩ := ih.1 rest
      exact ⟨⟨m, own, ownRest⟩, n, others, othersRest⟩
    · rintro ⟨⟨m, own, ownRest⟩, n, others, othersRest⟩
      exact ⟨(m, n), once.2 ⟨own, others⟩, ih.2 ⟨ownRest, othersRest⟩⟩

/-! ## §2 Elements and calls -/

mutual

/-- The number of elements in a node at every depth, headlines included. -/
def Node.elementCount : Node → Nat
  | ⟨hs, b, _⟩ => Headline.countRun hs + Element.countRun b

/-- The number of elements in a headline run at every depth. -/
def Headline.countRun : List Headline → Nat
  | [] => 0
  | ⟨_, c⟩ :: rest => 1 + c.elementCount + Headline.countRun rest

/-- The number of elements in a body run at every depth. -/
def Element.countRun : List Element → Nat
  | [] => 0
  | .leaf _ :: rest => 1 + Element.countRun rest
  | .container _ c :: rest => 1 + c.elementCount + Element.countRun rest

end

/-- The number of elements that an element comes to, those inside it included. -/
def Element.count : Element → Nat
  | .leaf _ => 1
  | .container _ c => 1 + c.elementCount

theorem Element.countRun_cons (e : Element) (rest : List Element) :
    countRun (e :: rest) = e.count + countRun rest := by
  cases e <;> rfl

theorem Headline.countRun_append (hs : List Headline) (b : List Element) :
    Headline.countRun hs + Element.countRun b =
      Element.countRun (hs.map Headline.toElement ++ b) := by
  induction hs with
  | nil => exact Nat.zero_add _
  | cons h rest ih =>
    obtain ⟨d, c⟩ := h
    rw [Headline.countRun, Nat.add_assoc, ih]
    rfl

theorem Node.elementCount_eq (n : Node) : n.elementCount = Element.countRun n.children := by
  obtain ⟨hs, b, f⟩ := n
  rw [elementCount, Headline.countRun_append, children]

mutual

/-- The number of calls that a call comes to, those for its content included. -/
def Call.size : Call → Nat
  | .container _ content => 1 + Call.sizeRun content
  | _ => 1

/-- The number of calls in a row, those inside them included. -/
def Call.sizeRun : List Call → Nat
  | [] => 0
  | c :: rest => c.size + Call.sizeRun rest

end

mutual

/-- A call with no more than the first `k` calls for its content. -/
def Call.first (k : Nat) : Call → Call
  | .container t content => .container t (Call.firstRun k content)
  | c => c

/-- The first `k` calls in the order in which they are made, those inside
others included. -/
def Call.firstRun (k : Nat) : List Call → List Call
  | [] => []
  | c :: rest => if k = 0 then [] else c.first (k - 1) :: Call.firstRun (k - c.size) rest

end

namespace Call

theorem size_pos (c : Call) : 0 < c.size := by
  cases c with
  | container t content => exact Nat.lt_add_right _ Nat.one_pos
  | _ => exact Nat.one_pos

mutual

theorem first_of_le {k : Nat} : ∀ {c : Call}, c.size ≤ k + 1 → c.first k = c
  | .container t content, h => by
    rw [size] at h
    rw [first, firstRun_of_le (by omega)]
  | .leaf _, _ => rfl
  | .start, _ => rfl
  | .finish, _ => rfl
  | .elementTypes _, _ => rfl

theorem firstRun_of_le {k : Nat} : ∀ {cs : List Call}, sizeRun cs ≤ k → firstRun k cs = cs
  | [], _ => rfl
  | c :: rest, h => by
    rw [sizeRun] at h
    have some := c.size_pos
    rw [firstRun, if_neg (by omega), first_of_le (by omega), firstRun_of_le (by omega)]

end

theorem firstRun_zero (cs : List Call) : firstRun 0 cs = [] := by
  cases cs <;> rfl

/-- A cut inside a call leaves out all that comes behind it. -/
theorem firstRun_of_lt {k : Nat} {c : Call} (h : k < c.size) (rest : List Call) :
    firstRun k (c :: rest) = firstRun k [c] := by
  have none : k - c.size = 0 := by omega
  rw [firstRun, firstRun, none, firstRun_zero]
  rfl

/-- A cut behind a call leaves the call whole. -/
theorem firstRun_add (k : Nat) (c : Call) (rest : List Call) :
    firstRun (c.size + k) (c :: rest) = c :: firstRun k rest := by
  have some := c.size_pos
  have behind : c.size + k - c.size = k := by omega
  rw [firstRun, if_neg (by omega), first_of_le (by omega), behind]

end Call

theorem Element.sizeRun_call {es : List Element}
    (contents : ∀ t c, .container t c ∈ es → Call.sizeRun c.calls = c.elementCount) :
    Call.sizeRun (es.map Element.call) = countRun es := by
  induction es with
  | nil => rfl
  | cons e rest ih =>
    have one : e.call.size = e.count := by
      cases e with
      | leaf l => rfl
      | container t c => rw [call, Call.size, contents t c List.mem_cons_self, count]
    rw [List.map_cons, Call.sizeRun, one, countRun_cons,
      ih fun t c mem => contents t c (List.mem_cons_of_mem e mem)]

/-- A traversal makes one call for each element. -/
theorem Node.sizeRun_calls (n : Node) : Call.sizeRun n.calls = n.elementCount := by
  induction n using childrenInduction with
  | step n ih => rw [calls_eq, elementCount_eq, Element.sizeRun_call ih]

theorem Element.size_call (e : Element) : e.call.size = e.count := by
  cases e with
  | leaf l => rfl
  | container t c => rw [call, Call.size, c.sizeRun_calls, count]

/-! ## §3 Readings with a hook -/

namespace Consumer

variable {k : Consumer ε σ} {hook : EStateM ε δ Unit}

/-- A consumer with a hook before every element, on one state that all depths share. -/
def hooked (k : Consumer ε σ) (hook : EStateM ε δ Unit) : Consumer ε (δ × σ) where
  leaf := (k.toVisitor.decorate (.descending hook)).leaf
  enter := (k.toVisitor.decorate (.descending hook)).enter
  leave := (k.toVisitor.decorate (.descending hook)).leave
  start := inner k.start
  finish := inner k.finish

theorem toVisitor_hooked (k : Consumer ε σ) (hook : EStateM ε δ Unit) :
    (k.hooked hook).toVisitor = k.toVisitor.decorate (.descending hook) := by
  have finish : (do inner k.finish; pure false : EStateM ε (δ × σ) Bool) =
      inner (do k.finish; pure false) := (Visitor.inner_bind k.finish fun _ => pure false).symm
  rw [toVisitor]
  simp only [hooked, finish]
  rfl

/-- A result with the state of a hook beside it. -/
def beside (d : δ) : EStateM.Result ε σ Unit → EStateM.Result ε (δ × σ) Unit
  | .ok _ s => .ok () (d, s)
  | .error e s => .error e (d, s)

theorem inner_eq_beside (x : EStateM ε σ Unit) (d : δ) (s : σ) :
    inner x (d, s) = beside d (x s) := by
  rw [Visitor.inner_apply]
  cases x s <;> rfl

theorem hooked_leaf (l : Leaf) (d : δ) (s : σ) : (k.hooked hook).leaf l (d, s) =
    match hook d with
    | .ok _ d => beside d (k.leaf l s)
    | .error e d => .error e (d, s) := by
  show (k.toVisitor.decorate (.descending hook)).leaf l (d, s) = _
  rw [Visitor.decorate_descending]
  show EStateM.bind (outer hook) (fun _ => (k.toVisitor.carrying δ).leaf l) (d, s) = _
  rw [EStateM.bind, Visitor.outer_apply, Visitor.carrying_leaf]
  cases hook d with
  | ok _ d => exact inner_eq_beside (k.leaf l) d s
  | error e d => rfl

theorem hooked_enter (k : Consumer ε σ) (hook : EStateM ε δ Unit) (t : Tag) (d : δ) (s : σ) :
    (k.hooked hook).enter t (d, s) =
    match hook d with
    | .ok _ d =>
      match k.enter t s with
      | .ok child s => .ok (child.map fun c => (d, c)) (d, s)
      | .error e s => .error e (d, s)
    | .error e d => .error e (d, s) := by
  show (k.toVisitor.decorate (.descending hook)).enter t (d, s) = _
  rw [Visitor.decorate_descending]
  show EStateM.bind (outer hook) (fun _ => (k.toVisitor.carrying δ).enter t) (d, s) = _
  rw [EStateM.bind, Visitor.outer_apply]
  cases hook d with
  | ok _ d => exact k.toVisitor.carrying_enter d s t
  | error e d => rfl

/-- A consumer that passes over no container. -/
def Enters (k : Consumer ε σ) : Prop := ∀ t s s', k.enter t s ≠ .ok none s'

/-- A hook that holds out as long as it may be run makes no difference to what a
reading comes to. It has run no more often than that, and as often if everything
is read. -/
def Transparent (k : Consumer ε σ) (hook : EStateM ε δ Unit) (count : Nat)
    (y : EStateM ε (δ × σ) Unit) (x : EStateM ε σ Unit) : Prop :=
  ∀ d d' s, repeated hook count d = .ok () d' →
    ∃ j d₁, j ≤ count ∧ repeated hook j d = .ok () d₁ ∧ y (d, s) = beside d₁ (x s) ∧
      (k.Enters → (∃ s', x s = .ok () s') → j = count)

theorem transparent_finish : Transparent k hook 0 (k.hooked hook).finish k.finish :=
  fun d _ s _ => ⟨0, d, le_rfl, rfl, inner_eq_beside k.finish d s, fun _ _ => rfl⟩

theorem transparent_leaf (l : Leaf) :
    Transparent k hook 1 ((k.hooked hook).leaf l) (k.leaf l) := by
  intro d d' s holds
  obtain ⟨m, first, none⟩ := repeated_succ_eq_ok.1 holds
  cases none
  exact ⟨1, d', le_rfl, holds, by rw [hooked_leaf, first], fun _ _ => rfl⟩

theorem transparent_within (t : Tag) {count : Nat} {y : EStateM ε (δ × σ) Unit}
    {x : EStateM ε σ Unit} (inside : Transparent k hook count y x) :
    Transparent k hook (1 + count) ((k.hooked hook).within t y) (k.within t x) := by
  intro d d' s holds
  rw [Nat.add_comm] at holds
  obtain ⟨m, first, rest⟩ := repeated_succ_eq_ok.1 holds
  have once : repeated hook 1 d = .ok () m := repeated_succ_eq_ok.2 ⟨m, first, rfl⟩
  have entered := hooked_enter k hook t d s
  rw [first] at entered
  unfold within
  rw [entered]
  rcases h : k.enter t s with ⟨_ | child, s'⟩ | ⟨e, s'⟩
  · exact ⟨1, m, by omega, once, rfl, fun enters => absurd h (enters t s s')⟩
  · obtain ⟨j, d₁, le, run, read, exact⟩ := inside m d' child rest
    refine ⟨j + 1, d₁, by omega, repeated_succ_eq_ok.2 ⟨m, first, run⟩, ?_, ?_⟩
    · dsimp only [Option.map_some]
      rw [read]
      cases x child <;> rfl
    · rintro enters ⟨s₁, ok⟩
      cases hx : x child with
      | ok _ c => rw [exact enters ⟨c, hx⟩, Nat.add_comm]
      | error e c =>
        simp only [hx] at ok
        cases ok
  · refine ⟨1, m, by omega, once, rfl, ?_⟩
    rintro - ⟨s₁, ok⟩
    cases ok

/-- One reading after another. -/
theorem Transparent.bind {c c' : Nat} {y y' : EStateM ε (δ × σ) Unit} {x x' : EStateM ε σ Unit}
    (h : Transparent k hook c y x) (next : Transparent k hook c' y' x') :
    Transparent k hook (c + c') (do y; y') (do x; x') := by
  intro d d' s holds
  obtain ⟨m, holdsFirst, -⟩ := repeated_add_eq_ok.1 holds
  obtain ⟨j, d₁, le, run, read, exact⟩ := h d m s holdsFirst
  show ∃ i d₂, i ≤ c + c' ∧ repeated hook i d = .ok () d₂ ∧
    EStateM.bind y (fun _ => y') (d, s) = beside d₂ (EStateM.bind x (fun _ => x') s) ∧
    (k.Enters → (∃ s', EStateM.bind x (fun _ => x') s = .ok () s') → i = c + c')
  unfold EStateM.bind
  rw [read]
  cases hx : x s with
  | error e s' =>
    refine ⟨j, d₁, by omega, run, rfl, ?_⟩
    rintro - ⟨s₁, ok⟩
    cases ok
  | ok _ s' =>
    -- what is left of the hook's runs after the first reading is enough for the second
    obtain ⟨n, split⟩ : ∃ n, c + c' = j + (c' + n) := ⟨c - j, by omega⟩
    rw [split] at holds
    obtain ⟨d₂, same, more⟩ := repeated_add_eq_ok.1 holds
    cases run.symm.trans same
    obtain ⟨m', holdsNext, -⟩ := repeated_add_eq_ok.1 more
    obtain ⟨j', d₃, le', run', read', exact'⟩ := next d₁ m' s' holdsNext
    refine ⟨j + j', d₃, by omega, repeated_add_eq_ok.2 ⟨d₁, run, run'⟩, read', ?_⟩
    intro enters ok
    rw [exact enters ⟨s', hx⟩, exact' enters ok]

theorem transparent_element {e : Element} (content : ∀ t c, e = .container t c →
      Transparent k hook c.elementCount (c.feed (k.hooked hook)) (c.feed k)) :
    Transparent k hook e.count (e.feed (k.hooked hook)) (e.feed k) := by
  cases e with
  | leaf l =>
    rw [Element.feed_leaf, Element.feed_leaf]
    exact transparent_leaf l
  | container t c =>
    rw [Element.feed_container, Element.feed_container]
    exact transparent_within t (content t c rfl)

theorem transparent_run {es : List Element} (contents : ∀ t c, .container t c ∈ es →
      Transparent k hook c.elementCount (c.feed (k.hooked hook)) (c.feed k)) :
    Transparent k hook (Element.countRun es) (Element.feedRun (k.hooked hook) es)
      (Element.feedRun k es) := by
  induction es with
  | nil => exact fun d _ _ _ => ⟨0, d, le_rfl, rfl, rfl, fun _ _ => rfl⟩
  | cons e rest ih =>
    rw [Element.feedRun_cons, Element.feedRun_cons, Element.countRun_cons]
    refine Transparent.bind (transparent_element fun t c he => ?_) (ih fun t c mem => ?_)
    · exact contents t c (by rw [he]; exact List.mem_cons_self)
    · exact contents t c (List.mem_cons_of_mem e mem)

/-- Reading a tree with a hook that holds out for its elements. -/
theorem transparent_feed (start : k.start = pure ()) (n : Node) :
    Transparent k hook n.elementCount (n.feed (k.hooked hook)) (n.feed k) := by
  have startHooked : (k.hooked hook).start = pure () := by
    show inner k.start = pure ()
    rw [start]
    rfl
  induction n using Node.childrenInduction with
  | step n ih =>
    rw [Node.feed_eq_children _ startHooked, Node.feed_eq_children _ start, Node.elementCount_eq]
    exact Transparent.bind (transparent_run ih) transparent_finish

/-- A hook that fails after it has run some number of times ends the reading with its failure,
and with what so many calls have done. -/
def StopsAt (k : Consumer ε σ) (hook : EStateM ε δ Unit) (calls : List Call)
    (y : EStateM ε (δ × σ) Unit) (x : EStateM ε σ Unit) : Prop :=
  ∀ {j : Nat} {d d₁ d₂ : δ} {e : ε} {s s' : σ}, j < Call.sizeRun calls → x s = .ok () s' →
    repeated hook j d = .ok () d₁ → hook d₁ = .error e d₂ →
    y (d, s) = .error e (d₂, (k.toVisitor.performAll (Call.firstRun j calls) s).2)

/-- An element, where a reading of its content ends as it should. -/
theorem stopsAt_element (enters : k.Enters) {e : Element} (content : ∀ t c, e = .container t c →
      StopsAt k hook c.calls (c.feed (k.hooked hook)) (c.feed k)) :
    StopsAt k hook [e.call] (e.feed (k.hooked hook)) (e.feed k) := by
  intro j d d₁ d₂ err s s' lt read runs fails
  cases j with
  | zero =>
    cases runs
    rw [Call.firstRun_zero]
    cases e with
    | leaf l =>
      rw [Element.feed_leaf, hooked_leaf, fails]
      rfl
    | container t c =>
      rw [Element.feed_container, within, hooked_enter, fails]
      rfl
  | succ j =>
    obtain ⟨m, first, rest⟩ := repeated_succ_eq_ok.1 runs
    cases e with
    | leaf l => exact absurd lt (by simp [Element.call, Call.sizeRun, Call.size])
    | container t c =>
      rw [Element.feed_container, within_eq_ok] at read
      rcases read with passed | ⟨child, s₁, r, entered, inside, -⟩
      · exact absurd passed (enters t s s')
      · have lt' : j < Call.sizeRun c.calls := by
          rw [Element.call, Call.sizeRun, Call.size, Call.sizeRun] at lt
          omega
        have stopped := content t c rfl lt' inside rest fails
        have entered' := hooked_enter k hook t d s
        rw [first, entered] at entered'
        have cut : Call.firstRun (j + 1) [(Element.container t c).call] =
            [.container t (Call.firstRun j c.calls)] := rfl
        rw [Element.feed_container, within, entered', cut]
        dsimp only [Option.map_some]
        rw [stopped, Visitor.performAll, Visitor.perform]
        have : k.toVisitor.enter t s = .ok (some child) s₁ := entered
        rw [this]
        rfl

/-- The cut is inside the first element of a run, or behind it. -/
theorem stopsAt_run (enters : k.Enters) (start : k.start = pure ()) (finish : k.finish = pure ())
    {es : List Element} (contents : ∀ t c, .container t c ∈ es →
      StopsAt k hook c.calls (c.feed (k.hooked hook)) (c.feed k)) :
    StopsAt k hook (es.map Element.call) (Element.feedRun (k.hooked hook) es)
      (Element.feedRun k es) := by
  induction es with
  | nil => exact fun lt => absurd lt (Nat.not_lt_zero _)
  | cons e rest ih =>
    intro j d d₁ d₂ err s s' lt read runs fails
    rw [Element.feedRun_cons, bind_eq_ok] at read
    obtain ⟨⟨⟩, m, first, others⟩ := read
    rw [Element.feedRun_cons, bind_eq_error, List.map_cons]
    by_cases inside : j < e.call.size
    · left
      rw [Call.firstRun_of_lt inside]
      refine stopsAt_element enters (fun t c he => ?_) inside first runs fails
      exact contents t c (by rw [he]; exact List.mem_cons_self)
    · right
      obtain ⟨i, rfl⟩ := Nat.exists_eq_add_of_le (Nat.not_lt.1 inside)
      obtain ⟨m₁, whole, more⟩ := repeated_add_eq_ok.1 runs
      have whole' := whole
      rw [Element.size_call] at whole'
      obtain ⟨j, d', -, ran, seen, all⟩ :=
        transparent_element (k := k) (e := e) (fun t c _ => transparent_feed start c) d m₁ s whole'
      rw [all enters ⟨m, first⟩, whole'] at ran
      cases ran
      have done : (k.toVisitor.perform e.call s).2 = m := by
        have first' : Element.feedRun k [e] s = .ok () m := first
        refine Element.performAll_call (fun t c _ {_ _} h => ?_) first'
        exact Node.performAll_calls start finish h
      rw [List.map_cons, Call.sizeRun] at lt
      rw [first] at seen
      refine ⟨(), (m₁, m), seen, ?_⟩
      rw [ih (fun t c mem => contents t c (List.mem_cons_of_mem e mem)) (by omega) others more fails,
        Call.firstRun_add, ← done]
      rfl

/-- Reading a tree with a hook that does not hold out for its elements. -/
theorem stopsAt_feed (enters : k.Enters) (start : k.start = pure ()) (finish : k.finish = pure ())
    (n : Node) : StopsAt k hook n.calls (n.feed (k.hooked hook)) (n.feed k) := by
  have startHooked : (k.hooked hook).start = pure () := by
    show inner k.start = pure ()
    rw [start]
    rfl
  induction n using Node.childrenInduction with
  | step n ih =>
    intro j d d₁ d₂ err s s' lt read runs fails
    rw [Node.feed_eq_children _ start, finish, bind_eq_ok] at read
    obtain ⟨⟨⟩, m, run, last⟩ := read
    cases last
    rw [Node.calls_eq] at lt ⊢
    rw [Node.feed_eq_children _ startHooked, bind_eq_error]
    exact .inl (stopsAt_run enters start finish ih lt run runs fails)

end Consumer

/-! ## §4 Stacks -/

namespace Adapters

/-- A traversal through a stack around a consumer is a reading with all hooks. -/
theorem accept_eq {H S : Type} (a : Adapters ε σ H S) (k : Consumer ε σ) (n : Node) (limit : Nat)
    (h : H) (s : σ) :
    n.accept (a.visitor k.toVisitor) (limit + 1) (a.states.symm (h, s)) =
      some (seenResult id a.states.symm (n.feed (k.hooked a.round) (h, s))) := by
  have seen := n.accept_seenThrough (a.seenThrough k.toVisitor) (limit + 1) (a.states.symm (h, s))
  rw [← Consumer.toVisitor_hooked, Node.accept_toVisitor, Equiv.apply_symm_apply] at seen
  obtain ⟨r, same, result⟩ := Option.map_eq_some_iff.1 seen
  rw [same, ← result]
  cases r <;> simp [seenResult]

end Adapters

namespace Node

open Builder (consumer)

theorem enters_builder : consumer.Enters := by
  intro t n n' passed
  simp only [consumer] at passed
  split at passed <;> cases passed

/-- A stack of adapters around a builder on a fresh node. A hook that fails is the one thing that
makes a difference: if none does, the tree that is built is the one that is built without a stack,
and every hook has run once for each element at every depth. If one does, for the first time after
the hooks have run for some number of elements, the traversal fails as it did, and the tree holds
what so many calls have built.

A stack whose hooks do not fail changes nothing about a validator either. -/
theorem accept_adapters {n : Node} (reachable : Reachable n) (limit : Nat) :
    (∃ built, n.accept consumer.toVisitor (limit + 1) .empty = some (.ok () built) ∧
      ∀ {H S : Type} (a : Adapters Error Node H S) (h : H),
        (∀ h', repeated a.round n.elementCount h = .ok () h' →
          n.accept (a.visitor consumer.toVisitor) (limit + 1) (a.states.symm (h, .empty)) =
            some (.ok () (a.states.symm (h', built)))) ∧
        (∀ k h₁ e h₂, k < n.elementCount → repeated a.round k h = .ok () h₁ →
          a.round h₁ = .error e h₂ →
          n.accept (a.visitor consumer.toVisitor) (limit + 1) (a.states.symm (h, .empty)) =
            some (.error e (a.states.symm
              (h₂, (consumer.toVisitor.performAll (Call.firstRun k n.calls) .empty).2))))) ∧
    ∀ {H S : Type} (a : Adapters Error Validator.State H S) (h h' : H)
      (lookup : VerseLookup) (s : Validator.State), repeated a.round n.elementCount h = .ok () h' →
      (n.accept (a.visitor (Validator.consumer lookup).toVisitor) (limit + 1)
          (a.states.symm (h, s))).map (seenResult id fun w => (a.states w).2) =
        n.accept (Validator.consumer lookup).toVisitor (limit + 1) s := by
  constructor
  · obtain ⟨built, read⟩ := Sound.feed_ok reachable.sound
    refine ⟨built, by rw [accept_toVisitor, Run.step, read], fun a h => ⟨?_, ?_⟩⟩
    · intro h' holds
      obtain ⟨j, d, -, ran, seen, all⟩ :=
        Consumer.transparent_feed (k := consumer) rfl n h h' .empty holds
      rw [all enters_builder ⟨built, read⟩, holds] at ran
      cases ran
      rw [Adapters.accept_eq, seen, read]
      rfl
    · intro k h₁ e h₂ lt runs fails
      rw [← sizeRun_calls] at lt
      rw [Adapters.accept_eq,
        Consumer.stopsAt_feed enters_builder rfl rfl n lt read runs fails]
      rfl
  · intro H S a h h' lookup s holds
    obtain ⟨j, d, -, -, seen, -⟩ :=
      Consumer.transparent_feed (k := Validator.consumer lookup) rfl n h h' s holds
    rw [Adapters.accept_eq, seen, accept_toVisitor, Run.step, Option.map_some,
      seenResult_seenResult]
    cases n.feed (Validator.consumer lookup) s <;> simp [Consumer.beside, seenResult]

/-- Three hooks, two of them on one state. Each counts the five elements once, so that the outermost
comes to five and the two inside it to ten. A hook that refuses the fifth element is not followed by
the two inside it again, and leaves the footnote without its text. -/
theorem accept_adapters_footnote :
    let n : Node := ⟨[⟨2, ⟨[], [.leaf (.text "Creation")], false⟩⟩], [.leaf (.text "dry land"),
      .container .footnote ⟨[], [.leaf (.text "Or earth")], false⟩], false⟩
    let cut : Node := ⟨[⟨2, ⟨[], [.leaf (.text "Creation")], false⟩⟩], [.leaf (.text "dry land"),
      .container .footnote .empty], false⟩
    let pair (σ : Type) : Adapters Error σ (Nat × Unit) (Nat × σ) :=
      .sharing (outer (countingHook none)) (.own (countingHook none) .none)
    let stack (σ : Type) (limit : Option Nat) :
        Adapters Error σ (Nat × Nat × Unit) (Nat × Nat × σ) := .own (countingHook limit) (pair σ)
    let validator := (Validator.consumer Bible.empty.verseIndex).toVisitor
    repeated (countingHook none) n.elementCount 0 = .ok () 5 ∧
      repeated (pair Node).round n.elementCount (0, ()) = .ok () (10, ()) ∧
      n.accept ((stack Node none).visitor consumer.toVisitor) 1 (0, 0, .empty) =
        some (.ok () (5, 10, n)) ∧
      n.accept ((stack Node (some 4)).visitor consumer.toVisitor) 1 (0, 0, .empty) =
        some (.error (.illegalState (.refused "hook")) (5, 8, cut)) ∧
      (n.accept ((stack Validator.State none).visitor validator) 1
          (0, 0, .fresh .normalText [])).map (seenResult id fun w => w.2.2) =
        n.accept validator 1 (.fresh .normalText []) := by
  intro n cut pair stack validator
  have reachable : Reachable n := .perform [.container (.headline 2) [.leaf (.text "Creation")],
    .leaf (.text "dry land"), .container .footnote [.leaf (.text "Or earth")]] .empty rfl
  obtain ⟨⟨built, bare, around⟩, validators⟩ := accept_adapters reachable 0
  have same : n.accept consumer.toVisitor 1 .empty = some (.ok () n) := rfl
  cases bare.symm.trans same
  have first : repeated (countingHook none) n.elementCount 0 = .ok () 5 := rfl
  have others (σ : Type) : repeated (pair σ).round n.elementCount (0, ()) = .ok () (10, ()) := rfl
  have rounds (σ : Type) : repeated (stack σ none).round n.elementCount (0, 0, ()) =
      .ok () (5, 10, ()) := Adapters.repeated_round_own.2 ⟨first, others σ⟩
  have passes := (around (stack Node none) (0, 0, ())).1 (5, 10, ()) (rounds Node)
  have fails := (around (stack Node (some 4)) (0, 0, ())).2 4 (4, 8, ())
    (.illegalState (.refused "hook")) (5, 8, ()) (by decide) rfl rfl
  exact ⟨first, others Node, passes, fails, validators (stack Validator.State none) (0, 0, ())
    (5, 10, ()) Bible.empty.verseIndex (.fresh .normalText []) (rounds Validator.State)⟩

end Node

end ScriptureText
