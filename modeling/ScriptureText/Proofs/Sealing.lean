/-
ScriptureText.Proofs.Sealing — finishing a tree, for good.

Finishing changes the flags of a tree and nothing else, and no reader sees
flags: every visitor is taken through the finished tree as it would have been
through the open one. Writers do see them. Whatever is attempted on a finished
tree is refused, each time, so that no number of attempts changes it
(`Operation.applyAll_finished`); on an open tree nothing is refused for the
state that the tree is in (`Operation.apply_open`).

The state is looked at before anything else is done, and only at the root. For
the rest of an operation it remains to be seen that it fails over fields only,
which is an induction over what normalization does (`Node.normalizeRuns_error`).
-/
import ScriptureText.Proofs.Accept
import ScriptureText.Proofs.Reachable
import ScriptureText.Proofs.Snapshot

namespace ScriptureText

/-! ## §1 Operations -/

/-- What may be attempted on a tree. -/
inductive Operation where
  /-- Get a builder for the tree, and make calls on it. -/
  | append (calls : List Call)
  | removeLast
  | trimWhitespace (options : NormalizeOptions)
  | finish
  /-- Finish the tree and keep it for reading only. -/
  | intoSealed

namespace Operation

/-- What an operation is called where it is refused. -/
def attempt : Operation → Mutation
  | .append _ => .append
  | .removeLast => .remove
  | .trimWhitespace _ => .normalize
  | .finish => .finish
  | .intoSealed => .finish

/-- The tree after an operation. -/
def apply : Operation → Node → Except Error Node
  | .append calls, n => do
    n.requireOpen .append
    return (Builder.consumer.toVisitor.performAll calls n).2
  | .removeLast, n => n.removeLast.map (·.2)
  | .trimWhitespace options, n => n.trimWhitespace options
  | .finish, n => n.finish
  | .intoSealed, n => n.intoSealed.map (·.node)

/-- Operations in a row, with what comes of each; one that fails leaves the tree as it was. -/
def applyAll : List Operation → Node → List (Except Error Unit) × Node
  | [], n => ([], n)
  | op :: rest, n =>
    match op.apply n with
    | .ok n' =>
      let (results, last) := applyAll rest n'
      (.ok () :: results, last)
    | .error e =>
      let (results, last) := applyAll rest n
      (.error e :: results, last)

end Operation

/-! ## §2 Finished trees -/

/-- A finished tree refuses every operation. -/
theorem Operation.apply_finished {n : Node} (h : n.finished = true) (op : Operation) :
    op.apply n = .error (.illegalState (.finished op.attempt)) := by
  cases op with
  | intoSealed =>
    rw [apply, Node.intoSealed, if_pos h]
    rfl
  | _ =>
    simp only [apply, Node.removeLast, Node.trimWhitespace, Node.finish, Node.requireOpen, h]
    rfl

/-- However often it is tried. -/
theorem Operation.applyAll_finished {n : Node} (h : n.finished = true) (ops : List Operation) :
    applyAll ops n = (ops.map fun op => .error (.illegalState (.finished op.attempt)), n) := by
  induction ops with
  | nil => rfl
  | cons op rest ih => simp only [applyAll, apply_finished h, ih, List.map_cons]

/-! ## §3 Open trees -/

/-- An error over a field. -/
def Error.IsField (e : Error) : Prop := ∃ f value c, e = .invalidField f value c

theorem Leaf.check_error {l : Leaf} {e : Error} (h : l.check = .error e) : e.IsField := by
  have require {f : Field} {value : String} {c : Constraint} {holds : Bool}
      (h : f.require value c holds = .error e) : e.IsField := by
    rw [Field.require] at h
    split at h
    · cases h
    · cases h
      exact ⟨f, value, c, rfl⟩
  cases l with
  | text s => exact require h
  | rawHtml mode raw => exact require h
  | _ => cases h

namespace Normalization

theorem noted_error {result : Except Error (List Element × Bool)} {e : Error}
    (h : noted result = .error e) : result = .error e := by
  cases result with
  | ok r => cases h
  | error e' =>
    cases h
    rfl

theorem scan_error {done rest : List Element} {e : Error} (h : scan done rest = .error e) :
    e.IsField := by
  fun_induction scan done rest with
  | case1 => cases h
  | case2 _ _ _ _ _ hc =>
    cases h
    exact Leaf.check_error hc
  | case3 _ _ _ _ _ ih => exact ih (noted_error h)
  | case4 _ _ _ _ _ _ ih => exact ih h
  | case5 _ _ _ _ _ _ _ ih => exact ih (noted_error h)
  | case6 _ _ _ _ _ _ _ _ hc =>
    cases h
    exact Leaf.check_error hc
  | case7 _ _ _ _ _ _ _ _ ih => exact ih (noted_error h)
  | case8 _ _ _ _ _ ih => exact ih h

theorem settled_error {run : List Element} {e : Error} (h : settled run = .error e) :
    e.IsField := by
  have settle_error : settle run = .error e := by
    rw [settled] at h
    cases hs : settle run with
    | ok r =>
      rw [hs] at h
      cases h
    | error e' =>
      rw [hs] at h
      cases h
      rfl
  clear h
  fun_induction settle run with
  | case1 run e' hp =>
    cases settle_error
    exact scan_error hp
  | case2 => cases settle_error
  | case3 run run' hp ih =>
    cases hs : settle run' with
    | ok r =>
      rw [hs] at settle_error
      cases settle_error
    | error e' =>
      rw [hs] at settle_error
      cases settle_error
      exact ih hs

end Normalization

/-- Of two steps that fail together one fails. -/
theorem error_of_bind {α β : Type} {x : Except Error α} {f : α → Except Error β} {e : Error}
    (h : (x >>= f) = .error e) : x = .error e ∨ ∃ a, f a = .error e := by
  cases x with
  | ok a => exact .inr ⟨a, h⟩
  | error e' =>
    have same : (Except.error e' : Except Error β) = .error e := h
    cases same
    exact .inl rfl

mutual

/-- Normalization fails over fields only. -/
theorem Node.normalizeRuns_error {e : Error} : ∀ {n : Node}, n.normalizeRuns = .error e → e.IsField
  | ⟨hs, b, f⟩, h => by
    rw [Node.normalizeRuns] at h
    rcases error_of_bind h with h | ⟨_, h⟩
    · exact Headline.normalizeContents_error h
    rcases error_of_bind h with h | ⟨b', h⟩
    · exact Element.normalizeContents_error h
    rcases error_of_bind h with h | ⟨_, h⟩
    · exact Normalization.settled_error h
    · cases h

theorem Headline.normalizeContents_error {e : Error} :
    ∀ {hs : List Headline}, Headline.normalizeContents hs = .error e → e.IsField
  | [], h => nomatch h
  | ⟨d, c⟩ :: rest, h => by
    rw [Headline.normalizeContents] at h
    rcases error_of_bind h with h | ⟨_, h⟩
    · exact Node.normalizeRuns_error h
    rcases error_of_bind h with h | ⟨_, h⟩
    · exact Headline.normalizeContents_error h
    · cases h

theorem Element.normalizeContents_error {e : Error} :
    ∀ {es : List Element}, Element.normalizeContents es = .error e → e.IsField
  | [], h => nomatch h
  | .leaf l :: rest, h => by
    rw [Element.normalizeContents] at h
    rcases error_of_bind h with h | ⟨_, h⟩
    · exact Element.normalizeContents_error h
    · cases h
  | .container t c :: rest, h => by
    rw [Element.normalizeContents] at h
    rcases error_of_bind h with h | ⟨_, h⟩
    · exact Node.normalizeRuns_error h
    rcases error_of_bind h with h | ⟨_, h⟩
    · exact Element.normalizeContents_error h
    · cases h

end

/-- Nothing is refused because the tree is open: an operation succeeds, or normalization fails over
a field. -/
theorem Operation.apply_open {n : Node} (isOpen : n.finished = false) (op : Operation) :
    (∃ n', op.apply n = .ok n') ∨ ∃ e, op.apply n = .error e ∧ e.IsField := by
  cases op with
  | trimWhitespace options =>
    cases h : n.trimWhitespace options with
    | ok n' => exact .inl ⟨n', h⟩
    | error e =>
      refine .inr ⟨e, h, ?_⟩
      rw [Node.trimWhitespace, Node.requireOpen, isOpen] at h
      cases hk : options.keepWhitespace with
      | true =>
        rw [hk] at h
        cases h
      | false =>
        rw [hk] at h
        exact Node.normalizeRuns_error h
  | append calls =>
    refine .inl ⟨(Builder.consumer.toVisitor.performAll calls n).2, ?_⟩
    rw [apply, Node.requireOpen, isOpen]
    rfl
  | removeLast =>
    refine .inl ⟨{ n with body := n.body.dropLast }, ?_⟩
    rw [apply, Node.removeLast, Node.requireOpen, isOpen]
    rfl
  | finish => exact .inl ⟨_, Node.finish_of_open isOpen⟩
  | intoSealed =>
    refine .inl ⟨n.seal, ?_⟩
    rw [apply, Node.intoSealed, if_neg (by simp [isOpen])]
    rfl

/-! ## §4 Finishing -/

/-- Finishing an open tree succeeds; it marks every node as finished and changes nothing else, so
that every visitor is offered what it was offered before, and the snapshot and all signatures are
what they were. From then on every operation is refused for the state of the tree, which no
sequence of operations changes; and none is refused for that on an open tree. -/
theorem finished_for_good :
    (∀ n : Node, Reachable n → n.finished = false → ∃ finished, n.finish = .ok finished ∧
      (finished.Everywhere fun m => m.finished = true) ∧ finished.reopened = n ∧
      (∀ (ε σ : Type) (v : Visitor ε σ) (limit : Nat),
        finished.accept v limit = n.accept v limit) ∧
      finished.snapshot = n.snapshot ∧
      ∀ depth, finished.elementTypes depth = .ok (n.signature depth)) ∧
    (∀ n : Node, n.finished = true → ∀ ops, Operation.applyAll ops n =
      (ops.map fun op => .error (.illegalState (.finished op.attempt)), n)) ∧
    ∀ n : Node, n.finished = false →
      ∀ op fault, Operation.apply op n ≠ .error (.illegalState fault) := by
  refine ⟨fun n reachable isOpen => ?_, fun n h => Operation.applyAll_finished h,
    fun n isOpen op fault => ?_⟩
  · refine ⟨n.seal, Node.finish_of_open isOpen, Node.everywhere_finished_seal n,
      Node.reopened_seal (reachable.oneFlag.of_open isOpen), ?_, ?_, ?_⟩
    · intro ε σ v limit
      rw [Node.seal_eq_mapRuns, Node.accept_mapRuns_id]
    · rw [Node.seal_eq_mapRuns, Node.snapshot_mapRuns_id]
    · intro depth
      rw [Node.elementTypes, Node.requireFinished, if_pos n.finished_seal, Node.seal_eq_mapRuns,
        Node.signature_mapRuns_id]
      rfl
  · rcases Operation.apply_open isOpen op with ⟨n', h⟩ | ⟨e, h, f, value, c, rfl⟩
    · rw [h]
      exact nofun
    · rw [h]
      exact nofun

/-- A verse with a footnote, before and after it is finished. -/
theorem finished_for_good_footnote :
    let n : Node := ⟨[], [.leaf (.text "the land "),
      .container .footnote ⟨[], [.leaf (.text "Or earth")], false⟩], false⟩
    let finished : Node := ⟨[], [.leaf (.text "the land "),
      .container .footnote ⟨[], [.leaf (.text "Or earth")], true⟩], true⟩
    n.finish = .ok finished ∧ finished.elementTypes 2 = .ok (n.signature 2) ∧
      Operation.applyAll [.trimWhitespace .standard, .append [.leaf (.text "sea")], .intoSealed]
          finished = ([.error (.illegalState (.finished .normalize)),
            .error (.illegalState (.finished .append)),
            .error (.illegalState (.finished .finish))], finished) ∧
      Operation.apply .removeLast n ≠ .error (.illegalState (.finished .remove)) := by
  intro n finished
  have built : Reachable n := .perform [.leaf (.text "the land "),
    .container .footnote [.leaf (.text "Or earth")]] .empty rfl
  obtain ⟨finishes, stays, opens⟩ := finished_for_good
  obtain ⟨m, finish, -, -, -, -, signatures⟩ := finishes n built rfl
  have same : finished = m := Except.ok.inj finish
  subst same
  exact ⟨finish, signatures 2, stays finished rfl _, opens n rfl .removeLast _⟩

end ScriptureText
