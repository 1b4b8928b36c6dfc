/-
ScriptureText.Proofs.Adapters — one adapter for a stack of adapters.

A stack of adapters is a visitor with one hook around another (`Adapters`). A
hook has a state of its own or acts on that of the hooks inside, and either way
its state is the same at all depths. A stack behaves like a single adapter whose
hook runs all hooks in a row, from the outside inwards (`Adapters.seenThrough`).

That an adapter takes its hook's state down to a child says that it is a hook
before a visitor that carries the state along (`Visitor.decorate_descending`).
Hooks before a visitor can be put together, and carrying two states along is
carrying a pair; the induction on the stack needs no more than that.
-/
import Mathlib.Logic.Equiv.Prod
import ScriptureText.Proofs.Accept
import ScriptureText.Traversal.Decoration

namespace ScriptureText

open Visitor (inner outer)

variable {ε δ σ : Type}

/-! ## §1 Adapters -/

/-- A visitor with a hook on its own state before every element. -/
def Visitor.preceded (v : Visitor ε σ) (hook : EStateM ε σ Unit) : Visitor ε σ :=
  { v with
    leaf := fun l => do hook; v.leaf l
    enter := fun t => do hook; v.enter t }

/-- Adapters around a visitor with states in `σ`: the states of their hooks are
in `H`, and those together with a state of the visitor in `S`. -/
inductive Adapters (ε σ : Type) : Type → Type → Type 1 where
  | none : Adapters ε σ Unit σ
  /-- One more adapter on the outside, whose hook has a state of its own. -/
  | own {δ H S : Type} (hook : EStateM ε δ Unit) (inside : Adapters ε σ H S) :
      Adapters ε σ (δ × H) (δ × S)
  /-- One more adapter on the outside, whose hook acts on the state of those inside. -/
  | sharing {H S : Type} (hook : EStateM ε H Unit) (inside : Adapters ε σ H S) : Adapters ε σ H S

namespace Adapters

/-- The states of the hooks, and the state of the visitor inside. -/
def states : {H S : Type} → Adapters ε σ H S → S ≃ H × σ
  | _, _, .none => (Equiv.punitProd σ).symm
  | _, _, .own _ inside => ((Equiv.refl _).prodCongr inside.states).trans (Equiv.prodAssoc ..).symm
  | _, _, .sharing _ inside => inside.states

/-- A step on the states of the hooks. -/
def onHooks {H S : Type} (a : Adapters ε σ H S) (x : EStateM ε H Unit) : EStateM ε S Unit := fun s =>
  match outer x (a.states s) with
  | .ok _ t => .ok () (a.states.symm t)
  | .error e t => .error e (a.states.symm t)

/-- A visitor under adapters. -/
def visitor (v : Visitor ε σ) : {H S : Type} → Adapters ε σ H S → Visitor ε S
  | _, _, .none => v
  | _, _, .own hook inside => (inside.visitor v).decorate (.descending hook)
  | _, _, .sharing hook inside => (inside.visitor v).preceded (inside.onHooks hook)

/-- Every hook once, from the outside inwards. -/
def round : {H S : Type} → Adapters ε σ H S → EStateM ε H Unit
  | _, _, .none => pure ()
  | _, _, .own hook inside => do outer hook; inner inside.round
  | _, _, .sharing hook inside => do hook; inside.round

end Adapters

/-! ## §2 A hook before a visitor -/

namespace Visitor

/-- A visitor that carries a state along, which nothing changes. -/
def carrying (v : Visitor ε σ) (δ : Type) : Visitor ε (δ × σ) :=
  v.decorate (.descending (pure ()))

theorem eq_preceded {w v : Visitor ε σ} {hook : EStateM ε σ Unit}
    (others : w = { v with leaf := w.leaf, enter := w.enter })
    (leaf : ∀ l, w.leaf l = do hook; v.leaf l) (enter : ∀ t, w.enter t = do hook; v.enter t) :
    w = v.preceded hook := by
  rw [others, funext leaf, funext enter]
  rfl

/-- An adapter is a hook before a visitor that carries the hook's state. -/
theorem decorate_descending (v : Visitor ε σ) (hook : EStateM ε δ Unit) :
    v.decorate (.descending hook) = (v.carrying δ).preceded (outer hook) := by
  refine eq_preceded rfl (fun l => ?_) fun t => ?_
  · funext ⟨d, s⟩
    cases h : hook d <;> cases l <;>
      simp [decorate, carrying, Decoration.descending, outer, bind, EStateM.bind, h, pure,
        EStateM.pure]
  · funext ⟨d, s⟩
    cases h : hook d <;>
      simp [decorate, carrying, Decoration.descending, outer, bind, EStateM.bind, h, pure,
        EStateM.pure]

section Apply

variable {α : Type} (v : Visitor ε σ) (d : δ) (s : σ)

theorem inner_apply (x : EStateM ε σ α) : inner x (d, s) =
    match x s with
    | .ok a s => .ok a (d, s)
    | .error e s => .error e (d, s) := rfl

theorem outer_apply (x : EStateM ε δ α) : outer x (d, s) =
    match x d with
    | .ok a d => .ok a (d, s)
    | .error e d => .error e (d, s) := rfl

theorem inner_bind {β : Type} (x : EStateM ε σ α) (f : α → EStateM ε σ β) :
    (inner (x >>= f) : EStateM ε (δ × σ) β) = inner x >>= fun a => inner (f a) := by
  funext ⟨d, s⟩
  simp only [inner_apply, bind, EStateM.bind]
  cases x s <;> rfl

theorem preceded_pure : v.preceded (pure ()) = v := by
  simp [preceded]

theorem preceded_preceded (x y : EStateM ε σ Unit) :
    (v.preceded x).preceded y = v.preceded (do y; x) := by
  simp [preceded]

theorem carrying_leaf (l : Leaf) : (v.carrying δ).leaf l = inner (v.leaf l) := by
  cases l <;> rfl

theorem carrying_enter (t : Tag) : (v.carrying δ).enter t (d, s) =
    match v.enter t s with
    | .ok child s => .ok (child.map fun c => (d, c)) (d, s)
    | .error e s => .error e (d, s) := by
  show EStateM.bind (inner (v.enter t)) (fun child => pure (child.map fun c => (d, c))) (d, s) = _
  rw [EStateM.bind, inner_apply]
  cases v.enter t s <;> rfl

theorem outer_bind {β : Type} (x : EStateM ε δ α) (f : α → EStateM ε δ β) :
    (outer (x >>= f) : EStateM ε (δ × σ) β) = outer x >>= fun a => outer (f a) := by
  funext ⟨d, s⟩
  simp only [outer_apply, bind, EStateM.bind]
  cases x d <;> rfl

/-- A hook before a visitor that is carried along with a state is one on the visitor's state. -/
theorem carrying_preceded (x : EStateM ε σ Unit) :
    (v.preceded x).carrying δ = (v.carrying δ).preceded (inner x) := by
  refine eq_preceded rfl (fun l => ?_) fun t => ?_
  · rw [carrying_leaf, carrying_leaf]
    exact inner_bind x fun _ => v.leaf l
  · funext ⟨d, s⟩
    rw [carrying_enter]
    simp only [preceded, bind, EStateM.bind, inner_apply]
    cases x s with
    | ok _ m => exact (carrying_enter v d m t).symm
    | error e m => rfl

end Apply

end Visitor

/-! ## §3 Stacks as one adapter -/

section SeenThrough

variable {ρ τ α β : Type} {φ : τ → σ} {ψ : σ → ρ}

theorem seenResult_seenResult {γ : Type} (f : α → β) (g : β → γ) (r : EStateM.Result ε τ α) :
    seenResult g ψ (seenResult f φ r) = seenResult (g ∘ f) (ψ ∘ φ) r := by
  cases r <;> rfl

theorem seenResult_bind {y : EStateM ε τ Unit} {x : EStateM ε σ Unit}
    (first : ∀ t, seenResult id φ (y t) = x (φ t)) {g : EStateM ε τ α} {f : EStateM ε σ β}
    {p : α → β} (next : ∀ t, seenResult p φ (g t) = f (φ t)) (t : τ) :
    seenResult p φ ((do y; g) t) = (do x; f) (φ t) := by
  show seenResult p φ (EStateM.bind y (fun _ => g) t) = EStateM.bind x (fun _ => f) (φ t)
  unfold EStateM.bind
  rw [← first t]
  cases y t with
  | ok _ t => exact next t
  | error e t => rfl

namespace Visitor.SeenThrough

variable {w : Visitor ε τ} {v : Visitor ε σ}

theorem trans {u : Visitor ε ρ} (h : w.SeenThrough φ v) (h' : v.SeenThrough ψ u) :
    w.SeenThrough (ψ ∘ φ) u where
  elementTypes types t := by
    rw [Function.comp, ← h'.elementTypes, ← h.elementTypes, seenResult_seenResult]
    rfl
  leaf l t := by
    rw [Function.comp, ← h'.leaf, ← h.leaf, seenResult_seenResult]
    rfl
  enter tag t := by
    rw [Function.comp, ← h'.enter, ← h.enter, seenResult_seenResult, Option.map_comp_map]
  leave tag o i := by
    rw [Function.comp, h.leave, h'.leave]
    rfl
  start t := by
    rw [Function.comp, ← h'.start, ← h.start, seenResult_seenResult]
    rfl
  finish t := by
    rw [Function.comp, ← h'.finish, ← h.finish, seenResult_seenResult]
    rfl

/-- Hooks that do the same go before visitors that do the same. -/
theorem preceded (h : w.SeenThrough φ v) {y : EStateM ε τ Unit} {x : EStateM ε σ Unit}
    (hook : ∀ t, seenResult id φ (y t) = x (φ t)) :
    (w.preceded y).SeenThrough φ (v.preceded x) :=
  { h with
    leaf := fun l => seenResult_bind hook (h.leaf l)
    enter := fun tag => seenResult_bind hook (h.enter tag) }

theorem inner_seen {y : EStateM ε τ α} {x : EStateM ε σ α}
    (h : ∀ t, seenResult id φ (y t) = x (φ t)) (t : δ × τ) :
    seenResult id (Prod.map id φ) (inner y t) = inner x (Prod.map id φ t) := by
  obtain ⟨d, t⟩ := t
  rw [Prod.map_apply, inner_apply, inner_apply, ← h t]
  cases y t <;> rfl

/-- What is carried along makes no difference. -/
theorem carrying (h : w.SeenThrough φ v) (δ : Type) :
    (w.carrying δ).SeenThrough (Prod.map id φ) (v.carrying δ) where
  elementTypes types := inner_seen (h.elementTypes types)
  leaf l := by
    rw [carrying_leaf, carrying_leaf]
    exact inner_seen (h.leaf l)
  enter tag t := by
    obtain ⟨d, t⟩ := t
    have entered := h.enter tag t
    rw [carrying_enter, Prod.map_apply, carrying_enter, ← entered]
    cases w.enter tag t with
    | ok child m => cases child <;> rfl
    | error e m => rfl
  leave tag o i := by
    show (i.1, φ (w.leave tag o.2 i.2)) = (i.1, v.leave tag (φ o.2) (φ i.2))
    rw [h.leave]
  start := inner_seen h.start
  finish := inner_seen h.finish

end Visitor.SeenThrough

/-- Two states carried along, one after the other, are a pair carried along. -/
theorem Visitor.carrying_carrying (v : Visitor ε σ) (δ H : Type) :
    ((v.carrying H).carrying δ).SeenThrough (Equiv.prodAssoc δ H σ).symm (v.carrying (δ × H)) := by
  have inside {α : Type} (x : EStateM ε σ α) (t : δ × H × σ) :
      seenResult id (Equiv.prodAssoc δ H σ).symm (inner (inner x) t) =
        inner x ((Equiv.prodAssoc δ H σ).symm t) := by
    obtain ⟨d, h, s⟩ := t
    rw [inner_apply, inner_apply, Equiv.prodAssoc_symm_apply, inner_apply]
    cases x s <;> rfl
  exact {
    elementTypes := fun types => inside (v.elementTypes types)
    leaf := fun l t => by
      rw [carrying_leaf, carrying_leaf, carrying_leaf]
      exact inside (v.leaf l) t
    enter := fun tag t => by
      obtain ⟨d, h, s⟩ := t
      rw [carrying_enter, carrying_enter, Equiv.prodAssoc_symm_apply, carrying_enter]
      cases v.enter tag s with
      | ok child m => cases child <;> rfl
      | error e m => rfl
    leave := fun _ _ _ => rfl
    start := inside v.start
    finish := inside v.finish }

end SeenThrough

namespace Adapters

/-- A stack of adapters behaves like one adapter whose hook runs all hooks in a row. -/
theorem seenThrough (v : Visitor ε σ) {H S : Type} (a : Adapters ε σ H S) :
    (a.visitor v).SeenThrough a.states (v.decorate (.descending a.round)) := by
  rw [Visitor.decorate_descending]
  induction a with
  | none =>
    have nothing : (outer (pure ()) : EStateM ε (Unit × σ) Unit) = pure () := rfl
    rw [visitor, round, nothing, Visitor.preceded_pure]
    have inside {α : Type} (x : EStateM ε σ α) (t : σ) :
        seenResult id (Equiv.punitProd σ).symm (x t) = inner x ((), t) := by
      rw [Visitor.inner_apply]
      cases x t <;> rfl
    exact {
      elementTypes := fun types => inside (v.elementTypes types)
      leaf := fun l t => by
        rw [Visitor.carrying_leaf]
        exact inside (v.leaf l) t
      enter := fun tag t => by
        refine Eq.trans ?_ (v.carrying_enter () t tag).symm
        cases v.enter tag t with
        | ok child m => cases child <;> rfl
        | error e m => rfl
      leave := fun _ _ _ => rfl
      start := inside v.start
      finish := inside v.finish }
  | own hook inside ih =>
    rename_i δ H S
    have carried := ih.carrying δ
    rw [Visitor.carrying_preceded] at carried
    have hooks (t : δ × H × σ) :
        seenResult id (Equiv.prodAssoc δ H σ).symm (inner (outer inside.round) t) =
          outer (inner inside.round) ((Equiv.prodAssoc δ H σ).symm t) := by
      obtain ⟨d, h, s⟩ := t
      rw [Visitor.inner_apply, Visitor.outer_apply, Equiv.prodAssoc_symm_apply,
        Visitor.outer_apply, Visitor.inner_apply]
      cases inside.round h <;> rfl
    have first (t : δ × S) : seenResult id (own hook inside).states (outer hook t) =
        outer (outer hook) ((own hook inside).states t) := by
      obtain ⟨d, s⟩ := t
      show _ = outer (outer hook) ((d, (inside.states s).1), (inside.states s).2)
      rw [Visitor.outer_apply, Visitor.outer_apply, Visitor.outer_apply]
      cases hook d <;> rfl
    have whole := (carried.trans ((v.carrying_carrying δ H).preceded hooks)).preceded first
    rw [Visitor.preceded_preceded] at whole
    rw [visitor, Visitor.decorate_descending, round, Visitor.outer_bind]
    exact whole
  | sharing hook inside ih =>
    have first (t) : seenResult id inside.states (inside.onHooks hook t) =
        outer hook (inside.states t) := by
      rw [onHooks]
      cases outer hook (inside.states t) <;> simp [seenResult]
    have whole := ih.preceded first
    rw [Visitor.preceded_preceded] at whole
    rw [visitor, round, Visitor.outer_bind]
    exact whole

end Adapters

end ScriptureText
