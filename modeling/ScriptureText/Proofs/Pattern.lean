/-
ScriptureText.Proofs.Pattern — the matcher decides the language of a pattern.

`Pattern.Matches` is the language, constructor by constructor. The matcher
reads a text character by character and keeps the patterns that may match what
is left; `accepts_iff` says that a text is accepted exactly when it is in the
language.

  §1 The language, and the shapes a match can have.
  §2 The empty text (`nullable_iff`).
  §3 One character (`step_iff`), then a whole text (`accepts_iff`).
-/
import ScriptureText.Pattern

namespace ScriptureText.Pattern

/-! ## §1 The language -/

/-- The texts that a pattern stands for. -/
inductive Matches : Pattern → List Char → Prop where
  | literal (cs : List Char) : Matches (.literal cs) cs
  | oneOf {k : CharClass} {c : Char} (h : k.contains c = true) : Matches (.oneOf k) [c]
  | seq {a b : Pattern} {u v : List Char} (ha : Matches a u) (hb : Matches b v) :
      Matches (.seq a b) (u ++ v)
  | left {a b : Pattern} {u : List Char} (h : Matches a u) : Matches (.either a b) u
  | right {a b : Pattern} {u : List Char} (h : Matches b u) : Matches (.either a b) u
  | absent (a : Pattern) : Matches (.opt a) []
  | present {a : Pattern} {u : List Char} (h : Matches a u) : Matches (.opt a) u
  | manyNil (a : Pattern) : Matches (.many a) []
  | manyCons {a : Pattern} {u v : List Char} (ha : Matches a u) (hm : Matches (.many a) v) :
      Matches (.many a) (u ++ v)
  | oneOrMore {a : Pattern} {u v : List Char} (ha : Matches a u) (hm : Matches (.many a) v) :
      Matches (.oneOrMore a) (u ++ v)
  | timesZero (a : Pattern) : Matches (.times 0 a) []
  | timesSucc {a : Pattern} {n : Nat} {u v : List Char} (ha : Matches a u)
      (hm : Matches (.times n a) v) : Matches (.times (n + 1) a) (u ++ v)

variable {a b : Pattern} {c : Char} {u w : List Char}

theorem matches_literal {cs : List Char} : Matches (.literal cs) w ↔ w = cs := by
  constructor
  · rintro ⟨⟩
    rfl
  · rintro rfl
    exact .literal _

theorem matches_seq : Matches (.seq a b) w ↔ ∃ u v, w = u ++ v ∧ Matches a u ∧ Matches b v := by
  constructor
  · rintro (_ | _ | ⟨ha, hb⟩)
    exact ⟨_, _, rfl, ha, hb⟩
  · rintro ⟨u, v, rfl, ha, hb⟩
    exact .seq ha hb

theorem matches_either : Matches (.either a b) w ↔ Matches a w ∨ Matches b w := by
  constructor
  · intro h
    cases h with
    | left h => exact .inl h
    | right h => exact .inr h
  · rintro (h | h)
    · exact .left h
    · exact .right h

theorem matches_opt : Matches (.opt a) w ↔ w = [] ∨ Matches a w := by
  constructor
  · intro h
    cases h with
    | absent => exact .inl rfl
    | present h => exact .inr h
  · rintro (rfl | h)
    · exact .absent a
    · exact .present h

/-- A repetition is empty or starts with a match; the match may be taken to be non-empty. -/
theorem matches_many_cons :
    Matches (.many a) (c :: w) ↔ ∃ u v, w = u ++ v ∧ Matches a (c :: u) ∧ Matches (.many a) v := by
  constructor
  · generalize hp : Pattern.many a = p
    generalize hw : c :: w = cw
    intro h
    induction h with
    | manyNil => cases hw
    | @manyCons a' u v ha hm _ ihm =>
      cases hp
      cases u with
      | nil => exact ihm rfl hw
      | cons d u =>
        obtain ⟨rfl, rfl⟩ := List.cons.inj hw
        exact ⟨u, v, rfl, ha, hm⟩
    | _ => cases hp
  · rintro ⟨u, v, rfl, ha, hm⟩
    exact .manyCons ha hm

theorem matches_oneOrMore :
    Matches (.oneOrMore a) w ↔ ∃ u v, w = u ++ v ∧ Matches a u ∧ Matches (.many a) v := by
  constructor
  · intro h
    cases h with
    | oneOrMore ha hm => exact ⟨_, _, rfl, ha, hm⟩
  · rintro ⟨u, v, rfl, ha, hm⟩
    exact .oneOrMore ha hm

theorem matches_times_succ {n : Nat} :
    Matches (.times (n + 1) a) w ↔ ∃ u v, w = u ++ v ∧ Matches a u ∧ Matches (.times n a) v := by
  constructor
  · intro h
    cases h with
    | timesSucc ha hm => exact ⟨_, _, rfl, ha, hm⟩
  · rintro ⟨u, v, rfl, ha, hm⟩
    exact .timesSucc ha hm

/-! ## §2 The empty text -/

/-- A pattern is nullable when it matches the empty text. -/
theorem nullable_iff : ∀ p : Pattern, p.nullable = true ↔ Matches p []
  | .literal cs => by
    rw [matches_literal, nullable, List.isEmpty_iff]
    exact eq_comm
  | .oneOf k => by
    constructor
    · intro h
      cases h
    · generalize hw : ([] : List Char) = w
      rintro ⟨⟩
      cases hw
  | .seq a b => by
    simp only [nullable, Bool.and_eq_true, nullable_iff a, nullable_iff b, matches_seq,
      List.nil_eq_append_iff]
    constructor
    · rintro ⟨ha, hb⟩
      exact ⟨[], [], ⟨rfl, rfl⟩, ha, hb⟩
    · rintro ⟨_, _, ⟨rfl, rfl⟩, ha, hb⟩
      exact ⟨ha, hb⟩
  | .either a b => by
    simp only [nullable, Bool.or_eq_true, nullable_iff a, nullable_iff b, matches_either]
  | .opt a => by simp [nullable, matches_opt]
  | .many a => by simp [nullable, Matches.manyNil]
  | .oneOrMore a => by
    simp only [nullable, nullable_iff a, matches_oneOrMore, List.nil_eq_append_iff]
    constructor
    · intro h
      exact ⟨[], [], ⟨rfl, rfl⟩, h, .manyNil a⟩
    · rintro ⟨_, _, ⟨rfl, rfl⟩, h, -⟩
      exact h
  | .times n a => by
    simp only [nullable, Bool.or_eq_true, beq_iff_eq, nullable_iff a]
    induction n with
    | zero => simp [Matches.timesZero]
    | succ n ih =>
      simp only [matches_times_succ, List.nil_eq_append_iff]
      constructor
      · rintro (h | h)
        · cases h
        · exact ⟨[], [], ⟨rfl, rfl⟩, h, ih.1 (.inr h)⟩
      · rintro ⟨_, _, ⟨rfl, rfl⟩, h, -⟩
        exact .inr h

/-! ## §3 Characters -/

/-- What remains of a pattern after its first character, followed by `b`. -/
theorem exists_seq_iff {L : List Pattern}
    (h : ∀ w, (∃ q ∈ L, Matches q w) ↔ Matches a (c :: w)) (b : Pattern) (w : List Char) :
    (∃ q ∈ L.map (.seq · b), Matches q w) ↔
      ∃ u v, w = u ++ v ∧ Matches a (c :: u) ∧ Matches b v := by
  simp only [List.mem_map, ← h]
  constructor
  · rintro ⟨_, ⟨q, mem, rfl⟩, hq⟩
    obtain ⟨u, v, rfl, hq, hb⟩ := matches_seq.1 hq
    exact ⟨u, v, rfl, ⟨q, mem, hq⟩, hb⟩
  · rintro ⟨u, v, rfl, ⟨q, mem, hq⟩, hb⟩
    exact ⟨_, ⟨q, mem, rfl⟩, .seq hq hb⟩

/-- A repetition of a nullable pattern may be one longer. -/
theorem times_succ_of_nullable {n : Nat} (hn : Matches a []) (h : Matches (.times n a) w) :
    Matches (.times (n + 1) a) w := .timesSucc hn h

/-- In a counted repetition too the first match may be taken to be non-empty. -/
theorem matches_times_cons {n : Nat} : Matches (.times (n + 1) a) (c :: w) ↔
    ∃ u v, w = u ++ v ∧ Matches a (c :: u) ∧ Matches (.times n a) v := by
  constructor
  · induction n generalizing w with
    | zero =>
      intro h
      obtain ⟨u, v, hw, ha, hm⟩ := matches_times_succ.1 h
      cases hm with
      | timesZero =>
        cases u with
        | nil => cases hw
        | cons d u =>
          obtain ⟨rfl, rfl⟩ := List.cons.inj hw
          exact ⟨u, [], rfl, ha, .timesZero a⟩
    | succ n ih =>
      intro h
      obtain ⟨u, v, hw, ha, hm⟩ := matches_times_succ.1 h
      cases u with
      | nil =>
        obtain rfl : c :: w = v := hw
        obtain ⟨u', v', rfl, ha', hm'⟩ := ih hm
        exact ⟨u', v', rfl, ha', times_succ_of_nullable ha hm'⟩
      | cons d u =>
        obtain ⟨rfl, rfl⟩ := List.cons.inj hw
        exact ⟨u, v, rfl, ha, hm⟩
  · rintro ⟨u, v, rfl, ha, hm⟩
    exact .timesSucc (u := c :: u) ha hm

/-- Reading one character leaves patterns that match what may follow it. -/
theorem step_iff (c : Char) : ∀ (p : Pattern) (w : List Char),
    (∃ q ∈ step c p, Matches q w) ↔ Matches p (c :: w)
  | .literal [], w => by simp [step, matches_literal]
  | .literal (d :: ds), w => by
    by_cases hd : d = c
    · simp [step, hd, matches_literal]
    · simp [step, hd, matches_literal, Ne.symm hd]
  | .oneOf k, w => by
    by_cases hk : k.contains c = true
    · simp only [step, hk, if_true, List.mem_singleton, exists_eq_left, matches_literal]
      constructor
      · rintro rfl
        exact .oneOf hk
      · generalize hw : c :: w = cw
        rintro ⟨⟩
        exact (List.cons.inj hw).2
    · simp only [step, hk, List.not_mem_nil, false_and, exists_false, false_iff, if_false,
        Bool.false_eq_true]
      generalize hw : c :: w = cw
      rintro (_ | ⟨h⟩)
      obtain ⟨rfl, -⟩ := List.cons.inj hw
      exact hk h
  | .seq a b, w => by
    have ha := exists_seq_iff (step_iff c a) b w
    simp only [step, List.mem_append, or_and_right, exists_or, ha, matches_seq]
    constructor
    · rintro (⟨u, v, rfl, hu, hv⟩ | ⟨q, mem, hq⟩)
      · exact ⟨c :: u, v, rfl, hu, hv⟩
      · split at mem
        · rename_i hn
          exact ⟨[], c :: w, rfl, (nullable_iff a).1 hn, (step_iff c b w).1 ⟨q, mem, hq⟩⟩
        · cases mem
    · rintro ⟨u, v, hw, hu, hv⟩
      cases u with
      | nil =>
        obtain rfl : c :: w = v := hw
        obtain ⟨q, mem, hq⟩ := (step_iff c b w).2 hv
        exact .inr ⟨q, by rw [if_pos ((nullable_iff a).2 hu)]; exact mem, hq⟩
      | cons d u =>
        obtain ⟨rfl, rfl⟩ := List.cons.inj hw
        exact .inl ⟨u, v, rfl, hu, hv⟩
  | .either a b, w => by
    simp only [step, List.mem_append, or_and_right, exists_or, step_iff c a w, step_iff c b w,
      matches_either]
  | .opt a, w => by simp [step, step_iff c a w, matches_opt]
  | .many a, w => by rw [step, exists_seq_iff (step_iff c a), matches_many_cons]
  | .oneOrMore a, w => by
    rw [step, exists_seq_iff (step_iff c a), ← matches_many_cons, matches_oneOrMore]
    constructor
    · intro h
      obtain ⟨u, v, rfl, ha, hm⟩ := matches_many_cons.1 h
      exact ⟨c :: u, v, rfl, ha, hm⟩
    · rintro ⟨u, v, hw, ha, hm⟩
      rw [hw]
      exact .manyCons ha hm
  | .times 0 a, w => by
    simp only [step, List.not_mem_nil, false_and, exists_false, false_iff]
    generalize hw : c :: w = cw
    rintro ⟨⟩
    cases hw
  | .times (n + 1) a, w => by rw [step, exists_seq_iff (step_iff c a), matches_times_cons]

theorem advance_iff (states : List Pattern) (c : Char) (w : List Char) :
    (∃ q ∈ advance states c, Matches q w) ↔ ∃ p ∈ states, Matches p (c :: w) := by
  simp only [advance, List.mem_eraseDups, List.mem_flatMap, ← step_iff]
  constructor
  · rintro ⟨q, ⟨p, hp, hq⟩, h⟩
    exact ⟨p, hp, q, hq, h⟩
  · rintro ⟨p, hp, q, hq, h⟩
    exact ⟨q, ⟨p, hp, hq⟩, h⟩

theorem foldl_advance_iff (cs : List Char) (states : List Pattern) :
    (cs.foldl advance states).any nullable = true ↔ ∃ p ∈ states, Matches p cs := by
  induction cs generalizing states with
  | nil => simp only [List.foldl_nil, List.any_eq_true, nullable_iff]
  | cons c rest ih => rw [List.foldl_cons, ih, advance_iff]

/-- The matcher accepts exactly the texts of the language. -/
theorem accepts_iff (p : Pattern) (s : String) : p.accepts s = true ↔ Matches p s.toList := by
  rw [accepts, acceptsList, foldl_advance_iff]
  simp

end ScriptureText.Pattern
