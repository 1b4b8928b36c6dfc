/-
ScriptureText.Proofs.Protocol — what passes between a traversal and a visitor.

A visitor replies to each call, and its replies steer the traversal. A visitor
that is overheard has a log of the calls with their replies, its own and those
of the visitors inside it (`Visitor.overheard`). Which logs there can be is said
as a language over exchanges, by recursion over the tree (`Node.protocol`). The
replies are part of the exchanges, so that what a reply leads to is a matter of
which words the language has; the visitor may reply whatever it likes.

No word has a failure in it. The log of a traversal that fails is a word cut
short: the beginning of a word, with a failure in place of the last reply
(`CutShort`).

Every part of a traversal keeps to a language of its own (`Run.Follows`), and
so do the runs that are put together from such parts. For this a language must
have a word: a part that fails cuts short what was still to come, and something
must have been able to come.
-/
import Mathlib.Computability.Language
import ScriptureText.Proofs.Accept
import ScriptureText.Traversal.Recorder

namespace ScriptureText

variable {ε σ : Type}

/-! ## §1 Exchanges -/

/-- What a visitor replies to a call: nothing, the depth of the signature it wants, that a
container is entered or passed over, whether to read again, or a failure. -/
inductive Reply (ε : Type) where
  | done
  | depth (wanted : Nat)
  | entered
  | passedOver
  | again (wanted : Bool)
  | failed (error : ε)
  deriving DecidableEq

/-- A call, the level of the visitor that received it, and its reply. -/
structure Exchange (ε : Type) extends Entry where
  reply : Reply ε
  deriving DecidableEq

/-- A visitor's state with the exchanges so far, oldest first. -/
structure Overheard (ε σ : Type) where
  level : Nat
  log : List (Exchange ε)
  state : σ
  deriving DecidableEq

deriving instance DecidableEq for Script.Progress

instance resultDecidableEq {α : Type} [DecidableEq ε] [DecidableEq σ] [DecidableEq α] :
    DecidableEq (EStateM.Result ε σ α)
  | .ok a s, .ok a' s' => decidable_of_iff (a = a' ∧ s = s') (by simp)
  | .error e s, .error e' s' => decidable_of_iff (e = e' ∧ s = s') (by simp)
  | .ok _ _, .error _ _ => isFalse nofun
  | .error _ _, .ok _ _ => isFalse nofun

/-- The same state with the calls alone. -/
def Overheard.recorded (o : Overheard ε σ) : Recorded σ :=
  ⟨o.level, (o.log.map Exchange.toEntry).reverse, o.state⟩

namespace Visitor

/-- A step that is noted with its reply. -/
def hearing {α : Type} (e : Event) (reply : α → Reply ε) (x : EStateM ε σ α) :
    EStateM ε (Overheard ε σ) α := fun o =>
  match x o.state with
  | .ok a s => .ok a ⟨o.level, o.log ++ [⟨⟨o.level, e⟩, reply a⟩], s⟩
  | .error err s => .error err ⟨o.level, o.log ++ [⟨⟨o.level, e⟩, .failed err⟩], s⟩

/-- A visitor with a log of its calls and its replies. -/
def overheard (v : Visitor ε σ) : Visitor ε (Overheard ε σ) where
  elementTypes types := hearing (.elementTypes types) .depth (v.elementTypes types)
  leaf l := hearing (.leaf l) (fun _ => .done) (v.leaf l)
  enter t := do
    let child ← hearing (.enter t) (fun child => if child.isSome then .entered else .passedOver)
      (v.enter t)
    let o ← get
    return child.map fun s => ⟨o.level + 1, o.log, s⟩
  leave t outside inside := ⟨outside.level, inside.log, v.leave t outside.state inside.state⟩
  start := hearing .start (fun _ => .done) v.start
  finish := hearing .finish .again v.finish

theorem hearing_seen {α : Type} (e : Event) (reply : α → Reply ε) (x : EStateM ε σ α)
    (o : Overheard ε σ) : seenResult id Overheard.state (hearing e reply x o) = x o.state := by
  rw [hearing]
  rcases x o.state with ⟨a, s⟩ | ⟨err, s⟩ <;> rfl

theorem hearing_recorded {α : Type} (e : Event) (reply : α → Reply ε) (x : EStateM ε σ α)
    (o : Overheard ε σ) :
    seenResult id Overheard.recorded (hearing e reply x o) = noting e x o.recorded := by
  rw [hearing, noting, Overheard.recorded]
  rcases x o.state with ⟨a, s⟩ | ⟨err, s⟩ <;> simp [seenResult, Overheard.recorded]

theorem recorded_enter (v : Visitor ε σ) (t : Tag) (o : Overheard ε σ) :
    v.recorded.enter t o.recorded =
      let log := ⟨o.level, .enter t⟩ :: (o.log.map Exchange.toEntry).reverse
      match v.enter t o.state with
      | .ok none s => .ok none ⟨o.level, log, s⟩
      | .ok (some child) s => .ok (some ⟨o.level + 1, log, child⟩) ⟨o.level, log, s⟩
      | .error e s => .error e ⟨o.level, log, s⟩ := by
  simp only [recorded, noting, Overheard.recorded, bind, EStateM.bind]
  rcases v.enter t o.state with ⟨_ | child, s⟩ | ⟨e, s⟩ <;> rfl

theorem overheard_enter (v : Visitor ε σ) (t : Tag) (o : Overheard ε σ) :
    v.overheard.enter t o = match v.enter t o.state with
      | .ok none s => .ok none ⟨o.level, o.log ++ [⟨⟨o.level, .enter t⟩, .passedOver⟩], s⟩
      | .ok (some child) s =>
        let log := o.log ++ [⟨⟨o.level, .enter t⟩, .entered⟩]
        .ok (some ⟨o.level + 1, log, child⟩) ⟨o.level, log, s⟩
      | .error e s => .error e ⟨o.level, o.log ++ [⟨⟨o.level, .enter t⟩, .failed e⟩], s⟩ := by
  simp only [overheard, hearing, bind, EStateM.bind]
  rcases v.enter t o.state with ⟨_ | child, s⟩ | ⟨e, s⟩ <;> rfl

/-- A visitor does not notice that it is overheard. -/
theorem overheard_seenThrough (v : Visitor ε σ) : v.overheard.SeenThrough Overheard.state v where
  elementTypes _ _ := hearing_seen _ _ _ _
  leaf _ _ := hearing_seen _ _ _ _
  enter t o := by
    rw [overheard_enter]
    rcases v.enter t o.state with ⟨_ | child, s⟩ | ⟨e, s⟩ <;> rfl
  leave _ _ _ := rfl
  start _ := hearing_seen _ _ _ _
  finish _ := hearing_seen _ _ _ _

/-- Without the replies, what is overheard is what is recorded. -/
theorem overheard_recorded (v : Visitor ε σ) :
    v.overheard.SeenThrough Overheard.recorded v.recorded where
  elementTypes _ _ := hearing_recorded _ _ _ _
  leaf _ _ := hearing_recorded _ _ _ _
  enter t o := by
    rw [overheard_enter, recorded_enter]
    rcases v.enter t o.state with ⟨_ | child, s⟩ | ⟨e, s⟩ <;>
      simp [seenResult, Overheard.recorded]
  leave _ _ _ := rfl
  start _ := hearing_recorded _ _ _ _
  finish _ := hearing_recorded _ _ _ _

/-- A container is passed over, or refused, or read by a visitor one level further in. -/
theorem overheard_within (v : Visitor ε σ) (t : Tag) (x : Run ε (Overheard ε σ) Unit)
    (o : Overheard ε σ) :
    (∃ s, v.overheard.within t x o =
      some (.ok () ⟨o.level, o.log ++ [⟨⟨o.level, .enter t⟩, .passedOver⟩], s⟩)) ∨
    (∃ e s, v.overheard.within t x o =
      some (.error e ⟨o.level, o.log ++ [⟨⟨o.level, .enter t⟩, .failed e⟩], s⟩)) ∨
    ∃ child s, v.overheard.within t x o =
      (x ⟨o.level + 1, o.log ++ [⟨⟨o.level, .enter t⟩, .entered⟩], child⟩).map
        (seenResult id fun inside => ⟨o.level, inside.log, v.leave t s inside.state⟩) := by
  unfold within
  rw [overheard_enter]
  rcases v.enter t o.state with ⟨_ | child, s⟩ | ⟨e, s⟩
  · exact .inl ⟨s, rfl⟩
  · refine .inr (.inr ⟨child, s, ?_⟩)
    dsimp only
    generalize x _ = result
    rcases result with _ | ⟨⟨⟩, inside⟩ | ⟨e, inside⟩ <;> rfl
  · exact .inr (.inl ⟨e, s, rfl⟩)

end Visitor

/-! ## §2 The protocol -/

namespace Protocol

/-- One call with one reply. -/
def exchange (level : Nat) (e : Event) (r : Reply ε) : Language (Exchange ε) :=
  {[⟨⟨level, e⟩, r⟩]}

/-- Requests for signatures to some depths. Each request is made in reply to the answer to the one
before it, and to none at the outset; the reply that ends them is 0. -/
def requests (level : Nat) (signature : Nat → String) :
    Option String → List Nat → List (Exchange ε)
  | asked, [] => [⟨⟨level, .elementTypes asked⟩, .depth 0⟩]
  | asked, d :: rest =>
    ⟨⟨level, .elementTypes asked⟩, .depth d⟩ ::
      requests level signature (some (signature d)) rest

/-- Requests for any number of signatures. -/
def negotiation (level : Nat) (signature : Nat → String) (asked : Option String) :
    Language (Exchange ε) :=
  {log | ∃ depths, (∀ d ∈ depths, d ≠ 0) ∧ log = requests level signature asked depths}

/-- A container that is passed over, or entered and left with its content. -/
def nested (level : Nat) (t : Tag) (content : Language (Exchange ε)) : Language (Exchange ε) :=
  exchange level (.enter t) .passedOver + exchange level (.enter t) .entered * content

/-- One reading of a node, with the reply at its end. -/
def pass (level : Nat) (signature : Nat → String) (headlines body : Language (Exchange ε))
    (again : Bool) : Language (Exchange ε) :=
  negotiation level signature none *
    (headlines * (exchange level .start .done * (body * exchange level .finish (.again again))))

/-- Readings, each but the last with the reply that another is wanted. -/
def passes (once : Bool → Language (Exchange ε)) : Language (Exchange ε) :=
  KStar.kstar (once true) * once false

end Protocol

open Protocol

mutual

/-- What may pass between a traversal of a node and a visitor at a level. -/
def Node.protocol (level : Nat) : Node → Language (Exchange ε)
  | ⟨hs, b, f⟩ => passes (pass level (Node.signature ⟨hs, b, f⟩)
      (Headline.protocolRun level hs) (Element.protocolRun level b))

/-- What may pass in a headline run. -/
def Headline.protocolRun (level : Nat) : List Headline → Language (Exchange ε)
  | [] => 1
  | ⟨d, content⟩ :: rest =>
    nested level (.headline d) (content.protocol (level + 1)) * Headline.protocolRun level rest

/-- What may pass in a body run. -/
def Element.protocolRun (level : Nat) : List Element → Language (Exchange ε)
  | [] => 1
  | .leaf l :: rest => exchange level (.leaf l) .done * Element.protocolRun level rest
  | .container t content :: rest =>
    nested level t (content.protocol (level + 1)) * Element.protocolRun level rest

end

/-- What passes in a headline run is what would pass in a body run. -/
theorem Headline.protocolRun_eq (level : Nat) (hs : List Headline) :
    (Headline.protocolRun level hs : Language (Exchange ε)) =
      Element.protocolRun level (hs.map Headline.toElement) := by
  induction hs with
  | nil => rfl
  | cons h rest ih =>
    obtain ⟨d, content⟩ := h
    rw [Headline.protocolRun, ih, List.map_cons, Headline.toElement, Element.protocolRun]

theorem Node.protocol_eq (level : Nat) (n : Node) :
    (n.protocol level : Language (Exchange ε)) = passes (pass level n.signature
      (Element.protocolRun level (n.headlines.map Headline.toElement))
      (Element.protocolRun level n.body)) := by
  obtain ⟨hs, b, f⟩ := n
  rw [protocol, Headline.protocolRun_eq]

/-! ## §3 Failures -/

namespace Protocol

/-- No word of a language has a failure in it. -/
def Unfailing (L : Language (Exchange ε)) : Prop :=
  ∀ log ∈ L, ∀ x ∈ log, ∀ e, x.reply ≠ .failed e

namespace Unfailing

variable {L M : Language (Exchange ε)}

theorem exchange (level : Nat) (e : Event) {r : Reply ε} (h : ∀ e, r ≠ .failed e) :
    Unfailing (exchange level e r) := by
  rintro log rfl x mem
  rw [List.mem_singleton.1 mem]
  exact h

theorem one : Unfailing (1 : Language (Exchange ε)) := by
  rintro log rfl x mem
  cases mem

theorem mul (hL : Unfailing L) (hM : Unfailing M) : Unfailing (L * M) := by
  rintro log ⟨first, hf, second, hs, rfl⟩ x mem
  rcases List.mem_append.1 mem with mem | mem
  · exact hL first hf x mem
  · exact hM second hs x mem

theorem negotiation (level : Nat) (signature : Nat → String) (asked : Option String) :
    Unfailing (negotiation level signature asked : Language (Exchange ε)) := by
  rintro log ⟨depths, -, rfl⟩ x mem e
  induction depths generalizing asked with
  | nil =>
    rw [List.mem_singleton.1 mem]
    nofun
  | cons d rest ih =>
    rcases List.mem_cons.1 mem with rfl | mem
    · nofun
    · exact ih _ mem

theorem nested (level : Nat) (t : Tag) (h : Unfailing L) : Unfailing (nested level t L) := by
  rintro log (passed | inside)
  · exact Unfailing.exchange level (.enter t) nofun log passed
  · exact mul (.exchange level (.enter t) nofun) h log inside

theorem passes {once : Bool → Language (Exchange ε)} (h : ∀ again, Unfailing (once again)) :
    Unfailing (passes once) := by
  refine mul ?_ (h false)
  rintro log ⟨parts, rfl, all⟩ x mem
  obtain ⟨part, memPart, mem⟩ := List.mem_flatten.1 mem
  exact h true part (all part memPart) x mem

end Unfailing

end Protocol

theorem Element.protocolRun_unfailing {level : Nat} {es : List Element}
    (contents : ∀ (t : Tag) (c : Node), .container t c ∈ es →
      Unfailing (c.protocol (level + 1) : Language (Exchange ε))) :
    Unfailing (Element.protocolRun level es : Language (Exchange ε)) := by
  induction es with
  | nil => exact .one
  | cons e rest ih =>
    have others := ih fun t c mem => contents t c (List.mem_cons_of_mem e mem)
    cases e with
    | leaf l => exact (Unfailing.exchange level (.leaf l) nofun).mul others
    | container t c => exact (Unfailing.nested level t (contents t c List.mem_cons_self)).mul others

theorem Node.protocol_unfailing (level : Nat) (n : Node) :
    Unfailing (n.protocol level : Language (Exchange ε)) := by
  induction n using childrenInduction generalizing level with
  | step n ih =>
    rw [protocol_eq]
    refine .passes fun again => ?_
    refine (Unfailing.negotiation level n.signature none).mul ?_
    refine (Element.protocolRun_unfailing fun t c mem => ?_).mul ?_
    · exact ih t c (List.mem_append_left _ mem) (level + 1)
    refine (Unfailing.exchange level .start nofun).mul ?_
    refine (Element.protocolRun_unfailing fun t c mem => ?_).mul ?_
    · exact ih t c (List.mem_append_right _ mem) (level + 1)
    exact .exchange level .finish nofun

/-- A word cut short by a failure: where the failure is, the word has the same call with another
reply. -/
def CutShort (L : Language (Exchange ε)) (e : ε) (log : List (Exchange ε)) : Prop :=
  ∃ before entry reply after, log = before ++ [⟨entry, .failed e⟩] ∧
    before ++ ⟨entry, reply⟩ :: after ∈ L

/-- A cut word is cut in whatever it is a part of. -/
theorem CutShort.part {L M : Language (Exchange ε)} {e : ε} {log : List (Exchange ε)}
    (h : CutShort L e log) (first last : List (Exchange ε))
    (part : ∀ word ∈ L, first ++ (word ++ last) ∈ M) : CutShort M e (first ++ log) := by
  obtain ⟨before, entry, reply, after, rfl, mem⟩ := h
  refine ⟨first ++ before, entry, reply, after ++ last, by rw [List.append_assoc], ?_⟩
  have whole := part _ mem
  rwa [List.append_assoc, List.cons_append, ← List.append_assoc] at whole

/-- In a word without failures that is cut short, the only failure is the one that cuts it. -/
theorem CutShort.failure_last {L : Language (Exchange ε)} {e e' : ε}
    {log before after : List (Exchange ε)} {x : Exchange ε} (h : CutShort L e log)
    (unfailing : Unfailing L) (split : log = before ++ x :: after) (failed : x.reply = .failed e') :
    after = [] ∧ e' = e := by
  obtain ⟨served, entry, reply, rest, rfl, mem⟩ := h
  rcases List.eq_nil_or_concat after with rfl | ⟨inner, last, rfl⟩
  · obtain ⟨-, same⟩ := List.append_inj' split rfl
    cases same
    exact ⟨rfl, (Reply.failed.inj failed).symm⟩
  · rw [List.concat_eq_append, ← List.cons_append, ← List.append_assoc] at split
    obtain ⟨rfl, -⟩ := List.append_inj' split rfl
    exact absurd failed (unfailing _ mem x (by simp) e')

/-! ## §4 Runs that follow a language -/

namespace Run

variable {α β : Type}

/-- How a run may end for a visitor at a level that had a log: with a value, and a word of the
language for this value added to the log, or with a failure, and a word for some value cut short. -/
inductive Ends (level : Nat) (L : α → Language (Exchange ε)) (log : List (Exchange ε)) :
    EStateM.Result ε (Overheard ε σ) α → Prop where
  | ok {a : α} {word : List (Exchange ε)} {s : σ} (mem : word ∈ L a) :
      Ends level L log (.ok a ⟨level, log ++ word, s⟩)
  | error (a : α) {e : ε} {word : List (Exchange ε)} {s : σ} (short : CutShort (L a) e word) :
      Ends level L log (.error e ⟨level, log ++ word, s⟩)

/-- A run that ends in this way if it ends, where the language has a word for every value. -/
structure Follows (level : Nat) (L : α → Language (Exchange ε))
    (x : Run ε (Overheard ε σ) α) : Prop where
  some_word (a : α) : ∃ word, word ∈ L a
  ends {log : List (Exchange ε)} {s : σ} {r : EStateM.Result ε (Overheard ε σ) α}
    (h : x ⟨level, log, s⟩ = some r) : Ends level L log r

namespace Follows

variable {level : Nat}

theorem pure {a : α} {L : α → Language (Exchange ε)} (some_word : ∀ a, ∃ word, word ∈ L a)
    (empty : [] ∈ L a) : Follows level L (Pure.pure a : Run ε (Overheard ε σ) α) where
  some_word := some_word
  ends {log s r} h := by
    cases h
    have ending : Ends level L log (.ok a ⟨level, log ++ [], s⟩) := .ok empty
    rwa [List.append_nil] at ending

theorem exhausted {L : α → Language (Exchange ε)} (some_word : ∀ a, ∃ word, word ∈ L a) :
    Follows level L (Run.exhausted : Run ε (Overheard ε σ) α) where
  some_word := some_word
  ends h := nomatch h

/-- Runs after each other follow their languages after each other. -/
theorem bind [Inhabited α] [Inhabited β] {L : α → Language (Exchange ε)}
    {M : α → β → Language (Exchange ε)} {K : β → Language (Exchange ε)}
    {x : Run ε (Overheard ε σ) α} {f : α → Run ε (Overheard ε σ) β}
    (h : Follows level L x) (next : ∀ a, Follows level (M a) (f a))
    (both : ∀ a b, ∀ first ∈ L a, ∀ second ∈ M a b, first ++ second ∈ K b) :
    Follows level K (x >>= f) where
  some_word b := by
    obtain ⟨first, hf⟩ := h.some_word default
    obtain ⟨second, hs⟩ := (next default).some_word b
    exact ⟨first ++ second, both _ b first hf second hs⟩
  ends {log s r} run := by
    rcases hx : x ⟨level, log, s⟩ with _ | ⟨a, m⟩ | ⟨e, m⟩
    · rw [bind_none hx] at run
      cases run
    · rw [bind_ok hx] at run
      cases h.ends hx with
      | @ok _ first _ hf =>
        cases (next a).ends run with
        | ok hs =>
          rw [List.append_assoc]
          exact .ok (both a _ first hf _ hs)
        | error b short =>
          rw [List.append_assoc]
          refine .error b (short.part first [] fun second hs => ?_)
          rw [List.append_nil]
          exact both a b first hf second hs
    · rw [bind_error hx] at run
      cases run
      cases h.ends hx with
      | error a short =>
        -- what was still to come is cut off, whichever value it would have had
        obtain ⟨second, hs⟩ := (next a).some_word default
        exact .error default
          (short.part [] second fun first hf => both a default first hf second hs)

/-- Two runs without a value follow the product of their languages. -/
theorem andThen [Inhabited β] {L : Language (Exchange ε)} {M : β → Language (Exchange ε)}
    {x : Run ε (Overheard ε σ) Unit} {y : Run ε (Overheard ε σ) β}
    (h : Follows level (fun _ => L) x) (next : Follows level M y) :
    Follows level (fun b => L * M b) (x >>= fun _ => y) :=
  h.bind (fun _ => next) fun _ _ _ hf _ hs => Language.append_mem_mul hf hs

/-- A step that is overheard is one exchange. -/
theorem hearing [Inhabited α] (level : Nat) (e : Event) (reply : α → Reply ε)
    (x : EStateM ε σ α) :
    Follows level (fun a => exchange level e (reply a)) (.step (Visitor.hearing e reply x)) where
  some_word _ := ⟨_, rfl⟩
  ends {log s r} h := by
    obtain rfl := Option.some.inj h
    rw [Visitor.hearing]
    cases x s with
    | ok a s' => exact .ok rfl
    | error err s' => exact .error default ⟨[], _, reply default, [], rfl, rfl⟩

theorem repeatWhile {once : Bool → Language (Exchange ε)} {x : Run ε (Overheard ε σ) Bool}
    (h : Follows level once x) (limit : Nat) :
    Follows level (fun _ => passes once) (Run.repeatWhile limit x) := by
  have last : ∀ word ∈ once false, word ∈ passes once := fun word mem =>
    Language.append_mem_mul (Language.nil_mem_kstar _) mem
  have further : ∀ first ∈ once true, ∀ rest ∈ passes once, first ++ rest ∈ passes once := by
    rintro first hf rest ⟨several, ⟨parts, rfl, all⟩, word, hw, rfl⟩
    rw [← List.append_assoc, ← List.flatten_cons]
    exact Language.append_mem_mul (Language.join_mem_kstar (List.forall_mem_cons.2 ⟨hf, all⟩)) hw
  have some_word : ∃ word, word ∈ passes once := (h.some_word false).imp last
  induction limit with
  | zero => exact exhausted fun _ => some_word
  | succ limit ih =>
    refine h.bind (M := fun again _ => if again then passes once else 1) (fun again => ?_) ?_
    · cases again with
      | false => exact pure (fun _ => ⟨[], rfl⟩) rfl
      | true => exact ih
    · intro again _ first hf rest hr
      cases again with
      | false =>
        rw [(Language.mem_one rest).1 hr, List.append_nil]
        exact last first hf
      | true => exact further first hf rest hr

end Follows

end Run

namespace Visitor

variable (v : Visitor ε σ) {level : Nat}

theorem negotiate_follows (signature : Nat → String) (limit : Nat) (asked : Option String) :
    Run.Follows level (fun _ => negotiation level signature asked)
      (v.overheard.negotiate signature limit asked) := by
  induction limit generalizing asked with
  | zero => exact .exhausted fun _ => ⟨_, [], nofun, rfl⟩
  | succ limit ih =>
    refine (Run.Follows.hearing level (.elementTypes asked) .depth (v.elementTypes asked)).bind
      (M := fun d _ => if d = 0 then 1 else negotiation level signature (some (signature d)))
      (fun d => ?_) ?_
    · by_cases hd : d = 0
      · simp only [if_pos hd]
        exact .pure (fun _ => ⟨[], rfl⟩) rfl
      · simp only [if_neg hd]
        exact ih (some (signature d))
    · rintro d _ first rfl rest hr
      by_cases hd : d = 0
      · rw [if_pos hd] at hr
        rw [(Language.mem_one rest).1 hr, hd]
        exact ⟨[], nofun, rfl⟩
      · rw [if_neg hd] at hr
        obtain ⟨depths, nonzero, rfl⟩ := hr
        exact ⟨d :: depths, List.forall_mem_cons.2 ⟨hd, nonzero⟩, rfl⟩

theorem within_follows (t : Tag) {L : Language (Exchange ε)}
    {x : Run ε (Overheard ε σ) Unit} (h : Run.Follows (level + 1) (fun _ => L) x) :
    Run.Follows level (fun _ => nested level t L) (v.overheard.within t x) where
  some_word _ := ⟨_, .inl rfl⟩
  ends {log s r} run := by
    rcases v.overheard_within t x ⟨level, log, s⟩ with
      ⟨s', passed⟩ | ⟨e, s', refused⟩ | ⟨child, s', entered⟩
    · rw [passed] at run
      cases run
      exact .ok (.inl rfl)
    · rw [refused] at run
      cases run
      exact .error () ⟨[], _, .passedOver, [], rfl, .inl rfl⟩
    · rw [entered, Option.map_eq_some_iff] at run
      obtain ⟨inside, hx, rfl⟩ := run
      cases h.ends hx with
      | ok mem =>
        simp only [seenResult, List.append_assoc]
        exact .ok (.inr (Language.append_mem_mul rfl mem))
      | error _ short =>
        simp only [seenResult, List.append_assoc]
        refine .error () (short.part [_] [] fun word mem => ?_)
        rw [List.append_nil]
        exact .inr (Language.append_mem_mul rfl mem)

end Visitor

/-! ## §5 Traversals -/

theorem Element.acceptRun_follows (v : Visitor ε σ) (limit : Nat) {level : Nat}
    {es : List Element}
    (contents : ∀ (t : Tag) (c : Node), .container t c ∈ es →
      Run.Follows (level + 1) (fun _ => c.protocol (level + 1)) (c.accept v.overheard limit)) :
    Run.Follows level (fun _ => Element.protocolRun level es)
      (Element.acceptRun v.overheard limit es) := by
  induction es with
  | nil => exact .pure (fun _ => ⟨[], rfl⟩) rfl
  | cons e rest ih =>
    have others := ih fun t c mem => contents t c (List.mem_cons_of_mem e mem)
    rw [acceptRun_cons]
    cases e with
    | leaf l =>
      rw [accept_leaf]
      exact (Run.Follows.hearing level (.leaf l) (fun _ => .done) (v.leaf l)).andThen others
    | container t c =>
      rw [accept_container]
      exact (v.within_follows t (contents t c List.mem_cons_self)).andThen others

namespace Node

/-- Traversals follow the protocol. -/
theorem accept_follows (v : Visitor ε σ) (limit level : Nat) (n : Node) :
    Run.Follows level (fun _ => n.protocol level) (n.accept v.overheard limit) := by
  induction n using childrenInduction generalizing level with
  | step n ih =>
    rw [accept_eq, protocol_eq]
    refine Run.Follows.repeatWhile ?_ limit
    refine (v.negotiate_follows n.signature limit none).andThen ?_
    refine (Element.acceptRun_follows v limit fun t c mem => ?_).andThen ?_
    · exact ih t c (List.mem_append_left _ mem) (level + 1)
    refine (Run.Follows.hearing level .start (fun _ => .done) v.start).andThen ?_
    refine (Element.acceptRun_follows v limit fun t c mem => ?_).andThen ?_
    · exact ih t c (List.mem_append_right _ mem) (level + 1)
    exact .hearing level .finish .again v.finish

/-- A traversal that is overheard is the same under a greater limit, when only the calls are
recorded, and when nothing is. -/
theorem accept_of_overheard {v : Visitor ε σ} {n : Node} {limit : Nat} {o : Overheard ε σ}
    {r : EStateM.Result ε (Overheard ε σ) Unit} (heard : n.accept v.overheard limit o = some r)
    {limit' : Nat} (le : limit ≤ limit') :
    n.accept v limit' o.state = some (seenResult id Overheard.state r) ∧
      n.accept v.overheard limit' o = some r ∧
      n.accept v.recorded limit' o.recorded = some (seenResult id Overheard.recorded r) := by
  have heard' := accept_mono v.overheard le n o r heard
  have plain := n.accept_seenThrough v.overheard_seenThrough limit' o
  have recorded := n.accept_seenThrough v.overheard_recorded limit' o
  rw [heard'] at plain recorded
  exact ⟨plain.symm, heard', recorded.symm⟩

/-- Whatever a visitor replies: if a traversal returns, what was said is a word of the protocol, or
if it returns a failure, a word cut short by this failure; a failure is the last thing said, and
is what the traversal returns. Neither overhearing nor a greater limit makes a difference. -/
theorem accept_follows_protocol (v : Visitor ε σ) (n : Node) {limit : Nat} {s : σ}
    {r : EStateM.Result ε σ Unit} (returns : n.accept v limit s = some r) :
    ∃ log : List (Exchange ε),
      (∀ limit', limit ≤ limit' →
        n.accept v limit' s = some r ∧
        n.accept v.overheard limit' ⟨0, [], s⟩ = some (seenResult id (⟨0, log, ·⟩) r) ∧
        n.accept v.recorded limit' ⟨0, [], s⟩ =
          some (seenResult id (⟨0, (log.map Exchange.toEntry).reverse, ·⟩) r)) ∧
      (∀ s', r = .ok () s' → log ∈ n.protocol 0) ∧
      (∀ e s', r = .error e s' → CutShort (n.protocol 0) e log) ∧
      ∀ before x after e, log = before ++ x :: after → x.reply = .failed e →
        after = [] ∧ ∃ s', r = .error e s' := by
  have seen := n.accept_seenThrough v.overheard_seenThrough limit ⟨0, [], s⟩
  rw [returns, Option.map_eq_some_iff] at seen
  obtain ⟨r', heard, rfl⟩ := seen
  cases (n.accept_follows v limit 0).ends heard with
  | @ok _ log s' mem =>
    refine ⟨log, fun limit' le => accept_of_overheard heard le, fun _ _ => mem, nofun,
      fun before x after e split failed => ?_⟩
    exact absurd failed (n.protocol_unfailing 0 log mem x (by simp [split]) e)
  | @error _ e log s' short =>
    refine ⟨log, fun limit' le => accept_of_overheard heard le, nofun, fun _ _ same => ?_,
      fun before x after e' split failed => ?_⟩
    · cases same
      exact short
    · obtain ⟨last, rfl⟩ := short.failure_last (n.protocol_unfailing 0) split failed
      exact ⟨last, s', rfl⟩

/-- A visitor that asks for one signature of each node, passes over headlines and has what it enters
read twice, until a call on the inside fails. -/
theorem accept_follows_protocol_footnote :
    let n : Node := ⟨[⟨1, ⟨[], [.leaf (.text "Sea")], true⟩⟩],
      [.container .footnote ⟨[], [.leaf (.text "lake")], true⟩], true⟩
    let k : Script := ⟨[1], fun t => t == .headline 1, [0, 1], some 10⟩
    let e : Error := .illegalState (.refused "recorder")
    let said : List (Exchange Error) :=
      [⟨⟨0, .elementTypes none⟩, .depth 1⟩, ⟨⟨0, .elementTypes (some "hf")⟩, .depth 0⟩,
        ⟨⟨0, .enter (.headline 1)⟩, .passedOver⟩, ⟨⟨0, .start⟩, .done⟩,
        ⟨⟨0, .enter .footnote⟩, .entered⟩,
        ⟨⟨1, .elementTypes none⟩, .depth 1⟩, ⟨⟨1, .elementTypes (some "t")⟩, .depth 0⟩,
        ⟨⟨1, .start⟩, .done⟩, ⟨⟨1, .leaf (.text "lake")⟩, .done⟩, ⟨⟨1, .finish⟩, .again true⟩,
        ⟨⟨1, .elementTypes none⟩, .failed e⟩]
    n.accept k.visitor 3 .start = some (.error e ⟨11, 0, 2, 0⟩) ∧
      n.accept k.visitor.overheard 3 ⟨0, [], .start⟩ = some (.error e ⟨0, said, ⟨11, 0, 2, 0⟩⟩) ∧
      CutShort (n.protocol 0) e said := by
  intro n k e said
  have returns : n.accept k.visitor 3 .start = some (.error e ⟨11, 0, 2, 0⟩) := by decide +kernel
  have heard : n.accept k.visitor.overheard 3 ⟨0, [], .start⟩ =
      some (.error e ⟨0, said, ⟨11, 0, 2, 0⟩⟩) := by decide +kernel
  obtain ⟨log, same, -, short, -⟩ := accept_follows_protocol k.visitor n returns
  have heard' := (same 3 le_rfl).2.1
  rw [heard, Option.some_inj] at heard'
  obtain rfl : said = log := congrArg Overheard.log (EStateM.Result.error.inj heard').2
  exact ⟨returns, heard, short e _ rfl⟩

end Node

end ScriptureText
