/-
ScriptureText.Pattern — the patterns that element fields have to match. A
pattern is written in messages as an anchored regular expression (`anchored`)
and decided by the set of patterns that remain to be matched after each
character (`advance`, `accepts`).
-/
import ScriptureText.Unicode.Letter

namespace ScriptureText

/-! ## §1 Character classes -/

/-- A general category that a class may name. -/
inductive Category where
  | control | letter | uppercase | titlecase
  deriving DecidableEq, Repr

namespace Category

/-- Membership of a character. -/
def contains : Category → Char → Bool
  | .control => Unicode.isControl
  | .letter => Unicode.isLetter
  | .uppercase => Unicode.isUppercase
  | .titlecase => Unicode.isTitlecase

/-- Short name of the category in the Unicode standard. -/
def symbol : Category → String
  | .control => "Cc"
  | .letter => "L"
  | .uppercase => "Lu"
  | .titlecase => "Lt"

end Category

/-- One item of a bracketed class. -/
inductive ClassItem where
  | char (c : Char)
  | range (lo hi : Char)
  | category (k : Category)
  deriving DecidableEq, Repr

namespace ClassItem

/-- Membership of a character. -/
def contains : ClassItem → Char → Bool
  | .char a, c => a == c
  | .range lo hi, c => lo.toNat ≤ c.toNat && c.toNat ≤ hi.toNat
  | .category k, c => k.contains c

/-- The item as written between the brackets. -/
def render : ClassItem → String
  | .char c => c.toString
  | .range lo hi => lo.toString ++ "-" ++ hi.toString
  | .category k => "\\p\x7b" ++ k.symbol ++ "\x7d"

end ClassItem

/-- A bracketed class: any of its items, or, when negated, none of them. -/
structure CharClass where
  items : List ClassItem
  negated : Bool
  deriving DecidableEq, Repr

namespace CharClass

/-- Membership of a character. -/
def contains (k : CharClass) (c : Char) : Bool :=
  (k.items.any (·.contains c)) != k.negated

/-- The class with its brackets. -/
def render (k : CharClass) : String :=
  "[" ++ (if k.negated then "^" else "") ++ String.join (k.items.map ClassItem.render) ++ "]"

end CharClass

/-! ## §2 Patterns -/

/-- A pattern over characters. -/
inductive Pattern where
  | literal (cs : List Char)
  | oneOf (k : CharClass)
  | seq (a b : Pattern)
  | either (a b : Pattern)
  | opt (a : Pattern)
  | many (a : Pattern)
  | oneOrMore (a : Pattern)
  | times (n : Nat) (a : Pattern)
  deriving DecidableEq, Repr

namespace Pattern

instance : Append Pattern := ⟨seq⟩
instance : OrOp Pattern := ⟨either⟩

/-- The text `s` itself. -/
def word (s : String) : Pattern := literal s.toList

/-- One of the given texts. -/
def anyOf : List String → Pattern
  | [] => literal []
  | [s] => word s
  | s :: rest => word s ||| anyOf rest

/-- A class of the listed characters. -/
def chars (s : String) : Pattern := oneOf ⟨s.toList.map .char, false⟩

/-- A class of one range. -/
def range (lo hi : Char) : Pattern := oneOf ⟨[.range lo hi], false⟩

/-! ## §3 Written form -/

/-- A pattern in a group that captures nothing. -/
def group (s : String) : String := "(?:" ++ s ++ ")"

/-- What a part of a pattern stands next to. -/
inductive Place where
  | alone | sequence | repetition
  deriving DecidableEq, Repr

/-- A pattern at a place: alternatives are grouped in a sequence, and all but
a class are grouped before a repetition. -/
def renderAt : Place → Pattern → String
  | _, .oneOf k => k.render
  | place, .literal cs => wrap (place = .repetition) (String.ofList cs)
  | place, .seq a b => wrap (place = .repetition) (renderAt .sequence a ++ renderAt .sequence b)
  | place, .either a b => wrap (place ≠ .alone) (renderAt .alone a ++ "|" ++ renderAt .alone b)
  | place, .opt a => wrap (place = .repetition) (renderAt .repetition a ++ "?")
  | place, .many a => wrap (place = .repetition) (renderAt .repetition a ++ "*")
  | place, .oneOrMore a => wrap (place = .repetition) (renderAt .repetition a ++ "+")
  | place, .times n a =>
    wrap (place = .repetition) (renderAt .repetition a ++ "\x7b" ++ toString n ++ "\x7d")
where
  /-- A group where one is needed. -/
  wrap (needed : Bool) (s : String) : String := if needed then group s else s

/-- The pattern as a regular expression. -/
def render (p : Pattern) : String := renderAt .alone p

/-- The expression that matches whole strings only. -/
def anchored (p : Pattern) : String := "^" ++ group p.render ++ "$"

/-! ## §4 Matching -/

/-- Whether the empty text matches. -/
def nullable : Pattern → Bool
  | .literal cs => cs.isEmpty
  | .oneOf _ => false
  | .seq a b => a.nullable && b.nullable
  | .either a b => a.nullable || b.nullable
  | .opt _ => true
  | .many _ => true
  | .oneOrMore a => a.nullable
  | .times n a => n == 0 || a.nullable

/-- The patterns of which one has to match the rest of a text that starts with `c`. -/
def step (c : Char) : Pattern → List Pattern
  | .literal [] => []
  | .literal (d :: ds) => if d = c then [.literal ds] else []
  | .oneOf k => if k.contains c then [.literal []] else []
  | .seq a b => (step c a).map (.seq · b) ++ if a.nullable then step c b else []
  | .either a b => step c a ++ step c b
  | .opt a => step c a
  | .many a => (step c a).map (.seq · (.many a))
  | .oneOrMore a => (step c a).map (.seq · (.many a))
  | .times 0 _ => []
  | .times (n + 1) a => (step c a).map (.seq · (.times n a))

/-- One character read from each of the open possibilities; equal ones are kept once. -/
def advance (states : List Pattern) (c : Char) : List Pattern :=
  (states.flatMap (step c)).eraseDups

/-- Whether a whole text matches. -/
def acceptsList (p : Pattern) (cs : List Char) : Bool :=
  (cs.foldl advance [p]).any nullable

/-- Whether a whole string matches. -/
def accepts (p : Pattern) (s : String) : Bool := p.acceptsList s.toList

end Pattern

end ScriptureText
