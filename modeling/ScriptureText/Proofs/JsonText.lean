/-
ScriptureText.Proofs.JsonText — what is written as JSON is read back.

`Json.parse_pretty` says that the text of a value, read as JSON, is the tree of
that value with nothing behind it. The proof follows the two steps of reading.
A text is cut into chunks that turn into tokens whatever stands behind them
(`Lexes`), which holds of strings because every escape is undone
(`scanString_escapeChar`); and the tokens of a value make its tree
(`takeValue_lexemes`), for which twice as much fuel as there are tokens is
enough.

Numbers are left out: where a number ends depends on what stands behind it, so
that its text is no chunk.
-/
import Mathlib.Tactic.SplitIfs
import ScriptureText.Json.Tree

namespace ScriptureText.Json

/-! ## §1 Strings -/

/-- A character is written as a letter after a backslash, by its number, or as it is. -/
theorem escapeChar_cases (c : Char) :
    (∃ e, e ≠ 'u' ∧ escaped? e = some c ∧ escapeChar c = ['\\', e]) ∨
      (c.toNat < 0x20 ∧ escapeChar c =
        ['\\', 'u', '0', '0', hexDigit (c.toNat / 16), hexDigit (c.toNat % 16)]) ∨
      (c ≠ '"' ∧ c ≠ '\\' ∧ 0x20 ≤ c.toNat ∧ escapeChar c = [c]) := by
  unfold escapeChar
  split_ifs with quote backslash backspace feed newline ret tab control
  · exact .inl ⟨'"', by decide, by rw [quote]; rfl, rfl⟩
  · exact .inl ⟨'\\', by decide, by rw [backslash]; rfl, rfl⟩
  · exact .inl ⟨'b', by decide, by rw [backspace]; rfl, rfl⟩
  · exact .inl ⟨'f', by decide, by rw [feed]; rfl, rfl⟩
  · exact .inl ⟨'n', by decide, by rw [newline]; rfl, rfl⟩
  · exact .inl ⟨'r', by decide, by rw [ret]; rfl, rfl⟩
  · exact .inl ⟨'t', by decide, by rw [tab]; rfl, rfl⟩
  · exact .inr (.inl ⟨control, rfl⟩)
  · exact .inr (.inr ⟨quote, backslash, Nat.not_lt.1 control, rfl⟩)

/-- The two digits that are written for a control character give its number. -/
theorem hexUnit?_hexDigit : ∀ n < 0x20,
    hexUnit? '0' '0' (hexDigit (n / 16)) (hexDigit (n % 16)) = some n := by decide

/-- A piece that stands for one character, whatever comes behind it. -/
def Piece.Gives (p : Piece) (c : Char) : Prop :=
  ∀ rest, joinPieces (.ok ()) (p :: rest) = (joinPieces (.ok ()) rest).map (c :: ·)

theorem Piece.gives_char (c : Char) : (Piece.char c).Gives c := by
  intro rest
  rw [joinPieces]
  cases joinPieces (.ok ()) rest <;> rfl

/-- The number of a control character is no half of a pair. -/
theorem Piece.gives_unit {c : Char} (h : c.toNat < 0x20) : (Piece.unit c.toNat).Gives c := by
  intro rest
  have low : isLowSurrogate c.toNat = false := by
    simp [isLowSurrogate]
    omega
  have high : isHighSurrogate c.toNat = false := by
    simp [isHighSurrogate]
    omega
  rw [joinPieces.eq_def]
  simp only [low, high, Bool.false_eq_true, if_false, Char.ofNat_toNat]
  cases joinPieces (.ok ()) rest <;> rfl

/-- What is written for a character is one piece that stands for it. -/
theorem scanString_escapeChar (c : Char) (rest : List Char) :
    ∃ p : Piece, p.Gives c ∧
      scanString (escapeChar c ++ rest) = (p :: (scanString rest).1, (scanString rest).2) := by
  rcases escapeChar_cases c with ⟨e, other, stands, written⟩ | ⟨control, written⟩ |
    ⟨quote, backslash, visible, written⟩
  · refine ⟨.char c, Piece.gives_char c, ?_⟩
    rw [written]
    show scanString ('\\' :: e :: rest) = _
    rw [scanString, stands]
    exact other
  · refine ⟨.unit c.toNat, Piece.gives_unit control, ?_⟩
    rw [written]
    show scanString ('\\' :: 'u' :: '0' :: '0' :: _ :: _ :: rest) = _
    rw [scanString, hexUnit?_hexDigit _ control]
  · refine ⟨.char c, Piece.gives_char c, ?_⟩
    rw [written]
    show scanString (c :: rest) = _
    rw [scanString, if_neg (Nat.not_lt.2 visible)]
    all_goals simp_all

/-- A string is read to its closing quote. -/
theorem scanString_flatMap (cs rest : List Char) :
    ∃ pieces, scanString (cs.flatMap escapeChar ++ '"' :: rest) = (pieces, .ok rest) ∧
      joinPieces (.ok ()) pieces = .ok cs := by
  induction cs with
  | nil => exact ⟨[], rfl, rfl⟩
  | cons c cs ih =>
    obtain ⟨pieces, scanned, joined⟩ := ih
    obtain ⟨p, gives, first⟩ := scanString_escapeChar c (cs.flatMap escapeChar ++ '"' :: rest)
    rw [List.flatMap_cons, List.append_assoc, first, scanned]
    exact ⟨p :: pieces, rfl, by rw [gives, joined]; rfl⟩

/-- A string is read back as itself. -/
theorem stringToken_stringChars (s : String) (rest : List Char) :
    stringToken (s.toList.flatMap escapeChar ++ '"' :: rest) = (.string (.ok s), rest) := by
  obtain ⟨pieces, scanned, joined⟩ := scanString_flatMap s.toList rest
  rw [stringToken, scanned]
  show (Token.string ((joinPieces (.ok ()) pieces).map String.ofList), rest) = _
  rw [joined]
  show (Token.string (.ok (String.ofList s.toList)), rest) = _
  rw [String.ofList_toList]

/-! ## §2 Chunks -/

/-- A chunk of text that turns into some tokens, whatever stands behind it. -/
def Lexes (cs : List Char) (ts : List Token) : Prop :=
  ∀ rest fuel, (cs ++ rest).length ≤ fuel → ∃ fuel', rest.length ≤ fuel' ∧
    tokensWithin fuel (cs ++ rest) = ts ++ tokensWithin fuel' rest

namespace Lexes

theorem nil : Lexes [] [] := fun _ fuel le => ⟨fuel, le, rfl⟩

theorem append {cs cs' : List Char} {ts ts' : List Token} (h : Lexes cs ts) (h' : Lexes cs' ts') :
    Lexes (cs ++ cs') (ts ++ ts') := by
  intro rest fuel le
  rw [List.append_assoc] at le ⊢
  obtain ⟨fuel', le', first⟩ := h (cs' ++ rest) fuel le
  obtain ⟨fuel'', le'', others⟩ := h' rest fuel' le'
  exact ⟨fuel'', le'', by rw [first, others, List.append_assoc]⟩

theorem space {c : Char} (h : isSpace c = true) : Lexes [c] [] := by
  intro rest fuel le
  obtain ⟨fuel, rfl⟩ : ∃ n, fuel = n + 1 := ⟨fuel - 1, by simp at le; omega⟩
  refine ⟨fuel, by simpa using le, ?_⟩
  rw [List.singleton_append, tokensWithin, if_pos h]
  rfl

theorem token {c : Char} {cs : List Char} {t : Token} (visible : isSpace c = false)
    (h : ∀ rest, nextToken c (cs ++ rest) = (t, rest)) : Lexes (c :: cs) [t] := by
  intro rest fuel le
  obtain ⟨fuel, rfl⟩ : ∃ n, fuel = n + 1 := ⟨fuel - 1, by simp at le; omega⟩
  refine ⟨fuel, by simp at le; omega, ?_⟩
  rw [List.cons_append, tokensWithin, visible, h]
  rfl

theorem mark {c : Char} {t : Token} (visible : isSpace c = false)
    (h : ∀ rest, nextToken c rest = (t, rest)) : Lexes [c] [t] := token visible h

theorem spaces (n : Nat) : Lexes (List.replicate n ' ') [] := by
  induction n with
  | zero => exact nil
  | succ n ih => exact (space (c := ' ') rfl).append ih

theorem newline (depth : Nat) : Lexes (Json.newline depth) [] :=
  (space (c := '\n') rfl).append (spaces _)

theorem string (s : String) : Lexes (stringChars s) [.string (.ok s)] := by
  refine token rfl fun rest => ?_
  rw [List.append_eq, List.append_assoc]
  exact stringToken_stringChars s rest

theorem comma : Lexes [','] [.comma] := mark rfl fun _ => rfl

theorem colon : Lexes [':', ' '] [.colon] :=
  (mark (c := ':') rfl fun _ => rfl).append (space rfl)

/-- A key and its value, after something else. -/
theorem member {cs vs : List Char} {ts us : List Token} (h : Lexes cs ts) (k : String)
    (value : Lexes vs us) : Lexes (cs ++ stringChars k ++ [':', ' '] ++ vs)
      (ts ++ .string (.ok k) :: .colon :: us) := by
  rw [List.append_cons ts, List.append_cons (ts ++ _)]
  exact ((h.append (string k)).append colon).append value

end Lexes

mutual

/-- The tokens of a value. -/
def lexemes : Json → List Token
  | .null => [.null]
  | .bool b => [.bool b]
  | .number text => [.number (Number.ofText? text)]
  | .string s => [.string (.ok s)]
  | .array [] => [.openArray, .closeArray]
  | .array (item :: rest) => .openArray :: lexemes item ++ itemLexemes rest
  | .object [] => [.openObject, .closeObject]
  | .object ((k, v) :: rest) =>
    .openObject :: .string (.ok k) :: .colon :: lexemes v ++ memberLexemes rest

/-- The tokens of further items of an array, to its end. -/
def itemLexemes : List Json → List Token
  | [] => [.closeArray]
  | item :: rest => .comma :: lexemes item ++ itemLexemes rest

/-- The tokens of further members of an object, to its end. -/
def memberLexemes : List (String × Json) → List Token
  | [] => [.closeObject]
  | (k, v) :: rest => .comma :: .string (.ok k) :: .colon :: lexemes v ++ memberLexemes rest

end

mutual

/-- Whether a value has no number in it. -/
def numberless : Json → Bool
  | .number _ => false
  | .array items => numberlessItems items
  | .object members => numberlessMembers members
  | _ => true

/-- Whether no item has a number in it. -/
def numberlessItems : List Json → Bool
  | [] => true
  | item :: rest => numberless item && numberlessItems rest

/-- Whether no member has a number in it. -/
def numberlessMembers : List (String × Json) → Bool
  | [] => true
  | (_, v) :: rest => numberless v && numberlessMembers rest

end

mutual

/-- The text of a value is a chunk that turns into its tokens. -/
theorem lexes_prettyChars (depth : Nat) :
    ∀ j : Json, numberless j = true → Lexes (prettyChars depth j) (lexemes j)
  | .null, _ => .token rfl fun _ => rfl
  | .bool true, _ => .token rfl fun _ => rfl
  | .bool false, _ => .token rfl fun _ => rfl
  | .number _, h => by cases h
  | .string s, _ => .string s
  | .array [], _ => .append (.mark rfl fun _ => rfl) (.mark rfl fun _ => rfl)
  | .array (item :: rest), h => by
    rw [numberless, numberlessItems, Bool.and_eq_true] at h
    have start : Lexes ('[' :: newline (depth + 1)) [.openArray] :=
      .append (.mark rfl fun _ => rfl) (.newline _)
    rw [prettyChars, lexemes]
    exact (start.append (lexes_prettyChars (depth + 1) item h.1)).append
      (lexes_prettyItems depth rest h.2)
  | .object [], _ => .append (.mark rfl fun _ => rfl) (.mark rfl fun _ => rfl)
  | .object ((k, v) :: rest), h => by
    rw [numberless, numberlessMembers, Bool.and_eq_true] at h
    have start : Lexes ('\x7b' :: newline (depth + 1)) [.openObject] :=
      .append (.mark rfl fun _ => rfl) (.newline _)
    rw [prettyChars, lexemes]
    exact (start.member k (lexes_prettyChars (depth + 1) v h.1)).append
      (lexes_prettyMembers depth rest h.2)

theorem lexes_prettyItems (depth : Nat) : ∀ items : List Json, numberlessItems items = true →
    Lexes (prettyItems depth items) (itemLexemes items)
  | [], _ => .append (.newline depth) (.mark rfl fun _ => rfl)
  | item :: rest, h => by
    rw [numberlessItems, Bool.and_eq_true] at h
    rw [prettyItems, itemLexemes]
    exact ((Lexes.comma.append (.newline _)).append (lexes_prettyChars (depth + 1) item h.1)).append
      (lexes_prettyItems depth rest h.2)

theorem lexes_prettyMembers (depth : Nat) : ∀ members : List (String × Json),
    numberlessMembers members = true →
      Lexes (prettyMembers depth members) (memberLexemes members)
  | [], _ => .append (.newline depth) (.mark rfl fun _ => rfl)
  | (k, v) :: rest, h => by
    rw [numberlessMembers, Bool.and_eq_true] at h
    rw [prettyMembers, memberLexemes]
    exact ((Lexes.comma.append (.newline _)).member k (lexes_prettyChars (depth + 1) v h.1)).append
      (lexes_prettyMembers depth rest h.2)

end

/-! ## §3 Trees of tokens -/

/-- No value starts with the end of an array. -/
theorem lexemes_eq_cons : ∀ j : Json, ∃ t ts, lexemes j = t :: ts ∧ t ≠ .closeArray
  | .null => ⟨.null, _, rfl, nofun⟩
  | .bool b => ⟨.bool b, _, rfl, nofun⟩
  | .number text => ⟨.number (Number.ofText? text), _, rfl, nofun⟩
  | .string s => ⟨.string (.ok s), _, rfl, nofun⟩
  | .array [] => ⟨.openArray, _, rfl, nofun⟩
  | .array (_ :: _) => ⟨.openArray, _, rfl, nofun⟩
  | .object [] => ⟨.openObject, _, rfl, nofun⟩
  | .object ((_, _) :: _) => ⟨.openObject, _, rfl, nofun⟩

/-- The tokens of an array with items in it. -/
theorem takeValue_openArray {fuel : Nat} {ts rest : List Token} {items : List Tree}
    {ending : Ending} (start : ∃ t us, ts = t :: us ∧ t ≠ .closeArray)
    (taken : takeItems fuel ts = (items, ending, rest)) :
    takeValue (fuel + 1) (.openArray :: ts) = (.array items ending, rest) := by
  obtain ⟨t, us, rfl, other⟩ := start
  rw [takeValue, taken]
  · rintro us' heq
    cases heq
    exact other rfl
  · exact nofun

/-- The tokens of an object with members in it. -/
theorem takeValue_openObject {fuel : Nat} {k : Except Cause String} {ts rest : List Token}
    {members : List Member} {ending : Ending}
    (taken : takeMembers fuel (.string k :: ts) = (members, ending, rest)) :
    takeValue (fuel + 1) (.openObject :: .string k :: ts) = (.object members ending, rest) := by
  rw [takeValue, taken]
  exact nofun

mutual

/-- The tokens of a value make its tree, given fuel for two steps with each. -/
theorem takeValue_lexemes : ∀ (j : Json) (fuel : Nat) (rest : List Token),
    2 * (lexemes j).length ≤ fuel → takeValue fuel (lexemes j ++ rest) = (tree j, rest)
  | .null, fuel + 1, rest, _ => rfl
  | .bool b, fuel + 1, rest, _ => rfl
  | .number text, fuel + 1, rest, _ => rfl
  | .string s, fuel + 1, rest, _ => rfl
  | .array [], fuel + 1, rest, _ => rfl
  | .array (item :: items), fuel + 1, rest, le => by
    rw [lexemes, List.cons_append, List.length_cons] at le
    rw [lexemes, List.cons_append, List.cons_append]
    refine takeValue_openArray ?_ (takeItems_lexemes item items fuel rest (by omega))
    obtain ⟨t, ts, first, other⟩ := lexemes_eq_cons item
    rw [first]
    exact ⟨t, _, rfl, other⟩
  | .object [], fuel + 1, rest, _ => rfl
  | .object ((k, v) :: members), fuel + 1, rest, le => by
    rw [lexemes, List.cons_append, List.length_cons] at le
    rw [lexemes, List.cons_append, List.cons_append]
    exact takeValue_openObject (takeMembers_lexemes k v members fuel rest (by omega))
  | j, 0, rest, le => by
    obtain ⟨t, ts, first, -⟩ := lexemes_eq_cons j
    rw [first] at le
    cases le

theorem takeItems_lexemes : ∀ (item : Json) (items : List Json) (fuel : Nat) (rest : List Token),
    2 * (lexemes item ++ itemLexemes items).length < fuel →
      takeItems fuel (lexemes item ++ itemLexemes items ++ rest) =
        (tree item :: trees items, .closed, rest)
  | item, [], fuel + 1, rest, lt => by
    rw [itemLexemes, List.length_append, List.length_singleton] at lt
    rw [itemLexemes, List.append_assoc, takeItems, takeValue_lexemes item fuel _ (by omega)]
    rfl
  | item, next :: items, fuel + 1, rest, lt => by
    rw [itemLexemes, List.cons_append, List.length_append, List.length_cons] at lt
    have others := takeItems_lexemes next items fuel rest (by omega)
    rw [itemLexemes, List.append_assoc, takeItems, takeValue_lexemes item fuel _ (by omega)]
    simp only [List.cons_append, others]
    rfl

theorem takeMembers_lexemes : ∀ (k : String) (v : Json) (members : List (String × Json))
    (fuel : Nat) (rest : List Token),
    2 * (.string (.ok k) :: .colon :: lexemes v ++ memberLexemes members : List Token).length <
        fuel →
      takeMembers fuel (.string (.ok k) :: .colon :: lexemes v ++ memberLexemes members ++ rest) =
        (⟨.ok k, tree v⟩ :: memberTrees members, .closed, rest)
  | k, v, [], fuel + 1, rest, lt => by
    simp only [memberLexemes, List.cons_append, List.length_append, List.length_cons,
      List.length_nil] at lt
    rw [memberLexemes, List.append_assoc, List.cons_append, List.cons_append, takeMembers,
      takeValue_lexemes v fuel _ (by omega)]
    rfl
  | k, v, (k', v') :: members, fuel + 1, rest, lt => by
    simp only [memberLexemes, List.cons_append, List.length_append, List.length_cons] at lt
    have others := takeMembers_lexemes k' v' members fuel rest
      (by simp only [List.cons_append, List.length_append, List.length_cons]; omega)
    rw [memberLexemes, List.append_assoc, List.cons_append, List.cons_append, takeMembers,
      takeValue_lexemes v fuel _ (by omega)]
    simp only [List.cons_append] at others ⊢
    rw [others]
    rfl

end

/-! ## §4 Texts -/

/-- The tokens of a text that is a chunk. -/
theorem tokens_eq {cs : List Char} {ts : List Token} (h : Lexes cs ts) : tokens cs = ts := by
  obtain ⟨fuel, -, lexed⟩ := h [] cs.length (by simp)
  have none : tokensWithin fuel [] = [] := by cases fuel <;> rfl
  rw [List.append_nil, none, List.append_nil] at lexed
  exact lexed

/-- The text of a value is read as the tree of the value, with nothing behind it. -/
theorem parse_pretty {j : Json} (h : numberless j = true) : parse j.pretty = (tree j, false) := by
  have taken := takeValue_lexemes j (2 * (lexemes j).length + 1) [] (Nat.le_succ _)
  rw [List.append_nil] at taken
  rw [parse, pretty, String.toList_ofList, tokens_eq (lexes_prettyChars 0 j h)]
  dsimp only
  rw [taken]
  rfl

end ScriptureText.Json
