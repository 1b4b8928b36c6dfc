/-
ScriptureText.Proofs.Settings — what merging does to one entry of the settings.

Setting a key changes the entries under one name and leaves all others alone
(`entries_assignKey`, `entries_put`). What comes of many settings under the
names that one is interested in is therefore decided by those settings that lead
to such a name, whatever the others are (`filter_entries_foldl`). This is said
once and used at both depths: for the keys of a layer, and for the names inside
a group of settings that is merged into another.
-/
import ScriptureText.Config.Loader
import ScriptureText.Proofs.Lowercase
import Mathlib.Data.List.TakeDrop

namespace ScriptureText.Config

open Unicode

namespace Value

/-! ## §1 One setting -/

theorem entries_alterEntry (name : String) (f : Option Value → Value) (root : Value) :
    (root.alterEntry name f).entries = alter (lowercase name) f root.entries := by
  cases root <;> rfl

/-- What an entry becomes when a value is set there: a table is merged into what is there. -/
def merged : Value → Option Value → Value
  | .table _ entries, old => putAll entries (old.getD empty)
  | v, _ => v

theorem put_eq (name : String) (v root : Value) :
    put name v root = root.alterEntry name v.merged := by
  cases v with
  | table o entries => rw [put]; rfl
  | _ => rw [put]; rfl; nofun

theorem entries_put (name : String) (v root : Value) :
    (put name v root).entries = alter (lowercase name) v.merged root.entries := by
  rw [put_eq, entries_alterEntry]

theorem putAll_eq_foldl (settings : List (String × Value)) (root : Value) :
    putAll settings root = settings.foldl (fun root (name, v) => put name v root) root := by
  induction settings generalizing root with
  | nil => rw [putAll]; rfl
  | cons entry rest ih =>
    obtain ⟨name, v⟩ := entry
    rw [putAll, ih]
    rfl

/-- The entries under names of interest after a change: changed if the change is under such a
name, and else as they were. -/
theorem filter_alter (p : String → Bool) (name : String) (f : Option Value → Value)
    (entries : List (String × Value)) : (alter name f entries).filter (p ·.1) =
      if p name then alter name f (entries.filter (p ·.1)) else entries.filter (p ·.1) := by
  induction entries with
  | nil => cases h : p name <;> simp [alter, h]
  | cons entry rest ih =>
    obtain ⟨k, v⟩ := entry
    by_cases hk : k = name
    · subst hk
      cases h : p k <;> simp [alter, h]
    · cases h : p k <;> cases hn : p name <;> simp_all [alter]

theorem lookup_filter {p : String → Bool} {name : String} (h : p name = true)
    (entries : List (String × Value)) :
    (entries.filter (p ·.1)).lookup name = entries.lookup name := by
  induction entries with
  | nil => rfl
  | cons entry rest ih =>
    obtain ⟨k, v⟩ := entry
    cases hp : p k with
    | true => simp [hp, List.lookup_cons, ih]
    | false =>
      have hne : (name == k) = false := by
        rw [beq_eq_false_iff_ne]
        rintro rfl
        rw [h] at hp
        cases hp
      simp [hp, List.lookup_cons, hne, ih]

section Fold

variable {step : Value → String × Value → Value} {name : String → String}

/-- Settings that each change the entries under one name: under names of interest it makes no
difference to leave out those that change other names. -/
theorem filter_entries_foldl (p : String → Bool)
    (changes : ∀ setting, ∃ f, ∀ root : Value,
      (step root setting).entries = alter (name setting.1) f root.entries)
    (settings : List (String × Value)) {root root' : Value}
    (h : root.entries.filter (p ·.1) = root'.entries.filter (p ·.1)) :
    (settings.foldl step root).entries.filter (p ·.1) =
      ((settings.filter fun s => p (name s.1)).foldl step root').entries.filter (p ·.1) := by
  induction settings generalizing root root' with
  | nil => exact h
  | cons setting rest ih =>
    obtain ⟨f, hf⟩ := changes setting
    have change (r : Value) := congrArg (List.filter (p ·.1)) (hf r)
    simp only [filter_alter] at change
    rw [List.filter_cons, List.foldl_cons]
    split <;> rename_i hp
    · refine ih ?_
      rw [change, change, if_pos hp, if_pos hp, h]
    · refine ih ?_
      rw [change, if_neg hp, h]

end Fold

theorem filter_entries_putAll (p : String → Bool) (settings : List (String × Value))
    (root : Value) : (putAll settings root).entries.filter (p ·.1) =
      (putAll (settings.filter fun s => p (lowercase s.1)) root).entries.filter (p ·.1) := by
  rw [putAll_eq_foldl, putAll_eq_foldl]
  have changes (setting : String × Value) : ∃ f, ∀ root : Value,
      (put setting.1 setting.2 root).entries = alter (lowercase setting.1) f root.entries :=
    ⟨setting.2.merged, entries_put setting.1 setting.2⟩
  exact filter_entries_foldl p changes settings rfl

/-! ## §3 Names -/

end Value

end ScriptureText.Config
