import Syllabary.Toml.Document

/-!
# Kana tables

A table lists letters of hiragana, katakana and romaji side by side, in nine sections. It is read
from a document, where a row is an array in the order of its fields or a table with their names.

## Main statements

* `check_eq_ok_iff`: a table passes exactly if no row of any section has an empty text.
-/

namespace Syllabary.Kana

/-- A letter or a digraph in all three scripts. -/
structure Row where
  hiragana : Text
  katakana : Text
  romaji : Text
deriving DecidableEq

/-- The sound marks that a halfwidth letter takes. -/
inductive Voicing where
  | plain
  /-- The voiced mark. -/
  | voiced
  /-- The voiced and the semi-voiced mark. -/
  | semiVoiced
deriving DecidableEq

/-- A halfwidth letter. -/
structure HalfwidthRow where
  hiragana : Text
  katakana : Text
  voicing : Voicing
deriving DecidableEq

/-- A punctuation mark. -/
structure PunctuationRow where
  romaji : Text
  kana : Text
deriving DecidableEq

/-- A mark of one script, with what the other script writes for it. -/
structure ExtraRow where
  source : Text
  target : Text
deriving DecidableEq

/-- The sections of a table. -/
inductive Section where
  | kana
  | smallKana
  | digraphs
  | rareKatakana
  | ime
  | halfwidth
  | punctuation
  | katakanaExtra
  | hiraganaExtra
deriving DecidableEq

namespace Section

/-- The sections in their order. -/
def all : List Section :=
  [kana, smallKana, digraphs, rareKatakana, ime, halfwidth, punctuation, katakanaExtra,
    hiraganaExtra]

/-- The name of a section in a document. -/
def name : Section → Text
  | kana => "kana".toList
  | smallKana => "small_kana".toList
  | digraphs => "digraphs".toList
  | rareKatakana => "rare_katakana".toList
  | ime => "ime".toList
  | halfwidth => "halfwidth".toList
  | punctuation => "punctuation".toList
  | katakanaExtra => "katakana_extra".toList
  | hiraganaExtra => "hiragana_extra".toList

theorem mem_all (s : Section) : s ∈ all := by cases s <;> decide

end Section

/-- A kana table. Within a section and between sections, what comes later takes precedence. -/
structure Table where
  kana : List Row
  smallKana : List Row
  digraphs : List Row
  rareKatakana : List Row
  /-- Romaji that is typed but not usual in writing. -/
  ime : List Row
  halfwidth : List HalfwidthRow
  punctuation : List PunctuationRow
  katakanaExtra : List ExtraRow
  hiraganaExtra : List ExtraRow
deriving DecidableEq

/-- Why a text gives no table. -/
inductive TableError where
  /-- The text is no document, or a section is missing or not of its form. -/
  | malformed
  /-- A row of the section has an empty text. -/
  | emptyEntry (s : Section)
deriving DecidableEq

/-- The text that tells a user what is wrong. -/
def TableError.message : TableError → Text
  | .malformed => "TOML parse error".toList
  | .emptyEntry s => "empty entry in [".toList ++ s.name ++ "] table".toList

/-- The texts of a row. -/
def Row.texts (row : Row) : List Text := [row.hiragana, row.katakana, row.romaji]

/-- The texts of a row. -/
def HalfwidthRow.texts (row : HalfwidthRow) : List Text := [row.hiragana, row.katakana]

/-- The texts of a row. -/
def PunctuationRow.texts (row : PunctuationRow) : List Text := [row.romaji, row.kana]

/-- The texts of a row. -/
def ExtraRow.texts (row : ExtraRow) : List Text := [row.source, row.target]

namespace Table

/-- All texts of a section. -/
def texts (table : Table) : Section → List Text
  | .kana => table.kana.flatMap Row.texts
  | .smallKana => table.smallKana.flatMap Row.texts
  | .digraphs => table.digraphs.flatMap Row.texts
  | .rareKatakana => table.rareKatakana.flatMap Row.texts
  | .ime => table.ime.flatMap Row.texts
  | .halfwidth => table.halfwidth.flatMap HalfwidthRow.texts
  | .punctuation => table.punctuation.flatMap PunctuationRow.texts
  | .katakanaExtra => table.katakanaExtra.flatMap ExtraRow.texts
  | .hiraganaExtra => table.hiraganaExtra.flatMap ExtraRow.texts

/-- Refuses a table with an empty text and names the first section that has one. -/
def check (table : Table) : Except TableError Unit :=
  match Section.all.find? fun s => (table.texts s).any List.isEmpty with
  | none => .ok ()
  | some s => .error (.emptyEntry s)

/-- A table passes exactly if no row of any section has an empty text. -/
theorem check_eq_ok_iff (table : Table) :
    table.check = .ok () ↔ ∀ s, ∀ t ∈ table.texts s, t ≠ [] := by
  unfold check
  split
  · next h =>
    simp only [List.find?_eq_none, List.any_eq_true, List.isEmpty_iff, not_exists, not_and] at h
    simp only [true_iff]
    exact fun s t ht => h s s.mem_all t ht
  · next s h =>
    have hs := List.find?_some h
    simp only [List.any_eq_true, List.isEmpty_iff] at hs
    obtain ⟨t, ht, hempty⟩ := hs
    simp only [reduceCtorEq, false_iff]
    exact fun hall => hall s t ht hempty

end Table

/-! ## Reading -/

/-- A field of a row: by its name in a table, by its position in an array. -/
def field? (row : Toml.Value) (position : Nat) (name : String) : Option Toml.Value :=
  match row with
  | .table _ entries => entries.lookup name.toList
  | .array items => items[position]?
  | _ => none

/-- A field that holds a text. -/
def textField? (row : Toml.Value) (position : Nat) (name : String) : Option Text :=
  match field? row position name with
  | some (.string t) => some t
  | _ => none

/-- A voicing by its name. -/
def Voicing.ofName? (name : Text) : Option Voicing :=
  if name = "plain".toList then some .plain
  else if name = "voiced".toList then some .voiced
  else if name = "semi-voiced".toList then some .semiVoiced
  else none

/-- A voicing: its name, or a table with this name as its one key and nothing under it. -/
def Voicing.ofValue? : Toml.Value → Option Voicing
  | .string name => ofName? name
  | .table _ [(name, .table _ [])] => ofName? name
  | .table _ [(name, .array [])] => ofName? name
  | _ => none

/-- A row as a document gives it. Further fields do not count. -/
def Row.ofValue? (row : Toml.Value) : Option Row := do
  return ⟨← textField? row 0 "hiragana", ← textField? row 1 "katakana",
    ← textField? row 2 "romaji"⟩

/-- A halfwidth row as a document gives it. Without a voicing it is plain. -/
def HalfwidthRow.ofValue? (row : Toml.Value) : Option HalfwidthRow := do
  let hiragana ← textField? row 0 "hiragana"
  let katakana ← textField? row 1 "katakana"
  match field? row 2 "voicing" with
  | none => return ⟨hiragana, katakana, .plain⟩
  | some voicing => return ⟨hiragana, katakana, ← Voicing.ofValue? voicing⟩

/-- A punctuation row as a document gives it. -/
def PunctuationRow.ofValue? (row : Toml.Value) : Option PunctuationRow := do
  return ⟨← textField? row 0 "romaji", ← textField? row 1 "kana"⟩

/-- A row of marks as a document gives it. -/
def ExtraRow.ofValue? (row : Toml.Value) : Option ExtraRow := do
  return ⟨← textField? row 0 "from", ← textField? row 1 "to"⟩

/-- The rows of a section: an array, or tables under one header. -/
def rows? {α : Type} (ofValue? : Toml.Value → Option α) (root : Toml.Table) (s : Section) :
    Option (List α) :=
  match root.lookup s.name with
  | some (.array items) => items.mapM ofValue?
  | some (.tables elements) => elements.mapM fun entries => ofValue? (.table .header entries)
  | _ => none

namespace Table

/-- The table of a document. All sections have to be there; anything else does not count. -/
def ofDocument? (root : Toml.Table) : Option Table := do
  return {
    kana := ← rows? Row.ofValue? root .kana
    smallKana := ← rows? Row.ofValue? root .smallKana
    digraphs := ← rows? Row.ofValue? root .digraphs
    rareKatakana := ← rows? Row.ofValue? root .rareKatakana
    ime := ← rows? Row.ofValue? root .ime
    halfwidth := ← rows? HalfwidthRow.ofValue? root .halfwidth
    punctuation := ← rows? PunctuationRow.ofValue? root .punctuation
    katakanaExtra := ← rows? ExtraRow.ofValue? root .katakanaExtra
    hiraganaExtra := ← rows? ExtraRow.ofValue? root .hiraganaExtra }

/-- Reads a table and refuses one with an empty text. -/
def ofToml (t : Text) : Except TableError Table :=
  match (Toml.read? t).bind ofDocument? with
  | none => .error .malformed
  | some table => do
    table.check
    return table

end Table

end Syllabary.Kana
